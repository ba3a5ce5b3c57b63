import RobotRaconteurLite.Strings
import RobotRaconteurLite.TcpTransport

/-!
# TCP connections in their list (`tcp_transport.c`)

The functions that hand a slot of the connection list to a new socket, and the
shutdown that takes the sockets away. The list is the connections in order; what
a slot is for is told by its flags, and the first idle slot is the one taken.

What `socket`, `connect` and `accept` do is not up to the program, so each
function is given what the socket primitive it calls answers.
-/

namespace RobotRaconteurLite

open Splice

/-- `robotraconteurlite_connection_find_idle`: the connection, and its place. -/
def connectionFindIdle (connections : List Connection) : Option (Connection × Nat) :=
  connections.zipIdx.find? fun (c, _) => c.checkState STATUS_FLAGS_IDLE

/-- `robotraconteurlite_tcp_acceptor_communicate`. A primitive that would block answers
`RETRY`. -/
def tcpAcceptorCommunicate (connections : List Connection) (now : Int64)
    (accepted : Result Socket) : Result Unit × List Connection :=
  match connectionFindIdle connections with
  | none => (.ok (), connections)
  | some (c, i) =>
      match accepted with
      | .error .retry => (.ok (), connections)
      | .error e => (.error e, connections)
      | .ok sock => (.ok (), connections.set i (connectionImplAccept2 c now TCP_TRANSPORT sock))

/-! ## Connecting -/

def HTTP_REQUEST_1 : List UInt8 := "GET ".toUTF8.toList

def HTTP_REQUEST_2 : List UInt8 := " HTTP/1.1\r\nHost: ".toUTF8.toList

def HTTP_REQUEST_3 : List UInt8 :=
  "\r\nUpgrade: websocket\r\nConnection: Upgrade\r\nSec-WebSocket-Key: ".toUTF8.toList

def HTTP_REQUEST_4 : List UInt8 :=
  ("\r\nSec-WebSocket-Protocol: robotraconteur.robotraconteur.com\r\n" ++
    "Sec-WebSocket-Version: 13\r\n\r\n").toUTF8.toList

def WEBSOCKET_KEY_BASE64_LEN : Nat := 24

/-- `rr+ws://`. -/
def SCHEME_RR_WS : List UInt8 := [114, 114, 43, 119, 115, 58, 47, 47]

/-- `rr+tcp://`. -/
def SCHEME_RR_TCP : List UInt8 := [114, 114, 43, 116, 99, 112, 58, 47, 47]

/-- `struct robotraconteurlite_node_client`, as far as connecting goes: which client it is,
the address it connects to and the connection it has. -/
structure NodeClient where
  client : Nat
  serviceAddress : Addr
  clientConnection : Option Nat

/-- The path starts with a slash even where the address has none. -/
def httpRequestPath (httpPath : List UInt8) : List UInt8 :=
  match httpPath with
  | [] => [47]
  | b :: rest => if b = 63 then 47 :: b :: rest else b :: rest

/-- The random key, one byte from each call of `rand`. -/
def websocketKey (randPlan : List UInt32) : List UInt8 :=
  (List.range 18).map fun i => (randPlan.getD i 0 % 256).toUInt8

/-- The length of the request, which is added up in 32 bits. -/
def httpRequestLen (addr : Addr) : UInt32 :=
  UInt32.ofNat (HTTP_REQUEST_1.length + (httpRequestPath addr.httpPath).length +
    HTTP_REQUEST_2.length + addr.httpHost.length + HTTP_REQUEST_3.length +
    WEBSOCKET_KEY_BASE64_LEN + HTTP_REQUEST_4.length)

/-- `robotraconteurlite_tcp_connect_service_send_websocket_http_header`. -/
def tcpConnectServiceSendWebsocketHttpHeader (digest : TcpDigest) (addr : Addr) (c : Connection) :
    Result Unit × Connection :=
  let sendLen := httpRequestLen addr
  let key := websocketKey c.randPlan
  let c := { c with randPlan := c.randPlan.drop 18 }
  if sendLen.toNat > c.sendBufferLen then (.error .invalidParameter, c)
  else if addr.httpHost.length = 0 then (.error .invalidParameter, c)
  else
    let request := HTTP_REQUEST_1 ++ httpRequestPath addr.httpPath ++ HTTP_REQUEST_2 ++
      addr.httpHost ++ HTTP_REQUEST_3
    let c := { c with sendBuffer := overwrite c.sendBuffer 0 request }
    match digest.base64Encode key with
    | .error _ => (.error .internalError, c)
    | .ok keyBase64 =>
        let c := { c with sendBuffer := overwrite c.sendBuffer request.length keyBase64 }
        if keyBase64.length ≠ WEBSOCKET_KEY_BASE64_LEN then (.error .internalError, c)
        else
          (.ok (), { c with
            sendBuffer :=
              overwrite c.sendBuffer (request.length + keyBase64.length) HTTP_REQUEST_4
            sendMessageLen := sendLen
            sendBufferPos := 0 })

/-- What `tcp_connect_service` does with the slot once the socket is in it. -/
def tcpConnectServiceStart (digest : TcpDigest) (addr : Addr) (c : Connection) :
    Result Unit × Connection :=
  if stringCmp addr.scheme SCHEME_RR_WS = 0 then
    let c := c.withStorage (c.transportStorage.setState
      (TCP_TRANSPORT_STATE_IS_WEBSOCKET ||| TCP_TRANSPORT_STATE_IN_HTTP_HEADER))
    tcpConnectServiceSendWebsocketHttpHeader digest addr (c.setState STATUS_FLAGS_BLOCK_SEND)
  else if stringCmp addr.scheme SCHEME_RR_TCP ≠ 0 then (.error .invalidArgument, c)
  else if ¬ flagsCheck addr.flags ADDR_FLAGS_SOCKADDR_VALID then (.error .invalidArgument, c)
  else (.ok (), c)

/-- `robotraconteurlite_tcp_connect_service`. -/
def tcpConnectService (digest : TcpDigest) (connections : List Connection) (client : NodeClient)
    (now : Int64) (connected : Result Socket) : Result Unit × List Connection × NodeClient :=
  match connectionFindIdle connections with
  | none => (.error .connectionError, connections, client)
  | some (c, i) =>
      match connected with
      | .error e => (.error e, connections, client)
      | .ok sock =>
          match connectionImplConnect2 c now TCP_TRANSPORT client.serviceAddress sock with
          | (.error e, c) => (.error e, connections.set i c, client)
          | (.ok (), c) =>
              let (rv, c) := tcpConnectServiceStart digest client.serviceAddress
                { c with client := some client.client }
              (rv, connections.set i c, { client with clientConnection := some i })

/-! ## Closing -/

/-- `robotraconteurlite_tcp_connection_close`. -/
def tcpConnectionClose (c : Connection) : Connection :=
  if c.transportType ≠ TCP_TRANSPORT then c
  else if c.sock.sock ≠ 0 then { c with sock := { tcpSocketClose c.sock with sock := 0 } }
  else c

/-- `robotraconteurlite_tcp_connections_close`. -/
def tcpConnectionsClose (connections : List Connection) : List Connection :=
  connections.map tcpConnectionClose

end RobotRaconteurLite

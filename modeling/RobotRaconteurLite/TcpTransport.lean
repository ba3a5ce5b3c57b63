import RobotRaconteurLite.Connection

/-!
# The TCP transport (`tcp_transport.c`)

The transport moves bytes between a connection's buffers and its socket, either
as they are or inside WebSocket frames, and runs the handshake that decides
which of the two it will be. A server looks at the first four bytes: `RRAC`
starts a message, `GET ` starts an HTTP upgrade request. A client that wants
WebSockets has queued its request and waits for the answer.

Nothing here waits. A call that runs out of bytes or of room to send keeps where
it was in the connection and is called again, so the state machines are the
fields of `TcpTransportStorage`.

SHA-1 and base64 come from the platform's cryptographic library and are
parameters.
-/

namespace RobotRaconteurLite

open Splice LittleEndian

def TCP_TRANSPORT : UInt32 := 0x10001

def TCP_TRANSPORT_STATE_IN_HTTP_HEADER : BitVec 32 := 0x2
def TCP_TRANSPORT_STATE_IS_WEBSOCKET : BitVec 32 := 0x10
def TCP_TRANSPORT_STATE_RECV_WEBSOCKET_IN_FRAME : BitVec 32 := 0x20
def TCP_TRANSPORT_STATE_RECV_WEBSOCKET_ENABLE_MASK : BitVec 32 := 0x40
def TCP_TRANSPORT_STATE_SEND_WEBSOCKET_ENABLE_MASK : BitVec 32 := 0x200

/-- `FLAGS_SET(storage->tcp_transport_state, mask)`. -/
def TcpTransportStorage.setState (s : TcpTransportStorage) (mask : BitVec 32) :
    TcpTransportStorage :=
  { s with tcpTransportState := flagsSet s.tcpTransportState mask }

/-- `FLAGS_CLEAR(storage->tcp_transport_state, mask)`. -/
def TcpTransportStorage.clearState (s : TcpTransportStorage) (mask : BitVec 32) :
    TcpTransportStorage :=
  { s with tcpTransportState := flagsClear s.tcpTransportState mask }

/-- `FLAGS_CHECK(storage->tcp_transport_state, mask)`. -/
def TcpTransportStorage.checkState (s : TcpTransportStorage) (mask : BitVec 32) : Bool :=
  flagsCheck s.tcpTransportState mask

def Connection.withStorage (c : Connection) (s : TcpTransportStorage) : Connection :=
  { c with transportStorage := s }

/-! ## The socket and the buffers -/

/-- A receive into the receive buffer. -/
def tcpConnectionRecv (c : Connection) (len : Nat) : Result Unit × Connection :=
  let run := tcpSocketRecvNonblocking c.sock c.recvBuffer c.recvBufferPos len
  (run.status,
    { c with sock := run.sock, recvBuffer := run.buffer, recvBufferPos := run.pos })

/-- A send out of the send buffer. -/
def tcpConnectionSend (c : Connection) (len : Nat) : Result Unit × Connection :=
  let run := tcpSocketSendNonblocking c.sock c.sendBuffer c.sendBufferPos len
  (run.status, { c with sock := run.sock, sendBufferPos := run.pos })

/-! ## Receiving WebSocket frames -/

/-- `robotraconteurlite_tcp_connection_recv_websocket_header_size`. -/
def tcpConnectionRecvWebsocketHeaderSize (byteTwo : UInt8) : Nat :=
  let len1 := byteTwo &&& 0x7F
  let masked := byteTwo &&& 0x80
  2 + (if len1 = 126 then 2 else 0) + (if len1 = 127 then 8 else 0) +
    (if masked ≠ 0 then 4 else 0)

/-- The loop that masks or unmasks bytes in place, from place `pos` of the frame. -/
def websocketMask (mask : List UInt8) : Nat → List UInt8 → List UInt8
  | _, [] => []
  | pos, b :: bs => (b ^^^ mask.getD (pos % 4) 0) :: websocketMask mask (pos + 1) bs

/-- An integer most significant byte first, as `ntohs` and `be64toh` read it. -/
def beNat (bytes : List UInt8) : Nat := leNat bytes.reverse

/-- A receive into the frame header buffer, up to `size` bytes in all. It answers
whether the header has that many. -/
def tcpConnectionRecvHeader (c : Connection) (size : Nat) : Result Bool × Connection :=
  let s := c.transportStorage
  if s.recvWebsocketHeaderPos < size then
    let run := tcpSocketRecvNonblocking c.sock s.recvWebsocketHeaderBuffer
      s.recvWebsocketHeaderPos (size - s.recvWebsocketHeaderPos)
    let s := { s with
      recvWebsocketHeaderBuffer := run.buffer
      recvWebsocketHeaderPos := run.pos }
    let c := { c with sock := run.sock, transportStorage := s }
    match run.status with
    | .error e => (.error e, c.setState STATUS_FLAGS_ERROR)
    | .ok () => (.ok (!decide (run.pos < size)), c)
  else (.ok true, c)

/-- The frame that just ended is put away. -/
def tcpStorageResetFrame (s : TcpTransportStorage) : TcpTransportStorage :=
  if s.recvWebsocketFramePos = s.recvWebsocketFrameLen ∧
      s.checkState TCP_TRANSPORT_STATE_RECV_WEBSOCKET_IN_FRAME then
    { s with
      recvWebsocketFramePos := 0
      recvWebsocketFrameLen := 0
      recvWebsocketHeaderPos := 0 }.clearState TCP_TRANSPORT_STATE_RECV_WEBSOCKET_IN_FRAME
  else s

section

variable [SizeT]

/-- A complete frame header is read. -/
def tcpStorageParseHeader (s : TcpTransportStorage) (websocketHeaderLen : Nat) :
    TcpTransportStorage :=
  let byteTwo := s.recvWebsocketHeaderBuffer.getD 1 0
  let len1 := byteTwo &&& 0x7F
  let masked := byteTwo &&& 0x80
  let frameLen :=
    if len1 = 126 then beNat (slice s.recvWebsocketHeaderBuffer 2 2)
    else if len1 = 127 then beNat (slice s.recvWebsocketHeaderBuffer 2 8) % SizeT.modulus
    else len1.toNat
  let s := { s with recvWebsocketFrameLen := frameLen }
  let s :=
    if masked ≠ 0 then
      { s with
        recvWebsocketMask :=
          slice s.recvWebsocketHeaderBuffer (websocketHeaderLen - 4) 4 }.setState
        TCP_TRANSPORT_STATE_RECV_WEBSOCKET_ENABLE_MASK
    else s.clearState TCP_TRANSPORT_STATE_RECV_WEBSOCKET_ENABLE_MASK
  s.setState TCP_TRANSPORT_STATE_RECV_WEBSOCKET_IN_FRAME

/-- How many bytes of the current frame are asked for. -/
def tcpConnectionFrameRecvLen (c : Connection) (len : Nat) : Nat :=
  let s := c.transportStorage
  let recvLen :=
    addSz s.recvWebsocketFrameLen (subSz c.recvBufferPos s.recvWebsocketFramePos)
  if recvLen > len then len else recvLen

/-- The payload part of `buffer_recv_websocket`. -/
def tcpConnectionRecvPayload (c : Connection) (len : Nat) : Result Unit × Connection :=
  let prev := c.recvBufferPos
  match tcpConnectionRecv c (tcpConnectionFrameRecvLen c len) with
  | (.error e, c) => (.error e, c.setState STATUS_FLAGS_ERROR)
  | (.ok (), c) =>
      let s := c.transportStorage
      let n := c.recvBufferPos - prev
      let unmasked := websocketMask s.recvWebsocketMask s.recvWebsocketFramePos
        (slice c.recvBuffer prev n)
      let s := { s with recvWebsocketFramePos := s.recvWebsocketFramePos + n }
      (.ok (), { c with
        recvBuffer := overwrite c.recvBuffer prev unmasked
        transportStorage := s })

/-- The first part of `buffer_recv_websocket`: the frame that ended is put away and
the header of the next one received. It answers whether a frame is open. -/
def tcpConnectionOpenFrame (c : Connection) : Result Bool × Connection :=
  let c := c.withStorage (tcpStorageResetFrame c.transportStorage)
  if c.transportStorage.checkState TCP_TRANSPORT_STATE_RECV_WEBSOCKET_IN_FRAME then (.ok true, c)
  else
    match tcpConnectionRecvHeader c 2 with
    | (.error e, c) => (.error e, c)
    | (.ok false, c) => (.ok false, c)
    | (.ok true, c) =>
        let size := tcpConnectionRecvWebsocketHeaderSize
          (c.transportStorage.recvWebsocketHeaderBuffer.getD 1 0)
        match tcpConnectionRecvHeader c size with
        | (.error e, c) => (.error e, c)
        | (.ok false, c) => (.ok false, c)
        | (.ok true, c) =>
            (.ok true, c.withStorage (tcpStorageParseHeader c.transportStorage size))

/-- `robotraconteurlite_tcp_connection_buffer_recv_websocket`. -/
def tcpConnectionBufferRecvWebsocket (c : Connection) (len : Nat) : Result Unit × Connection :=
  match tcpConnectionOpenFrame c with
  | (.error e, c) => (.error e, c)
  | (.ok false, c) => (.ok (), c)
  | (.ok true, c) => tcpConnectionRecvPayload c len

/-- `robotraconteurlite_tcp_connection_buffer_recv`. -/
def tcpConnectionBufferRecv (c : Connection) (len : Nat) : Result Unit × Connection :=
  if c.transportStorage.checkState TCP_TRANSPORT_STATE_IS_WEBSOCKET then
    tcpConnectionBufferRecvWebsocket c len
  else tcpConnectionRecv c len

/-- `robotraconteurlite_tcp_connection_communicate_recv`. -/
def tcpConnectionCommunicateRecv (c : Connection) (now : Int64) : Result Unit × Connection :=
  match connectionImplCommunicateRecv1 c with
  | (.error e, c) => (.error e, c)
  | (.ok recvOpLen, c) =>
      if recvOpLen = 0 then (.ok (), c)
      else
        let (rv, c) := tcpConnectionBufferRecv c recvOpLen
        connectionImplCommunicateRecv2 c now rv

/-! ## Sending WebSocket frames -/

/-- `robotraconteurlite_tcp_websocket_random_mask`. -/
def tcpWebsocketRandomMask (randomVal : UInt32) : List UInt8 :=
  [(randomVal >>> 24).toUInt8, (randomVal >>> 16).toUInt8, (randomVal >>> 8).toUInt8,
    randomVal.toUInt8]

/-- An unsigned 16-bit integer in network order. -/
def beBytes16 (v : UInt16) : List UInt8 := [(v >>> 8).toUInt8, v.toUInt8]

/-- A new frame is prepared: its header, its mask and its place in the buffer. -/
def tcpConnectionPrepareFrame (c : Connection) (len : Nat) : Connection :=
  let s := c.transportStorage
  let sendLen := if len ≥ 65535 then 65535 else len
  let header := overwrite s.sendWebsocketHeaderBuffer 0 [0x82]
  let (header, headerLen) :=
    if len > 125 then
      (overwrite (overwrite header 2 (beBytes16 (UInt16.ofNat len))) 1 [126], 4)
    else (overwrite header 1 [UInt8.ofNat len], 2)
  let s := { s with sendWebsocketHeaderBuffer := header, sendWebsocketHeaderLen := headerLen }
  -- Create mask if client
  let (s, randPlan) :=
    if flagsCheck c.configFlags CONFIG_FLAGS_ISSERVER then (s, c.randPlan)
    else
      let mask := tcpWebsocketRandomMask (c.randPlan.headD 0)
      let header := overwrite header 1 [header.getD 1 0 ||| 0x80]
      let s := { s with
        sendWebsocketHeaderLen := headerLen + 4
        sendWebsocketMask := mask
        sendWebsocketHeaderBuffer := overwrite header headerLen mask }
      (s.setState TCP_TRANSPORT_STATE_SEND_WEBSOCKET_ENABLE_MASK, c.randPlan.tail)
  let s := { s with
    sendWebsocketFrameLen := sendLen
    sendWebsocketFrameBufferEnd := addSz sendLen c.sendBufferPos
    sendWebsocketFrameBufferPos := c.sendBufferPos }
  -- Apply mask to send buffer
  let sendBuffer :=
    if s.checkState TCP_TRANSPORT_STATE_SEND_WEBSOCKET_ENABLE_MASK then
      overwrite c.sendBuffer c.sendBufferPos
        (websocketMask s.sendWebsocketMask 0 (slice c.sendBuffer c.sendBufferPos sendLen))
    else c.sendBuffer
  { c with sendBuffer := sendBuffer, transportStorage := s, randPlan := randPlan }

/-- The rest of the frame header is sent. It answers whether all of it is out. -/
def tcpConnectionSendHeader (c : Connection) : Result Bool × Connection :=
  let s := c.transportStorage
  if s.sendWebsocketHeaderLen > 0 ∧ s.sendWebsocketHeaderPos < s.sendWebsocketHeaderLen then
    let run := tcpSocketSendNonblocking c.sock s.sendWebsocketHeaderBuffer
      s.sendWebsocketHeaderPos (s.sendWebsocketHeaderLen - s.sendWebsocketHeaderPos)
    let s := { s with sendWebsocketHeaderPos := run.pos }
    let c := { c with sock := run.sock, transportStorage := s }
    match run.status with
    | .error e => (.error e, c)
    | .ok () => (.ok (!decide (run.pos < s.sendWebsocketHeaderLen)), c)
  else (.ok true, c)

/-- The frame's payload is sent, and the frame put away when all of it is out. -/
def tcpConnectionSendPayload (c : Connection) (len : Nat) : Result Unit × Connection :=
  let s := c.transportStorage
  if len < s.sendWebsocketFrameLen then (.error .connectionError, c)
  else
    let run := tcpSocketSendNonblocking c.sock c.sendBuffer s.sendWebsocketFrameBufferPos
      (subSz s.sendWebsocketFrameBufferEnd s.sendWebsocketFrameBufferPos)
    let s := { s with sendWebsocketFrameBufferPos := run.pos }
    let c := { c with sock := run.sock, transportStorage := s }
    match run.status with
    | .error e => (.error e, c)
    | .ok () =>
        if s.sendWebsocketFrameBufferPos < s.sendWebsocketFrameBufferEnd then (.ok (), c)
        else
          -- Reset frame
          let s' := { s with
            sendWebsocketFrameLen := 0
            sendWebsocketHeaderLen := 0
            sendWebsocketHeaderPos := 0 }.clearState
              TCP_TRANSPORT_STATE_SEND_WEBSOCKET_ENABLE_MASK
          (.ok (), { c with
            sendBufferPos := s.sendWebsocketFrameBufferEnd, transportStorage := s' })

/-- `robotraconteurlite_tcp_connection_buffer_send_websocket`. -/
def tcpConnectionBufferSendWebsocket (c : Connection) (len : Nat) : Result Unit × Connection :=
  let c :=
    if c.transportStorage.sendWebsocketFrameLen = 0 ∧ len > 0 then
      tcpConnectionPrepareFrame c len
    else c
  match tcpConnectionSendHeader c with
  | (.error e, c) => (.error e, c)
  | (.ok false, c) => (.ok (), c)
  | (.ok true, c) => tcpConnectionSendPayload c len

/-- `robotraconteurlite_tcp_connection_buffer_send`. -/
def tcpConnectionBufferSend (c : Connection) (len : Nat) : Result Unit × Connection :=
  if c.transportStorage.checkState TCP_TRANSPORT_STATE_IS_WEBSOCKET then
    tcpConnectionBufferSendWebsocket c len
  else tcpConnectionSend c len

/-- `robotraconteurlite_tcp_connection_communicate_send`. -/
def tcpConnectionCommunicateSend (c : Connection) (now : Int64) : Result Unit × Connection :=
  match connectionImplCommunicateSend1 c with
  | (.error e, c) => (.error e, c)
  | (.ok sendOpLen, c) =>
      if sendOpLen = 0 then (.ok (), c)
      else
        let (rv, c) := tcpConnectionBufferSend c sendOpLen
        connectionImplCommunicateSend2 c now rv

/-! ## The HTTP upgrade -/

/-- A loop that steps over bytes while a test holds. It answers where it stopped. -/
def scanWhile (p : UInt8 → Bool) : List UInt8 → Nat → Nat
  | [], i => i
  | b :: rest, i => if p b then scanWhile p rest (i + 1) else i

def isNewline (b : UInt8) : Bool := b = 0x0A ∨ b = 0x0D

def isBlank (b : UInt8) : Bool := b = 0x20 ∨ b = 0x09

/-- `robotraconteurlite_tcp_connection_handshake_http_handshake_find_next_line`: the
end of the line at `iNext` and the start of the next one. -/
def tcpHttpFindNextLine (recvData : List UInt8) (iNext : Nat) : Result (Nat × Nat) :=
  let i := scanWhile (fun b => !isNewline b) (recvData.drop iNext) iNext
  if i ≥ recvData.length then .error .connectionError
  else .ok (i, scanWhile isNewline (recvData.drop i) i)

/-- `STRCONST_HTTP_SEC_WEBSOCKET_KEY`. -/
def HTTP_SEC_WEBSOCKET_KEY : List UInt8 := "Sec-WebSocket-Key:".toUTF8.toList

/-- `STRCONST_HTTP_KEY_UUID`. -/
def HTTP_KEY_UUID : List UInt8 := "258EAFA5-E914-47DA-95CA-C5AB0DC85B11".toUTF8.toList

/-- A request to upgrade starts with these bytes. -/
def HTTP_GET : List UInt8 := "GET ".toUTF8.toList

/-- An answer that upgrades starts with these bytes. -/
def HTTP_UPGRADED : List UInt8 := "HTTP/1.1 101".toUTF8.toList

/-- `STRCONST_HTTP_RESPONSE_1`. -/
def HTTP_RESPONSE_1 : List UInt8 :=
  ("HTTP/1.1 101 Switching Protocols\r\nUpgrade: websocket\r\nConnection: Upgrade\r\n" ++
    "Sec-WebSocket-Protocol: robotraconteur.robotraconteur.com\r\n" ++
    "Sec-WebSocket-Version: 13\r\nSec-WebSocket-Accept: ").toUTF8.toList

/-- `STRCONST_HTTP_RESPONSE_2`. -/
def HTTP_RESPONSE_2 : List UInt8 := "\r\n\r\n".toUTF8.toList

/-- The loop over the header lines: where the value of the key line starts, with
the start of that line. The fuel is one unit for every line, and no line is
shorter than its newline. -/
def tcpHttpFindKeyLine (recvData : List UInt8) : Nat → Nat → Result (Nat × Nat)
  | 0, _ => .error .undefined
  | fuel + 1, iNext =>
      if ¬ iNext < recvData.length then .error .connectionError
      else if iNext + 18 < recvData.length ∧
          slice recvData iNext 18 = HTTP_SEC_WEBSOCKET_KEY then .ok (iNext + 18, iNext)
      else do
        let (_, iNext) ← tcpHttpFindNextLine recvData iNext
        tcpHttpFindKeyLine recvData fuel iNext

/-- The client's key, out of a complete request. -/
def tcpHttpClientKey (recvData : List UInt8) : Result (List UInt8) := do
  -- Skip first line of receive data
  let (_, iNext) ← tcpHttpFindNextLine recvData 0
  let (iKey, iNext) ← tcpHttpFindKeyLine recvData (recvData.length + 1) iNext
  -- Find end of sec key line
  let (iEnd, _) ← tcpHttpFindNextLine recvData iNext
  -- Skip any whitespace
  let iKey := scanWhile isBlank (slice recvData iKey (iEnd - iKey)) iKey
  let iKeyEnd := scanWhile (fun b => !isBlank b) (slice recvData iKey (iEnd - iKey)) iKey
  -- Check the client key length
  if iKeyEnd - iKey ≠ 24 then .error .connectionError
  else .ok (slice recvData iKey 24)

/-- The platform's `robotraconteurlite_tcp_sha1` and
`robotraconteurlite_tcp_base64_encode`. -/
structure TcpDigest where
  sha1 : List UInt8 → Result (List UInt8)
  base64Encode : List UInt8 → Result (List UInt8)

/-- A digest for runs that never get as far as the key. -/
def noDigest : TcpDigest := ⟨.ok, .ok⟩

/-- The `Sec-WebSocket-Accept` value for a client's key. -/
def tcpHttpAcceptKey (digest : TcpDigest) (key : List UInt8) : Result (List UInt8) :=
  match digest.sha1 (key ++ HTTP_KEY_UUID) with
  | .error _ => .error .internalError
  | .ok sha1Bytes =>
      match digest.base64Encode sha1Bytes with
      | .error _ => .error .internalError
      | .ok sha1Base64 => if sha1Base64.length = 28 then .ok sha1Base64 else .error .undefined

/-- `robotraconteurlite_tcp_connection_handshake_http_handshake`. -/
def tcpConnectionHandshakeHttpHandshake (digest : TcpDigest) (c : Connection) :
    Result Unit × Connection :=
  match tcpHttpClientKey (c.recvBuffer.take c.recvBufferPos) >>= tcpHttpAcceptKey digest with
  | .error e => (.error e, c)
  | .ok accept =>
      let response := HTTP_RESPONSE_1 ++ accept ++ HTTP_RESPONSE_2
      if c.sendBufferLen < response.length then (.error .undefined, c)
      else
        let c := { c with
          recvBufferPos := 0
          sendBufferPos := 0
          sendBuffer := overwrite c.sendBuffer 0 response
          sendMessageLen := UInt32.ofNat response.length }
        tcpConnectionSend c (subSz c.sendMessageLen.toNat c.sendBufferPos)

/-- The header ends with a blank line, in one of its four spellings. -/
def httpHeaderEnds (recvBuffer : List UInt8) (pos : Nat) : Bool :=
  (pos ≥ 4 && (slice recvBuffer (pos - 4) 4 == [0x0D, 0x0A, 0x0D, 0x0A] ||
    slice recvBuffer (pos - 4) 4 == [0x0A, 0x0D, 0x0A, 0x0D])) ||
  (pos ≥ 2 && (slice recvBuffer (pos - 2) 2 == [0x0A, 0x0A] ||
    slice recvBuffer (pos - 2) 2 == [0x0D, 0x0D]))

/-- The loop of `robotraconteurlite_tcp_connection_handshake_http_recv_header`. Each
turn that goes on has received a byte, so the receive buffer's length is fuel
enough. -/
def tcpConnectionHandshakeHttpRecvHeaderLoop : Nat → Connection → Result Unit × Connection
  | 0, c => (.error .connectionError, c)
  | fuel + 1, c =>
      if ¬ c.recvBufferPos < c.recvBufferLen then (.error .connectionError, c)
      else
        let last := c.recvBufferPos
        match tcpConnectionRecv c (c.recvBufferPos + 1) with
        | (.error e, c) => (.error e, c.setState STATUS_FLAGS_ERROR)
        | (.ok (), c) =>
            if c.recvBufferPos = last then (.error .consumed, c)
            else if httpHeaderEnds c.recvBuffer c.recvBufferPos then (.ok (), c)
            else tcpConnectionHandshakeHttpRecvHeaderLoop fuel c

/-- `robotraconteurlite_tcp_connection_handshake_http_recv_header`. -/
def tcpConnectionHandshakeHttpRecvHeader (c : Connection) : Result Unit × Connection :=
  tcpConnectionHandshakeHttpRecvHeaderLoop (c.recvBufferLen - c.recvBufferPos + 1) c

/-! ## The handshake -/

/-- The connection is established over WebSockets. -/
def Connection.connectedWebsocket (c : Connection) : Connection :=
  let c := (c.setState (STATUS_FLAGS_CONNECTED ||| STATUS_FLAGS_RECEIVE_REQUESTED)).clearState
    (STATUS_FLAGS_CONNECTING ||| STATUS_FLAGS_BLOCK_SEND ||| STATUS_FLAGS_SENDING |||
      STATUS_FLAGS_SEND_REQUESTED)
  { c with
    transportStorage := c.transportStorage.setState TCP_TRANSPORT_STATE_IS_WEBSOCKET
    sendBufferPos := 0
    sendMessageLen := 0 }

/-- The part of `robotraconteurlite_tcp_connection_handshake_server` that knows the
peer speaks HTTP. -/
def tcpConnectionHandshakeServerHttp (digest : TcpDigest) (c : Connection) :
    Result Unit × Connection :=
  match tcpConnectionHandshakeHttpRecvHeader c with
  | (.error .retry, c) => (.error .retry, c)
  | (.error e, c) => (.error e, c.setState STATUS_FLAGS_ERROR)
  | (.ok (), c) =>
      match tcpConnectionHandshakeHttpHandshake digest c with
      | (.error e, c) => (.error e, c.setState STATUS_FLAGS_ERROR)
      | (.ok (), c) =>
          let c := c.setState STATUS_FLAGS_SENDING
          -- Check if the response was sent
          if c.sendMessageLen > 0 ∧ c.sendBufferPos = c.sendMessageLen.toNat then
            (.ok (), c.connectedWebsocket)
          else (.error .consumed, c)

/-- The part of `robotraconteurlite_tcp_connection_handshake_server` that looks at the
first four bytes. -/
def tcpConnectionHandshakeServerFirst (digest : TcpDigest) (c : Connection) :
    Result Unit × Connection :=
  -- Check if first 4 bytes are RRAC
  if slice c.recvBuffer 0 4 = rracMagic then
    let c := c.withStorage (c.transportStorage.clearState TCP_TRANSPORT_STATE_IS_WEBSOCKET)
    (.ok (), (c.setState (STATUS_FLAGS_CONNECTED ||| STATUS_FLAGS_RECEIVE_REQUESTED)).clearState
      STATUS_FLAGS_CONNECTING)
  -- Check if first 4 bytes are GET
  else if slice c.recvBuffer 0 4 = HTTP_GET then
    tcpConnectionHandshakeServerHttp digest
      (c.withStorage (c.transportStorage.setState TCP_TRANSPORT_STATE_IS_WEBSOCKET))
  -- Unknown header
  else (.error .connectionError, c)

/-- `robotraconteurlite_tcp_connection_handshake_server`. -/
def tcpConnectionHandshakeServer (digest : TcpDigest) (c : Connection) :
    Result Unit × Connection :=
  if ¬ c.checkState STATUS_FLAGS_CONNECTING then (.ok (), c)
  else if c.sendMessageLen > 0 then
    match tcpConnectionSend c (subSz c.sendMessageLen.toNat c.sendBufferPos) with
    | (.error .retry, c) => (.error .retry, c)
    | (.error e, c) => (.error e, c.setState STATUS_FLAGS_ERROR)
    | (.ok (), c) =>
        if c.sendBufferPos < c.sendMessageLen.toNat then (.error .consumed, c)
        else (.ok (), c.connectedWebsocket)
  else if c.recvBufferPos < 4 then
    match tcpConnectionRecv c 4 with
    | (.error e, c) => (.error e, c.setState STATUS_FLAGS_ERROR)
    | (.ok (), c) =>
        if c.recvBufferPos < 4 then (.error .consumed, c)
        else tcpConnectionHandshakeServerFirst digest c
  else tcpConnectionHandshakeServerFirst digest c

/-- The part of `robotraconteurlite_tcp_connection_handshake_client` that waits for the
server's answer. -/
def tcpConnectionHandshakeClientReply (c : Connection) : Result Unit × Connection :=
  match tcpConnectionHandshakeHttpRecvHeader (c.clearState STATUS_FLAGS_SENDING) with
  | (.error .retry, c) => (.error .retry, c)
  | (.error .consumed, c) => (.error .consumed, c)
  | (.error e, c) => (.error e, c.setState STATUS_FLAGS_ERROR)
  | (.ok (), c) =>
      -- Make sure we actually upgraded
      if slice c.recvBuffer 0 12 ≠ HTTP_UPGRADED then
        (.error .connectionError, c)
      else
        let c := c.connectedWebsocket
        (.ok (), { c with
          transportStorage := c.transportStorage.clearState TCP_TRANSPORT_STATE_IN_HTTP_HEADER
          recvBufferPos := 0
          recvMessageLen := 0 })

/-- `robotraconteurlite_tcp_connection_handshake_client`. -/
def tcpConnectionHandshakeClient (c : Connection) : Result Unit × Connection :=
  if ¬ c.checkState STATUS_FLAGS_CONNECTING then (.ok (), c)
  else if ¬ c.transportStorage.checkState TCP_TRANSPORT_STATE_IS_WEBSOCKET then
    -- No handshake for raw sockets
    (.ok (), c)
  else if c.sendMessageLen > 0 then
    -- Send data left in buffer
    match tcpConnectionSend c (subSz c.sendMessageLen.toNat c.sendBufferPos) with
    | (.error e, c) => (.error e, c.setState STATUS_FLAGS_ERROR)
    | (.ok (), c) =>
        if c.sendBufferPos < c.sendMessageLen.toNat then
          (.error .consumed, c.setState STATUS_FLAGS_SENDING)
        else tcpConnectionHandshakeClientReply c
  else tcpConnectionHandshakeClientReply c

/-- `robotraconteurlite_tcp_connection_handshake`. -/
def tcpConnectionHandshake (digest : TcpDigest) (c : Connection) : Result Unit × Connection :=
  if ¬ c.checkState STATUS_FLAGS_CONNECTING then (.ok (), c)
  else if flagsCheck c.configFlags CONFIG_FLAGS_ISSERVER then
    tcpConnectionHandshakeServer digest c
  else tcpConnectionHandshakeClient c

/-- The end of `communicate_process_control`: a client asks whether its socket is
connected yet. -/
def tcpConnectionCheckConnected (c : Connection) : Result Unit × Connection :=
  if ¬ flagsCheck c.configFlags CONFIG_FLAGS_ISSERVER ∧
      ¬ c.checkState STATUS_FLAGS_CLIENT_SOCKET_CONNECTED then
    let (rv, sock) := tcpSocketIsConnectionComplete c.sock
    let c := { c with sock := sock }
    match rv with
    | .error .retry => (.error .retry, c)
    -- The flag is set in the other word.
    | .error e => (.error e,
        { c with configFlags := flagsSet c.configFlags STATUS_FLAGS_ERROR })
    | .ok () => (.ok (), c.setState
        (STATUS_FLAGS_CLIENT_SOCKET_CONNECTED ||| STATUS_FLAGS_RECEIVE_REQUESTED))
  else (.ok (), c)

/-- `robotraconteurlite_tcp_connection_communicate_process_control`. -/
def tcpConnectionCommunicateProcessControl (digest : TcpDigest) (c : Connection) :
    Result Unit × Connection :=
  match connectionImplCommunicateProcessControl c TCP_TRANSPORT with
  | (.error e, c) => (.error e, c)
  | (.ok closeRequested, c) =>
      if closeRequested then
        connectionImplCommunicateAfterCloseRequested { c with sock := tcpSocketClose c.sock }
      else
        match tcpConnectionHandshake digest c with
        | (.error e, c) => (.error e, c)
        | (.ok (), c) => tcpConnectionCheckConnected c

end

end RobotRaconteurLite

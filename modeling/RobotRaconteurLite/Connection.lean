import RobotRaconteurLite.Message.Writer
import RobotRaconteurLite.Socket

/-!
# Connections (`connection.c`)

A connection is two buffers, a position in each, and a word of flags that says
what may happen next. A transport drives it in pairs of calls: `recv1` says how
many bytes to ask for, the transport receives them, `recv2` looks at what came;
and the same with `send1` and `send2`.

Every function takes the connection and answers its status and the connection
it leaves, so a failing call can be asked what it changed. A buffer is the list
of its bytes. The C only ever writes below `recv_buffer_len`, or it is wrong,
and a list that came out longer than that is how it shows here.
-/

namespace RobotRaconteurLite

open Splice LittleEndian

/-! ## Flags -/

def CONFIG_FLAGS_ISSERVER : BitVec 32 := 0x1
def CONFIG_FLAGS_ENABLE_REDUCED_HEADER4 : BitVec 32 := 0x2

def STATUS_FLAGS_IDLE : BitVec 32 := 0x1
def STATUS_FLAGS_CONNECTED : BitVec 32 := 0x2
def STATUS_FLAGS_CONNECTING : BitVec 32 := 0x4
def STATUS_FLAGS_CLOSING : BitVec 32 := 0x8
def STATUS_FLAGS_CLOSED : BitVec 32 := 0x10
def STATUS_FLAGS_ERROR : BitVec 32 := 0x20
def STATUS_FLAGS_RECEIVE_REQUESTED : BitVec 32 := 0x40
def STATUS_FLAGS_SEND_REQUESTED : BitVec 32 := 0x100
def STATUS_FLAGS_SENDING : BitVec 32 := 0x200
def STATUS_FLAGS_MESSAGE_RECEIVED : BitVec 32 := 0x400
def STATUS_FLAGS_MESSAGE_CONSUMED : BitVec 32 := 0x800
def STATUS_FLAGS_BLOCK_SEND : BitVec 32 := 0x1000
def STATUS_FLAGS_MESSAGE_SENT : BitVec 32 := 0x2000
def STATUS_FLAGS_ESTABLISHED : BitVec 32 := 0x4000
def STATUS_FLAGS_CLIENT_ESTABLISHED : BitVec 32 := 0x8000
def STATUS_FLAGS_CLOSE_REQUESTED : BitVec 32 := 0x10000
def STATUS_FLAGS_CLOSED_CONSUMED : BitVec 32 := 0x20000
def STATUS_FLAGS_MESSAGE_SENT_CONSUMED : BitVec 32 := 0x40000
def STATUS_FLAGS_CONNECTED_CONSUMED : BitVec 32 := 0x80000
def STATUS_FLAGS_SEND_MESSAGE4 : BitVec 32 := 0x100000
def STATUS_FLAGS_CLOSE_NOTIFIED : BitVec 32 := 0x200000
def STATUS_FLAGS_CLIENT_SOCKET_CONNECTED : BitVec 32 := 0x400000
def STATUS_FLAGS_CLIENT_SOCKET_CONNECTED_CONSUMED : BitVec 32 := 0x800000

/-! ## The connection -/

/-- `struct robotraconteurlite_tcp_transport_storage`. -/
structure TcpTransportStorage where
  tcpTransportState : BitVec 32
  recvWebsocketFramePos : Nat
  recvWebsocketFrameLen : Nat
  recvWebsocketHeaderPos : Nat
  sendWebsocketHeaderPos : Nat
  recvWebsocketMask : List UInt8
  recvWebsocketHeaderBuffer : List UInt8
  sendWebsocketHeaderBuffer : List UInt8
  sendWebsocketFrameLen : Nat
  sendWebsocketFrameBufferPos : Nat
  sendWebsocketFrameBufferEnd : Nat
  sendWebsocketHeaderLen : Nat
  sendWebsocketMask : List UInt8
  deriving DecidableEq, Repr

/-- `memset` of the transport storage to zero. -/
def TcpTransportStorage.zero : TcpTransportStorage where
  tcpTransportState := 0
  recvWebsocketFramePos := 0
  recvWebsocketFrameLen := 0
  recvWebsocketHeaderPos := 0
  sendWebsocketHeaderPos := 0
  recvWebsocketMask := List.replicate 4 0
  recvWebsocketHeaderBuffer := List.replicate 16 0
  sendWebsocketHeaderBuffer := List.replicate 8 0
  sendWebsocketFrameLen := 0
  sendWebsocketFrameBufferPos := 0
  sendWebsocketFrameBufferEnd := 0
  sendWebsocketHeaderLen := 0
  sendWebsocketMask := List.replicate 4 0

/-- `struct robotraconteurlite_user_storage`. -/
structure UserStorage where
  userDataTypeCode : UInt32
  userData : Option Nat
  deriving DecidableEq, Repr

/-- `struct robotraconteurlite_connection`. A pointer to a service or to a client is
the number of the object it points to. `randPlan` is what the coming calls of `rand`
answer. -/
structure Connection where
  transportType : UInt32
  sock : Socket
  sendBuffer : List UInt8
  recvBuffer : List UInt8
  sendBufferLen : Nat
  recvBufferLen : Nat
  sendBufferPos : Nat
  recvBufferPos : Nat
  configFlags : BitVec 32
  connectionState : BitVec 32
  heartbeatPeriodMs : Int32
  heartbeatTimeoutMs : Int32
  heartbeatNextCheckUs : Int64
  localEndpoint : UInt32
  remoteEndpoint : UInt32
  remoteNodeid : NodeId
  remoteNodename : List UInt8
  remoteServiceName : List UInt8
  lastRecvMessageTime : Int64
  lastSendMessageTime : Int64
  lastRequestId : UInt32
  messageFlagsInvMask : BitVec 8
  recvMessageLen : UInt32
  sendMessageLen : UInt32
  transportStorage : TcpTransportStorage
  userStorage : UserStorage
  transportNextWake : Int64
  service : Option Nat
  client : Option Nat
  randPlan : List UInt32
  deriving DecidableEq

/-- `FLAGS_SET(connection->connection_state, mask)`. -/
def Connection.setState (c : Connection) (mask : BitVec 32) : Connection :=
  { c with connectionState := flagsSet c.connectionState mask }

/-- `FLAGS_CLEAR(connection->connection_state, mask)`. -/
def Connection.clearState (c : Connection) (mask : BitVec 32) : Connection :=
  { c with connectionState := flagsClear c.connectionState mask }

/-- `FLAGS_CHECK(connection->connection_state, mask)`. -/
def Connection.checkState (c : Connection) (mask : BitVec 32) : Bool :=
  flagsCheck c.connectionState mask

theorem Connection.checkState_setState {c : Connection} {m n : BitVec 32} (h : m &&& n = 0#32) :
    (c.setState m).checkState n = c.checkState n :=
  flagsCheck_set_of_disjoint h

theorem Connection.checkState_setState_of_overlap {c : Connection} {m n : BitVec 32}
    (h : m &&& n ≠ 0#32) : (c.setState m).checkState n = true :=
  flagsCheck_set_of_overlap h

theorem Connection.checkState_clearState {c : Connection} {m n : BitVec 32}
    (h : m &&& n = 0#32) : (c.clearState m).checkState n = c.checkState n :=
  flagsCheck_clear_of_disjoint h

theorem Connection.checkState_clearState_of_subset {c : Connection} {m n : BitVec 32}
    (h : ~~~m &&& n = 0#32) : (c.clearState m).checkState n = false :=
  flagsCheck_clear_of_subset h

/-- `robotraconteurlite_connection_is_error`, the event `node_next_event` reports. -/
def connectionIsError (c : Connection) : Bool :=
  c.checkState STATUS_FLAGS_ERROR &&
    !c.checkState (STATUS_FLAGS_CLOSED ||| STATUS_FLAGS_CLOSE_REQUESTED)

/-- `robotraconteurlite_connection_reset`, which cannot fail. -/
def connectionReset (c : Connection) : Connection :=
  { c with
    transportType := 0
    sock := { c.sock with sock := 0, flags := 0 }
    configFlags := CONFIG_FLAGS_ENABLE_REDUCED_HEADER4
    connectionState := STATUS_FLAGS_IDLE
    recvBufferPos := 0
    recvMessageLen := 0
    sendBufferPos := 0
    sendMessageLen := 0
    localEndpoint := 0
    remoteEndpoint := 0
    remoteNodeid := NodeId.any
    messageFlagsInvMask := 0 }

/-- `robotraconteurlite_connection_construct`, for a connection that is in no list yet,
and the buffers the application gives it. -/
def connectionConstruct (sendBuffer recvBuffer : List UInt8) : Connection where
  transportType := 0
  sock := ⟨0, [], [], [], [], [], 0, []⟩
  sendBuffer := sendBuffer
  recvBuffer := recvBuffer
  sendBufferLen := sendBuffer.length
  recvBufferLen := recvBuffer.length
  sendBufferPos := 0
  recvBufferPos := 0
  configFlags := 0
  connectionState := 0
  heartbeatPeriodMs := 5000
  heartbeatTimeoutMs := 15000
  heartbeatNextCheckUs := 0
  localEndpoint := 0
  remoteEndpoint := 0
  remoteNodeid := NodeId.any
  remoteNodename := []
  remoteServiceName := []
  lastRecvMessageTime := 0
  lastSendMessageTime := 0
  lastRequestId := 0
  messageFlagsInvMask := 0
  recvMessageLen := 0
  sendMessageLen := 0
  transportStorage := TcpTransportStorage.zero
  userStorage := ⟨0, none⟩
  transportNextWake := 0
  service := none
  client := none
  randPlan := []

/-- `robotraconteurlite_connection_init`. -/
def connectionInit (c : Connection) : Connection :=
  { connectionReset c with
    heartbeatPeriodMs := 5000
    heartbeatTimeoutMs := 15000 }

/-- `robotraconteurlite_connection_impl_accept2`. -/
def connectionImplAccept2 (c : Connection) (now : Int64) (transportType : UInt32)
    (sock : Socket) : Connection :=
  { c with
    transportType := transportType
    sock := { sock with flags := SOCKET_FLAGS_ACTIVE }
    configFlags := flagsSet c.configFlags CONFIG_FLAGS_ISSERVER
    connectionState := STATUS_FLAGS_CONNECTING
    lastRecvMessageTime := now
    lastSendMessageTime := now
    transportStorage := TcpTransportStorage.zero }

def MESSAGE_STR_MAX_SIZE : Nat := 128

def ADDR_FLAGS_SOCKADDR_VALID : BitVec 32 := 0x1

/-- `struct robotraconteurlite_addr`, without the URL it was parsed from. The
`socket_addr` is opaque to the library. -/
structure Addr where
  scheme : List UInt8
  socketAddr : List UInt8
  nodeid : NodeId
  nodename : List UInt8
  serviceName : List UInt8
  flags : BitVec 32
  httpHost : List UInt8
  httpPath : List UInt8
  deriving DecidableEq

/-- `robotraconteurlite_string_copy_to_buffer_storage`, for a string that is there. -/
def stringCopyToBufferStorage (source : List UInt8) (bufferStorageLen : Nat) :
    Result (List UInt8) :=
  if source.length > bufferStorageLen then .error .invalidArgument else .ok source

/-- `robotraconteurlite_connection_impl_connect2`. -/
def connectionImplConnect2 (c : Connection) (now : Int64) (transportType : UInt32) (addr : Addr)
    (sock : Socket) : Result Unit × Connection :=
  let c := { c with
    transportType := transportType
    configFlags := flagsClear c.configFlags CONFIG_FLAGS_ISSERVER
    sock := { sock with flags := SOCKET_FLAGS_ACTIVE }
    connectionState := STATUS_FLAGS_CONNECTING
    transportStorage := TcpTransportStorage.zero
    lastRecvMessageTime := now
    lastSendMessageTime := now
    remoteNodeid := addr.nodeid }
  match stringCopyToBufferStorage addr.nodename MESSAGE_STR_MAX_SIZE with
  | .error _ => (.error .internalError, c)
  | .ok nodename =>
      let c := { c with remoteNodename := nodename }
      match stringCopyToBufferStorage addr.serviceName MESSAGE_STR_MAX_SIZE with
      | .error _ => (.error .internalError, c)
      | .ok serviceName => (.ok (), { c with remoteServiceName := serviceName })

/-! ## Receiving -/

/-- A message starts with these bytes. -/
def rracMagic : List UInt8 := [0x52, 0x52, 0x41, 0x43]

/-- `robotraconteurlite_util_read_uint32`. -/
def utilReadUint32 (buffer : List UInt8) (pos : Nat) : UInt32 :=
  UInt32.ofNat (leNat (slice buffer pos 4))

/-- `robotraconteurlite_util_read_uint16`. -/
def utilReadUint16 (buffer : List UInt8) (pos : Nat) : UInt16 :=
  UInt16.ofNat (leNat (slice buffer pos 2))

/-- The connection broke: the error is flagged and nothing more is asked for. -/
def Connection.failReceive (c : Connection) : Connection :=
  (c.setState STATUS_FLAGS_ERROR).clearState STATUS_FLAGS_RECEIVE_REQUESTED

/-- `robotraconteurlite_connection_verify_preamble`. Its out-parameter is the
connection's own `recv_message_len` at the only call. -/
def connectionVerifyPreamble (c : Connection) : Result Unit × Connection :=
  if c.recvBufferPos ≥ 12 ∧ c.recvMessageLen = 0 then
    -- Check the message RRAC
    if slice c.recvBuffer 0 4 ≠ rracMagic then (.error .connectionError, c.failReceive)
    else
      let c := { c with recvMessageLen := utilReadUint32 c.recvBuffer 4 }
      -- Check the message version
      let messageVersion := utilReadUint16 c.recvBuffer 8
      if messageVersion ≠ 2 ∧ messageVersion ≠ 4 then
        (.error .connectionError, c.failReceive)
      else (.ok (), c)
  else (.ok (), c)

/-- `robotraconteurlite_connection_message_receive_consume`. -/
def connectionMessageReceiveConsume (c : Connection) : Result Unit × Connection :=
  if ¬ c.checkState STATUS_FLAGS_MESSAGE_RECEIVED then (.error .invalidOperation, c)
  else (.ok (), c.setState STATUS_FLAGS_MESSAGE_CONSUMED)

section

variable [SizeT]

/-- `robotraconteurlite_connection_message_receive`: a reader over the received
part of the buffer, as one segment. -/
def connectionMessageReceive (c : Connection) (messageReader : MessageReader) :
    Result MessageReader :=
  if ¬ c.checkState STATUS_FLAGS_MESSAGE_RECEIVED ∨
      c.checkState STATUS_FLAGS_MESSAGE_CONSUMED then .error .retry
  else if h : 2 * [c.recvBuffer.take c.recvBufferPos].flatten.length < SizeT.modulus then
    match messageReaderInit messageReader ⟨[c.recvBuffer.take c.recvBufferPos], h⟩ 0
        c.recvBufferPos with
    | .ok messageReader => .ok messageReader
    | .error _ => .error .internalError
  else .error .undefined

/-- `robotraconteurlite_connection_impl_communicate_recv1`, after the error check:
the consumed message is taken out of the buffer. -/
def connectionCompact (c : Connection) : Connection :=
  if c.checkState STATUS_FLAGS_MESSAGE_CONSUMED then
    let len := c.recvMessageLen.toNat
    let recvBuffer :=
      if c.recvBufferPos > len then
        overwrite c.recvBuffer 0 (slice c.recvBuffer len (c.recvBufferPos - len))
      else c.recvBuffer
    let c := { c with
      recvBuffer := recvBuffer
      recvBufferPos := subSz c.recvBufferPos len
      recvMessageLen := 0 }
    (c.clearState (STATUS_FLAGS_MESSAGE_CONSUMED ||| STATUS_FLAGS_MESSAGE_RECEIVED)).setState
      STATUS_FLAGS_RECEIVE_REQUESTED
  else c

/-- How many bytes `communicate_recv1` asks for. -/
def connectionRecvOpLen (c : Connection) : Nat :=
  if c.checkState STATUS_FLAGS_RECEIVE_REQUESTED then
    if c.recvMessageLen = 0 then 64 else subSz c.recvBufferLen c.recvBufferPos
  else 0

/-- `robotraconteurlite_connection_impl_communicate_recv1`: the status, the
number of bytes to receive, and the connection. -/
def connectionImplCommunicateRecv1 (c : Connection) : Result Nat × Connection :=
  if c.checkState STATUS_FLAGS_ERROR then (.error .connectionError, c)
  else
    let c := connectionCompact c
    (.ok (connectionRecvOpLen c), c)

/-- `robotraconteurlite_connection_impl_communicate_recv2`. -/
def connectionImplCommunicateRecv2 (c : Connection) (now : Int64) (recvOpRv : Result Unit) :
    Result Unit × Connection :=
  match recvOpRv with
  | .error e => (.error e, c.failReceive)
  | .ok () =>
      match connectionVerifyPreamble c with
      | (.error _, c) => (.error .connectionError, c.failReceive)
      | (.ok (), c) =>
          -- The entire message is there
          if c.recvMessageLen > 0 ∧ c.recvBufferPos ≥ c.recvMessageLen.toNat then
            let c := (c.clearState STATUS_FLAGS_RECEIVE_REQUESTED).setState
              STATUS_FLAGS_MESSAGE_RECEIVED
            (.ok (), { c with lastRecvMessageTime := now })
          else (.ok (), c)

/-! ## Sending -/

/-- `robotraconteurlite_connection_begin_send_message`: a writer over the send buffer,
as one segment. The count is `send_buffer_pos`, as the C has it. -/
def connectionBeginSendMessage (c : Connection) (messageWriter : MessageWriter) :
    Result MessageWriter :=
  if c.checkState (STATUS_FLAGS_ERROR ||| STATUS_FLAGS_CLOSED |||
        STATUS_FLAGS_CLOSE_REQUESTED ||| STATUS_FLAGS_IDLE) ∨
      ¬ c.checkState STATUS_FLAGS_CONNECTED then .error .invalidOperation
  else if c.checkState (STATUS_FLAGS_SEND_REQUESTED ||| STATUS_FLAGS_SENDING |||
      STATUS_FLAGS_MESSAGE_SENT ||| STATUS_FLAGS_MESSAGE_SENT_CONSUMED |||
      STATUS_FLAGS_BLOCK_SEND) then .error .retry
  else if h : 2 * [c.sendBuffer.take c.sendBufferLen].flatten.length < SizeT.modulus then
    let messageVersion : UInt16 := if c.checkState STATUS_FLAGS_SEND_MESSAGE4 then 4 else 2
    match (messageWriterInit messageWriter 0 c.sendBufferPos messageVersion).run
        ⟨[c.sendBuffer.take c.sendBufferLen], h⟩ with
    | (.ok messageWriter, _) => .ok messageWriter
    | (.error _, _) => .error .internalError
  else .error .undefined

/-- `robotraconteurlite_connection_end_send_message`. -/
def connectionEndSendMessage (c : Connection) (messageLen : Nat) : Connection :=
  { c with sendMessageLen := UInt32.ofNat messageLen }.setState STATUS_FLAGS_SEND_REQUESTED

/-- `robotraconteurlite_connection_is_message_sent_event`. -/
def connectionIsMessageSentEvent (c : Connection) : Bool :=
  c.checkState STATUS_FLAGS_MESSAGE_SENT && !c.checkState STATUS_FLAGS_MESSAGE_SENT_CONSUMED

/-- `robotraconteurlite_connection_consume_message_sent`. -/
def connectionConsumeMessageSent (c : Connection) : Connection :=
  c.setState STATUS_FLAGS_MESSAGE_SENT_CONSUMED

/-- `robotraconteurlite_connection_impl_communicate_send1`: the status, the
number of bytes to send, and the connection. -/
def connectionImplCommunicateSend1 (c : Connection) : Result Nat × Connection :=
  if c.checkState STATUS_FLAGS_ERROR then (.error .connectionError, c)
  else if c.checkState STATUS_FLAGS_MESSAGE_SENT_CONSUMED then
    let c := c.clearState (STATUS_FLAGS_MESSAGE_SENT_CONSUMED ||| STATUS_FLAGS_MESSAGE_SENT)
    (.ok 0, { c with sendBufferPos := 0, sendMessageLen := 0 })
  else if c.checkState STATUS_FLAGS_SEND_REQUESTED then
    (.ok c.sendMessageLen.toNat, c.clearState STATUS_FLAGS_SEND_REQUESTED)
  else if c.checkState STATUS_FLAGS_SENDING then
    (.ok (subSz c.sendMessageLen.toNat c.sendBufferPos), c)
  else (.ok 0, c)

/-- `robotraconteurlite_connection_impl_communicate_send2`. -/
def connectionImplCommunicateSend2 (c : Connection) (now : Int64) (sendOpRv : Result Unit) :
    Result Unit × Connection :=
  match sendOpRv with
  | .error e => (.error e, c.setState STATUS_FLAGS_ERROR)
  | .ok () =>
      if c.sendMessageLen > 0 ∧ c.sendBufferPos < c.sendMessageLen.toNat then
        (.ok (), c.setState STATUS_FLAGS_SENDING)
      else
        let c := (c.clearState STATUS_FLAGS_SENDING).setState STATUS_FLAGS_MESSAGE_SENT
        (.ok (), { c with lastSendMessageTime := now })

/-! ## Control -/

/-- `robotraconteurlite_connection_close`, which cannot fail. -/
def connectionClose (c : Connection) : Connection :=
  if c.checkState STATUS_FLAGS_IDLE then c else c.setState STATUS_FLAGS_CLOSE_REQUESTED

/-- `robotraconteurlite_connection_is_closed_event`. -/
def connectionIsClosedEvent (c : Connection) : Bool :=
  c.checkState STATUS_FLAGS_CLOSED && !c.checkState STATUS_FLAGS_CLOSED_CONSUMED

/-- `robotraconteurlite_connection_consume_closed`. -/
def connectionConsumeClosed (c : Connection) : Connection :=
  c.setState STATUS_FLAGS_CLOSED_CONSUMED

/-- `robotraconteurlite_connection_error`. -/
def connectionError (c : Connection) : Connection := c.setState STATUS_FLAGS_ERROR

/-- `robotraconteurlite_connection_is_server`. -/
def connectionIsServer (c : Connection) : Bool := flagsCheck c.configFlags CONFIG_FLAGS_ISSERVER

/-- `robotraconteurlite_connection_is_idle`. -/
def connectionIsIdle (c : Connection) : Bool := c.checkState STATUS_FLAGS_IDLE

/-- `robotraconteurlite_connection_is_connected_event`. -/
def connectionIsConnectedEvent (c : Connection) : Bool :=
  c.checkState STATUS_FLAGS_CONNECTED && !c.checkState STATUS_FLAGS_CONNECTED_CONSUMED

/-- `robotraconteurlite_connection_consume_connected`. -/
def connectionConsumeConnected (c : Connection) : Connection :=
  c.setState STATUS_FLAGS_CONNECTED_CONSUMED

/-- `robotraconteurlite_connection_is_message_received_event`. -/
def connectionIsMessageReceivedEvent (c : Connection) : Bool :=
  c.checkState STATUS_FLAGS_MESSAGE_RECEIVED && !c.checkState STATUS_FLAGS_MESSAGE_CONSUMED

/-- `robotraconteurlite_connection_consume_message_received`. -/
def connectionConsumeMessageReceived (c : Connection) : Connection :=
  c.setState STATUS_FLAGS_MESSAGE_CONSUMED

/-- `robotraconteurlite_connection_is_client_socket_connected_event`. -/
def connectionIsClientSocketConnectedEvent (c : Connection) : Bool :=
  c.checkState STATUS_FLAGS_CLIENT_SOCKET_CONNECTED &&
    !c.checkState STATUS_FLAGS_CLIENT_SOCKET_CONNECTED_CONSUMED

/-- `robotraconteurlite_connection_consume_client_socket_connected_event`. -/
def connectionConsumeClientSocketConnectedEvent (c : Connection) : Connection :=
  c.setState STATUS_FLAGS_CLIENT_SOCKET_CONNECTED_CONSUMED

/-- `robotraconteurlite_connection_is_heartbeat_timeout`. -/
def connectionIsHeartbeatTimeout (c : Connection) (now : Int64) : Nat :=
  let recvDiffUs := now - c.lastRecvMessageTime
  let sendDiffUs := now - c.lastSendMessageTime
  if recvDiffUs / 1000 > c.heartbeatTimeoutMs.toInt64 ∨
      sendDiffUs / 1000 > c.heartbeatTimeoutMs.toInt64 then 2
  else if recvDiffUs / 1000 > c.heartbeatPeriodMs.toInt64 ∨
      sendDiffUs / 1000 > c.heartbeatPeriodMs.toInt64 then 1
  else 0

/-- `robotraconteurlite_connection_impl_communicate_process_control`: whether a
close was requested, and the connection. -/
def connectionImplCommunicateProcessControl (c : Connection) (transportType : UInt32) :
    Result Bool × Connection :=
  if c.transportType ≠ transportType then (.error .consumed, c)
  else
    let c := if c.checkState STATUS_FLAGS_CLOSED_CONSUMED then connectionReset c else c
    if c.checkState (STATUS_FLAGS_CLOSED ||| STATUS_FLAGS_IDLE) then (.error .consumed, c)
    else (.ok (c.checkState (STATUS_FLAGS_CLOSE_REQUESTED ||| STATUS_FLAGS_CLOSING)), c)

/-- `robotraconteurlite_connection_impl_communicate_after_close_requested`. -/
def connectionImplCommunicateAfterCloseRequested (c : Connection) :
    Result Unit × Connection :=
  (.ok (), { c with connectionState := STATUS_FLAGS_CLOSED })

end

end RobotRaconteurLite

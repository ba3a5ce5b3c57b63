import RobotRaconteurLite.Node.SpecialRequests

/-!
# The client's handshake (`node.c`)

A client sets up its connection with three requests, one after the other. The
handshake looks at an event, moves on when it is the reply it waits for, and then
sends the next request.
-/

namespace RobotRaconteurLite

section

variable [SizeT]

/-- `robotraconteurlite_client_begin_request`, for the connection of the send data and its own
service: the header of the request, and the connection that counted it. -/
def clientRequestHeader (c : Connection) (entryType : UInt16) (membername : List UInt8) :
    MessageEntryConstHeader × Connection :=
  ({ MessageEntryHeaderOf.zero (.constant []) with
      entryType := entryType
      requestId := c.lastRequestId + 1
      servicePath := .constant c.remoteServiceName
      memberName := .constant membername },
    { c with lastRequestId := c.lastRequestId + 1 })

/-- `robotraconteurlite_client_handshake_error`. -/
def clientHandshakeError (node : Node) (client : Nat) : Result Unit × Node :=
  (.error .retry,
    (node.modifyConnection (node.client client).clientConnection connectionClose).setHandshakeState
      client .error)

/-- `robotraconteurlite_client_handshake_handle_error`. -/
def clientHandshakeHandleError (node : Node) (client : Nat) (rv : Status) : Result Unit × Node :=
  if rv = .retry then (.error .retry, node) else clientHandshakeError node client

/-- `robotraconteurlite_client_handshake_begin_request`. -/
def clientHandshakeBeginRequest (node : Node) (client : Nat) (entryType : UInt16)
    (membername : List UInt8) : Result SendMessageentryData × Node :=
  let i := (node.client client).clientConnection
  let (header, node) := node.onConnection i fun c => clientRequestHeader c entryType membername
  let (rv, node) := nodeBeginSendMessageentry node i header
  (rv, node.setClient client { node.client client with handshakeRequestId := header.requestId })

/-- The loop over the implemented types. A reader moves on as often as the count of elements lets
it. -/
def verifyImplementedTypes (expectedType : ConstString) : Nat → MessageElementReader → Result Bool
  | 0, _ => .ok false
  | fuel + 1, nestedElementReader => do
      let implemented ← messageElementReaderReadDataString nestedElementReader MESSAGE_STR_MAX_SIZE
      if utilMatchStringInList expectedType.data implemented then pure true
      else
        match messageElementReaderMoveNext nestedElementReader with
        | .error .noMore => .ok false
        | .error e => .error e
        | .ok nestedElementReader => verifyImplementedTypes expectedType fuel nestedElementReader

/-- `robotraconteurlite_client_verify_objecttype_response`: whether the root object has an
expected type or implements one. -/
def clientVerifyObjecttypeResponse (entryReader : MessageEntryReader) (expectedType : ConstString) :
    Result Bool := do
  -- Compare root object type
  let elementReader ← messageEntryReaderFindElementVerifyString entryReader (.constant OBJECTTYPE)
    (UInt32.ofNat MESSAGE_STR_MAX_SIZE)
  let objecttype ← messageElementReaderReadDataString elementReader MESSAGE_STR_MAX_SIZE
  if utilMatchStringInList expectedType.data objecttype then pure true
  else
    -- Compare root object implements types
    match messageEntryReaderFindElement entryReader (.constant OBJECTIMPLEMENTS) with
    | .error .messageElementNotFound => .ok false
    | .error e => .error e
    | .ok elementReader =>
        match messageElementReaderBeginReadNestedElements elementReader with
        | .error _ => .ok false
        | .ok nestedElementReader =>
            verifyImplementedTypes expectedType nestedElementReader.totalElements
              nestedElementReader

/-- Whether the reply to `OBJECTTYPENAME` is what the client expects. -/
def ClientRecord.acceptsObjecttype (client : ClientRecord) (entryReader : MessageEntryReader) :
    Bool :=
  if client.expectedRootObjectType.len > 0 then
    match clientVerifyObjecttypeResponse entryReader client.expectedRootObjectType with
    | .ok accepted => accepted
    | .error _ => false
  else true

/-- The connection counts as connected once a reply came. -/
def connectionReplied (c : Connection) : Connection :=
  if c.checkState STATUS_FLAGS_CONNECTING then
    (c.clearState STATUS_FLAGS_CONNECTING).setState STATUS_FLAGS_CONNECTED
  else c

/-- The case of a received message: `none` where the handshake goes on. -/
def clientHandshakeReceived (node : Node) (client : Nat) (event : Event) :
    Option (Result Unit) × Node :=
  let entryType := event.requestHeader.entryType
  let fail : Option (Result Unit) × Node :=
    (some (clientHandshakeError node client).1, (clientHandshakeError node client).2)
  match (node.client client).handshakeState with
  | .createconnectionSent =>
      if entryType ≠ MESSAGEENTRYTYPE_STREAMOPRET then fail
      else
        let node := node.modifyConnection (node.client client).clientConnection connectionReplied
        (none, (node.setHandshakeState client .createconnectionCompleted).consumed event)
  | .objecttypeSent =>
      if entryType ≠ MESSAGEENTRYTYPE_OBJECTTYPENAMERET then fail
      else
        let accepted := (node.client client).acceptsObjecttype event.receivedMessage.entryReader
        (none, (node.consumed event).setHandshakeState client
          (if accepted then .objecttypeCompleted else .invalidObjectType))
  | .connectclientSent =>
      if event.requestHeader.requestId ≠ (node.client client).handshakeRequestId ∨
          entryType ≠ MESSAGEENTRYTYPE_CONNECTCLIENTRET then fail
      else (none, (node.setHandshakeState client .connectclientCompleted).consumed event)
  | _ => (some (.error .unhandledEvent), node)

/-- The switch over the type of an event of the connection: `none` where the handshake goes on. -/
def clientHandshakeEvent (node : Node) (client : Nat) (event : Event) :
    Option (Result Unit) × Node :=
  match event.eventType with
  | .connectionClosed =>
      (some (.error .connectionError),
        (node.modifyConnection event.connection connectionConsumeClosed).setHandshakeState client
          .error)
  | .connectionError | .connectionTimeout =>
      (some (.error .retry),
        (node.modifyConnection event.connection connectionClose).setHandshakeState client .error)
  | .connectionConnected => (none, node.consumed event)
  | .messageSendComplete =>
      match (node.client client).handshakeState with
      | .createconnectionSent | .objecttypeSent | .connectclientSent => (none, node.consumed event)
      | _ => (some (.error .unhandledEvent), node)
  | .messageReceived => clientHandshakeReceived node client event
  | .connectionHeartbeatTimeout => (some (.error .retry), node)
  | .connectionClientSocketConnected =>
      (none, (node.consumed event).setHandshakeState client .init)
  | .noop | .nextCycle => (some (.error .unhandledEvent), node)

/-- The opening request. The connection passes for connected while it is begun. -/
def clientHandshakeOpen (node : Node) (client : Nat) : Result Unit × Node :=
  let i := (node.client client).clientConnection
  let node := node.modifyConnection i fun c =>
    let c := connectionChooseLocalEndpoint c
    { c with lastRequestId := 100 + c.randPlan.headD 0 % 100000, randPlan := c.randPlan.tail }
  let oldConnectionState := (node.connection i).connectionState
  let node := node.modifyConnection i fun c =>
    (c.clearState STATUS_FLAGS_CONNECTING).setState STATUS_FLAGS_CONNECTED
  let (rv, node) :=
    clientHandshakeBeginRequest node client MESSAGEENTRYTYPE_STREAMOP CREATE_CONNECTION
  let node := node.modifyConnection i fun c => { c with connectionState := oldConnectionState }
  match rv with
  | .error e => clientHandshakeHandleError node client e
  | .ok sendData =>
      match nodeWriteElements node i sendData (nodeTransportPopulateCapabilities
          (CONNECTION_PARSE_CAPABILITY_MESSAGE2 ||| CONNECTION_PARSE_CAPABILITY_MESSAGE4)) with
      | (.error e, node) => clientHandshakeHandleError node client e
      | (.ok sendData, node) =>
          match nodeEndSendMessageentry node i sendData with
          | (.error e, node) => clientHandshakeHandleError node client e
          | (.ok (), node) =>
              (.error .retry, node.setHandshakeState client .createconnectionSent)

/-- A request without a member and without elements, and the state that waits for its reply. -/
def clientHandshakeRequest (node : Node) (client : Nat) (entryType : UInt16)
    (sent : HandshakeState) : Result Unit × Node :=
  match clientHandshakeBeginRequest node client entryType [] with
  | (.error e, node) => clientHandshakeHandleError node client e
  | (.ok sendData, node) =>
      match nodeEndSendMessageentry node (node.client client).clientConnection sendData with
      | (.error e, node) => clientHandshakeHandleError node client e
      | (.ok (), node) => (.error .retry, node.setHandshakeState client sent)

/-- The switch over the state: what the handshake sends next. -/
def clientHandshakeSend (node : Node) (client : Nat) : Result Unit × Node :=
  match (node.client client).handshakeState with
  | .init => clientHandshakeOpen node client
  | .createconnectionSent | .objecttypeSent | .connectclientSent => (.error .retry, node)
  | .createconnectionCompleted =>
      clientHandshakeRequest node client MESSAGEENTRYTYPE_OBJECTTYPENAME .objecttypeSent
  | .objecttypeCompleted =>
      clientHandshakeRequest node client MESSAGEENTRYTYPE_CONNECTCLIENT .connectclientSent
  | .connectclientCompleted => (.ok (), node.setHandshakeState client .completed)
  | .connected | .completed | .error | .invalidObjectType => clientHandshakeError node client

/-- `robotraconteurlite_client_handshake`. -/
def clientHandshake (node : Node) (client : Nat) (event : Event) : Result Unit × Node :=
  if event.eventType = .nextCycle then clientHandshakeSend (node.consumed event) client
  else if event.connection ≠ (node.client client).clientConnection then
    (.error .unhandledEvent, node)
  else
    match nodeEventSpecialRequest node event with
    | (.error .consumed, node) => (.error .consumed, node.consumed event)
    | (.error e, node) => clientHandshakeHandleError node client e
    | (.ok (), node) =>
        match clientHandshakeEvent node client event with
        | (some rv, node) => (rv, node)
        | (none, node) => clientHandshakeSend node client

end

end RobotRaconteurLite

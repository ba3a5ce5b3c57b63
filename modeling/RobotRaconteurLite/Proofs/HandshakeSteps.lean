import RobotRaconteurLite.Proofs.SpecialRequests

/-!
# The steps of the client's handshake

A request of the handshake is tried until the connection takes it. Each try
counts up the request's number, and only a request that was queued moves the
handshake on.
-/

namespace RobotRaconteurLite

/-- The first connection, after a request of the handshake was tried on it. -/
def Connection.Requested (c c' : Connection) : Prop :=
  ∃ sendBuffer sendMessageLen localEndpoint lastRequestId randPlan asked, c' = { c with
    sendBuffer := sendBuffer
    sendMessageLen := sendMessageLen
    localEndpoint := localEndpoint
    lastRequestId := lastRequestId
    randPlan := randPlan
    connectionState := flagsSet c.connectionState (asked &&& STATUS_FLAGS_SEND_REQUESTED) }

namespace Connection.Requested

variable {c c' : Connection}

theorem withSendBuffer (h : c.Requested c') (b : List UInt8) :
    c.Requested { c' with sendBuffer := b } := by
  obtain ⟨_, sendMessageLen, localEndpoint, lastRequestId, randPlan, asked, rfl⟩ := h
  exact ⟨b, sendMessageLen, localEndpoint, lastRequestId, randPlan, asked, rfl⟩

theorem queue (h : c.Requested c') (b : List UInt8) (len : Nat) :
    c.Requested (connectionEndSendMessage { c' with sendBuffer := b } len) := by
  obtain ⟨_, _, localEndpoint, lastRequestId, randPlan, asked, rfl⟩ := h
  refine ⟨b, UInt32.ofNat len, localEndpoint, lastRequestId, randPlan,
    asked ||| STATUS_FLAGS_SEND_REQUESTED, ?_⟩
  have hand : (asked ||| STATUS_FLAGS_SEND_REQUESTED) &&& STATUS_FLAGS_SEND_REQUESTED =
      (asked &&& STATUS_FLAGS_SEND_REQUESTED) ||| STATUS_FLAGS_SEND_REQUESTED := by
    rw [BitVec.and_or_distrib_right, BitVec.and_self]
  rw [hand]
  simp only [connectionEndSendMessage, Connection.setState, flagsSet, BitVec.or_assoc]

end Connection.Requested

/-- A connection after a request was begun on it. -/
def connectionBegun (sendBuffer : List UInt8) (c : Connection) : Connection :=
  { c with sendBuffer := sendBuffer, lastRequestId := c.lastRequestId + 1 }

/-- A connection that the opening request is about to be sent on. -/
def connectionOpened (c : Connection) : Connection :=
  let c := connectionChooseLocalEndpoint c
  { c with lastRequestId := 100 + c.randPlan.headD 0 % 100000, randPlan := c.randPlan.tail }

/-- A connection that passes for connected. -/
def connectionSpoofed (c : Connection) : Connection :=
  (c.clearState STATUS_FLAGS_CONNECTING).setState STATUS_FLAGS_CONNECTED

theorem connectionBegun_restored (b : List UInt8) (c : Connection) :
    { connectionBegun b (connectionSpoofed c) with connectionState := c.connectionState } =
      connectionBegun b c := rfl

section

variable [SizeT]

/-- A node after a request of the handshake was tried: the connection, and the number of the
request. -/
def Node.tried (node : Node) (client : Nat) (c : Connection) (requestId : UInt32) : Node :=
  (node.setConnection (node.client client).clientConnection c).setClient client
    { node.client client with handshakeRequestId := requestId }

theorem Node.tried_modifyConnection (node : Node) (client : Nat) (c : Connection) (requestId : UInt32)
    (f : Connection → Connection) :
    (node.tried client c requestId).modifyConnection (node.client client).clientConnection f =
      node.tried client (f c) requestId := by
  change ((node.setConnection _ c).modifyConnection _ f).setClient client _ = _
  rw [Node.setConnection_modifyConnection]
  rfl

theorem Node.setConnection_tried (node : Node) (client : Nat) (c c' : Connection)
    (requestId : UInt32) :
    (node.setConnection (node.client client).clientConnection c).tried client c' requestId =
      node.tried client c' requestId :=
  congrArg (fun n : Node => n.setClient client
      { node.client client with handshakeRequestId := requestId })
    (Node.setConnection_setConnection node (node.client client).clientConnection c c')

@[simp] theorem Node.setClient_client (node : Node) (client : Nat) (record : ClientRecord) :
    (node.setClient client record).client client = record := by
  simp [Node.setClient]

@[simp] theorem Node.tried_client (node : Node) (client : Nat) (c : Connection)
    (requestId : UInt32) : (node.tried client c requestId).client client =
      { node.client client with handshakeRequestId := requestId } :=
  Node.setClient_client _ client _

/-- What came of a try to send a request of the handshake: the connection is busy, or it failed,
or the request is queued and the handshake waits for the reply in the state `sent`. -/
inductive Tried (node : Node) (client : Nat) (entryType : UInt16) (sent : HandshakeState) :
    Result Unit × Node → Prop
  | busy {c : Connection} (hc : (node.connection (node.client client).clientConnection).Requested c)
      (requestId : UInt32) :
      Tried node client entryType sent (.error .retry, node.tried client c requestId)
  | failed {c : Connection}
      (hc : (node.connection (node.client client).clientConnection).Requested c)
      (requestId : UInt32) :
      Tried node client entryType sent
        (clientHandshakeError (node.tried client c requestId) client)
  | sent {c : Connection} (hc : (node.connection (node.client client).clientConnection).Requested c)
      {header : MessageEntryConstHeader} (hType : header.entryType = entryType) :
      Tried node client entryType sent (.error .retry,
        ((node.tried client c header.requestId).addEffect
          (.queued (node.client client).clientConnection header)).setHandshakeState client sent)

/-- A request is begun. The client keeps its number either way. -/
theorem clientHandshakeBeginRequest_cases (node : Node) (client : Nat) (entryType : UInt16)
    (membername : List UInt8) {c : Connection}
    (hc : node.connection (node.client client).clientConnection = c) :
    (∃ e b, clientHandshakeBeginRequest node client entryType membername =
      (.error e, node.tried client (connectionBegun b c) (c.lastRequestId + 1))) ∨
      ∃ sendData b, clientHandshakeBeginRequest node client entryType membername =
        (.ok sendData, node.tried client (connectionBegun b c) (c.lastRequestId + 1)) ∧
        sendData.messageEntryHeader.entryType = entryType ∧
        sendData.messageEntryHeader.requestId = c.lastRequestId + 1 := by
  subst hc
  unfold clientHandshakeBeginRequest
  dsimp only [Node.onConnection, clientRequestHeader]
  rcases nodeBeginSendMessageentry_cases _ _ _ with ⟨e, b, h⟩ | ⟨sendData, b, h, hheader⟩
  · rw [h]
    refine Or.inl ⟨e, b, ?_⟩
    rw [Node.withSendBuffer, Node.setConnection_modifyConnection]
    rfl
  · rw [h]
    refine Or.inr ⟨sendData, b, ?_, ?_, ?_⟩
    · rw [Node.withSendBuffer, Node.setConnection_modifyConnection]
      rfl
    · rw [hheader]
    · rw [hheader]

/-- The rest of a message, and what the handshake makes of it. -/
theorem tried_of_end {node node' : Node} {client : Nat} {entryType : UInt16} {sent : HandshakeState}
    {c : Connection} {requestId : UInt32} {sendData : SendMessageentryData}
    (hc : (node.connection (node.client client).clientConnection).Requested c)
    (hnode : node' = node.tried client c requestId)
    (hType : sendData.messageEntryHeader.entryType = entryType)
    (hid : sendData.messageEntryHeader.requestId = requestId) :
    Tried node client entryType sent
      (match nodeEndSendMessageentry node' (node.client client).clientConnection sendData with
      | (.error e, node) => clientHandshakeHandleError node client e
      | (.ok (), node) => (.error .retry, node.setHandshakeState client sent)) := by
  subst hnode hType hid
  rcases nodeEndSendMessageentry_cases (node.tried client c sendData.messageEntryHeader.requestId)
      (node.client client).clientConnection sendData with ⟨e, b, h⟩ | ⟨b, len, h⟩
  · rw [h, Node.withSendBuffer, Node.tried_modifyConnection]
    dsimp only
    unfold clientHandshakeHandleError
    split
    · exact .busy (hc.withSendBuffer b) _
    · exact .failed (hc.withSendBuffer b) _
  · rw [h, Node.queue, Node.tried_modifyConnection]
    exact .sent (hc.queue b len) rfl

theorem clientHandshakeRequest_tried (node : Node) (client : Nat) (entryType : UInt16)
    (sent : HandshakeState) :
    Tried node client entryType sent (clientHandshakeRequest node client entryType sent) := by
  have hbegun (b : List UInt8) (c : Connection) : c.Requested (connectionBegun b c) :=
    ⟨b, c.sendMessageLen, c.localEndpoint, c.lastRequestId + 1, c.randPlan, 0#32, by
      rw [BitVec.zero_and, flagsSet, BitVec.or_zero]
      rfl⟩
  unfold clientHandshakeRequest
  rcases clientHandshakeBeginRequest_cases node client entryType [] rfl with
    ⟨e, b, h⟩ | ⟨sendData, b, h, hType, hid⟩
  · rw [h]
    dsimp only
    unfold clientHandshakeHandleError
    split
    · exact .busy (hbegun b _) _
    · exact .failed (hbegun b _) _
  · rw [h]
    dsimp only
    rw [Node.tried_client]
    exact tried_of_end (hbegun b _) rfl hType hid

theorem clientHandshakeOpen_eq (node : Node) (client : Nat) :
    clientHandshakeOpen node client =
      (let i := (node.client client).clientConnection
      let node := node.modifyConnection i connectionOpened
      let oldConnectionState := (node.connection i).connectionState
      let node := node.modifyConnection i connectionSpoofed
      let (rv, node) :=
        clientHandshakeBeginRequest node client MESSAGEENTRYTYPE_STREAMOP CREATE_CONNECTION
      let node := node.modifyConnection i fun c => { c with connectionState := oldConnectionState }
      match rv with
      | .error e => clientHandshakeHandleError node client e
      | .ok sendData =>
          match nodeWriteElements node i sendData (nodeTransportPopulateCapabilities
              (CONNECTION_PARSE_CAPABILITY_MESSAGE2 ||| CONNECTION_PARSE_CAPABILITY_MESSAGE4)) with
          | (.error e, node) => clientHandshakeHandleError node client e
          | (.ok sendData, node) =>
              match nodeEndSendMessageentry node i sendData with
              | (.error e, node) => clientHandshakeHandleError node client e
              | (.ok (), node) =>
                  (.error .retry, node.setHandshakeState client .createconnectionSent)) := rfl

/-- The opening request is sent as if the connection was connected. -/
theorem clientHandshakeOpen_tried (node : Node) (client : Nat) :
    Tried node client MESSAGEENTRYTYPE_STREAMOP .createconnectionSent
      (clientHandshakeOpen node client) := by
  generalize hc : node.connection (node.client client).clientConnection = c
  have hrequested (b : List UInt8) : c.Requested (connectionBegun b (connectionOpened c)) := by
    refine ⟨b, c.sendMessageLen, (connectionOpened c).localEndpoint,
      (connectionOpened c).lastRequestId + 1, (connectionOpened c).randPlan, 0#32, ?_⟩
    rw [BitVec.zero_and, flagsSet, BitVec.or_zero]
    unfold connectionBegun connectionOpened connectionChooseLocalEndpoint
    split <;> rfl
  have hspoofed : ((node.modifyConnection (node.client client).clientConnection
      connectionOpened).modifyConnection (node.client client).clientConnection connectionSpoofed) =
        node.setConnection (node.client client).clientConnection
          (connectionSpoofed (connectionOpened c)) := by
    rw [Node.modifyConnection_modifyConnection, Node.modifyConnection, hc]
  have hstate : ((node.modifyConnection (node.client client).clientConnection
      connectionOpened).connection (node.client client).clientConnection).connectionState =
        (connectionOpened c).connectionState := by
    rw [Node.modifyConnection_connection, hc]
  have hrestore (b : List UInt8) (requestId : UInt32) :
      ((node.setConnection (node.client client).clientConnection
        (connectionSpoofed (connectionOpened c))).tried client
          (connectionBegun b (connectionSpoofed (connectionOpened c))) requestId).modifyConnection
            (node.client client).clientConnection
            (fun c' => { c' with connectionState := (connectionOpened c).connectionState }) =
        node.tried client (connectionBegun b (connectionOpened c)) requestId := by
    rw [Node.setConnection_tried, Node.tried_modifyConnection, connectionBegun_restored]
  rw [clientHandshakeOpen_eq]
  dsimp only
  rw [hspoofed, hstate]
  rcases clientHandshakeBeginRequest_cases (node.setConnection (node.client client).clientConnection
        (connectionSpoofed (connectionOpened c))) client MESSAGEENTRYTYPE_STREAMOP
        CREATE_CONNECTION (Node.setConnection_connection node (node.client client).clientConnection _)
    with
    ⟨e, b, h⟩ | ⟨sendData, b, h, hType, hid⟩
  · rw [h]
    dsimp only
    rw [hrestore]
    unfold clientHandshakeHandleError
    split
    · exact .busy (hc ▸ hrequested b) _
    · exact .failed (hc ▸ hrequested b) _
  · rw [h]
    dsimp only
    rw [hrestore]
    have hb : (node.connection (node.client client).clientConnection).Requested
        (connectionBegun b (connectionOpened c)) := hc ▸ hrequested b
    rcases nodeWriteElements_cases (node.tried client (connectionBegun b (connectionOpened c))
        ((connectionSpoofed (connectionOpened c)).lastRequestId + 1))
        (node.client client).clientConnection sendData (nodeTransportPopulateCapabilities
          (CONNECTION_PARSE_CAPABILITY_MESSAGE2 ||| CONNECTION_PARSE_CAPABILITY_MESSAGE4)) with
      ⟨e, b', h'⟩ | ⟨sendData', b', h', hheader⟩
    · rw [h', Node.withSendBuffer, Node.tried_modifyConnection]
      dsimp only
      unfold clientHandshakeHandleError
      split
      · exact .busy (hb.withSendBuffer b') _
      · exact .failed (hb.withSendBuffer b') _
    · rw [h', Node.withSendBuffer, Node.tried_modifyConnection]
      rw [← hheader] at hType hid
      exact tried_of_end (hb.withSendBuffer b') rfl hType hid

/-! ## Events -/

/-- What an event does to the state of the handshake before the handshake sends anything: it may
bring the reply that is waited for. -/
inductive HandshakeState.Takes (event : Event) (accepted : Bool) :
    HandshakeState → HandshakeState → Prop
  | stays (s : HandshakeState) : Takes event accepted s s
  | fails (s : HandshakeState) : Takes event accepted s .error
  | restarts (s : HandshakeState) (h : event.eventType = .connectionClientSocketConnected) :
      Takes event accepted s .init
  | createconnection (h : event.eventType = .messageReceived)
      (hType : event.requestHeader.entryType = MESSAGEENTRYTYPE_STREAMOPRET) :
      Takes event accepted .createconnectionSent .createconnectionCompleted
  | objecttype (h : event.eventType = .messageReceived)
      (hType : event.requestHeader.entryType = MESSAGEENTRYTYPE_OBJECTTYPENAMERET)
      (haccepted : accepted = true) : Takes event accepted .objecttypeSent .objecttypeCompleted
  | objecttypeInvalid : Takes event accepted .objecttypeSent .invalidObjectType
  | connectclient (h : event.eventType = .messageReceived)
      (hType : event.requestHeader.entryType = MESSAGEENTRYTYPE_CONNECTCLIENTRET) :
      Takes event accepted .connectclientSent .connectclientCompleted

section

variable {node : Node} {client : Nat} {event : Event}

theorem consumed_client (node : Node) (event : Event) : (node.consumed event).client = node.client := by
  unfold Node.consumed Node.consumeEvent
  cases event.eventType <;> rfl

theorem consumed_effects (node : Node) (event : Event) :
    (node.consumed event).effects = node.effects := by
  unfold Node.consumed Node.consumeEvent
  cases event.eventType <;> rfl

@[simp] theorem setHandshakeState_handshakeState (node : Node) (client : Nat) (s : HandshakeState) :
    ((node.setHandshakeState client s).client client).handshakeState = s :=
  congrArg ClientRecord.handshakeState (Node.setClient_client node client _)

theorem clientHandshakeError_handshakeState (node : Node) (client : Nat) :
    ((clientHandshakeError node client).2.client client).handshakeState = .error :=
  setHandshakeState_handshakeState _ client .error

theorem clientHandshakeReceived_takes (hType : event.eventType = .messageReceived) :
    (node.client client).handshakeState.Takes event
      ((node.client client).acceptsObjecttype event.receivedMessage.entryReader)
      ((clientHandshakeReceived node client event).2.client client).handshakeState := by
  unfold clientHandshakeReceived
  dsimp only
  split
  · next hstate =>
      rw [hstate]
      split
      · rw [clientHandshakeError_handshakeState]
        exact .fails _
      · next hreply =>
          rw [consumed_client, setHandshakeState_handshakeState]
          exact .createconnection hType (not_not.mp hreply)
  · next hstate =>
      rw [hstate]
      split
      · rw [clientHandshakeError_handshakeState]
        exact .fails _
      · next hreply =>
          rw [setHandshakeState_handshakeState]
          split
          · next haccepted => exact .objecttype hType (not_not.mp hreply) haccepted
          · exact .objecttypeInvalid
  · next hstate =>
      rw [hstate]
      split
      · rw [clientHandshakeError_handshakeState]
        exact .fails _
      · next hreply =>
          rw [consumed_client, setHandshakeState_handshakeState]
          exact .connectclient hType (not_not.mp (not_or.mp hreply).2)
  · exact .stays _

theorem clientHandshakeEvent_takes (node : Node) (client : Nat) (event : Event) :
    (node.client client).handshakeState.Takes event
      ((node.client client).acceptsObjecttype event.receivedMessage.entryReader)
      ((clientHandshakeEvent node client event).2.client client).handshakeState := by
  have hfails (n : Node) : (node.client client).handshakeState.Takes event
      ((node.client client).acceptsObjecttype event.receivedMessage.entryReader)
      ((n.setHandshakeState client .error).client client).handshakeState := by
    rw [setHandshakeState_handshakeState]
    exact .fails _
  have hconsumed : (node.client client).handshakeState.Takes event
      ((node.client client).acceptsObjecttype event.receivedMessage.entryReader)
      (((node.consumed event).client client).handshakeState) := by
    rw [consumed_client]
    exact .stays _
  unfold clientHandshakeEvent
  cases hType : event.eventType with
  | connectionClosed => exact hfails _
  | connectionError => exact hfails _
  | connectionTimeout => exact hfails _
  | connectionConnected => exact hconsumed
  | messageSendComplete =>
      dsimp only
      split
      all_goals first | exact hconsumed | exact .stays _
  | messageReceived => exact clientHandshakeReceived_takes hType
  | connectionClientSocketConnected =>
      rw [setHandshakeState_handshakeState]
      exact .restarts _ hType
  | _ => exact .stays _

/-- Nothing is sent and nobody is told before the handshake has looked at its state. -/
theorem clientHandshakeEvent_effects (node : Node) (client : Nat) (event : Event) :
    (clientHandshakeEvent node client event).2.effects = node.effects := by
  unfold clientHandshakeEvent
  split
  · rfl
  · rfl
  · rfl
  · exact consumed_effects node event
  · split
    all_goals first | exact consumed_effects node event | rfl
  · unfold clientHandshakeReceived
    dsimp only
    split
    · split
      · rfl
      · exact consumed_effects _ event
    · split
      · rfl
      · exact consumed_effects node event
    · split
      · rfl
      · exact consumed_effects _ event
    · rfl
  · rfl
  · exact consumed_effects node event
  · rfl
  · rfl

end

end

end RobotRaconteurLite

import RobotRaconteurLite.Proofs.NodePosts
import RobotRaconteurLite.Proofs.PendingRequests

/-!
# The moves of a node

What the node does with an event is put together from few moves: a connection or
a client changes, a handler is called, the application asks for something, a
request changes or leaves the list. What every move keeps, every event keeps,
and so none of the functions is opened again after this.

Of a connection the node changes what it keeps there itself. The socket, the
receive buffer and the positions belong to the transport, and of the flags that
say that an event was consumed a run sets the one of its own event only. A
request that leaves the list is handed to its handler at once, or has none that
could be told. The cursor of the cycle is moved by `next_event` and by the end
of a cycle, and by no move.
-/

namespace RobotRaconteurLite

/-- A flag of a set shares nothing with a mask that shares nothing with the set. -/
theorem and_eq_zero_of_subset {m all mask : BitVec 32} (hm : m &&& all = m)
    (h : mask &&& all = 0#32) : m &&& mask = 0#32 := by
  rw [← hm, BitVec.and_assoc, BitVec.and_comm all mask, h, BitVec.and_zero]

/-- A flag that is not set is not set either when others are cleared. -/
theorem flagsCheck_clear_of_not_flagsCheck {flags m n : BitVec 32}
    (h : flagsCheck flags n = false) : flagsCheck (flagsClear flags m) n = false := by
  simp only [flagsCheck, bne_eq_false_iff_eq] at h ⊢
  rw [flagsClear, BitVec.and_assoc, BitVec.and_comm _ n, ← BitVec.and_assoc, h, BitVec.zero_and]

/-- The flags that the node sets on its own account. -/
def STATUS_FLAGS_RAISED : BitVec 32 :=
  STATUS_FLAGS_CONNECTED ||| STATUS_FLAGS_ERROR ||| STATUS_FLAGS_SEND_REQUESTED |||
    STATUS_FLAGS_ESTABLISHED ||| STATUS_FLAGS_CLIENT_ESTABLISHED ||| STATUS_FLAGS_CLOSE_REQUESTED |||
    STATUS_FLAGS_SEND_MESSAGE4 ||| STATUS_FLAGS_CLOSE_NOTIFIED

/-- The flags that it clears. -/
def STATUS_FLAGS_CLEARED : BitVec 32 :=
  STATUS_FLAGS_CONNECTING ||| STATUS_FLAGS_CLIENT_ESTABLISHED

/-- Those that it clears on an event of the type: a connection goes on connecting until a message
came. -/
def EventType.clearedFlags (eventType : EventType) : BitVec 32 :=
  if eventType = .messageReceived then STATUS_FLAGS_CLEARED else STATUS_FLAGS_CLIENT_ESTABLISHED

theorem EventType.and_clearedFlags {mask : BitVec 32} (h : mask &&& STATUS_FLAGS_CLEARED = 0#32)
    (eventType : EventType) : mask &&& eventType.clearedFlags = 0#32 := by
  refine BitVec.and_comm _ _ ▸ and_eq_zero_of_subset ?_ h
  cases eventType <;> rfl

section

variable [SizeT]

/-- The first connection after the node worked on it, on an event of the type. What belongs to the
transport is as it was. -/
structure Connection.Worked (eventType : EventType) (c c' : Connection) : Prop where
  rest : c' = { c with
    sendBuffer := c'.sendBuffer
    sendMessageLen := c'.sendMessageLen
    connectionState := c'.connectionState
    localEndpoint := c'.localEndpoint
    remoteEndpoint := c'.remoteEndpoint
    remoteNodeid := c'.remoteNodeid
    lastRequestId := c'.lastRequestId
    messageFlagsInvMask := c'.messageFlagsInvMask
    service := c'.service
    randPlan := c'.randPlan }
  raised : ∀ mask, mask &&& STATUS_FLAGS_RAISED = 0#32 → mask &&& eventType.consumedFlag = 0#32 →
    c.checkState mask = false → c'.checkState mask = false
  stays : ∀ mask, mask &&& eventType.clearedFlags = 0#32 → c.checkState mask = true →
    c'.checkState mask = true
  posts : c.Posts c'

namespace Connection.Worked

variable {eventType : EventType} {c c' c'' : Connection}

theorem refl (eventType : EventType) (c : Connection) : c.Worked eventType c :=
  ⟨rfl, fun _ _ _ h => h, fun _ _ h => h, .refl c⟩

theorem trans (h : c.Worked eventType c') (h' : c'.Worked eventType c'') : c.Worked eventType c'' where
  rest := by rw [h'.rest, h.rest]
  raised mask hmask hne hc := h'.raised mask hmask hne (h.raised mask hmask hne hc)
  stays mask hmask hc := h'.stays mask hmask (h.stays mask hmask hc)
  posts := h.posts.trans h'.posts

/-- What is never cleared stays. -/
theorem keeps (h : c.Worked eventType c') {mask : BitVec 32}
    (hcleared : mask &&& STATUS_FLAGS_CLEARED = 0#32) (hc : c.checkState mask = true) :
    c'.checkState mask = true := h.stays mask (eventType.and_clearedFlags hcleared) hc

/-- What is neither set nor cleared is as it was. -/
theorem same (h : c.Worked eventType c') {mask : BitVec 32}
    (hraised : mask &&& STATUS_FLAGS_RAISED = 0#32) (hcleared : mask &&& STATUS_FLAGS_CLEARED = 0#32)
    (hne : mask &&& eventType.consumedFlag = 0#32) : c'.checkState mask = c.checkState mask := by
  cases hc : c.checkState mask with
  | true => exact h.keeps hcleared hc
  | false => exact h.raised mask hraised hne hc

/-- A change of what is not a flag. -/
theorem of_state (hrest : c' = { c with
    sendBuffer := c'.sendBuffer
    sendMessageLen := c'.sendMessageLen
    connectionState := c'.connectionState
    localEndpoint := c'.localEndpoint
    remoteEndpoint := c'.remoteEndpoint
    remoteNodeid := c'.remoteNodeid
    lastRequestId := c'.lastRequestId
    messageFlagsInvMask := c'.messageFlagsInvMask
    service := c'.service
    randPlan := c'.randPlan }) (hbuffer : c'.sendBuffer = c.sendBuffer)
    (hlen : c'.sendMessageLen = c.sendMessageLen)
    (hstate : c'.connectionState = c.connectionState) : c.Worked eventType c' := by
  have hcheck (mask : BitVec 32) : c'.checkState mask = c.checkState mask := by
    rw [checkState, hstate, checkState]
  exact ⟨hrest, fun mask _ _ h => (hcheck mask).trans h, fun mask _ h => (hcheck mask).trans h,
    .of_state hbuffer hlen hstate⟩

theorem setState (c : Connection) {m : BitVec 32} (h : m &&& STATUS_FLAGS_RAISED = m)
    (hsend : m &&& STATUS_FLAGS_SEND_REQUESTED = 0#32) : c.Worked eventType (c.setState m) where
  rest := rfl
  raised _ hmask _ hc := (checkState_setState (and_eq_zero_of_subset h hmask)).trans hc
  stays _ _ hc := flagsCheck_set_of_flagsCheck hc
  posts := .setState c hsend

/-- The event is consumed. -/
theorem consume (eventType : EventType) (c : Connection) :
    c.Worked eventType (c.setState eventType.consumedFlag) where
  rest := rfl
  raised _ _ hne hc := (checkState_setState (and_eq_zero_of_subset (BitVec.and_self) hne)).trans hc
  stays _ _ hc := flagsCheck_set_of_flagsCheck hc
  posts := .setState c (by cases eventType <;> decide)

theorem clearState (c : Connection) {m : BitVec 32} (h : m &&& eventType.clearedFlags = m) :
    c.Worked eventType (c.clearState m) where
  rest := rfl
  raised _ _ _ hc := flagsCheck_clear_of_not_flagsCheck hc
  stays _ hmask hc := (checkState_clearState (and_eq_zero_of_subset h hmask)).trans hc
  posts := .clearState c (and_eq_zero_of_subset h (by cases eventType <;> decide))

end Connection.Worked

/-- Sends and closes are part of the work. -/
theorem Connection.Asked.worked {c c' : Connection} (h : c.Asked c') (hposts : c.Posts c')
    (eventType : EventType) : c.Worked eventType c' := by
  refine ⟨?_, fun mask hmask _ hc => ?_, fun mask _ hc => h.checkState_of_checkState hc, hposts⟩
  · obtain ⟨sendBuffer, sendMessageLen, asked, rfl⟩ := h
    rfl
  · exact (h.checkState (and_eq_zero_of_subset (by decide) hmask)).trans hc

/-- So is a try of the handshake to send. -/
theorem Connection.Requested.worked {c c' : Connection} (h : c.Requested c') (hposts : c.Posts c')
    (eventType : EventType) : c.Worked eventType c' := by
  obtain ⟨sendBuffer, sendMessageLen, localEndpoint, lastRequestId, randPlan, asked, rfl⟩ := h
  have hset {mask : BitVec 32} (hmask : mask &&& STATUS_FLAGS_RAISED = 0#32) :
      asked &&& STATUS_FLAGS_SEND_REQUESTED &&& mask = 0#32 := by
    rw [BitVec.and_assoc, and_eq_zero_of_subset (by decide) hmask,
      BitVec.and_zero]
  exact ⟨rfl, fun mask hmask _ hc => (flagsCheck_set_of_disjoint (hset hmask)).trans hc,
    fun mask _ hc => flagsCheck_set_of_flagsCheck hc, hposts⟩

theorem connectionClose_worked (eventType : EventType) (c : Connection) :
    c.Worked eventType (connectionClose c) :=
  (connectionClose_asked c).worked (.close c) eventType

theorem connectionReplied_worked (c : Connection) :
    c.Worked .messageReceived (connectionReplied c) := by
  unfold connectionReplied
  split
  · exact (Connection.Worked.clearState c (by decide)).trans (.setState _ (by decide) (by decide))
  · exact .refl .messageReceived c

/-- The request that is over once the handler is called. -/
def HandlerCall.endsRequest : HandlerCall → Option Nat
  | .requestCompleted r => some r
  | .requestError r => some r
  | _ => none

/-- Whether the request has a handler for either way in which it can end. -/
def NodeRequest.answerable (request : NodeRequest) : Bool :=
  request.requestCompleted && request.requestError

/-- The node got to the second state in moves, on an event of the type. -/
inductive Node.Moves (eventType : EventType) : Node → Node → Prop
  | refl (node : Node) : Node.Moves eventType node node
  | trans {node node' node'' : Node} (h : Node.Moves eventType node node')
      (h' : Node.Moves eventType node' node'') : Node.Moves eventType node node''
  | connection (node : Node) (i : Nat) {c : Connection}
      (h : (node.connection i).Worked eventType c) : Node.Moves eventType node (node.setConnection i c)
  | client (node : Node) (k : Nat) (record : ClientRecord) :
      Node.Moves eventType node (node.setClient k record)
  | asked {node node' : Node} (h : node.Asked node') (hposts : node.Posts node') :
      Node.Moves eventType node node'
  | call (node : Node) {handler : HandlerCall} (h : handler.endsRequest = none) :
      Node.Moves eventType node (node.addEffect (.call handler))
  | queued (node : Node) (i : Nat) (header : MessageEntryConstHeader) :
      Node.Moves eventType node (node.addEffect (.queued i header))
  | request (node : Node) (request : Nat → NodeRequest)
      (h : ∀ r, (request r).answerable = (node.request r).answerable) :
      Node.Moves eventType node { node with request }
  | ended (node : Node) {r : Nat} (hr : r ∈ node.requestsHead.getD []) {handler : HandlerCall}
      (h : handler.endsRequest = some r) :
      Node.Moves eventType node ((node.removeRequest r).addEffect (.call handler))
  | dropped (node : Node) {r : Nat} (h : (node.request r).answerable = false) :
      Node.Moves eventType node (node.removeRequest r)

namespace Node.Moves

variable {eventType : EventType} {node node' : Node}

theorem modifyConnection (node : Node) (i : Nat) {f : Connection → Connection}
    (h : (node.connection i).Worked eventType (f (node.connection i))) :
    node.Moves eventType (node.modifyConnection i f) :=
  .connection node i h

theorem setHandshakeState (node : Node) (k : Nat) (s : HandshakeState) :
    node.Moves eventType (node.setHandshakeState k s) :=
  .client node k _

theorem setRequestStatus (node : Node) (r : Nat) (status : Result Unit) :
    node.Moves eventType (node.setRequestStatus r status) :=
  .request node _ fun r' => by
    rcases eq_or_ne r' r with rfl | hr
    · rw [Function.update_self]
      rfl
    · rw [Function.update_of_ne hr]

end Node.Moves

/-! ## Handlers -/

section

variable {eventType : EventType} {node : Node} {event : Event}

theorem nodeCallHandler_moves (node : Node) {handler : HandlerCall}
    (h : handler.endsRequest = none) : node.Moves eventType (nodeCallHandler node handler).2 :=
  (Node.Moves.call node h).trans
    (.asked (nodeCallHandler_asked node handler) (nodeCallHandler_posts node handler))

theorem moves_of_nodeCallHandler {node node' : Node} {handler : HandlerCall} {rv : Result Unit}
    (hrun : nodeCallHandler node handler = (rv, node')) (h : handler.endsRequest = none) :
    node.Moves eventType node' := by
  have hmoves : node.Moves eventType (nodeCallHandler node handler).2 := nodeCallHandler_moves node h
  rwa [hrun] at hmoves

theorem request_of_nodeCallHandler {node node' : Node} {handler : HandlerCall} {rv : Result Unit}
    (hrun : nodeCallHandler node handler = (rv, node')) : node'.request = node.request := by
  have hasked := nodeCallHandler_asked node handler
  rw [hrun] at hasked
  exact hasked.request

theorem nodeNotify_moves (node : Node) (there : Bool) {handler : HandlerCall}
    (h : handler.endsRequest = none) : node.Moves eventType (nodeNotify node there handler) := by
  cases there with
  | false => exact .refl node
  | true => exact nodeCallHandler_moves node h

theorem notifyService_moves (node : Node) (i : Nat) (service : Option Nat)
    (change : ServiceEventType) : node.Moves eventType (notifyService node i service change) := by
  cases service with
  | none => exact .refl node
  | some s => exact nodeNotify_moves node _ rfl

theorem consumeEvent_moves (node : Node) (h : event.eventType ≠ .nextCycle) :
    node.Moves event.eventType (node.consumeEvent event).2 := by
  rw [Node.consumeEvent_of_ne h]
  exact .modifyConnection node _ (.consume _ _)

theorem consumed_moves (node : Node) (h : event.eventType ≠ .nextCycle) :
    node.Moves event.eventType (node.consumed event) := consumeEvent_moves node h

theorem runConsumeEvent_moves (node : Node) (h : event.eventType ≠ .nextCycle)
    (rv : Result Unit) : node.Moves event.eventType (runConsumeEvent node event rv).2 := by
  unfold runConsumeEvent
  split
  · exact .refl node
  · exact consumed_moves node h
  · exact consumeEvent_moves node h

theorem runNodeHandler_moves (node : Node) (h : event.eventType ≠ .nextCycle) (there : Bool)
    {handler : HandlerCall} (hends : handler.endsRequest = none) :
    node.Moves event.eventType (runNodeHandler node event there handler).2 := by
  unfold runNodeHandler
  split
  · exact (nodeCallHandler_moves node hends).trans (runConsumeEvent_moves _ h _)
  · exact consumeEvent_moves node h

/-! ## Messages -/

theorem nodeSendMessageentry_moves (node : Node) (i : Nat) (header : MessageEntryConstHeader)
    (elements : List ElementTree) :
    node.Moves eventType (nodeSendMessageentry node i header elements).2 :=
  .asked (nodeSendMessageentry_asked node i header elements)
    (nodeSendMessageentry_posts node i header elements)

theorem connectionSendMessageentryErrorResponse_moves (node : Node) (i : Nat)
    (request : MessageEntryConstHeader) (errorCode : UInt16) (errorName errorMessage : List UInt8) :
    node.Moves eventType (connectionSendMessageentryErrorResponse node i request errorCode errorName
      errorMessage).2 := by
  unfold connectionSendMessageentryErrorResponse
  split
  · exact .refl node
  · exact nodeSendMessageentry_moves node i _ _

theorem nodeSendResponseToSender_moves (node : Node) (event : Event) (elements : List ElementTree) :
    node.Moves eventType (nodeSendResponseToSender node event elements).2 := by
  refine .asked ?_ (nodeSendResponseToSender_posts node event elements)
  rcases nodeSendResponseToSender_cases node event elements with ⟨e, b, h⟩ | ⟨b, len, h⟩
  · rw [h]
    exact withSendBuffer_asked node _ b
  · rw [h]
    exact queue_asked node _ b len _

theorem streamopRespond_moves (node : Node) (event : Event) (capsFlags : BitVec 32) :
    node.Moves eventType (streamopRespond node event capsFlags).2 := by
  refine .asked ?_ (streamopRespond_posts node event capsFlags)
  rcases streamopRespond_cases node event capsFlags with ⟨e, b, h⟩ | ⟨b, len, h⟩
  · rw [h]
    exact withSendBuffer_asked node _ b
  · rw [h]
    exact queue_asked node _ b len _

theorem clientSendHeartbeat_moves (node : Node) (i : Nat) :
    node.Moves eventType (clientSendHeartbeat node i).2 := by
  have hcounted : (node.connection i).Worked eventType
      (clientRequestHeader (node.connection i) MESSAGEENTRYTYPE_CONNECTIONTEST []).2 :=
    .of_state rfl rfl rfl rfl
  rw [clientSendHeartbeat_eq]
  exact (Node.Moves.connection node i hcounted).trans (nodeSendMessageentry_moves _ i _ _)

/-! ## What a service is -/

theorem replyServiceNotFound_moves (node : Node) (event : Event) :
    node.Moves eventType (replyServiceNotFound node event).2 :=
  connectionSendMessageentryErrorResponse_moves node _ _ _ _ _

theorem replyServiceDef_moves (node : Node) (event : Event) (serviceDef : ConstString) :
    node.Moves eventType (replyServiceDef node event serviceDef).2 :=
  nodeSendResponseToSender_moves node event _

theorem replyServiceDefForPath_moves (node : Node) (event : Event) (services : List Nat)
    (serviceDefs : List ServiceDefinition) :
    node.Moves eventType (replyServiceDefForPath node event services serviceDefs).2 := by
  unfold replyServiceDefForPath
  split
  · exact replyServiceNotFound_moves node event
  · split
    · exact .refl node
    · split
      · exact replyServiceNotFound_moves node event
      · exact replyServiceDef_moves node event _

theorem replyByServicetype_moves (node : Node) (event : Event) (services : List Nat)
    (serviceDefs : List ServiceDefinition) (found : Result MessageElementReader) :
    node.Moves eventType (specialRequestServiceDefinition.replyByServicetype node event services
      serviceDefs found).2 := by
  unfold specialRequestServiceDefinition.replyByServicetype
  split
  · split
    · exact replyServiceNotFound_moves node event
    · exact replyServiceDefForPath_moves node event services serviceDefs
  · split
    · exact replyServiceNotFound_moves node event
    · split
      · exact replyServiceNotFound_moves node event
      · exact replyServiceDef_moves node event _

theorem specialRequestServiceDefinition_moves (node : Node) (event : Event) :
    node.Moves eventType (specialRequestServiceDefinition node event).2 := by
  unfold specialRequestServiceDefinition
  split
  · dsimp only
    split
    · split
      · exact replyServiceNotFound_moves node event
      · exact replyByServicetype_moves node event _ _ _
    · exact replyByServicetype_moves node event _ _ _
  · exact .refl node

theorem specialRequestObjectTypeName2_moves (node : Node) (event : Event) :
    node.Moves eventType (specialRequestObjectTypeName2 node event).2 := by
  unfold specialRequestObjectTypeName2
  split
  · exact .refl node
  · split
    · unfold specialRequestObjectTypeName
      split
      · exact nodeSendResponseToSender_moves node event _
      · exact connectionSendMessageentryErrorResponse_moves node _ _ _ _ _
    · exact connectionSendMessageentryErrorResponse_moves node _ _ _ _ _

/-! ## Special requests -/

theorem connectionConnectclient_worked (event : Event) (c : Connection) :
    c.Worked eventType (connectionConnectclient event c) := by
  unfold connectionConnectclient connectionChooseLocalEndpoint
  split
  · exact .of_state rfl rfl rfl rfl
  · exact .of_state rfl rfl rfl rfl

theorem connectionReduceHeader4_worked (c : Connection) :
    c.Worked eventType (connectionReduceHeader4 c) := by
  unfold connectionReduceHeader4
  split
  · exact .of_state rfl rfl rfl rfl
  · exact .refl eventType c

theorem connectionConnectedTo_worked (service : Option Nat) (c : Connection) :
    c.Worked eventType (connectionConnectedTo service c) := by
  have hservice : (c.setState STATUS_FLAGS_CLIENT_ESTABLISHED).Worked eventType
      { c.setState STATUS_FLAGS_CLIENT_ESTABLISHED with service } := .of_state rfl rfl rfl rfl
  exact (Connection.Worked.setState c (by decide) (by decide)).trans
    (hservice.trans (connectionReduceHeader4_worked _))

theorem connectionDisconnectclient_worked (c : Connection) :
    c.Worked eventType (connectionDisconnectclient c) :=
  (Connection.Worked.clearState c (by cases eventType <;> decide)).trans (.of_state rfl rfl rfl rfl)

theorem connectionStreamopret_worked (event : Event) (c : Connection) :
    c.Worked eventType (connectionStreamopret event c) := by
  have hestablished : c.Worked eventType
      ({ c with remoteNodeid := event.receivedMessage.receivedMessageHeader.senderNodeid }.setState
        STATUS_FLAGS_ESTABLISHED) :=
    (Connection.Worked.setState c (m := STATUS_FLAGS_ESTABLISHED) (by decide) (by decide)).trans
      (.of_state rfl rfl rfl rfl)
  unfold connectionStreamopret
  dsimp only
  split
  · exact hestablished.trans
      ((Connection.Worked.setState _ (by decide) (by decide)).trans (connectionReduceHeader4_worked _))
  · exact hestablished

theorem connectionConnectclientret_worked (event : Event) (c : Connection) :
    c.Worked eventType (connectionConnectclientret event c) :=
  (Connection.Worked.setState c (by decide) (by decide)).trans (.of_state rfl rfl rfl rfl)

theorem specialRequestHandleError_moves (node : Node) (hcycle : event.eventType ≠ .nextCycle)
    (err : Status) : node.Moves event.eventType (specialRequestHandleError node event err).2 := by
  unfold specialRequestHandleError
  split
  · exact .refl node
  · exact (Node.Moves.modifyConnection node _ (.setState _ (by decide) (by decide))).trans
      (consumed_moves _ hcycle)

/-- A request is answered, and then the connection is set up further. -/
theorem moves_of_reply {out : Result Unit × Node} (h : node.Moves event.eventType out.2)
    (hcycle : event.eventType ≠ .nextCycle) (after : Node → Node)
    (hafter : ∀ node', Node.Moves event.eventType node' (after node')) :
    node.Moves event.eventType (match out with
      | (.error e, node) => specialRequestHandleError node event e
      | (.ok (), node) => (.error .consumed, (after node).consumed event)).2 := by
  rcases out with ⟨e | ⟨⟩, node'⟩
  · exact h.trans (specialRequestHandleError_moves _ hcycle e)
  · exact h.trans ((hafter node').trans (consumed_moves _ hcycle))

theorem specialRequestStreamop_moves (node : Node) (hcycle : event.eventType ≠ .nextCycle) :
    node.Moves event.eventType (specialRequestStreamop node event).2 := by
  have hnodeid : node.Moves event.eventType (node.modifyConnection event.connection fun c =>
      { c with remoteNodeid := event.receivedMessage.receivedMessageHeader.senderNodeid }) :=
    .modifyConnection node _ (.of_state rfl rfl rfl rfl)
  unfold specialRequestStreamop
  dsimp only
  refine hnodeid.trans ?_
  generalize node.modifyConnection event.connection (fun c => { c with
    remoteNodeid := event.receivedMessage.receivedMessageHeader.senderNodeid }) = node₁
  generalize (if event.requestHeader.elementCount > 0 then
    nodeTransportParseCapabilities event.receivedMessage.entryReader else 0) = capsFlags
  have hreplied (node : Node) := moves_of_reply (streamopRespond_moves node event capsFlags) hcycle
    (fun node => node.modifyConnection event.connection (·.setState STATUS_FLAGS_ESTABLISHED))
    fun node => .modifyConnection node _ (.setState _ (by decide) (by decide))
  have hmessage4 : node₁.Moves event.eventType
      (node₁.modifyConnection event.connection (·.setState STATUS_FLAGS_SEND_MESSAGE4)) :=
    .modifyConnection node₁ _ (.setState _ (by decide) (by decide))
  by_cases hcaps : flagsCheck capsFlags CONNECTION_PARSE_CAPABILITY_MESSAGE4 = true
  · rw [if_pos hcaps]
    exact hmessage4.trans (hreplied _)
  · rw [if_neg hcaps]
    exact hreplied node₁

theorem specialRequestConnectclient2_moves (node : Node) (hcycle : event.eventType ≠ .nextCycle)
    (service : Option Nat) :
    node.Moves event.eventType (specialRequestConnectclient2 node event service).2 := by
  have hendpoint : node.Moves event.eventType
      (node.modifyConnection event.connection (connectionConnectclient event)) :=
    .modifyConnection node _ (connectionConnectclient_worked event _)
  refine hendpoint.trans (moves_of_reply (nodeSendMessageentry_moves _ event.connection
    (responseHeader event.requestHeader) []) hcycle
    (fun node => node.modifyConnection event.connection (connectionConnectedTo service)) ?_)
  exact fun node => .modifyConnection node _ (connectionConnectedTo_worked service _)

theorem specialRequestConnectclient_moves (node : Node) (hcycle : event.eventType ≠ .nextCycle) :
    node.Moves event.eventType (specialRequestConnectclient node event).2 := by
  unfold specialRequestConnectclient
  split
  · exact specialRequestConnectclient2_moves node hcycle none
  · split
    · exact specialRequestConnectclient2_moves node hcycle _
    · exact moves_of_reply (replyServiceNotFound_moves node event) hcycle id .refl

theorem specialRequestEmpty_moves (node : Node) (hcycle : event.eventType ≠ .nextCycle) :
    node.Moves event.eventType (specialRequestEmpty node event).2 :=
  moves_of_reply (nodeSendMessageentry_moves node event.connection
    (responseHeader event.requestHeader) []) hcycle id .refl

theorem specialRequestDefault_moves (node : Node) (hcycle : event.eventType ≠ .nextCycle) :
    node.Moves event.eventType (specialRequestDefault node event).2 := by
  have hreplied : node.Moves event.eventType (connectionSendMessageentryErrorResponse node
      event.connection event.requestHeader MESSAGEERRORTYPE_INVALIDOPERATION INVALID_OPERATION
      INVALID_OPERATION_MESSAGE).2 :=
    connectionSendMessageentryErrorResponse_moves node _ _ _ _ _
  unfold specialRequestDefault
  split
  · split
    · next hrun => rwa [hrun] at hreplied
    · next hrun =>
        rw [hrun] at hreplied
        exact hreplied.trans (consumed_moves _ hcycle)
  · exact .refl node

theorem specialRequestDisconnectclient_moves (node : Node) (hcycle : event.eventType ≠ .nextCycle) :
    node.Moves event.eventType (specialRequestDisconnectclient node event).2 := by
  have hleft : node.Moves event.eventType
      (node.modifyConnection event.connection connectionDisconnectclient) :=
    .modifyConnection node _ (connectionDisconnectclient_worked _)
  refine hleft.trans ?_
  unfold specialRequestDisconnectclient
  change Node.Moves event.eventType _ (if _ then _ else _ : Result Unit × Node).2
  split
  · exact (consumed_moves _ hcycle).trans (specialRequestDefault_moves _ hcycle)
  · exact specialRequestEmpty_moves _ hcycle

theorem specialRequestConnectiontest_moves (node : Node) (hcycle : event.eventType ≠ .nextCycle) :
    node.Moves event.eventType (specialRequestConnectiontest node event).2 := by
  unfold specialRequestConnectiontest
  split
  · exact (consumed_moves _ hcycle).trans (specialRequestDefault_moves _ hcycle)
  · exact specialRequestEmpty_moves node hcycle

theorem nodeEventSpecialRequest_moves (node : Node) (hcycle : event.eventType ≠ .nextCycle) :
    node.Moves event.eventType (nodeEventSpecialRequest node event).2 := by
  have hdefault := specialRequestDefault_moves node hcycle
  unfold nodeEventSpecialRequest
  dsimp only
  split
  · exact .refl node
  split
  · exact (Node.Moves.modifyConnection node _ (.setState _ (by decide) (by decide))).trans
      (consumed_moves _ hcycle)
  split
  · split
    · exact specialRequestStreamop_moves node hcycle
    · exact hdefault
  split
  · exact .refl node
  split
  · exact specialRequestConnectclient_moves node hcycle
  split
  · exact specialRequestDisconnectclient_moves node hcycle
  split
  · exact specialRequestConnectiontest_moves node hcycle
  split
  · split
    · exact .modifyConnection node _ (connectionStreamopret_worked event _)
    · exact hdefault
  split
  · split
    · exact .modifyConnection node _ (connectionConnectclientret_worked event _)
    · exact hdefault
  split
  · exact consumed_moves node hcycle
  · exact hdefault

/-! ## Requests -/

/-- A request that completes leaves the list and its handler is called, or the client's, or none
is there. -/
theorem dispatchToRequest_moves (node : Node) (hcycle : event.eventType ≠ .nextCycle) {r : Nat}
    (hr : r ∈ node.requestsHead.getD []) :
    node.Moves event.eventType (dispatchToRequest node event r).2 := by
  unfold dispatchToRequest
  dsimp only
  refine (Node.Moves.setRequestStatus node r (.ok ())).trans ?_
  generalize hnode : node.setRequestStatus r (.ok ()) = node₁
  have hr₁ : r ∈ node₁.requestsHead.getD [] := by
    rw [← hnode]
    exact hr
  split
  · have hended : node₁.Moves event.eventType
        (nodeCallHandler (node₁.removeRequest r) (.requestCompleted r)).2 :=
      (Node.Moves.ended node₁ hr₁ rfl).trans
        (.asked (nodeCallHandler_asked _ _) (nodeCallHandler_posts _ _))
    split
    · next hrun => rwa [hrun] at hended
    · next hrun =>
        rw [hrun] at hended
        exact hended.trans (consumed_moves _ hcycle)
  · next hcompleted =>
      have hdropped {node₂ : Node} (h : (node₂.request r).requestCompleted = false) :
          node₂.Moves event.eventType (node₂.removeRequest r) :=
        .dropped node₂ (by simp [NodeRequest.answerable, h])
      rw [Bool.not_eq_true] at hcompleted
      split
      · exact hdropped hcompleted
      · split
        · split
          · next hrun => exact moves_of_nodeCallHandler hrun rfl
          · next hrun =>
              refine (moves_of_nodeCallHandler hrun rfl).trans ((consumed_moves _ hcycle).trans
                (hdropped ?_))
              rw [Node.consumed_of_ne hcycle]
              refine Eq.trans ?_ hcompleted
              exact congrArg (fun request => (request r).requestCompleted)
                (request_of_nodeCallHandler hrun)
        · exact hdropped hcompleted

theorem nodeDispatchResponseMessage_moves (node : Node) (hcycle : event.eventType ≠ .nextCycle) :
    node.Moves event.eventType (nodeDispatchResponseMessage node event).2 := by
  unfold nodeDispatchResponseMessage
  split
  · exact .refl node
  · split
    · exact .refl node
    · next requests hhead =>
        split
        · exact .refl node
        · next r hfind =>
            refine dispatchToRequest_moves node hcycle ?_
            rw [hhead]
            exact List.mem_of_find?_eq_some hfind

/-- A request that is overdue is told so, or has no handler for that. -/
theorem nodeRequestsProcessControl_moves (node : Node) (now : Int64) :
    node.Moves eventType (nodeRequestsProcessControl node now) := by
  unfold nodeRequestsProcessControl
  cases hhead : node.requestsHead with
  | none => exact .refl node
  | some requests =>
      dsimp only
      rw [requestsProcessControlLoop_eq]
      cases hfind : requests.find? fun r => (node.request r).expired now with
      | none => exact .refl node
      | some r =>
          have hr : r ∈ (node.setRequestStatus r (.error .timeout)).requestsHead.getD [] := by
            change r ∈ node.requestsHead.getD []
            rw [hhead]
            exact List.mem_of_find?_eq_some hfind
          dsimp only
          refine (Node.Moves.setRequestStatus node r (.error .timeout)).trans ?_
          change (node.setRequestStatus r (.error .timeout)).Moves eventType (nodeNotify
            ((node.setRequestStatus r (.error .timeout)).removeRequest r) _ _)
          rw [← setRequestStatus_requestError node r (.error .timeout)]
          cases herror : ((node.setRequestStatus r (.error .timeout)).request r).requestError with
          | true =>
              exact (Node.Moves.ended _ hr rfl).trans
                (.asked (nodeCallHandler_asked _ _) (nodeCallHandler_posts _ _))
          | false => exact .dropped _ (by simp [NodeRequest.answerable, herror])

/-! ## The handshake -/

theorem Tried.moves {k : Nat} {entryType : UInt16} {sent : HandshakeState}
    {out : Result Unit × Node} (h : Tried node k entryType sent out)
    (hposts : (node.connection (node.client k).clientConnection).Posts
      (out.2.connection (node.client k).clientConnection)) : node.Moves eventType out.2 := by
  have htried {c : Connection} (requestId : UInt32)
      (hc : (node.connection (node.client k).clientConnection).Requested c)
      (hposts : (node.connection (node.client k).clientConnection).Posts c) :
      node.Moves eventType (node.tried k c requestId) :=
    (Node.Moves.connection node _ (hc.worked hposts eventType)).trans (.client _ k _)
  cases h with
  | busy hc requestId =>
      rw [Node.tried_connection] at hposts
      exact htried requestId hc hposts
  | @failed c hc requestId =>
      have hclosed : (clientHandshakeError (node.tried k c requestId) k).2.connection
          (node.client k).clientConnection = connectionClose c := by
        have hclient : ((node.tried k c requestId).client k).clientConnection =
            (node.client k).clientConnection := by rw [Node.tried_client]
        change ((node.tried k c requestId).modifyConnection _ connectionClose).connection _ = _
        rw [hclient, Node.modifyConnection_connection, Node.tried_connection]
      rw [hclosed] at hposts
      refine (htried requestId hc (hposts.of_close fun hbusy => ?_)).trans
        ((Node.Moves.modifyConnection _ _ (connectionClose_worked eventType _)).trans (.client _ k _))
      obtain ⟨sendBuffer, sendMessageLen, localEndpoint, lastRequestId, randPlan, asked, rfl⟩ := hc
      exact flagsCheck_set_of_flagsCheck hbusy
  | @sent c hc header hType =>
      have hsame : (((node.tried k c header.requestId).addEffect
          (.queued (node.client k).clientConnection header)).setHandshakeState k sent).connection
            (node.client k).clientConnection = c := Node.tried_connection node k c header.requestId
      rw [hsame] at hposts
      exact (htried _ hc hposts).trans ((Node.Moves.queued _ _ _).trans (.client _ k _))

theorem clientHandshakeError_moves (node : Node) (k : Nat) :
    node.Moves eventType (clientHandshakeError node k).2 :=
  (Node.Moves.modifyConnection node _ (connectionClose_worked eventType _)).trans (.client _ k _)

theorem clientHandshakeHandleError_moves (node : Node) (k : Nat) (rv : Status) :
    node.Moves eventType (clientHandshakeHandleError node k rv).2 := by
  unfold clientHandshakeHandleError
  split
  · exact .refl node
  · exact clientHandshakeError_moves node k

theorem clientHandshakeSend_moves (node : Node) (k : Nat) :
    node.Moves eventType (clientHandshakeSend node k).2 := by
  unfold clientHandshakeSend
  split
  · exact (clientHandshakeOpen_tried node k).moves (clientHandshakeOpen_posts node k)
  · exact .refl node
  · exact .refl node
  · exact .refl node
  · exact (clientHandshakeRequest_tried node k _ _).moves (clientHandshakeRequest_posts node k _ _)
  · exact (clientHandshakeRequest_tried node k _ _).moves (clientHandshakeRequest_posts node k _ _)
  · exact .setHandshakeState node k _
  all_goals exact clientHandshakeError_moves node k

theorem clientHandshakeReceived_moves (node : Node) (k : Nat)
    (hreceived : event.eventType = .messageReceived) :
    node.Moves event.eventType (clientHandshakeReceived node k event).2 := by
  have hcycle : event.eventType ≠ .nextCycle := by
    rw [hreceived]
    decide
  have hreplied (c : Connection) : c.Worked event.eventType (connectionReplied c) := by
    rw [hreceived]
    exact connectionReplied_worked c
  unfold clientHandshakeReceived
  dsimp only
  split
  · split
    · exact clientHandshakeError_moves node k
    · exact (Node.Moves.modifyConnection node _ (hreplied _)).trans
        ((Node.Moves.setHandshakeState _ k _).trans (consumed_moves _ hcycle))
  · split
    · exact clientHandshakeError_moves node k
    · exact (consumed_moves node hcycle).trans (.setHandshakeState _ k _)
  · split
    · exact clientHandshakeError_moves node k
    · exact (Node.Moves.setHandshakeState node k _).trans (consumed_moves _ hcycle)
  · exact .refl node

theorem clientHandshakeEvent_moves (node : Node) (k : Nat)
    (hcycle : event.eventType ≠ .nextCycle) :
    node.Moves event.eventType (clientHandshakeEvent node k event).2 := by
  have hconsumed : node.Moves event.eventType (node.consumed event) := consumed_moves node hcycle
  have hclosed : node.Moves event.eventType
      ((node.modifyConnection event.connection connectionClose).setHandshakeState k .error) :=
    (Node.Moves.modifyConnection node _ (connectionClose_worked _ _)).trans (.setHandshakeState _ k _)
  unfold clientHandshakeEvent
  split
  · next hType =>
      rw [hType]
      exact (Node.Moves.modifyConnection node _ (.consume .connectionClosed _)).trans
        (.setHandshakeState _ k _)
  · exact hclosed
  · exact hclosed
  · exact hconsumed
  · split
    all_goals first | exact hconsumed | exact .refl node
  · next hType => exact clientHandshakeReceived_moves node k hType
  · exact .refl node
  · exact hconsumed.trans (.setHandshakeState _ k _)
  · exact .refl node
  · exact .refl node

theorem clientHandshake_moves (node : Node) (k : Nat) (hcycle : event.eventType ≠ .nextCycle) :
    node.Moves event.eventType (clientHandshake node k event).2 := by
  have hspecial := nodeEventSpecialRequest_moves node hcycle
  unfold clientHandshake
  rw [if_neg hcycle]
  split
  · exact .refl node
  · split
    · next hrun =>
        rw [hrun] at hspecial
        exact hspecial.trans (consumed_moves _ hcycle)
    · next hrun =>
        rw [hrun] at hspecial
        exact hspecial.trans (clientHandshakeHandleError_moves _ k _)
    · next node₁ hrun =>
        rw [hrun] at hspecial
        have hevent := clientHandshakeEvent_moves node₁ k hcycle
        refine hspecial.trans ?_
        split
        · next hrun' => rwa [hrun'] at hevent
        · next hrun' =>
            rw [hrun'] at hevent
            exact hevent.trans (clientHandshakeSend_moves _ k)

/-! ## Clients -/

theorem runClientHandshake_moves (node : Node) (hcycle : event.eventType ≠ .nextCycle) :
    node.Moves event.eventType (runClientHandshake node event).2 := by
  unfold runClientHandshake
  dsimp only
  split
  · exact .refl node
  · split
    · exact .refl node
    · next client _ =>
        have hmoves := clientHandshake_moves node client hcycle
        split
        · next hrun =>
            rw [hrun] at hmoves
            exact hmoves.trans (nodeNotify_moves _ _ rfl)
        · next hrun => rwa [hrun] at hmoves
        · next hrun => rwa [hrun] at hmoves

theorem runClientMessage_moves (node : Node) (hcycle : event.eventType ≠ .nextCycle)
    (client : Nat) : node.Moves event.eventType (runClientMessage node event client).2 := by
  unfold runClientMessage
  split
  · split
    · next hrun => exact moves_of_nodeCallHandler hrun rfl
    · next hrun => exact (moves_of_nodeCallHandler hrun rfl).trans (consumed_moves _ hcycle)
  · exact .refl node

theorem runClient_moves (node : Node) (hcycle : event.eventType ≠ .nextCycle) :
    node.Moves event.eventType (runClient node event).2 := by
  have hhandshake := runClientHandshake_moves node hcycle
  unfold runClient
  split
  · next hrun => rwa [hrun] at hhandshake
  · next node₁ hrun =>
      rw [hrun] at hhandshake
      refine hhandshake.trans ?_
      split
      · exact .refl _
      · have hdispatch := nodeDispatchResponseMessage_moves node₁ hcycle
        split
        · next hrun' => rwa [hrun'] at hdispatch
        · next hrun' => rwa [hrun'] at hdispatch
        · next hrun' =>
            rw [hrun'] at hdispatch
            exact hdispatch.trans (runClientMessage_moves _ hcycle _)

theorem runClientConnectionEvent_moves (node : Node) (hcycle : event.eventType ≠ .nextCycle) :
    node.Moves event.eventType (runClientConnectionEvent node event) := by
  unfold runClientConnectionEvent
  dsimp only
  split
  · exact runClientHandshake_moves node hcycle
  · split
    · exact .refl node
    · have hnotified : node.Moves event.eventType (node.modifyConnection event.connection
          (·.setState STATUS_FLAGS_CLOSE_NOTIFIED)) :=
        .modifyConnection node _ (.setState _ (by decide) (by decide))
      split
      · exact hnotified
      · exact hnotified.trans (nodeNotify_moves _ _ rfl)
  · exact .refl node

/-! ## Services -/

theorem runServiceMessage_moves (node : Node) (hcycle : event.eventType ≠ .nextCycle)
    (service : Nat) (serviceObject : ServiceObjectRecord) :
    node.Moves event.eventType (runServiceMessage node event service serviceObject).2 := by
  have hdispatch := nodeDispatchResponseMessage_moves node hcycle
  unfold runServiceMessage
  split
  · next hrun => rwa [hrun] at hdispatch
  · next hrun => rwa [hrun] at hdispatch
  · next hrun =>
      rw [hrun] at hdispatch
      refine hdispatch.trans ?_
      split
      · exact (nodeCallHandler_moves _ rfl).trans (runConsumeEvent_moves _ hcycle _)
      · exact consumed_moves _ hcycle

theorem runServiceObject_moves (node : Node) (hcycle : event.eventType ≠ .nextCycle)
    (service : Option Nat) : node.Moves event.eventType (runServiceObject node event service).2 := by
  have hreply (errorCode : UInt16) (errorName errorMessage : List UInt8) :
      node.Moves event.eventType (connectionSendMessageentryErrorResponse (node.consumed event)
        event.connection event.requestHeader errorCode errorName errorMessage).2 :=
    (consumed_moves node hcycle).trans (connectionSendMessageentryErrorResponse_moves _ _ _ _ _ _)
  unfold runServiceObject
  dsimp only
  split
  · exact hreply _ _ _
  · split
    · exact .refl node
    · split
      · exact hreply _ _ _
      · exact runServiceMessage_moves node hcycle _ _

theorem runServiceRequest_moves (node : Node) (hcycle : event.eventType ≠ .nextCycle)
    (service : Option Nat) : node.Moves event.eventType (runServiceRequest node event service).2 := by
  have hconsumed := consumed_moves node hcycle
  unfold runServiceRequest
  dsimp only
  split
  · exact hconsumed.trans (specialRequestServiceDefinition_moves _ event)
  · split
    · exact hconsumed.trans (specialRequestObjectTypeName2_moves _ event)
    · split
      · have hsend : node.Moves event.eventType (nodeSendMessageentry node event.connection
            (responseHeader event.requestHeader) []).2 := nodeSendMessageentry_moves node _ _ _
        unfold nodeSendMessageentryEmptyResponse
        split
        · next hrun => rwa [hrun] at hsend
        · next hrun =>
            rw [hrun] at hsend
            exact hsend.trans (consumed_moves _ hcycle)
      · split
        · exact hconsumed
        · exact runServiceObject_moves node hcycle service

theorem runService_moves (node : Node) (hcycle : event.eventType ≠ .nextCycle) :
    node.Moves event.eventType (runService node event).2 := by
  have hspecial := nodeEventSpecialRequest_moves node hcycle
  unfold runService
  dsimp only
  split
  · next hrun => rwa [hrun] at hspecial
  · next hrun =>
      rw [hrun] at hspecial
      refine hspecial.trans ?_
      split
      · exact notifyService_moves _ _ _ _
      · split
        · exact notifyService_moves _ _ _ _
        · exact .refl _
  · next hrun => rwa [hrun] at hspecial
  · next hrun =>
      rw [hrun] at hspecial
      exact hspecial.trans (runServiceRequest_moves _ hcycle _)

theorem runServiceConnectionError_moves (node : Node) (event : Event) (now : Int64) :
    node.Moves event.eventType (runServiceConnectionError node event now) := by
  unfold runServiceConnectionError
  dsimp only
  split
  · refine (Node.Moves.modifyConnection node event.connection
      (connectionDisconnectclient_worked _)).trans
        ((Node.Moves.request _ _ fun r => ?_).trans (notifyService_moves _ _ _ _))
    split
    · rw [NodeRequest.failWith]
      split <;> rfl
    · rfl
  · exact .refl node

/-! ## Events -/

theorem runMessageReceived_moves (node : Node) (hcycle : event.eventType ≠ .nextCycle) :
    node.Moves event.eventType (runMessageReceived node event).2 := by
  have hrun : node.Moves event.eventType (if connectionIsServer (node.connection event.connection) then
      runService node event else runClient node event).2 := by
    split
    · exact runService_moves node hcycle
    · exact runClient_moves node hcycle
  unfold runMessageReceived
  split
  · next h => rwa [h] at hrun
  · next h => rwa [h] at hrun
  · next h =>
      rw [h] at hrun
      exact hrun.trans (.modifyConnection _ _ (connectionClose_worked _ _))
  · next h =>
      rw [h] at hrun
      exact hrun.trans (consumeEvent_moves _ hcycle)

/-- What is done with an event of a connection is a sequence of moves. -/
theorem nodeRunEvent_moves (node : Node) (hcycle : event.eventType ≠ .nextCycle) (now : Int64) :
    node.Moves event.eventType (nodeRunEvent node event now).2 := by
  have hclosed : node.Moves event.eventType (node.modifyConnection event.connection connectionClose) :=
    .modifyConnection node _ (connectionClose_worked _ _)
  have hconnection (node : Node) (server : Bool) :
      node.Moves event.eventType (if server then node else runClientConnectionEvent node event) := by
    split
    · exact .refl node
    · exact runClientConnectionEvent_moves node hcycle
  have herror (node : Node) (server : Bool) : node.Moves event.eventType (if server then
      runServiceConnectionError node event now else runClientConnectionEvent node event) := by
    split
    · exact runServiceConnectionError_moves node event now
    · exact runClientConnectionEvent_moves node hcycle
  unfold nodeRunEvent
  dsimp only
  split
  · exact (nodeRequestsProcessControl_moves node now).trans (consumeEvent_moves _ hcycle)
  · next hType => exact absurd hType hcycle
  · exact hclosed.trans ((herror _ _).trans (runNodeHandler_moves _ hcycle _ rfl))
  · exact hclosed.trans ((herror _ _).trans (runNodeHandler_moves _ hcycle _ rfl))
  · exact (hconnection _ _).trans (runNodeHandler_moves _ hcycle _ rfl)
  · exact (hconnection _ _).trans (runNodeHandler_moves _ hcycle _ rfl)
  · exact (hconnection _ _).trans (runNodeHandler_moves _ hcycle _ rfl)
  · exact (clientSendHeartbeat_moves node _).trans (consumeEvent_moves _ hcycle)
  · exact runNodeHandler_moves node hcycle _ rfl
  · exact runMessageReceived_moves node hcycle

end

/-! ## What moves keep -/

namespace Node.Moves

variable {eventType : EventType} {node node' : Node}

/-- No move takes part in the cycle. -/
theorem cycle (h : node.Moves eventType node') : node'.connections = node.connections ∧
    node'.headIsConnection = node.headIsConnection ∧
      node'.connectionsNext = node.connectionsNext := by
  induction h with
  | trans h h' ih ih' => exact ⟨ih'.1.trans ih.1, ih'.2.1.trans ih.2.1, ih'.2.2.trans ih.2.2⟩
  | asked h =>
      rw [h.rest]
      exact ⟨rfl, rfl, rfl⟩
  | _ => exact ⟨rfl, rfl, rfl⟩

/-- Every connection is as it was, or was worked on. -/
theorem worked (h : node.Moves eventType node') (j : Nat) :
    (node.connection j).Worked eventType (node'.connection j) := by
  induction h with
  | trans h h' ih ih' => exact ih.trans ih'
  | connection node i h =>
      rcases eq_or_ne j i with rfl | hj
      · rw [Node.setConnection_connection]
        exact h
      · rw [Node.setConnection_connection_ne node _ hj]
        exact .refl eventType _
  | asked h hposts => exact (h.connection j).worked (hposts j) eventType
  | _ => exact .refl eventType _

end Node.Moves

/-! ## The next event -/

/-- Whether an event of the type comes with no flag of the connection. -/
def EventType.isTimed : EventType → Bool
  | .noop | .connectionHeartbeatTimeout | .connectionTimeout => true
  | _ => false

/-- The event of a connection is what it has pending, or comes with the time. -/
theorem reported_pending {node : Node} {now : Int64} {i : Nat}
    (hown : (node.nextEvent now).1.connection = i)
    (hcycle : (node.nextEvent now).1.eventType ≠ .nextCycle) :
    (node.nextEvent now).1.eventType.isTimed = true ∨
      connectionPendingEvent (node.connection i) = some (node.nextEvent now).1.eventType := by
  have hrechecked := nextEvent_rechecked node now i
  obtain hevent | ⟨-, -, hreports⟩ := nextEvent_cases node now
  · rw [hevent] at hcycle
    exact absurd rfl hcycle
  · rw [hown] at hreports
    generalize (node.nextEvent now).1 = event at hreports
    cases hreports with
    | heartbeat _ => exact Or.inl rfl
    | timeout _ => exact Or.inl rfl
    | pending hpending =>
        rw [connectionEventOf_eventType]
        exact Or.inr ((connectionPendingEvent_rechecked hrechecked).symm.trans hpending)

/-- What an event does to a connection: work, on the event that it reported itself or on none. -/
theorem nodeRunNextEvent2_worked (node : Node) (now : Int64) (i : Nat) :
    ∃ eventType c, (node.connection i).Rechecked c ∧
      c.Worked eventType ((nodeRunNextEvent2 node now).2.connection i) ∧
      (eventType.isTimed = true ∨ connectionPendingEvent (node.connection i) = some eventType) := by
  have hrechecked := nextEvent_rechecked node now i
  unfold nodeRunNextEvent2
  by_cases hcycle : (node.nextEvent now).1.eventType = .nextCycle
  · have hmoves : (node.nextEvent now).2.Moves .noop
        (nodeRequestsProcessControl (node.nextEvent now).2 now) :=
      nodeRequestsProcessControl_moves _ now
    refine ⟨.noop, _, hrechecked, ?_, Or.inl rfl⟩
    unfold nodeRunEvent
    rw [hcycle]
    dsimp only
    rw [Node.consumeEvent, hcycle]
    exact hmoves.worked i
  · have hworked := (nodeRunEvent_moves (node.nextEvent now).2 hcycle now).worked i
    by_cases hown : i = (node.nextEvent now).1.connection
    · exact ⟨_, _, hrechecked, hworked, reported_pending hown.symm hcycle⟩
    · refine ⟨.noop, _, hrechecked, ?_, Or.inl rfl⟩
      exact ((nodeRunEvent_works _ _ now).connection i hown).worked hworked.posts .noop

end

end RobotRaconteurLite

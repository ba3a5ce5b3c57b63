import RobotRaconteurLite.Proofs.HandshakeSteps

/-!
# What an event of one connection leaves alone

An event belongs to a connection. What the node does with it changes that
connection and the client that uses it, and the handlers it calls are told about
that connection. Of the other connections more may be asked by the application.
-/

namespace RobotRaconteurLite

/-- The first connection, still with the same client, service and role. -/
structure Connection.Steady (c c' : Connection) : Prop where
  configFlags : c'.configFlags = c.configFlags
  client : c'.client = c.client
  service : c'.service = c.service
  clientEstablished : c'.checkState STATUS_FLAGS_CLIENT_ESTABLISHED =
    c.checkState STATUS_FLAGS_CLIENT_ESTABLISHED

namespace Connection.Steady

variable {c c' c'' : Connection}

theorem refl (c : Connection) : c.Steady c := ⟨rfl, rfl, rfl, rfl⟩

theorem trans (h : c.Steady c') (h' : c'.Steady c'') : c.Steady c'' where
  configFlags := h'.configFlags.trans h.configFlags
  client := h'.client.trans h.client
  service := h'.service.trans h.service
  clientEstablished := h'.clientEstablished.trans h.clientEstablished

theorem setState (c : Connection) {mask : BitVec 32}
    (h : mask &&& STATUS_FLAGS_CLIENT_ESTABLISHED = 0#32) : c.Steady (c.setState mask) :=
  ⟨rfl, rfl, rfl, Connection.checkState_setState h⟩

end Connection.Steady

theorem Connection.Asked.steady {c c' : Connection} (h : c.Asked c') : c.Steady c' := by
  have hstate : c'.checkState STATUS_FLAGS_CLIENT_ESTABLISHED =
      c.checkState STATUS_FLAGS_CLIENT_ESTABLISHED := h.checkState (by decide)
  obtain ⟨_, _, _, rfl⟩ := h
  exact ⟨rfl, rfl, rfl, hstate⟩

theorem Connection.Requested.steady {c c' : Connection} (h : c.Requested c') : c.Steady c' := by
  obtain ⟨_, _, _, _, _, asked, rfl⟩ := h
  refine ⟨rfl, rfl, rfl, flagsCheck_set_of_disjoint ?_⟩
  rw [BitVec.and_assoc]
  exact BitVec.and_zero

theorem connectionClose_steady (c : Connection) : c.Steady (connectionClose c) :=
  (connectionClose_asked c).steady

theorem connectionReplied_steady (c : Connection) : c.Steady (connectionReplied c) := by
  unfold connectionReplied
  split
  · refine ⟨rfl, rfl, rfl, ?_⟩
    rw [Connection.checkState_setState (by decide), Connection.checkState_clearState (by decide)]
  · exact .refl c

theorem EventType.consumedFlag_steady (eventType : EventType) :
    eventType.consumedFlag &&& STATUS_FLAGS_CLIENT_ESTABLISHED = 0#32 := by
  cases eventType <;> decide

section

variable [SizeT]

/-- A handler of a service is told about connection `i` only. -/
def Effect.Concerns (i : Nat) : Effect → Prop
  | .call (.clientEvent j _ _) => j = i
  | _ => True

/-- The node worked on an event of connection `i`. -/
structure Node.Works (node node' : Node) (i : Nat) : Prop where
  rest : node' = { node with
    connectionsNext := node'.connectionsNext
    eventsServiced := node'.eventsServiced
    connection := node'.connection
    client := node'.client
    requestsHead := node'.requestsHead
    request := node'.request
    answers := node'.answers
    effects := node'.effects }
  connection : ∀ j, j ≠ i → (node.connection j).Asked (node'.connection j)
  client : ∀ k, (node.client k).clientConnection ≠ i → node'.client k = node.client k
  clientConnection : ∀ k, (node'.client k).clientConnection = (node.client k).clientConnection
  expectedRootObjectType : ∀ k,
    (node'.client k).expectedRootObjectType = (node.client k).expectedRootObjectType
  effects : ∃ new, node'.effects = node.effects ++ new ∧ ∀ e ∈ new, e.Concerns i

/-- The node worked on an event of connection `i`, and its client, service and role stayed. -/
structure Node.Handles (node node' : Node) (i : Nat) : Prop extends node.Works node' i where
  own : (node.connection i).Steady (node'.connection i)

/-- The same, and the handshakes stayed where they were. -/
structure Node.Serves (node node' : Node) (i : Nat) : Prop extends node.Handles node' i where
  clients : node'.client = node.client

namespace Node.Works

variable {node node' node'' : Node} {i : Nat}

theorem trans (h : node.Works node' i) (h' : node'.Works node'' i) : node.Works node'' i where
  rest := by rw [h'.rest, h.rest]
  connection j hj := (h.connection j hj).trans (h'.connection j hj)
  client k hk := (h'.client k (by rw [h.clientConnection]; exact hk)).trans (h.client k hk)
  clientConnection k := (h'.clientConnection k).trans (h.clientConnection k)
  expectedRootObjectType k := (h'.expectedRootObjectType k).trans (h.expectedRootObjectType k)
  effects := by
    obtain ⟨new, hnew, hall⟩ := h.effects
    obtain ⟨new', hnew', hall'⟩ := h'.effects
    refine ⟨new ++ new', ?_, ?_⟩
    · rw [hnew', hnew, List.append_assoc]
    · intro e he
      exact (List.mem_append.mp he).elim (hall e) (hall' e)

theorem modifyConnection (node : Node) (i : Nat) (f : Connection → Connection) :
    node.Works (node.modifyConnection i f) i where
  rest := rfl
  connection j hj := by
    rw [modifyConnection_connection_ne node f hj]
    exact .refl _
  client _ _ := rfl
  clientConnection _ := rfl
  expectedRootObjectType _ := rfl
  effects := ⟨[], (List.append_nil _).symm, List.forall_mem_nil _⟩

end Node.Works

namespace Node.Handles

variable {node node' node'' : Node} {i : Nat}

theorem trans (h : node.Handles node' i) (h' : node'.Handles node'' i) : node.Handles node'' i where
  toWorks := h.toWorks.trans h'.toWorks
  own := h.own.trans h'.own

theorem modifyConnection (node : Node) (i : Nat) {f : Connection → Connection}
    (hf : (node.connection i).Steady (f (node.connection i))) :
    node.Handles (node.modifyConnection i f) i where
  toWorks := .modifyConnection node i f
  own := by
    rw [modifyConnection_connection]
    exact hf

end Node.Handles

namespace Node.Serves

variable {node node' node'' : Node} {i : Nat}

theorem trans (h : node.Serves node' i) (h' : node'.Serves node'' i) : node.Serves node'' i where
  toHandles := h.toHandles.trans h'.toHandles
  clients := h'.clients.trans h.clients

theorem modifyConnection (node : Node) (i : Nat) {f : Connection → Connection}
    (hf : (node.connection i).Steady (f (node.connection i))) :
    node.Serves (node.modifyConnection i f) i where
  toHandles := .modifyConnection node i hf
  clients := rfl

theorem refl (node : Node) (i : Nat) : node.Serves node i where
  rest := rfl
  connection _ _ := .refl _
  client _ _ := rfl
  clientConnection _ := rfl
  expectedRootObjectType _ := rfl
  effects := ⟨[], (List.append_nil _).symm, List.forall_mem_nil _⟩
  own := .refl _
  clients := rfl

theorem addEffect (node : Node) {i : Nat} {effect : Effect} (h : effect.Concerns i) :
    node.Serves (node.addEffect effect) i where
  rest := rfl
  connection _ _ := .refl _
  client _ _ := rfl
  clientConnection _ := rfl
  expectedRootObjectType _ := rfl
  effects := ⟨[effect], rfl, by simpa using h⟩
  own := .refl _
  clients := rfl

theorem setRequests (node : Node) (i : Nat) (requestsHead : Option (List Nat))
    (request : Nat → NodeRequest) : node.Serves { node with requestsHead, request } i where
  rest := rfl
  connection _ _ := .refl _
  client _ _ := rfl
  clientConnection _ := rfl
  expectedRootObjectType _ := rfl
  effects := ⟨[], (List.append_nil _).symm, List.forall_mem_nil _⟩
  own := .refl _
  clients := rfl

end Node.Serves

/-- What the application asks for belongs to every event. -/
theorem Node.Asked.serves {node node' : Node} (h : node.Asked node') (i : Nat) :
    node.Serves node' i where
  rest := by rw [h.rest]
  connection j _ := h.connection j
  client _ _ := by rw [h.rest]
  clientConnection _ := by rw [h.rest]
  expectedRootObjectType _ := by rw [h.rest]
  effects := by
    obtain ⟨queued, heffects, hqueued⟩ := h.effects
    refine ⟨queued, heffects, fun e he => ?_⟩
    cases e with
    | call handler => exact absurd (hqueued _ he) Bool.false_ne_true
    | queued j header => trivial
  own := (h.connection i).steady
  clients := by rw [h.rest]

theorem Node.Answers.works {node node' : Node} {i : Nat} (h : node.Answers node' i) :
    node.Works node' i where
  rest := by rw [h.rest]
  connection j hj := by
    rw [h.connection j hj]
    exact .refl _
  client _ _ := by rw [h.client]
  clientConnection _ := by rw [h.client]
  expectedRootObjectType _ := by rw [h.client]
  effects := by
    obtain ⟨headers, heffects, -⟩ := h.effects
    refine ⟨headers.map (.queued i), heffects, fun e he => ?_⟩
    obtain ⟨header, -, rfl⟩ := List.mem_map.mp he
    trivial

theorem nodeCallHandler_serves (node : Node) {handler : HandlerCall} {i : Nat}
    (h : (Effect.call handler).Concerns i) : node.Serves (nodeCallHandler node handler).2 i :=
  (Node.Serves.addEffect node h).trans ((nodeCallHandler_asked node handler).serves i)

theorem serves_of_nodeCallHandler {node node' : Node} {handler : HandlerCall} {rv : Result Unit}
    {i : Nat} (hrun : nodeCallHandler node handler = (rv, node'))
    (h : (Effect.call handler).Concerns i) : node.Serves node' i := by
  have hserves := nodeCallHandler_serves node h
  rwa [hrun] at hserves

theorem nodeNotify_serves (node : Node) (there : Bool) {handler : HandlerCall} {i : Nat}
    (h : (Effect.call handler).Concerns i) : node.Serves (nodeNotify node there handler) i := by
  cases there with
  | false => exact .refl node i
  | true => exact nodeCallHandler_serves node h

/-! ## Consumption and sends -/

section

variable {node : Node} {event : Event}

theorem consumeEvent_serves (node : Node) (event : Event) :
    node.Serves (node.consumeEvent event).2 event.connection := by
  by_cases hcycle : event.eventType = .nextCycle
  · unfold Node.consumeEvent
    rw [hcycle]
    exact ⟨⟨⟨rfl, fun _ _ => .refl _, fun _ _ => rfl, fun _ => rfl, fun _ => rfl,
      [], (List.append_nil _).symm, List.forall_mem_nil _⟩, .refl _⟩, rfl⟩
  · rw [Node.consumeEvent_of_ne hcycle]
    exact .modifyConnection node _ (.setState _ event.eventType.consumedFlag_steady)

theorem consumed_serves (node : Node) (event : Event) :
    node.Serves (node.consumed event) event.connection := consumeEvent_serves node event

theorem withSendBuffer_serves (node : Node) (i : Nat) (b : List UInt8) :
    node.Serves (node.withSendBuffer i b) i := (withSendBuffer_asked node i b).serves i

theorem queue_serves (node : Node) (i : Nat) (b : List UInt8) (len : Nat)
    (header : MessageEntryConstHeader) : node.Serves (node.queue i b len header) i :=
  (queue_asked node i b len header).serves i

theorem nodeSendMessageentry_serves (node : Node) (i : Nat) (header : MessageEntryConstHeader)
    (elements : List ElementTree) :
    node.Serves (nodeSendMessageentry node i header elements).2 i :=
  (nodeSendMessageentry_asked node i header elements).serves i

theorem nodeEndSendMessageentry_serves (node : Node) (i : Nat) (sendData : SendMessageentryData) :
    node.Serves (nodeEndSendMessageentry node i sendData).2 i := by
  rcases nodeEndSendMessageentry_cases node i sendData with ⟨e, b, h⟩ | ⟨b, len, h⟩
  · rw [h]
    exact withSendBuffer_serves node i b
  · rw [h]
    exact queue_serves node i b len _

theorem connectionSendMessageentryErrorResponse_serves (node : Node) (i : Nat)
    (request : MessageEntryConstHeader) (errorCode : UInt16) (errorName errorMessage : List UInt8) :
    node.Serves (connectionSendMessageentryErrorResponse node i request errorCode errorName
      errorMessage).2 i := by
  unfold connectionSendMessageentryErrorResponse
  split
  · exact .refl node i
  · exact nodeSendMessageentry_serves node i _ _

theorem nodeSendResponseToSender_serves (node : Node) (event : Event) (elements : List ElementTree) :
    node.Serves (nodeSendResponseToSender node event elements).2 event.connection := by
  rcases nodeSendResponseToSender_cases node event elements with ⟨e, b, h⟩ | ⟨b, len, h⟩
  · rw [h]
    exact withSendBuffer_serves node _ b
  · rw [h]
    exact queue_serves node _ b len _

/-! ## What a service is -/

theorem replyServiceNotFound_serves (node : Node) (event : Event) :
    node.Serves (replyServiceNotFound node event).2 event.connection :=
  connectionSendMessageentryErrorResponse_serves node _ _ _ _ _

theorem replyServiceDef_serves (node : Node) (event : Event) (serviceDef : ConstString) :
    node.Serves (replyServiceDef node event serviceDef).2 event.connection :=
  nodeSendResponseToSender_serves node event _

theorem replyServiceDefForPath_serves (node : Node) (event : Event) (services : List Nat)
    (serviceDefs : List ServiceDefinition) :
    node.Serves (replyServiceDefForPath node event services serviceDefs).2 event.connection := by
  unfold replyServiceDefForPath
  split
  · exact replyServiceNotFound_serves node event
  · split
    · exact .refl node _
    · split
      · exact replyServiceNotFound_serves node event
      · exact replyServiceDef_serves node event _

theorem replyByServicetype_serves (node : Node) (event : Event) (services : List Nat)
    (serviceDefs : List ServiceDefinition) (found : Result MessageElementReader) :
    node.Serves (specialRequestServiceDefinition.replyByServicetype node event services serviceDefs
      found).2 event.connection := by
  unfold specialRequestServiceDefinition.replyByServicetype
  split
  · split
    · exact replyServiceNotFound_serves node event
    · exact replyServiceDefForPath_serves node event services serviceDefs
  · split
    · exact replyServiceNotFound_serves node event
    · split
      · exact replyServiceNotFound_serves node event
      · exact replyServiceDef_serves node event _

theorem specialRequestServiceDefinition_serves (node : Node) (event : Event) :
    node.Serves (specialRequestServiceDefinition node event).2 event.connection := by
  unfold specialRequestServiceDefinition
  split
  · dsimp only
    split
    · split
      · exact replyServiceNotFound_serves node event
      · exact replyByServicetype_serves node event _ _ _
    · exact replyByServicetype_serves node event _ _ _
  · exact .refl node _

theorem specialRequestObjectTypeName2_serves (node : Node) (event : Event) :
    node.Serves (specialRequestObjectTypeName2 node event).2 event.connection := by
  unfold specialRequestObjectTypeName2
  split
  · exact .refl node _
  · split
    · unfold specialRequestObjectTypeName
      split
      · exact nodeSendResponseToSender_serves node event _
      · exact connectionSendMessageentryErrorResponse_serves node _ _ _ _ _
    · exact connectionSendMessageentryErrorResponse_serves node _ _ _ _ _

/-! ## Requests and handlers -/

theorem dispatchToRequest_serves (node : Node) (event : Event) (r : Nat) :
    node.Serves (dispatchToRequest node event r).2 event.connection := by
  have hstatus : node.Serves (node.setRequestStatus r (.ok ())) event.connection :=
    .setRequests node _ _ _
  have hremoved (node : Node) : node.Serves (node.removeRequest r) event.connection :=
    .setRequests node _ _ _
  unfold dispatchToRequest
  dsimp only
  refine hstatus.trans ?_
  split
  · refine (hremoved _).trans ?_
    split
    · next hrun => exact serves_of_nodeCallHandler hrun trivial
    · next hrun => exact (serves_of_nodeCallHandler hrun trivial).trans (consumed_serves _ event)
  · split
    · exact hremoved _
    · split
      · split
        · next hrun => exact serves_of_nodeCallHandler hrun trivial
        · next hrun =>
            exact (serves_of_nodeCallHandler hrun trivial).trans
              ((consumed_serves _ event).trans (hremoved _))
      · exact hremoved _

theorem nodeDispatchResponseMessage_serves (node : Node) (event : Event) :
    node.Serves (nodeDispatchResponseMessage node event).2 event.connection := by
  unfold nodeDispatchResponseMessage
  split
  · exact .refl node _
  · split
    · exact .refl node _
    · split
      · exact .refl node _
      · exact dispatchToRequest_serves node event _

theorem clientSendHeartbeat_serves (node : Node) (i : Nat) :
    node.Serves (clientSendHeartbeat node i).2 i := by
  have hheader : node.Serves (node.setConnection i (clientRequestHeader (node.connection i)
      MESSAGEENTRYTYPE_CONNECTIONTEST []).2) i :=
    .modifyConnection (f := fun c => (clientRequestHeader c MESSAGEENTRYTYPE_CONNECTIONTEST []).2)
      node i ⟨rfl, rfl, rfl, rfl⟩
  unfold clientSendHeartbeat
  dsimp only [Node.onConnection]
  refine hheader.trans ?_
  rcases nodeBeginSendMessageentry_cases (node.setConnection i (clientRequestHeader
      (node.connection i) MESSAGEENTRYTYPE_CONNECTIONTEST []).2) i
      (clientRequestHeader (node.connection i) MESSAGEENTRYTYPE_CONNECTIONTEST []).1 with
    ⟨e, b, h⟩ | ⟨sendData, b, h, -⟩
  · rw [h]
    exact withSendBuffer_serves _ i b
  · rw [h]
    exact (withSendBuffer_serves _ i b).trans (nodeEndSendMessageentry_serves _ i sendData)

theorem runConsumeEvent_serves (node : Node) (event : Event) (rv : Result Unit) :
    node.Serves (runConsumeEvent node event rv).2 event.connection := by
  unfold runConsumeEvent
  split
  · exact .refl node _
  · exact consumed_serves node event
  · exact consumeEvent_serves node event

theorem runNodeHandler_serves (node : Node) (event : Event) (there : Bool) {handler : HandlerCall}
    (h : (Effect.call handler).Concerns event.connection) :
    node.Serves (runNodeHandler node event there handler).2 event.connection := by
  unfold runNodeHandler
  split
  · exact (nodeCallHandler_serves node h).trans (runConsumeEvent_serves _ event _)
  · exact consumeEvent_serves node event

theorem runClientMessage_serves (node : Node) (event : Event) (client : Nat) :
    node.Serves (runClientMessage node event client).2 event.connection := by
  unfold runClientMessage
  split
  · split
    · next hrun => exact serves_of_nodeCallHandler hrun trivial
    · next hrun => exact (serves_of_nodeCallHandler hrun trivial).trans (consumed_serves _ event)
  · exact .refl node _

theorem notifyService_serves (node : Node) (i : Nat) (service : Option Nat)
    (eventType : ServiceEventType) : node.Serves (notifyService node i service eventType) i := by
  cases service with
  | none => exact .refl node i
  | some s => exact nodeNotify_serves node _ rfl

theorem runServiceMessage_serves (node : Node) (event : Event) (service : Nat)
    (serviceObject : ServiceObjectRecord) :
    node.Serves (runServiceMessage node event service serviceObject).2 event.connection := by
  have hdispatch := nodeDispatchResponseMessage_serves node event
  unfold runServiceMessage
  split
  · next hrun => rwa [hrun] at hdispatch
  · next hrun => rwa [hrun] at hdispatch
  · next hrun =>
      rw [hrun] at hdispatch
      refine hdispatch.trans ?_
      split
      · exact (nodeCallHandler_serves _ (by trivial)).trans (runConsumeEvent_serves _ event _)
      · exact consumed_serves _ event

theorem runServiceObject_serves (node : Node) (event : Event) (service : Option Nat) :
    node.Serves (runServiceObject node event service).2 event.connection := by
  unfold runServiceObject
  dsimp only
  split
  · exact (consumed_serves node event).trans
      (connectionSendMessageentryErrorResponse_serves _ _ _ _ _ _)
  · split
    · exact .refl node _
    · split
      · exact (consumed_serves node event).trans
          (connectionSendMessageentryErrorResponse_serves _ _ _ _ _ _)
      · exact runServiceMessage_serves node event _ _

theorem runServiceRequest_serves (node : Node) (event : Event) (service : Option Nat) :
    node.Serves (runServiceRequest node event service).2 event.connection := by
  unfold runServiceRequest
  dsimp only
  split
  · exact (consumed_serves node event).trans (specialRequestServiceDefinition_serves _ event)
  · split
    · exact (consumed_serves node event).trans (specialRequestObjectTypeName2_serves _ event)
    · split
      · have hsend := nodeSendMessageentry_serves node event.connection
          (responseHeader event.requestHeader) []
        unfold nodeSendMessageentryEmptyResponse
        split
        · next hrun => rwa [hrun] at hsend
        · next hrun =>
            rw [hrun] at hsend
            exact hsend.trans (consumed_serves _ event)
      · split
        · exact consumed_serves node event
        · exact runServiceObject_serves node event service

theorem requestsProcessControlLoop_serves (node : Node) (now : Int64) (requests : List Nat)
    (i : Nat) : node.Serves (requestsProcessControlLoop node now requests) i := by
  induction requests with
  | nil => exact .refl node i
  | cons r rest ih =>
      rw [requestsProcessControlLoop]
      split
      · exact (Node.Serves.setRequests node i _ _).trans (nodeNotify_serves _ _ trivial)
      · exact ih

theorem nodeRequestsProcessControl_serves (node : Node) (now : Int64) (i : Nat) :
    node.Serves (nodeRequestsProcessControl node now) i := by
  unfold nodeRequestsProcessControl
  split
  · exact .refl node i
  · exact requestsProcessControlLoop_serves node now _ i

/-! ## The handshake -/

theorem Node.setClient_client_ne (node : Node) {k j : Nat} (record : ClientRecord) (h : j ≠ k) :
    (node.setClient k record).client j = node.client j := by
  simp [Node.setClient, h]

/-- A client that uses connection `i` may change, but not its connection and its object type. -/
theorem Node.Handles.setClient {k i : Nat} (hk : (node.client k).clientConnection = i)
    {record : ClientRecord} (hconnection : record.clientConnection = i)
    (hType : record.expectedRootObjectType = (node.client k).expectedRootObjectType) :
    node.Handles (node.setClient k record) i where
  rest := rfl
  connection _ _ := .refl _
  client k' hk' := by
    have hne : k' ≠ k := by
      rintro rfl
      exact hk' hk
    exact Node.setClient_client_ne node record hne
  clientConnection k' := by
    rcases eq_or_ne k' k with rfl | hne
    · rw [Node.setClient_client, hconnection, hk]
    · rw [Node.setClient_client_ne node record hne]
  expectedRootObjectType k' := by
    rcases eq_or_ne k' k with rfl | hne
    · rw [Node.setClient_client, hType]
    · rw [Node.setClient_client_ne node record hne]
  effects := ⟨[], (List.append_nil _).symm, List.forall_mem_nil _⟩
  own := .refl _

theorem Node.Handles.setHandshakeState {k i : Nat} (hk : (node.client k).clientConnection = i)
    (s : HandshakeState) : node.Handles (node.setHandshakeState k s) i := .setClient hk hk rfl

theorem Node.Handles.tried {k i : Nat} (hk : (node.client k).clientConnection = i) {c : Connection}
    (hc : (node.connection (node.client k).clientConnection).Requested c) (requestId : UInt32) :
    node.Handles (node.tried k c requestId) i := by
  subst hk
  exact (Node.Handles.modifyConnection (f := fun _ => c) node (node.client k).clientConnection
    hc.steady).trans (.setClient rfl rfl rfl)

theorem clientHandshakeError_handles {k i : Nat} (hk : (node.client k).clientConnection = i) :
    node.Handles (clientHandshakeError node k).2 i := by
  unfold clientHandshakeError
  rw [hk]
  exact (Node.Handles.modifyConnection node i (connectionClose_steady _)).trans
    (.setHandshakeState (by exact hk) _)

theorem clientHandshakeHandleError_handles {k i : Nat}
    (hk : (node.client k).clientConnection = i) (rv : Status) :
    node.Handles (clientHandshakeHandleError node k rv).2 i := by
  unfold clientHandshakeHandleError
  split
  · exact (Node.Serves.refl node i).toHandles
  · exact clientHandshakeError_handles hk

theorem Tried.handles {k i : Nat} (hk : (node.client k).clientConnection = i) {entryType : UInt16}
    {sent : HandshakeState} {out : Result Unit × Node} (h : Tried node k entryType sent out) :
    node.Handles out.2 i := by
  cases h with
  | busy hc requestId => exact .tried hk hc requestId
  | failed hc requestId =>
      refine (Node.Handles.tried hk hc requestId).trans (clientHandshakeError_handles ?_)
      rw [Node.tried_client]
      exact hk
  | sent hc hType =>
      refine (Node.Handles.tried hk hc _).trans
        ((Node.Serves.addEffect _ (by trivial)).toHandles.trans (.setHandshakeState ?_ _))
      change ((node.tried k _ _).client k).clientConnection = i
      rw [Node.tried_client]
      exact hk

theorem clientHandshakeSend_handles {k i : Nat} (hk : (node.client k).clientConnection = i) :
    node.Handles (clientHandshakeSend node k).2 i := by
  unfold clientHandshakeSend
  split
  · exact (clientHandshakeOpen_tried node k).handles hk
  · exact (Node.Serves.refl node i).toHandles
  · exact (Node.Serves.refl node i).toHandles
  · exact (Node.Serves.refl node i).toHandles
  · exact (clientHandshakeRequest_tried node k _ _).handles hk
  · exact (clientHandshakeRequest_tried node k _ _).handles hk
  · exact .setHandshakeState hk _
  all_goals exact clientHandshakeError_handles hk

theorem clientHandshakeReceived_handles {k : Nat}
    (hk : (node.client k).clientConnection = event.connection) :
    node.Handles (clientHandshakeReceived node k event).2 event.connection := by
  have hconsumed (node : Node) : node.Handles (node.consumed event) event.connection :=
    (consumed_serves node event).toHandles
  unfold clientHandshakeReceived
  dsimp only
  split
  · split
    · exact clientHandshakeError_handles hk
    · rw [hk]
      exact ((Node.Handles.modifyConnection node _ (connectionReplied_steady _)).trans
        (.setHandshakeState (by exact hk) _)).trans (hconsumed _)
  · split
    · exact clientHandshakeError_handles hk
    · refine (hconsumed node).trans (.setHandshakeState ?_ _)
      rw [(hconsumed node).clientConnection]
      exact hk
  · split
    · exact clientHandshakeError_handles hk
    · exact (Node.Handles.setHandshakeState hk _).trans (hconsumed _)
  · exact (Node.Serves.refl node _).toHandles

theorem clientHandshakeEvent_handles {k : Nat}
    (hk : (node.client k).clientConnection = event.connection) :
    node.Handles (clientHandshakeEvent node k event).2 event.connection := by
  have hconsumed : node.Handles (node.consumed event) event.connection :=
    (consumed_serves node event).toHandles
  have hself : node.Handles node event.connection := (Node.Serves.refl node _).toHandles
  have hclosed {f : Connection → Connection} (hf : ∀ c : Connection, c.Steady (f c)) :
      node.Handles ((node.modifyConnection event.connection f).setHandshakeState k .error)
        event.connection :=
    (Node.Handles.modifyConnection node _ (hf _)).trans (.setHandshakeState (by exact hk) _)
  unfold clientHandshakeEvent
  split
  · exact hclosed fun c => .setState c (by decide)
  · exact hclosed connectionClose_steady
  · exact hclosed connectionClose_steady
  · exact hconsumed
  · split
    all_goals first | exact hconsumed | exact hself
  · exact clientHandshakeReceived_handles hk
  · exact hself
  · exact hconsumed.trans (.setHandshakeState (by rw [hconsumed.clientConnection]; exact hk) _)
  · exact hself
  · exact hself

theorem clientHandshake_works (node : Node) (k : Nat) {event : Event}
    (hcycle : event.eventType ≠ .nextCycle) :
    node.Works (clientHandshake node k event).2 event.connection := by
  unfold clientHandshake
  rw [if_neg hcycle]
  split
  · exact (Node.Serves.refl node _).toWorks
  · next hown =>
      have hk : (node.client k).clientConnection = event.connection := (not_not.mp hown).symm
      have hspecial := ((nodeEventSpecialRequest_cases node event).answers hcycle).works
      split
      · next hrun =>
          rw [hrun] at hspecial
          exact hspecial.trans (consumed_serves _ event).toWorks
      · next hrun =>
          rw [hrun] at hspecial
          refine hspecial.trans (clientHandshakeHandleError_handles ?_ _).toWorks
          rw [hspecial.clientConnection, hk]
      · next node₁ hrun =>
          rw [hrun] at hspecial
          have hk₁ : (node₁.client k).clientConnection = event.connection := by
            rw [hspecial.clientConnection, hk]
          have hevent := (clientHandshakeEvent_handles hk₁).toWorks
          refine hspecial.trans ?_
          split
          · next hrun' => rwa [hrun'] at hevent
          · next node₂ hrun' =>
              rw [hrun'] at hevent
              refine hevent.trans (clientHandshakeSend_handles ?_).toWorks
              rw [hevent.clientConnection, hk₁]

/-! ## Events -/

theorem runClientHandshake_works (node : Node) {event : Event}
    (hcycle : event.eventType ≠ .nextCycle) :
    node.Works (runClientHandshake node event).2 event.connection := by
  unfold runClientHandshake
  dsimp only
  split
  · exact (Node.Serves.refl node _).toWorks
  · split
    · exact (Node.Serves.refl node _).toWorks
    · next client _ =>
        have hworks := clientHandshake_works node client hcycle
        split
        · next hrun =>
            rw [hrun] at hworks
            exact hworks.trans (nodeNotify_serves _ _ (by trivial)).toWorks
        · next hrun => rwa [hrun] at hworks
        · next hrun => rwa [hrun] at hworks

/-- What comes after the handshake of a client. -/
theorem runClient_cases (node : Node) (event : Event) :
    (∃ e node₁, runClientHandshake node event = (.error e, node₁) ∧
      runClient node event = (.error e, node₁)) ∨
      ∃ node₁, runClientHandshake node event = (.ok (), node₁) ∧
        node₁.Serves (runClient node event).2 event.connection := by
  unfold runClient
  rcases h : runClientHandshake node event with ⟨e | ⟨⟩, node₁⟩
  · exact Or.inl ⟨e, node₁, rfl, rfl⟩
  · refine Or.inr ⟨node₁, rfl, ?_⟩
    dsimp only
    split
    · exact .refl node₁ _
    · next client _ =>
        have hdispatch := nodeDispatchResponseMessage_serves node₁ event
        split
        · next hrun => rwa [hrun] at hdispatch
        · next hrun => rwa [hrun] at hdispatch
        · next hrun =>
            rw [hrun] at hdispatch
            exact hdispatch.trans (runClientMessage_serves _ event client)

theorem runClient_works (node : Node) {event : Event} (hcycle : event.eventType ≠ .nextCycle) :
    node.Works (runClient node event).2 event.connection := by
  have hhandshake := runClientHandshake_works node hcycle
  rcases runClient_cases node event with ⟨e, node₁, h, hrun⟩ | ⟨node₁, h, hserves⟩
  · rw [h] at hhandshake
    rwa [hrun]
  · rw [h] at hhandshake
    exact hhandshake.trans hserves.toWorks

theorem runClientConnectionEvent_works (node : Node) {event : Event}
    (hcycle : event.eventType ≠ .nextCycle) :
    node.Works (runClientConnectionEvent node event) event.connection := by
  have hself : node.Works node event.connection := (Node.Serves.refl node _).toWorks
  unfold runClientConnectionEvent
  dsimp only
  split
  · exact runClientHandshake_works node hcycle
  · split
    · exact hself
    · split
      · exact .modifyConnection node _ _
      · exact (Node.Works.modifyConnection node _ _).trans
          (nodeNotify_serves _ _ (by trivial)).toWorks
  · exact hself

theorem runService_works (node : Node) {event : Event} (hcycle : event.eventType ≠ .nextCycle) :
    node.Works (runService node event).2 event.connection := by
  have hspecial := ((nodeEventSpecialRequest_cases node event).answers hcycle).works
  unfold runService
  dsimp only
  split
  · next hrun => rwa [hrun] at hspecial
  · next hrun =>
      rw [hrun] at hspecial
      refine hspecial.trans ?_
      split
      · exact (notifyService_serves _ _ _ _).toWorks
      · split
        · exact (notifyService_serves _ _ _ _).toWorks
        · exact (Node.Serves.refl _ _).toWorks
  · next hrun => rwa [hrun] at hspecial
  · next hrun =>
      rw [hrun] at hspecial
      exact hspecial.trans (runServiceRequest_serves _ event _).toWorks

theorem runServiceConnectionError_works (node : Node) (event : Event) (now : Int64) :
    node.Works (runServiceConnectionError node event now) event.connection := by
  unfold runServiceConnectionError
  dsimp only
  split
  · exact (Node.Works.modifyConnection node _ _).trans
      ((Node.Serves.setRequests _ _ _ _).toWorks.trans (notifyService_serves _ _ _ _).toWorks)
  · exact (Node.Serves.refl node _).toWorks

theorem runMessageReceived_works (node : Node) {event : Event}
    (hcycle : event.eventType ≠ .nextCycle) :
    node.Works (runMessageReceived node event).2 event.connection := by
  have hrun : node.Works (if connectionIsServer (node.connection event.connection) then
      runService node event else runClient node event).2 event.connection := by
    split
    · exact runService_works node hcycle
    · exact runClient_works node hcycle
  unfold runMessageReceived
  split
  · next h => rwa [h] at hrun
  · next h => rwa [h] at hrun
  · next h =>
      rw [h] at hrun
      exact hrun.trans (.modifyConnection _ _ _)
  · next h =>
      rw [h] at hrun
      exact hrun.trans (consumeEvent_serves _ event).toWorks

/-- Everything that is done with an event is work on its connection. -/
theorem nodeRunEvent_works (node : Node) (event : Event) (now : Int64) :
    node.Works (nodeRunEvent node event now).2 event.connection := by
  have hhandler (node : Node) (there : Bool) (handler : HandlerCall)
      (h : (Effect.call handler).Concerns event.connection) :
      node.Works (runNodeHandler node event there handler).2 event.connection :=
    (runNodeHandler_serves node event there h).toWorks
  have hcycle : node.Works ((nodeRequestsProcessControl node now).consumeEvent event).2
      event.connection :=
    ((nodeRequestsProcessControl_serves node now _).trans (consumeEvent_serves _ event)).toWorks
  have hconnection (hne : event.eventType ≠ .nextCycle) :
      node.Works (if connectionIsServer (node.connection event.connection) then node
        else runClientConnectionEvent node event) event.connection := by
    split
    · exact (Node.Serves.refl node _).toWorks
    · exact runClientConnectionEvent_works node hne
  have hclosed (hne : event.eventType ≠ .nextCycle) :
      node.Works (if connectionIsServer (node.connection event.connection) then
          runServiceConnectionError (node.modifyConnection event.connection connectionClose) event now
        else runClientConnectionEvent (node.modifyConnection event.connection connectionClose) event)
        event.connection := by
    refine (Node.Works.modifyConnection node _ connectionClose).trans ?_
    split
    · exact runServiceConnectionError_works _ event now
    · exact runClientConnectionEvent_works _ hne
  unfold nodeRunEvent
  dsimp only
  split
  · exact hcycle
  · exact hcycle
  · next hType => exact (hclosed (by rw [hType]; decide)).trans (hhandler _ _ _ (by trivial))
  · next hType => exact (hclosed (by rw [hType]; decide)).trans (hhandler _ _ _ (by trivial))
  · next hType => exact (hconnection (by rw [hType]; decide)).trans (hhandler _ _ _ (by trivial))
  · next hType => exact (hconnection (by rw [hType]; decide)).trans (hhandler _ _ _ (by trivial))
  · next hType => exact (hconnection (by rw [hType]; decide)).trans (hhandler _ _ _ (by trivial))
  · exact ((clientSendHeartbeat_serves node _).trans (consumeEvent_serves _ event)).toWorks
  · exact hhandler _ _ _ (by trivial)
  · next hType => exact runMessageReceived_works node (by rw [hType]; decide)

end

end

end RobotRaconteurLite

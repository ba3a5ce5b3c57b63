import RobotRaconteurLite.Proofs.NodeFrames

/-!
# Messages that cannot be read

A received message that the node cannot read is reported like any other, with the
error beside an entry header of zeros. The special requests look at the error
before anything else, so a server and a client in its handshake stop there. An
established client does not look: the message goes to the request with the
number zero, or to the message handler of the client.
-/

namespace RobotRaconteurLite

/-- Handlers that are given a message, or the answer to a request. -/
def HandlerCall.givesMessage : HandlerCall → Bool
  | .serviceMessageReceived _ _ => true
  | .clientRequestCompleted _ _ => true
  | .clientMessageReceived _ => true
  | .requestCompleted _ => true
  | _ => false

/-- What a message that cannot be read leaves of its connection. -/
def connectionFailed (c : Connection) : Connection :=
  connectionConsumeMessageReceived (connectionError c)

@[simp] theorem connectionConsumeMessageReceived_failed (c : Connection) :
    connectionConsumeMessageReceived (connectionFailed c) = connectionFailed c := by
  simp only [connectionFailed, connectionConsumeMessageReceived, Connection.setState, flagsSet,
    BitVec.or_assoc, BitVec.or_self]

theorem connectionFailed_marked (c : Connection) : (connectionFailed c).checkState
    (STATUS_FLAGS_ERROR ||| STATUS_FLAGS_CLOSE_REQUESTED) = true :=
  flagsCheck_set_of_flagsCheck (flagsCheck_set_of_overlap (by decide))

section

variable [SizeT]

/-- What came in on connection `i` between the two nodes went no further: no handler was given
it, no request was completed, and the connection has an error or is to be closed. -/
structure Node.Contained (node node' : Node) (i : Nat) : Prop where
  calls : ∃ new, node'.calls = node.calls ++ new ∧ ∀ call ∈ new, call.givesMessage = false
  requestsHead : node'.requestsHead = node.requestsHead
  request : node'.request = node.request
  marked : (node'.connection i).checkState
    (STATUS_FLAGS_ERROR ||| STATUS_FLAGS_CLOSE_REQUESTED) = true

/-- A request that has the number zero on the connection. -/
def Node.takesZero (node : Node) (i : Nat) (r : Nat) : Prop :=
  (node.request r).requestId = 0 ∧
    (node.request r).localEndpoint = (node.connection i).localEndpoint ∧
    (node.request r).connection = i

/-- A connection on which a message that cannot be read is stopped: the error is looked at, or the
connection is as good as closed already and there is nobody to take the message. -/
def Node.StopsUnparseable (node : Node) (i : Nat) : Prop :=
  connectionIsServer (node.connection i) = true ∨
    (node.connection i).checkState STATUS_FLAGS_CLIENT_ESTABLISHED = false ∨
    (node.connection i).checkState
        (STATUS_FLAGS_ERROR ||| STATUS_FLAGS_CLOSE_REQUESTED) = true ∧
      ∀ client, (node.connection i).client = some client →
        (node.client client).messageReceived = false ∧
          ∀ r ∈ node.requestsHead.getD [], ¬ node.takesZero i r

theorem Node.Contained.of_modifyConnection {node : Node} {i : Nat} {f : Connection → Connection}
    (h : (f (node.connection i)).checkState
      (STATUS_FLAGS_ERROR ||| STATUS_FLAGS_CLOSE_REQUESTED) = true) :
    node.Contained (node.modifyConnection i f) i where
  calls := ⟨[], (List.append_nil _).symm, List.forall_mem_nil _⟩
  requestsHead := rfl
  request := rfl
  marked := by
    rw [modifyConnection_connection]
    exact h

theorem Node.Contained.not_of_call {node node' : Node} {i : Nat} {call : HandlerCall}
    {rest : List HandlerCall} (hcalls : node'.calls = node.calls ++ call :: rest)
    (hgives : call.givesMessage = true) : ¬ node.Contained node' i := by
  intro h
  obtain ⟨new, hnew, hnone⟩ := h.calls
  rw [hcalls, List.append_cancel_left_eq] at hnew
  have hfalse := hnone call (by rw [← hnew]; exact List.mem_cons_self)
  rw [hgives] at hfalse
  cases hfalse

/-! ## What is reported -/

theorem nodeReceiveMessageentry_error {c : Connection} {e : Status}
    (h : (nodeReceiveMessageentry c).2 = .error e) :
    (nodeReceiveMessageentry c).1.receivedMessageEntryHeader =
      MessageEntryHeaderOf.zero (.constant []) := by
  unfold nodeReceiveMessageentry at h ⊢
  split
  · rfl
  · split
    · rfl
    · dsimp only
      split
      · rfl
      · split
        · rfl
        · next hheader =>
            simp only [*] at h
            cases h

/-- A received message that could not be read. -/
structure Event.Unparseable (event : Event) : Prop where
  eventType : event.eventType = .messageReceived
  eventErrorCode : ∃ e, event.eventErrorCode = .error e
  requestHeader : event.requestHeader = MessageEntryHeaderOf.zero (.constant [])

theorem Connection.Reports.unparseable {c : Connection} {i : Nat} {now : Int64} {event : Event}
    {e : Status} (h : c.Reports i now event) (hType : event.eventType = .messageReceived)
    (he : event.eventErrorCode = .error e) : event.Unparseable := by
  cases h with
  | pending hpending =>
      rw [connectionEventOf_eventType] at hType
      subst hType
      exact ⟨rfl, ⟨e, he⟩, nodeReceiveMessageentry_error he⟩
  | heartbeat _ => cases hType
  | timeout _ => cases hType

/-! ## The special requests -/

namespace Event.Unparseable

variable {node : Node} {event : Event}

theorem consumed (h : event.Unparseable) : node.consumed event =
    node.modifyConnection event.connection connectionConsumeMessageReceived := by
  rw [Node.consumed_of_ne (by rw [h.eventType]; decide), h.eventType]
  rfl

theorem specialRequest (h : event.Unparseable) : nodeEventSpecialRequest node event =
    (.error .consumed, node.modifyConnection event.connection connectionFailed) := by
  obtain ⟨e, he⟩ := h.eventErrorCode
  have hType : ¬ event.requestHeader.entryType > 500 := by
    rw [h.requestHeader]
    exact of_decide_eq_false rfl
  unfold nodeEventSpecialRequest
  rw [if_neg hType, he, h.consumed, Node.modifyConnection_modifyConnection]
  rfl

theorem runService (h : event.Unparseable) : RobotRaconteurLite.runService node event =
    (.ok (), node.modifyConnection event.connection connectionFailed) := by
  unfold RobotRaconteurLite.runService
  rw [h.specialRequest, h.requestHeader]
  rfl

/-- The handshake of a client stops at the error, or at a connection that is not its own. -/
theorem clientHandshake (h : event.Unparseable) (client : Nat) :
    RobotRaconteurLite.clientHandshake node client event = (.error .unhandledEvent, node) ∨
      RobotRaconteurLite.clientHandshake node client event =
        (.error .consumed, node.modifyConnection event.connection connectionFailed) := by
  unfold RobotRaconteurLite.clientHandshake
  rw [if_neg (by rw [h.eventType]; decide), h.specialRequest]
  split
  · exact Or.inl rfl
  · dsimp only
    rw [h.consumed, Node.modifyConnection_modifyConnection]
    simp only [connectionConsumeMessageReceived_failed]
    exact Or.inr trivial

theorem runClientHandshake (h : event.Unparseable)
    (hstate : (node.connection event.connection).checkState STATUS_FLAGS_CLIENT_ESTABLISHED =
      false) :
    (∃ e, e ≠ .retry ∧ e ≠ .consumed ∧
      RobotRaconteurLite.runClientHandshake node event = (.error e, node)) ∨
      RobotRaconteurLite.runClientHandshake node event =
        (.error .consumed, node.modifyConnection event.connection connectionFailed) := by
  unfold RobotRaconteurLite.runClientHandshake
  dsimp only
  rw [hstate, if_neg Bool.false_ne_true]
  split
  · exact Or.inl ⟨.undefined, by decide, by decide, rfl⟩
  · next client _ =>
      have hcases : RobotRaconteurLite.clientHandshake node client event =
          (.error .unhandledEvent, node) ∨ _ := h.clientHandshake client
      rcases hcases with hrun | hrun
      · rw [hrun]
        exact Or.inl ⟨.unhandledEvent, by decide, by decide, rfl⟩
      · rw [hrun]
        exact Or.inr rfl

/-- What is done with the message before the client is established. -/
theorem runClient_of_not_established (h : event.Unparseable)
    (hstate : (node.connection event.connection).checkState STATUS_FLAGS_CLIENT_ESTABLISHED =
      false) :
    (∃ e, e ≠ .retry ∧ e ≠ .consumed ∧ runClient node event = (.error e, node)) ∨
      runClient node event =
        (.error .consumed, node.modifyConnection event.connection connectionFailed) := by
  unfold runClient
  rcases h.runClientHandshake hstate with ⟨e, hretry, hconsumed, hrun⟩ | hrun
  · rw [hrun]
    exact Or.inl ⟨e, hretry, hconsumed, rfl⟩
  · rw [hrun]
    exact Or.inr rfl

end Event.Unparseable

/-! ## The established client -/

/-- A request that is answered is told to a handler, or taken out of the list in silence. -/
theorem dispatchToRequest_cases (node : Node) (event : Event) (r : Nat) :
    (∃ call, call.givesMessage = true ∧ (dispatchToRequest node event r).1 ≠ .ok () ∧
      (dispatchToRequest node event r).2.calls = node.calls ++ [call]) ∨
      dispatchToRequest node event r =
        (.ok (), (node.setRequestStatus r (.ok ())).removeRequest r) := by
  unfold dispatchToRequest
  dsimp only
  split
  · split
    · next hrun =>
        exact Or.inl ⟨.requestCompleted r, rfl, nofun, (calls_of_nodeCallHandler hrun :)⟩
    · next hrun =>
        exact Or.inl ⟨.requestCompleted r, rfl, nofun,
          (consumed_calls _ event).trans (calls_of_nodeCallHandler hrun :)⟩
  · split
    · exact Or.inr rfl
    · next client _ =>
        split
        · split
          · next hrun =>
              exact Or.inl ⟨.clientRequestCompleted client r, rfl, nofun,
                (calls_of_nodeCallHandler hrun :)⟩
          · next hrun =>
              exact Or.inl ⟨.clientRequestCompleted client r, rfl, nofun,
                (consumed_calls _ event).trans (calls_of_nodeCallHandler hrun :)⟩
        · exact Or.inr rfl

/-- The message handler is called, or there is none. -/
theorem runClientMessage_cases (node : Node) (event : Event) (client : Nat) :
    (node.client client).messageReceived = false ∧
        runClientMessage node event client = (.ok (), node) ∨
      (node.client client).messageReceived = true ∧
        (runClientMessage node event client).2.calls =
          node.calls ++ [.clientMessageReceived client] ∧
        (runClientMessage node event client).2.requestsHead = node.requestsHead := by
  unfold runClientMessage
  split
  · next hthere =>
      have hhead := nodeCallHandler_requestsHead node (.clientMessageReceived client)
      split
      · next hrun =>
          rw [hrun] at hhead
          exact Or.inr ⟨hthere, calls_of_nodeCallHandler hrun, hhead⟩
      · next hrun =>
          rw [hrun] at hhead
          exact Or.inr ⟨hthere, (consumed_calls _ event).trans (calls_of_nodeCallHandler hrun),
            (consumed_requestsHead _ event).trans hhead⟩
  · next hthere => exact Or.inl ⟨Bool.not_eq_true _ ▸ hthere, rfl⟩

/-- What is done with the status of a message changes no more than the connection. -/
theorem runMessageReceived_client {node : Node} {event : Event}
    (hserver : connectionIsServer (node.connection event.connection) = false) :
    (runMessageReceived node event).2.calls = (runClient node event).2.calls ∧
      (runMessageReceived node event).2.requestsHead = (runClient node event).2.requestsHead := by
  unfold runMessageReceived
  rw [hserver, if_neg Bool.false_ne_true]
  cases hrun : runClient node event with
  | mk rv node' =>
      split
      · next heq => cases heq; exact ⟨rfl, rfl⟩
      · next heq => cases heq; exact ⟨rfl, rfl⟩
      · next heq => cases heq; exact ⟨rfl, rfl⟩
      · next heq =>
          cases heq
          exact ⟨consumeEvent_calls node' event, consumeEvent_requestsHead node' event⟩

section

variable {node : Node} {event : Event}

theorem Event.Unparseable.matches_iff (h : event.Unparseable) (r : Nat) :
    (node.request r).matches (node.connection event.connection) event = true ↔
      node.takesZero event.connection r := by
  simp only [NodeRequest.matches, h.requestHeader, Bool.and_eq_true, beq_iff_eq, and_assoc,
    Node.takesZero]
  rfl

theorem Event.Unparseable.dispatch_of_takesZero (h : event.Unparseable) {r : Nat}
    (hr : r ∈ node.requestsHead.getD []) (hzero : node.takesZero event.connection r) :
    ∃ requests r', node.requestsHead = some requests ∧ r' ∈ requests ∧
      nodeDispatchResponseMessage node event = dispatchToRequest node event r' := by
  unfold nodeDispatchResponseMessage
  rw [if_neg (not_not_intro h.eventType)]
  cases hhead : node.requestsHead with
  | none =>
      rw [hhead] at hr
      cases hr
  | some requests =>
      rw [hhead] at hr
      dsimp only
      cases hfind : requests.find? fun r =>
          (node.request r).matches (node.connection event.connection) event with
      | none => exact absurd ((h.matches_iff r).mpr hzero) (List.find?_eq_none.mp hfind r hr)
      | some r' => exact ⟨requests, r', rfl, List.mem_of_find?_eq_some hfind, rfl⟩

theorem Event.Unparseable.dispatch_of_not_takesZero (h : event.Unparseable)
    (hnone : ∀ r ∈ node.requestsHead.getD [], ¬ node.takesZero event.connection r) :
    nodeDispatchResponseMessage node event = (.ok (), node) := by
  unfold nodeDispatchResponseMessage
  rw [if_neg (not_not_intro h.eventType)]
  cases hhead : node.requestsHead with
  | none => rfl
  | some requests =>
      rw [hhead] at hnone
      have hfind : requests.find? (fun r =>
          (node.request r).matches (node.connection event.connection) event) = none :=
        List.find?_eq_none.mpr fun r hr hmatch => hnone r hr ((h.matches_iff r).mp hmatch)
      dsimp only
      rw [hfind]

theorem runClient_of_established
    (hstate : (node.connection event.connection).checkState STATUS_FLAGS_CLIENT_ESTABLISHED = true)
    {client : Nat} (hclient : (node.connection event.connection).client = some client) :
    runClient node event = match nodeDispatchResponseMessage node event with
      | (.error .consumed, node) => (.ok (), node)
      | (.error e, node) => (.error e, node)
      | (.ok (), node) => runClientMessage node event client := by
  have hhandshake : runClientHandshake node event = (.ok (), node) := if_pos hstate
  unfold runClient
  rw [hhandshake]
  dsimp only
  split
  · next hnone =>
      rw [hclient] at hnone
      cases hnone
  · next hsome =>
      rw [hclient] at hsome
      injection hsome with hsome
      subst hsome
      rfl

/-- A pending request with the number zero is answered. -/
theorem not_contained_of_takesZero (h : event.Unparseable)
    (hserver : connectionIsServer (node.connection event.connection) = false)
    (hstate : (node.connection event.connection).checkState STATUS_FLAGS_CLIENT_ESTABLISHED = true)
    {client : Nat} (hclient : (node.connection event.connection).client = some client)
    {r : Nat} (hr : r ∈ node.requestsHead.getD []) (hzero : node.takesZero event.connection r) :
    ¬ node.Contained (runMessageReceived node event).2 event.connection := by
  obtain ⟨requests, r', hhead, hmem, hdispatch⟩ := h.dispatch_of_takesZero hr hzero
  obtain ⟨hcalls, hrequests⟩ := runMessageReceived_client hserver
  rw [runClient_of_established hstate hclient, hdispatch] at hcalls hrequests
  rcases dispatchToRequest_cases node event r' with ⟨call, hgives, hne, hcall⟩ | hremoved
  · -- a handler was told
    have hcalls' : (runMessageReceived node event).2.calls = node.calls ++ [call] := by
      rw [hcalls, ← hcall]
      split
      · next hrun => rw [hrun]
      · next hrun => rw [hrun]
      · next hrun => exact absurd (congrArg Prod.fst hrun) hne
    exact Node.Contained.not_of_call hcalls' hgives
  · -- the request is gone without a word
    intro hcontained
    have hgone := hcontained.requestsHead
    rw [hrequests, hremoved] at hgone
    dsimp only at hgone
    have herase : ((node.setRequestStatus r' (.ok ())).removeRequest r').requestsHead =
        node.requestsHead := by
      rcases runClientMessage_cases ((node.setRequestStatus r' (.ok ())).removeRequest r') event
        client with ⟨-, hrun⟩ | ⟨-, -, hrun⟩
      · rw [← hgone, hrun]
      · rw [← hrun, hgone]
    have hlength : (requests.erase r').length = requests.length := by
      have hsome : some (requests.erase r') = some requests := by
        rw [← hhead, ← herase, Node.removeRequest]
        exact congrArg (Option.map (·.erase r')) hhead.symm
      rw [Option.some.inj hsome]
    have hpos := List.length_pos_of_mem hmem
    rw [List.length_erase_of_mem hmem] at hlength
    omega

/-- So is the message handler of the client, where it has one. -/
theorem not_contained_of_messageReceived (h : event.Unparseable)
    (hserver : connectionIsServer (node.connection event.connection) = false)
    (hstate : (node.connection event.connection).checkState STATUS_FLAGS_CLIENT_ESTABLISHED = true)
    {client : Nat} (hclient : (node.connection event.connection).client = some client)
    (hnone : ∀ r ∈ node.requestsHead.getD [], ¬ node.takesZero event.connection r)
    (hreceived : (node.client client).messageReceived = true) :
    ¬ node.Contained (runMessageReceived node event).2 event.connection := by
  have hcalls : (runMessageReceived node event).2.calls = (runClient node event).2.calls :=
    (runMessageReceived_client hserver).1
  rw [runClient_of_established hstate hclient, h.dispatch_of_not_takesZero hnone] at hcalls
  rcases runClientMessage_cases node event client with ⟨hfalse, -⟩ | ⟨-, hcall, -⟩
  · rw [hreceived] at hfalse
    cases hfalse
  · exact Node.Contained.not_of_call (hcalls.trans hcall) rfl

/-- Where nobody takes the message it is consumed, and that is all. -/
theorem runMessageReceived_of_nobody (h : event.Unparseable)
    (hserver : connectionIsServer (node.connection event.connection) = false)
    (hstate : (node.connection event.connection).checkState STATUS_FLAGS_CLIENT_ESTABLISHED = true)
    (hnobody : ∀ client, (node.connection event.connection).client = some client →
      (node.client client).messageReceived = false ∧
        ∀ r ∈ node.requestsHead.getD [], ¬ node.takesZero event.connection r) :
    (runMessageReceived node event).2 =
      node.modifyConnection event.connection connectionConsumeMessageReceived := by
  have hrun : runClient node event = (.ok (), node) := by
    cases hclient : (node.connection event.connection).client with
    | none =>
        have hhandshake : runClientHandshake node event = (.ok (), node) := if_pos hstate
        unfold runClient
        rw [hhandshake]
        dsimp only
        rw [hclient]
    | some client =>
        obtain ⟨hreceived, hnone⟩ := hnobody client hclient
        rw [runClient_of_established hstate hclient, h.dispatch_of_not_takesZero hnone]
        dsimp only
        rw [runClientMessage, hreceived, if_neg Bool.false_ne_true]
  unfold runMessageReceived
  rw [hserver, if_neg Bool.false_ne_true, hrun]
  exact h.consumed

/-- Before the client is established, and on a server, the connection fails. -/
theorem runMessageReceived_stopped (h : event.Unparseable)
    (hidle : connectionIsIdle (node.connection event.connection) = false)
    (hstate : connectionIsServer (node.connection event.connection) = true ∨
      (node.connection event.connection).checkState STATUS_FLAGS_CLIENT_ESTABLISHED = false) :
    node.Contained (runMessageReceived node event).2 event.connection := by
  have hfailed : node.Contained (node.modifyConnection event.connection connectionFailed)
      event.connection :=
    .of_modifyConnection (connectionFailed_marked _)
  unfold runMessageReceived
  cases hserver : connectionIsServer (node.connection event.connection) with
  | true =>
      rw [if_pos rfl, h.runService]
      dsimp only
      rw [Node.consumeEvent_of_ne (by rw [h.eventType]; decide), h.eventType,
        Node.modifyConnection_modifyConnection]
      exact .of_modifyConnection (flagsCheck_set_of_flagsCheck (connectionFailed_marked _))
  | false =>
      rw [if_neg Bool.false_ne_true]
      rcases h.runClient_of_not_established
          (hstate.resolve_left (Bool.eq_false_iff.mp hserver)) with
        ⟨e, hretry, hconsumed, hrun⟩ | hrun
      · rw [hrun]
        have hclosed : node.Contained (node.modifyConnection event.connection connectionClose)
            event.connection := by
          refine .of_modifyConnection ?_
          rw [connectionClose, show (node.connection event.connection).checkState STATUS_FLAGS_IDLE =
            false from hidle, if_neg Bool.false_ne_true]
          exact flagsCheck_set_of_overlap (by decide)
        split
        · next heq => cases heq; exact absurd rfl hretry
        · next heq => cases heq; exact absurd rfl hconsumed
        · next heq => cases heq; exact hclosed
        · next heq => cases heq
      · rw [hrun]
        exact hfailed

theorem runMessageReceived_contained_iff (h : event.Unparseable)
    (hidle : connectionIsIdle (node.connection event.connection) = false) :
    node.Contained (runMessageReceived node event).2 event.connection ↔
      node.StopsUnparseable event.connection := by
  cases hserver : connectionIsServer (node.connection event.connection) with
  | true => exact iff_of_true (runMessageReceived_stopped h hidle (.inl hserver)) (.inl hserver)
  | false =>
      cases hstate : (node.connection event.connection).checkState
          STATUS_FLAGS_CLIENT_ESTABLISHED with
      | false =>
          exact iff_of_true (runMessageReceived_stopped h hidle (.inr hstate))
            (.inr (.inl hstate))
      | true =>
          constructor
          · intro hcontained
            have hnobody : ∀ client, (node.connection event.connection).client = some client →
                (node.client client).messageReceived = false ∧
                  ∀ r ∈ node.requestsHead.getD [], ¬ node.takesZero event.connection r := by
              intro client hclient
              have hnone : ∀ r ∈ node.requestsHead.getD [],
                  ¬ node.takesZero event.connection r := fun r hr hzero =>
                not_contained_of_takesZero h hserver hstate hclient hr hzero hcontained
              refine ⟨?_, hnone⟩
              rw [← Bool.not_eq_true]
              intro hreceived
              exact not_contained_of_messageReceived h hserver hstate hclient hnone hreceived
                hcontained
            have hmarked := hcontained.marked
            rw [runMessageReceived_of_nobody h hserver hstate hnobody,
              Node.modifyConnection_connection] at hmarked
            exact .inr (.inr ⟨(Connection.checkState_setState (by decide)).symm.trans hmarked,
              hnobody⟩)
          · intro hstops
            rcases hstops with hstop | hstop | ⟨hmarked, hnobody⟩
            · rw [hserver] at hstop
              cases hstop
            · rw [hstate] at hstop
              cases hstop
            · rw [runMessageReceived_of_nobody h hserver hstate hnobody]
              exact .of_modifyConnection ((Connection.checkState_setState (by decide)).trans hmarked)

end

/-! ## The run -/

theorem nextEvent_stopsUnparseable_iff (node : Node) (now : Int64) (i : Nat) :
    (node.nextEvent now).2.StopsUnparseable i ↔ node.StopsUnparseable i := by
  have hrest := nextEvent_rest node now
  obtain ⟨t, ht⟩ := nextEvent_rechecked node now i
  unfold Node.StopsUnparseable Node.takesZero
  rw [ht, hrest]
  rfl

theorem nextEvent_contained_iff (node node' : Node) (now : Int64) (i : Nat) :
    (node.nextEvent now).2.Contained node' i ↔ node.Contained node' i := by
  rw [nextEvent_rest node now]
  constructor
  · rintro ⟨hcalls, hhead, hrequest, hmarked⟩
    exact ⟨hcalls, hhead, hrequest, hmarked⟩
  · rintro ⟨hcalls, hhead, hrequest, hmarked⟩
    exact ⟨hcalls, hhead, hrequest, hmarked⟩

/-- A message that cannot be read goes no further exactly where somebody looks at the error, or
nobody is there to take the message. -/
theorem nodeRunNextEvent2_contained_iff (node : Node) (now : Int64) (e : Status)
    (hType : (node.nextEvent now).1.eventType = .messageReceived)
    (herror : (node.nextEvent now).1.eventErrorCode = .error e) :
    node.Contained (nodeRunNextEvent2 node now).2 (node.nextEvent now).1.connection ↔
      node.StopsUnparseable (node.nextEvent now).1.connection := by
  rcases nextEvent_cases node now with hcycle | ⟨-, hidle, hreports⟩
  · rw [hcycle] at hType
    cases hType
  · have hrun : nodeRunNextEvent2 node now =
        runMessageReceived (node.nextEvent now).2 (node.nextEvent now).1 := by
      unfold nodeRunNextEvent2 nodeRunEvent
      dsimp only
      rw [hType]
    rw [hrun, ← nextEvent_contained_iff, ← nextEvent_stopsUnparseable_iff node now]
    exact runMessageReceived_contained_iff (hreports.unparseable hType herror) hidle

end

section

open Lp64

/-- A connection that received a message of twelve bytes, too short for a header. -/
def shortMessageConnection (configFlags connectionState : BitVec 32) (client : Option Nat) :
    Connection :=
  { connectionConstruct [] [0x52, 0x52, 0x41, 0x43, 12, 0, 0, 0, 2, 0, 0, 0] with
    configFlags := configFlags
    connectionState := connectionState ||| STATUS_FLAGS_CONNECTED |||
      STATUS_FLAGS_CONNECTED_CONSUMED ||| STATUS_FLAGS_ESTABLISHED ||| STATUS_FLAGS_MESSAGE_RECEIVED
    recvBufferPos := 12
    recvMessageLen := 12
    client := client }

/-- A node whose client has a message handler. -/
def shortMessageNode (configFlags connectionState : BitVec 32) (client : Option Nat) : Node :=
  { Node.init .any [] [0] fun _ => shortMessageConnection configFlags connectionState client with
    client := fun _ => { ClientRecord.zero with handshakeState := .completed, messageReceived := true } }

/-- On a server, and on a client before its handshake, the message is stopped. -/
theorem shortMessage_contained :
    (shortMessageNode CONFIG_FLAGS_ISSERVER 0 none).Contained
        (nodeRunNextEvent2 (shortMessageNode CONFIG_FLAGS_ISSERVER 0 none) 0).2 0 ∧
      (shortMessageNode 0 0 (some 0)).Contained
        (nodeRunNextEvent2 (shortMessageNode 0 0 (some 0)) 0).2 0 :=
  ⟨(nodeRunNextEvent2_contained_iff (shortMessageNode CONFIG_FLAGS_ISSERVER 0 none) 0
      .outOfRange (by decide +kernel) (by decide +kernel)).mpr (.inl (by decide)),
    (nodeRunNextEvent2_contained_iff (shortMessageNode 0 0 (some 0)) 0 .outOfRange
      (by decide +kernel) (by decide +kernel)).mpr (.inr (.inl (by decide)))⟩

/-- The message handler of an established client is called with it. -/
theorem shortMessage_reaches_client :
    (∃ e, ((shortMessageNode 0 STATUS_FLAGS_CLIENT_ESTABLISHED (some 0)).nextEvent
        0).1.eventErrorCode = .error e) ∧
      ((shortMessageNode 0 STATUS_FLAGS_CLIENT_ESTABLISHED (some 0)).nextEvent 0).1.eventType =
        .messageReceived ∧
      ¬ (shortMessageNode 0 STATUS_FLAGS_CLIENT_ESTABLISHED (some 0)).Contained
        (nodeRunNextEvent2 (shortMessageNode 0 STATUS_FLAGS_CLIENT_ESTABLISHED (some 0)) 0).2 0 := by
  have hcalls : (nodeRunNextEvent2 (shortMessageNode 0 STATUS_FLAGS_CLIENT_ESTABLISHED (some 0))
      0).2.calls = [.clientMessageReceived 0] := by decide +kernel
  exact ⟨⟨.outOfRange, by decide +kernel⟩, by decide +kernel,
    Node.Contained.not_of_call (hcalls.trans rfl) rfl⟩

end

end RobotRaconteurLite

import RobotRaconteurLite.Proofs.NodeFrames

/-!
# Requests of a connection that died

An error or a timeout of a connection is told to its requests through their
timeouts: one handler sets them into the past, and the cycle takes out what is
overdue. The handler runs for a server with a client only and looks at the
requests with the number zero, and a cycle takes out one request.
-/

namespace RobotRaconteurLite

/-- The events that say that a connection came to its end. -/
def EventType.isEnd : EventType → Bool
  | .connectionError => true
  | .connectionTimeout => true
  | .connectionClosed => true
  | _ => false

theorem firstDue {due : Nat → Bool} {requests before after : List Nat} {r : Nat}
    (hsplit : requests = before ++ r :: after) (hbefore : ∀ r' ∈ before, due r' = false)
    (hdue : due r = true) : requests.find? due = some r :=
  List.find?_eq_some_iff_append.mpr ⟨hdue, before, after, hsplit, fun r' hr' => by
    rw [hbefore r' hr']
    rfl⟩

theorem erase_middle {before after : List Nat} {r : Nat} (h : r ∉ before) :
    (before ++ r :: after).erase r = before ++ after := by
  rw [List.erase_append_right _ h, List.erase_cons_head]

section

variable [SizeT]

/-- What is promised for the requests of connection `i`, from a node to one whose cycle ran at
`now`. -/
structure Node.Reaped (node node' : Node) (i : Nat) (now : Int64) : Prop where
  gone : ∀ r ∈ node'.requestsHead.getD [], (node'.request r).connection ≠ i
  told : ∀ r ∈ node.requestsHead.getD [], (node.request r).connection = i →
    (node.request r).requestError = true →
      node'.calls.count (.requestError r) = node.calls.count (.requestError r) + 1
  others : ∀ r ∈ node.requestsHead.getD [], (node.request r).connection ≠ i →
    (node.request r).expired now = false →
      r ∈ node'.requestsHead.getD [] ∧ node'.request r = node.request r

/-- Whether the handler of the event sets the timeout of a request. -/
def Node.failsRequest (node : Node) (event : Event) (request : NodeRequest) : Bool :=
  (event.eventType == .connectionError || event.eventType == .connectionTimeout) &&
    connectionIsServer (node.connection event.connection) &&
    (node.connection event.connection).checkState STATUS_FLAGS_CLIENT_ESTABLISHED &&
    request.requestId == 0 &&
    request.localEndpoint == (node.connection event.connection).localEndpoint &&
    request.connection == event.connection

/-- A request after the event at `now`. -/
def Node.requestAfter (node : Node) (event : Event) (now : Int64) (r : Nat) : NodeRequest :=
  if r ∈ node.requestsHead.getD [] ∧ node.failsRequest event (node.request r) then
    { node.request r with timeoutTimespec := now - 1 }
  else node.request r

/-- The event at `now` and the cycle at `now'` take out every request of the connection: it has
none, or one, and that is the first request that is due. -/
def Node.ReapsAll (node : Node) (event : Event) (now now' : Int64) : Prop :=
  (∀ r ∈ node.requestsHead.getD [], (node.request r).connection ≠ event.connection) ∨
    ∃ before r after, node.requestsHead.getD [] = before ++ r :: after ∧
      (node.request r).connection = event.connection ∧
      (node.requestAfter event now r).expired now' = true ∧
      (∀ r' ∈ before, (node.request r').connection ≠ event.connection ∧
        (node.request r').expired now' = false) ∧
      ∀ r' ∈ after, (node.request r').connection ≠ event.connection

/-! ## The cycle -/

theorem setRequestStatus_requestError (node : Node) (r : Nat) (status : Result Unit) :
    ((node.setRequestStatus r status).request r).requestError = (node.request r).requestError := by
  simp [Node.setRequestStatus, Node.setRequest]

theorem requestsProcessControlLoop_eq (node : Node) (now : Int64) (requests : List Nat) :
    requestsProcessControlLoop node now requests =
      match requests.find? fun r => (node.request r).expired now with
      | none => node
      | some r => nodeNotify ((node.removeRequest r).setRequestStatus r (.error .timeout))
          (node.request r).requestError (.requestError r) := by
  induction requests with
  | nil => rfl
  | cons r rest ih =>
      rw [requestsProcessControlLoop, List.find?_cons]
      cases hdue : (node.request r).expired now with
      | true =>
          rw [if_pos rfl]
          dsimp only
          rw [setRequestStatus_requestError]
          rfl
      | false =>
          rw [if_neg Bool.false_ne_true]
          exact ih

/-- A cycle finds no request due, or takes out the first one that is. -/
theorem nodeRequestsProcessControl_cases (node : Node) (now : Int64) :
    (∀ r ∈ node.requestsHead.getD [], (node.request r).expired now = false) ∧
        nodeRequestsProcessControl node now = node ∨
      ∃ before r after, node.requestsHead.getD [] = before ++ r :: after ∧
        (∀ r' ∈ before, (node.request r').expired now = false) ∧
        (node.request r).expired now = true ∧
        (nodeRequestsProcessControl node now).requestsHead.getD [] = before ++ after ∧
        (nodeRequestsProcessControl node now).request = Function.update node.request r
          { node.request r with requestStatus := .error .timeout } ∧
        (nodeRequestsProcessControl node now).calls =
          node.calls ++ if (node.request r).requestError then [.requestError r] else [] := by
  unfold nodeRequestsProcessControl
  cases hhead : node.requestsHead with
  | none => exact Or.inl ⟨List.forall_mem_nil _, rfl⟩
  | some requests =>
      dsimp only [Option.getD_some]
      rw [requestsProcessControlLoop_eq]
      cases hfind : requests.find? fun r => (node.request r).expired now with
      | none =>
          have hnone := List.find?_eq_none.mp hfind
          exact Or.inl ⟨fun r hr => Bool.eq_false_iff.mpr (hnone r hr), rfl⟩
      | some r =>
          obtain ⟨hdue, before, after, rfl, hbefore⟩ := List.find?_eq_some_iff_append.mp hfind
          have hbefore' : ∀ r' ∈ before, (node.request r').expired now = false := fun r' hr' =>
            Bool.not_eq_true' _ ▸ hbefore r' hr'
          have hmem : r ∉ before := fun hr => by
            rw [hbefore' r hr] at hdue
            cases hdue
          refine Or.inr ⟨before, r, after, rfl, hbefore', hdue, ?_, ?_, ?_⟩
          · rw [nodeNotify_requestsHead, Node.setRequestStatus, Node.setRequest, Node.removeRequest,
              hhead, Option.map_some, erase_middle hmem]
            rfl
          · rw [nodeNotify_request]
            rfl
          · exact nodeNotify_calls _ _ _

/-! ## The event -/

/-- No request hears of what happened between the two nodes. -/
structure Node.Quiet (node node' : Node) : Prop where
  calls : ∀ r, node'.calls.count (.requestError r) = node.calls.count (.requestError r)
  requestsHead : node'.requestsHead = node.requestsHead
  request : node'.request = node.request

namespace Node.Quiet

variable {node node' node'' : Node}

theorem refl (node : Node) : node.Quiet node := ⟨fun _ => rfl, rfl, rfl⟩

theorem trans (h : node.Quiet node') (h' : node'.Quiet node'') : node.Quiet node'' where
  calls r := (h'.calls r).trans (h.calls r)
  requestsHead := h'.requestsHead.trans h.requestsHead
  request := h'.request.trans h.request

theorem modifyConnection (node : Node) (i : Nat) (f : Connection → Connection) :
    node.Quiet (node.modifyConnection i f) := ⟨fun _ => rfl, rfl, rfl⟩

theorem consumeEvent (node : Node) (event : Event) : node.Quiet (node.consumeEvent event).2 := by
  unfold Node.consumeEvent
  cases event.eventType <;> exact ⟨fun _ => rfl, rfl, rfl⟩

theorem nodeNotify (node : Node) (there : Bool) {handler : HandlerCall}
    (h : ∀ r, handler ≠ .requestError r) :
    node.Quiet (RobotRaconteurLite.nodeNotify node there handler) where
  calls r := by
    have hcount : (if there then [handler] else []).count (.requestError r) = 0 := by
      cases there with
      | false => rfl
      | true => exact List.count_eq_zero.mpr fun hr => h r (List.mem_singleton.mp hr).symm
    rw [nodeNotify_calls, List.count_append, hcount, Nat.add_zero]
  requestsHead := nodeNotify_requestsHead node there handler
  request := nodeNotify_request node there handler

end Node.Quiet

theorem runConsumeEvent_quiet (node : Node) (event : Event) (rv : Result Unit) :
    node.Quiet (runConsumeEvent node event rv).2 := by
  unfold runConsumeEvent
  split
  · exact .refl node
  · exact .consumeEvent node event
  · exact .consumeEvent node event

theorem runNodeHandler_quiet (node : Node) (event : Event) (there : Bool) {handler : HandlerCall}
    (h : ∀ r, handler ≠ .requestError r) :
    node.Quiet (runNodeHandler node event there handler).2 := by
  unfold runNodeHandler
  cases there with
  | false => exact .consumeEvent node event
  | true => exact (Node.Quiet.nodeNotify node true h).trans (runConsumeEvent_quiet _ event _)

theorem runClientConnectionEvent_quiet (node : Node) {event : Event}
    (h : event.eventType.isEnd = true) : node.Quiet (runClientConnectionEvent node event) := by
  unfold runClientConnectionEvent
  dsimp only
  split
  · next hType =>
      rw [hType] at h
      cases h
  · split
    · exact .refl node
    · split
      · exact .modifyConnection node _ _
      · exact (Node.Quiet.modifyConnection node _ _).trans (.nodeNotify _ _ nofun)
  · exact .refl node

/-- The requests that the event fails have their timeouts set, and that is all the requests see
of it. -/
structure Node.Fails (node node' : Node) (event : Event) (now : Int64) : Prop where
  calls : ∀ r, node'.calls.count (.requestError r) = node.calls.count (.requestError r)
  requestsHead : node'.requestsHead = node.requestsHead
  request : node'.request = node.requestAfter event now

theorem Node.Fails.trans_quiet {node node' node'' : Node} {event : Event} {now : Int64}
    (h : node.Fails node' event now) (h' : node'.Quiet node'') : node.Fails node'' event now where
  calls r := (h'.calls r).trans (h.calls r)
  requestsHead := h'.requestsHead.trans h.requestsHead
  request := h'.request.trans h.request

theorem Node.Fails.of_quiet {node node' : Node} {event : Event} {now : Int64}
    (h : node.Quiet node') (hnone : ∀ request, node.failsRequest event request = false) :
    node.Fails node' event now where
  calls := h.calls
  requestsHead := h.requestsHead
  request := by
    rw [h.request]
    funext r
    rw [Node.requestAfter, hnone, if_neg fun hand => Bool.false_ne_true hand.2]

theorem notifyService_quiet (node : Node) (i : Nat) (service : Option Nat)
    (eventType : ServiceEventType) : node.Quiet (notifyService node i service eventType) := by
  cases service with
  | none => exact .refl node
  | some s => exact .nodeNotify node _ nofun

theorem failWith_eq (node : Node) {event : Event} (now : Int64)
    (hType : event.eventType = .connectionError ∨ event.eventType = .connectionTimeout)
    (hheader : event.requestHeader = MessageEntryHeaderOf.zero (.constant []))
    (hserver : connectionIsServer (node.connection event.connection) = true)
    (hstate : (node.connection event.connection).checkState STATUS_FLAGS_CLIENT_ESTABLISHED = true)
    (request : NodeRequest) :
    request.failWith (connectionClose (node.connection event.connection)) event now =
      if node.failsRequest event request then { request with timeoutTimespec := now - 1 }
      else request := by
  have hend : (event.eventType == .connectionError || event.eventType == .connectionTimeout) =
      true := by
    rcases hType with h | h <;> rw [h] <;> rfl
  have hendpoint : (connectionClose (node.connection event.connection)).localEndpoint =
      (node.connection event.connection).localEndpoint := by
    obtain ⟨_, _, _, h⟩ := connectionClose_asked (node.connection event.connection)
    rw [h]
  have hzero : event.requestHeader.requestId = 0 := by rw [hheader]; rfl
  rw [NodeRequest.failWith, NodeRequest.matches, hendpoint, hzero, Node.failsRequest, hend, hserver,
    hstate, Bool.true_and, Bool.true_and, Bool.true_and]

theorem runServiceConnectionError_fails (node : Node) {event : Event} (now : Int64)
    (hType : event.eventType = .connectionError ∨ event.eventType = .connectionTimeout)
    (hheader : event.requestHeader = MessageEntryHeaderOf.zero (.constant []))
    (hserver : connectionIsServer (node.connection event.connection) = true) :
    node.Fails (runServiceConnectionError
      (node.modifyConnection event.connection connectionClose) event now) event now := by
  have hclose : (connectionClose (node.connection event.connection)).checkState
      STATUS_FLAGS_CLIENT_ESTABLISHED =
      (node.connection event.connection).checkState STATUS_FLAGS_CLIENT_ESTABLISHED :=
    (connectionClose_asked _).checkState (by decide)
  unfold runServiceConnectionError
  dsimp only
  rw [Node.modifyConnection_connection, hclose]
  split
  · next hstate =>
      refine Node.Fails.trans_quiet ?_ (notifyService_quiet _ _ _ _)
      refine ⟨fun _ => rfl, rfl, ?_⟩
      funext r
      rw [Node.requestAfter]
      by_cases hr : r ∈ node.requestsHead.getD []
      · exact (if_pos hr).trans ((failWith_eq node now hType hheader hserver hstate _).trans
          (if_congr (and_iff_right hr).symm rfl rfl))
      · exact (if_neg hr).trans (if_neg fun h => hr h.1).symm
  · next hstate =>
      refine Node.Fails.of_quiet (.modifyConnection node _ _) fun request => ?_
      rw [Node.failsRequest, Bool.eq_false_iff.mpr hstate, Bool.and_false, Bool.false_and,
        Bool.false_and, Bool.false_and]

/-- What the requests see of an event that says that a connection came to its end. -/
theorem nodeRunEvent_fails (node : Node) {event : Event} (now : Int64)
    (hEnd : event.eventType.isEnd = true)
    (hheader : event.requestHeader = MessageEntryHeaderOf.zero (.constant [])) :
    node.Fails (nodeRunEvent node event now).2 event now := by
  have hclient {node' : Node} (h : node.Quiet node')
      (hserver : connectionIsServer (node.connection event.connection) = false) :
      node.Fails node' event now :=
    Node.Fails.of_quiet h fun request => by
      rw [Node.failsRequest, hserver, Bool.and_false, Bool.false_and, Bool.false_and, Bool.false_and,
        Bool.false_and]
  unfold nodeRunEvent
  dsimp only
  cases hType : event.eventType with
  | connectionError =>
      dsimp only
      cases hserver : connectionIsServer (node.connection event.connection) with
      | true =>
          rw [if_pos rfl]
          exact (runServiceConnectionError_fails node now (.inl hType) hheader hserver).trans_quiet
            (runNodeHandler_quiet _ event _ nofun)
      | false =>
          rw [if_neg Bool.false_ne_true]
          exact hclient ((Node.Quiet.modifyConnection node _ _).trans
            ((runClientConnectionEvent_quiet _ hEnd).trans
              (runNodeHandler_quiet _ event _ nofun))) hserver
  | connectionTimeout =>
      dsimp only
      cases hserver : connectionIsServer (node.connection event.connection) with
      | true =>
          rw [if_pos rfl]
          exact (runServiceConnectionError_fails node now (.inr hType) hheader hserver).trans_quiet
            (runNodeHandler_quiet _ event _ nofun)
      | false =>
          rw [if_neg Bool.false_ne_true]
          exact hclient ((Node.Quiet.modifyConnection node _ _).trans
            ((runClientConnectionEvent_quiet _ hEnd).trans
              (runNodeHandler_quiet _ event _ nofun))) hserver
  | connectionClosed =>
      dsimp only
      have hquiet : node.Quiet (if connectionIsServer (node.connection event.connection) then node
          else runClientConnectionEvent node event) := by
        split
        · exact .refl node
        · exact runClientConnectionEvent_quiet node hEnd
      refine Node.Fails.of_quiet (hquiet.trans (runNodeHandler_quiet _ event _ nofun))
        fun request => ?_
      rw [Node.failsRequest, hType]
      rfl
  | _ =>
      rw [hType] at hEnd
      cases hEnd

/-! ## The event and the cycle -/

section

variable {node node' : Node} {event : Event} {now now' : Int64}

theorem requestAfter_connection (node : Node) (event : Event) (now : Int64) (r : Nat) :
    (node.requestAfter event now r).connection = (node.request r).connection := by
  unfold Node.requestAfter
  split <;> rfl

theorem requestAfter_requestError (node : Node) (event : Event) (now : Int64) (r : Nat) :
    (node.requestAfter event now r).requestError = (node.request r).requestError := by
  unfold Node.requestAfter
  split <;> rfl

/-- The requests of other connections are not failed. -/
theorem requestAfter_of_ne {r : Nat} (h : (node.request r).connection ≠ event.connection) :
    node.requestAfter event now r = node.request r := by
  refine if_neg fun hfails => h ?_
  have hand := hfails.2
  rw [Node.failsRequest, Bool.and_eq_true] at hand
  exact beq_iff_eq.mp hand.2

/-- Where no request is taken out, the connection may not have one. -/
theorem Node.Fails.reaped_self_iff (h : node.Fails node' event now) :
    node.Reaped node' event.connection now' ↔
      ∀ r ∈ node.requestsHead.getD [], (node.request r).connection ≠ event.connection := by
  constructor
  · intro hreaped r hr
    have hgone := hreaped.gone r (by rw [h.requestsHead]; exact hr)
    rwa [h.request, requestAfter_connection] at hgone
  · intro hother
    refine ⟨?_, fun r hr hmine => absurd hmine (hother r hr), ?_⟩
    · intro r hr
      rw [h.requestsHead] at hr
      rw [h.request, requestAfter_connection]
      exact hother r hr
    · intro r hr hne _
      rw [h.requestsHead, h.request, requestAfter_of_ne hne]
      exact ⟨hr, rfl⟩

/-- The event and the cycle take out every request of the connection, tell each once and leave the
others alone, exactly where there is none, or one that is the first to be due. -/
theorem Node.Fails.reaped_iff (h : node.Fails node' event now) :
    node.Reaped (nodeRequestsProcessControl node' now') event.connection now' ↔
      node.ReapsAll event now now' := by
  rcases nodeRequestsProcessControl_cases node' now' with
    ⟨hnone, hsame⟩ | ⟨before, r, after, hsplit, hbefore, hdue, hlist, hrequest, hcalls⟩
  · rw [h.requestsHead, h.request] at hnone
    rw [hsame, h.reaped_self_iff]
    refine ⟨Or.inl, fun hreaps => hreaps.resolve_right ?_⟩
    rintro ⟨before, r, after, hsplit, -, hdue, -⟩
    have hfalse := hnone r (by rw [hsplit]; simp)
    rw [hdue] at hfalse
    cases hfalse
  · rw [h.requestsHead] at hsplit
    rw [h.request] at hbefore hdue hrequest hcalls
    rw [requestAfter_requestError] at hcalls
    have hafter (r' : Nat) : ((nodeRequestsProcessControl node' now').request r').connection =
        (node.request r').connection := by
      rw [hrequest, ← requestAfter_connection node event now r']
      rcases eq_or_ne r' r with rfl | hr'
      · rw [Function.update_self]
      · rw [Function.update_of_ne hr']
    have hnotin : r ∉ before := fun hr => by
      rw [hbefore r hr] at hdue
      cases hdue
    constructor
    · intro hreaped
      have hothers : ∀ r' ∈ before ++ after, (node.request r').connection ≠ event.connection :=
        fun r' hr' => hafter r' ▸ hreaped.gone r' (by rw [hlist]; exact hr')
      by_cases hmine : (node.request r).connection = event.connection
      · refine Or.inr ⟨before, r, after, hsplit, hmine, hdue, fun r' hr' => ?_, fun r' hr' =>
          hothers r' (List.mem_append_right before hr')⟩
        have hne := hothers r' (List.mem_append_left after hr')
        exact ⟨hne, requestAfter_of_ne hne ▸ hbefore r' hr'⟩
      · refine Or.inl fun r' hr' => ?_
        rw [hsplit, List.mem_append, List.mem_cons] at hr'
        rcases hr' with hr' | rfl | hr'
        · exact hothers r' (List.mem_append_left after hr')
        · exact hmine
        · exact hothers r' (List.mem_append_right before hr')
    · intro hreaps
      have hothers : ∀ r' ∈ before ++ after, (node.request r').connection ≠ event.connection := by
        rcases hreaps with hnone | ⟨before₁, r₁, after₁, hsplit₁, -, hdue₁, hbefore₁, hafter₁⟩
        · intro r' hr'
          refine hnone r' ?_
          rw [← erase_middle hnotin, ← hsplit] at hr'
          exact List.mem_of_mem_erase hr'
        · -- the first request that is due is the one of the connection
          have hbefore₂ : ∀ r' ∈ before₁, (node.requestAfter event now r').expired now' = false :=
            fun r' hr' => by
              rw [requestAfter_of_ne (hbefore₁ r' hr').1]
              exact (hbefore₁ r' hr').2
          have hfirst : some r = some r₁ := by
            rw [← firstDue hsplit hbefore hdue, firstDue hsplit₁ hbefore₂ hdue₁]
          obtain rfl := Option.some.inj hfirst
          have hnotin₁ : r ∉ before₁ := fun hr => by
            rw [hbefore₂ r hr] at hdue
            cases hdue
          have hrest : before ++ after = before₁ ++ after₁ := by
            rw [← erase_middle hnotin, ← hsplit, hsplit₁, erase_middle hnotin₁]
          intro r' hr'
          rw [hrest, List.mem_append] at hr'
          exact hr'.elim (fun hr' => (hbefore₁ r' hr').1) (hafter₁ r')
      have hmember {r' : Nat} (hr' : r' ∈ node.requestsHead.getD []) (hne : r' ≠ r) :
          r' ∈ before ++ after := by
        rw [← erase_middle hnotin, ← hsplit]
        exact (List.mem_erase_of_ne hne).mpr hr'
      refine ⟨fun r' hr' => ?_, fun r' hr' hmine htold => ?_, fun r' hr' hne hpending => ?_⟩
      · rw [hlist] at hr'
        rw [hafter]
        exact hothers r' hr'
      · have hr : r' = r := by
          by_contra hne
          exact hothers r' (hmember hr' hne) hmine
        rw [hr] at htold ⊢
        rw [hcalls, htold, if_pos rfl, List.count_append, h.calls, List.count_singleton_self]
      · have hr : r' ≠ r := by
          rintro rfl
          rw [requestAfter_of_ne hne, hpending] at hdue
          cases hdue
        rw [hlist, hrequest, Function.update_of_ne hr, requestAfter_of_ne hne]
        exact ⟨hmember hr' hr, rfl⟩

end

theorem Connection.Reports.requestHeader_of_isEnd {c : Connection} {i : Nat} {now : Int64}
    {event : Event} (h : c.Reports i now event) (hEnd : event.eventType.isEnd = true) :
    event.requestHeader = MessageEntryHeaderOf.zero (.constant []) := by
  cases h with
  | @pending eventType hpending =>
      rw [connectionEventOf_eventType] at hEnd
      cases eventType with
      | messageReceived => cases hEnd
      | _ => rfl
  | heartbeat _ => rfl
  | timeout _ => rfl

theorem nextEvent_reapsAll_iff (node : Node) (event : Event) (now now' now'' : Int64) :
    (node.nextEvent now).2.ReapsAll event now' now'' ↔ node.ReapsAll event now' now'' := by
  have hrest := nextEvent_rest node now
  obtain ⟨t, ht⟩ := nextEvent_rechecked node now event.connection
  have hrequest : (node.nextEvent now).2.requestAfter event now' =
      node.requestAfter event now' := by
    funext r
    simp only [Node.requestAfter, Node.failsRequest, ht]
    rw [hrest]
    rfl
  unfold Node.ReapsAll
  rw [hrequest, hrest]

theorem nextEvent_reaped_iff (node node' : Node) (now now' : Int64) (i : Nat) :
    (node.nextEvent now).2.Reaped node' i now' ↔ node.Reaped node' i now' := by
  rw [nextEvent_rest node now]
  constructor
  · rintro ⟨hgone, htold, hothers⟩
    exact ⟨hgone, htold, hothers⟩
  · rintro ⟨hgone, htold, hothers⟩
    exact ⟨hgone, htold, hothers⟩

/-- When a connection reports its end at `now`, the cycle at `now'` has taken out its requests
exactly where it had none, or one that is the first to be due. -/
theorem nodeRunNextEvent2_reaped_iff (node : Node) (now now' : Int64)
    (hEnd : (node.nextEvent now).1.eventType.isEnd = true) :
    node.Reaped (nodeRequestsProcessControl (nodeRunNextEvent2 node now).2 now')
        (node.nextEvent now).1.connection now' ↔
      node.ReapsAll (node.nextEvent now).1 now now' := by
  rcases nextEvent_cases node now with hcycle | ⟨-, -, hreports⟩
  · rw [hcycle] at hEnd
    cases hEnd
  · have hfails := nodeRunEvent_fails (node.nextEvent now).2 now hEnd
      (hreports.requestHeader_of_isEnd hEnd)
    rw [← nextEvent_reaped_iff node _ now, ← nextEvent_reapsAll_iff node _ now]
    exact hfails.reaped_iff

end

section

open Lp64

/-- A connection with an error, a request of it and one of another connection. -/
def deadConnectionNode (configFlags : BitVec 32) (requestId : UInt32) : Node :=
  { Node.init .any [] [0] fun _ =>
      { connectionConstruct [] [] with
        configFlags := configFlags
        connectionState := STATUS_FLAGS_CONNECTED ||| STATUS_FLAGS_CONNECTED_CONSUMED |||
          STATUS_FLAGS_CLIENT_ESTABLISHED ||| STATUS_FLAGS_ERROR } with
    requestsHead := some [0, 1]
    request := fun r =>
      { NodeRequest.zero with connection := r, requestId := requestId, requestError := true } }

/-- A request of a server that has the number zero is taken out. -/
theorem deadConnectionNode_reaped : (deadConnectionNode CONFIG_FLAGS_ISSERVER 0).Reaped
    (nodeRequestsProcessControl
      (nodeRunNextEvent2 (deadConnectionNode CONFIG_FLAGS_ISSERVER 0) 100).2 200) 0 200 :=
  (nodeRunNextEvent2_reaped_iff (deadConnectionNode CONFIG_FLAGS_ISSERVER 0) 100 200
    (by decide +kernel)).mpr
      (Or.inr ⟨[], 0, [1], rfl, rfl, by decide +kernel, List.forall_mem_nil _, by decide⟩)

/-- One of a client waits on. -/
theorem deadConnectionNode_keeps_request :
    ((deadConnectionNode 0 7).nextEvent 100).1.eventType = .connectionError ∧
      ¬ (deadConnectionNode 0 7).Reaped
        (nodeRequestsProcessControl (nodeRunNextEvent2 (deadConnectionNode 0 7) 100).2 200) 0 200 := by
  refine ⟨by decide +kernel, fun h => ?_⟩
  have hhead : (nodeRequestsProcessControl (nodeRunNextEvent2 (deadConnectionNode 0 7) 100).2
      200).requestsHead = some [0, 1] := by decide +kernel
  have hconnection : ((nodeRequestsProcessControl (nodeRunNextEvent2 (deadConnectionNode 0 7) 100).2
      200).request 0).connection = 0 := by decide +kernel
  exact h.gone 0 (by rw [hhead]; exact List.mem_cons_self) hconnection

end

end RobotRaconteurLite

import Mathlib.Data.List.Nodup
import RobotRaconteurLite.Lib.CallSequence
import RobotRaconteurLite.Proofs.PendingRequests

/-!
# Dispatch of responses

A message that was received is given to the first pending request of its
connection, endpoint and number, and this completes the request unless the handler
wants it again. The code never looks whether the message is a response, so a peer
completes our requests with requests of its own. And a request with a handler of
its own has left the list when the handler asks for a retry. Apart from these two,
every run dispatches as it should.
-/

namespace RobotRaconteurLite

open CallSequence

theorem Connection.Asked.localEndpoint {c c' : Connection} (h : c.Asked c') :
    c'.localEndpoint = c.localEndpoint := by
  obtain ⟨b, len, asked, rfl⟩ := h
  rfl

section

variable [SizeT]

/-- A message entry with an even type answers one with an odd type. -/
def Event.isResponse (event : Event) : Bool := event.requestHeader.entryType % 2 == 0

/-- The first pending request of the event's connection, endpoint and request id. -/
def Node.pendingFor (node : Node) (event : Event) : Option Nat :=
  (node.requestsHead.getD []).find? fun r =>
    (node.request r).matches (node.connection event.connection) event

/-- The request that an event completes. -/
def Node.completedBy (node : Node) (event : Event) : Option Nat :=
  if event.isResponse then node.pendingFor event else none

/-- The handler that is told that a request is complete: its own, or else the client's. -/
def Node.completionHandler (node : Node) (event : Event) (r : Nat) : Option HandlerCall :=
  if (node.request r).requestCompleted then some (.requestCompleted r)
  else
    match (node.connection event.connection).client with
    | none => none
    | some client =>
        if (node.client client).requestCompleted then some (.clientRequestCompleted client r)
        else none

/-- What the next handler that is called returns. -/
def Node.nextStatus (node : Node) : Result Unit :=
  match node.answers with
  | [] => .ok ()
  | answer :: _ => answer.status

/-- The handler wants the event again. -/
def Node.asksAgain (node : Node) (event : Event) (r : Nat) : Prop :=
  node.completionHandler event r ≠ none ∧ node.nextStatus = .error .retry

/-- What the dispatch of an event promises. -/
structure Node.Dispatches (node node' : Node) (event : Event) : Prop where
  quiet : node.completedBy event = none →
    node'.requestsHead = node.requestsHead ∧ node'.calls = node.calls
  told : ∀ r, node.completedBy event = some r →
    node'.calls = node.calls ++ (node.completionHandler event r).toList
  removed : ∀ r, node.completedBy event = some r → ¬ node.asksAgain event r →
    ∃ before after, node.requestsHead = some (before ++ r :: after) ∧
      (∀ r' ∈ before, (node.request r').matches (node.connection event.connection) event = false) ∧
      node'.requestsHead = some (before ++ after)
  retried : ∀ r, node.completedBy event = some r → node.asksAgain event r →
    node'.requestsHead = node.requestsHead ∧ node'.completedBy event = some r

/-- The request that a message finds is the one it answers, and no handler of the request's own
wants it again. -/
def Node.MayDispatch (node : Node) (event : Event) : Prop :=
  ∀ r, node.pendingFor event = some r → event.isResponse = true ∧
    ¬ ((node.request r).requestCompleted = true ∧ node.nextStatus = .error .retry)

instance (node : Node) (event : Event) : Decidable (node.MayDispatch event) :=
  inferInstanceAs (Decidable (∀ r ∈ node.pendingFor event, event.isResponse = true ∧
    ¬ ((node.request r).requestCompleted = true ∧ node.nextStatus = .error .retry)))

/-- The requests that are in the list no more. -/
def Node.removedTo (node node' : Node) : List Nat :=
  (node.requestsHead.getD []).filter fun r => decide (r ∉ node'.requestsHead.getD [])

/-- The requests that a run of dispatches takes out of the list. -/
def removals : Node → List Event → List Nat
  | _, [] => []
  | node, event :: events =>
      node.removedTo (nodeDispatchResponseMessage node event).2 ++
        removals (nodeDispatchResponseMessage node event).2 events

/-! ## One dispatch -/

theorem nodeCallHandler_status (node : Node) (handler : HandlerCall) :
    (nodeCallHandler node handler).1 = node.nextStatus := by
  have hanswers : (node.addEffect (.call handler)).answers = node.answers := rfl
  unfold nodeCallHandler Node.nextStatus
  dsimp only
  rw [hanswers]
  cases node.answers <;> rfl

theorem setRequestStatus_request (node : Node) (r : Nat) (status : Result Unit) :
    (node.setRequestStatus r status).request =
      Function.update node.request r { node.request r with requestStatus := status } := rfl

/-- Whether a request is the one for an event does not depend on its status. -/
theorem setRequestStatus_matches (node : Node) (r r' : Nat) (status : Result Unit) (c : Connection)
    (event : Event) : ((node.setRequestStatus r status).request r').matches c event =
      (node.request r').matches c event := by
  rw [setRequestStatus_request]
  rcases eq_or_ne r' r with rfl | hr
  · rw [Function.update_self]
    rfl
  · rw [Function.update_of_ne hr]

/-- After a handler that was told of a request, the event finds what it found before. -/
theorem nodeCallHandler_pendingFor (node : Node) (handler : HandlerCall) (event : Event) (r : Nat) :
    (nodeCallHandler (node.setRequestStatus r (.ok ())) handler).2.pendingFor event =
      node.pendingFor event := by
  have hasked := nodeCallHandler_asked (node.setRequestStatus r (.ok ())) handler
  have hlocal := (hasked.connection event.connection).localEndpoint
  unfold Node.pendingFor
  rw [hasked.requestsHead, hasked.request]
  refine congrArg (fun p => List.find? p (node.requestsHead.getD [])) (funext fun r' => ?_)
  refine Eq.trans ?_ (setRequestStatus_matches node r r' (.ok ()) _ event)
  unfold NodeRequest.matches
  rw [hlocal]
  rfl

/-- The request that was found is told, and it stays only for the handler of a client. -/
theorem dispatchToRequest_told (node : Node) (event : Event) (r : Nat) :
    (dispatchToRequest node event r).2.calls =
        node.calls ++ (node.completionHandler event r).toList ∧
      (((node.request r).requestCompleted = false ∧ node.asksAgain event r ∧
          (dispatchToRequest node event r).2.requestsHead = node.requestsHead ∧
          (dispatchToRequest node event r).2.pendingFor event = node.pendingFor event) ∨
        (((node.request r).requestCompleted = true ∨ ¬ node.asksAgain event r) ∧
          (dispatchToRequest node event r).2.requestsHead =
            node.requestsHead.map (·.erase r))) := by
  have hown : ((node.setRequestStatus r (.ok ())).request r).requestCompleted =
      (node.request r).requestCompleted := by
    rw [setRequestStatus_request, Function.update_self]
  unfold dispatchToRequest
  dsimp only
  rw [hown]
  unfold Node.asksAgain Node.completionHandler
  cases hthere : (node.request r).requestCompleted with
  | true =>
      -- taken out before its handler is called
      rw [if_pos rfl, if_pos rfl]
      have hcalls := nodeCallHandler_calls
        ((node.setRequestStatus r (.ok ())).removeRequest r) (.requestCompleted r)
      have hhead := nodeCallHandler_requestsHead
        ((node.setRequestStatus r (.ok ())).removeRequest r) (.requestCompleted r)
      split
      · next hrun =>
          rw [hrun] at hcalls hhead
          exact ⟨hcalls, Or.inr ⟨Or.inl rfl, hhead⟩⟩
      · next hrun =>
          rw [hrun] at hcalls hhead
          exact ⟨(consumed_calls _ event).trans hcalls,
            Or.inr ⟨Or.inl rfl, (consumed_requestsHead _ event).trans hhead⟩⟩
  | false =>
      rw [if_neg Bool.false_ne_true, if_neg Bool.false_ne_true]
      have hclient : ((node.setRequestStatus r (.ok ())).connection event.connection).client =
          (node.connection event.connection).client := rfl
      rw [hclient]
      cases (node.connection event.connection).client with
      | none => exact ⟨(List.append_nil _).symm, Or.inr ⟨Or.inr fun h => h.1 rfl, rfl⟩⟩
      | some client =>
          dsimp only
          have hrecord : (node.setRequestStatus r (.ok ())).client client = node.client client := rfl
          rw [hrecord]
          cases (node.client client).requestCompleted with
          | false =>
              rw [if_neg Bool.false_ne_true, if_neg Bool.false_ne_true]
              exact ⟨(List.append_nil _).symm, Or.inr ⟨Or.inr fun h => h.1 rfl, rfl⟩⟩
          | true =>
              rw [if_pos rfl, if_pos rfl]
              have hcalls := nodeCallHandler_calls (node.setRequestStatus r (.ok ()))
                (.clientRequestCompleted client r)
              have hhead := nodeCallHandler_requestsHead (node.setRequestStatus r (.ok ()))
                (.clientRequestCompleted client r)
              have hstatus := nodeCallHandler_status (node.setRequestStatus r (.ok ()))
                (.clientRequestCompleted client r)
              have hpending := nodeCallHandler_pendingFor node (.clientRequestCompleted client r)
                event r
              split
              · next hrun =>
                  rw [hrun] at hcalls hhead hstatus hpending
                  exact ⟨hcalls, Or.inl ⟨rfl, ⟨nofun, hstatus.symm⟩, hhead, hpending⟩⟩
              · next hne hrun =>
                  rw [hrun] at hcalls hhead hstatus
                  refine ⟨(consumed_calls _ event).trans hcalls, Or.inr ⟨Or.inr ?_, ?_⟩⟩
                  · rintro ⟨-, hretry⟩
                    exact hne (hstatus.trans hretry)
                  · rw [Node.removeRequest, consumed_requestsHead, hhead]
                    rfl

theorem nodeDispatchResponseMessage_none {node : Node} {event : Event}
    (hType : event.eventType = .messageReceived) (hnone : node.pendingFor event = none) :
    (nodeDispatchResponseMessage node event).2 = node := by
  unfold nodeDispatchResponseMessage
  rw [if_neg (not_not_intro hType)]
  cases hhead : node.requestsHead with
  | none => rfl
  | some requests =>
      rw [Node.pendingFor, hhead, Option.getD_some] at hnone
      dsimp only
      rw [hnone]

theorem nodeDispatchResponseMessage_some {node : Node} {event : Event} {r : Nat}
    (hType : event.eventType = .messageReceived) (hsome : node.pendingFor event = some r) :
    nodeDispatchResponseMessage node event = dispatchToRequest node event r := by
  unfold nodeDispatchResponseMessage
  rw [if_neg (not_not_intro hType)]
  cases hhead : node.requestsHead with
  | none =>
      rw [Node.pendingFor, hhead] at hsome
      cases hsome
  | some requests =>
      rw [Node.pendingFor, hhead, Option.getD_some] at hsome
      dsimp only
      rw [hsome]

theorem Node.asksAgain_of_own {node : Node} {event : Event} {r : Nat}
    (hown : (node.request r).requestCompleted = true) (hretry : node.nextStatus = .error .retry) :
    node.asksAgain event r := by
  refine ⟨?_, hretry⟩
  rw [Node.completionHandler, if_pos hown]
  exact Option.some_ne_none _

/-- A dispatch keeps what it promises exactly where the message is a response and no handler of
the request's own asks for it again. -/
theorem nodeDispatchResponseMessage_dispatches_iff {node : Node} {event : Event}
    (hType : event.eventType = .messageReceived) :
    node.Dispatches (nodeDispatchResponseMessage node event).2 event ↔ node.MayDispatch event := by
  cases hpending : node.pendingFor event with
  | none =>
      have hnone : node.completedBy event = none := by
        rw [Node.completedBy, hpending, ite_self]
      rw [nodeDispatchResponseMessage_none hType hpending]
      refine iff_of_true ⟨fun _ => ⟨rfl, rfl⟩, ?_, ?_, ?_⟩ ?_
      · intro r hr
        rw [hnone] at hr
        cases hr
      · intro r hr
        rw [hnone] at hr
        cases hr
      · intro r hr
        rw [hnone] at hr
        cases hr
      · intro r hr
        rw [hpending] at hr
        cases hr
  | some r =>
      obtain ⟨hcalls, hcases⟩ := dispatchToRequest_told node event r
      rw [nodeDispatchResponseMessage_some hType hpending]
      obtain ⟨hmatch, before, after, hlist, hbefore⟩ :=
        List.find?_eq_some_iff_append.mp hpending
      have hbefore' : ∀ r' ∈ before,
          (node.request r').matches (node.connection event.connection) event = false :=
        fun r' hr' => Bool.not_eq_true' _ ▸ hbefore r' hr'
      have hnotMem : r ∉ before := fun hr => by
        rw [hbefore' r hr] at hmatch
        cases hmatch
      have hhead : node.requestsHead = some (before ++ r :: after) := by
        cases hhead : node.requestsHead with
        | none =>
            rw [hhead] at hlist
            exact absurd hlist.symm (List.append_ne_nil_of_right_ne_nil _ (List.cons_ne_nil _ _))
        | some requests =>
            rw [hhead] at hlist
            exact congrArg some hlist
      -- the list without the request is not the list
      have hshorter : node.requestsHead.map (·.erase r) ≠ node.requestsHead := by
        rw [hhead, Option.map_some, erase_middle hnotMem]
        intro h
        have hlength := congrArg List.length (Option.some.inj h)
        simp at hlength
      have hmay : node.MayDispatch event ↔ event.isResponse = true ∧
          ¬ ((node.request r).requestCompleted = true ∧ node.nextStatus = .error .retry) := by
        simp [Node.MayDispatch, hpending]
      rw [hmay]
      cases hresponse : event.isResponse with
      | false =>
          refine iff_of_false (fun h => ?_) (fun h => Bool.false_ne_true h.1)
          obtain ⟨hsame, hquiet⟩ := h.quiet (by rw [Node.completedBy, hresponse]; rfl)
          rcases hcases with ⟨-, hasks, -⟩ | ⟨-, herase⟩
          · rw [hcalls] at hquiet
            exact hasks.1 (Option.toList_eq_nil_iff.mp (List.append_right_eq_self.mp hquiet))
          · exact hshorter (herase.symm.trans hsame)
      | true =>
          have hcompleted : node.completedBy event = some r := by
            rw [Node.completedBy, if_pos hresponse, hpending]
          constructor
          · intro h
            refine ⟨rfl, fun ⟨hown, hretry⟩ => ?_⟩
            have hsame := (h.retried r hcompleted (Node.asksAgain_of_own hown hretry)).1
            rcases hcases with ⟨hnot, -⟩ | ⟨-, herase⟩
            · rw [hown] at hnot
              cases hnot
            · exact hshorter (herase.symm.trans hsame)
          · rintro ⟨-, hkeeps⟩
            refine ⟨fun hnone => ?_, fun r' hr' => ?_, fun r' hr' hasks => ?_,
              fun r' hr' hasks => ?_⟩
            · rw [hcompleted] at hnone
              cases hnone
            · obtain rfl := Option.some.inj (hcompleted.symm.trans hr')
              exact hcalls
            · obtain rfl := Option.some.inj (hcompleted.symm.trans hr')
              rcases hcases with ⟨-, hasks', -⟩ | ⟨-, herase⟩
              · exact absurd hasks' hasks
              · refine ⟨before, after, hhead, hbefore', ?_⟩
                rw [herase, hhead, Option.map_some, erase_middle hnotMem]
            · obtain rfl := Option.some.inj (hcompleted.symm.trans hr')
              rcases hcases with ⟨-, -, hsame, hpending'⟩ | ⟨hown | hnot, -⟩
              · refine ⟨hsame, ?_⟩
                rw [Node.completedBy, if_pos hresponse, hpending', hpending]
              · exact absurd ⟨hown, hasks.2⟩ hkeeps
              · exact absurd hasks hnot

/-! ## A run of dispatches -/

theorem nodeDispatchResponseMessage_sublist (node : Node) {event : Event}
    (hType : event.eventType = .messageReceived) :
    ((nodeDispatchResponseMessage node event).2.requestsHead.getD []).Sublist
      (node.requestsHead.getD []) := by
  cases hpending : node.pendingFor event with
  | none =>
      rw [nodeDispatchResponseMessage_none hType hpending]
  | some r =>
      rw [nodeDispatchResponseMessage_some hType hpending]
      rcases (dispatchToRequest_told node event r).2 with ⟨-, -, hsame, -⟩ | ⟨-, herase⟩
      · rw [hsame]
      · rw [herase]
        cases node.requestsHead with
        | none => exact .refl _
        | some requests => exact List.erase_sublist

/-- What is removed and what stays make up the list. -/
theorem Node.removedTo_perm {node node' : Node} (hnodup : (node.requestsHead.getD []).Nodup)
    (h : (node'.requestsHead.getD []).Sublist (node.requestsHead.getD [])) :
    (node.removedTo node' ++ node'.requestsHead.getD []).Perm (node.requestsHead.getD []) := by
  have hdisjoint : List.Disjoint (node.removedTo node') (node'.requestsHead.getD []) := by
    intro r hr hr'
    exact of_decide_eq_true (List.mem_filter.mp hr).2 hr'
  refine (List.perm_ext_iff_of_nodup
    ((hnodup.filter _).append (hnodup.sublist h) hdisjoint) hnodup).mpr fun r => ?_
  rw [List.mem_append, List.mem_filter, decide_eq_true_iff]
  constructor
  · rintro (⟨hr, -⟩ | hr)
    · exact hr
    · exact h.subset hr
  · intro hr
    by_cases hr' : r ∈ node'.requestsHead.getD []
    · exact Or.inr hr'
    · exact Or.inl ⟨hr, hr'⟩

/-- A run takes nothing out twice, and loses nothing. -/
theorem removals_perm {node : Node} (hnodup : (node.requestsHead.getD []).Nodup)
    {events : List Event} (hevents : ∀ event ∈ events, event.eventType = .messageReceived) :
    (removals node events ++
      (final nodeDispatchResponseMessage node events).requestsHead.getD []).Perm
        (node.requestsHead.getD []) := by
  induction events generalizing node with
  | nil => exact .refl _
  | cons event events ih =>
      have hsublist := nodeDispatchResponseMessage_sublist node (hevents event List.mem_cons_self)
      have hrest := ih (hnodup.sublist hsublist) fun event' hevent' =>
        hevents event' (List.mem_cons_of_mem _ hevent')
      rw [removals, final, List.append_assoc]
      exact (hrest.append_left _).trans (Node.removedTo_perm hnodup hsublist)

/-- A run of dispatches keeps what is promised, and takes each request out once at most, exactly
where each message that finds a request is a response to it that no handler of the request's own
asks for again. -/
theorem nodeDispatchResponseMessage_run_iff (node : Node) (events : List Event)
    (hnodup : (node.requestsHead.getD []).Nodup)
    (hevents : ∀ event ∈ events, event.eventType = .messageReceived) :
    (EveryCall nodeDispatchResponseMessage
        (fun node event => node.Dispatches (nodeDispatchResponseMessage node event).2 event) node
        events ∧ (removals node events).Nodup) ↔
      EveryCall nodeDispatchResponseMessage Node.MayDispatch node events := by
  have hremovals : (removals node events).Nodup :=
    ((removals_perm hnodup hevents).nodup_iff.mpr hnodup).of_append_left
  rw [and_iff_left hremovals]
  exact everyCall_iff (I := fun _ _ => True)
    (fun _ _ _ _ hType => nodeDispatchResponseMessage_dispatches_iff hType)
    (fun _ _ _ _ _ _ => trivial) trivial (everyCall_of_forall hevents)

end

section

open Lp64

/-- A client with two requests, of which the second one has a handler of its own. -/
def askingNode (statuses : List (Result Unit)) : Node :=
  { Node.init .any [] [0] fun _ => { connectionConstruct [] [] with client := some 0 } with
    requestsHead := some [0, 1]
    request := fun r => { NodeRequest.zero with
      requestId := if r = 0 then 5 else 6
      requestCompleted := r = 1 }
    client := fun _ => { ClientRecord.zero with requestCompleted := true }
    answers := statuses.map fun status => ⟨status, []⟩ }

/-- A message of a type with a number. -/
def numberedMessage (entryType : UInt16) (requestId : UInt32) : Event where
  eventType := .messageReceived
  connection := 0
  eventTime := 0
  receivedMessage := { ReceivedMessage.zero with
    receivedMessageEntryHeader := { MessageEntryHeaderOf.zero (.constant []) with
      entryType := entryType
      requestId := requestId } }
  eventErrorCode := .ok ()

/-- The handler of the client asks for a response once more, and gets it. -/
theorem askingNode_dispatches :
    EveryCall nodeDispatchResponseMessage
        (fun node event => node.Dispatches (nodeDispatchResponseMessage node event).2 event)
        (askingNode [.error .retry, .ok ()])
        [numberedMessage 2 5, numberedMessage 2 5, numberedMessage 2 6] ∧
      (removals (askingNode [.error .retry, .ok ()])
        [numberedMessage 2 5, numberedMessage 2 5, numberedMessage 2 6]).Nodup :=
  (nodeDispatchResponseMessage_run_iff (askingNode [.error .retry, .ok ()])
    [numberedMessage 2 5, numberedMessage 2 5, numberedMessage 2 6] (by decide) (by decide)).mpr
      (by decide +kernel)

/-- A request of the peer completes one of ours, and a request whose own handler asks for the
response again is lost. -/
theorem askingNode_loses :
    (¬ (askingNode []).Dispatches
        (nodeDispatchResponseMessage (askingNode []) (numberedMessage 1 5)).2
        (numberedMessage 1 5)) ∧
      ¬ (askingNode [.error .retry]).Dispatches
        (nodeDispatchResponseMessage (askingNode [.error .retry]) (numberedMessage 2 6)).2
        (numberedMessage 2 6) := by
  constructor
  · intro h
    have hsame := (h.quiet (by decide +kernel)).1
    revert hsame
    decide +kernel
  · intro h
    have hsame := (h.retried 1 (by decide +kernel) ⟨by decide +kernel, by decide⟩).1
    revert hsame
    decide +kernel

end

end RobotRaconteurLite

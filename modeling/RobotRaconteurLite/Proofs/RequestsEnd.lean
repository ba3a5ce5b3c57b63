import RobotRaconteurLite.Lib.CallSequence
import RobotRaconteurLite.Node.Requests
import RobotRaconteurLite.Proofs.NodeMoves
import Mathlib.Data.List.Perm.Basic

/-!
# Every request ends once

A request that was sent waits in the list of the node until a response or its
timeout takes it out, and whatever takes it out calls one of its two handlers.
So the requests that were sent are, in some order, those whose handler was called
and those that wait, each as often as it was sent. Nothing else that happens
changes the list: a broken connection, an event that comes again, a handler that
asks for more time.

A move ends one request or none, which is the whole argument. The rest is what
the application has to keep to: a request in the list is not begun again, and it
has both handlers when it is sent.
-/

namespace RobotRaconteurLite

open CallSequence

section

variable [SizeT]

/-- The requests that wait for a response. -/
def Node.pendingRequests (node : Node) : List Nat := node.requestsHead.getD []

/-- The requests whose handlers were called, in order. -/
def Node.endedRequests (node : Node) : List Nat := node.calls.filterMap HandlerCall.endsRequest

/-! ## Runs -/

/-- What happens to a node with requests: the node runs an event, the transport changes connections,
and the application sends and closes, gives answers for the handlers to come, uses a request, and
asks of an event whether it answers one. -/
inductive RequestCall
  | event (now : Int64)
  | transport (change : Nat → Connection → Connection)
  | app (call : AppCall)
  | answer (answers : List HandlerAnswer)
  | begin (i : Nat) (entryType : UInt16) (membername servicepath : Option ConstString) (r : Nat)
  | setOps (r : Nat) (requestCompleted requestError : Bool)
  | setTimeout (r : Nat) (now : Result Int64) (timeoutMs : Int32)
  | send (i : Nat) (sendData : SendMessageentryData) (r : Nat)
  | endRequest (sendData : SendMessageentryData) (event : Event)
  | endRequest2 (r : Nat) (event : Event)

/-- A node, and the requests that were sent, as often as they were. -/
structure RequestRun where
  node : Node
  sent : List Nat

def RequestRun.step (s : RequestRun) : RequestCall → Result Unit × RequestRun
  | .event now =>
      ((nodeRunNextEvent2 s.node now).1, { s with node := (nodeRunNextEvent2 s.node now).2 })
  | .transport change =>
      (.ok (), { s with node := { s.node with
        connection := fun i => change i (s.node.connection i) } })
  | .app call => (.ok (), { s with node := nodeAppCall s.node call })
  | .answer answers => (.ok (), { s with node := { s.node with answers } })
  | .begin i entryType membername servicepath r =>
      let out := clientBeginRequest s.node i entryType membername servicepath (some r)
      (out.1.map fun _ => (), { s with node := out.2 })
  | .setOps r requestCompleted requestError =>
      let request := nodeRequestSetOps (s.node.request r) requestCompleted requestError
      (.ok (), { s with node := s.node.setRequest r request })
  | .setTimeout r now timeoutMs =>
      let out := nodeRequestSetTimeout (s.node.request r) now timeoutMs
      (out.1, { s with node := s.node.setRequest r out.2 })
  | .send i sendData r =>
      match clientSendRequest s.node i sendData (some r) with
      | (.ok (), node) => (.ok (), { node, sent := s.sent ++ [r] })
      | (.error e, node) => (.error e, { s with node })
  | .endRequest sendData event => (clientEndRequest sendData event, s)
  | .endRequest2 r event => (clientEndRequest2 (s.node.request r) event, s)

/-- A request in the list is left alone, and a request is sent with both handlers. -/
def RequestProtocol (s : RequestRun) : RequestCall → Prop
  | .begin _ _ _ _ r => r ∉ s.node.pendingRequests
  | .setOps r _ _ => r ∉ s.node.pendingRequests
  | .send _ _ r => r ∉ s.node.pendingRequests ∧ (s.node.request r).answerable = true
  | _ => True

instance RequestProtocol.decidable (s : RequestRun) :
    (call : RequestCall) → Decidable (RequestProtocol s call)
  | .event _ | .transport _ | .app _ | .answer _ | .setTimeout _ _ _ | .endRequest _ _
  | .endRequest2 _ _ => isTrue trivial
  | .begin _ _ _ _ r => inferInstanceAs (Decidable (r ∉ s.node.pendingRequests))
  | .setOps r _ _ => inferInstanceAs (Decidable (r ∉ s.node.pendingRequests))
  | .send _ _ r => inferInstanceAs
      (Decidable (r ∉ s.node.pendingRequests ∧ (s.node.request r).answerable = true))

/-! ## The invariant -/

/-- The requests that wait are different and have both handlers, and with those that ended they are
the ones that were sent. -/
structure Accounted (node : Node) (sent : List Nat) : Prop where
  nodup : node.pendingRequests.Nodup
  answerable : ∀ r ∈ node.pendingRequests, (node.request r).answerable = true
  perm : (node.endedRequests ++ node.pendingRequests).Perm sent
  listed : node.requestsHead ≠ none

namespace Accounted

variable {node node' : Node} {sent : List Nat}

/-- What takes no part in requests. -/
theorem of_eq (h : Accounted node sent) (hhead : node'.requestsHead = node.requestsHead)
    (hrequest : node'.request = node.request) (hcalls : node'.calls = node.calls) :
    Accounted node' sent := by
  obtain ⟨hnodup, hanswerable, hperm, hlisted⟩ := h
  unfold Node.pendingRequests at hnodup hanswerable hperm
  unfold Node.endedRequests at hperm
  refine ⟨?_, ?_, ?_, ?_⟩
  · rw [Node.pendingRequests, hhead]
    exact hnodup
  · rw [Node.pendingRequests, hhead, hrequest]
    exact hanswerable
  · rw [Node.endedRequests, hcalls, Node.pendingRequests, hhead]
    exact hperm
  · rw [hhead]
    exact hlisted

theorem asked (h : Accounted node sent) (hasked : node.Asked node') : Accounted node' sent :=
  h.of_eq hasked.requestsHead hasked.request hasked.calls

/-- A request that is not in the list may change. -/
theorem setRequest (h : Accounted node sent) {r : Nat} {request : NodeRequest}
    (hr : r ∈ node.pendingRequests → request.answerable = true) :
    Accounted (node.setRequest r request) sent where
  nodup := h.nodup
  answerable r' hr' := by
    rcases eq_or_ne r' r with rfl | hne
    · change (Function.update node.request r' request r').answerable = true
      rw [Function.update_self]
      exact hr hr'
    · change (Function.update node.request r request r').answerable = true
      rw [Function.update_of_ne hne]
      exact h.answerable r' hr'
  perm := h.perm
  listed := h.listed

theorem pendingRequests_removeRequest (node : Node) (r : Nat) :
    (node.removeRequest r).pendingRequests = node.pendingRequests.erase r := by
  unfold Node.removeRequest Node.pendingRequests
  cases node.requestsHead with
  | none => rfl
  | some requests => rfl

/-- A request leaves the list as its handler is called. -/
theorem ended (h : Accounted node sent) {r : Nat} (hr : r ∈ node.pendingRequests)
    {handler : HandlerCall} (hends : handler.endsRequest = some r) :
    Accounted ((node.removeRequest r).addEffect (.call handler)) sent := by
  have hpending : ((node.removeRequest r).addEffect (.call handler)).pendingRequests =
      node.pendingRequests.erase r := pendingRequests_removeRequest node r
  have hended : ((node.removeRequest r).addEffect (.call handler)).endedRequests =
      node.endedRequests ++ [r] := by
    simp [Node.endedRequests, Node.calls, Node.addEffect, Node.removeRequest, Effect.handler, hends]
  refine ⟨?_, fun r' hr' => ?_, ?_, ?_⟩
  · rw [hpending]
    exact h.nodup.erase r
  · rw [hpending] at hr'
    exact h.answerable r' (List.mem_of_mem_erase hr')
  · rw [hended, hpending, List.append_assoc]
    exact ((List.perm_cons_erase hr).symm.append_left _).trans h.perm
  · intro hnone
    exact h.listed (Option.map_eq_none_iff.mp hnone)

/-- Only a request without a handler is dropped, and none of those is in the list. -/
theorem dropped (h : Accounted node sent) {r : Nat} (hr : (node.request r).answerable = false) :
    Accounted (node.removeRequest r) sent := by
  have hnot : r ∉ node.pendingRequests := fun hmem => by
    rw [h.answerable r hmem] at hr
    cases hr
  have hpending : (node.removeRequest r).pendingRequests = node.pendingRequests := by
    rw [pendingRequests_removeRequest, List.erase_of_not_mem hnot]
  refine ⟨hpending ▸ h.nodup, fun r' hr' => h.answerable r' (hpending ▸ hr'), hpending ▸ h.perm,
    fun hnone => h.listed (Option.map_eq_none_iff.mp hnone)⟩

/-- Every move keeps the account. -/
theorem moves {eventType : EventType} (h : Accounted node sent) (hmoves : node.Moves eventType node') :
    Accounted node' sent := by
  induction hmoves with
  | refl _ => exact h
  | trans _ _ ih ih' => exact ih' (ih h)
  | connection _ _ _ => exact h.of_eq rfl rfl rfl
  | client _ _ _ => exact h.of_eq rfl rfl rfl
  | asked hasked => exact h.asked hasked
  | call node hends =>
      refine ⟨h.nodup, h.answerable, ?_, h.listed⟩
      have hended (node : Node) {handler : HandlerCall} (hends : handler.endsRequest = none) :
          (node.addEffect (.call handler)).endedRequests = node.endedRequests := by
        simp [Node.endedRequests, Node.calls, Node.addEffect, Effect.handler, hends]
      rw [hended node hends]
      exact h.perm
  | queued node i header =>
      refine h.of_eq rfl rfl ?_
      simp [Node.calls, Node.addEffect, Effect.handler]
  | request node request hrequest =>
      exact ⟨h.nodup, fun r hr => (hrequest r).trans (h.answerable r hr), h.perm, h.listed⟩
  | ended node hr hends => exact h.ended hr hends
  | dropped node hr => exact h.dropped hr

/-- An event of the node, the end of a cycle included. -/
theorem event (h : Accounted node sent) (now : Int64) :
    Accounted (nodeRunNextEvent2 node now).2 sent := by
  have hnext : Accounted (node.nextEvent now).2 sent := by
    refine h.of_eq ?_ ?_ ?_
    · rw [nextEvent_rest]
    · rw [nextEvent_rest]
    · rw [nextEvent_rest]
      rfl
  unfold nodeRunNextEvent2
  by_cases hcycle : (node.nextEvent now).1.eventType = .nextCycle
  · have hrun (node : Node) (event : Event) (hcycle : event.eventType = .nextCycle) :
        (nodeRunEvent node event now).2 =
          ((nodeRequestsProcessControl node now).consumeEvent event).2 := by
      unfold nodeRunEvent
      rw [hcycle]
    have hmoves : (node.nextEvent now).2.Moves .nextCycle
        (nodeRequestsProcessControl (node.nextEvent now).2 now) :=
      nodeRequestsProcessControl_moves _ now
    rw [hrun _ _ hcycle]
    refine (hnext.moves hmoves).of_eq (consumeEvent_requestsHead _ _) ?_ (consumeEvent_calls _ _)
    rw [Node.consumeEvent, hcycle]
  · exact hnext.moves (nodeRunEvent_moves _ hcycle now)

end Accounted

/-! ## Every call -/

theorem nodeEndSendMessageentry_asked (node : Node) (i : Nat) (sendData : SendMessageentryData) :
    node.Asked (nodeEndSendMessageentry node i sendData).2 := by
  rcases nodeEndSendMessageentry_cases node i sendData with ⟨e, b, h⟩ | ⟨b, len, h⟩
  · rw [h]
    exact withSendBuffer_asked node i b
  · rw [h]
    exact queue_asked node i b len _

/-- A request begins: its record is another one, and something may be in the send buffer. -/
theorem Accounted.begin {node : Node} {sent : List Nat} (h : Accounted node sent) (i : Nat)
    (entryType : UInt16) (membername servicepath : Option ConstString) {r : Nat}
    (hr : r ∉ node.pendingRequests) :
    Accounted (clientBeginRequest node i entryType membername servicepath (some r)).2 sent := by
  have hsend (node : Node) (header : MessageEntryConstHeader) (h : Accounted node sent) :
      Accounted (nodeBeginSendMessageentry node i header).2 sent := by
    obtain ⟨b, hb⟩ := nodeBeginSendMessageentry_sendBuffer node i header
    rw [hb]
    exact h.asked (withSendBuffer_asked node i b)
  have hcounted (c : Connection) : Accounted (node.setConnection i c) sent := h.of_eq rfl rfl rfl
  exact hsend _ _ ((hcounted _).setRequest fun hmem => absurd hmem hr)

theorem Accounted.send {node node' : Node} {sent : List Nat} (h : Accounted node sent) {i : Nat}
    {sendData : SendMessageentryData} {r : Nat} (hr : r ∉ node.pendingRequests)
    (hanswerable : (node.request r).answerable = true)
    (hsend : clientSendRequest node i sendData (some r) = (.ok (), node')) :
    Accounted node' (sent ++ [r]) := by
  have hasked := nodeEndSendMessageentry_asked node i sendData
  unfold clientSendRequest at hsend
  generalize nodeEndSendMessageentry node i sendData = out at hasked hsend
  obtain ⟨rv, node₁⟩ := out
  cases rv with
  | error e => cases hsend
  | ok u =>
      cases u
      cases hsend
      dsimp only at hasked
      have h₁ := h.asked hasked
      have hpending₁ : node₁.pendingRequests = node.pendingRequests := by
        rw [Node.pendingRequests, hasked.requestsHead, Node.pendingRequests]
      have hpending : (node₁.appendRequest r).pendingRequests = node₁.pendingRequests ++ [r] := by
        have hlisted := h₁.listed
        unfold Node.appendRequest Node.pendingRequests
        cases hhead : node₁.requestsHead with
        | none => exact absurd hhead hlisted
        | some requests => rfl
      refine ⟨?_, fun r' hr' => ?_, ?_, ?_⟩
      · rw [hpending, hpending₁]
        have hcons : (r :: node.pendingRequests).Nodup := List.nodup_cons.mpr ⟨hr, h.nodup⟩
        exact (List.perm_append_singleton r _).nodup_iff.mpr hcons
      · rw [hpending] at hr'
        rcases List.mem_append.mp hr' with hr' | hr'
        · exact h₁.answerable r' hr'
        · rw [List.mem_singleton.mp hr']
          change (node₁.request r).answerable = true
          rw [hasked.request]
          exact hanswerable
      · rw [hpending, ← List.append_assoc]
        exact h₁.perm.append_right [r]
      · intro hnone
        exact h₁.listed (Option.map_eq_none_iff.mp hnone)

/-- One call of a run. -/
theorem Accounted.step {s : RequestRun} (h : Accounted s.node s.sent) {call : RequestCall}
    (hp : RequestProtocol s call) : Accounted (s.step call).2.node (s.step call).2.sent := by
  cases call with
  | event now => exact h.event now
  | transport change => exact h.of_eq rfl rfl rfl
  | app call => exact h.asked (nodeAppCall_asked s.node call)
  | answer answers => exact h.of_eq rfl rfl rfl
  | begin i entryType membername servicepath r => exact h.begin i entryType membername servicepath hp
  | setOps r requestCompleted requestError => exact h.setRequest fun hmem => absurd hmem hp
  | setTimeout r now timeoutMs =>
      refine h.setRequest fun hmem => ?_
      have hsame : (nodeRequestSetTimeout (s.node.request r) now timeoutMs).2.answerable =
          (s.node.request r).answerable := by
        unfold nodeRequestSetTimeout
        split <;> rfl
      rw [hsame]
      exact h.answerable r hmem
  | send i sendData r =>
      rw [RequestRun.step]
      split
      · next node hsend => exact h.send hp.1 hp.2 hsend
      · next e node hsend =>
          have hasked := nodeEndSendMessageentry_asked s.node i sendData
          unfold clientSendRequest at hsend
          generalize nodeEndSendMessageentry s.node i sendData = out at hasked hsend
          obtain ⟨rv, node₁⟩ := out
          cases rv with
          | error e => cases hsend; exact h.asked hasked
          | ok u => cases u; cases hsend
  | endRequest sendData event => exact h
  | endRequest2 r event => exact h

end

section

open Lp64

/-- A connected client that may have requests. -/
def requestingNode : Node :=
  { Node.init .any [] [0] fun _ => { connectionConstruct (List.replicate 200 0) [] with
      connectionState := STATUS_FLAGS_CONNECTED ||| STATUS_FLAGS_CONNECTED_CONSUMED } with
    requestsHead := some [] }

/-- The message of a request on its only connection. -/
def begunMessage : SendMessageentryData :=
  (clientBeginRequest requestingNode 0 MESSAGEENTRYTYPE_GETNODEINFO none none (some 7)).1.toOption.getD
    ⟨MessageEntryHeaderOf.zero (.constant []), MessageHeaderOf.zero (.constant []), ⟨0, 0, 0, 0, 0⟩,
      ⟨0, 0, 0, 0, 0, 0, 0, 0⟩, ⟨0, 0, 0, 0, 0, 0, 0, 0⟩⟩

/-- A request that nobody answers, and the cycle that is late for it. -/
def lateRequest : List RequestCall :=
  [.begin 0 MESSAGEENTRYTYPE_GETNODEINFO none none 7, .setOps 7 true true, .setTimeout 7 (.ok 0) 10,
    .send 0 begunMessage 7, .event 10001]

example : (final RequestRun.step ⟨requestingNode, []⟩ lateRequest).sent = [7] ∧
    (final RequestRun.step ⟨requestingNode, []⟩ lateRequest).node.endedRequests = [7] := by
  decide +kernel

end

end RobotRaconteurLite

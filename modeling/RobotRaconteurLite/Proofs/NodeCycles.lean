import Mathlib.Data.List.Basic
import RobotRaconteurLite.Node.EventLoops
import RobotRaconteurLite.Proofs.NodeMoves
import RobotRaconteurLite.Proofs.Wakes

/-!
# A cycle comes to every connection

While a cycle runs, handlers run: a connection that the cycle has not come to may
be asked to send or to close by the handlers of those before it. What it has to
report stays what it was, because nothing but its own event consumes it. The one
exception is an error of a connection that the application closes, which is not
reported any more.

The step lemma is about one round: which connections it passes over, what it
takes from the next, and what is left of the cursor. The cycle is the induction
over the rounds that are left.
-/

namespace RobotRaconteurLite

/-- What a connection has to report, apart from its heartbeat. -/
def Connection.pending (c : Connection) : Option EventType :=
  if connectionIsIdle c then none else connectionPendingEvent c

theorem Connection.pending_rechecked {c c' : Connection} (h : c.Rechecked c') :
    c'.pending = c.pending := by
  obtain ⟨t, rfl⟩ := h
  rfl

/-- An event is a flag that is set and a flag that is not. -/
theorem Connection.Asked.event {c c' : Connection} (h : c.Asked c') {m n : BitVec 32}
    (hm : STATUS_FLAGS_ASKED &&& m = 0#32) (hn : STATUS_FLAGS_ASKED &&& n = 0#32) :
    (c'.checkState m && !c'.checkState n) = (c.checkState m && !c.checkState n) := by
  rw [h.checkState hm, h.checkState hn]

/-- A connection that shows an error and the same connection that hides it differ in a close. -/
theorem Connection.Asked.isError {c c' : Connection} (h : c.Asked c') :
    connectionIsError c' = connectionIsError c ∨
      connectionIsClosedEvent c = false ∧ connectionIsError c = true ∧
        c'.checkState STATUS_FLAGS_CLOSE_REQUESTED = true := by
  have herror : c'.checkState STATUS_FLAGS_ERROR = c.checkState STATUS_FLAGS_ERROR :=
    h.checkState (by decide)
  have hclosed : c'.checkState STATUS_FLAGS_CLOSED = c.checkState STATUS_FLAGS_CLOSED :=
    h.checkState (by decide)
  have hasked : c.checkState STATUS_FLAGS_CLOSE_REQUESTED = true →
      c'.checkState STATUS_FLAGS_CLOSE_REQUESTED = true := h.checkState_of_checkState
  simp only [connectionIsError, connectionIsClosedEvent, checkState_or, herror, hclosed]
  cases c.checkState STATUS_FLAGS_CLOSED with
  | true => exact Or.inl rfl
  | false =>
      cases hfalse : c'.checkState STATUS_FLAGS_CLOSE_REQUESTED with
      | false =>
          cases hc : c.checkState STATUS_FLAGS_CLOSE_REQUESTED with
          | false => exact Or.inl rfl
          | true => exact absurd ((hasked hc).symm.trans hfalse) (by decide)
      | true =>
          cases c.checkState STATUS_FLAGS_CLOSE_REQUESTED with
          | true => exact Or.inl rfl
          | false =>
              cases c.checkState STATUS_FLAGS_ERROR with
              | false => exact Or.inl rfl
              | true => exact Or.inr ⟨rfl, rfl, rfl⟩

/-- What is asked of a connection takes no event from it but an error, and that one only by a
close. -/
theorem Connection.Asked.pending {c c' : Connection} (h : c.Asked c') :
    c'.pending = c.pending ∨
      c.pending = some .connectionError ∧ c'.checkState STATUS_FLAGS_CLOSE_REQUESTED = true := by
  have hidle : connectionIsIdle c' = connectionIsIdle c := h.checkState (by decide)
  have hclosed : connectionIsClosedEvent c' = connectionIsClosedEvent c :=
    h.event (by decide) (by decide)
  have hconnected : connectionIsConnectedEvent c' = connectionIsConnectedEvent c :=
    h.event (by decide) (by decide)
  have hsent : connectionIsMessageSentEvent c' = connectionIsMessageSentEvent c :=
    h.event (by decide) (by decide)
  have hreceived : connectionIsMessageReceivedEvent c' = connectionIsMessageReceivedEvent c :=
    h.event (by decide) (by decide)
  have hsocket : connectionIsClientSocketConnectedEvent c' =
      connectionIsClientSocketConnectedEvent c := h.event (by decide) (by decide)
  unfold Connection.pending connectionPendingEvent
  rw [hidle, hclosed, hconnected, hsent, hreceived, hsocket]
  rcases h.isError with herror | ⟨hopen, herror, hclose⟩
  · rw [herror]
    exact Or.inl rfl
  · rw [hopen, herror]
    cases connectionIsIdle c with
    | true => exact Or.inl rfl
    | false => exact Or.inr ⟨rfl, hclose⟩

section

variable [SizeT]

/-! ## One round -/

/-- What a connection reports lies in what the application does not touch. -/
theorem connectionEventOf_asked {c c' : Connection} (h : c.Asked c') (eventType : EventType)
    (i : Nat) (now : Int64) :
    connectionEventOf c' eventType i now = connectionEventOf c eventType i now := by
  have hreceive : nodeReceiveMessageentry c' = nodeReceiveMessageentry c := by
    have hreceived : c'.checkState STATUS_FLAGS_MESSAGE_RECEIVED =
        c.checkState STATUS_FLAGS_MESSAGE_RECEIVED := h.checkState (by decide)
    have hconsumed : c'.checkState STATUS_FLAGS_MESSAGE_CONSUMED =
        c.checkState STATUS_FLAGS_MESSAGE_CONSUMED := h.checkState (by decide)
    unfold nodeReceiveMessageentry connectionMessageReceive
    rw [hreceived, hconsumed]
    obtain ⟨_, _, _, rfl⟩ := h
    rfl
  cases eventType with
  | messageReceived => simp only [connectionEventOf, hreceive]
  | _ => rfl

theorem connectionEventOf_rechecked {c c' : Connection} (h : c.Rechecked c') (eventType : EventType)
    (i : Nat) (now : Int64) :
    connectionEventOf c' eventType i now = connectionEventOf c eventType i now := by
  obtain ⟨t, rfl⟩ := h
  rfl

/-- The search at a cursor stepped over the connections `passed`, which have nothing to report, and
then came to the end or to one that has. -/
structure StoppedBehind (connection : Nat → Connection) (now : Int64) (is passed : List Nat)
    (out : Option Event × (Nat → Connection) × List Nat) : Prop where
  quiet : ∀ i ∈ passed, (connection i).pending = none
  ended : out.1 = none → is = passed ∧ out.2.2 = []
  found : ∀ event, out.1 = some event → is = passed ++ event.connection :: out.2.2
  event : ∀ event, out.1 = some event → ∀ eventType,
    (connection event.connection).pending = some eventType →
      event = connectionEventOf (connection event.connection) eventType event.connection now

/-- One more connection with nothing to report. -/
theorem StoppedBehind.cons {connection connection' : Nat → Connection} {now : Int64}
    {is passed : List Nat} {out : Option Event × (Nat → Connection) × List Nat} {i : Nat}
    (h : StoppedBehind connection' now is passed out)
    (hrechecked : ∀ j, (connection j).Rechecked (connection' j))
    (hi : (connection i).pending = none) :
    StoppedBehind connection now (i :: is) (i :: passed) out where
  quiet j hj := by
    rcases List.mem_cons.mp hj with rfl | hj
    · exact hi
    · rw [← Connection.pending_rechecked (hrechecked j)]
      exact h.quiet j hj
  ended hnone := ⟨congrArg (i :: ·) (h.ended hnone).1, (h.ended hnone).2⟩
  found event hsome := congrArg (i :: ·) (h.found event hsome)
  event event hsome eventType hpending := by
    rw [← connectionEventOf_rechecked (hrechecked event.connection)]
    refine h.event event hsome eventType ?_
    rw [Connection.pending_rechecked (hrechecked event.connection)]
    exact hpending

/-- The loop of `next_event` stops at the first connection that has something to report. -/
theorem nextEventLoop_stopped (connection : Nat → Connection) (now : Int64) (is : List Nat) :
    ∃ passed, StoppedBehind connection now is passed (Node.nextEventLoop connection now is) := by
  induction is generalizing connection with
  | nil =>
      exact ⟨[], List.forall_mem_nil _, fun _ => ⟨rfl, rfl⟩, fun event h => (by cases h),
        fun event h => (by cases h)⟩
  | cons i rest ih =>
      rw [Node.nextEventLoop]
      split
      · next hidle =>
          obtain ⟨passed, h⟩ := ih connection
          exact ⟨i :: passed, h.cons (fun _ => .refl _) (by rw [Connection.pending, if_pos hidle])⟩
      · next hidle =>
          split
          · next eventType hpending =>
              have hi : (connection i).pending = some eventType := by
                rw [Connection.pending, if_neg hidle, hpending]
              refine ⟨[], List.forall_mem_nil _, fun h => (by cases h), fun event h => ?_,
                fun event h eventType' h' => ?_⟩
              · obtain rfl := Option.some.inj h
                rw [connectionEventOf_connection]
                rfl
              · obtain rfl := Option.some.inj h
                rw [connectionEventOf_connection] at h' ⊢
                rw [hi] at h'
                rw [Option.some.inj h']
          · next hpending =>
              have hi : (connection i).pending = none := by
                rw [Connection.pending, if_neg hidle, hpending]
              have hrechecked (j : Nat) : (connection j).Rechecked
                  (Function.update connection i (connectionHeartbeat (connection i) now).2 j) := by
                rcases eq_or_ne j i with rfl | hj
                · rw [Function.update_self]
                  exact connectionHeartbeat_rechecked _ now
                · rw [Function.update_of_ne hj]
                  exact .refl _
              dsimp only
              split
              · refine ⟨[], List.forall_mem_nil _, fun h => (by cases h), fun event h => ?_,
                  fun event h eventType' h' => ?_⟩
                · obtain rfl := Option.some.inj h
                  rfl
                · obtain rfl := Option.some.inj h
                  exact absurd (hi.symm.trans h') (by simp)
              · obtain ⟨passed, h⟩ := ih (Function.update connection i
                  (connectionHeartbeat (connection i) now).2)
                exact ⟨i :: passed, h.cons hrechecked hi⟩

/-- The first connection after handlers of others ran. -/
def Connection.Passed (c c' : Connection) : Prop :=
  ∃ between, c.Rechecked between ∧ between.Asked c'

omit [SizeT] in
theorem Connection.Passed.pending {c c' : Connection} (h : c.Passed c') :
    c'.pending = c.pending ∨
      c.pending = some .connectionError ∧ c'.checkState STATUS_FLAGS_CLOSE_REQUESTED = true := by
  obtain ⟨between, hrechecked, hasked⟩ := h
  rw [← Connection.pending_rechecked hrechecked]
  exact hasked.pending

theorem Connection.Passed.event {c c' : Connection} (h : c.Passed c') (eventType : EventType)
    (i : Nat) (now : Int64) :
    connectionEventOf c' eventType i now = connectionEventOf c eventType i now := by
  obtain ⟨between, hrechecked, hasked⟩ := h
  rw [connectionEventOf_asked hasked, connectionEventOf_rechecked hrechecked]

omit [SizeT] in
theorem connectionPendingEvent_ne_nextCycle {c : Connection} {eventType : EventType}
    (h : connectionPendingEvent c = some eventType) : eventType ≠ .nextCycle := by
  unfold connectionPendingEvent at h
  repeat' split at h
  all_goals cases h
  all_goals decide

theorem Connection.Reports.ne_nextCycle {c : Connection} {i : Nat} {now : Int64} {event : Event}
    (h : c.Reports i now event) : event.eventType ≠ .nextCycle := by
  cases h with
  | pending hpending =>
      rw [connectionEventOf_eventType]
      exact connectionPendingEvent_ne_nextCycle hpending
  | heartbeat _ => exact fun h => by cases h
  | timeout _ => exact fun h => by cases h

/-- Where a cycle starts. -/
def Node.cycleStart (node : Node) : List Nat :=
  if node.headIsConnection then node.connections.tail else node.connections

/-- What a round of a cycle made of the node. -/
structure Node.Round (node node' : Node) : Prop where
  connections : node'.connections = node.connections
  headIsConnection : node'.headIsConnection = node.headIsConnection
  closing : ∀ j, (node.connection j).checkState STATUS_FLAGS_CLOSE_REQUESTED = true →
    (node'.connection j).checkState STATUS_FLAGS_CLOSE_REQUESTED = true

theorem nodeEventErrorReturned_asked (eventErrorReturned : Option (Event → List AppCall))
    (node : Node) (event : Event) (eventRv : Result Unit) :
    node.Asked (nodeEventErrorReturned eventErrorReturned node event eventRv) := by
  unfold nodeEventErrorReturned
  split
  · exact foldl_nodeAppCall_asked node _
  · exact .refl node

/-- A node that was asked for something is in the same cycle. -/
theorem Node.Asked.round {node node' : Node} (h : node.Asked node') :
    node.Round node' ∧ node'.connectionsNext = node.connectionsNext := by
  refine ⟨⟨?_, ?_, fun j hj => (h.connection j).checkState_of_checkState hj⟩, ?_⟩
  all_goals rw [h.rest]

theorem Node.Moves.round {eventType : EventType} {node node' : Node}
    (h : node.Moves eventType node') : node.Round node' :=
  ⟨h.cycle.1, h.cycle.2.1, fun j hj => (h.worked j).keeps (by decide) hj⟩

theorem Node.Round.cycleStart {node node' : Node} (h : node.Round node') :
    node'.cycleStart = node.cycleStart := by
  rw [Node.cycleStart, h.connections, h.headIsConnection, Node.cycleStart]

theorem Node.Round.trans {node node' node'' : Node} (h : node.Round node')
    (h' : node'.Round node'') : node.Round node'' :=
  ⟨h'.connections.trans h.connections, h'.headIsConnection.trans h.headIsConnection,
    fun j hj => h'.closing j (h.closing j hj)⟩

theorem nextEvent_round (node : Node) (now : Int64) : node.Round (node.nextEvent now).2 := by
  refine ⟨?_, ?_, fun j hj => ?_⟩
  · rw [nextEvent_rest]
  · rw [nextEvent_rest]
  · obtain ⟨t, ht⟩ := nextEvent_rechecked node now j
    rw [ht]
    exact hj

/-- The end of a cycle. -/
theorem nodeRunEvent_nextCycle (node : Node) {event : Event} (h : event.eventType = .nextCycle)
    (now : Int64) : node.Round (nodeRunEvent node event now).2 ∧
      (nodeRunEvent node event now).2.connectionsNext = node.cycleStart := by
  have hmoves : node.Moves .nextCycle (nodeRequestsProcessControl node now) :=
    nodeRequestsProcessControl_moves node now
  have hround := hmoves.round
  have hrun : (nodeRunEvent node event now).2 =
      { nodeRequestsProcessControl node now with
        connectionsNext := (nodeRequestsProcessControl node now).cycleStart, eventsServiced := 0 } := by
    unfold nodeRunEvent
    rw [h]
    dsimp only
    rw [Node.consumeEvent, h]
    rfl
  rw [hrun]
  refine ⟨⟨hround.connections, hround.headIsConnection, hround.closing⟩, ?_⟩
  rw [Node.cycleStart, hround.connections, hround.headIsConnection]
  rfl

/-- The next event of a node: the cursor came to its end, or stopped behind a connection. -/
theorem nextEvent_stopped (node : Node) (now : Int64) :
    (node.nextEvent now).1 = eventOf .nextCycle 0 now ∧
        (∀ i ∈ node.connectionsNext, (node.connection i).pending = none) ∨
      (node.nextEvent now).1.eventType ≠ .nextCycle ∧
        ∃ passed, (∀ i ∈ passed, (node.connection i).pending = none) ∧
          node.connectionsNext = passed ++ (node.nextEvent now).1.connection ::
            (node.nextEvent now).2.connectionsNext ∧
          ∀ eventType,
            (node.connection (node.nextEvent now).1.connection).pending = some eventType →
              (node.nextEvent now).1 = connectionEventOf
                (node.connection (node.nextEvent now).1.connection) eventType
                (node.nextEvent now).1.connection now := by
  obtain ⟨passed, hstopped⟩ := nextEventLoop_stopped node.connection now node.connectionsNext
  have hreports := @nextEventLoop_reports _ node.connection now node.connectionsNext
  unfold Node.nextEvent
  split
  · next connection rest heq =>
      rw [heq] at hstopped
      obtain ⟨hcursor, -⟩ := hstopped.ended rfl
      refine Or.inl ⟨rfl, fun i hi => hstopped.quiet i ?_⟩
      rwa [hcursor] at hi
  · next event connection rest heq =>
      rw [heq] at hstopped
      have hreport := (hreports (congrArg Prod.fst heq)).2.2
      exact Or.inr ⟨hreport.ne_nextCycle, passed, hstopped.quiet, hstopped.found event rfl,
        hstopped.event event rfl⟩

/-- One round: the cycle ends, or the next connection that has something to report is dealt
with. -/
theorem nodeRunCycleRound_cases (eventErrorReturned : Option (Event → List AppCall)) (now : Int64)
    (node : Node) : node.Round (nodeRunCycleRound eventErrorReturned now node).2 ∧
      ((nodeRunCycleRound eventErrorReturned now node).1 = eventOf .nextCycle 0 now ∧
          (∀ i ∈ node.connectionsNext, (node.connection i).pending = none) ∧
          (nodeRunCycleRound eventErrorReturned now node).2.connectionsNext = node.cycleStart ∨
        (nodeRunCycleRound eventErrorReturned now node).1.eventType ≠ .nextCycle ∧
          ∃ passed, (∀ i ∈ passed, (node.connection i).pending = none) ∧
            node.connectionsNext =
              passed ++ (nodeRunCycleRound eventErrorReturned now node).1.connection ::
                (nodeRunCycleRound eventErrorReturned now node).2.connectionsNext ∧
            (∀ eventType, (node.connection
                (nodeRunCycleRound eventErrorReturned now node).1.connection).pending =
                  some eventType →
              (nodeRunCycleRound eventErrorReturned now node).1 = connectionEventOf
                (node.connection (nodeRunCycleRound eventErrorReturned now node).1.connection)
                eventType (nodeRunCycleRound eventErrorReturned now node).1.connection now) ∧
            ∀ j, j ≠ (nodeRunCycleRound eventErrorReturned now node).1.connection →
              (node.connection j).Passed
                ((nodeRunCycleRound eventErrorReturned now node).2.connection j)) := by
  have hnext := nextEvent_round node now
  have hrechecked := nextEvent_rechecked node now
  unfold nodeRunCycleRound nodeRunNextEvent2
  dsimp only
  generalize hrun : nodeRunEvent (node.nextEvent now).2 (node.nextEvent now).1 now = run
  have htold := nodeEventErrorReturned_asked eventErrorReturned run.2 (node.nextEvent now).1 run.1
  rcases nextEvent_stopped node now with ⟨hevent, hquiet⟩ | ⟨hne, passed, hquiet, hcursor, htype⟩
  · obtain ⟨hround, hstart⟩ := nodeRunEvent_nextCycle (node.nextEvent now).2
      (congrArg Event.eventType hevent) now
    rw [hrun] at hround hstart
    refine ⟨hnext.trans (hround.trans htold.round.1), Or.inl ⟨hevent, hquiet, ?_⟩⟩
    rw [htold.round.2, hstart, hnext.cycleStart]
  · have hmoves := nodeRunEvent_moves (node.nextEvent now).2 hne now
    have hworks := nodeRunEvent_works (node.nextEvent now).2 (node.nextEvent now).1 now
    rw [hrun] at hmoves hworks
    refine ⟨hnext.trans (hmoves.round.trans htold.round.1), Or.inr ⟨hne, passed, hquiet, ?_, htype,
      fun j hj => ?_⟩⟩
    · rw [htold.round.2, hmoves.cycle.2.2]
      exact hcursor
    · exact ⟨_, hrechecked j, (hworks.connection j hj).trans (htold.connection j)⟩

/-! ## The cycle -/

/-- The node after so many rounds. -/
def nodeAfterRounds (eventErrorReturned : Option (Event → List AppCall)) (now : Int64) :
    Nat → Node → Node
  | 0, node => node
  | rounds + 1, node =>
      nodeAfterRounds eventErrorReturned now rounds (nodeRunCycleRound eventErrorReturned now node).2

theorem nodeAfterRounds_round (eventErrorReturned : Option (Event → List AppCall)) (now : Int64)
    (rounds : Nat) (node : Node) :
    node.Round (nodeAfterRounds eventErrorReturned now rounds node) := by
  induction rounds generalizing node with
  | zero => exact ⟨rfl, rfl, fun _ h => h⟩
  | succ rounds ih =>
      exact (nodeRunCycleRound_cases eventErrorReturned now node).1.trans (ih _)

/-- The connection was closed before its turn: the rounds with the events `earlier` came to none but
the connections before it, and after them the close is requested. -/
def ClosedBeforeTurn (eventErrorReturned : Option (Event → List AppCall)) (node : Node) (now : Int64)
    (visited : List Nat) (events : List Event) (i : Nat) : Prop :=
  ∃ before after earlier later, visited = before ++ i :: after ∧ events = earlier ++ later ∧
    (earlier.map Event.connection).Sublist before ∧
    (later.map Event.connection).Sublist (i :: after) ∧
    ((nodeAfterRounds eventErrorReturned now earlier.length node).connection i).checkState
      STATUS_FLAGS_CLOSE_REQUESTED = true

/-- Rounds of a cycle came to the connections `visited`, with the events `events`: each connection
reported one event at most, in their order, and a connection that had something to report at the
start reported that. An error is the exception when the connection was closed before its turn. -/
structure CycleVisited (eventErrorReturned : Option (Event → List AppCall)) (node : Node)
    (now : Int64) (visited : List Nat) (events : List Event) : Prop where
  order : (events.map Event.connection).Sublist visited
  reported : ∀ i ∈ visited, ∀ eventType, (node.connection i).pending = some eventType →
    connectionEventOf (node.connection i) eventType i now ∈ events ∨
      eventType = .connectionError ∧
        ClosedBeforeTurn eventErrorReturned node now visited events i

section

variable {eventErrorReturned : Option (Event → List AppCall)} {node node₁ : Node} {now : Int64}
  {passed visited : List Nat} {event : Event} {events : List Event}

/-- Connections that have nothing to report. -/
theorem CycleVisited.of_quiet (h : ∀ i ∈ visited, (node.connection i).pending = none) :
    CycleVisited eventErrorReturned node now visited [] where
  order := List.nil_sublist _
  reported i hi eventType hpending := by
    rw [h i hi] at hpending
    cases hpending

/-- Closed by what happened in the first round. -/
theorem ClosedBeforeTurn.of_closed {i : Nat}
    (horder : (events.map Event.connection).Sublist visited) (hi : i ∈ visited)
    (hclose : (node.connection i).checkState STATUS_FLAGS_CLOSE_REQUESTED = true) :
    ClosedBeforeTurn eventErrorReturned node now visited events i := by
  obtain ⟨before, after, rfl⟩ := List.append_of_mem hi
  obtain ⟨connections, connections', hsplit, hbefore, hafter⟩ := List.sublist_append_iff.mp horder
  obtain ⟨earlier, later, rfl, rfl, rfl⟩ := List.map_eq_append_iff.mp hsplit
  exact ⟨before, after, earlier, later, rfl, rfl, hbefore, hafter,
    (nodeAfterRounds_round eventErrorReturned now earlier.length node).closing i hclose⟩

/-- One more round in front. -/
theorem ClosedBeforeTurn.cons {i : Nat}
    (h : ClosedBeforeTurn eventErrorReturned node₁ now visited events i)
    (hround : (nodeRunCycleRound eventErrorReturned now node).2 = node₁)
    (passed : List Nat) (event : Event) :
    ClosedBeforeTurn eventErrorReturned node now (passed ++ event.connection :: visited)
      (event :: events) i := by
  subst hround
  obtain ⟨before, after, earlier, later, rfl, rfl, hbefore, hafter, hclose⟩ := h
  refine ⟨passed ++ event.connection :: before, after, event :: earlier, later, ?_, rfl, ?_, hafter,
    hclose⟩
  · rw [List.append_assoc]
    rfl
  · rw [List.map_cons]
    exact (hbefore.cons_cons event.connection).trans (List.sublist_append_right passed _)

theorem CycleVisited.cons (h : CycleVisited eventErrorReturned node₁ now visited events)
    (hround : (nodeRunCycleRound eventErrorReturned now node).2 = node₁)
    (hquiet : ∀ i ∈ passed, (node.connection i).pending = none)
    (htype : ∀ eventType, (node.connection event.connection).pending = some eventType →
      event = connectionEventOf (node.connection event.connection) eventType event.connection now)
    (hpassed : ∀ j, j ≠ event.connection → (node.connection j).Passed (node₁.connection j))
    (hnew : event.connection ∉ visited) :
    CycleVisited eventErrorReturned node now (passed ++ event.connection :: visited)
      (event :: events) where
  order := by
    rw [List.map_cons]
    exact (h.order.cons_cons event.connection).trans (List.sublist_append_right passed _)
  reported i hi eventType hpending := by
    rcases List.mem_append.mp hi with hi | hi
    · rw [hquiet i hi] at hpending
      cases hpending
    · rcases List.mem_cons.mp hi with rfl | hi
      · rw [← htype eventType hpending]
        exact Or.inl List.mem_cons_self
      · have hpass := hpassed i fun heq => hnew (heq ▸ hi)
        rcases hpass.pending with hsame | ⟨herror, hclose⟩
        · rw [← hpass.event eventType i now]
          rcases h.reported i hi eventType (hsame.trans hpending) with hevent | ⟨hfails, hclosed⟩
          · exact Or.inl (List.mem_cons_of_mem _ hevent)
          · exact Or.inr ⟨hfails, hclosed.cons hround passed event⟩
        · rw [herror] at hpending
          exact Or.inr ⟨(Option.some.inj hpending).symm,
            (ClosedBeforeTurn.of_closed h.order hi hclose).cons hround passed event⟩

end

/-- So many rounds come to the end of the cycle, or to the part of it that they had time for. -/
theorem nodeRunNextEventCycleLoop_visits
    (eventErrorReturned : Option (Event → List AppCall)) (now : Int64) (left : Nat) {node : Node}
    (hnodup : node.connectionsNext.Nodup) :
    node.Round (nodeRunNextEventCycleLoop eventErrorReturned now left node).2 ∧
      ∃ events visited rest, node.connectionsNext = visited ++ rest ∧
        CycleVisited eventErrorReturned node now visited events ∧
        ((nodeRunNextEventCycleLoop eventErrorReturned now left node).1 =
              events ++ [eventOf .nextCycle 0 now] ∧ rest = [] ∧
            (nodeRunNextEventCycleLoop eventErrorReturned now left node).2.connectionsNext =
              node.cycleStart ∨
          (nodeRunNextEventCycleLoop eventErrorReturned now left node).1 = events ∧
            events.length = left + 1 ∧
            (nodeRunNextEventCycleLoop eventErrorReturned now left node).2.connectionsNext =
              rest) := by
  induction left generalizing node with
  | zero =>
      obtain ⟨hround, hcases⟩ := nodeRunCycleRound_cases eventErrorReturned now node
      rw [nodeRunNextEventCycleLoop]
      generalize hout : nodeRunCycleRound eventErrorReturned now node = out at hround hcases ⊢
      obtain ⟨event, node₁⟩ := out
      rcases hcases with ⟨hevent, hquiet, hstart⟩ | ⟨hne, passed, hquiet, hcursor, htype, hpassed⟩
      · dsimp only at hevent
        rw [hevent]
        exact ⟨hround, [], node.connectionsNext, [], (List.append_nil _).symm, .of_quiet hquiet,
          Or.inl ⟨rfl, rfl, hstart⟩⟩
      · dsimp only at hne
        dsimp only
        rw [if_neg hne]
        refine ⟨hround, [event], passed ++ [event.connection], node₁.connectionsNext, ?_, ?_,
          Or.inr ⟨rfl, rfl, rfl⟩⟩
        · rw [List.append_assoc]
          exact hcursor
        · exact (CycleVisited.of_quiet (List.forall_mem_nil _)).cons (congrArg Prod.snd hout) hquiet
            htype hpassed List.not_mem_nil
  | succ left ih =>
      obtain ⟨hround, hcases⟩ := nodeRunCycleRound_cases eventErrorReturned now node
      rw [nodeRunNextEventCycleLoop]
      generalize hout : nodeRunCycleRound eventErrorReturned now node = out at hround hcases ⊢
      obtain ⟨event, node₁⟩ := out
      rcases hcases with ⟨hevent, hquiet, hstart⟩ | ⟨hne, passed, hquiet, hcursor, htype, hpassed⟩
      · dsimp only at hevent
        rw [hevent]
        exact ⟨hround, [], node.connectionsNext, [], (List.append_nil _).symm, .of_quiet hquiet,
          Or.inl ⟨rfl, rfl, hstart⟩⟩
      · dsimp only at hne hcursor
        dsimp only
        rw [if_neg hne]
        rw [hcursor] at hnodup
        have hrest := (List.nodup_append.mp hnodup).2.1
        obtain ⟨hnew, hnodup₁⟩ := List.nodup_cons.mp hrest
        obtain ⟨hround₁, events, visited, rest, hsplit, hvisited, hend⟩ := ih hnodup₁
        have hnew' : event.connection ∉ visited := fun hi =>
          hnew (hsplit ▸ List.mem_append_left rest hi)
        have hstart : node₁.cycleStart = node.cycleStart := hround.cycleStart
        refine ⟨hround.trans hround₁, event :: events, passed ++ event.connection :: visited, rest,
          ?_, hvisited.cons (congrArg Prod.snd hout) hquiet htype hpassed hnew', ?_⟩
        · rw [hcursor, hsplit, List.append_assoc]
          rfl
        · rcases hend with ⟨hevents, hnil, hcursor₁⟩ | ⟨hevents, hlength, hcursor₁⟩
          · exact Or.inl ⟨congrArg (event :: ·) hevents, hnil, hcursor₁.trans hstart⟩
          · exact Or.inr ⟨congrArg (event :: ·) hevents, congrArg (· + 1) hlength, hcursor₁⟩

/-! ## Cycle after cycle -/

/-- What is different from cycle to cycle: what happened to the connections before it, the answers
that the handlers get, and what the application does when it is told of a failure. -/
structure CycleCall where
  now : Int64
  transport : Nat → Connection → Connection
  answers : List HandlerAnswer
  eventErrorReturned : Option (Event → List AppCall)

/-- A cycle of a run, with the node before it. -/
structure CycleOutcome where
  call : CycleCall
  before : Node
  events : List Event

/-- One cycle after the other, of at most so many events each. -/
def nodeRunCycles (maxEvents : Nat) : Node → List CycleCall → List CycleOutcome
  | _, [] => []
  | node, call :: calls =>
      let before : Node := { node with
        connection := fun i => call.transport i (node.connection i)
        answers := call.answers }
      let (events, after) := nodeRunNextEventCycle call.eventErrorReturned before call.now maxEvents
      ⟨call, before, events⟩ :: nodeRunCycles maxEvents after calls

/-- A cycle that may take more events than there are connections comes to all of them. -/
theorem nodeRunNextEventCycle_visits (eventErrorReturned : Option (Event → List AppCall))
    {node : Node} (now : Int64) {maxEvents : Nat} (hnodup : node.connectionsNext.Nodup)
    (hmax : node.connectionsNext.length < maxEvents) :
    ∃ events,
      (nodeRunNextEventCycle eventErrorReturned node now maxEvents).1 =
        events ++ [eventOf .nextCycle 0 now] ∧
      CycleVisited eventErrorReturned node now node.connectionsNext events ∧
      (nodeRunNextEventCycle eventErrorReturned node now maxEvents).2.connectionsNext =
        node.cycleStart := by
  obtain ⟨-, events, visited, rest, hsplit, hvisited, hend⟩ :=
    nodeRunNextEventCycleLoop_visits eventErrorReturned now (maxEvents - 1) hnodup
  rcases hend with ⟨hevents, rfl, hstart⟩ | ⟨-, hlength, -⟩
  · rw [List.append_nil] at hsplit
    rw [hsplit]
    exact ⟨events, hevents, hvisited, hstart⟩
  · -- There are not so many connections.
    have hle := hvisited.order.length_le
    rw [List.length_map] at hle
    have hvisitedLength := congrArg List.length hsplit
    rw [List.length_append] at hvisitedLength
    omega

/-- In a run of cycles every cycle comes to every connection, whatever the handlers do: it reports
one event of each at most, in the order of the list, and what a connection had to report when the
cycle began. Where the head of the list is itself a connection, a cycle starts behind it. -/
theorem nodeRunCycles_visit {node : Node} {maxEvents : Nat} (calls : List CycleCall)
    (hnodup : node.cycleStart.Nodup) (hnext : node.connectionsNext = node.cycleStart)
    (hmax : node.cycleStart.length < maxEvents) :
    ∀ o ∈ nodeRunCycles maxEvents node calls,
      ∃ events, o.events = events ++ [eventOf .nextCycle 0 o.call.now] ∧
        CycleVisited o.call.eventErrorReturned o.before o.call.now node.cycleStart events := by
  induction calls generalizing node with
  | nil => exact List.forall_mem_nil _
  | cons call calls ih =>
      intro o ho
      rw [nodeRunCycles] at ho
      dsimp only at ho
      generalize hbefore : ({ node with
        connection := fun i => call.transport i (node.connection i)
        answers := call.answers } : Node) = before at ho
      have hcursor : before.connectionsNext = node.cycleStart := by
        rw [← hbefore]
        exact hnext
      have hbeforeStart : before.cycleStart = node.cycleStart := by
        rw [← hbefore]
        rfl
      have hround := (nodeRunNextEventCycleLoop_visits call.eventErrorReturned call.now
        (maxEvents - 1) (hcursor ▸ hnodup)).1
      obtain ⟨events, hevents, hvisited, hstart⟩ := nodeRunNextEventCycle_visits
        call.eventErrorReturned call.now (hcursor ▸ hnodup) (hcursor ▸ hmax)
      rw [hcursor] at hvisited
      rcases List.mem_cons.mp ho with rfl | ho
      · exact ⟨events, hevents, hvisited⟩
      · have hsame : (nodeRunNextEventCycle call.eventErrorReturned before call.now
            maxEvents).2.cycleStart = node.cycleStart :=
          hround.cycleStart.trans hbeforeStart
        have hrest := ih (hsame ▸ hnodup) (hstart.trans (hbeforeStart.trans hsame.symm))
          (hsame ▸ hmax) o ho
        rwa [hsame] at hrest

end

section

open Lp64

/-- A connection that was accepted and one that broke. -/
def acceptedAndBroken : Node :=
  { Node.init .any [] [0, 1] fun i => { connectionConstruct [] [] with
      connectionState := if i = 0 then STATUS_FLAGS_CONNECTED else STATUS_FLAGS_ERROR } with
    connectionEvent := true }

/-- A cycle in which the first handler does what the answer says. -/
def answeredCycle (answer : HandlerAnswer) : CycleCall := ⟨0, fun _ c => c, [answer], none⟩

theorem acceptedAndBroken_visited :
    (nodeRunCycles 3 acceptedAndBroken
        [answeredCycle ⟨.ok (), []⟩, answeredCycle ⟨.ok (), [.close 1]⟩]).Forall fun o =>
      ∃ events, o.events = events ++ [eventOf .nextCycle 0 o.call.now] ∧
        CycleVisited o.call.eventErrorReturned o.before o.call.now acceptedAndBroken.cycleStart
          events := by
  rw [List.forall_iff_forall_mem]
  exact @nodeRunCycles_visit _ acceptedAndBroken 3
    [answeredCycle ⟨.ok (), []⟩, answeredCycle ⟨.ok (), [.close 1]⟩] (by decide) rfl (by decide)

/-- The handler of the first connection closes the second one, and its error is not reported. -/
example : ((nodeRunCycles 3 acceptedAndBroken [answeredCycle ⟨.ok (), [.close 1]⟩]).map fun o =>
    o.events.map Event.eventType) = [[.connectionConnected, .nextCycle]] := by
  decide +kernel

example : ((nodeRunCycles 3 acceptedAndBroken [answeredCycle ⟨.ok (), []⟩]).map fun o =>
    o.events.map Event.eventType) = [[.connectionConnected, .connectionError, .nextCycle]] := by
  decide +kernel

end

end RobotRaconteurLite

import RobotRaconteurLite.Node.Wake

/-!
# No due work is slept past

Each connection and each request either leaves the time to wake alone, brings it
forward to a time of its own, or sets it to now. So for a time that is not before
now, the node wakes by it if and only if one of them is due by it, and which one
comes first does not matter.

The events that the node has pending are not all among these. A connection that
was closed, or whose socket was connected, or that was connected has an event, and
no flag that `next_wake` looks at.
-/

namespace RobotRaconteurLite

/-- A property that each step of a fold keeps or brings about. -/
theorem foldl_iff {α β : Type} {f : β → α → β} (Q : β → Prop) (P : α → Prop)
    (hstep : ∀ b a, Q (f b a) ↔ Q b ∨ P a) (b : β) (l : List α) :
    Q (l.foldl f b) ↔ Q b ∨ ∃ a ∈ l, P a := by
  induction l generalizing b with
  | nil => simp
  | cons a l ih =>
      rw [List.foldl_cons, ih, hstep, or_assoc]
      simp only [List.mem_cons, exists_eq_or_imp]

theorem checkState_or (c : Connection) (m n : BitVec 32) :
    c.checkState (m ||| n) = (c.checkState m || c.checkState n) := by
  rw [Bool.eq_iff_iff, Bool.or_eq_true]
  simp only [Connection.checkState, flagsCheck, bne_iff_ne, ne_eq, BitVec.and_or_distrib_left,
    BitVec.or_eq_zero_iff]
  exact Decidable.not_and_iff_not_or_not

/-- What brings a time forward is the least of two. -/
theorem ite_lt_le_iff {time wake other : Int64} {there : Prop} [Decidable there] :
    (if there ∧ other < wake then other else wake) ≤ time ↔
      wake ≤ time ∨ (there ∧ other ≤ time) := by
  split
  · next h =>
      obtain ⟨hthere, hlt⟩ := h
      rw [Int64.lt_iff_toInt_lt] at hlt
      simp only [Int64.le_iff_toInt_le, hthere, true_and]
      omega
  · next h =>
      simp only [Int64.le_iff_toInt_le]
      constructor
      · exact Or.inl
      · rintro (hle | ⟨hthere, hle⟩)
        · exact hle
        · have hnot := not_and.mp h hthere
          rw [Int64.lt_iff_toInt_lt] at hnot
          omega

theorem Int64.le_max_iff {a b c : Int64} : a ≤ max b c ↔ a ≤ b ∨ a ≤ c := by
  show a ≤ (if b ≤ c then c else b) ↔ _
  simp only [Int64.le_iff_toInt_le]
  split
  · omega
  · omega

/-! ## Being due -/

/-- The flags of a connection that has something to do at once. -/
def STATUS_FLAGS_AT_ONCE : BitVec 32 :=
  STATUS_FLAGS_CLOSE_REQUESTED ||| STATUS_FLAGS_ERROR ||| STATUS_FLAGS_MESSAGE_SENT |||
    STATUS_FLAGS_MESSAGE_RECEIVED

/-- A connection has something to do at once, or by a time. Only a time after zero counts. -/
def Connection.DueBy (c : Connection) (time : Int64) : Prop :=
  c.checkState STATUS_FLAGS_IDLE = false ∧
    (c.checkState STATUS_FLAGS_AT_ONCE = true ∨
      (0 < c.heartbeatNextCheckUs ∧ c.heartbeatNextCheckUs ≤ time) ∨
      0 < c.transportNextWake ∧ c.transportNextWake ≤ time)

def NodeRequest.DueBy (request : NodeRequest) (time : Int64) : Prop :=
  request.timeoutTimespec ≠ 0 ∧ request.timeoutTimespec ≤ time

/-- The times by which a connection is to be woken. -/
def Connection.wakeTimes (c : Connection) : List Int64 := [c.heartbeatNextCheckUs, c.transportNextWake]

instance (c : Connection) (time : Int64) : Decidable (c.DueBy time) :=
  inferInstanceAs (Decidable (_ ∧ _))

instance (request : NodeRequest) (time : Int64) : Decidable (request.DueBy time) :=
  inferInstanceAs (Decidable (_ ∧ _))

/-! ## The time to wake -/

theorem connectionNextWake_le_iff {c : Connection} {now time : Int64} (hnow : now ≤ time)
    (nextWake : Int64) :
    connectionNextWake c now nextWake ≤ time ↔ nextWake ≤ time ∨ c.DueBy time := by
  have hatOnce : c.checkState STATUS_FLAGS_AT_ONCE =
      (c.checkState (STATUS_FLAGS_CLOSE_REQUESTED ||| STATUS_FLAGS_ERROR) ||
        c.checkState STATUS_FLAGS_MESSAGE_SENT || c.checkState STATUS_FLAGS_MESSAGE_RECEIVED) := by
    rw [STATUS_FLAGS_AT_ONCE, checkState_or, checkState_or]
  rw [connectionNextWake, Connection.DueBy, hatOnce]
  cases hidle : c.checkState STATUS_FLAGS_IDLE with
  | true => simp
  | false =>
      cases c.checkState (STATUS_FLAGS_CLOSE_REQUESTED ||| STATUS_FLAGS_ERROR) with
      | true => simp [hnow]
      | false =>
          cases c.checkState STATUS_FLAGS_MESSAGE_SENT with
          | true => simp [hnow]
          | false =>
              cases c.checkState STATUS_FLAGS_MESSAGE_RECEIVED with
              | true => simp [hnow]
              | false =>
                  simp only [Bool.false_eq_true, if_false, Bool.or_false, true_and, false_or]
                  split
                  · next h =>
                      -- The check is due, and no time is looked at any more.
                      obtain ⟨hpositive, hdue⟩ := h
                      have hcheck : c.heartbeatNextCheckUs ≤ time := by
                        simp only [gt_iff_lt, Int64.lt_iff_toInt_lt, Int64.le_iff_toInt_le] at *
                        rcases hdue with hbefore | ⟨hzero, -⟩
                        · omega
                        · rw [hzero] at hpositive
                          exact absurd hpositive (Int.lt_irrefl _)
                      exact iff_of_true hnow (Or.inr (Or.inl ⟨hpositive, hcheck⟩))
                  · simp only [gt_iff_lt, ite_lt_le_iff, or_assoc]

theorem nextWake_le_iff (request : NodeRequest) (nextWake time : Int64) :
    request.nextWake nextWake ≤ time ↔ nextWake ≤ time ∨ request.DueBy time :=
  ite_lt_le_iff

/-! ## The events of a connection -/

/-- The connection has an event that comes with no flag that `next_wake` looks at. -/
def Connection.HasUnheardEvent (c : Connection) : Prop :=
  connectionIsIdle c = false ∧ (connectionIsClosedEvent c = true ∨
    connectionIsConnectedEvent c = true ∨ connectionIsClientSocketConnectedEvent c = true)

instance (c : Connection) : Decidable c.HasUnheardEvent := inferInstanceAs (Decidable (_ ∧ _))

/-- Any other event of a connection makes it due at once. -/
theorem dueBy_or_unheard {c : Connection} (h : 0 < connectionEventsPending c) (time : Int64) :
    c.DueBy time ∨ c.HasUnheardEvent := by
  rw [connectionEventsPending] at h
  split at h
  · exact absurd h (Nat.lt_irrefl 0)
  · next hidle =>
      rw [Bool.not_eq_true] at hidle
      by_cases hheard : c.checkState STATUS_FLAGS_AT_ONCE = true
      · exact Or.inl ⟨hidle, Or.inl hheard⟩
      · refine Or.inr ⟨hidle, ?_⟩
        rw [Bool.not_eq_true, STATUS_FLAGS_AT_ONCE, checkState_or, checkState_or, checkState_or,
          Bool.or_eq_false_iff, Bool.or_eq_false_iff, Bool.or_eq_false_iff] at hheard
        obtain ⟨⟨⟨-, herror⟩, hsent⟩, hreceived⟩ := hheard
        have hnoError : connectionIsError c = false := by
          rw [connectionIsError, herror, Bool.false_and]
        have hnoSent : connectionIsMessageSentEvent c = false := by
          rw [connectionIsMessageSentEvent, hsent, Bool.false_and]
        have hnoReceived : connectionIsMessageReceivedEvent c = false := by
          rw [connectionIsMessageReceivedEvent, hreceived, Bool.false_and]
        rw [hnoError, hnoSent, hnoReceived] at h
        by_contra hnone
        simp only [not_or, Bool.not_eq_true] at hnone
        rw [hnone.1, hnone.2.1, hnone.2.2] at h
        exact absurd h (by decide)

theorem Connection.HasUnheardEvent.pending {c : Connection} (h : c.HasUnheardEvent) :
    0 < connectionEventsPending c := by
  obtain ⟨hidle, hevent⟩ := h
  rw [connectionEventsPending, hidle, if_neg Bool.false_ne_true]
  rcases hevent with hclosed | hconnected | hsocket
  · rw [hclosed, Bool.toNat_true]
    omega
  · rw [hconnected, Bool.toNat_true]
    omega
  · rw [hsocket, Bool.toNat_true]
    omega

/-! ## The node -/

section

variable [SizeT]

/-- The requests of a node. -/
def Node.requests (node : Node) : List Nat := node.requestsHead.getD []

/-- The node has to wake by a time, from the one that it was given. -/
def Node.DueBy (node : Node) (now wakeTime time : Int64) : Prop :=
  (if wakeTime = 0 then now + NODE_DEFAULT_SLEEP_TIME else wakeTime) ≤ time ∨
    (∃ i ∈ node.connections, (node.connection i).DueBy time) ∨
    ∃ r ∈ node.requests, (node.request r).DueBy time

instance (node : Node) (now wakeTime time : Int64) : Decidable (node.DueBy now wakeTime time) :=
  inferInstanceAs (Decidable (_ ∨ _))

/-- A node wakes by a time that is not before now if and only if something is due by it. -/
theorem nodeNextWake_le_iff (node : Node) {now time : Int64} (hnow : now ≤ time) (wakeTime : Int64) :
    node.nextWake now wakeTime ≤ time ↔ node.DueBy now wakeTime time := by
  obtain ⟨slept, hslept⟩ : ∃ slept, slept = node.connections.foldl
      (fun wakeTime i => connectionNextWake (node.connection i) now wakeTime)
      (if wakeTime = 0 then now + NODE_DEFAULT_SLEEP_TIME else wakeTime) := ⟨_, rfl⟩
  have hconnections : slept ≤ time ↔
      (if wakeTime = 0 then now + NODE_DEFAULT_SLEEP_TIME else wakeTime) ≤ time ∨
        ∃ i ∈ node.connections, (node.connection i).DueBy time := by
    rw [hslept]
    exact foldl_iff (· ≤ time) (fun i => (node.connection i).DueBy time)
      (fun wakeTime i => connectionNextWake_le_iff hnow wakeTime) _ _
  rw [Node.nextWake, Node.DueBy, ← or_assoc, ← hconnections, Node.requests, ← hslept]
  cases node.requestsHead with
  | none => simp
  | some requests =>
      exact foldl_iff (· ≤ time) (fun r => (node.request r).DueBy time)
        (fun wakeTime r => nextWake_le_iff (node.request r) wakeTime time) _ _

/-- A node that wakes then does not sleep past anything. -/
structure Node.NeverLate (node : Node) (now wakeTime wake : Int64) : Prop where
  prior : wakeTime ≠ 0 → wake ≤ max now wakeTime
  requests : ∀ r ∈ node.requests, (node.request r).timeoutTimespec ≠ 0 →
    wake ≤ max now (node.request r).timeoutTimespec
  connections : ∀ i ∈ node.connections, connectionIsIdle (node.connection i) = false →
    ∀ time ∈ (node.connection i).wakeTimes, time ≠ 0 → wake ≤ max now time
  pending : 0 < node.eventsPending → wake ≤ now

theorem nodeEventsPending_pos_iff (node : Node) :
    0 < node.eventsPending ↔
      ∃ i ∈ node.connections, 0 < connectionEventsPending (node.connection i) := by
  rw [Node.eventsPending, List.sum_pos_iff_exists_pos_nat]
  simp only [List.mem_map, exists_exists_and_eq_and]

/-- The time to wake is late for nothing if and only if each event that `next_wake` does not hear
of, and each negative time of a connection, has something else that is due as early. -/
theorem nodeNextWake_neverLate_iff (node : Node) (now wakeTime : Int64) :
    node.NeverLate now wakeTime (node.nextWake now wakeTime) ↔
      (∀ i ∈ node.connections, (node.connection i).HasUnheardEvent →
        node.DueBy now wakeTime now) ∧
      ∀ i ∈ node.connections, connectionIsIdle (node.connection i) = false →
        ∀ time ∈ (node.connection i).wakeTimes, time < 0 →
          node.DueBy now wakeTime (max now time) := by
  have hnow (time : Int64) : now ≤ max now time := Int64.le_max_iff.mpr (Or.inl (Int64.le_refl _))
  have hlater (time : Int64) : time ≤ max now time :=
    Int64.le_max_iff.mpr (Or.inr (Int64.le_refl _))
  constructor
  · intro h
    constructor
    · intro i hi hevent
      have hpending := (nodeEventsPending_pos_iff node).mpr ⟨i, hi, hevent.pending⟩
      exact (nodeNextWake_le_iff node (Int64.le_refl _) wakeTime).mp (h.pending hpending)
    · intro i hi hidle time htime hnegative
      have hne : time ≠ 0 := by
        rintro rfl
        exact absurd hnegative (by decide)
      exact (nodeNextWake_le_iff node (hnow time) wakeTime).mp (h.connections i hi hidle time htime hne)
  · rintro ⟨hunheard, hnegatives⟩
    constructor
    · intro hprior
      refine (nodeNextWake_le_iff node (hnow wakeTime) wakeTime).mpr (Or.inl ?_)
      rw [if_neg hprior]
      exact hlater wakeTime
    · intro r hr htimeout
      exact (nodeNextWake_le_iff node (hnow _) wakeTime).mpr
        (Or.inr (Or.inr ⟨r, hr, htimeout, hlater _⟩))
    · intro i hi hidle time htime hne
      refine (nodeNextWake_le_iff node (hnow time) wakeTime).mpr ?_
      by_cases hnegative : time < 0
      · exact hnegatives i hi hidle time htime hnegative
      · have hpositive : 0 < time := by
          rw [Int64.lt_iff_toInt_lt] at hnegative ⊢
          have hzero : time.toInt ≠ (0 : Int64).toInt := fun h => hne (Int64.toInt_inj.mp h)
          omega
        refine Or.inr (Or.inl ⟨i, hi, hidle, Or.inr ?_⟩)
        rw [Connection.wakeTimes, List.mem_cons, List.mem_singleton] at htime
        rcases htime with rfl | rfl
        · exact Or.inl ⟨hpositive, hlater _⟩
        · exact Or.inr ⟨hpositive, hlater _⟩
    · intro hpending
      obtain ⟨i, hi, hevents⟩ := (nodeEventsPending_pos_iff node).mp hpending
      refine (nodeNextWake_le_iff node (Int64.le_refl _) wakeTime).mpr ?_
      rcases dueBy_or_unheard hevents now with hdue | hevent
      · exact Or.inr (Or.inl ⟨i, hi, hdue⟩)
      · exact hunheard i hi hevent

end

section

open Lp64

/-- A node with one connection in a state. -/
def stateNode (connectionState : BitVec 32) : Node :=
  Node.init .any [] [0] fun _ =>
    { connectionConstruct [] [] with connectionState := connectionState }

/-- A connection that was connected has an event, and the node sleeps for five milliseconds. -/
theorem connectedNode_late :
    0 < (stateNode STATUS_FLAGS_CONNECTED).eventsPending ∧
      ¬ (stateNode STATUS_FLAGS_CONNECTED).NeverLate 1000 0
        ((stateNode STATUS_FLAGS_CONNECTED).nextWake 1000 0) := by
  have hpending : 0 < (stateNode STATUS_FLAGS_CONNECTED).eventsPending := by decide
  refine ⟨hpending, fun h => ?_⟩
  have hwake := h.pending hpending
  revert hwake
  decide

end

end RobotRaconteurLite

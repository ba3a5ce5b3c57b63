import RobotRaconteurLite.Acceptors
import Mathlib.Data.List.DropRight

/-!
# When an acceptor waits

The search for an idle connection visits every connection of the list. The search
that decides whether the acceptor waits leaves out the object behind each
connection it visits: harmless where that is no connection, but of connections in a
row only every other one is visited.
-/

namespace RobotRaconteurLite

open LinkedList

/-- What the acceptor visits of a list. -/
def visited : List ConnectionObjectRef → List ConnectionObjectRef
  | [] => []
  | c :: l => if c.isConnection then c :: visited l.tail else visited l
termination_by l => l.length

/-- An even number of connections stand right before it. -/
def EvenlyPreceded (l : List ConnectionObjectRef) : Prop :=
  (l.rtakeWhile ConnectionObjectRef.isConnection).length % 2 = 0

/-- An idle connection, with an even number of connections right before it. -/
def HasEvenIdle (s : ConnectionStates) (l : List ConnectionObjectRef) : Prop :=
  ∃ l₀ c l₂, l = l₀ ++ c :: l₂ ∧ c.isConnection = true ∧ s.isIdle c = true ∧ EvenlyPreceded l₀

/-! ## What is visited -/

theorem visited_of_find? {c : ConnectionObjectRef} {l : List ConnectionObjectRef}
    (h : l.find? ConnectionObjectRef.isConnection = some c) :
    ∃ l₀ l₂, l = l₀ ++ c :: l₂ ∧ visited l = c :: visited l₂.tail := by
  induction l with
  | nil => cases h
  | cons a l ih =>
      rw [List.find?_cons] at h
      cases ha : a.isConnection with
      | true =>
          rw [ha] at h
          cases h
          exact ⟨[], l, rfl, by rw [visited, if_pos ha]⟩
      | false =>
          rw [ha] at h
          obtain ⟨l₀, l₂, rfl, hvisited⟩ := ih h
          exact ⟨a :: l₀, l₂, rfl, by rw [visited, if_neg (by simp [ha]), hvisited]⟩

theorem visited_of_find?_none {l : List ConnectionObjectRef}
    (h : l.find? ConnectionObjectRef.isConnection = none) : visited l = [] := by
  induction l with
  | nil => rw [visited]
  | cons a l ih =>
      rw [List.find?_eq_none] at h
      rw [visited, if_neg (h a List.mem_cons_self), ih]
      rw [List.find?_eq_none]
      exact fun c hc => h c (List.mem_cons_of_mem a hc)

theorem evenlyPreceded_nil : EvenlyPreceded [] := by simp [EvenlyPreceded]

theorem rtakeWhile_cons (a : ConnectionObjectRef) (l : List ConnectionObjectRef) :
    (a :: l).rtakeWhile ConnectionObjectRef.isConnection =
      if (∀ c ∈ l, c.isConnection = true) ∧ a.isConnection = true then a :: l
      else l.rtakeWhile ConnectionObjectRef.isConnection := by
  induction l using List.reverseRecOn with
  | nil =>
      cases ha : a.isConnection with
      | true => simp [List.rtakeWhile, ha]
      | false => simp [List.rtakeWhile, ha]
  | append_singleton l c ih =>
      rw [← List.cons_append, List.rtakeWhile_concat, List.rtakeWhile_concat, ih]
      grind

/-- Something that is no connection ends the row. -/
theorem evenlyPreceded_cons {a : ConnectionObjectRef} {l : List ConnectionObjectRef}
    (ha : a.isConnection = false) : EvenlyPreceded (a :: l) ↔ EvenlyPreceded l := by
  rw [EvenlyPreceded, rtakeWhile_cons, if_neg (by simp [ha]), EvenlyPreceded]

/-- Two objects before a list add two connections to the row or none. -/
theorem evenlyPreceded_cons_cons {a b : ConnectionObjectRef} {l : List ConnectionObjectRef}
    (ha : a.isConnection = true) : EvenlyPreceded (a :: b :: l) ↔ EvenlyPreceded l := by
  rw [EvenlyPreceded, EvenlyPreceded, rtakeWhile_cons, rtakeWhile_cons]
  by_cases hl : ∀ c ∈ l, c.isConnection = true
  · rw [List.rtakeWhile_eq_self_iff.mpr hl]
    by_cases hb : b.isConnection = true
    · rw [if_pos ⟨List.forall_mem_cons.mpr ⟨hb, hl⟩, ha⟩]
      simp only [List.length_cons]
      omega
    · rw [if_neg (fun h => hb (h.1 b List.mem_cons_self)), if_neg (fun h => hb h.2)]
  · rw [if_neg (fun h => hl (List.forall_mem_cons.mp h.1).2), if_neg (fun h => hl h.1)]

theorem hasEvenIdle_cons {s : ConnectionStates} {a : ConnectionObjectRef}
    {l : List ConnectionObjectRef} (ha : a.isConnection = false) :
    HasEvenIdle s (a :: l) ↔ HasEvenIdle s l := by
  constructor
  · rintro ⟨l₀, c, l₂, hl, hc, hidle, heven⟩
    cases l₀ with
    | nil =>
        injection hl with hac
        rw [hac, hc] at ha
        cases ha
    | cons d l₀ =>
        injection hl with had hl
        subst had
        exact ⟨l₀, c, l₂, hl, hc, hidle, (evenlyPreceded_cons ha).mp heven⟩
  · rintro ⟨l₀, c, l₂, rfl, hc, hidle, heven⟩
    exact ⟨a :: l₀, c, l₂, rfl, hc, hidle, (evenlyPreceded_cons ha).mpr heven⟩

theorem hasEvenIdle_cons_tail {s : ConnectionStates} {a : ConnectionObjectRef}
    {l : List ConnectionObjectRef} (ha : a.isConnection = true) :
    HasEvenIdle s (a :: l) ↔ s.isIdle a = true ∨ HasEvenIdle s l.tail := by
  constructor
  · rintro ⟨l₀, c, l₂, hl, hc, hidle, heven⟩
    match l₀ with
    | [] =>
        injection hl with hac
        exact .inl (hac ▸ hidle)
    | [d] =>
        -- Right behind a connection, one connection stands before.
        injection hl with had
        subst had
        simp [EvenlyPreceded, List.rtakeWhile, ha] at heven
    | d :: b :: l₀ =>
        injection hl with had hl
        subst had hl
        exact .inr ⟨l₀, c, l₂, rfl, hc, hidle, (evenlyPreceded_cons_cons ha).mp heven⟩
  · rintro (hidle | ⟨l₀, c, l₂, hl, hc, hidle, heven⟩)
    · exact ⟨[], a, l, rfl, ha, hidle, evenlyPreceded_nil⟩
    · cases l with
      | nil => cases l₀ <;> cases hl
      | cons b l =>
          cases (hl : l = _)
          exact ⟨a :: b :: l₀, c, l₂, rfl, hc, hidle, (evenlyPreceded_cons_cons ha).mpr heven⟩

theorem any_visited_iff (s : ConnectionStates) (l : List ConnectionObjectRef) :
    (visited l).any s.isIdle = true ↔ HasEvenIdle s l := by
  induction l using visited.induct with
  | case1 =>
      rw [visited]
      constructor
      · intro h
        cases h
      · rintro ⟨l₀, c, l₂, hl, -⟩
        cases l₀ <;> cases hl
  | case2 a l ha ih =>
      rw [visited, if_pos ha, List.any_cons, Bool.or_eq_true, ih, hasEvenIdle_cons_tail ha]
  | case3 a l ha ih =>
      rw [visited, if_neg ha, ih, hasEvenIdle_cons (by simpa using ha)]

/-! ## The two searches -/

section

variable {s : ConnectionStates} {b p e : Option ConnectionObjectRef}
  {l : List ConnectionObjectRef}

/-- Behind a connection that the search visits. -/
theorem connectionNext_behind {c : ConnectionObjectRef} {l₀ l₂ : List ConnectionObjectRef}
    (h : Segment s.links b p (l₀ ++ c :: l₂) e none) {fuel : Nat} (hfuel : l₂.length ≤ fuel) :
    connectionNext fuel s.links (some c) = some (l₂.find? ConnectionObjectRef.isConnection) := by
  obtain ⟨e', p', -, hc⟩ := segment_append_iff.mp h
  exact walkFind_eq _ hc.2.2 hfuel

/-- Behind the object that stands behind a connection. -/
theorem connectionNext_behind_next {c : ConnectionObjectRef} {l₀ l₂ : List ConnectionObjectRef}
    (h : Segment s.links b p (l₀ ++ c :: l₂) e none) {fuel : Nat} (hfuel : l₂.length ≤ fuel) :
    connectionNext fuel s.links (s.links.next c) =
      some (l₂.tail.find? ConnectionObjectRef.isConnection) := by
  obtain ⟨e', p', -, hc⟩ := segment_append_iff.mp h
  cases l₂ with
  | nil =>
      have hnext : s.links.next c = none := hc.2.2.1
      rw [hnext]
      rfl
  | cons d l₂ =>
      have hnext : s.links.next c = some d := hc.2.2.1
      rw [hnext]
      exact walkFind_eq _ hc.2.2.2.2 (by simp at hfuel ⊢; omega)

theorem segment_tail {c : ConnectionObjectRef} {l₀ l₂ : List ConnectionObjectRef}
    (h : Segment s.links b p (l₀ ++ c :: l₂) e none) :
    ∃ b' p' e', Segment s.links b' p' l₂ e' none := by
  obtain ⟨e', p', -, hc⟩ := segment_append_iff.mp h
  exact ⟨_, _, _, hc.2.2⟩

theorem connectionFindIdleLinkedLoop_eq {fuel : Nat} (h : Segment s.links b p l e none)
    (hfuel : l.length ≤ fuel) :
    connectionFindIdleLinkedLoop s fuel (l.find? ConnectionObjectRef.isConnection) =
      some ((l.filter ConnectionObjectRef.isConnection).find? s.isIdle) := by
  induction fuel generalizing b p e l with
  | zero =>
      obtain rfl : l = [] := List.length_eq_zero_iff.mp (by omega)
      rfl
  | succ fuel ih =>
      cases hfind : l.find? ConnectionObjectRef.isConnection with
      | none =>
          rw [List.find?_eq_none] at hfind
          rw [List.filter_eq_nil_iff.mpr hfind]
          rfl
      | some c =>
          obtain ⟨hc, l₀, l₂, rfl, hl₀⟩ := List.find?_eq_some_iff_append.mp hfind
          have hlen : l₂.length ≤ fuel := by simp at hfuel; omega
          obtain ⟨b', p', e', htail⟩ := segment_tail h
          rw [List.filter_append, List.filter_eq_nil_iff.mpr (by simpa using hl₀),
            List.filter_cons_of_pos hc, List.nil_append, List.find?_cons,
            connectionFindIdleLinkedLoop]
          cases hidle : s.isIdle c with
          | true => rfl
          | false =>
              rw [connectionNext_behind h hlen]
              exact ih htail hlen

theorem connectionAcceptorImplPrepareWaitLoop_eq (acceptor : ConnectionAcceptor) {fuel : Nat}
    (h : Segment s.links b p l e none) (hfuel : l.length ≤ fuel) :
    connectionAcceptorImplPrepareWaitLoop s acceptor fuel
      (l.find? ConnectionObjectRef.isConnection) =
      some (if (visited l).any s.isIdle then { acceptor with sock := { acceptor.sock with
        flags := flagsSet acceptor.sock.flags SOCKET_FLAGS_WANT_RECEIVE } } else acceptor) := by
  induction fuel generalizing b p e l with
  | zero =>
      obtain rfl : l = [] := List.length_eq_zero_iff.mp (by omega)
      rw [visited]
      rfl
  | succ fuel ih =>
      cases hfind : l.find? ConnectionObjectRef.isConnection with
      | none =>
          rw [visited_of_find?_none hfind]
          rfl
      | some c =>
          obtain ⟨l₀, l₂, rfl, hvisited⟩ := visited_of_find? hfind
          have hlen : l₂.length ≤ fuel := by simp at hfuel; omega
          rw [hvisited, connectionAcceptorImplPrepareWaitLoop, List.any_cons]
          cases hidle : s.isIdle c with
          | true => rfl
          | false =>
              rw [connectionNext_behind_next h hlen]
              obtain ⟨b', p', e', htail⟩ := segment_tail h
              cases l₂ with
              | nil => exact ih htail hlen
              | cons d l₂ => exact ih htail.2.2 (by simp at hlen ⊢; omega)

theorem connectionFindIdleLinked_eq {fuel : Nat} (h : Segment s.links b p l e none)
    (hfuel : l.length ≤ fuel) :
    connectionFindIdleLinked fuel s p =
      some ((l.filter ConnectionObjectRef.isConnection).find? s.isIdle) := by
  rw [connectionFindIdleLinked, connectionFirst, walkFind_eq _ h hfuel]
  exact connectionFindIdleLinkedLoop_eq h hfuel

/-- The flag is set as something visited is idle. -/
theorem connectionAcceptorImplPrepareWait_flag (acceptor : ConnectionAcceptor) {fuel : Nat}
    (h : Segment s.links b p l e none) (hfuel : l.length ≤ fuel) :
    ∃ acceptor', connectionAcceptorImplPrepareWait fuel s acceptor p = some acceptor' ∧
      flagsCheck acceptor'.sock.flags SOCKET_FLAGS_WANT_RECEIVE = (visited l).any s.isIdle := by
  rw [connectionAcceptorImplPrepareWait, connectionFirst, walkFind_eq _ h hfuel, Option.bind_some,
    connectionAcceptorImplPrepareWaitLoop_eq _ h hfuel]
  cases (visited l).any s.isIdle with
  | true => exact ⟨_, rfl, flagsCheck_set_of_overlap (by decide)⟩
  | false => exact ⟨_, rfl, flagsCheck_clear_of_subset (by decide)⟩

end

/-! ## The flag -/

/-- The acceptor is told to wait for sockets exactly when there is an idle connection to hand
them to. -/
def WaitsAsItCanAccept (fuel : Nat) (s : ConnectionStates) (acceptor : ConnectionAcceptor)
    (head : Option ConnectionObjectRef) : Prop :=
  ∃ idle acceptor', connectionFindIdleLinked fuel s head = some idle ∧
    connectionAcceptorImplPrepareWait fuel s acceptor head = some acceptor' ∧
      (flagsCheck acceptor'.sock.flags SOCKET_FLAGS_WANT_RECEIVE = true ↔ idle ≠ none)

/-- It does so exactly when no connection of the list is idle or one is that an even number of
connections stand right before. -/
theorem acceptorPrepareWait_iff {s : ConnectionStates} {b e head : Option ConnectionObjectRef}
    {l : List ConnectionObjectRef} (fuel : Nat) (acceptor : ConnectionAcceptor)
    (h : Segment s.links b head l e none) (hfuel : l.length ≤ fuel) :
    WaitsAsItCanAccept fuel s acceptor head ↔
      (∀ c ∈ l, c.isConnection = true → s.isIdle c = false) ∨ HasEvenIdle s l := by
  have hfound : (l.filter ConnectionObjectRef.isConnection).find? s.isIdle = none ↔
      ∀ c ∈ l, c.isConnection = true → s.isIdle c = false := by
    simp [List.find?_eq_none]
  have hseen : HasEvenIdle s l →
      (l.filter ConnectionObjectRef.isConnection).find? s.isIdle ≠ none := by
    rintro ⟨l₀, c, l₂, rfl, hc, hidle, -⟩ hnone
    have hbusy := hfound.mp hnone c (by simp) hc
    rw [hidle] at hbusy
    cases hbusy
  obtain ⟨acceptor', hwait, hflag⟩ := connectionAcceptorImplPrepareWait_flag acceptor h hfuel
  rw [← hfound]
  constructor
  · rintro ⟨idle, acceptor'', hidle, hwait', hiff⟩
    rw [connectionFindIdleLinked_eq h hfuel] at hidle
    rw [hwait] at hwait'
    cases hidle
    cases hwait'
    rw [hflag, any_visited_iff] at hiff
    by_cases hnone : (l.filter ConnectionObjectRef.isConnection).find? s.isIdle = none
    · exact .inl hnone
    · exact .inr (hiff.mpr hnone)
  · intro hcond
    refine ⟨_, acceptor', connectionFindIdleLinked_eq h hfuel, hwait, ?_⟩
    rw [hflag, any_visited_iff]
    constructor
    · exact hseen
    · intro hsome
      exact hcond.resolve_left hsome

/-- A list head and two connections, of which the last is idle. -/
def threeObjects : ConnectionStates where
  links :=
    { next := fun
        | .listHead _ => some (.connection 0)
        | .connection 0 => some (.connection 1)
        | _ => none
      prev := fun
        | .connection 0 => some (.listHead 0)
        | .connection 1 => some (.connection 0)
        | _ => none }
  connectionState
    | .connection 1 => STATUS_FLAGS_IDLE
    | _ => 0

def noSocket : ConnectionAcceptor := ⟨⟨0, [], [], [], [], [], 0, []⟩⟩

theorem threeObjects_linked : Segment threeObjects.links none (some (.listHead 0))
    [.listHead 0, .connection 0, .connection 1] (some (.connection 1)) none :=
  ⟨rfl, rfl, rfl, rfl, rfl, rfl, rfl, rfl⟩

/-- From the first connection on, the idle one has none before it. -/
theorem acceptor_waits : WaitsAsItCanAccept 3
    { threeObjects with connectionState := fun _ => STATUS_FLAGS_IDLE } noSocket
    (some (.listHead 0)) := by
  refine (acceptorPrepareWait_iff 3 noSocket (s := { threeObjects with
    connectionState := fun _ => STATUS_FLAGS_IDLE }) threeObjects_linked (by decide)).mpr (.inr ?_)
  exact ⟨[.listHead 0], .connection 0, [.connection 1], rfl, rfl, by decide, by
    simp [EvenlyPreceded, List.rtakeWhile, ConnectionObjectRef.isConnection]⟩

/-- An idle connection that one connection stands right before is not seen. -/
theorem secondConnection_unseen : ¬ ∀ (s : ConnectionStates) (l : List ConnectionObjectRef)
    (head e : Option ConnectionObjectRef) (fuel : Nat) (acceptor : ConnectionAcceptor),
    Segment s.links none head l e none → l.length ≤ fuel →
      WaitsAsItCanAccept fuel s acceptor head := by
  intro h
  obtain ⟨idle, acceptor', hidle, hwait, hiff⟩ :=
    h threeObjects _ _ _ 3 noSocket threeObjects_linked (by decide)
  rw [show connectionFindIdleLinked 3 threeObjects (some (.listHead 0)) =
    some (some (.connection 1)) by decide] at hidle
  have hunset : connectionAcceptorImplPrepareWait 3 threeObjects noSocket (some (.listHead 0)) =
    some noSocket := rfl
  rw [hunset] at hwait
  cases hidle
  cases hwait
  revert hiff
  decide

end RobotRaconteurLite

import Mathlib.Data.List.Nodup
import Mathlib.Logic.Function.Basic
import Mathlib.Tactic.Ring

/-!
# Intrusive doubly linked lists

The links live in the objects, so the memory of all of them is two functions
from addresses. A segment is a list of addresses that the forward links run
through and the backward links run back through; it knows what comes before its
first and after its last address. A list is a segment between two null pointers,
and its addresses are distinct because the forward links are a function.

A walk follows the forward links on fuel. More fuel than the list has addresses
is enough, and the answer does not depend on how much more.
-/

namespace LinkedList

variable {α : Type}

/-- The links of all objects. -/
structure Links (α : Type) where
  next : α → Option α
  prev : α → Option α

/-! ## Segments -/

/-- The forward links run from `p` through `l` to `q`, the backward links from `e`
through `l` to `b`. -/
def Segment (s : Links α) : Option α → Option α → List α → Option α → Option α → Prop
  | b, p, [], e, q => p = q ∧ e = b
  | b, p, a :: l, e, q => p = some a ∧ s.prev a = b ∧ Segment s (some a) (s.next a) l e q

variable {s : Links α} {b p e q : Option α} {l m : List α}

theorem segment_append_iff :
    Segment s b p (l ++ m) e q ↔ ∃ e' p', Segment s b p l e' p' ∧ Segment s e' p' m e q := by
  induction l generalizing b p with
  | nil =>
      constructor
      · intro h
        exact ⟨b, p, ⟨rfl, rfl⟩, h⟩
      · rintro ⟨e', p', ⟨rfl, rfl⟩, h⟩
        exact h
  | cons a l ih =>
      constructor
      · rintro ⟨hp, hb, h⟩
        obtain ⟨e', p', hl, hm⟩ := ih.mp h
        exact ⟨e', p', ⟨hp, hb, hl⟩, hm⟩
      · rintro ⟨e', p', ⟨hp, hb, hl⟩, hm⟩
        exact ⟨hp, hb, ih.mpr ⟨e', p', hl, hm⟩⟩

/-- A list that starts somewhere has an object there. -/
theorem Segment.exists_cons {a : α} (h : Segment s b (some a) l e none) : ∃ m, l = a :: m := by
  cases l with
  | nil => cases h.1
  | cons c m =>
      cases h.1
      exact ⟨m, rfl⟩

/-- A segment does not see the links of other objects. -/
theorem Segment.congr {s' : Links α} (h : Segment s b p l e q)
    (hnext : ∀ a ∈ l, s'.next a = s.next a) (hprev : ∀ a ∈ l, s'.prev a = s.prev a) :
    Segment s' b p l e q := by
  induction l generalizing b p with
  | nil => exact h
  | cons a l ih =>
      obtain ⟨hp, hb, hrest⟩ := h
      refine ⟨hp, (hprev a List.mem_cons_self).trans hb, ?_⟩
      rw [hnext a List.mem_cons_self]
      exact ih hrest (fun c hc => hnext c (List.mem_cons_of_mem _ hc))
        (fun c hc => hprev c (List.mem_cons_of_mem _ hc))

/-- Two lists from the same address are one list. -/
theorem Segment.unique {b' e' : Option α} (h : Segment s b p l e none)
    (h' : Segment s b' p m e' none) : l = m := by
  induction l generalizing b b' p m with
  | nil =>
      obtain ⟨rfl, -⟩ := h
      cases m with
      | nil => rfl
      | cons c m => cases h'.1
  | cons a l ih =>
      obtain ⟨rfl, -, hrest⟩ := h
      cases m with
      | nil => cases h'.1
      | cons c m =>
          obtain ⟨hac, -, hrest'⟩ := h'
          cases hac
          rw [ih hrest hrest']

/-- A list from the address a segment starts at runs through the segment first. -/
theorem Segment.exists_rest {b' e' : Option α} (h : Segment s b p l e q)
    (h' : Segment s b' p m e' none) : ∃ b'' m', m = l ++ m' ∧ Segment s b'' q m' e' none := by
  induction l generalizing b b' p m with
  | nil =>
      obtain ⟨rfl, -⟩ := h
      exact ⟨b', m, rfl, h'⟩
  | cons a l ih =>
      obtain ⟨rfl, -, hrest⟩ := h
      cases m with
      | nil => cases h'.1
      | cons c m =>
          obtain ⟨hac, -, hrest'⟩ := h'
          cases hac
          obtain ⟨b'', m', rfl, hm'⟩ := ih hrest hrest'
          exact ⟨b'', m', rfl, hm'⟩

/-- The addresses of a list are distinct. -/
theorem Segment.nodup (h : Segment s b p l e none) : l.Nodup := by
  induction l generalizing b p with
  | nil => exact List.nodup_nil
  | cons a l ih =>
      obtain ⟨-, -, hrest⟩ := h
      refine List.nodup_cons.mpr ⟨?_, ih hrest⟩
      -- Were `a` behind itself, the list from it on would be shorter than itself.
      intro hmem
      obtain ⟨l₁, l₂, rfl⟩ := List.append_of_mem hmem
      obtain ⟨e', p', -, -, -, hagain⟩ := segment_append_iff.mp hrest
      have hlen := congrArg List.length (hrest.unique hagain)
      simp at hlen
      omega

/-- The last address of a segment. -/
theorem Segment.last_eq (h : Segment s b p l e q) : e = l.getLast?.or b := by
  induction l generalizing b p with
  | nil => exact h.2
  | cons a l ih =>
      rw [ih h.2.2]
      cases l with
      | nil => rfl
      | cons c l => simp [List.getLast?_cons]

/-- The last object of a list points nowhere. -/
theorem Segment.next_last {t : α} (h : Segment s b p (l ++ [t]) e q) : s.next t = q ∧ e = some t := by
  obtain ⟨e', p', -, -, -, hq, he⟩ := segment_append_iff.mp h
  exact ⟨hq, he⟩

/-- What precedes the last object of a list is not that object. -/
theorem Segment.last_notMem {t : α} (h : Segment s b p (l ++ [t]) e none) : t ∉ l := by
  intro hmem
  have hnodup := h.nodup
  rw [List.nodup_append] at hnodup
  exact hnodup.2.2 t hmem t List.mem_cons_self rfl

theorem cons_eq_concat (f : α) (l : List α) : f :: l = (f :: l).dropLast ++ [l.getLastD f] := by
  rw [← List.getLast_eq_getLastD (List.cons_ne_nil f l), List.dropLast_concat_getLast]

/-! ## Writing links -/

section

variable [DecidableEq α]

def Links.setNext (s : Links α) (a : α) (v : Option α) : Links α :=
  { s with next := Function.update s.next a v }

def Links.setPrev (s : Links α) (a : α) (v : Option α) : Links α :=
  { s with prev := Function.update s.prev a v }

@[simp] theorem setNext_prev (s : Links α) (a : α) (v : Option α) :
    (s.setNext a v).prev = s.prev := rfl

@[simp] theorem setPrev_next (s : Links α) (a : α) (v : Option α) :
    (s.setPrev a v).next = s.next := rfl

@[simp] theorem setNext_next_self (s : Links α) (a : α) (v : Option α) :
    (s.setNext a v).next a = v := Function.update_self ..

@[simp] theorem setPrev_prev_self (s : Links α) (a : α) (v : Option α) :
    (s.setPrev a v).prev a = v := Function.update_self ..

theorem setNext_next_of_ne {a c : α} (h : c ≠ a) (s : Links α) (v : Option α) :
    (s.setNext a v).next c = s.next c := Function.update_of_ne h ..

theorem setPrev_prev_of_ne {a c : α} (h : c ≠ a) (s : Links α) (v : Option α) :
    (s.setPrev a v).prev c = s.prev c := Function.update_of_ne h ..

theorem Segment.setNext_of_notMem {a : α} {v : Option α} (h : Segment s b p l e q)
    (ha : a ∉ l) : Segment (s.setNext a v) b p l e q :=
  h.congr (fun c hc => setNext_next_of_ne (fun hca => ha (by rw [← hca]; exact hc)) s v)
    fun _ _ => rfl

theorem Segment.setPrev_of_notMem {a : α} {v : Option α} (h : Segment s b p l e q)
    (ha : a ∉ l) : Segment (s.setPrev a v) b p l e q :=
  h.congr (fun _ _ => rfl)
    fun c hc => setPrev_prev_of_ne (fun hca => ha (by rw [← hca]; exact hc)) s v

/-- The last object of a segment is led elsewhere. -/
theorem Segment.setNext_last {t : α} {q' : Option α} (h : Segment s b p (l ++ [t]) e q)
    (ht : t ∉ l) : Segment (s.setNext t q') b p (l ++ [t]) e q' := by
  obtain ⟨e', p', hl, hp', hb', hq, he⟩ := segment_append_iff.mp h
  refine segment_append_iff.mpr ⟨e', p', hl.setNext_of_notMem ht, hp', hb', ?_, he⟩
  exact setNext_next_self ..

/-- The first object of a segment is led back elsewhere. -/
theorem Segment.setPrev_first {f : α} {v : Option α} (h : Segment s b p (f :: l) e q)
    (hf : f ∉ l) : Segment (s.setPrev f v) v p (f :: l) e q := by
  obtain ⟨hp, -, hrest⟩ := h
  exact ⟨hp, setPrev_prev_self .., hrest.setPrev_of_notMem hf⟩

/-! ## Appending and unlinking -/

/-- The last object of a list is led to another object. -/
theorem Segment.lead {t x : α} {v : Option α} (h : Segment s b p (l ++ [t]) e none)
    (hx : x ∉ l ++ [t]) :
    Segment ((s.setNext t (some x)).setPrev x v) b p (l ++ [t]) (some t) (some x) := by
  have hlast := h.next_last.2
  subst hlast
  exact (h.setNext_last h.last_notMem).setPrev_of_notMem hx

/-- An object that points nowhere is appended. -/
theorem Segment.append {f x : α} (h : Segment s b p (f :: l) e none) (hx : x ∉ f :: l)
    (hnext : s.next x = none) :
    Segment ((s.setNext (l.getLastD f) (some x)).setPrev x (some (l.getLastD f))) b p
      (f :: l ++ [x]) (some x) none := by
  rw [cons_eq_concat f l] at h hx ⊢
  have hxt : x ≠ l.getLastD f := fun heq => hx (by simp [heq])
  refine segment_append_iff.mpr ⟨_, some x, h.lead hx, rfl, setPrev_prev_self .., ?_, rfl⟩
  rw [setPrev_next, setNext_next_of_ne hxt, hnext]

/-- A list that an object was appended to is the old one and goes on with that object and
with whatever it still points to. -/
theorem Segment.of_append {f x : α} {v b' e' : Option α}
    (h : Segment s b p (f :: l) e none) (hx : x ∉ f :: l)
    (h' : Segment ((s.setNext (l.getLastD f) (some x)).setPrev x v) b' p m e' none) :
    ∃ m', m = f :: l ++ x :: m' ∧ ∀ y, s.next x = some y → ∃ m'', m' = y :: m'' := by
  rw [cons_eq_concat f l] at h hx ⊢
  have hxt : x ≠ l.getLastD f := fun heq => hx (by simp [heq])
  obtain ⟨b'', m₁, rfl, hrest⟩ := (h.lead hx).exists_rest h'
  obtain ⟨m', rfl⟩ := hrest.exists_cons
  refine ⟨m', rfl, fun y hy => ?_⟩
  have hbehind := hrest.2.2
  rw [setPrev_next, setNext_next_of_ne hxt, hy] at hbehind
  exact hbehind.exists_cons

/-- An object is taken out: its neighbours are linked to each other. -/
def Links.unlink (s : Links α) (a : α) : Links α :=
  let s₁ := match s.prev a with
    | some c => s.setNext c (s.next a)
    | none => s
  match s.next a with
  | some d => s₁.setPrev d (s.prev a)
  | none => s₁

theorem Segment.unlink {f a : α} (h : Segment s b p (f :: l ++ a :: m) e none) :
    ∃ e', Segment (s.unlink a) b p (f :: l ++ m) e' none := by
  rw [cons_eq_concat f l] at h ⊢
  generalize (f :: l).dropLast = l, l.getLastD f = t at h ⊢
  have hnodup := h.nodup
  have ht : t ∉ l := by grind
  have htm : t ∉ m := by grind
  obtain ⟨e', p', hl, hp', hprev, hm⟩ := segment_append_iff.mp h
  have hlast := hl.next_last.2
  subst hlast
  cases m with
  | nil =>
      have hnext : s.next a = none := hm.1
      simp only [Links.unlink, hprev, hnext, List.append_nil]
      exact ⟨_, hl.setNext_last ht⟩
  | cons d m =>
      have hnext : s.next a = some d := hm.1
      have hd : d ∉ l ++ [t] := by grind
      have hdm : d ∉ m := by grind
      rw [hnext] at hm
      simp only [Links.unlink, hprev, hnext]
      refine ⟨e, segment_append_iff.mpr ⟨some t, some d, ?_, ?_⟩⟩
      · exact (hl.setNext_last ht).setPrev_of_notMem hd
      · exact (hm.setNext_of_notMem htm).setPrev_first hdm

/-- The first object of a list that nothing comes before. -/
theorem Segment.unlink_first {a : α} (h : Segment s none p (a :: m) e none) :
    ∃ e', Segment (s.unlink a) none (s.next a) m e' none := by
  have hnodup := h.nodup
  obtain ⟨-, hprev, hm⟩ := h
  cases m with
  | nil =>
      have hnext : s.next a = none := hm.1
      simp only [Links.unlink, hprev, hnext]
      exact ⟨none, rfl, rfl⟩
  | cons d m =>
      have hnext : s.next a = some d := hm.1
      have hdm : d ∉ m := by grind
      simp only [Links.unlink, hprev]
      rw [hnext] at hm ⊢
      exact ⟨e, hm.setPrev_first hdm⟩

end

/-! ## Walking -/

/-- Where the forward links end, from an object on. -/
def walkLast (next : α → Option α) : Nat → α → Option α
  | 0, _ => none
  | fuel + 1, a =>
      match next a with
      | none => some a
      | some c => walkLast next fuel c

/-- The first object that passes the test. Out of fuel there is no answer. -/
def walkFind (next : α → Option α) (test : α → Bool) : Nat → Option α → Option (Option α)
  | _, none => some none
  | 0, some _ => none
  | fuel + 1, some a => if test a then some (some a) else walkFind next test fuel (next a)

theorem walkLast_eq {a : α} {fuel : Nat} (h : Segment s b (some a) (a :: l) e none)
    (hfuel : l.length < fuel) : walkLast s.next fuel a = e := by
  induction l generalizing a b fuel with
  | nil =>
      obtain ⟨-, -, hq, he⟩ := h
      cases fuel with
      | zero => omega
      | succ fuel => rw [walkLast, hq, he]
  | cons c l ih =>
      obtain ⟨-, -, hrest⟩ := h
      have hc := hrest.1
      cases fuel with
      | zero => omega
      | succ fuel =>
          rw [walkLast, hc]
          rw [hc] at hrest
          exact ih hrest (by simp only [List.length_cons] at hfuel; omega)

theorem walkFind_eq (test : α → Bool) {fuel : Nat} (h : Segment s b p l e none)
    (hfuel : l.length ≤ fuel) : walkFind s.next test fuel p = some (l.find? test) := by
  induction l generalizing b p fuel with
  | nil =>
      obtain ⟨rfl, -⟩ := h
      cases fuel <;> rfl
  | cons a l ih =>
      obtain ⟨rfl, -, hrest⟩ := h
      cases fuel with
      | zero => simp at hfuel
      | succ fuel =>
          rw [walkFind, List.find?_cons]
          cases htest : test a with
          | true => rfl
          | false =>
              exact ih hrest (by simp only [List.length_cons] at hfuel; omega)

/-- However much fuel there was, an answer is the first object that passes. -/
theorem eq_find?_of_walkFind {test : α → Bool} {fuel : Nat} {r : Option α}
    (h : Segment s b p l e none) (hwalk : walkFind s.next test fuel p = some r) :
    r = l.find? test := by
  induction l generalizing b p fuel with
  | nil =>
      obtain ⟨rfl, -⟩ := h
      cases fuel <;> cases hwalk <;> rfl
  | cons a l ih =>
      obtain ⟨rfl, -, hrest⟩ := h
      cases fuel with
      | zero => cases hwalk
      | succ fuel =>
          rw [walkFind] at hwalk
          rw [List.find?_cons]
          cases htest : test a with
          | true =>
              rw [htest] at hwalk
              cases hwalk
              rfl
          | false =>
              rw [htest] at hwalk
              exact ih hrest hwalk

end LinkedList

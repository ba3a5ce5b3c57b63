import Mathlib.Tactic.Ring

/-!
# Reading and overwriting a range of a list

Memory is a list here, and a program touches it in two ways: it reads the
`n` items that start at an offset, and it lays a run of items over whatever
was there. `slice` and `overwrite` are those two operations. Nothing below
knows what the items are.

Every law has the same side condition, that the range ends inside the list,
because that is the only case in which the C idiom the two model means
anything. With it, two writes that touch are one write (`overwrite_append`),
a write inside an earlier one edits the payload (`overwrite_inside`), and a
read sees the last write over its range and nothing else.
-/

namespace Splice

variable {α : Type _}

/-- The `n` items that start at `pos`. -/
def slice (l : List α) (pos n : Nat) : List α := (l.drop pos).take n

/-- `bs` laid over `l` from `pos` on. -/
def overwrite (l : List α) (pos : Nat) (bs : List α) : List α :=
  l.take pos ++ bs ++ l.drop (pos + bs.length)

theorem length_slice {l : List α} {pos n : Nat} (h : pos + n ≤ l.length) :
    (slice l pos n).length = n := by
  simp only [slice, List.length_take, List.length_drop]
  omega

theorem length_overwrite {l : List α} {pos : Nat} {bs : List α}
    (h : pos + bs.length ≤ l.length) : (overwrite l pos bs).length = l.length := by
  simp only [overwrite, List.length_append, List.length_take, List.length_drop]
  omega

@[simp] theorem slice_zero (l : List α) (pos : Nat) : slice l pos 0 = [] := by
  simp [slice]

@[simp] theorem overwrite_nil (l : List α) (pos : Nat) : overwrite l pos [] = l := by
  simp [overwrite]

theorem slice_add (l : List α) (pos m n : Nat) :
    slice l pos (m + n) = slice l pos m ++ slice l (pos + m) n := by
  simp only [slice, List.take_add, List.drop_drop]

theorem slice_slice {l : List α} {pos n i m : Nat} (h : i + m ≤ n) :
    slice (slice l pos n) i m = slice l (pos + i) m := by
  simp only [slice, List.drop_take, List.drop_drop, List.take_take]
  rw [Nat.min_eq_left (by omega)]

theorem slice_take {l : List α} {n i m : Nat} (h : i + m ≤ n) :
    slice (l.take n) i m = slice l i m := by
  simp only [slice, List.drop_take, List.take_take]
  rw [Nat.min_eq_left (by omega)]

theorem slice_append_left {l₁ l₂ : List α} {pos n : Nat} (h : pos + n ≤ l₁.length) :
    slice (l₁ ++ l₂) pos n = slice l₁ pos n := by
  simp only [slice]
  rw [List.drop_append_of_le_length (by omega), List.take_append_of_le_length]
  simp only [List.length_drop]
  omega

theorem slice_append_right {l₁ l₂ : List α} {pos n : Nat} :
    slice (l₁ ++ l₂) (l₁.length + pos) n = slice l₂ pos n := by
  simp only [slice, List.drop_append, Nat.add_sub_cancel_left]
  rw [List.drop_eq_nil_of_le (by omega), List.nil_append]

theorem slice_length (l : List α) : slice l 0 l.length = l := by
  simp [slice]

/-- Item by item, a write is an if. -/
theorem getElem?_overwrite {l : List α} {pos : Nat} {bs : List α}
    (h : pos + bs.length ≤ l.length) (i : Nat) :
    (overwrite l pos bs)[i]? =
      if pos ≤ i ∧ i < pos + bs.length then bs[i - pos]? else l[i]? := by
  have hlen : (l.take pos).length = pos := by
    simp only [List.length_take]
    omega
  simp only [overwrite, List.append_assoc, List.getElem?_append, hlen,
    List.getElem?_take, List.getElem?_drop]
  by_cases h₁ : i < pos
  · rw [if_pos h₁, if_pos h₁, if_neg (by omega)]
  · rw [if_neg h₁]
    by_cases h₂ : i - pos < bs.length
    · rw [if_pos h₂, if_pos (by omega)]
    · rw [if_neg h₂, if_neg (by omega)]
      congr 1
      omega

theorem getElem?_slice {l : List α} {pos n i : Nat} :
    (slice l pos n)[i]? = if i < n then l[pos + i]? else none := by
  simp only [slice, List.getElem?_take, List.getElem?_drop]

/-- A read of exactly what was written. -/
theorem slice_overwrite_self {l : List α} {pos : Nat} {bs : List α}
    (h : pos + bs.length ≤ l.length) :
    slice (overwrite l pos bs) pos bs.length = bs := by
  apply List.ext_getElem?
  intro i
  rw [getElem?_slice, getElem?_overwrite h]
  by_cases hi : i < bs.length
  · rw [if_pos hi, if_pos (by omega), Nat.add_sub_cancel_left]
  · rw [if_neg hi, List.getElem?_eq_none (by omega)]

/-- A read beside a write does not see it. -/
theorem slice_overwrite_disjoint {l : List α} {pos p n : Nat} {bs : List α}
    (h : pos + bs.length ≤ l.length) (hd : p + n ≤ pos ∨ pos + bs.length ≤ p) :
    slice (overwrite l pos bs) p n = slice l p n := by
  apply List.ext_getElem?
  intro i
  rw [getElem?_slice, getElem?_slice, getElem?_overwrite h]
  by_cases hi : i < n
  · rw [if_pos hi, if_pos hi, if_neg (by omega)]
  · rw [if_neg hi, if_neg hi]

/-- What a write ends with, past the end too. -/
theorem take_overwrite {l : List α} {pos : Nat} {bs : List α} (h : pos ≤ l.length) :
    (overwrite l pos bs).take (pos + bs.length) = l.take pos ++ bs := by
  have hfront : (l.take pos ++ bs).length = pos + bs.length := by
    rw [List.length_append, List.length_take_of_le h]
  rw [overwrite, List.take_left' hfront]

theorem length_overwrite_ge {l : List α} {pos : Nat} {bs : List α} (h : pos ≤ l.length) :
    pos + bs.length ≤ (overwrite l pos bs).length := by
  simp only [overwrite, List.length_append, List.length_take, List.length_drop]
  omega

/-- A write makes nothing shorter. -/
theorem length_le_overwrite (l : List α) (pos : Nat) (bs : List α) :
    l.length ≤ (overwrite l pos bs).length := by
  simp only [overwrite, List.length_append, List.length_take, List.length_drop]
  omega

/-- Two writes that touch are one write, past the end too. -/
theorem overwrite_append {l : List α} {pos : Nat} {bs cs : List α} :
    overwrite (overwrite l pos bs) (pos + bs.length) cs = overwrite l pos (bs ++ cs) := by
  rcases Nat.le_total pos l.length with hin | hpast
  · have hpos : (l.take pos).length = pos := List.length_take_of_le hin
    have hfront : (l.take pos ++ bs).length = pos + bs.length := by
      rw [List.length_append, hpos]
    simp only [overwrite]
    rw [List.take_left' hfront, ← List.drop_drop, List.drop_left' hfront, List.drop_drop,
      List.length_append, Nat.add_assoc, List.append_assoc _ bs cs]
  · have hbehind : ∀ {xs ys : List α} {i : Nat}, xs.length ≤ i → overwrite xs i ys = xs ++ ys := by
      intro xs ys i hi
      rw [overwrite, List.take_of_length_le hi, List.drop_eq_nil_of_le (by omega),
        List.append_nil]
    rw [hbehind hpast, hbehind hpast, hbehind (by rw [List.length_append]; omega),
      List.append_assoc]

/-- A write inside an earlier one edits the payload of that one. -/
theorem overwrite_inside {l : List α} {pos i : Nat} {bs cs : List α}
    (h : pos + bs.length ≤ l.length) (hi : i + cs.length ≤ bs.length) :
    overwrite (overwrite l pos bs) (pos + i) cs = overwrite l pos (overwrite bs i cs) := by
  have hlen : (overwrite bs i cs).length = bs.length := length_overwrite hi
  have h₂ : pos + i + cs.length ≤ (overwrite l pos bs).length := by
    rw [length_overwrite h]
    omega
  have h₃ : pos + (overwrite bs i cs).length ≤ l.length := by
    rw [hlen]
    exact h
  apply List.ext_getElem?
  intro j
  rw [getElem?_overwrite h₂, getElem?_overwrite h, getElem?_overwrite h₃, hlen]
  by_cases hc : pos + i ≤ j ∧ j < pos + i + cs.length
  · rw [if_pos hc, if_pos (by omega), getElem?_overwrite hi, if_pos (by omega),
      Nat.sub_add_eq]
  · rw [if_neg hc]
    by_cases hb : pos ≤ j ∧ j < pos + bs.length
    · rw [if_pos hb, if_pos hb, getElem?_overwrite hi, if_neg (by omega)]
    · rw [if_neg hb, if_neg hb]

/-- Writing what is there changes nothing. -/
theorem overwrite_slice (l : List α) (pos n : Nat) : overwrite l pos (slice l pos n) = l := by
  have hrest : slice l pos n ++ l.drop (pos + (slice l pos n).length) = l.drop pos := by
    rw [← List.drop_drop, slice, List.length_take]
    conv => rhs; rw [← List.take_append_drop (min n (l.drop pos).length) (l.drop pos)]
    rw [← List.take_eq_take_min]
  rw [overwrite, List.append_assoc, hrest, List.take_append_drop]

/-- The piece a later write replaces, named by what surrounds it. -/
theorem overwrite_middle {x y w z : List α} (h : w.length = y.length) :
    overwrite (x ++ y ++ z) x.length w = x ++ w ++ z := by
  simp only [overwrite, List.append_assoc, List.take_left]
  rw [← List.append_assoc x y z, h, ← List.length_append, List.drop_left]

/-! ## What lies at an offset -/

/-- The bytes `bs` lie in `l` at `o`. -/
def At (l : List α) (o : Nat) (bs : List α) : Prop :=
  slice l o bs.length = bs ∧ o + bs.length ≤ l.length

theorem at_zero_iff {l bs : List α} : At l 0 bs ↔ bs <+: l := by
  rw [At, List.prefix_iff_eq_take, slice, List.drop_zero, Nat.zero_add, eq_comm]
  refine ⟨fun h => h.1, fun h => ⟨h, ?_⟩⟩
  rw [h]
  exact List.length_take_le' _ _

/-- Runs of one length at one offset are the same. -/
theorem eq_of_at {l : List α} {o : Nat} {bs cs : List α} (h : At l o bs) (h' : At l o cs)
    (hlength : bs.length = cs.length) : bs = cs := by
  rw [← h.1, ← h'.1, hlength]

theorem at_append {l : List α} {o : Nat} {bs cs : List α} :
    At l o (bs ++ cs) ↔ At l o bs ∧ At l (o + bs.length) cs := by
  rw [At, At, At, List.length_append, slice_add]
  constructor
  · rintro ⟨h, hle⟩
    have hlen : (slice l o bs.length).length = bs.length := length_slice (by omega)
    obtain ⟨hb, hc⟩ := List.append_inj h hlen
    exact ⟨⟨hb, by omega⟩, hc, by omega⟩
  · rintro ⟨⟨hb, -⟩, hc, hle⟩
    exact ⟨by rw [hb, hc], by omega⟩

theorem at_overwrite {l : List α} {o : Nat} {bs : List α} (h : o + bs.length ≤ l.length) :
    At (overwrite l o bs) o bs :=
  ⟨slice_overwrite_self h, by rw [length_overwrite h]; exact h⟩

theorem overwrite_of_at {l : List α} {o : Nat} {bs : List α} (h : At l o bs) :
    overwrite l o bs = l := by
  obtain ⟨hbs, hend⟩ := h
  apply List.ext_getElem?
  intro i
  rw [getElem?_overwrite hend]
  split
  · next hi =>
      rw [← hbs, getElem?_slice, if_pos (by omega), Nat.add_sub_cancel' hi.1]
  · rfl

/-- A longer write over a shorter one. -/
theorem overwrite_overwrite {l : List α} {pos : Nat} {bs cs : List α}
    (h : pos + bs.length ≤ l.length) (hle : bs.length ≤ cs.length) :
    overwrite (overwrite l pos bs) pos cs = overwrite l pos cs := by
  have hfront : (l.take pos).length = pos := List.length_take_of_le (by omega)
  have hfront' : (l.take pos ++ bs).length = pos + bs.length := by
    rw [List.length_append, hfront]
  have htake : (overwrite l pos bs).take pos = l.take pos := by
    rw [overwrite, List.append_assoc, List.take_left' hfront]
  have hdrop : (overwrite l pos bs).drop (pos + cs.length) = l.drop (pos + cs.length) := by
    rw [overwrite, show pos + cs.length = pos + bs.length + (cs.length - bs.length) by omega,
      ← List.drop_drop, List.drop_left' hfront', List.drop_drop]
  rw [overwrite, htake, hdrop, overwrite]

end Splice

import Mathlib.Data.List.SplitLengths
import Mathlib.Tactic.Ring
import RobotRaconteurLite.Lib.Splice

/-!
# A list held in segments

A scatter/gather buffer is a list of segments that stands for their
concatenation. A program walks it with a cursor, a segment index and a place
inside that segment, and `flatPos` says which place of the concatenation the
cursor is on. The two theorems that matter say that a read or a write which
stays inside the cursor's segment is the same read or write of the
concatenation (`slice_flatten`, `flatten_set_overwrite`).

`reshape` goes the other way and cuts a list back into segments of given
lengths. Segment lengths and concatenation together determine the segments,
so it is the inverse of `flatten` on every write that keeps the lengths.
-/

namespace ScatterGather

open Splice

variable {α : Type _}

/-- The place of the concatenation that place `p` of segment `i` is. -/
def flatPos (segs : List (List α)) (i p : Nat) : Nat :=
  (segs.take i).flatten.length + p

@[simp] theorem flatPos_zero (segs : List (List α)) (p : Nat) : flatPos segs 0 p = p := by
  simp [flatPos]

theorem flatPos_add (segs : List (List α)) (i p n : Nat) :
    flatPos segs i (p + n) = flatPos segs i p + n := by
  simp only [flatPos, Nat.add_assoc]

/-- The end of a segment is the start of the next one. -/
theorem flatPos_succ {segs : List (List α)} {i : Nat} {s : List α}
    (h : segs[i]? = some s) : flatPos segs (i + 1) 0 = flatPos segs i s.length := by
  simp only [flatPos, List.take_add_one, h, Option.toList_some, List.flatten_append,
    List.length_append, List.flatten_singleton, Nat.add_zero]

theorem flatten_split {segs : List (List α)} {i : Nat} {s : List α}
    (h : segs[i]? = some s) :
    segs.flatten = (segs.take i).flatten ++ (s ++ (segs.drop (i + 1)).flatten) := by
  obtain ⟨hi, hs⟩ := List.getElem?_eq_some_iff.mp h
  conv => lhs; rw [← List.take_append_drop i segs, List.drop_eq_getElem_cons hi, hs]
  rw [List.flatten_append, List.flatten_cons]

theorem flatPos_le {segs : List (List α)} {i p : Nat} {s : List α}
    (h : segs[i]? = some s) (hp : p ≤ s.length) : flatPos segs i p ≤ segs.flatten.length := by
  rw [flatten_split h]
  simp only [flatPos, List.length_append]
  omega

/-- A cursor that is not at the end has a segment under it. -/
theorem getElem?_of_flatPos_lt {segs : List (List α)} {i p : Nat}
    (h : flatPos segs i p < segs.flatten.length) : ∃ s, segs[i]? = some s := by
  rcases Nat.lt_or_ge i segs.length with hi | hi
  · exact ⟨segs[i], List.getElem?_eq_getElem hi⟩
  · rw [flatPos, List.take_of_length_le hi] at h
    omega

theorem slice_flatten {segs : List (List α)} {i p n : Nat} {s : List α}
    (h : segs[i]? = some s) (hp : p + n ≤ s.length) :
    slice segs.flatten (flatPos segs i p) n = slice s p n := by
  rw [flatten_split h, flatPos, slice_append_right, slice_append_left hp]

theorem flatten_set_overwrite {segs : List (List α)} {i p : Nat} {s bs : List α}
    (h : segs[i]? = some s) (hp : p + bs.length ≤ s.length) :
    (segs.set i (overwrite s p bs)).flatten =
      overwrite segs.flatten (flatPos segs i p) bs := by
  obtain ⟨hi, hs⟩ := List.getElem?_eq_some_iff.mp h
  have hset : (segs.set i (overwrite s p bs)).flatten =
      (segs.take i).flatten ++ (overwrite s p bs ++ (segs.drop (i + 1)).flatten) := by
    rw [List.set_eq_take_append_cons_drop, if_pos hi, List.flatten_append, List.flatten_cons]
  rw [hset, flatten_split h, flatPos]
  simp only [overwrite, List.append_assoc, List.take_append, List.drop_append,
    Nat.add_sub_cancel_left, Nat.add_assoc]
  rw [List.take_of_length_le (Nat.le_add_right _ _),
    List.drop_eq_nil_of_le (Nat.le_add_right _ _), List.nil_append,
    Nat.sub_eq_zero_of_le (by omega : p ≤ s.length), List.take_zero, List.nil_append,
    Nat.sub_eq_zero_of_le hp, List.drop_zero]

theorem map_length_set {segs : List (List α)} {i : Nat} {s t : List α}
    (h : segs[i]? = some s) (ht : t.length = s.length) :
    (segs.set i t).map List.length = segs.map List.length := by
  obtain ⟨hi, hs⟩ := List.getElem?_eq_some_iff.mp h
  apply List.ext_getElem?
  intro j
  rw [List.map_set, List.getElem?_set]
  by_cases hj : i = j
  · subst hj
    rw [if_pos rfl, if_pos (by simpa using hi), List.getElem?_map, h, Option.map_some, ht]
  · rw [if_neg hj]

/-- A list cut into segments of the lengths `segs` has. -/
def reshape (segs : List (List α)) (l : List α) : List (List α) :=
  (segs.map List.length).splitLengths l

theorem flatten_reshape {segs : List (List α)} {l : List α}
    (h : l.length = segs.flatten.length) : (reshape segs l).flatten = l := by
  apply List.flatten_splitLengths
  rw [h, List.length_flatten]

theorem map_length_reshape {segs : List (List α)} {l : List α}
    (h : l.length = segs.flatten.length) :
    (reshape segs l).map List.length = segs.map List.length := by
  apply List.map_splitLengths_length
  rw [h, List.length_flatten]

end ScatterGather

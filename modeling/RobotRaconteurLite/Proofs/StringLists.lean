import RobotRaconteurLite.Message.Search
import RobotRaconteurLite.Scanners

/-!
# Lists with semicolons

The scan holds the start of a segment while its index goes to the segment's end.
Its segments are those that a split at the semicolons has, without the empty
ones, and the last one is compared behind the loop.
-/

namespace RobotRaconteurLite

open IndexScan

/-! ## The segments -/

theorem listSegmentsLoop_eq {segment rest : List UInt8} (h : 59 ∉ segment) :
    listSegmentsLoop segment rest = ((segment ++ rest).splitOn 59).filter (· ≠ []) := by
  induction rest generalizing segment with
  | nil =>
      rw [listSegmentsLoop, List.append_nil, List.splitOn_eq_singleton h]
      by_cases hnil : segment = [] <;> simp [hnil]
  | cons b rest ih =>
      rw [listSegmentsLoop]
      by_cases hb : b = 59
      · subst hb
        rw [if_pos rfl, List.splitOn_append_cons_self_of_not_mem h, ih (by simp), List.nil_append]
        by_cases hnil : segment = [] <;> simp [hnil]
      · have hsegment : 59 ∉ segment ++ [b] := by
          rw [List.mem_append, List.mem_singleton, not_or]
          exact ⟨h, fun heq => hb heq.symm⟩
        rw [if_neg hb, ih hsegment, List.append_assoc, List.singleton_append]

/-- The segments are those of a split, without the empty ones. -/
theorem listSegments_eq (list : List UInt8) :
    listSegments list = (list.splitOn 59).filter (· ≠ []) :=
  listSegmentsLoop_eq List.not_mem_nil

theorem utilMatchStringInList_iff {list value : List UInt8} :
    utilMatchStringInList list value = true ↔ value ∈ listSegments list := by
  simp [utilMatchStringInList, stringCmp_eq_zero_iff]

/-! ## The scan -/

theorem readRange_segment (done segment rest : List UInt8) :
    readRange Status.undefined (done ++ (segment ++ rest)) done.length segment.length =
      .ok segment := readRange_append

/-- In a segment that starts behind `done`, the rest of the scan compares the rest of the
segments. -/
theorem matchStringInList_rest {list done segment rest : List UInt8} (value : List UInt8)
    (hlist : list = done ++ (segment ++ rest)) :
    (scanList (matchStringInListStep list value) (done.length + segment.length) done.length
        rest).bind (matchStringInListEnd list value) =
      .ok (if value ∈ listSegmentsLoop segment rest then 1 else 0) := by
  induction rest generalizing done segment with
  | nil =>
      have hlength : list.length - done.length = segment.length := by
        rw [hlist, List.append_nil, List.length_append, Nat.add_sub_cancel_left]
      rw [scanList, Except.bind, matchStringInListEnd, hlength, hlist, readRange_segment,
        listSegmentsLoop]
      by_cases hnil : segment = []
      · simp [hnil]
        rfl
      · have hpos : 0 < segment.length := List.length_pos_iff.mpr hnil
        rw [if_pos (by simpa using hpos), if_pos hnil]
        simp only [List.mem_singleton, stringCmp_eq_zero_iff, eq_comm (a := value)]
        rfl
  | cons b rest ih =>
      have hwidth : done.length + segment.length - done.length = segment.length :=
        Nat.add_sub_cancel_left _ _
      rw [scanList, matchStringInListStep, hwidth, listSegmentsLoop]
      by_cases hb : b = 59
      · subst hb
        -- the segment ends here, and the next one starts behind the semicolon
        have hnext : list = (done ++ (segment ++ [59])) ++ ([] ++ rest) := by
          rw [hlist]
          simp
        have hrest := ih hnext
        rw [List.length_append, List.length_append, List.length_singleton, List.length_nil,
          Nat.add_zero, ← Nat.add_assoc] at hrest
        rw [if_pos rfl, if_pos rfl]
        by_cases hnil : segment = []
        · rw [hnil] at hrest ⊢
          exact hrest
        · have hpos : segment.length > 0 := List.length_pos_iff.mpr hnil
          rw [if_pos hpos, if_pos hnil, hlist, readRange_segment, ← hlist]
          dsimp only
          by_cases hfound : segment = value
          · rw [if_pos (stringCmp_eq_zero_iff.mpr hfound), hfound, if_pos List.mem_cons_self]
            rfl
          · rw [if_neg (fun h => hfound (stringCmp_eq_zero_iff.mp h))]
            simp only [List.mem_cons, Ne.symm hfound, false_or]
            exact hrest
      · have hnext : list = done ++ ((segment ++ [b]) ++ rest) := by
          rw [hlist, List.append_assoc, List.singleton_append]
        have hrest := ih hnext
        rw [List.length_append, List.length_singleton, ← Nat.add_assoc] at hrest
        rw [if_neg hb, if_neg hb]
        exact hrest

theorem utilMatchStringInListScan_segments (list value : List UInt8) :
    utilMatchStringInListScan list value = .ok (if value ∈ listSegments list then 1 else 0) := by
  have hlist : list = [] ++ ([] ++ list) := rfl
  rw [utilMatchStringInListScan, scan_eq (Nat.add_zero list.length), List.drop_zero]
  exact matchStringInList_rest value hlist

/-- A value is found if and only if it is one of the non-empty segments. No read is outside of the
list, and the status is 1 or 0. -/
theorem utilMatchStringInListScan_splits (list value : List UInt8) :
    utilMatchStringInListScan list value =
      .ok (if value ≠ [] ∧ value ∈ list.splitOn 59 then 1 else 0) := by
  have hmem : value ∈ listSegments list ↔ value ≠ [] ∧ value ∈ list.splitOn 59 := by
    rw [listSegments_eq, List.mem_filter, decide_eq_true_iff, and_comm]
  rw [utilMatchStringInListScan_segments]
  simp only [hmem]

example : utilMatchStringInListScan [59, 0x61, 59, 59, 0x62] [0x62] = .ok 1 := by decide

/-- The scan by index and the one by segments agree. -/
theorem utilMatchStringInListScan_eq (list value : List UInt8) :
    utilMatchStringInListScan list value =
      .ok (if utilMatchStringInList list value then 1 else 0) := by
  rw [utilMatchStringInListScan_segments]
  simp only [utilMatchStringInList_iff]

end RobotRaconteurLite

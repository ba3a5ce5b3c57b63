import RobotRaconteurLite.CopyInPlace

/-!
# What a scatter/gather copy copies

A copy whose two ranges end inside their vectors succeeds and moves exactly the
bytes it names. The checks that keep the other copies out add a position and a
count in `size_t`, and nothing compares the two before they are added. A count
that takes the sum past the top of the type comes out below the position, and so
below the length the check compares it with.
-/

namespace RobotRaconteurLite

open Splice

theorem bufferVecHolds_of_mem {v : List Buffer} {elemSize : Nat}
    (h : ∀ b ∈ v, b.Holds elemSize) : BufferVecHolds elemSize v :=
  fun _ b hb => h b (List.mem_of_getElem? hb)

section

variable [SizeT]

/-- One side of a copy as a caller gives it. The vector is an object in memory and the count is
a `size_t`. -/
structure CopySide (v : List Buffer) (elemSize count : Nat) : Prop where
  holds : BufferVecHolds elemSize v
  elements_lt : (v.map (·.len)).sum < SizeT.modulus
  bytes_lt : (bufferData v).flatten.length < SizeT.modulus
  count_pos : 0 < count
  count_lt : count < SizeT.modulus

/-- The range a copy names ends inside the vector. -/
def CopySide.Inside (v : List Buffer) (pos count : Nat) : Prop :=
  pos + count ≤ (v.map (·.len)).sum

/-- What the range check of one side lets pass. -/
def CopySide.Passes (v : List Buffer) (pos count : Nat) : Prop :=
  pos < (v.map (·.len)).sum ∧
    (pos + count ≤ (v.map (·.len)).sum ∨ SizeT.modulus ≤ pos + count)

/-- A copy succeeds just when both ranges are inside; it moves the bytes it names and no others;
an error leaves the destination as it was; and no index leaves its vector. -/
structure CopyExact (run : Result Unit × List Buffer) (source : List Buffer)
    (sourcePos sourceElemSize sourceCount : Nat) (dest : List Buffer)
    (destPos destElemSize destCount : Nat) : Prop where
  succeeds : run.1 = .ok () ↔
    CopySide.Inside source sourcePos sourceCount ∧ CopySide.Inside dest destPos destCount
  copies : run.1 = .ok () → ∀ i, (bufferData run.2).flatten[i]? =
    if destPos * destElemSize ≤ i ∧ i < destPos * destElemSize + destCount * destElemSize then
      (bufferData source).flatten[sourcePos * sourceElemSize + (i - destPos * destElemSize)]?
    else (bufferData dest).flatten[i]?
  keepsLengths : run.1 = .ok () →
    (bufferData run.2).map List.length = (bufferData dest).map List.length
  keepsDest : ∀ e, run.1 = .error e → run.2 = dest
  staysInside : run.1 ≠ .error .undefined

variable {source dest : List Buffer} {sp ses sc dp des dc : Nat}

theorem CopySide.passes_or_fails {v : List Buffer} {elemSize count : Nat}
    (h : CopySide v elemSize count) (pos : Nat) :
    CopySide.Passes v pos count ∨ RangeFails v pos count := by
  by_cases hpos : pos < (v.map (·.len)).sum
  · by_cases hend : pos + count ≤ (v.map (·.len)).sum ∨ SizeT.modulus ≤ pos + count
    · exact Or.inl ⟨hpos, hend⟩
    · exact Or.inr ⟨h.elements_lt, fun _ => by omega⟩
  · exact Or.inr ⟨h.elements_lt, fun h => absurd h hpos⟩

theorem CopySide.Passes.check {v : List Buffer} {elemSize pos count : Nat}
    (hv : CopySide v elemSize count) (h : CopySide.Passes v pos count) :
    ¬ (¬ pos < bufferVecLen v ∨ addSz pos count > bufferVecLen v) := by
  rw [bufferVecLen_eq hv.elements_lt]
  obtain ⟨hpos, hend⟩ := h
  have hcount := hv.count_lt
  have hlen := hv.elements_lt
  obtain hend | hwrap := hend
  · rw [addSz_eq (by omega)]
    omega
  · rw [addSz, Nat.mod_eq_sub_mod hwrap, Nat.mod_eq_of_lt (by omega)]
    omega

/-- Elements of no bytes: nothing moves. -/
theorem bufferVecCopyVecEx_noBytes (hs : CopySide source 0 sc) (hd : CopySide dest 0 dc)
    (hsp : CopySide.Passes source sp sc) (hdp : CopySide.Passes dest dp dc) :
    bufferVecCopyVecEx source sp 0 sc dest dp 0 dc = .ok dest := by
  have hzero : ∀ n, mulSz n 0 = 0 := fun n => by rw [mulSz, Nat.mul_zero, Nat.zero_mod]
  have hseek : ∀ {v : List Buffer} {pos : Nat}, pos < (v.map (·.len)).sum →
      bufferVecSeek 0 0 v 0 0 = some (0, 0) := by
    intro v pos hpos
    cases v with
    | nil => simp at hpos
    | cons b rest => rw [bufferVecSeek, if_neg (Nat.not_lt_zero _)]
  have hloop : ∀ fuel, bufferVecCopyLoop source 0 0 fuel dest 0 0 0 0 0 = some dest := by
    intro fuel
    cases fuel with
    | zero => simp [bufferVecCopyLoop]
    | succ fuel => simp [bufferVecCopyLoop]
  have hscheck := hsp.check hs
  have hdcheck := hdp.check hd
  by_cases hone : source.length = 1 ∧ dest.length = 1
  · obtain ⟨s, rfl⟩ := List.length_eq_one_iff.mp hone.1
    obtain ⟨d, rfl⟩ := List.length_eq_one_iff.mp hone.2
    rw [bufferVecLen_eq hs.elements_lt] at hscheck
    rw [bufferVecLen_eq hd.elements_lt] at hdcheck
    simp only [List.map_cons, List.map_nil, List.sum_cons, List.sum_nil, Nat.add_zero]
      at hscheck hdcheck
    have hsc := hs.count_pos
    rw [bufferVecCopyVecEx, bufferCopyEx, if_neg (by omega), hzero, hzero, if_neg (by simp),
      if_neg (by omega), hzero, hzero]
    simp [memcpy, pure, Except.pure, bind, Except.bind]
  · rw [bufferVecCopyVecEx_pieces hone, bufferVecCopyPieces, hzero, hzero, if_neg (by simp),
      if_neg (by omega), hzero, hzero]
    dsimp only
    rw [hseek hsp.1, hseek hdp.1]
    simp [hloop]

theorem CopySide.Inside.passes {v : List Buffer} {elemSize pos count : Nat}
    (hv : CopySide v elemSize count) (h : CopySide.Inside v pos count) :
    CopySide.Passes v pos count := by
  have hcount := hv.count_pos
  rw [CopySide.Inside] at h
  exact ⟨by omega, Or.inl h⟩

theorem CopySide.Inside.bytes_le {v : List Buffer} {elemSize pos count : Nat}
    (hv : CopySide v elemSize count) (h : CopySide.Inside v pos count) :
    pos * elemSize + count * elemSize ≤ (bufferData v).flatten.length := by
  rw [length_flatten_bufferData hv.holds, ← Nat.add_mul]
  exact Nat.mul_le_mul_right _ h

/-- Two ranges inside their vectors that come out equal in `size_t` are equal. -/
theorem copyBytes_eq (hs : CopySide source ses sc) (hd : CopySide dest des dc)
    (hsin : CopySide.Inside source sp sc) (hdin : CopySide.Inside dest dp dc)
    (heq : mulSz sc ses = mulSz dc des) : sc * ses = dc * des := by
  have hsle := hsin.bytes_le hs
  have hdle := hdin.bytes_le hd
  have hslt := hs.bytes_lt
  have hdlt := hd.bytes_lt
  rw [mulSz_eq (by omega), mulSz_eq (by omega)] at heq
  exact heq

theorem bufferVecCopyVecEx_inside (hs : CopySide source ses sc) (hd : CopySide dest des dc)
    (hsin : CopySide.Inside source sp sc) (hdin : CopySide.Inside dest dp dc)
    (heq : mulSz sc ses = mulSz dc des) :
    ∃ dest', bufferVecCopyVecEx source sp ses sc dest dp des dc = .ok dest' ∧
      (bufferData dest').flatten = overwrite (bufferData dest).flatten (dp * des)
        (slice (bufferData source).flatten (sp * ses) (sc * ses)) ∧
      (bufferData dest').map List.length = (bufferData dest).map List.length := by
  have hbytes := copyBytes_eq hs hd hsin hdin heq
  have hsc := hs.count_pos
  have hdc := hd.count_pos
  rcases Nat.eq_zero_or_pos ses with rfl | hses
  · have hdes : des = 0 := by
      rw [Nat.mul_zero] at hbytes
      exact (Nat.mul_eq_zero.mp hbytes.symm).resolve_left (by omega)
    subst hdes
    refine ⟨dest, bufferVecCopyVecEx_noBytes hs hd (hsin.passes hs) (hdin.passes hd), ?_, rfl⟩
    simp
  · have hdes : 0 < des := by
      apply Nat.pos_of_ne_zero
      rintro rfl
      have := Nat.mul_pos hsc hses
      omega
    exact bufferVecCopyVecEx_ok hs.holds hd.holds hses hdes hs.bytes_lt hd.bytes_lt hbytes
      ⟨(hsin.passes hs).1, hsin, (hdin.passes hd).1, hdin⟩

/-- A copy both of whose checks pass reports no range. -/
theorem bufferVecCopyVecEx_passes (hs : CopySide source ses sc) (hd : CopySide dest des dc)
    (hsp : CopySide.Passes source sp sc) (hdp : CopySide.Passes dest dp dc)
    (heq : mulSz sc ses = mulSz dc des) {e : Status}
    (h : bufferVecCopyVecEx source sp ses sc dest dp des dc = .error e) : e = .undefined := by
  have hscheck := hsp.check hs
  have hdcheck := hdp.check hd
  by_cases hone : source.length = 1 ∧ dest.length = 1
  · obtain ⟨s, rfl⟩ := List.length_eq_one_iff.mp hone.1
    obtain ⟨d, rfl⟩ := List.length_eq_one_iff.mp hone.2
    rw [bufferVecLen_eq hs.elements_lt] at hscheck
    rw [bufferVecLen_eq hd.elements_lt] at hdcheck
    simp only [List.map_cons, List.map_nil, List.sum_cons, List.sum_nil, Nat.add_zero]
      at hscheck hdcheck
    have hsc := hs.count_pos
    rw [bufferVecCopyVecEx, bufferCopyEx, if_neg (by omega), if_neg (not_not.mpr heq),
      if_neg (by omega)] at h
    cases h
  · rw [bufferVecCopyVecEx_pieces hone, bufferVecCopyPieces, if_neg (not_not.mpr heq),
      if_neg (by omega)] at h
    dsimp only at h
    split at h
    · split at h
      · cases h
      · injection h with h
        exact h.symm
    · injection h with h
      exact h.symm

/-- Both checks pass although an addition in one of them left the type. -/
def CopyWraps (source : List Buffer) (sourcePos sourceCount : Nat) (dest : List Buffer)
    (destPos destCount : Nat) : Prop :=
  CopySide.Passes source sourcePos sourceCount ∧ CopySide.Passes dest destPos destCount ∧
    (SizeT.modulus ≤ sourcePos + sourceCount ∨ SizeT.modulus ≤ destPos + destCount)

theorem copyExact_iff (hs : CopySide source ses sc) (hd : CopySide dest des dc)
    (heq : mulSz sc ses = mulSz dc des) :
    CopyExact (bufferVecCopyVecExInPlace source sp ses sc dest dp des dc) source sp ses sc
      dest dp des dc ↔ ¬ CopyWraps source sp sc dest dp dc := by
  rw [bufferVecCopyVecExInPlace_eq]
  constructor
  · rintro hexact ⟨hsp, hdp, hwrap⟩
    have hslt := hs.elements_lt
    have hdlt := hd.elements_lt
    have hout : ¬ (CopySide.Inside source sp sc ∧ CopySide.Inside dest dp dc) := by
      intro hin
      rw [CopySide.Inside, CopySide.Inside] at hin
      omega
    cases hrun : bufferVecCopyVecEx source sp ses sc dest dp des dc with
    | ok dest' =>
        rw [hrun] at hexact
        exact hout (hexact.succeeds.mp rfl)
    | error e =>
        rw [hrun, bufferVecCopyVecEx_passes hs hd hsp hdp heq hrun] at hexact
        exact hexact.staysInside rfl
  · intro hno
    by_cases hin : CopySide.Inside source sp sc ∧ CopySide.Inside dest dp dc
    · obtain ⟨dest', hrun, hbytes, hlens⟩ :=
        bufferVecCopyVecEx_inside hs hd hin.1 hin.2 heq
      have hslice := length_slice (hin.1.bytes_le hs)
      have hle := hin.2.bytes_le hd
      have hsame := copyBytes_eq hs hd hin.1 hin.2 heq
      rw [hrun]
      refine ⟨⟨fun _ => hin, fun _ => rfl⟩, fun _ i => ?_, fun _ => hlens, fun e h => (by cases h),
        fun h => by cases h⟩
      rw [inPlace, hbytes, getElem?_overwrite (by omega), hslice, hsame]
      split
      · next hi => rw [getElem?_slice, if_pos (by omega)]
      · rfl
    · have hfails : RangeFails source sp sc ∨ RangeFails dest dp dc := by
        rcases hs.passes_or_fails sp with hsp | hsf
        · rcases hd.passes_or_fails dp with hdp | hdf
          · refine absurd ⟨?_, ?_⟩ hin
            · exact hsp.2.resolve_right fun hw => hno ⟨hsp, hdp, Or.inl hw⟩
            · exact hdp.2.resolve_right fun hw => hno ⟨hsp, hdp, Or.inr hw⟩
          · exact Or.inr hdf
        · exact Or.inl hsf
      have hsc := hs.count_pos
      rw [bufferVecCopyVecEx_error hs.elements_lt hd.elements_lt
        (fun hx => by have := hx.2.2.1; omega) hfails]
      exact ⟨⟨fun h => (by cases h), fun h => absurd h hin⟩, fun h => (by cases h),
        fun h => (by cases h), fun _ _ => rfl, fun h => by cases h⟩

/-- Both copies are exact unless an addition wraps in checks that pass. -/
theorem bufferVecCopy_exact_iff (source : List Buffer) (sp : Nat) (dest : List Buffer) (dp : Nat) :
    (∀ count, CopySide source 1 count → CopySide dest 1 count →
      (CopyExact (bufferVecCopyVec source sp dest dp count) source sp 1 count dest dp 1 count ↔
        ¬ CopyWraps source sp count dest dp count)) ∧
    ∀ ses sc des dc, CopySide source ses sc → CopySide dest des dc →
      mulSz sc ses = mulSz dc des →
      (CopyExact (bufferVecCopyVecExInPlace source sp ses sc dest dp des dc) source sp ses sc
        dest dp des dc ↔ ¬ CopyWraps source sp sc dest dp dc) := by
  constructor
  · intro count hs hd
    rw [bufferVecCopyVec_eq hs.elements_lt hd.elements_lt hs.count_lt]
    exact copyExact_iff hs hd rfl
  · intro ses sc des dc hs hd heq
    exact copyExact_iff hs hd heq

end

section

open Lp64

/-- Five bytes in three segments, one of them empty. -/
def splitSource : List Buffer := [⟨[1, 2, 3], 3⟩, ⟨[], 0⟩, ⟨[4, 5], 2⟩]

/-- Six bytes in two segments. -/
def splitDest : List Buffer := [⟨[0], 1⟩, ⟨[0, 0, 0, 0, 0], 5⟩]

/-- Three elements of two bytes in two segments. -/
def pairDest : List Buffer := [⟨[0, 0], 1⟩, ⟨[0, 0, 0, 0], 2⟩]

theorem splitSource_side {count : Nat} (h0 : 0 < count) (h : count < 2 ^ 64) :
    CopySide splitSource 1 count :=
  ⟨bufferVecHolds_of_mem (by simp [splitSource, Buffer.Holds]), by decide, by decide, h0, h⟩

theorem splitDest_side {count : Nat} (h0 : 0 < count) (h : count < 2 ^ 64) :
    CopySide splitDest 1 count :=
  ⟨bufferVecHolds_of_mem (by simp [splitDest, Buffer.Holds]), by decide, by decide, h0, h⟩

theorem pairDest_side {count : Nat} (h0 : 0 < count) (h : count < 2 ^ 64) :
    CopySide pairDest 2 count :=
  ⟨bufferVecHolds_of_mem (by simp [pairDest, Buffer.Holds]), by decide, by decide, h0, h⟩

/-- Three bytes across a boundary, and four bytes into two elements of two. -/
theorem splitCopies_exact :
    CopyExact (bufferVecCopyVec splitSource 1 splitDest 2 3) splitSource 1 1 3 splitDest 2 1 3 ∧
      CopyExact (bufferVecCopyVecExInPlace splitSource 0 1 4 pairDest 1 2 2) splitSource 0 1 4
        pairDest 1 2 2 := by
  constructor
  · apply ((bufferVecCopy_exact_iff splitSource 1 splitDest 2).1 3
      (splitSource_side (by decide) (by decide)) (splitDest_side (by decide) (by decide))).mpr
    rintro ⟨-, -, hwrap⟩
    exact absurd hwrap (by decide)
  · apply ((bufferVecCopy_exact_iff splitSource 0 pairDest 1).2 1 4 2 2
      (splitSource_side (by decide) (by decide)) (pairDest_side (by decide) (by decide))
      (by decide)).mpr
    rintro ⟨-, -, hwrap⟩
    exact absurd hwrap (by decide)

/-- From position 1 on, as many bytes as the type can count. Between two buffers the copy answers
success; between several segments its index runs past the end. -/
theorem wrappedCopy_passes :
    (CopySide [⟨[1, 2], 2⟩] 1 (2 ^ 64 - 1) ∧ CopySide [⟨[0, 0], 2⟩] 1 (2 ^ 64 - 1) ∧
      (bufferVecCopyVec [⟨[1, 2], 2⟩] 1 [⟨[0, 0], 2⟩] 1 (2 ^ 64 - 1)).1 = .ok () ∧
      ¬ CopyExact (bufferVecCopyVec [⟨[1, 2], 2⟩] 1 [⟨[0, 0], 2⟩] 1 (2 ^ 64 - 1))
        [⟨[1, 2], 2⟩] 1 1 (2 ^ 64 - 1) [⟨[0, 0], 2⟩] 1 1 (2 ^ 64 - 1)) ∧
    CopySide splitSource 1 (2 ^ 64 - 1) ∧ CopySide splitDest 1 (2 ^ 64 - 1) ∧
      (bufferVecCopyVec splitSource 1 splitDest 1 (2 ^ 64 - 1)).1 = .error .undefined ∧
      ¬ CopyExact (bufferVecCopyVec splitSource 1 splitDest 1 (2 ^ 64 - 1)) splitSource 1 1
        (2 ^ 64 - 1) splitDest 1 1 (2 ^ 64 - 1) := by
  have hone : (bufferVecCopyVec [⟨[1, 2], 2⟩] 1 [⟨[0, 0], 2⟩] 1 (2 ^ 64 - 1)).1 = .ok () := by
    decide +kernel
  have hmany : (bufferVecCopyVec splitSource 1 splitDest 1 (2 ^ 64 - 1)).1 =
      .error .undefined := by
    decide +kernel
  have hside : ∀ data : List UInt8, data.length = 2 → CopySide [⟨data, 2⟩] 1 (2 ^ 64 - 1) := by
    intro data hdata
    refine ⟨bufferVecHolds_of_mem (by simp [Buffer.Holds, hdata]), ?_, ?_, by decide, by decide⟩
    · simp [SizeT.modulus]
    · simp [bufferData, hdata, SizeT.modulus]
  refine ⟨⟨hside _ rfl, hside _ rfl, hone, fun hexact => ?_⟩,
    splitSource_side (by decide) (by decide), splitDest_side (by decide) (by decide), hmany,
    fun hexact => hexact.staysInside hmany⟩
  have hin := (hexact.succeeds.mp hone).1
  rw [CopySide.Inside] at hin
  exact absurd hin (by decide)

end

end RobotRaconteurLite

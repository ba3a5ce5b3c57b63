import RobotRaconteurLite.Message.InPlace

/-!
# Copies into the caller's buffers (`array.c`)

`robotraconteurlite_buffer_vec_copy_vec` counts bytes and its `_ex` sibling
counts elements of a size given for each side. The loops of the first are those
of the second at elements of one byte; its range checks and its short body are
its own. Both are written with the destination they leave the caller.
-/

namespace RobotRaconteurLite

section

variable [SizeT]

/-- `robotraconteurlite_buffer_copy`. -/
def bufferCopy (source : Buffer) (sourcePos : Nat) (dest : Buffer) (destPos count : Nat) :
    Result Unit × Buffer :=
  if count = 0 then (.ok (), dest)
  else if ¬ sourcePos < source.len ∨ addSz sourcePos count > source.len ∨
      ¬ destPos < dest.len ∨ addSz destPos count > dest.len then
    (.error .outOfRange, dest)
  else
    (.ok (), { dest with data := memcpy dest.data destPos source.data sourcePos count })

/-- The long body of `robotraconteurlite_buffer_vec_copy_vec`. -/
def bufferVecCopyBytes (source : List Buffer) (sourcePos : Nat) (dest : List Buffer)
    (destPos count : Nat) : Result Unit × List Buffer :=
  if ¬ sourcePos < bufferVecLen source ∨ addSz sourcePos count > bufferVecLen source ∨
      ¬ destPos < bufferVecLen dest ∨ addSz destPos count > bufferVecLen dest then
    (.error .outOfRange, dest)
  else
    match bufferVecSeek 1 sourcePos source 0 0, bufferVecSeek 1 destPos dest 0 0 with
    | some (sourceI, sourceCurrentPos), some (destI, destCurrentPos) =>
        let sourceIPos :=
          if sourceCurrentPos < sourcePos then subSz sourcePos sourceCurrentPos else 0
        let destIPos := if destCurrentPos < destPos then subSz destPos destCurrentPos else 0
        match bufferVecCopyLoop source 1 1 (source.length + dest.length + count) dest sourceI
            sourceIPos destI destIPos count with
        | some dest => (.ok (), dest)
        | none => (.error .undefined, dest)
    | _, _ => (.error .undefined, dest)

/-- `robotraconteurlite_buffer_vec_copy_vec`. -/
def bufferVecCopyVec (source : List Buffer) (sourcePos : Nat) (dest : List Buffer)
    (destPos count : Nat) : Result Unit × List Buffer :=
  match source, dest with
  | [s], [d] =>
      let copied := bufferCopy s sourcePos d destPos count
      (copied.1, [copied.2])
  | source, dest => bufferVecCopyBytes source sourcePos dest destPos count

/-- `robotraconteurlite_buffer_copy_ex`. -/
def bufferCopyExInPlace (source : Buffer) (sourcePos sourceElemSize sourceCount : Nat)
    (dest : Buffer) (destPos destElemSize destCount : Nat) : Result Unit × Buffer :=
  if sourceCount = 0 ∧ destCount = 0 then (.ok (), dest)
  else if mulSz sourceCount sourceElemSize ≠ mulSz destCount destElemSize then
    (.error .outOfRange, dest)
  else if ¬ sourcePos < source.len ∨ addSz sourcePos sourceCount > source.len ∨
      ¬ destPos < dest.len ∨ addSz destPos destCount > dest.len then
    (.error .outOfRange, dest)
  else
    let data := memcpy dest.data (mulSz destPos destElemSize) source.data
      (mulSz sourcePos sourceElemSize) (mulSz sourceCount sourceElemSize)
    (.ok (), { dest with data := data })

/-- The long body of `robotraconteurlite_buffer_vec_copy_vec_ex`. -/
def bufferVecCopyPiecesInPlace (source : List Buffer)
    (sourcePos sourceElemSize sourceCount : Nat) (dest : List Buffer)
    (destPos destElemSize destCount : Nat) : Result Unit × List Buffer :=
  if mulSz sourceCount sourceElemSize ≠ mulSz destCount destElemSize then
    (.error .outOfRange, dest)
  else if ¬ sourcePos < bufferVecLen source ∨
      addSz sourcePos sourceCount > bufferVecLen source ∨
      ¬ destPos < bufferVecLen dest ∨ addSz destPos destCount > bufferVecLen dest then
    (.error .outOfRange, dest)
  else
    let sourceBytePos := mulSz sourcePos sourceElemSize
    let destBytePos := mulSz destPos destElemSize
    match bufferVecSeek sourceElemSize sourceBytePos source 0 0,
        bufferVecSeek destElemSize destBytePos dest 0 0 with
    | some (sourceI, sourceCurrent), some (destI, destCurrent) =>
        let sourceIBytePos :=
          if sourceCurrent < sourceBytePos then subSz sourceBytePos sourceCurrent else 0
        let destIBytePos :=
          if destCurrent < destBytePos then subSz destBytePos destCurrent else 0
        let bytes := mulSz sourceCount sourceElemSize
        match bufferVecCopyLoop source sourceElemSize destElemSize
            (source.length + dest.length + bytes) dest sourceI sourceIBytePos destI
            destIBytePos bytes with
        | some dest => (.ok (), dest)
        | none => (.error .undefined, dest)
    | _, _ => (.error .undefined, dest)

/-- `robotraconteurlite_buffer_vec_copy_vec_ex`. -/
def bufferVecCopyVecExInPlace (source : List Buffer)
    (sourcePos sourceElemSize sourceCount : Nat) (dest : List Buffer)
    (destPos destElemSize destCount : Nat) : Result Unit × List Buffer :=
  match source, dest with
  | [s], [d] =>
      let copied := bufferCopyExInPlace s sourcePos sourceElemSize sourceCount d destPos
        destElemSize destCount
      (copied.1, [copied.2])
  | source, dest =>
      bufferVecCopyPiecesInPlace source sourcePos sourceElemSize sourceCount dest destPos
        destElemSize destCount

variable {source dest : List Buffer} {sp ses sc dp des dc : Nat}

theorem bufferVecCopyPiecesInPlace_eq :
    bufferVecCopyPiecesInPlace source sp ses sc dest dp des dc =
      inPlace (bufferVecCopyPieces source sp ses sc dest dp des dc) dest := by
  rw [bufferVecCopyPiecesInPlace, bufferVecCopyPieces]
  split
  · rfl
  · split
    · rfl
    · dsimp only
      cases bufferVecSeek ses (mulSz sp ses) source 0 0 with
      | none => rfl
      | some s =>
          cases bufferVecSeek des (mulSz dp des) dest 0 0 with
          | none => rfl
          | some d =>
              dsimp only
              generalize bufferVecCopyLoop source ses des _ dest _ _ _ _ _ = copied
              cases copied with
              | none => rfl
              | some dest => rfl

theorem bufferCopyExInPlace_eq {s d : Buffer} :
    bufferCopyExInPlace s sp ses sc d dp des dc = inPlace (bufferCopyEx s sp ses sc d dp des dc) d := by
  rw [bufferCopyExInPlace, bufferCopyEx]
  split
  · rfl
  · split
    · rfl
    · split
      · rfl
      · rfl

theorem bufferVecCopyVecExInPlace_eq :
    bufferVecCopyVecExInPlace source sp ses sc dest dp des dc =
      inPlace (bufferVecCopyVecEx source sp ses sc dest dp des dc) dest := by
  by_cases hone : source.length = 1 ∧ dest.length = 1
  · obtain ⟨s, rfl⟩ := List.length_eq_one_iff.mp hone.1
    obtain ⟨d, rfl⟩ := List.length_eq_one_iff.mp hone.2
    rw [bufferVecCopyVecExInPlace, bufferVecCopyVecEx, bufferCopyExInPlace_eq]
    cases bufferCopyEx s sp ses sc d dp des dc with
    | error e => rfl
    | ok d => rfl
  · rw [bufferVecCopyVecEx_pieces hone, ← bufferVecCopyPiecesInPlace_eq,
      bufferVecCopyVecExInPlace]
    rintro s d rfl rfl
    exact hone ⟨rfl, rfl⟩

/-- A copy between two buffers is a copy of elements of one byte. -/
theorem bufferCopy_eq {s d : Buffer} {count : Nat} (hs : s.len < SizeT.modulus)
    (hd : d.len < SizeT.modulus) (hcount : count < SizeT.modulus) :
    bufferCopy s sp d dp count = bufferCopyExInPlace s sp 1 count d dp 1 count := by
  rw [bufferCopy, bufferCopyExInPlace]
  by_cases hz : count = 0
  · rw [if_pos hz, if_pos ⟨hz, hz⟩]
  have hz' : ¬ (count = 0 ∧ count = 0) := fun h => hz h.1
  have hsame : ¬ mulSz count 1 ≠ mulSz count 1 := fun h => h rfl
  rw [if_neg hz, if_neg hz', if_neg hsame]
  split
  · rfl
  · next hin =>
      rw [mulSz_eq (by omega : count * 1 < SizeT.modulus), Nat.mul_one,
        mulSz_eq (by omega : sp * 1 < SizeT.modulus), Nat.mul_one,
        mulSz_eq (by omega : dp * 1 < SizeT.modulus), Nat.mul_one]

/-- A copy of bytes is a copy of elements of one byte. -/
theorem bufferVecCopyVec_eq {count : Nat} (hs : (source.map (·.len)).sum < SizeT.modulus)
    (hd : (dest.map (·.len)).sum < SizeT.modulus) (hcount : count < SizeT.modulus) :
    bufferVecCopyVec source sp dest dp count =
      bufferVecCopyVecExInPlace source sp 1 count dest dp 1 count := by
  by_cases hone : source.length = 1 ∧ dest.length = 1
  · obtain ⟨s, rfl⟩ := List.length_eq_one_iff.mp hone.1
    obtain ⟨d, rfl⟩ := List.length_eq_one_iff.mp hone.2
    simp only [List.map_cons, List.map_nil, List.sum_cons, List.sum_nil, Nat.add_zero] at hs hd
    rw [bufferVecCopyVec, bufferVecCopyVecExInPlace, bufferCopy_eq hs hd hcount]
  · rw [bufferVecCopyVec, bufferVecCopyVecExInPlace, bufferVecCopyBytes,
      bufferVecCopyPiecesInPlace]
    · have hsame : ¬ mulSz count 1 ≠ mulSz count 1 := fun h => h rfl
      rw [if_neg hsame]
      by_cases hin : ¬ sp < bufferVecLen source ∨ addSz sp count > bufferVecLen source ∨
          ¬ dp < bufferVecLen dest ∨ addSz dp count > bufferVecLen dest
      · rw [if_pos hin, if_pos hin]
      · rw [if_neg hin, if_neg hin]
        rw [bufferVecLen_eq hs, bufferVecLen_eq hd] at hin
        rw [mulSz_eq (by omega : count * 1 < SizeT.modulus), Nat.mul_one,
          mulSz_eq (by omega : sp * 1 < SizeT.modulus), Nat.mul_one,
          mulSz_eq (by omega : dp * 1 < SizeT.modulus), Nat.mul_one]
    · rintro s d rfl rfl
      exact hone ⟨rfl, rfl⟩
    · rintro s d rfl rfl
      exact hone ⟨rfl, rfl⟩

end

end RobotRaconteurLite

import RobotRaconteurLite.Base
import RobotRaconteurLite.Lib.ScatterGather
import RobotRaconteurLite.Lib.LittleEndian

/-!
# Scatter/gather copies (`array.c`)

Every byte the message code reads or writes goes through
`robotraconteurlite_buffer_vec_copy_vec_ex`, which copies between two lists of
buffers. It has two bodies. With one buffer on each side it checks the ranges
and calls `memcpy`; otherwise it adds up the lengths, checks the ranges again,
looks for the two starting buffers and copies piece by piece. Both are here as
the C has them, the first check of the short body included: it answers success
to an empty copy before it looks at a range, and the long body does not.

A `Buffer` counts its length in elements, and the element size is an argument
of the copy, because a side that is a C array of `uint32_t` has `len` elements
of four bytes. The buffer a message lives in is a `BufferVec`: byte segments
whose total length is an object size the target can address.
-/

namespace RobotRaconteurLite

open Splice ScatterGather LittleEndian

/-- `struct robotraconteurlite_buffer`: the bytes `data` points at and the
number of elements they hold. -/
structure Buffer where
  data : List UInt8
  len : Nat
  deriving DecidableEq, Repr

/-- The bytes of each buffer. -/
def bufferData (v : List Buffer) : List (List UInt8) := v.map (·.data)

/-- `len` counts elements of `elemSize` bytes, and the bytes are there. -/
def Buffer.Holds (elemSize : Nat) (b : Buffer) : Prop := b.data.length = b.len * elemSize

theorem bufferData_length (v : List Buffer) : (bufferData v).length = v.length :=
  List.length_map ..

theorem bufferData_getElem? {v : List Buffer} {i : Nat} {b : Buffer} (h : v[i]? = some b) :
    (bufferData v)[i]? = some b.data := by
  rw [bufferData, List.getElem?_map, h, Option.map_some]

theorem bufferData_set (v : List Buffer) (i : Nat) (b : Buffer) :
    bufferData (v.set i b) = (bufferData v).set i b.data := by
  rw [bufferData, bufferData, List.map_set]

theorem exists_buffer_of_flatPos_lt {v : List Buffer} {i p : Nat}
    (h : flatPos (bufferData v) i p < (bufferData v).flatten.length) :
    ∃ b, v[i]? = some b := by
  obtain ⟨s, hs⟩ := getElem?_of_flatPos_lt h
  rw [bufferData, List.getElem?_map] at hs
  cases hv : v[i]? with
  | none => rw [hv] at hs; simp at hs
  | some b => exact ⟨b, rfl⟩

/-- A buffer of a vector holds no more than the vector does. -/
theorem buffer_bytes_lt {v : List Buffer} {i : Nat} {b : Buffer} {n : Nat}
    (h : v[i]? = some b) (hn : (bufferData v).flatten.length < n) : b.data.length < n := by
  have := flatPos_le (bufferData_getElem? h) (Nat.le_refl _)
  rw [flatPos] at this
  omega

/-- Every buffer's element count agrees with its bytes. -/
def BufferVecHolds (elemSize : Nat) (v : List Buffer) : Prop :=
  ∀ (i : Nat) (b : Buffer), v[i]? = some b → b.Holds elemSize

theorem BufferVecHolds.set {elemSize i : Nat} {v : List Buffer} {b : Buffer} {data : List UInt8}
    (h : BufferVecHolds elemSize v) (hb : v[i]? = some b) (hd : data.length = b.data.length) :
    BufferVecHolds elemSize (v.set i { b with data := data }) := by
  intro j c hc
  rw [List.getElem?_set] at hc
  split at hc
  · split at hc
    · injection hc with hc
      subst hc
      exact hd.trans (h i b hb)
    · cases hc
  · exact h j c hc

theorem length_flatten_bufferData {v : List Buffer} {elemSize : Nat}
    (hv : BufferVecHolds elemSize v) :
    (bufferData v).flatten.length = (v.map (·.len)).sum * elemSize := by
  induction v with
  | nil => simp [bufferData]
  | cons b rest ih =>
      have hb : b.data.length = b.len * elemSize := hv 0 b rfl
      have hrest : BufferVecHolds elemSize rest := fun i c hc => hv (i + 1) c hc
      have := ih hrest
      simp only [bufferData, List.map_cons, List.flatten_cons, List.length_append,
        List.sum_cons, Nat.add_mul] at this ⊢
      omega

/-- What both bodies of the copy ask before they move a byte, apart from the
short one's exemption for an empty copy. -/
def CopyInRange (source : List Buffer) (sourcePos sourceCount : Nat) (dest : List Buffer)
    (destPos destCount : Nat) : Prop :=
  sourcePos < (source.map (·.len)).sum ∧
    sourcePos + sourceCount ≤ (source.map (·.len)).sum ∧
    destPos < (dest.map (·.len)).sum ∧ destPos + destCount ≤ (dest.map (·.len)).sum

/-- The exemption: nothing to copy, and one buffer on each side. -/
def CopyExempt (source : List Buffer) (sourceCount : Nat) (dest : List Buffer)
    (destCount : Nat) : Prop :=
  source.length = 1 ∧ dest.length = 1 ∧ sourceCount = 0 ∧ destCount = 0

section

variable [SizeT]

/-- The range check of one side fails, and no addition in it wraps. -/
def RangeFails (v : List Buffer) (pos count : Nat) : Prop :=
  (v.map (·.len)).sum < SizeT.modulus ∧ (pos < (v.map (·.len)).sum →
    (v.map (·.len)).sum < pos + count ∧ pos + count < SizeT.modulus)

/-- `robotraconteurlite_buffer_vec_len`. -/
def bufferVecLen (source : List Buffer) : Nat := source.foldl (fun n b => addSz n b.len) 0

/-- `memcpy` of `n` bytes into `dest`. -/
def memcpy (dest : List UInt8) (destPos : Nat) (source : List UInt8) (sourcePos n : Nat) :
    List UInt8 :=
  overwrite dest destPos (slice source sourcePos n)

/-- `robotraconteurlite_buffer_copy_ex`. -/
def bufferCopyEx (source : Buffer) (sourcePos sourceElemSize sourceCount : Nat)
    (dest : Buffer) (destPos destElemSize destCount : Nat) : Result Buffer :=
  if sourceCount = 0 ∧ destCount = 0 then .ok dest
  else if mulSz sourceCount sourceElemSize ≠ mulSz destCount destElemSize then
    .error .outOfRange
  else if ¬ sourcePos < source.len ∨ addSz sourcePos sourceCount > source.len ∨
      ¬ destPos < dest.len ∨ addSz destPos destCount > dest.len then
    .error .outOfRange
  else
    let data := memcpy dest.data (mulSz destPos destElemSize) source.data
      (mulSz sourcePos sourceElemSize) (mulSz sourceCount sourceElemSize)
    .ok { dest with data := data }

/-- The loop that looks for the buffer a byte position falls in. It answers the
buffer's index and the byte position it starts at, and nothing when it runs
past the last buffer. -/
def bufferVecSeek (elemSize bytePos : Nat) : List Buffer → Nat → Nat → Option (Nat × Nat)
  | [], _, _ => none
  | b :: rest, i, currentBytePos =>
      if addSz currentBytePos (mulSz b.len elemSize) < bytePos then
        bufferVecSeek elemSize bytePos rest (i + 1)
          (addSz currentBytePos (mulSz b.len elemSize))
      else some (i, currentBytePos)

/-- The copy loop. It answers nothing when an index runs past the end of its
vector, or when the fuel is gone. -/
def bufferVecCopyLoop (source : List Buffer) (sourceElemSize destElemSize : Nat) :
    Nat → List Buffer → Nat → Nat → Nat → Nat → Nat → Option (List Buffer)
  | 0, dest, _, _, _, _, bytesRemaining => if bytesRemaining = 0 then some dest else none
  | fuel + 1, dest, sourceI, sourceIBytePos, destI, destIBytePos, bytesRemaining =>
      if bytesRemaining = 0 then some dest
      else
        match source[sourceI]?, dest[destI]? with
        | some s, some d =>
            let sourceIDelta := subSz (mulSz s.len sourceElemSize) sourceIBytePos
            let destIDelta := subSz (mulSz d.len destElemSize) destIBytePos
            if sourceIDelta = 0 then
              bufferVecCopyLoop source sourceElemSize destElemSize fuel dest
                (sourceI + 1) 0 destI destIBytePos bytesRemaining
            else if destIDelta = 0 then
              bufferVecCopyLoop source sourceElemSize destElemSize fuel dest
                sourceI sourceIBytePos (destI + 1) 0 bytesRemaining
            else
              let delta := min bytesRemaining (min sourceIDelta destIDelta)
              let data := memcpy d.data destIBytePos s.data sourceIBytePos delta
              bufferVecCopyLoop source sourceElemSize destElemSize fuel
                (dest.set destI { d with data := data })
                sourceI (addSz sourceIBytePos delta) destI (addSz destIBytePos delta)
                (bytesRemaining - delta)
        | _, _ => none

/-- The long body of `robotraconteurlite_buffer_vec_copy_vec_ex`. The fuel of the
copy loop is one unit for every buffer and every byte. -/
def bufferVecCopyPieces (source : List Buffer) (sourcePos sourceElemSize sourceCount : Nat)
    (dest : List Buffer) (destPos destElemSize destCount : Nat) : Result (List Buffer) :=
  if mulSz sourceCount sourceElemSize ≠ mulSz destCount destElemSize then
    .error .outOfRange
  else if ¬ sourcePos < bufferVecLen source ∨
      addSz sourcePos sourceCount > bufferVecLen source ∨
      ¬ destPos < bufferVecLen dest ∨ addSz destPos destCount > bufferVecLen dest then
    .error .outOfRange
  else
    let sourceBytePos := mulSz sourcePos sourceElemSize
    let destBytePos := mulSz destPos destElemSize
    match bufferVecSeek sourceElemSize sourceBytePos source 0 0,
        bufferVecSeek destElemSize destBytePos dest 0 0 with
    | some (sourceI, sourceCurrent), some (destI, destCurrent) =>
        let sourceIBytePos :=
          if sourceCurrent < sourceBytePos then subSz sourceBytePos sourceCurrent else 0
        let destIBytePos :=
          if destCurrent < destBytePos then subSz destBytePos destCurrent else 0
        let bytes := mulSz sourceCount sourceElemSize
        match bufferVecCopyLoop source sourceElemSize destElemSize
            (source.length + dest.length + bytes) dest sourceI sourceIBytePos destI
            destIBytePos bytes with
        | some dest => .ok dest
        | none => .error .undefined
    | _, _ => .error .undefined

/-- `robotraconteurlite_buffer_vec_copy_vec_ex`. -/
def bufferVecCopyVecEx (source : List Buffer) (sourcePos sourceElemSize sourceCount : Nat)
    (dest : List Buffer) (destPos destElemSize destCount : Nat) : Result (List Buffer) :=
  match source, dest with
  | [s], [d] => do
      let d ← bufferCopyEx s sourcePos sourceElemSize sourceCount d destPos destElemSize
        destCount
      pure [d]
  | source, dest =>
      bufferVecCopyPieces source sourcePos sourceElemSize sourceCount dest destPos
        destElemSize destCount

/-! ## The loops do what `memcpy` does

The invariant of the copy loop is about the concatenations. Wherever the two
cursors stand, the rest of the copy is one write of the destination's
concatenation, at the destination cursor, of the slice at the source cursor. A
step of the loop either moves a cursor from the end of one buffer to the start
of the next, which is the same place, or copies a piece and moves both. -/

theorem bufferVecCopyLoop_spec {source : List Buffer} {ses des : Nat}
    (hs : BufferVecHolds ses source)
    (hsm : (bufferData source).flatten.length < SizeT.modulus) :
    ∀ (fuel : Nat) (dest : List Buffer) (si sp di dp n : Nat),
      BufferVecHolds des dest →
      (bufferData dest).flatten.length < SizeT.modulus →
      (∀ b, source[si]? = some b → sp ≤ b.data.length) →
      (∀ b, dest[di]? = some b → dp ≤ b.data.length) →
      flatPos (bufferData source) si sp + n ≤ (bufferData source).flatten.length →
      flatPos (bufferData dest) di dp + n ≤ (bufferData dest).flatten.length →
      (source.length - si) + (dest.length - di) + n ≤ fuel →
      ∃ dest', bufferVecCopyLoop source ses des fuel dest si sp di dp n = some dest' ∧
        (bufferData dest').flatten =
          overwrite (bufferData dest).flatten (flatPos (bufferData dest) di dp)
            (slice (bufferData source).flatten (flatPos (bufferData source) si sp) n) ∧
        (bufferData dest').map List.length = (bufferData dest).map List.length := by
  intro fuel
  induction fuel with
  | zero =>
      intro dest si sp di dp n hd hdm hsp hdp hsn hdn hfuel
      obtain rfl : n = 0 := by omega
      exact ⟨dest, by simp [bufferVecCopyLoop], by simp, rfl⟩
  | succ fuel ih =>
      intro dest si sp di dp n hd hdm hsp hdp hsn hdn hfuel
      rw [bufferVecCopyLoop]
      by_cases hn : n = 0
      · subst hn
        exact ⟨dest, by simp, by simp, rfl⟩
      rw [if_neg hn]
      obtain ⟨s, hsi⟩ := exists_buffer_of_flatPos_lt
        (show flatPos (bufferData source) si sp < _ by omega)
      obtain ⟨d, hdi⟩ := exists_buffer_of_flatPos_lt
        (show flatPos (bufferData dest) di dp < _ by omega)
      have hsil : si < source.length := (List.getElem?_eq_some_iff.mp hsi).1
      have hdil : di < dest.length := (List.getElem?_eq_some_iff.mp hdi).1
      have hsb : s.data.length = s.len * ses := hs si s hsi
      have hdb : d.data.length = d.len * des := hd di d hdi
      have hsl := buffer_bytes_lt hsi hsm
      have hdl := buffer_bytes_lt hdi hdm
      have hsp' := hsp s hsi
      have hdp' := hdp d hdi
      simp only [hsi, hdi]
      rw [mulSz_eq (by omega), mulSz_eq (by omega), ← hsb, ← hdb, subSz_eq hsp' hsl,
        subSz_eq hdp' hdl]
      by_cases hsd : s.data.length - sp = 0
      · -- The source cursor is at the end of its buffer.
        rw [if_pos hsd]
        have hpos : flatPos (bufferData source) (si + 1) 0 =
            flatPos (bufferData source) si sp := by
          rw [flatPos_succ (bufferData_getElem? hsi), show s.data.length = sp by omega]
        rw [← hpos]
        exact ih dest (si + 1) 0 di dp n hd hdm (fun _ _ => Nat.zero_le _) hdp
          (by omega) hdn (by omega)
      rw [if_neg hsd]
      by_cases hdd : d.data.length - dp = 0
      · -- The destination cursor is at the end of its buffer.
        rw [if_pos hdd]
        have hpos : flatPos (bufferData dest) (di + 1) 0 =
            flatPos (bufferData dest) di dp := by
          rw [flatPos_succ (bufferData_getElem? hdi), show d.data.length = dp by omega]
        rw [← hpos]
        exact ih dest si sp (di + 1) 0 n hd hdm hsp (fun _ _ => Nat.zero_le _)
          hsn (by omega) (by omega)
      rw [if_neg hdd]
      -- A piece of `m` bytes, inside both buffers.
      generalize hm : min n (min (s.data.length - sp) (d.data.length - dp)) = m
      have hmn : m ≤ n := by omega
      have hms : sp + m ≤ s.data.length := by omega
      have hmd : dp + m ≤ d.data.length := by omega
      have hm0 : 0 < m := by omega
      have hpiece : (slice s.data sp m).length = m := length_slice hms
      have hcopy : (memcpy d.data dp s.data sp m).length = d.data.length := by
        rw [memcpy, length_overwrite (by omega)]
      have hflat : (bufferData (dest.set di
          { d with data := memcpy d.data dp s.data sp m })).flatten =
          overwrite (bufferData dest).flatten (flatPos (bufferData dest) di dp)
            (slice (bufferData source).flatten (flatPos (bufferData source) si sp) m) := by
        rw [bufferData_set, memcpy,
          flatten_set_overwrite (bufferData_getElem? hdi) (by omega),
          slice_flatten (bufferData_getElem? hsi) hms]
      have hshape : (bufferData (dest.set di
          { d with data := memcpy d.data dp s.data sp m })).map List.length =
          (bufferData dest).map List.length := by
        rw [bufferData_set, map_length_set (bufferData_getElem? hdi) hcopy]
      have hlen : (bufferData (dest.set di
          { d with data := memcpy d.data dp s.data sp m })).flatten.length =
          (bufferData dest).flatten.length := by
        rw [List.length_flatten, List.length_flatten, hshape]
      have hposd : flatPos (bufferData (dest.set di
          { d with data := memcpy d.data dp s.data sp m })) di (dp + m) =
          flatPos (bufferData dest) di dp + m := by
        rw [flatPos, flatPos, bufferData_set, List.take_set_of_le (Nat.le_refl _),
          Nat.add_assoc]
      rw [addSz_eq (by omega), addSz_eq (by omega)]
      obtain ⟨dest', hrun, hbytes, hlens⟩ := ih
        (dest.set di { d with data := memcpy d.data dp s.data sp m }) si (sp + m) di (dp + m)
        (n - m) (hd.set hdi hcopy) (by omega)
        (by intro b hb; rw [hsi] at hb; injection hb with hb; subst hb; exact hms)
        (by
          intro b hb
          rw [List.getElem?_set, if_pos rfl, if_pos hdil] at hb
          injection hb with hb
          subst hb
          exact hcopy ▸ hmd)
        (by rw [flatPos_add]; omega) (by omega)
        (by rw [List.length_set]; omega)
      refine ⟨dest', hrun, ?_, hlens.trans hshape⟩
      have hbig : (slice (bufferData source).flatten
          (flatPos (bufferData source) si sp) m).length = m := length_slice (by omega)
      have hrest : (slice (bufferData source).flatten
          (flatPos (bufferData source) si sp + m) (n - m)).length = n - m :=
        length_slice (by omega)
      have happ : overwrite (overwrite (bufferData dest).flatten
            (flatPos (bufferData dest) di dp) (slice (bufferData source).flatten
              (flatPos (bufferData source) si sp) m))
          (flatPos (bufferData dest) di dp + (slice (bufferData source).flatten
            (flatPos (bufferData source) si sp) m).length)
          (slice (bufferData source).flatten (flatPos (bufferData source) si sp + m) (n - m)) =
          _ := overwrite_append
      rw [hbig] at happ
      rw [hbytes, hflat, hposd, flatPos_add, happ, ← slice_add, Nat.add_sub_cancel' hmn]

theorem foldl_addSz {v : List Buffer} : ∀ {n : Nat},
    n + (v.map (·.len)).sum < SizeT.modulus →
    v.foldl (fun n b => addSz n b.len) n = n + (v.map (·.len)).sum := by
  induction v with
  | nil => intro n _; simp
  | cons b rest ih =>
      intro n h
      simp only [List.map_cons, List.sum_cons] at h ⊢
      rw [List.foldl_cons, addSz_eq (by omega), ih (by omega)]
      omega

theorem bufferVecLen_eq {v : List Buffer} (h : (v.map (·.len)).sum < SizeT.modulus) :
    bufferVecLen v = (v.map (·.len)).sum := by
  rw [bufferVecLen, foldl_addSz (by omega), Nat.zero_add]

/-- The buffer the search stops at holds the position, counting from its first
byte up to and including its end. -/
theorem bufferVecSeek_spec {v : List Buffer} {elemSize target : Nat}
    (hv : BufferVecHolds elemSize v)
    (hm : (bufferData v).flatten.length < SizeT.modulus)
    (ht : target < (bufferData v).flatten.length) :
    ∀ (rest : List Buffer) (i cur : Nat), v.drop i = rest →
      cur = flatPos (bufferData v) i 0 → cur ≤ target →
      ∃ j c, bufferVecSeek elemSize target rest i cur = some (j, c) ∧ c ≤ target ∧
        flatPos (bufferData v) j (target - c) = target ∧
        ∀ b, v[j]? = some b → target - c ≤ b.data.length := by
  intro rest
  induction rest with
  | nil =>
      intro i cur hrest hcur hle
      have hi : v.length ≤ i := List.drop_eq_nil_iff.mp hrest
      rw [flatPos, List.take_of_length_le (by rw [bufferData_length]; exact hi)] at hcur
      omega
  | cons b rest ih =>
      intro i cur hrest hcur hle
      have hb : v[i]? = some b := by
        rw [← List.head?_drop, hrest, List.head?_cons]
      have hnext : v.drop (i + 1) = rest := by
        rw [← List.tail_drop, hrest, List.tail_cons]
      have hbytes : b.data.length = b.len * elemSize := hv i b hb
      have hend := flatPos_le (bufferData_getElem? hb) (Nat.le_refl b.data.length)
      have hsplit := flatPos_add (bufferData v) i 0 b.data.length
      rw [Nat.zero_add] at hsplit
      rw [bufferVecSeek, mulSz_eq (by rw [← hbytes]; exact buffer_bytes_lt hb hm), ← hbytes,
        addSz_eq (by omega)]
      by_cases hlt : cur + b.data.length < target
      · rw [if_pos hlt]
        exact ih (i + 1) (cur + b.data.length) hnext
          (by rw [flatPos_succ (bufferData_getElem? hb)]; omega) (by omega)
      · rw [if_neg hlt]
        refine ⟨i, cur, rfl, hle, ?_, ?_⟩
        · have := flatPos_add (bufferData v) i 0 (target - cur)
          rw [Nat.zero_add] at this
          omega
        · intro b' hb'
          rw [hb] at hb'
          injection hb' with hb'
          subst hb'
          omega

/-! ## One specification for both bodies -/

section

variable {source dest : List Buffer} {sp ses sc dp des dc : Nat}

theorem bufferVecCopyPieces_ok (hs : BufferVecHolds ses source)
    (hd : BufferVecHolds des dest) (hses : 0 < ses) (hdes : 0 < des)
    (hsm : (bufferData source).flatten.length < SizeT.modulus)
    (hdm : (bufferData dest).flatten.length < SizeT.modulus)
    (heq : sc * ses = dc * des) (h : CopyInRange source sp sc dest dp dc) :
    ∃ dest', bufferVecCopyPieces source sp ses sc dest dp des dc = .ok dest' ∧
      (bufferData dest').flatten = overwrite (bufferData dest).flatten (dp * des)
        (slice (bufferData source).flatten (sp * ses) (sc * ses)) ∧
      (bufferData dest').map List.length = (bufferData dest).map List.length := by
  obtain ⟨hsp, hsc, hdp, hdc⟩ := h
  have hsl := length_flatten_bufferData hs
  have hdl := length_flatten_bufferData hd
  have hsn : (source.map (·.len)).sum ≤ (source.map (·.len)).sum * ses :=
    Nat.le_mul_of_pos_right _ hses
  have hdn : (dest.map (·.len)).sum ≤ (dest.map (·.len)).sum * des :=
    Nat.le_mul_of_pos_right _ hdes
  have hscn : sc ≤ sc * ses := Nat.le_mul_of_pos_right _ hses
  have hdcn : dc ≤ dc * des := Nat.le_mul_of_pos_right _ hdes
  have hst : sp * ses < (bufferData source).flatten.length := by
    rw [hsl]
    exact Nat.mul_lt_mul_of_pos_right hsp hses
  have hdt : dp * des < (bufferData dest).flatten.length := by
    rw [hdl]
    exact Nat.mul_lt_mul_of_pos_right hdp hdes
  have hse : sp * ses + sc * ses ≤ (bufferData source).flatten.length := by
    rw [hsl, ← Nat.add_mul]
    exact Nat.mul_le_mul_right _ hsc
  have hde : dp * des + dc * des ≤ (bufferData dest).flatten.length := by
    rw [hdl, ← Nat.add_mul]
    exact Nat.mul_le_mul_right _ hdc
  obtain ⟨si, scur, hsrun, hscur, hsflat, hsin⟩ := bufferVecSeek_spec hs (by omega) hst
    source 0 0 rfl (by simp) (Nat.zero_le _)
  obtain ⟨di, dcur, hdrun, hdcur, hdflat, hdin⟩ := bufferVecSeek_spec hd (by omega) hdt
    dest 0 0 rfl (by simp) (Nat.zero_le _)
  obtain ⟨dest', hrun, hbytes, hlens⟩ := bufferVecCopyLoop_spec hs (by omega)
    (source.length + dest.length + sc * ses) dest si (sp * ses - scur) di (dp * des - dcur)
    (sc * ses) hd (by omega) hsin hdin (by omega) (by omega) (by omega)
  have hstart : ∀ {cur pos : Nat}, cur ≤ pos → pos < SizeT.modulus →
      (if cur < pos then subSz pos cur else 0) = pos - cur := by
    intro cur pos hle hpos
    split
    · exact subSz_eq hle hpos
    · omega
  refine ⟨dest', ?_, ?_, hlens⟩
  · rw [bufferVecCopyPieces, bufferVecLen_eq (by omega), bufferVecLen_eq (by omega),
      mulSz_eq (by omega), mulSz_eq (by omega), if_neg (by omega), addSz_eq (by omega),
      addSz_eq (by omega), if_neg (by omega), mulSz_eq (by omega), mulSz_eq (by omega)]
    simp only [hsrun, hdrun]
    rw [hstart hscur (by omega), hstart hdcur (by omega)]
    simp only [hrun]
  · rw [hbytes, hsflat, hdflat]

theorem RangeFails.check {v : List Buffer} {pos count : Nat} (h : RangeFails v pos count) :
    ¬ pos < (v.map (·.len)).sum ∨ addSz pos count > (v.map (·.len)).sum := by
  by_cases hpos : pos < (v.map (·.len)).sum
  · have := h.2 hpos
    rw [addSz_eq this.2]
    omega
  · exact Or.inl hpos

theorem bufferVecCopyPieces_error (hsm : (source.map (·.len)).sum < SizeT.modulus)
    (hdm : (dest.map (·.len)).sum < SizeT.modulus)
    (h : RangeFails source sp sc ∨ RangeFails dest dp dc) :
    bufferVecCopyPieces source sp ses sc dest dp des dc = .error .outOfRange := by
  rw [bufferVecCopyPieces, bufferVecLen_eq hsm, bufferVecLen_eq hdm]
  split
  · rfl
  · rw [if_pos]
    obtain h | h := h
    · have := h.check
      omega
    · have := h.check
      omega

theorem bufferVecCopyVecEx_pieces (h : ¬ (source.length = 1 ∧ dest.length = 1)) :
    bufferVecCopyVecEx source sp ses sc dest dp des dc =
      bufferVecCopyPieces source sp ses sc dest dp des dc := by
  rw [bufferVecCopyVecEx]
  rintro s d rfl rfl
  exact h ⟨rfl, rfl⟩

theorem bufferVecCopyVecEx_exempt (h : CopyExempt source sc dest dc) :
    bufferVecCopyVecEx source sp ses sc dest dp des dc = .ok dest := by
  obtain ⟨hsl, hdl, rfl, rfl⟩ := h
  obtain ⟨s, rfl⟩ := List.length_eq_one_iff.mp hsl
  obtain ⟨d, rfl⟩ := List.length_eq_one_iff.mp hdl
  simp [bufferVecCopyVecEx, bufferCopyEx]

theorem bufferVecCopyVecEx_ok (hs : BufferVecHolds ses source)
    (hd : BufferVecHolds des dest) (hses : 0 < ses) (hdes : 0 < des)
    (hsm : (bufferData source).flatten.length < SizeT.modulus)
    (hdm : (bufferData dest).flatten.length < SizeT.modulus)
    (heq : sc * ses = dc * des) (h : CopyInRange source sp sc dest dp dc) :
    ∃ dest', bufferVecCopyVecEx source sp ses sc dest dp des dc = .ok dest' ∧
      (bufferData dest').flatten = overwrite (bufferData dest).flatten (dp * des)
        (slice (bufferData source).flatten (sp * ses) (sc * ses)) ∧
      (bufferData dest').map List.length = (bufferData dest).map List.length := by
  by_cases hone : source.length = 1 ∧ dest.length = 1
  · obtain ⟨s, rfl⟩ := List.length_eq_one_iff.mp hone.1
    obtain ⟨d, rfl⟩ := List.length_eq_one_iff.mp hone.2
    have hsb : s.data.length = s.len * ses := hs 0 s rfl
    have hdb : d.data.length = d.len * des := hd 0 d rfl
    simp only [bufferData, List.map_cons, List.map_nil, List.flatten_singleton] at hsm hdm ⊢
    simp only [CopyInRange, List.map_cons, List.map_nil, List.sum_cons, List.sum_nil,
      Nat.add_zero] at h
    obtain ⟨hsp, hsc, hdp, hdc⟩ := h
    have hsn : s.len ≤ s.len * ses := Nat.le_mul_of_pos_right _ hses
    have hdn : d.len ≤ d.len * des := Nat.le_mul_of_pos_right _ hdes
    have hscn : sc ≤ sc * ses := Nat.le_mul_of_pos_right _ hses
    have hdcn : dc ≤ dc * des := Nat.le_mul_of_pos_right _ hdes
    have hst : sp * ses < s.len * ses := Nat.mul_lt_mul_of_pos_right hsp hses
    have hdt : dp * des < d.len * des := Nat.mul_lt_mul_of_pos_right hdp hdes
    have hse : sp * ses + sc * ses ≤ s.len * ses := by
      rw [← Nat.add_mul]
      exact Nat.mul_le_mul_right _ hsc
    have hde : dp * des + dc * des ≤ d.len * des := by
      rw [← Nat.add_mul]
      exact Nat.mul_le_mul_right _ hdc
    have hpiece : (slice s.data (sp * ses) (sc * ses)).length = sc * ses :=
      length_slice (by omega)
    by_cases hz : sc = 0 ∧ dc = 0
    · refine ⟨[d], bufferVecCopyVecEx_exempt ⟨rfl, rfl, hz⟩, ?_, rfl⟩
      simp [hz.1]
    · refine ⟨[⟨overwrite d.data (dp * des) (slice s.data (sp * ses) (sc * ses)), d.len⟩],
        ?_, ?_, ?_⟩
      · rw [bufferVecCopyVecEx, bufferCopyEx, if_neg hz, mulSz_eq (by omega),
          mulSz_eq (by omega), if_neg (by omega), addSz_eq (by omega), addSz_eq (by omega),
          if_neg (by omega), mulSz_eq (by omega), mulSz_eq (by omega)]
        rfl
      · simp
      · simp only [List.map_cons, List.map_nil]
        rw [length_overwrite (by omega)]
  · rw [bufferVecCopyVecEx_pieces hone]
    exact bufferVecCopyPieces_ok hs hd hses hdes hsm hdm heq h

theorem bufferVecCopyVecEx_error (hsm : (source.map (·.len)).sum < SizeT.modulus)
    (hdm : (dest.map (·.len)).sum < SizeT.modulus) (hz : ¬ CopyExempt source sc dest dc)
    (h : RangeFails source sp sc ∨ RangeFails dest dp dc) :
    bufferVecCopyVecEx source sp ses sc dest dp des dc = .error .outOfRange := by
  by_cases hone : source.length = 1 ∧ dest.length = 1
  · obtain ⟨s, rfl⟩ := List.length_eq_one_iff.mp hone.1
    obtain ⟨d, rfl⟩ := List.length_eq_one_iff.mp hone.2
    rw [bufferVecCopyVecEx, bufferCopyEx, if_neg (fun hc => hz ⟨rfl, rfl, hc⟩)]
    split
    · rfl
    · rw [if_pos]
      · rfl
      · obtain h | h := h
        · have := h.check
          simp only [List.map_cons, List.map_nil, List.sum_cons, List.sum_nil,
            Nat.add_zero] at this
          omega
        · have := h.check
          simp only [List.map_cons, List.map_nil, List.sum_cons, List.sum_nil,
            Nat.add_zero] at this
          omega
  · rw [bufferVecCopyVecEx_pieces hone]
    exact bufferVecCopyPieces_error hsm hdm h

end

end

end RobotRaconteurLite

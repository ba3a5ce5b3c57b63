import RobotRaconteurLite.Array

/-!
# The message buffer and typed access to it (`array.c`, `array_types.c`)

A message lives in a `robotraconteurlite_buffer_vec`, some byte segments that
stand for their concatenation. `BufferVec` is that vector with the one fact
about it no call can change: it is an object the target can address, so twice
its length is still a `size_t`.

The typed copies of `array_types.c` differ only in the element size they hand
to `copy_to_mem` and `copy_from_mem`. The target is little-endian, so the bytes
of an integer in memory are `leBytes` of its value.

The second half reduces both directions to two operations on the concatenated
bytes. A read of `n > 0` bytes is `fetch` and a write of `n > 0` bytes is
`store`, whatever the segments. A copy of nothing is the exception, and
`bufferVecCopyToMem_zero` and `bufferVecCopyFromMem_zero` say what it does.
-/

namespace RobotRaconteurLite

open Splice ScatterGather LittleEndian

section

variable [SizeT]

/-- `struct robotraconteurlite_buffer_vec`, as byte segments. -/
structure BufferVec where
  segments : List (List UInt8)
  addressable : 2 * segments.flatten.length < SizeT.modulus
  deriving DecidableEq, Repr

/-- The bytes a buffer vector stands for. -/
def BufferVec.bytes (v : BufferVec) : List UInt8 := v.segments.flatten

def BufferVec.toBuffers (v : BufferVec) : List Buffer :=
  v.segments.map fun s => ⟨s, s.length⟩

/-- The vector after a copy wrote into its buffers. A copy moves no buffer and
resizes none. -/
def BufferVec.withBuffers (v : BufferVec) (bs : List Buffer) : Result BufferVec :=
  if h : (bufferData bs).map List.length = v.segments.map List.length then
    .ok ⟨bufferData bs, by
      rw [List.length_flatten, h, ← List.length_flatten]
      exact v.addressable⟩
  else .error .undefined

/-- An array of C memory: `len` elements of `elemSize` bytes each. -/
structure CArray where
  data : List UInt8
  len : Nat
  elemSize : Nat
  elemSize_pos : 0 < elemSize
  length_data : data.length = len * elemSize
  addressable : 2 * data.length < SizeT.modulus

/-- `robotraconteurlite_buffer_vec_copy_to_mem`. -/
def bufferVecCopyToMem (source : BufferVec) (sourcePos : Nat) (dest : List UInt8)
    (destLen destPos destElemSize destCount : Nat) : Result (List UInt8) := do
  let destVec ← bufferVecCopyVecEx source.toBuffers sourcePos 1
    (mulSz destCount destElemSize) [⟨dest, destLen⟩] destPos destElemSize destCount
  pure (bufferData destVec).flatten

/-- `robotraconteurlite_buffer_vec_copy_from_mem`. -/
def bufferVecCopyFromMem (dest : BufferVec) (destPos : Nat) (source : List UInt8)
    (sourceLen sourcePos sourceElemSize sourceCount : Nat) : Result BufferVec := do
  let destVec ← bufferVecCopyVecEx [⟨source, sourceLen⟩] sourcePos sourceElemSize
    sourceCount dest.toBuffers destPos 1 (mulSz sourceCount sourceElemSize)
  dest.withBuffers destVec

/-! ## `array_types.c`

The value an integer had before the copy does not matter, so it is taken to be
zero. -/

/-- One unsigned integer of `size` bytes. -/
def bufferVecCopyToUInt (source : BufferVec) (sourcePos size : Nat) : Result Nat := do
  let bytes ← bufferVecCopyToMem source sourcePos (leBytes size 0) 1 0 size 1
  pure (leNat bytes)

def bufferVecCopyToUint8 (source : BufferVec) (sourcePos : Nat) : Result UInt8 :=
  UInt8.ofNat <$> bufferVecCopyToUInt source sourcePos 1

def bufferVecCopyToUint16 (source : BufferVec) (sourcePos : Nat) : Result UInt16 :=
  UInt16.ofNat <$> bufferVecCopyToUInt source sourcePos 2

def bufferVecCopyToUint32 (source : BufferVec) (sourcePos : Nat) : Result UInt32 :=
  UInt32.ofNat <$> bufferVecCopyToUInt source sourcePos 4

def bufferVecCopyToInt8 (source : BufferVec) (sourcePos : Nat) : Result Int8 :=
  UInt8.toInt8 <$> UInt8.ofNat <$> bufferVecCopyToUInt source sourcePos 1

def bufferVecCopyToInt16 (source : BufferVec) (sourcePos : Nat) : Result Int16 :=
  UInt16.toInt16 <$> UInt16.ofNat <$> bufferVecCopyToUInt source sourcePos 2

def bufferVecCopyToInt32 (source : BufferVec) (sourcePos : Nat) : Result Int32 :=
  UInt32.toInt32 <$> UInt32.ofNat <$> bufferVecCopyToUInt source sourcePos 4

def bufferVecCopyToUint8Array (source : BufferVec) (sourcePos : Nat) (dest : List UInt8)
    (destPos destCount : Nat) : Result (List UInt8) :=
  bufferVecCopyToMem source sourcePos dest dest.length destPos 1 destCount

def bufferVecCopyToString (source : BufferVec) (sourcePos : Nat) (dest : List UInt8)
    (destPos destCount : Nat) : Result (List UInt8) :=
  bufferVecCopyToMem source sourcePos dest dest.length destPos 1 destCount

/-- One unsigned integer of `size` bytes. -/
def bufferVecCopyFromUInt (dest : BufferVec) (destPos size source : Nat) : Result BufferVec :=
  bufferVecCopyFromMem dest destPos (leBytes size source) 1 0 size 1

def bufferVecCopyFromUint8 (dest : BufferVec) (destPos : Nat) (source : UInt8) :
    Result BufferVec :=
  bufferVecCopyFromUInt dest destPos 1 source.toNat

def bufferVecCopyFromUint16 (dest : BufferVec) (destPos : Nat) (source : UInt16) :
    Result BufferVec :=
  bufferVecCopyFromUInt dest destPos 2 source.toNat

def bufferVecCopyFromUint32 (dest : BufferVec) (destPos : Nat) (source : UInt32) :
    Result BufferVec :=
  bufferVecCopyFromUInt dest destPos 4 source.toNat

def bufferVecCopyFromInt8 (dest : BufferVec) (destPos : Nat) (source : Int8) :
    Result BufferVec :=
  bufferVecCopyFromUInt dest destPos 1 source.toUInt8.toNat

def bufferVecCopyFromInt16 (dest : BufferVec) (destPos : Nat) (source : Int16) :
    Result BufferVec :=
  bufferVecCopyFromUInt dest destPos 2 source.toUInt16.toNat

def bufferVecCopyFromInt32 (dest : BufferVec) (destPos : Nat) (source : Int32) :
    Result BufferVec :=
  bufferVecCopyFromUInt dest destPos 4 source.toUInt32.toNat

def bufferVecCopyFromUint8Array (dest : BufferVec) (destPos : Nat) (source : List UInt8)
    (sourcePos sourceCount : Nat) : Result BufferVec :=
  bufferVecCopyFromMem dest destPos source source.length sourcePos 1 sourceCount

def bufferVecCopyFromString (dest : BufferVec) (destPos : Nat) (source : List UInt8)
    (sourcePos sourceCount : Nat) : Result BufferVec :=
  bufferVecCopyFromMem dest destPos source source.length sourcePos 1 sourceCount

/-! ## Reads and writes of the concatenation -/

/-- The `n` bytes at `pos`, when they are all there. -/
def fetch (bytes : List UInt8) (pos n : Nat) : Result (List UInt8) :=
  if pos < bytes.length ∧ pos + n ≤ bytes.length then .ok (slice bytes pos n)
  else .error .outOfRange

theorem flatten_reshape_overwrite {v : BufferVec} {pos : Nat} {bs : List UInt8}
    (h : pos + bs.length ≤ v.bytes.length) :
    (reshape v.segments (overwrite v.bytes pos bs)).flatten = overwrite v.bytes pos bs :=
  flatten_reshape (length_overwrite h)

/-- The vector with `bs` laid over its bytes at `pos`. -/
def BufferVec.store (v : BufferVec) (pos : Nat) (bs : List UInt8) : Result BufferVec :=
  if h : pos < v.bytes.length ∧ pos + bs.length ≤ v.bytes.length then
    .ok ⟨reshape v.segments (overwrite v.bytes pos bs), by
      rw [flatten_reshape_overwrite h.2, length_overwrite h.2]
      exact v.addressable⟩
  else .error .outOfRange

theorem BufferVec.bytes_of_store {v v' : BufferVec} {pos : Nat} {bs : List UInt8}
    (h : v.store pos bs = .ok v') :
    pos + bs.length ≤ v.bytes.length ∧ v'.bytes = overwrite v.bytes pos bs := by
  rw [BufferVec.store] at h
  split at h
  · next hin =>
      injection h with h
      subst h
      exact ⟨hin.2, flatten_reshape_overwrite hin.2⟩
  · cases h

theorem BufferVec.length_bytes (v : BufferVec) : 2 * v.bytes.length < SizeT.modulus :=
  v.addressable

theorem bufferData_toBuffers (v : BufferVec) : bufferData v.toBuffers = v.segments := by
  rw [bufferData, BufferVec.toBuffers, List.map_map]
  exact List.map_id _

theorem toBuffers_holds (v : BufferVec) : BufferVecHolds 1 v.toBuffers := by
  intro i b hb
  rw [BufferVec.toBuffers, List.getElem?_map] at hb
  cases hs : v.segments[i]? with
  | none => rw [hs] at hb; cases hb
  | some s =>
      rw [hs] at hb
      injection hb with hb
      subst hb
      exact (Nat.mul_one _).symm

theorem sum_len_toBuffers (v : BufferVec) :
    (v.toBuffers.map (·.len)).sum = v.bytes.length := by
  have h := length_flatten_bufferData (toBuffers_holds v)
  rw [bufferData_toBuffers, Nat.mul_one] at h
  exact h.symm

theorem bufferVecLen_toBuffers (v : BufferVec) : bufferVecLen v.toBuffers = v.bytes.length := by
  have hv := v.length_bytes
  rw [bufferVecLen_eq (by rw [sum_len_toBuffers]; omega), sum_len_toBuffers]

theorem length_toBuffers (v : BufferVec) : v.toBuffers.length = v.segments.length :=
  List.length_map ..

theorem CArray.holds (a : CArray) : BufferVecHolds a.elemSize [⟨a.data, a.len⟩] := by
  intro i b hb
  cases i with
  | zero =>
      injection hb with hb
      subst hb
      exact a.length_data
  | succ i => cases hb

theorem CArray.len_le (a : CArray) : a.len ≤ a.data.length := by
  rw [a.length_data]
  exact Nat.le_mul_of_pos_right _ a.elemSize_pos

theorem CArray.mul_le (a : CArray) {n : Nat} (h : n ≤ a.len) :
    n * a.elemSize ≤ a.data.length := by
  rw [a.length_data]
  exact Nat.mul_le_mul_right _ h

/-- A read of some elements. -/
theorem bufferVecCopyToMem_eq (v : BufferVec) (pos : Nat) (a : CArray) {n : Nat}
    (hn : 0 < n) (hm : n < SizeT.modulus) :
    bufferVecCopyToMem v pos a.data a.len 0 a.elemSize n =
      if n ≤ a.len then
        (fetch v.bytes pos (n * a.elemSize)).map fun bs => overwrite a.data 0 bs
      else .error .outOfRange := by
  have hv := v.length_bytes
  have ha := a.addressable
  have hal := a.len_le
  have hsum : (v.toBuffers.map (·.len)).sum < SizeT.modulus := by
    rw [sum_len_toBuffers]
    omega
  have hasum : (([⟨a.data, a.len⟩] : List Buffer).map (·.len)).sum = a.len := by simp
  have hz : ¬ CopyExempt v.toBuffers (mulSz n a.elemSize) [⟨a.data, a.len⟩] n := by
    rintro ⟨-, -, -, h⟩
    omega
  rw [bufferVecCopyToMem]
  by_cases hle : n ≤ a.len
  · have hmul := a.mul_le hle
    have hpos : n ≤ n * a.elemSize := Nat.le_mul_of_pos_right _ a.elemSize_pos
    rw [if_pos hle, fetch]
    by_cases hin : pos < v.bytes.length ∧ pos + n * a.elemSize ≤ v.bytes.length
    · rw [if_pos hin, mulSz_eq (by omega)]
      obtain ⟨dest', hrun, hbytes, -⟩ := bufferVecCopyVecEx_ok
        (toBuffers_holds v) a.holds Nat.one_pos a.elemSize_pos
        (by rw [bufferData_toBuffers, ← BufferVec.bytes]; omega)
        (by simp only [bufferData, List.map_cons, List.map_nil, List.flatten_singleton]; omega)
        (Nat.mul_one _)
        (show CopyInRange v.toBuffers pos (n * a.elemSize) [⟨a.data, a.len⟩] 0 n by
          rw [CopyInRange, sum_len_toBuffers, hasum]
          omega)
      rw [hrun]
      change Except.ok (bufferData dest').flatten = _
      rw [hbytes, bufferData_toBuffers, Nat.mul_one, Nat.mul_one, Nat.zero_mul]
      simp [bufferData, BufferVec.bytes, Except.map]
    · rw [if_neg hin, bufferVecCopyVecEx_error hsum (by rw [hasum]; omega) hz]
      · rfl
      · refine Or.inl ⟨hsum, ?_⟩
        rw [sum_len_toBuffers, mulSz_eq (by omega)]
        omega
  · rw [if_neg hle, bufferVecCopyVecEx_error hsum (by rw [hasum]; omega) hz]
    · rfl
    · refine Or.inr ⟨by rw [hasum]; omega, ?_⟩
      rw [hasum]
      omega

/-- A read of nothing asks for a position inside the vector and a place to put
it, except when the vector is one buffer. -/
theorem bufferVecCopyToMem_zero (v : BufferVec) (pos : Nat) (a : CArray) :
    bufferVecCopyToMem v pos a.data a.len 0 a.elemSize 0 =
      if v.segments.length = 1 ∨ pos < v.bytes.length ∧ 0 < a.len then .ok a.data
      else .error .outOfRange := by
  have hv := v.length_bytes
  have ha := a.addressable
  have hal := a.len_le
  have hsum : (v.toBuffers.map (·.len)).sum < SizeT.modulus := by
    rw [sum_len_toBuffers]
    omega
  have hasum : (([⟨a.data, a.len⟩] : List Buffer).map (·.len)).sum = a.len := by simp
  have hmul : mulSz 0 a.elemSize = 0 := by
    rw [mulSz, Nat.zero_mul, Nat.zero_mod]
  rw [bufferVecCopyToMem, hmul]
  by_cases hone : v.segments.length = 1
  · rw [if_pos (Or.inl hone), bufferVecCopyVecEx_exempt
      ⟨by rw [length_toBuffers, hone], rfl, rfl, rfl⟩]
    simp [bufferData, pure, Except.pure, bind, Except.bind]
  · by_cases hin : pos < v.bytes.length ∧ 0 < a.len
    · rw [if_pos (Or.inr hin)]
      obtain ⟨dest', hrun, hbytes, -⟩ := bufferVecCopyVecEx_ok
        (toBuffers_holds v) a.holds Nat.one_pos a.elemSize_pos
        (by rw [bufferData_toBuffers, ← BufferVec.bytes]; omega)
        (by simp only [bufferData, List.map_cons, List.map_nil, List.flatten_singleton]; omega)
        (by omega)
        (show CopyInRange v.toBuffers pos 0 [⟨a.data, a.len⟩] 0 0 by
          rw [CopyInRange, sum_len_toBuffers, hasum]
          omega)
      rw [hrun]
      change Except.ok (bufferData dest').flatten = _
      rw [hbytes]
      simp [bufferData]
    · rw [if_neg (by omega), bufferVecCopyVecEx_error hsum (by rw [hasum]; omega)]
      · rfl
      · rintro ⟨h, -⟩
        rw [length_toBuffers] at h
        exact hone h
      · by_cases hpos : pos < v.bytes.length
        · refine Or.inr ⟨by rw [hasum]; omega, ?_⟩
          rw [hasum]
          omega
        · refine Or.inl ⟨hsum, ?_⟩
          rw [sum_len_toBuffers]
          omega

theorem withBuffers_eq_store {v : BufferVec} {pos : Nat} {bs : List UInt8}
    {dest : List Buffer} (hin : pos < v.bytes.length ∧ pos + bs.length ≤ v.bytes.length)
    (hbytes : (bufferData dest).flatten = overwrite v.bytes pos bs)
    (hlens : (bufferData dest).map List.length = v.segments.map List.length) :
    v.withBuffers dest = v.store pos bs := by
  have hsegs : bufferData dest = reshape v.segments (overwrite v.bytes pos bs) := by
    rw [List.eq_iff_flatten_eq, flatten_reshape_overwrite hin.2]
    exact ⟨hbytes, hlens.trans (map_length_reshape (length_overwrite hin.2)).symm⟩
  rw [BufferVec.withBuffers, dif_pos hlens, BufferVec.store, dif_pos hin]
  simp only [hsegs]

/-- A write of a whole array that is not empty. -/
theorem bufferVecCopyFromMem_eq (v : BufferVec) (pos : Nat) (a : CArray) (ha0 : 0 < a.len) :
    bufferVecCopyFromMem v pos a.data a.len 0 a.elemSize a.len = v.store pos a.data := by
  have hv := v.length_bytes
  have ha := a.addressable
  have hal := a.len_le
  have hlen := a.length_data
  have hsum : (v.toBuffers.map (·.len)).sum < SizeT.modulus := by
    rw [sum_len_toBuffers]
    omega
  have hasum : (([⟨a.data, a.len⟩] : List Buffer).map (·.len)).sum = a.len := by simp
  rw [bufferVecCopyFromMem, mulSz_eq (by omega), ← hlen]
  by_cases hin : pos < v.bytes.length ∧ pos + a.data.length ≤ v.bytes.length
  · obtain ⟨dest', hrun, hbytes, hlens⟩ := bufferVecCopyVecEx_ok
      a.holds (toBuffers_holds v) a.elemSize_pos Nat.one_pos
      (by simp only [bufferData, List.map_cons, List.map_nil, List.flatten_singleton]; omega)
      (by rw [bufferData_toBuffers, ← BufferVec.bytes]; omega)
      (by rw [Nat.mul_one]; exact hlen.symm)
      (show CopyInRange [⟨a.data, a.len⟩] 0 a.len v.toBuffers pos a.data.length by
        rw [CopyInRange, sum_len_toBuffers, hasum]
        omega)
    rw [hrun]
    refine withBuffers_eq_store hin ?_ (by rw [hlens, bufferData_toBuffers])
    rw [hbytes, bufferData_toBuffers, Nat.mul_one, Nat.zero_mul, ← hlen]
    simp only [bufferData, List.map_cons, List.map_nil, List.flatten_singleton]
    rw [slice_length, BufferVec.bytes]
  · rw [bufferVecCopyVecEx_error (by rw [hasum]; omega) hsum, BufferVec.store, dif_neg hin]
    · rfl
    · rintro ⟨-, -, h, -⟩
      omega
    · refine Or.inr ⟨hsum, ?_⟩
      rw [sum_len_toBuffers]
      omega

/-- A write of nothing fails, except when the vector is one buffer. -/
theorem bufferVecCopyFromMem_zero (v : BufferVec) (pos : Nat) (a : CArray) (ha0 : a.len = 0) :
    bufferVecCopyFromMem v pos a.data a.len 0 a.elemSize a.len =
      if v.segments.length = 1 then .ok v else .error .outOfRange := by
  have hv := v.length_bytes
  have hsum : (v.toBuffers.map (·.len)).sum < SizeT.modulus := by
    rw [sum_len_toBuffers]
    omega
  have hasum : (([⟨a.data, a.len⟩] : List Buffer).map (·.len)).sum = a.len := by simp
  have hmul : mulSz 0 a.elemSize = 0 := by
    rw [mulSz, Nat.zero_mul, Nat.zero_mod]
  rw [bufferVecCopyFromMem, ha0, hmul]
  split
  · next hone =>
      rw [bufferVecCopyVecEx_exempt ⟨rfl, by rw [length_toBuffers, hone], rfl, rfl⟩]
      change v.withBuffers v.toBuffers = _
      rw [BufferVec.withBuffers, dif_pos (by rw [bufferData_toBuffers])]
      simp only [bufferData_toBuffers]
  · next hone =>
      rw [bufferVecCopyVecEx_error (by simp [modulus_pos]) hsum]
      · rfl
      · rintro ⟨-, h, -⟩
        rw [length_toBuffers] at h
        exact hone h
      · refine Or.inl ⟨by simp [modulus_pos], ?_⟩
        simp

/-! ## Integers and byte arrays -/

/-- The memory of one `size`-byte integer. -/
def CArray.ofUInt (size value : Nat) (h0 : 0 < size) (h : size ≤ 16) : CArray where
  data := leBytes size value
  len := 1
  elemSize := size
  elemSize_pos := h0
  length_data := by rw [length_leBytes, Nat.one_mul]
  addressable := by
    have := SizeT.le_modulus
    rw [length_leBytes]
    omega

/-- The memory of a byte array. -/
def CArray.ofBytes (bytes : List UInt8) (h : 2 * bytes.length < SizeT.modulus) : CArray where
  data := bytes
  len := bytes.length
  elemSize := 1
  elemSize_pos := Nat.one_pos
  length_data := (Nat.mul_one _).symm
  addressable := h

omit [SizeT] in
theorem length_flatten_leBytes (size : Nat) (values : List UInt32) :
    (values.map fun v => leBytes size v.toNat).flatten.length = values.length * size := by
  induction values with
  | nil => simp
  | cons v values ih =>
      rw [List.map_cons, List.flatten_cons, List.length_append, length_leBytes, ih, List.length_cons,
        Nat.succ_mul, Nat.add_comm]

/-- A constant array of 32-bit integers. -/
def CArray.constantUInt32s (values : List UInt32) : CArray where
  data := ((values.take 32).map fun v => leBytes 4 v.toNat).flatten
  len := (values.take 32).length
  elemSize := 4
  elemSize_pos := Nat.succ_pos 3
  length_data := length_flatten_leBytes 4 _
  addressable := by
    have := SizeT.le_modulus
    have := List.length_take_le 32 values
    rw [length_flatten_leBytes]
    omega

/-- A constant byte array. -/
def CArray.constant (bytes : List UInt8) : CArray :=
  CArray.ofBytes (bytes.take 128) (addressable_take bytes)

theorem bufferVecCopyToUInt_eq (v : BufferVec) (pos : Nat) {size : Nat} (h0 : 0 < size)
    (h : size ≤ 16) :
    bufferVecCopyToUInt v pos size = (fetch v.bytes pos size).map leNat := by
  have hm := SizeT.le_modulus
  have heq := bufferVecCopyToMem_eq v pos (CArray.ofUInt size 0 h0 h) Nat.one_pos (by omega)
  simp only [CArray.ofUInt, Nat.le_refl, if_true, Nat.one_mul] at heq
  rw [bufferVecCopyToUInt, heq, fetch]
  split
  · next hin =>
      have hlen : (slice v.bytes pos size).length = size := length_slice hin.2
      have hover : overwrite (leBytes size 0) 0 (slice v.bytes pos size) =
          slice v.bytes pos size := by
        simp [overwrite, hlen]
      simp only [Except.map, hover]
      rfl
  · rfl

theorem bufferVecCopyFromUInt_eq (v : BufferVec) (pos source : Nat) {size : Nat}
    (h0 : 0 < size) (h : size ≤ 16) :
    bufferVecCopyFromUInt v pos size source = v.store pos (leBytes size source) :=
  bufferVecCopyFromMem_eq v pos (CArray.ofUInt size source h0 h) Nat.one_pos

theorem bufferVecCopyToString_eq (v : BufferVec) (pos : Nat) {dest : List UInt8} {n : Nat}
    (hdest : 2 * dest.length < SizeT.modulus) (hn : 0 < n) (hle : n ≤ dest.length) :
    bufferVecCopyToString v pos dest 0 n =
      (fetch v.bytes pos n).map fun bs => overwrite dest 0 bs := by
  have heq := bufferVecCopyToMem_eq v pos (CArray.ofBytes dest hdest) hn (by omega)
  simp only [CArray.ofBytes, hle, if_true, Nat.mul_one] at heq
  exact heq

theorem bufferVecCopyFromBytes_eq (v : BufferVec) (pos : Nat) {source : List UInt8}
    (hsource : 2 * source.length < SizeT.modulus) (h0 : source ≠ []) :
    bufferVecCopyFromMem v pos source source.length 0 1 source.length = v.store pos source :=
  bufferVecCopyFromMem_eq v pos (CArray.ofBytes source hsource) (List.length_pos_iff.mpr h0)

end

end RobotRaconteurLite

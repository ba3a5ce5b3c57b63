import RobotRaconteurLite.Message.InPlace
import RobotRaconteurLite.Proofs.Windows

/-!
# What a payload read copies

The payload of an element is what its declared size leaves behind its header, and
that difference is taken without a look at which of the two is larger. Where the
header is longer the difference wraps around, to a number far above any product of
a count and a size of sixteen bytes at most, and the check of that product fails.
-/

namespace RobotRaconteurLite

open OffsetReader Splice

/-- What a computation reads first is in its answer. -/
theorem read_first {α β : Type} {read : Cursor α} {rest : α → Cursor β} {o : Nat} {b : β}
    (field : β → α) (hrest : ∀ a, Answers (fun b => field b = a) (rest a))
    (h : StateT.run' (read >>= rest) o = .ok b) : ∃ o', read o = .ok (field b, o') := by
  obtain ⟨o₂, h⟩ := run'_eq_ok.mp h
  rw [bind_apply, bind_eq_ok] at h
  obtain ⟨⟨a, o₁⟩, hread, hb⟩ := h
  rw [hrest a o₁ b o₂ hb]
  exact ⟨o₁, hread⟩

section

variable [SizeT]

/-! ## The declared size -/

/-- A reader that a call has answered. -/
def MessageElementReader.Produced (r : MessageElementReader) : Prop :=
  (∃ er, messageEntryReaderBeginReadElements er = .ok r) ∨
    (∃ r₀, messageElementReaderBeginReadNestedElements r₀ = .ok r) ∨
      ∃ r₀, messageElementReaderMoveNext r₀ = .ok r

/-- The size in the reader is the one the element starts with. -/
theorem MessageElementReader.Produced.bufferCount {r : MessageElementReader} (h : r.Produced) :
    ∃ size : UInt32, ∃ o, messageReadCount r.buffer r.messageVersion r.bufferOffset = .ok (size, o) ∧
      r.bufferCount = size.toNat := by
  rcases h with ⟨er, h⟩ | ⟨r₀, h⟩ | ⟨r₀, h⟩
  · simp only [messageEntryReaderBeginReadElements, bind, bind_eq_ok, pure, Except.pure] at h
    obtain ⟨p, -, -, -, ⟨size, o⟩, hsize, -, -, heq⟩ := h
    injection heq with heq
    subst heq
    exact ⟨size, o, hsize, rfl⟩
  · simp only [messageElementReaderBeginReadNestedElements, bind, bind_eq_ok, pure, Except.pure] at h
    obtain ⟨p, -, -, -, -, -, ⟨size, o⟩, hsize, -, -, heq⟩ := h
    injection heq with heq
    subst heq
    exact ⟨size, o, hsize, rfl⟩
  · obtain ⟨size, o, hsize, -, -, rfl⟩ := messageElementReaderMoveNext_cases h
    exact ⟨size, o, hsize, rfl⟩

theorem messageElementReaderReadHeaderEx_elementSize {r : MessageElementReader}
    {header : MessageElementHeader} {p : MessageElementHeader × MessageElementBufferInfo}
    (h : messageElementReaderReadHeaderEx r header = .ok p) :
    ∃ o, messageReadCount r.buffer r.messageVersion r.bufferOffset = .ok (p.1.elementSize, o) := by
  rw [messageElementReaderReadHeaderEx] at h
  rw [messageReadCount]
  split at h
  · next h2 =>
      rw [if_pos h2]
      refine read_first (fun p => p.1.elementSize) (fun size => ?_) h
      repeat refine Answers.bind fun _ => ?_
      exact Answers.pure rfl
  · next h2 =>
      rw [if_neg h2]
      split at h
      · next h4 =>
          rw [if_pos h4]
          refine read_first (fun p => p.1.elementSize) (fun size => ?_) h
          repeat refine Answers.bind fun _ => ?_
          exact Answers.pure rfl
      · cases h

/-! ## The payload -/

/-- What the data of an element are: `count` elements of `size` bytes, from the end of the
header to the end of the element. -/
structure MessageElementReader.PayloadIs (r : MessageElementReader) (size start count : Nat) :
    Prop where
  start_eq : ∃ p, messageElementReaderReadHeaderEx r (MessageElementHeaderOf.zero (.null 0)) = .ok p ∧
    start = p.2.dataStartOffset ∧ start = r.bufferOffset + p.2.headerSize ∧
    count = p.1.dataCount.toNat
  stop_eq : start + count * size = r.bufferOffset + r.bufferCount
  inside : start ≤ r.buffer.bytes.length

theorem messageElementReaderGetDataInfo_payload (h64 : SizeT.modulus = 2 ^ 64)
    {r : MessageElementReader} (hr : r.Produced) {dataType : UInt16} {size start dataSize : Nat}
    {count : UInt32} (h0 : 0 < size) (h16 : size ≤ 16)
    (h : messageElementReaderGetDataInfo r dataType size = .ok (start, dataSize, count)) :
    r.PayloadIs size start count.toNat := by
  simp only [messageElementReaderGetDataInfo, bind, bind_eq_ok, failIf_eq_ok, pure,
    Except.pure] at h
  obtain ⟨p, hread, -, -, -, hproduct, heq⟩ := h
  injection heq with heq
  obtain ⟨rfl, hpair⟩ := Prod.mk.inj heq
  obtain ⟨-, rfl⟩ := Prod.mk.inj hpair
  obtain ⟨o, hfirst⟩ := messageElementReaderReadHeaderEx_elementSize hread
  obtain ⟨declared, o', hdeclared, hcount⟩ := hr.bufferCount
  rw [hfirst] at hdeclared
  cases hdeclared
  obtain ⟨hle, hin, hhs⟩ := messageElementReaderReadHeaderEx_moves h64 hread
  have hv := r.buffer.length_bytes
  rw [InBuffer] at hin
  rw [subSz_eq hle (by omega)] at hhs
  have hcount32 := p.1.dataCount.toNat_lt
  have hsize32 := p.1.elementSize.toNat_lt
  have hsmall : size * p.1.dataCount.toNat < 2 ^ 37 := by
    calc size * p.1.dataCount.toNat ≤ 16 * p.1.dataCount.toNat := Nat.mul_le_mul_right _ h16
      _ < 2 ^ 37 := by omega
  have hproduct' : size * p.1.dataCount.toNat = subSz p.1.elementSize.toNat p.2.headerSize := by
    by_contra hne
    refine hproduct ⟨by omega, ?_⟩
    rw [mulSz_eq (by omega)]
    exact hne
  have hheader : p.2.headerSize ≤ p.1.elementSize.toNat := by
    -- Otherwise the difference would wrap around.
    by_contra hlonger
    rw [subSz_wrap (by omega) (by omega)] at hproduct'
    omega
  rw [subSz_eq hheader (by omega)] at hproduct'
  refine ⟨⟨p, hread, rfl, by omega, rfl⟩, ?_, hin⟩
  rw [hcount, Nat.mul_comm]
  omega

/-- Exactly the payload was copied, to the start of a destination that has room for it. -/
structure MessageElementReader.CopiesPayload (r : MessageElementReader) (dest : CArray)
    (dest' : List UInt8) (start count : Nat) : Prop where
  payload : r.PayloadIs dest.elemSize start count
  fits : count ≤ dest.len
  bytes_there : (slice r.buffer.bytes start (count * dest.elemSize)).length = count * dest.elemSize
  copied : dest' = overwrite dest.data 0 (slice r.buffer.bytes start (count * dest.elemSize))

theorem bufferVecCopyToMem_eq_ok {v : BufferVec} {start count : Nat} {dest : CArray}
    {dest' : List UInt8} (hcount : count < SizeT.modulus)
    (h : bufferVecCopyToMem v start dest.data dest.len 0 dest.elemSize count = .ok dest') :
    count ≤ dest.len ∧
      (slice v.bytes start (count * dest.elemSize)).length = count * dest.elemSize ∧
      dest' = overwrite dest.data 0 (slice v.bytes start (count * dest.elemSize)) := by
  rcases Nat.eq_zero_or_pos count with rfl | hpos
  · rw [bufferVecCopyToMem_zero] at h
    split at h
    · cases h
      simp [slice, overwrite]
    · cases h
  · rw [bufferVecCopyToMem_eq v start dest hpos hcount] at h
    split at h
    · next hle =>
        obtain ⟨bs, hbs, rfl⟩ := map_eq_ok.mp h
        obtain ⟨-, hend, rfl⟩ := fetch_eq_ok hbs
        exact ⟨hle, length_slice hend, rfl⟩
    · cases h

/-- Whatever the bytes are, a payload read that succeeds copies the bytes between the end of
the header and the end of the element, and one that fails leaves the length as it was. -/
theorem readData_copiesPayload (h64 : SizeT.modulus = 2 ^ 64) (r : MessageElementReader)
    (hr : r.Produced) (dest : CArray) (destElemType : UInt16) (h16 : dest.elemSize ≤ 16) :
    (∀ dest' count, messageElementReaderReadDataEx r dest.data dest.len destElemType dest.elemSize =
      .ok (dest', count) → ∃ start, r.CopiesPayload dest dest' start count) ∧
    (∀ dest', dest.len = 1 →
      messageElementReaderReadDataScalarEx r dest.data destElemType dest.elemSize = .ok dest' →
        ∃ start, r.CopiesPayload dest dest' start 1) ∧
    ∀ e destLen', messageElementReaderReadDataExInPlace r dest.data dest.len destElemType
      dest.elemSize = (.error e, destLen') → destLen' = dest.len := by
  refine ⟨?_, ?_, ?_⟩
  · intro dest' count h
    simp only [messageElementReaderReadDataEx, bind, bind_eq_ok, pure, Except.pure] at h
    obtain ⟨⟨start, dataSize, dataCount⟩, hinfo, dest'', hcopy, heq⟩ := h
    injection heq with heq
    obtain ⟨rfl, rfl⟩ := Prod.mk.inj heq
    dsimp only at hcopy ⊢
    have hpayload := messageElementReaderGetDataInfo_payload h64 hr dest.elemSize_pos h16 hinfo
    have hcount32 := dataCount.toNat_lt
    obtain ⟨hfits, hthere, hcopied⟩ := bufferVecCopyToMem_eq_ok (by omega) hcopy
    exact ⟨start, hpayload, hfits, hthere, hcopied⟩
  · intro dest' hlen h
    simp only [messageElementReaderReadDataScalarEx, bind, bind_eq_ok, failIf_eq_ok, pure,
      Except.pure] at h
    obtain ⟨⟨start, dataSize, dataCount⟩, hinfo, -, hone, destVec, hcopy, heq⟩ := h
    injection heq with heq
    dsimp only at hone hcopy
    have hpayload := messageElementReaderGetDataInfo_payload h64 hr dest.elemSize_pos h16 hinfo
    obtain rfl : dataCount = 1 := not_not.mp hone
    -- The scalar is copied as an array of one element.
    have hmem : bufferVecCopyToMem r.buffer start dest.data dest.len 0 dest.elemSize 1 = .ok dest' := by
      rw [bufferVecCopyToMem, mulSz_eq (by omega), Nat.one_mul, hlen, hcopy, ← heq]
      rfl
    obtain ⟨hfits, hthere, hcopied⟩ := bufferVecCopyToMem_eq_ok (by omega) hmem
    exact ⟨start, hpayload, hfits, hthere, hcopied⟩
  · intro e destLen' h
    rw [messageElementReaderReadDataExInPlace] at h
    split at h
    · cases h
      rfl
    · split at h
      · cases h
        rfl
      · cases h

end

section

open Lp64

/-- A version 2 entry of one array of two bytes. -/
def twoBytesEntry : BufferVec :=
  ⟨[[40, 0, 0, 0, 1, 0, 0, 0, 0, 0, 0, 0, 0, 0, 0, 0, 0, 0, 0, 0, 1, 0,
      18, 0, 0, 0, 0, 0, 4, 0, 0, 0, 0, 0, 2, 0, 0, 0, 7, 9]], by decide⟩

theorem twoBytes_copied : ∃ start,
    (⟨twoBytesEntry, 22, 18, 0, 0, 1, 2⟩ : MessageElementReader).CopiesPayload
      (CArray.constant [0, 0]) [7, 9] start 2 := by
  have hopen : messageEntryReaderBeginReadElements ⟨twoBytesEntry, 0, 40, 0, 0, 0, 2⟩ =
      .ok ⟨twoBytesEntry, 22, 18, 0, 0, 1, 2⟩ := by decide +kernel
  exact (readData_copiesPayload rfl _ (.inl ⟨_, hopen⟩) (CArray.constant [0, 0]) 4 (by decide)).1
    [7, 9] 2 (by decide +kernel)

end

end RobotRaconteurLite

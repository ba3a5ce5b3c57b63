import RobotRaconteurLite.Proofs.Entries
import RobotRaconteurLite.Proofs.Windows

/-!
# Sizes that wrap

A reader compares the size an entry or an element declares with what it has. The
calls that go on to the next one compare it with the remainder, and no `size_t`
is too narrow for that. The calls that open an iteration add it to an offset
first. The sum of an offset in the buffer and of a size of 32 bits wraps where
`size_t` has 32 bits, and a size that wraps past the check is taken as it is.
-/

namespace RobotRaconteurLite

open OffsetReader

section

variable [SizeT] {offset count : Nat}

/-- The window ends inside `[offset, offset + count)` and is no longer than that. -/
def FitsIn (offset count start size : Nat) : Prop :=
  offset ≤ start + size ∧ start + size ≤ offset + count ∧ size ≤ count

/-- Every entry that an iteration reaches fits. -/
def EntryWindowsFit (offset count : Nat) (opened : Result MessageEntryReader) : Prop :=
  ∀ r₀, opened = .ok r₀ → ∀ n r, messageEntryReaderMoveNextTimes n r₀ = .ok r →
    FitsIn offset count r.bufferOffset r.bufferCount

/-- Every element that an iteration reaches fits. -/
def ElementWindowsFit (offset count : Nat) (opened : Result MessageElementReader) : Prop :=
  ∀ r₀, opened = .ok r₀ → ∀ n r, messageElementReaderMoveNextTimes n r₀ = .ok r →
    FitsIn offset count r.bufferOffset r.bufferCount

/-! ## Going on -/

/-- Window and remainder of the reader end at `stop`. -/
def MessageEntryReader.EndsAt (r : MessageEntryReader) (stop : Nat) : Prop :=
  r.bufferOffset + r.bufferCount + r.bufferRemaining = stop

/-- The same for elements. -/
def MessageElementReader.EndsAt (r : MessageElementReader) (stop : Nat) : Prop :=
  r.bufferOffset + r.bufferCount + r.bufferRemaining = stop

theorem messageEntryReaderMoveNext_fits {r r' : MessageEntryReader}
    (hstop : offset + count < SizeT.modulus) (hr : r.EndsAt (offset + count))
    (hle : offset ≤ r.bufferOffset + r.bufferCount) (h : messageEntryReaderMoveNext r = .ok r') :
    r'.EndsAt (offset + count) ∧ FitsIn offset count r'.bufferOffset r'.bufferCount := by
  obtain ⟨total, o, size, o', -, -, -, -, hrem, rfl⟩ := messageEntryReaderMoveNext_iff.mp h
  unfold MessageEntryReader.EndsAt at hr ⊢
  unfold FitsIn
  dsimp only
  rw [addSz_eq (by omega), subSz_eq hrem (by omega)]
  omega

theorem messageElementReaderMoveNext_fits {r r' : MessageElementReader}
    (hstop : offset + count < SizeT.modulus) (hr : r.EndsAt (offset + count))
    (hle : offset ≤ r.bufferOffset + r.bufferCount) (h : messageElementReaderMoveNext r = .ok r') :
    r'.EndsAt (offset + count) ∧ FitsIn offset count r'.bufferOffset r'.bufferCount := by
  obtain ⟨size, o', -, -, hrem, rfl⟩ := messageElementReaderMoveNext_cases h
  unfold MessageElementReader.EndsAt at hr ⊢
  unfold FitsIn
  dsimp only
  rw [addSz_eq (by omega), subSz_eq hrem (by omega)]
  omega

theorem messageEntryReaderMoveNextTimes_fits {n : Nat} {r r' : MessageEntryReader}
    (hstop : offset + count < SizeT.modulus) (hr : r.EndsAt (offset + count))
    (hfits : FitsIn offset count r.bufferOffset r.bufferCount)
    (h : messageEntryReaderMoveNextTimes n r = .ok r') :
    FitsIn offset count r'.bufferOffset r'.bufferCount := by
  induction n generalizing r with
  | zero =>
      cases h
      exact hfits
  | succ n ih =>
      simp only [messageEntryReaderMoveNextTimes, bind, bind_eq_ok] at h
      obtain ⟨r₁, hnext, htimes⟩ := h
      obtain ⟨hends, hfits₁⟩ := messageEntryReaderMoveNext_fits hstop hr hfits.1 hnext
      exact ih hends hfits₁ htimes

theorem messageElementReaderMoveNextTimes_fits {n : Nat} {r r' : MessageElementReader}
    (hstop : offset + count < SizeT.modulus) (hr : r.EndsAt (offset + count))
    (hfits : FitsIn offset count r.bufferOffset r.bufferCount)
    (h : messageElementReaderMoveNextTimes n r = .ok r') :
    r'.EndsAt (offset + count) ∧ FitsIn offset count r'.bufferOffset r'.bufferCount := by
  induction n generalizing r' with
  | zero =>
      cases h
      exact ⟨hr, hfits⟩
  | succ n ih =>
      simp only [messageElementReaderMoveNextTimes, bind, bind_eq_ok] at h
      obtain ⟨r₁, htimes, hnext⟩ := h
      obtain ⟨hends, hfits₁⟩ := ih htimes
      exact messageElementReaderMoveNext_fits hstop hends hfits₁.1 hnext

/-! ## Opening -/

/-- No first entry has a size that the check takes because the sum wrapped. -/
def NoEntryWraps (r : MessageReader) : Prop :=
  ∀ p, messageReaderReadHeaderEx r (MessageHeaderOf.zero (.null 0)) = .ok p →
    let o := addSz r.bufferOffset p.1.headerSize.toNat
    ∀ size o', messageReadCount r.buffer r.messageVersion o = .ok (size, o') →
      o + size.toNat < SizeT.modulus ∨ r.bufferCount < addSz o size.toNat

/-- No first element has a size that the check takes because the sum wrapped. Where the header
wrapped before and stops in front of the entry, the element is no longer than the entry. -/
def NoElementWraps (r : MessageEntryReader) : Prop :=
  ∀ p, messageEntryReaderReadHeaderEx r (MessageEntryHeaderOf.zero (.null 0)) = .ok p →
    p.1.elementCount ≠ 0 →
    let o := p.2.elementStartOffset
    ∀ size o', messageReadCount r.buffer r.messageVersion o = .ok (size, o') →
      o + size.toNat < r.bufferOffset + SizeT.modulus ∧
          (r.bufferOffset ≤ o ∨ size.toNat ≤ r.bufferCount) ∨
        r.bufferCount < addSz (subSz o r.bufferOffset) size.toNat

theorem messageReadCount_inside {v : BufferVec} {ver : UInt16} {o o' : Nat} {size : UInt32}
    (h : messageReadCount v ver o = .ok (size, o')) : o ≤ v.bytes.length := by
  have hmoves : Moves (fun _ => True) (messageReadCount v ver) fun _ => InBuffer v :=
    messageReadCount_moves
  obtain ⟨hle, hin⟩ := hmoves o size o' trivial h
  exact Nat.le_trans hle hin

/-- The reader that `begin_read_entries` opens for an entry of `size` bytes. -/
def openedEntryReader (r : MessageReader) (p : MessageHeader × MessageBufferInfo)
    (size : UInt32) : MessageEntryReader :=
  let o := addSz r.bufferOffset p.1.headerSize.toNat
  { buffer := r.buffer
    bufferOffset := addSz r.bufferOffset o
    bufferCount := size.toNat
    bufferRemaining := subSz (subSz r.bufferCount o) size.toNat
    currentEntry := 0
    entryCountOffset := p.2.entryCountOffset
    messageVersion := r.messageVersion }

/-- What `begin_read_entries` takes, wherever the reader starts. -/
theorem beginReadEntries_ok_iff {r : MessageReader} {er : MessageEntryReader} :
    messageReaderBeginReadEntries r = .ok er ↔
      ∃ p size o', messageReaderReadHeaderEx r (MessageHeaderOf.zero (.null 0)) = .ok p ∧
        messageReadCount r.buffer r.messageVersion
          (addSz r.bufferOffset p.1.headerSize.toNat) = .ok (size, o') ∧
        addSz (addSz r.bufferOffset p.1.headerSize.toNat) size.toNat ≤ r.bufferCount ∧
        er = openedEntryReader r p size := by
  simp only [messageReaderBeginReadEntries, bind, bind_eq_ok, failIf_eq_ok, pure, Except.pure]
  constructor
  · rintro ⟨p, hread, ⟨size, o'⟩, hsize, -, hfits, heq⟩
    cases heq
    exact ⟨p, size, o', hread, hsize, Nat.le_of_not_gt hfits, rfl⟩
  · rintro ⟨p, size, o', hread, hsize, hfits, rfl⟩
    exact ⟨p, hread, (size, o'), hsize, (), Nat.not_lt.mpr hfits, rfl⟩

/-- Where the sum does not wrap, the check is the one it is meant to be. -/
theorem openedEntryReader_endsAt {r : MessageReader} {p : MessageHeader × MessageBufferInfo}
    {size : UInt32} {o : Nat} (hin : r.bufferOffset + r.bufferCount ≤ r.buffer.bytes.length)
    (ho : o = addSz r.bufferOffset p.1.headerSize.toNat) (hle : o + size.toNat ≤ r.bufferCount) :
    (openedEntryReader r p size).EndsAt (r.bufferOffset + r.bufferCount) := by
  have hv := r.buffer.length_bytes
  unfold MessageEntryReader.EndsAt openedEntryReader
  dsimp only
  have hrest : subSz r.bufferCount o = r.bufferCount - o := subSz_eq (by omega) (by omega)
  rw [← ho, addSz_eq (by omega), hrest, subSz_eq (by omega) (by omega)]
  omega

theorem entryWindowsFit_iff {r : MessageReader}
    (hin : r.bufferOffset + r.bufferCount ≤ r.buffer.bytes.length) :
    EntryWindowsFit r.bufferOffset r.bufferCount (messageReaderBeginReadEntries r) ↔
      NoEntryWraps r := by
  have hv := r.buffer.length_bytes
  constructor
  · intro hwindows p hread o size o' hsize
    have hoffset := messageReadCount_inside hsize
    refine or_iff_not_imp_right.mpr fun hfits => ?_
    have hopen := beginReadEntries_ok_iff.mpr
      ⟨p, size, o', hread, hsize, Nat.le_of_not_gt hfits, rfl⟩
    obtain ⟨-, hend, -⟩ := hwindows _ hopen 0 _ rfl
    unfold openedEntryReader at hend
    dsimp only at hend
    rw [addSz_eq (by omega)] at hend
    omega
  · intro hwraps er hopen n er' htimes
    obtain ⟨p, size, o', hread, hsize, hfits, rfl⟩ := beginReadEntries_ok_iff.mp hopen
    have hlt := (hwraps p hread size o' hsize).resolve_right (Nat.not_lt.mpr hfits)
    rw [addSz_eq hlt] at hfits
    refine messageEntryReaderMoveNextTimes_fits (by omega)
      (openedEntryReader_endsAt hin rfl hfits) ?_ htimes
    unfold FitsIn openedEntryReader
    dsimp only
    rw [addSz_eq (by omega)]
    omega

/-- The reader that `begin_read_elements` opens for an element of `size` bytes. -/
def openedElementReader (r : MessageEntryReader)
    (p : MessageEntryHeader × MessageEntryBufferInfo) (size : UInt32) : MessageElementReader where
  buffer := r.buffer
  bufferOffset := p.2.elementStartOffset
  bufferCount := size.toNat
  bufferRemaining := subSz (subSz r.bufferCount p.2.headerSize) size.toNat
  currentElement := 0
  totalElements := p.1.elementCount.toNat
  messageVersion := r.messageVersion

/-- What `begin_read_elements` takes. -/
theorem beginReadElements_ok_iff {r : MessageEntryReader} {er : MessageElementReader} :
    messageEntryReaderBeginReadElements r = .ok er ↔
      ∃ p size o', messageEntryReaderReadHeaderEx r (MessageEntryHeaderOf.zero (.null 0)) = .ok p ∧
        p.1.elementCount ≠ 0 ∧
        messageReadCount r.buffer r.messageVersion p.2.elementStartOffset = .ok (size, o') ∧
        addSz (subSz p.2.elementStartOffset r.bufferOffset) size.toNat ≤ r.bufferCount ∧
        er = openedElementReader r p size := by
  simp only [messageEntryReaderBeginReadElements, bind, bind_eq_ok, failIf_eq_ok, pure, Except.pure]
  constructor
  · rintro ⟨p, hread, -, hsome, ⟨size, o'⟩, hsize, -, hfits, heq⟩
    cases heq
    exact ⟨p, size, o', hread, hsome, hsize, Nat.le_of_not_gt hfits, rfl⟩
  · rintro ⟨p, size, o', hread, hsome, hsize, hfits, rfl⟩
    exact ⟨p, hread, (), hsome, (size, o'), hsize, (), Nat.not_lt.mpr hfits, rfl⟩

theorem messageEntryReaderReadHeaderEx_headerSpan {r : MessageEntryReader}
    {header : MessageEntryHeader} {p : MessageEntryHeader × MessageEntryBufferInfo}
    (h : messageEntryReaderReadHeaderEx r header = .ok p) :
    p.2.headerSize = subSz p.2.elementStartOffset r.bufferOffset := by
  rw [messageEntryReaderReadHeaderEx] at h
  split at h
  · obtain ⟨o', h⟩ := run'_eq_ok.mp h
    refine (show Answers (fun p => p.2.headerSize = subSz p.2.elementStartOffset r.bufferOffset) _
      from ?_) _ _ _ h
    repeat refine Answers.bind fun _ => ?_
    exact Answers.pure rfl
  · split at h
    · obtain ⟨o', h⟩ := run'_eq_ok.mp h
      refine (show Answers (fun p => p.2.headerSize = subSz p.2.elementStartOffset r.bufferOffset) _
        from ?_) _ _ _ h
      repeat refine Answers.bind fun _ => ?_
      exact Answers.pure rfl
    · cases h

/-- A wrapped difference does no harm in a sum that does not wrap behind it. -/
theorem addSz_subSz_le_iff {o size : Nat} (hrange : 2 * (offset + count) < SizeT.modulus)
    (hlt : o + size < offset + SizeT.modulus) :
    addSz (subSz o offset) size ≤ count ↔ offset ≤ o + size ∧ o + size ≤ offset + count := by
  rw [addSz, subSz, Nat.mod_add_mod, Nat.mod_eq_of_lt (by omega : offset < SizeT.modulus)]
  rcases Nat.lt_or_ge (o + size) offset with hbefore | hbehind
  · rw [Nat.mod_eq_of_lt (by omega)]
    omega
  · have hsum : o + (SizeT.modulus - offset) + size = o + size - offset + SizeT.modulus := by omega
    rw [hsum, Nat.add_mod_right, Nat.mod_eq_of_lt (by omega)]
    omega

theorem subSz_subSz_eq {o : Nat} (hrange : offset + count < SizeT.modulus)
    (ho : o ≤ offset + count) : subSz count (subSz o offset) = offset + count - o := by
  rcases Nat.lt_or_ge o offset with hbefore | hbehind
  · have hdiff : subSz o offset = o + (SizeT.modulus - offset) := by
      rw [subSz, Nat.mod_eq_of_lt (by omega : offset < SizeT.modulus), Nat.mod_eq_of_lt (by omega)]
    rw [hdiff, subSz, Nat.mod_eq_of_lt (by omega : o + (SizeT.modulus - offset) < SizeT.modulus),
      Nat.mod_eq_of_lt (by omega)]
    omega
  · rw [subSz_eq hbehind (by omega), subSz_eq (by omega) (by omega)]
    omega

/-- Where the element ends inside the entry, so does what is left behind it. -/
theorem openedElementReader_endsAt {r : MessageEntryReader}
    {p : MessageEntryHeader × MessageEntryBufferInfo} {size : UInt32}
    (hrange : r.bufferOffset + r.bufferCount < SizeT.modulus)
    (hheader : p.2.headerSize = subSz p.2.elementStartOffset r.bufferOffset)
    (hle : p.2.elementStartOffset + size.toNat ≤ r.bufferOffset + r.bufferCount) :
    (openedElementReader r p size).EndsAt (r.bufferOffset + r.bufferCount) := by
  unfold MessageElementReader.EndsAt openedElementReader
  dsimp only
  rw [hheader, subSz_subSz_eq hrange (by omega), subSz_eq (by omega) (by omega)]
  omega

theorem elementWindowsFit_iff {r : MessageEntryReader}
    (hin : r.bufferOffset + r.bufferCount ≤ r.buffer.bytes.length) :
    ElementWindowsFit r.bufferOffset r.bufferCount (messageEntryReaderBeginReadElements r) ↔
      NoElementWraps r := by
  have hv := r.buffer.length_bytes
  have hmod := SizeT.le_modulus
  constructor
  · intro hwindows p hread hsome o size o' hsize
    refine or_iff_not_imp_right.mpr fun hfits => ?_
    have hopen := beginReadElements_ok_iff.mpr
      ⟨p, size, o', hread, hsome, hsize, Nat.le_of_not_gt hfits, rfl⟩
    obtain ⟨-, hend, hshort⟩ := hwindows _ hopen 0 _ rfl
    have hend' : o + size.toNat ≤ r.bufferOffset + r.bufferCount := hend
    exact ⟨by omega, Or.inr hshort⟩
  · intro hwraps er hopen n er' htimes
    obtain ⟨p, size, o', hread, hsome, hsize, hfits, rfl⟩ := beginReadElements_ok_iff.mp hopen
    have hoffset := messageReadCount_inside hsize
    have hsize32 := size.toNat_lt
    obtain ⟨hlt, hshort⟩ := (hwraps p hread hsome size o' hsize).resolve_right (Nat.not_lt.mpr hfits)
    obtain ⟨hfrom, hto⟩ := (addSz_subSz_le_iff (by omega) hlt).mp hfits
    have hends := openedElementReader_endsAt (by omega)
      (messageEntryReaderReadHeaderEx_headerSpan hread) hto
    refine (messageElementReaderMoveNextTimes_fits (by omega) hends ⟨hfrom, hto, ?_⟩ htimes).2
    change size.toNat ≤ r.bufferCount
    omega

/-- A size that is declared is taken only where it fits. Where a reader goes on, that holds
always, and where it starts, it holds as far as no sum wraps past the check. -/
theorem declaredSizes_fit_iff :
    (∀ r : MessageReader, r.bufferOffset + r.bufferCount ≤ r.buffer.bytes.length →
      (EntryWindowsFit r.bufferOffset r.bufferCount (messageReaderBeginReadEntries r) ↔
        NoEntryWraps r)) ∧
    (∀ r r' : MessageEntryReader,
      r.bufferOffset + (r.bufferCount + r.bufferRemaining) ≤ r.buffer.bytes.length →
      messageEntryReaderMoveNext r = .ok r' →
      FitsIn r.bufferOffset (r.bufferCount + r.bufferRemaining) r'.bufferOffset r'.bufferCount) ∧
    (∀ r : MessageEntryReader, r.bufferOffset + r.bufferCount ≤ r.buffer.bytes.length →
      (ElementWindowsFit r.bufferOffset r.bufferCount (messageEntryReaderBeginReadElements r) ↔
        NoElementWraps r)) ∧
    ∀ r r' : MessageElementReader,
      r.bufferOffset + (r.bufferCount + r.bufferRemaining) ≤ r.buffer.bytes.length →
      messageElementReaderMoveNext r = .ok r' →
      FitsIn r.bufferOffset (r.bufferCount + r.bufferRemaining) r'.bufferOffset r'.bufferCount := by
  refine ⟨fun r hin => entryWindowsFit_iff hin, fun r r' hin h => ?_,
    fun r hin => elementWindowsFit_iff hin, fun r r' hin h => ?_⟩
  · have hv := r.buffer.length_bytes
    exact (messageEntryReaderMoveNext_fits (by omega) (Nat.add_assoc _ _ _)
      (Nat.le_add_right _ _) h).2
  · have hv := r.buffer.length_bytes
    exact (messageElementReaderMoveNext_fits (by omega) (Nat.add_assoc _ _ _)
      (Nat.le_add_right _ _) h).2

end

section

open Ilp32

/-- A version 4 message of twenty bytes with one entry, which starts with the given bytes. -/
def twentyBytes (b₀ b₁ b₂ b₃ b₄ : UInt8) : BufferVec :=
  ⟨[[0x52, 0x52, 0x41, 0x43, 20, 0, 0, 0, 4, 0, 12, 0, b₀, b₁, b₂, b₃, b₄, 0, 0, 0]],
    (by decide : 2 * 20 < 2 ^ 32)⟩

/-- A version 4 entry of fourteen bytes with one element, which starts with the given bytes. -/
def fourteenBytes (b₀ b₁ b₂ b₃ b₄ : UInt8) : BufferVec :=
  ⟨[[14, 0, 1, 0, 1, b₀, b₁, b₂, b₃, b₄, 0, 0, 0, 0]], (by decide : 2 * 14 < 2 ^ 32)⟩

/-- Two entries of six bytes behind their number, or two elements. -/
def twiceSixBytes : BufferVec := ⟨[[2, 0, 6, 0, 0, 0, 0, 0, 6, 0, 0, 0, 0, 0]], by decide⟩

/-- With a declared size that does not wrap everything fits. -/
theorem smallSizes_fit :
    EntryWindowsFit 0 20 (messageReaderBeginReadEntries ⟨twentyBytes 8 0 0 0 0, 0, 20, 4⟩) ∧
      FitsIn 2 12 8 6 ∧
      ElementWindowsFit 0 14
        (messageEntryReaderBeginReadElements ⟨fourteenBytes 9 0 0 0 0, 0, 14, 0, sizeTMax, 0, 4⟩) ∧
      FitsIn 2 12 8 6 := by
  refine ⟨?_, ?_, ?_, ?_⟩
  · refine (declaredSizes_fit_iff.1 ⟨twentyBytes 8 0 0 0 0, 0, 20, 4⟩ (by decide)).mpr ?_
    intro p hread o size o' hsize
    have hheader : (messageReaderReadHeaderEx ⟨twentyBytes 8 0 0 0 0, 0, 20, 4⟩
        (MessageHeaderOf.zero (.null 0))).map (fun p => addSz 0 p.1.headerSize.toNat) =
        .ok 12 := by decide +kernel
    rw [hread] at hheader
    have ho : o = 12 := Except.ok.inj hheader
    have hcount : messageReadCount (twentyBytes 8 0 0 0 0) 4 12 = .ok (8, 13) := by decide +kernel
    rw [ho] at hsize ⊢
    obtain ⟨rfl, -⟩ := Prod.mk.inj (Except.ok.inj (hcount.symm.trans hsize))
    exact Or.inl (by decide)
  · exact declaredSizes_fit_iff.2.1 ⟨twiceSixBytes, 2, 6, 6, 0, 0, 2⟩
      ⟨twiceSixBytes, 8, 6, 0, 0, 1, 2⟩ (by decide) (by decide +kernel)
  · refine (declaredSizes_fit_iff.2.2.1 ⟨fourteenBytes 9 0 0 0 0, 0, 14, 0, sizeTMax, 0, 4⟩
      (by decide)).mpr ?_
    intro p hread hsome o size o' hsize
    have hheader : (messageEntryReaderReadHeaderEx
        ⟨fourteenBytes 9 0 0 0 0, 0, 14, 0, sizeTMax, 0, 4⟩ (MessageEntryHeaderOf.zero (.null 0))).map
        (fun p => p.2.elementStartOffset) = .ok 5 := by decide +kernel
    rw [hread] at hheader
    have ho : o = 5 := Except.ok.inj hheader
    have hcount : messageReadCount (fourteenBytes 9 0 0 0 0) 4 5 = .ok (9, 6) := by decide +kernel
    rw [ho] at hsize ⊢
    obtain ⟨rfl, -⟩ := Prod.mk.inj (Except.ok.inj (hcount.symm.trans hsize))
    exact Or.inl (by decide)
  · exact declaredSizes_fit_iff.2.2.2 ⟨twiceSixBytes, 2, 6, 6, 0, 2, 2⟩
      ⟨twiceSixBytes, 8, 6, 0, 1, 2, 2⟩ (by decide) (by decide +kernel)

/-- An entry of all but one of the sizes there are is taken in twenty bytes, and such an element
in fourteen. -/
theorem hugeSizes_taken :
    messageReaderBeginReadEntries ⟨twentyBytes 254 255 255 255 255, 0, 20, 4⟩ =
        .ok ⟨twentyBytes 254 255 255 255 255, 12, 4294967295, 9, 4294967295, 0, 4⟩ ∧
      ¬ EntryWindowsFit 0 20
        (messageReaderBeginReadEntries ⟨twentyBytes 254 255 255 255 255, 0, 20, 4⟩) ∧
      messageEntryReaderBeginReadElements
          ⟨fourteenBytes 254 255 255 255 255, 0, 14, 0, 4294967295, 0, 4⟩ =
        .ok ⟨fourteenBytes 254 255 255 255 255, 5, 4294967295, 10, 0, 1, 4⟩ ∧
      ¬ ElementWindowsFit 0 14 (messageEntryReaderBeginReadElements
        ⟨fourteenBytes 254 255 255 255 255, 0, 14, 0, 4294967295, 0, 4⟩) := by
  have hentry : messageReaderBeginReadEntries ⟨twentyBytes 254 255 255 255 255, 0, 20, 4⟩ =
      .ok ⟨twentyBytes 254 255 255 255 255, 12, 4294967295, 9, 4294967295, 0, 4⟩ := by
    decide +kernel
  have helement : messageEntryReaderBeginReadElements
      ⟨fourteenBytes 254 255 255 255 255, 0, 14, 0, 4294967295, 0, 4⟩ =
      .ok ⟨fourteenBytes 254 255 255 255 255, 5, 4294967295, 10, 0, 1, 4⟩ := by
    decide +kernel
  refine ⟨hentry, fun h => ?_, helement, fun h => ?_⟩
  · obtain ⟨-, hend, -⟩ := h _ hentry 0 _ rfl
    revert hend
    decide
  · obtain ⟨-, hend, -⟩ := h _ helement 0 _ rfl
    revert hend
    decide

end

end RobotRaconteurLite

import RobotRaconteurLite.Proofs.HeaderMoves

/-!
# Where element windows lie

An element reader is a window `[buffer_offset, buffer_offset + buffer_count)`
of the buffer with `buffer_remaining` more bytes behind it. The invariant of an
iteration is that window and remainder end at a fixed place, the end of the
window the iteration was opened from: a step moves the window over its own
length and takes the next length out of the remainder.

Opening an iteration establishes the invariant when the parent's header fits
its window. An entry reader checks that. A nested element reader subtracts the
header size from the window first and compares then, in unsigned arithmetic, so
a window shorter than its own header passes the check and the iteration starts
behind the parent.
-/

namespace RobotRaconteurLite

open OffsetReader

section

variable [SizeT]

/-- The reader after `n` more calls of `move_next`. -/
def messageElementReaderMoveNextTimes :
    Nat → MessageElementReader → Result MessageElementReader
  | 0, r => .ok r
  | n + 1, r => do
      let r ← messageElementReaderMoveNextTimes n r
      messageElementReaderMoveNext r

/-- Window and remainder lie inside `[offset, offset + count)`. -/
def MessageElementReader.Inside (r : MessageElementReader) (offset count : Nat) : Prop :=
  offset ≤ r.bufferOffset ∧
    r.bufferOffset + r.bufferCount + r.bufferRemaining ≤ offset + count

instance (r : MessageElementReader) (offset count : Nat) :
    Decidable (r.Inside offset count) :=
  inferInstanceAs (Decidable (_ ∧ _))

/-- Every window of an iteration that was opened lies inside the parent, and
each lies behind all the ones before it, the next one right behind it. -/
def WindowsInside (offset count : Nat) (opened : Result MessageElementReader) : Prop :=
  ∀ r₀, opened = .ok r₀ → ∀ n r, messageElementReaderMoveNextTimes n r₀ = .ok r →
    r.Inside offset count ∧
    (∀ r', messageElementReaderMoveNext r = .ok r' →
      r'.bufferOffset = r.bufferOffset + r.bufferCount) ∧
    ∀ m r', m < n → messageElementReaderMoveNextTimes m r₀ = .ok r' →
      r'.bufferOffset + r'.bufferCount ≤ r.bufferOffset

/-- The element's header, as its own fields declare it, is no longer than the
window. -/
def ElementHeaderFits (r : MessageElementReader) : Prop :=
  ∀ p, messageElementReaderReadHeaderEx r (MessageElementHeaderOf.zero (.null 0)) = .ok p →
    p.2.headerSize ≤ r.bufferCount

/-! ## The invariant of an iteration -/

/-- Window and remainder end at `stop`. -/
structure WindowEnds (stop : Nat) (r : MessageElementReader) : Prop where
  offset_le : InBuffer r.buffer r.bufferOffset
  count_lt : r.bufferCount < 2 ^ 32
  remaining_lt : r.bufferRemaining < SizeT.modulus
  ends : r.bufferOffset + r.bufferCount + r.bufferRemaining = stop

/-- What a successful `move_next` did. -/
theorem messageElementReaderMoveNext_eq {r : MessageElementReader} {size : UInt32} {o : Nat}
    (hread : messageReadCount r.buffer r.messageVersion (addSz r.bufferOffset r.bufferCount) =
      .ok (size, o)) (hmore : addSz r.currentElement 1 < r.totalElements)
    (hle : size.toNat ≤ r.bufferRemaining) :
    messageElementReaderMoveNext r = .ok { r with
      bufferOffset := addSz r.bufferOffset r.bufferCount
      bufferCount := size.toNat
      bufferRemaining := subSz r.bufferRemaining size.toNat
      currentElement := addSz r.currentElement 1 } := by
  have hfits : ¬ r.bufferRemaining < size.toNat := Nat.not_lt.mpr hle
  simp only [messageElementReaderMoveNext, bind, Except.bind, failIf, if_neg (not_not.mpr hmore),
    hread, if_neg hfits, pure, Except.pure]

theorem messageElementReaderMoveNext_cases {r r' : MessageElementReader}
    (h : messageElementReaderMoveNext r = .ok r') :
    ∃ size : UInt32, ∃ o' : Nat,
      messageReadCount r.buffer r.messageVersion (addSz r.bufferOffset r.bufferCount) =
        .ok (size, o') ∧
      addSz r.currentElement 1 < r.totalElements ∧ size.toNat ≤ r.bufferRemaining ∧
      r' = { r with
        bufferOffset := addSz r.bufferOffset r.bufferCount
        bufferCount := size.toNat
        bufferRemaining := subSz r.bufferRemaining size.toNat
        currentElement := addSz r.currentElement 1 } := by
  simp only [messageElementReaderMoveNext, bind, bind_eq_ok, failIf_eq_ok, pure,
    Except.pure] at h
  obtain ⟨-, hmore, ⟨size, o'⟩, hsize, -, hrem, heq⟩ := h
  injection heq with heq
  dsimp only at hrem
  exact ⟨size, o', hsize, by omega, by omega, heq.symm⟩

theorem WindowEnds.moveNext (h64 : SizeT.modulus = 2 ^ 64) {stop : Nat}
    {r r' : MessageElementReader} (hr : WindowEnds stop r)
    (h : messageElementReaderMoveNext r = .ok r') :
    WindowEnds stop r' ∧ r'.bufferOffset = r.bufferOffset + r.bufferCount := by
  obtain ⟨size, o', hsize, -, hrem, rfl⟩ := messageElementReaderMoveNext_cases h
  have hv := r.buffer.length_bytes
  have hoff := hr.offset_le
  have hcount := hr.count_lt
  have hremlt := hr.remaining_lt
  have hends := hr.ends
  rw [InBuffer] at hoff
  rw [addSz_eq (by omega)] at hsize ⊢
  have hsize32 := size.toNat_lt
  have hmoves : Moves (fun _ => True) (messageReadCount r.buffer r.messageVersion)
      fun _ => InBuffer r.buffer := messageReadCount_moves
  obtain ⟨hle, hin⟩ := hmoves _ _ _ trivial hsize
  rw [InBuffer] at hin
  refine ⟨⟨?_, hsize32, subSz_lt _ _, ?_⟩, rfl⟩
  · change r.bufferOffset + r.bufferCount ≤ r.buffer.bytes.length
    omega
  · dsimp only
    rw [subSz_eq hrem hremlt]
    omega

theorem WindowEnds.moveNextTimes (h64 : SizeT.modulus = 2 ^ 64) {stop : Nat}
    {r₀ : MessageElementReader} (h₀ : WindowEnds stop r₀) :
    ∀ {n : Nat} {r : MessageElementReader},
      messageElementReaderMoveNextTimes n r₀ = .ok r →
      WindowEnds stop r ∧ r₀.bufferOffset ≤ r.bufferOffset ∧
        ∀ m r', m < n → messageElementReaderMoveNextTimes m r₀ = .ok r' →
          r'.bufferOffset + r'.bufferCount ≤ r.bufferOffset := by
  intro n
  induction n with
  | zero =>
      intro r h
      injection h with h
      subst h
      exact ⟨h₀, Nat.le_refl _, fun m _ hm => absurd hm (by omega)⟩
  | succ n ih =>
      intro r h
      simp only [messageElementReaderMoveNextTimes, bind, bind_eq_ok] at h
      obtain ⟨r₁, hr₁, hnext⟩ := h
      obtain ⟨h₁, hle, hbefore⟩ := ih hr₁
      obtain ⟨hr, hoff⟩ := h₁.moveNext h64 hnext
      refine ⟨hr, by omega, ?_⟩
      intro m r' hm hr'
      rcases Nat.lt_or_ge m n with hlt | hge
      · have := hbefore m r' hlt hr'
        omega
      · obtain rfl : m = n := by omega
        rw [hr₁] at hr'
        injection hr' with hr'
        subst hr'
        omega

/-- An iteration that starts with the invariant keeps every promise. -/
theorem WindowEnds.windowsInside (h64 : SizeT.modulus = 2 ^ 64) {offset count : Nat}
    {r₀ : MessageElementReader} (h₀ : WindowEnds (offset + count) r₀)
    (hle : offset ≤ r₀.bufferOffset) : WindowsInside offset count (.ok r₀) := by
  intro r heq n r' h
  injection heq with heq
  subst heq
  obtain ⟨hr, hoff, hbefore⟩ := h₀.moveNextTimes h64 h
  refine ⟨⟨by omega, Nat.le_of_eq hr.ends⟩, ?_, hbefore⟩
  intro r'' hnext
  exact (hr.moveNext h64 hnext).2

/-! ## Opening an iteration -/

theorem beginReadElements_windowEnds (h64 : SizeT.modulus = 2 ^ 64) {r : MessageEntryReader}
    {r₀ : MessageElementReader} (hcount : r.bufferCount < SizeT.modulus)
    (h : messageEntryReaderBeginReadElements r = .ok r₀) :
    WindowEnds (r.bufferOffset + r.bufferCount) r₀ ∧ r.bufferOffset ≤ r₀.bufferOffset := by
  simp only [messageEntryReaderBeginReadElements, bind, bind_eq_ok, failIf_eq_ok, pure,
    Except.pure] at h
  obtain ⟨p, hread, -, -, ⟨size, o'⟩, hsize, -, hfits, heq⟩ := h
  obtain ⟨hle, hin, hhs⟩ := messageEntryReaderReadHeaderEx_moves h64 hread
  have hv := r.buffer.length_bytes
  have hin' := hin
  rw [InBuffer] at hin'
  have hsize32 := size.toNat_lt
  dsimp only at hfits
  rw [subSz_eq hle (by omega)] at hfits hhs
  rw [addSz_eq (by omega)] at hfits
  injection heq with heq
  subst heq
  refine ⟨⟨hin, hsize32, subSz_lt _ _, ?_⟩, hle⟩
  dsimp only
  rw [hhs, subSz_eq (by omega) hcount, subSz_eq (by omega) (by omega)]
  omega

/-- What a successful `begin_read_nested_elements` did. -/
theorem beginReadNestedElements_cases {r r₀ : MessageElementReader}
    (h : messageElementReaderBeginReadNestedElements r = .ok r₀) :
    ∃ p : MessageElementHeader × MessageElementBufferInfo, ∃ size : UInt32,
      messageElementReaderReadHeaderEx r (MessageElementHeaderOf.zero (.null 0)) = .ok p ∧
      size.toNat ≤ subSz r.bufferCount p.2.headerSize ∧
      r₀ = {
        buffer := r.buffer
        bufferOffset := p.2.dataStartOffset
        bufferCount := size.toNat
        bufferRemaining := subSz (subSz r.bufferCount p.2.headerSize) size.toNat
        currentElement := 0
        totalElements := p.1.dataCount.toNat
        messageVersion := r.messageVersion } := by
  simp only [messageElementReaderBeginReadNestedElements, bind, bind_eq_ok, failIf_eq_ok,
    pure, Except.pure] at h
  obtain ⟨p, hread, -, -, -, -, ⟨size, o'⟩, -, -, hfits, heq⟩ := h
  injection heq with heq
  dsimp only at hfits
  exact ⟨p, size, hread, by omega, heq.symm⟩

theorem beginReadNestedElements_windowEnds (h64 : SizeT.modulus = 2 ^ 64)
    {r r₀ : MessageElementReader} (hcount : r.bufferCount < SizeT.modulus)
    (hfits : ElementHeaderFits r)
    (h : messageElementReaderBeginReadNestedElements r = .ok r₀) :
    WindowEnds (r.bufferOffset + r.bufferCount) r₀ ∧ r.bufferOffset ≤ r₀.bufferOffset := by
  obtain ⟨p, size, hread, hsize, rfl⟩ := beginReadNestedElements_cases h
  obtain ⟨hle, hin, hhs⟩ := messageElementReaderReadHeaderEx_moves h64 hread
  have hfit := hfits p hread
  have hv := r.buffer.length_bytes
  have hin' := hin
  rw [InBuffer] at hin'
  have hsize32 := size.toNat_lt
  rw [subSz_eq hle (by omega)] at hhs
  rw [subSz_eq hfit hcount] at hsize
  refine ⟨⟨hin, hsize32, subSz_lt _ _, ?_⟩, hle⟩
  dsimp only
  rw [subSz_eq hfit hcount, subSz_eq hsize (by omega)]
  omega

/-- Elements opened from an entry always stay inside it. Elements nested in an
element stay inside it exactly when its header does. -/
theorem elementWindows_inside_iff (h64 : SizeT.modulus = 2 ^ 64) :
    (∀ r : MessageEntryReader, r.bufferCount < SizeT.modulus →
      WindowsInside r.bufferOffset r.bufferCount (messageEntryReaderBeginReadElements r)) ∧
    ∀ r r₀ : MessageElementReader, r.bufferCount < SizeT.modulus →
      messageElementReaderBeginReadNestedElements r = .ok r₀ →
      (WindowsInside r.bufferOffset r.bufferCount
        (messageElementReaderBeginReadNestedElements r) ↔ ElementHeaderFits r) := by
  refine ⟨?_, ?_⟩
  · intro r hcount r₀ hopen
    obtain ⟨hends, hle⟩ := beginReadElements_windowEnds h64 hcount hopen
    exact hends.windowsInside h64 hle r₀ rfl
  · intro r r₀ hcount hopen
    constructor
    · intro hin p hread
      -- The first window starts where the header stops.
      obtain ⟨p', size, hread', -, rfl⟩ := beginReadNestedElements_cases hopen
      rw [hread] at hread'
      injection hread' with hread'
      subst hread'
      obtain ⟨hle, hbuf, hhs⟩ := messageElementReaderReadHeaderEx_moves h64 hread
      obtain ⟨⟨-, hstop⟩, -⟩ := hin _ hopen 0 _ rfl
      have hv := r.buffer.length_bytes
      rw [InBuffer] at hbuf
      rw [subSz_eq hle (by omega)] at hhs
      dsimp only at hstop
      omega
    · intro hfits
      rw [hopen]
      obtain ⟨hends, hle⟩ := beginReadNestedElements_windowEnds h64 hcount hfits hopen
      exact hends.windowsInside h64 hle

end

section

open Lp64

/-- A version 2 entry of one element that declares ten bytes, six fewer than its
own header has, and nests an element. -/
def shortElementEntry : BufferVec :=
  ⟨[[42, 0, 0, 0, 1, 0, 0, 0, 0, 0, 0, 0, 0, 0, 0, 0, 0, 0, 0, 0, 1, 0,
      10, 0, 0, 0, 0, 0, 101, 0, 0, 0, 0, 0, 1, 0, 0, 0, 4, 0, 0, 0]], by decide⟩

/-- The nested iteration of that element starts six bytes behind the element. -/
theorem shortElementEntry_nested_outside :
    ∃ r₁ r₂ : MessageElementReader,
      messageEntryReaderBeginReadElements ⟨shortElementEntry, 0, 42, 0, 0, 0, 2⟩ = .ok r₁ ∧
      messageElementReaderBeginReadNestedElements r₁ = .ok r₂ ∧
      r₁.bufferOffset + r₁.bufferCount = 32 ∧ r₂.bufferOffset = 38 ∧
      ¬ WindowsInside r₁.bufferOffset r₁.bufferCount
        (messageElementReaderBeginReadNestedElements r₁) := by
  have hopen : messageElementReaderBeginReadNestedElements
      ⟨shortElementEntry, 22, 10, 10, 0, 1, 2⟩ =
      .ok ⟨shortElementEntry, 38, 4, 2 ^ 64 - 10, 0, 1, 2⟩ := by decide +kernel
  refine ⟨⟨shortElementEntry, 22, 10, 10, 0, 1, 2⟩,
    ⟨shortElementEntry, 38, 4, 2 ^ 64 - 10, 0, 1, 2⟩, by decide +kernel, hopen, rfl, rfl, ?_⟩
  intro h
  obtain ⟨hin, -⟩ := h _ hopen 0 _ rfl
  revert hin
  decide

/-- With a declared size of twenty bytes the same element keeps its child. -/
theorem shortElementEntry_nested_inside :
    WindowsInside 22 20 (messageElementReaderBeginReadNestedElements
      ⟨shortElementEntry, 22, 20, 0, 0, 1, 2⟩) := by
  refine ((elementWindows_inside_iff rfl).2
    ⟨shortElementEntry, 22, 20, 0, 0, 1, 2⟩ ⟨shortElementEntry, 38, 4, 0, 0, 1, 2⟩
    (by decide) (by decide +kernel)).mpr ?_
  intro p hp
  have hsize : (messageElementReaderReadHeaderEx
      ⟨shortElementEntry, 22, 20, 0, 0, 1, 2⟩ (MessageElementHeaderOf.zero (.null 0))).map
      (fun p => p.2.headerSize) = .ok 16 := by decide +kernel
  rw [hp] at hsize
  injection hsize with hsize
  dsimp only at hsize ⊢
  omega

end

end RobotRaconteurLite

import RobotRaconteurLite.Lib.CallSequence
import RobotRaconteurLite.Message.Session
import RobotRaconteurLite.Proofs.WriterCalls

/-!
# The range of a writer

`message_writer_init` is given an offset and a count, and each writer carries
what is left of them. No call looks at the count, so a write ends where the
buffer ends. What keeps it in the range is that the caller writes no more than
the count says, and closes what was begun.
-/

namespace RobotRaconteurLite

open OffsetWriter CallSequence LittleEndian

section

variable [SizeT]

/-- A session, and what the calls so far have derived: the entry writer by a begun message,
an entry that was begun, the element writers by begun entries and nested elements, and the
ones with a nested element begun in them. -/
structure WriteProgress where
  session : WriteSession
  entry : Bool
  entryBegun : Bool
  element : Nat → Bool
  nestedBegun : Nat → Bool

/-- Nothing is derived from the message writer yet. -/
def WriteProgress.start (s : WriteSession) : WriteProgress :=
  ⟨s, false, false, fun _ => false, fun _ => false⟩

/-- What a successful call derives. -/
def WriteProgress.derive (p : WriteProgress) : WriteCall → WriteProgress
  | .beginMessage .. => { p with entry := true }
  | .beginEntry _ slot => { p with
      entryBegun := true
      element := fun i => if i = slot then true else p.element i }
  | .beginNestedElement slot _ nested => { p with
      element := fun i => if i = nested then true else p.element i
      nestedBegun := fun i => if i = slot then true else p.nestedBegun i }
  | _ => p

def WriteProgress.step (p : WriteProgress) (call : WriteCall) :
    (Result Unit × List UInt8) × WriteProgress :=
  let (out, s) := p.session.step call
  match out.1 with
  | .ok () => (out, { p.derive call with session := s })
  | .error _ => (out, { p with session := s })

/-- The range that ends at `hi` has room for what a call writes, or ends no earlier than the
buffer. -/
def RoomToWrite (hi count size : Nat) (v : BufferVec) : Prop := size ≤ count ∨ v.bytes.length ≤ hi

/-- A writer at `offset` has room for the `size` bytes that are closed. -/
def RoomToClose (offset count size : Nat) (v : BufferVec) : Prop :=
  size ≤ count ∧ offset + size ≤ v.bytes.length

/-- The call is made on writers that were derived, closes what was begun, and has room. -/
def WriteCall.Fits (hi : Nat) (p : WriteProgress) : WriteCall → Prop
  | .init .. => False
  | .beginMessage header messageFlagsMask =>
      RoomToWrite hi p.session.message.bufferCount
        (messageHeaderBytes p.session.message.messageVersion header messageFlagsMask
          0).length p.session.buffer
  | .beginEntry header _ => p.entry = true ∧
      RoomToWrite hi p.session.entry.bufferCount
        (messageEntryHeaderBytes p.session.entry.messageVersion header 0 0).length p.session.buffer
  | .writeRaw slot elementName data dataType => p.element slot = true ∧
      RoomToWrite hi (p.session.element slot).bufferCount
        ((messageElementDataHeaderBytes (p.session.element slot).messageVersion elementName data.len
          dataType data.elemSize).length + data.data.length) p.session.buffer
  | .beginNestedElement slot header nested => p.element slot = true ∧ slot ≠ nested ∧
      RoomToWrite hi (p.session.element slot).bufferCount
        (messageElementHeaderBytes (p.session.element slot).messageVersion header 0 0).length
        p.session.buffer
  | .endNestedElement slot nested => p.element slot = true ∧ p.nestedBegun slot = true ∧
      RoomToClose (p.session.element slot).bufferOffset (p.session.element slot).bufferCount
        ((p.session.element slot).elementHeaderSize +
          (p.session.element nested).elementsWrittenSize) p.session.buffer
  | .endEntry slot => p.entry = true ∧ p.entryBegun = true ∧
      RoomToClose p.session.entry.bufferOffset p.session.entry.bufferCount
        (p.session.entry.entryHeaderSize + (p.session.element slot).elementsWrittenSize)
        p.session.buffer
  | .endMessage => p.entry = true

instance (hi : Nat) (p : WriteProgress) : (call : WriteCall) → Decidable (call.Fits hi p)
  | .init .. => inferInstanceAs (Decidable False)
  | .beginMessage .. => inferInstanceAs (Decidable (_ ∨ _))
  | .beginEntry .. => inferInstanceAs (Decidable (_ ∧ (_ ∨ _)))
  | .writeRaw .. => inferInstanceAs (Decidable (_ ∧ (_ ∨ _)))
  | .beginNestedElement .. => inferInstanceAs (Decidable (_ ∧ _ ∧ (_ ∨ _)))
  | .endNestedElement .. => inferInstanceAs (Decidable (_ ∧ _ ∧ _ ∧ _))
  | .endEntry .. => inferInstanceAs (Decidable (_ ∧ _ ∧ _ ∧ _))
  | .endMessage => inferInstanceAs (Decidable (_ = _))

/-! ## The invariant -/

/-- A window that ends where the range ends. -/
def InRange (lo hi offset count : Nat) : Prop :=
  lo ≤ offset ∧ offset + count = hi ∧ offset < SizeT.modulus

/-- A value of `size` bytes is inside the range. -/
def PatchIn (lo hi offset size : Nat) : Prop := lo ≤ offset ∧ offset + size ≤ hi

/-- What was derived works inside the range, in the version of the message. -/
structure InsideRange (lo hi : Nat) (p : WriteProgress) : Prop where
  offset_eq : p.session.message.bufferOffset = lo
  count_eq : lo + p.session.message.bufferCount = hi
  entry : p.entry = true → InRange lo hi p.session.entry.bufferOffset p.session.entry.bufferCount ∧
    p.session.entry.messageVersion = p.session.message.messageVersion ∧
    PatchIn lo hi p.session.message.messageSizeOffset 4 ∧
    (p.session.message.entryCountOffset = sizeTMax ∨
      PatchIn lo hi p.session.message.entryCountOffset
        (countWidth p.session.message.messageVersion))
  entryBegun : p.entryBegun = true → PatchIn lo hi p.session.entry.entrySizeOffset 4 ∧
    PatchIn lo hi p.session.entry.elementCountOffset (countWidth p.session.message.messageVersion)
  element : ∀ i, p.element i = true →
    InRange lo hi (p.session.element i).bufferOffset (p.session.element i).bufferCount
  nestedBegun : ∀ i, p.nestedBegun i = true →
    PatchIn lo hi (p.session.element i).elementSizeOffset 4 ∧
    PatchIn lo hi (p.session.element i).dataCountOffset 4

/-! ## Windows -/

variable {lo hi o count k : Nat}

theorem InRange.advance (h : InRange lo hi o count) (hspan : hi - lo < SizeT.modulus)
    (hend : o + k ≤ hi) (hlt : o + k < SizeT.modulus) :
    InRange lo hi (addSz o k) (subSz count k) := by
  obtain ⟨hlo, hhi, -⟩ := h
  rw [addSz_eq hlt, subSz_eq (by omega) (by omega)]
  unfold InRange
  omega

/-- A call that writes from where a window starts touches nothing outside the range, when
there is room, and one that succeeds ends inside. -/
theorem InRange.inside {α : Type} {c : BufferM α} {bs : List UInt8} {Q : α → Prop}
    (hin : InRange lo hi o count) (hputs : PutsAt BufferVec.bytes o bs Q c) {v : BufferVec}
    (hroom : RoomToWrite hi count bs.length v) :
    KeptOutside BufferVec.bytes lo hi v (c v).2 ∧ ∀ a, (c v).1 = .ok a →
      Q a ∧ o + bs.length ≤ hi ∧ o + bs.length < SizeT.modulus := by
  obtain ⟨hlo, hhi, hlt⟩ := hin
  constructor
  · have hkept := hputs.keptOutside v
    refine ⟨hkept.1, fun j hj => ?_⟩
    by_cases hout : j < o ∨ o + bs.length ≤ j
    · exact hkept.2 j hout
    · have hpast : v.bytes.length ≤ j := by
        rcases hroom with hroom | hroom <;> omega
      rw [List.getElem?_eq_none hpast, List.getElem?_eq_none (hkept.1 ▸ hpast)]
  · intro a ha
    have hv := hputs v
    have hsmall := v.length_bytes
    cases hc : c v with
    | mk x w =>
        rw [hc] at hv ha
        cases x with
        | error e => cases ha
        | ok b =>
            injection ha with ha
            subst ha
            obtain ⟨hq, -, hend⟩ := hv
            refine ⟨hq, ?_⟩
            rcases hend with rfl | hend
            · simp only [List.length_nil]
              omega
            · rcases hroom with hroom | hroom <;> omega

/-! ## Closing -/

theorem bufferUpdate_uint32_within (h : PatchIn lo hi o 4) (val : UInt32) :
    OffsetWriter.Within BufferVec.bytes lo hi (fun _ => True)
      (bufferUpdate fun buffer => bufferVecCopyFromUint32 buffer o val) :=
  (bufferUpdate_putsAt fun v =>
      bufferVecCopyFromUInt_eq v o val.toNat (by decide) (by decide)).within h.1
    (by rw [length_leBytes]; exact h.2)

theorem messageWriteUint32_within (h : PatchIn lo hi o 4) (val : UInt32) :
    OffsetWriter.Within BufferVec.bytes lo hi (fun _ => True) (StateT.run' (messageWriteUint32 val) o) :=
  (messageWriteUint32_puts val).run'.within h.1 (by rw [length_leBytes]; exact h.2)

theorem messageWriteUint16_within (h : PatchIn lo hi o 2) (val : UInt16) :
    OffsetWriter.Within BufferVec.bytes lo hi (fun _ => True) (StateT.run' (messageWriteUint16 val) o) :=
  (messageWriteUint16_puts val).run'.within h.1 (by rw [length_leBytes]; exact h.2)

theorem failIf_within {p : Prop} [Decidable p] (e : Status) :
    OffsetWriter.Within BufferVec.bytes lo hi (fun _ => ¬ p) (failIf p e : BufferM Unit) :=
  OffsetWriter.Within.ite (fun _ => OffsetWriter.Within.throw e) fun hp => OffsetWriter.Within.pure hp

theorem messageWriterEndMessage_within {writer : MessageWriter} (header : MessageConstHeader)
    (entryWriter : MessageEntryWriter) (hsize : PatchIn lo hi writer.messageSizeOffset 4)
    (hcount : writer.entryCountOffset = sizeTMax ∨
      PatchIn lo hi writer.entryCountOffset (countWidth writer.messageVersion)) :
    OffsetWriter.Within BufferVec.bytes lo hi
      (fun header' => header'.messageSize.toNat =
        addSz entryWriter.entriesWrittenSize header.headerSize.toNat)
      (messageWriterEndMessage writer header entryWriter) := by
  unfold messageWriterEndMessage
  refine (failIf_within _).bind fun _ hmax => (bufferUpdate_uint32_within hsize _).bind fun _ _ => ?_
  have hstated : (UInt32.ofNat (addSz entryWriter.entriesWrittenSize header.headerSize.toNat)).toNat =
      addSz entryWriter.entriesWrittenSize header.headerSize.toNat :=
    UInt32.toNat_ofNat_of_lt' (Nat.lt_succ_of_le (Nat.le_of_not_gt hmax))
  refine OffsetWriter.Within.ite (fun hknown => ?_) fun _ =>
    (failIf_within _).bind fun _ _ => OffsetWriter.Within.pure hstated
  have hpatch := hcount.resolve_left hknown
  unfold countWidth at hpatch
  refine OffsetWriter.Within.ite (fun h2 => ?_) fun h2 => OffsetWriter.Within.ite (fun _ => ?_)
    fun _ => OffsetWriter.Within.throw_bind _ _
  · rw [if_pos h2] at hpatch
    exact (messageWriteUint16_within hpatch _).bind fun _ _ => OffsetWriter.Within.pure hstated
  · rw [if_neg h2] at hpatch
    exact (bufferUpdate_uint32_within hpatch _).bind fun _ _ => OffsetWriter.Within.pure hstated

theorem messageEntryWriterEndEntry_within {entryWriter : MessageEntryWriter}
    (elementWriter : MessageElementWriter) (hsize : PatchIn lo hi entryWriter.entrySizeOffset 4)
    (hcount : PatchIn lo hi entryWriter.elementCountOffset
      (countWidth entryWriter.messageVersion)) :
    OffsetWriter.Within BufferVec.bytes lo hi (fun w => ∃ entrySize,
        entrySize = (addSz entryWriter.entryHeaderSize
          elementWriter.elementsWrittenSize) % 2 ^ 32 ∧
        w = { entryWriter with
          entriesWrittenCount := addSz entryWriter.entriesWrittenCount 1
          entriesWrittenSize := addSz entryWriter.entriesWrittenSize entrySize
          bufferOffset := addSz entryWriter.bufferOffset entrySize
          bufferCount := subSz entryWriter.bufferCount entrySize })
      (messageEntryWriterEndEntry entryWriter elementWriter) := by
  unfold messageEntryWriterEndEntry
  unfold countWidth at hcount
  refine OffsetWriter.Within.ite (fun h2 => ?_) fun h2 => OffsetWriter.Within.ite (fun _ => ?_)
    fun _ => OffsetWriter.Within.throw_bind _ _
  · rw [if_pos h2] at hcount
    exact (messageWriteUint32_within hsize _).bind fun _ _ =>
      (messageWriteUint16_within hcount _).bind fun _ _ =>
        OffsetWriter.Within.pure ⟨_, UInt32.toNat_ofNat', rfl⟩
  · rw [if_neg h2] at hcount
    exact (bufferUpdate_uint32_within hsize _).bind fun _ _ =>
      (bufferUpdate_uint32_within hcount _).bind fun _ _ =>
        OffsetWriter.Within.pure ⟨_, UInt32.toNat_ofNat', rfl⟩

theorem messageElementWriterEndNestedElement_within {elementWriter : MessageElementWriter}
    (nestedElementWriter : MessageElementWriter)
    (hsize : PatchIn lo hi elementWriter.elementSizeOffset 4)
    (hcount : PatchIn lo hi elementWriter.dataCountOffset 4) :
    OffsetWriter.Within BufferVec.bytes lo hi
      (· = elementWriter.advance
        (addSz elementWriter.elementHeaderSize nestedElementWriter.elementsWrittenSize))
      (messageElementWriterEndNestedElement elementWriter nestedElementWriter) := by
  unfold messageElementWriterEndNestedElement
  refine (failIf_within _).bind fun _ _ => OffsetWriter.Within.ite (fun _ => ?_) fun _ =>
    OffsetWriter.Within.ite (fun _ => ?_) fun _ => OffsetWriter.Within.throw_bind _ _
  · exact (messageWriteUint32_within hsize _).bind fun _ _ =>
      (messageWriteUint32_within hcount _).bind fun _ _ => OffsetWriter.Within.pure rfl
  · exact (bufferUpdate_uint32_within hsize _).bind fun _ _ =>
      (bufferUpdate_uint32_within hcount _).bind fun _ _ => OffsetWriter.Within.pure rfl

/-! ## A call -/

/-- Where the buffer is at and what it holds is not part of the invariant. -/
theorem InsideRange.withBuffer {p : WriteProgress} (h : InsideRange lo hi p) (v : BufferVec) :
    InsideRange lo hi { p with session := { p.session with buffer := v } } :=
  ⟨h.offset_eq, h.count_eq, h.entry, h.entryBegun, h.element, h.nestedBegun⟩

theorem WriteProgress.step_of {p : WriteProgress} {call : WriteCall} {α : Type} {c : BufferM α}
    {next : α → WriteSession} (hstep : p.session.step call = p.session.on c next)
    (hinv : InsideRange lo hi p)
    (hkept : KeptOutside BufferVec.bytes lo hi p.session.buffer (c p.session.buffer).2)
    (hnext : ∀ a, (c p.session.buffer).1 = .ok a →
      InsideRange lo hi { p.derive call with session := next a }) :
    KeptOutside BufferVec.bytes lo hi p.session.buffer (p.step call).2.session.buffer ∧
      InsideRange lo hi (p.step call).2 := by
  unfold WriteProgress.step
  rw [hstep, WriteSession.on]
  cases hc : c p.session.buffer with
  | mk x v =>
      rw [hc] at hkept hnext
      cases x with
      | ok a => exact ⟨hkept, (hnext a rfl).withBuffer v⟩
      | error e => exact ⟨hkept, hinv.withBuffer v⟩

variable {p : WriteProgress}

theorem WriteProgress.beginMessage_inside (hspan : hi - lo < SizeT.modulus)
    (hlo : lo < SizeT.modulus) (hinv : InsideRange lo hi p) {header : MessageConstHeader}
    {messageFlagsMask : BitVec 8}
    (hfits : (WriteCall.beginMessage header messageFlagsMask).Fits hi p) :
    KeptOutside BufferVec.bytes lo hi p.session.buffer
        (p.step (.beginMessage header messageFlagsMask)).2.session.buffer ∧
      InsideRange lo hi (p.step (.beginMessage header messageFlagsMask)).2 := by
  have hwindow : InRange lo hi p.session.message.bufferOffset p.session.message.bufferCount :=
    ⟨hinv.offset_eq.ge, by rw [hinv.offset_eq, hinv.count_eq], by rw [hinv.offset_eq]; exact hlo⟩
  obtain ⟨hkept, hok⟩ := hwindow.inside (messageWriterBeginMessageEx_puts p.session.message header
    p.session.entry messageFlagsMask rfl) hfits
  refine step_of rfl hinv hkept fun a ha => ?_
  obtain ⟨⟨countOffset, hver, -, hcount, -, hmessage, -, hentry⟩, hend, hlt⟩ := hok a ha
  have hlong := messageHeaderBytes_length hver header messageFlagsMask 0
  have hstart := hinv.offset_eq
  rw [← addSz_eq hlt] at hentry
  constructor
  · simp only [hmessage, hstart]
  · simp only [hmessage, hinv.count_eq]
  · intro _
    simp only [hmessage, hentry]
    refine ⟨hwindow.advance hspan hend hlt, trivial, ?_, ?_⟩
    · unfold PatchIn
      omega
    · unfold CountLies at hcount
      unfold PatchIn countWidth
      split at hcount
      · next h2 =>
          rw [if_pos h2]
          omega
      · next h2 =>
          rw [if_neg h2]
          split at hcount
          · omega
          · exact Or.inl hcount
  · intro hbegun
    simp only [hmessage, hentry] at hbegun ⊢
    exact hinv.entryBegun hbegun
  · exact hinv.element
  · exact hinv.nestedBegun

theorem WriteProgress.beginEntry_inside (hspan : hi - lo < SizeT.modulus)
    (hinv : InsideRange lo hi p) {header : MessageEntryConstHeader} {slot : Nat}
    (hfits : (WriteCall.beginEntry header slot).Fits hi p) :
    KeptOutside BufferVec.bytes lo hi p.session.buffer
        (p.step (.beginEntry header slot)).2.session.buffer ∧
      InsideRange lo hi (p.step (.beginEntry header slot)).2 := by
  obtain ⟨hderived, hroom⟩ := hfits
  obtain ⟨hwindow, hversion, hpatches⟩ := hinv.entry hderived
  obtain ⟨hkept, hok⟩ := hwindow.inside (messageEntryWriterBeginEntry_puts p.session.entry header
    (p.session.element slot) rfl) hroom
  refine step_of rfl hinv hkept fun a ha => ?_
  obtain ⟨⟨hver, -, -, -, hentry, helement⟩, hend, hlt⟩ := hok a ha
  have hlong := messageEntryHeaderBytes_length hver header 0 0
  rw [← addSz_eq hlt] at helement
  have hstart := hwindow.1
  constructor
  · exact hinv.offset_eq
  · exact hinv.count_eq
  · intro _
    simp only [WriteSession.setElement, hentry]
    exact ⟨hwindow, hversion, hpatches⟩
  · intro _
    simp only [WriteSession.setElement, hentry, PatchIn]
    rw [← hversion]
    unfold sizeSkip countWidth
    split <;> omega
  · intro i hi'
    simp only [derive, WriteSession.setElement] at hi' ⊢
    split
    · simp only [helement]
      exact hwindow.advance hspan hend hlt
    · next hne =>
        rw [if_neg hne] at hi'
        exact hinv.element i hi'
  · intro i hi'
    simp only [derive, WriteSession.setElement] at hi' ⊢
    split
    · next heq =>
        simp only [helement, ← heq]
        exact hinv.nestedBegun i hi'
    · exact hinv.nestedBegun i hi'

theorem WriteProgress.writeRaw_inside (hspan : hi - lo < SizeT.modulus)
    (hinv : InsideRange lo hi p) {slot : Nat} {elementName : ConstString} {data : CArray}
    {dataType : UInt16} (hfits : (WriteCall.writeRaw slot elementName data dataType).Fits hi p) :
    KeptOutside BufferVec.bytes lo hi p.session.buffer
        (p.step (.writeRaw slot elementName data dataType)).2.session.buffer ∧
      InsideRange lo hi (p.step (.writeRaw slot elementName data dataType)).2 := by
  obtain ⟨hderived, hroom⟩ := hfits
  have hwindow := hinv.element slot hderived
  rw [← List.length_append] at hroom
  obtain ⟨hkept, hok⟩ := hwindow.inside (messageElementWriterWriteRaw_puts (p.session.element slot)
    elementName data dataType rfl) hroom
  refine step_of rfl hinv hkept fun a ha => ?_
  obtain ⟨⟨-, -, hadvance⟩, hend, hlt⟩ := hok a ha
  constructor
  · exact hinv.offset_eq
  · exact hinv.count_eq
  · exact hinv.entry
  · exact hinv.entryBegun
  · intro i hi'
    simp only [derive, WriteSession.setElement] at hi' ⊢
    split
    · simp only [hadvance, MessageElementWriter.advance]
      exact hwindow.advance hspan hend hlt
    · exact hinv.element i hi'
  · intro i hi'
    simp only [derive, WriteSession.setElement] at hi' ⊢
    split
    · next heq =>
        simp only [hadvance, MessageElementWriter.advance, ← heq]
        exact hinv.nestedBegun i hi'
    · exact hinv.nestedBegun i hi'

theorem WriteProgress.beginNestedElement_inside (hspan : hi - lo < SizeT.modulus)
    (hinv : InsideRange lo hi p) {slot nested : Nat} {header : MessageElementConstHeader}
    (hfits : (WriteCall.beginNestedElement slot header nested).Fits hi p) :
    KeptOutside BufferVec.bytes lo hi p.session.buffer
        (p.step (.beginNestedElement slot header nested)).2.session.buffer ∧
      InsideRange lo hi (p.step (.beginNestedElement slot header nested)).2 := by
  obtain ⟨hderived, hne, hroom⟩ := hfits
  have hwindow := hinv.element slot hderived
  obtain ⟨hkept, hok⟩ := hwindow.inside (messageElementWriterBeginNestedElement_puts
    (p.session.element slot) header (p.session.element nested) rfl) hroom
  refine step_of rfl hinv hkept fun a ha => ?_
  obtain ⟨⟨hver, -, -, -, hparent, hchild⟩, hend, hlt⟩ := hok a ha
  have hlong := messageElementHeaderBytes_length hver header 0 0
  rw [← addSz_eq hlt] at hchild
  have hstart := hwindow.1
  constructor
  · exact hinv.offset_eq
  · exact hinv.count_eq
  · exact hinv.entry
  · exact hinv.entryBegun
  · intro i hi'
    simp only [derive, WriteSession.setElement] at hi' ⊢
    split
    · simp only [hchild]
      exact hwindow.advance hspan hend hlt
    · next hother =>
        rw [if_neg hother] at hi'
        split
        · simp only [hparent]
          exact hwindow
        · exact hinv.element i hi'
  · intro i hi'
    simp only [derive, WriteSession.setElement] at hi' ⊢
    split
    · next heq =>
        rw [if_neg fun hs => hne (hs.symm.trans heq)] at hi'
        simp only [hchild, ← heq]
        exact hinv.nestedBegun i hi'
    · split
      · simp only [hparent, PatchIn]
        unfold sizeSkip
        split <;> omega
      · next hother =>
          rw [if_neg hother] at hi'
          exact hinv.nestedBegun i hi'

theorem WriteProgress.endNestedElement_inside (hspan : hi - lo < SizeT.modulus)
    (hinv : InsideRange lo hi p) {slot nested : Nat}
    (hfits : (WriteCall.endNestedElement slot nested).Fits hi p) :
    KeptOutside BufferVec.bytes lo hi p.session.buffer
        (p.step (.endNestedElement slot nested)).2.session.buffer ∧
      InsideRange lo hi (p.step (.endNestedElement slot nested)).2 := by
  obtain ⟨hderived, hbegun, hroom, hclosed⟩ := hfits
  have hwindow := hinv.element slot hderived
  obtain ⟨hsizeAt, hcountAt⟩ := hinv.nestedBegun slot hbegun
  obtain ⟨hkept, hok⟩ := messageElementWriterEndNestedElement_within (p.session.element nested)
    hsizeAt hcountAt p.session.buffer
  have hsmall := p.session.buffer.length_bytes
  refine step_of rfl hinv hkept fun a ha => ?_
  have hadvance := hok a ha
  rw [addSz_eq (by omega)] at hadvance
  constructor
  · exact hinv.offset_eq
  · exact hinv.count_eq
  · exact hinv.entry
  · exact hinv.entryBegun
  · intro i hi'
    simp only [derive, WriteSession.setElement] at hi' ⊢
    split
    · simp only [hadvance, MessageElementWriter.advance]
      have hhi := hwindow.2.1
      exact hwindow.advance hspan (by omega) (by omega)
    · exact hinv.element i hi'
  · intro i hi'
    simp only [derive, WriteSession.setElement] at hi' ⊢
    split
    · next heq =>
        simp only [hadvance, MessageElementWriter.advance, ← heq]
        exact hinv.nestedBegun i hi'
    · exact hinv.nestedBegun i hi'

theorem WriteProgress.endEntry_inside (hspan : hi - lo < SizeT.modulus)
    (hinv : InsideRange lo hi p) {slot : Nat} (hfits : (WriteCall.endEntry slot).Fits hi p) :
    KeptOutside BufferVec.bytes lo hi p.session.buffer
        (p.step (.endEntry slot)).2.session.buffer ∧
      InsideRange lo hi (p.step (.endEntry slot)).2 := by
  obtain ⟨hderived, hbegun, hroom, hclosed⟩ := hfits
  obtain ⟨hwindow, hversion, hpatches⟩ := hinv.entry hderived
  obtain ⟨hsizeAt, hcountAt⟩ := hinv.entryBegun hbegun
  rw [← hversion] at hcountAt
  obtain ⟨hkept, hok⟩ := messageEntryWriterEndEntry_within (p.session.element slot)
    hsizeAt hcountAt p.session.buffer
  have hsmall := p.session.buffer.length_bytes
  refine step_of rfl hinv hkept fun a ha => ?_
  obtain ⟨entrySize, hsize, hentry⟩ := hok a ha
  have hle : entrySize ≤ p.session.entry.entryHeaderSize +
      (p.session.element slot).elementsWrittenSize := by
    rw [hsize, addSz_eq (by omega)]
    exact Nat.mod_le _ _
  have hhi := hwindow.2.1
  constructor
  · exact hinv.offset_eq
  · exact hinv.count_eq
  · intro _
    simp only [hentry]
    exact ⟨hwindow.advance hspan (by omega) (by omega), hversion, hpatches⟩
  · intro _
    simp only [hentry]
    rw [← hversion]
    exact ⟨hsizeAt, hcountAt⟩
  · exact hinv.element
  · exact hinv.nestedBegun

theorem WriteProgress.endMessage_inside (hinv : InsideRange lo hi p)
    (hfits : WriteCall.endMessage.Fits hi p) :
    KeptOutside BufferVec.bytes lo hi p.session.buffer (p.step .endMessage).2.session.buffer ∧
      InsideRange lo hi (p.step .endMessage).2 := by
  obtain ⟨-, -, hsize, hcount⟩ := hinv.entry hfits
  obtain ⟨hkept, -⟩ := messageWriterEndMessage_within p.session.header p.session.entry hsize hcount
    p.session.buffer
  refine step_of rfl hinv hkept fun _ _ => ?_
  exact ⟨hinv.offset_eq, hinv.count_eq, hinv.entry, hinv.entryBegun, hinv.element,
    hinv.nestedBegun⟩

/-- A call that fits touches nothing outside the range, and what it derives works inside. -/
theorem WriteProgress.step_inside (hspan : hi - lo < SizeT.modulus) (hlo : lo < SizeT.modulus)
    (hinv : InsideRange lo hi p) {call : WriteCall} (hfits : call.Fits hi p) :
    KeptOutside BufferVec.bytes lo hi p.session.buffer (p.step call).2.session.buffer ∧
      InsideRange lo hi (p.step call).2 := by
  cases call with
  | init => exact hfits.elim
  | beginMessage => exact beginMessage_inside hspan hlo hinv hfits
  | beginEntry => exact beginEntry_inside hspan hinv hfits
  | writeRaw => exact writeRaw_inside hspan hinv hfits
  | beginNestedElement => exact beginNestedElement_inside hspan hinv hfits
  | endNestedElement => exact endNestedElement_inside hspan hinv hfits
  | endEntry => exact endEntry_inside hspan hinv hfits
  | endMessage => exact endMessage_inside hinv hfits

/-! ## Runs -/

theorem InsideRange.start {s : WriteSession} {offset count : Nat} {messageVersion : UInt16}
    (hinit : (s.step (.init offset count messageVersion)).1.1 = .ok ()) :
    InsideRange offset (offset + count)
        (.start (s.step (.init offset count messageVersion)).2) ∧
      (s.step (.init offset count messageVersion)).2.buffer = s.buffer := by
  simp only [WriteSession.step, WriteSession.on, messageWriterInit_apply] at hinit ⊢
  by_cases hshort : bufferVecLen s.buffer.toBuffers < addSz offset count
  · rw [if_pos hshort] at hinit
    cases hinit
  · rw [if_neg hshort]
    exact ⟨⟨rfl, rfl, nofun, nofun, nofun, nofun⟩, rfl⟩

/-- While every call has room in what is left of the range, the writers derived from one that
was given `offset` and `count` touch no byte outside. -/
theorem writers_insideRange (s : WriteSession) (offset count : Nat) (messageVersion : UInt16)
    (hoffset : offset < SizeT.modulus) (hcount : count < SizeT.modulus)
    (hinit : (s.step (.init offset count messageVersion)).1.1 = .ok ()) (calls : List WriteCall)
    (hfits : EveryCall WriteProgress.step (fun p call => call.Fits (offset + count) p)
      (.start (s.step (.init offset count messageVersion)).2) calls) :
    EveryCall WriteProgress.step
      (fun p call => KeptOutside BufferVec.bytes offset (offset + count) s.buffer
        (p.step call).2.session.buffer)
      (.start (s.step (.init offset count messageVersion)).2) calls := by
  have hspan : offset + count - offset < SizeT.modulus := by omega
  obtain ⟨hstart, hbuffer⟩ := InsideRange.start hinit
  refine (EveryCall.invariant
    (I := fun p => InsideRange offset (offset + count) p ∧
      KeptOutside BufferVec.bytes offset (offset + count) s.buffer p.session.buffer)
    (fun p call hinv hcall => ?_) (fun p call hinv hcall => ?_) ⟨hstart, ?_⟩ hfits).2
  · obtain ⟨hkept, hnext⟩ := p.step_inside hspan hoffset hinv.1 hcall
    exact ⟨hnext, hinv.2.trans hkept⟩
  · exact hinv.2.trans (p.step_inside hspan hoffset hinv.1 hcall).1
  · show KeptOutside _ _ _ s.buffer (s.step (.init offset count messageVersion)).2.buffer
    rw [hbuffer]
    exact KeptOutside.refl _ _ _ _

end

section

open Lp64

/-- An application with a hundred bytes to write into. -/
def hundredByteSession : WriteSession where
  buffer := ⟨[List.replicate 60 0, List.replicate 40 0], by decide⟩
  message := ⟨0, 0, 0, 0, 0⟩
  header := MessageHeaderOf.zero (.constant [])
  entry := ⟨0, 0, 0, 0, 0, 0, 0, 0⟩
  element := fun _ => ⟨0, 0, 0, 0, 0, 0, 0, 0⟩

/-- One entry with one byte in a nested element. -/
def nestedByteCalls : List WriteCall :=
  [.beginMessage (MessageHeaderOf.zero (.constant [])) 0,
    .beginEntry (MessageEntryHeaderOf.zero (.constant [])) 0,
    .beginNestedElement 0 (MessageElementHeaderOf.zero (.constant [])) 1,
    .writeRaw 1 (.constant []) (.constant [7]) 4, .endNestedElement 0 1,
    .endEntry 0, .endMessage]

/-- In the middle eighty bytes there is room for them. -/
theorem nestedByteCalls_insideRange :
    EveryCall WriteProgress.step
      (fun p call => KeptOutside BufferVec.bytes 10 (10 + 80) hundredByteSession.buffer
        (p.step call).2.session.buffer)
      (.start (hundredByteSession.step (.init 10 80 4)).2) nestedByteCalls :=
  writers_insideRange hundredByteSession 10 80 4 (by decide) (by decide) (by decide) nestedByteCalls
    (by decide +kernel)

/-- A header written to a range of four bytes goes on behind them. -/
theorem header_leavesRange :
    (hundredByteSession.step (.init 0 4 2)).1.1 = .ok () ∧
      ¬ EveryCall WriteProgress.step
        (fun p call => KeptOutside BufferVec.bytes 0 (0 + 4) hundredByteSession.buffer
          (p.step call).2.session.buffer)
        (.start (hundredByteSession.step (.init 0 4 2)).2)
        [.beginMessage (MessageHeaderOf.zero (.constant [])) 0] := by
  refine ⟨by decide, fun h => ?_⟩
  have hbyte := h.1.2 8 (Or.inr (by decide))
  revert hbyte
  decide +kernel

end

end RobotRaconteurLite

import RobotRaconteurLite.Message.Tree
import RobotRaconteurLite.Proofs.WriterCalls

/-!
# The bytes of a tree

What is written depth first is the bytes of the tree, every size and every count
in its place. The induction is over the tree, elements and lists of elements
together, and each call of the writers is one step of it.
-/

namespace RobotRaconteurLite

open OffsetWriter LittleEndian Splice

section

variable [SizeT]

mutual

def elementBytes (messageVersion : UInt16) : ElementTree → List UInt8
  | .data elementName dataType data =>
      messageElementDataBytes messageVersion elementName data dataType
  | .nested header children =>
      messageElementHeaderBytes messageVersion header
        ((messageElementHeaderBytes messageVersion header 0 0).length +
          (elementsBytes messageVersion children).length) children.length ++
      elementsBytes messageVersion children

def elementsBytes (messageVersion : UInt16) : List ElementTree → List UInt8
  | [] => []
  | element :: elements => elementBytes messageVersion element ++ elementsBytes messageVersion elements

end

def entryBytes (messageVersion : UInt16) (entry : EntryTree) : List UInt8 :=
  messageEntryHeaderBytes messageVersion entry.header
    ((messageEntryHeaderBytes messageVersion entry.header 0 0).length +
      (elementsBytes messageVersion entry.elements).length) entry.elements.length ++
  elementsBytes messageVersion entry.elements

mutual

/-- What is known of an element that was written. -/
def ElementTree.Written (messageVersion : UInt16) : ElementTree → Prop
  | .data elementName dataType data =>
      messageElementDataSize messageVersion elementName data =
        (messageElementDataBytes messageVersion elementName data dataType).length ∧
      (messageElementDataBytes messageVersion elementName data dataType).length ≤ UINT32_MAX ∧
      elementName.len ≤ UINT32_MAX ∧ data.len ≤ UINT32_MAX ∧
      (messageVersion = 2 → elementName.len ≤ UINT16_MAX)
  | .nested header children =>
      header.StringsWithin UINT32_MAX ∧ children.length ≤ UINT32_MAX ∧
      (messageElementHeaderBytes messageVersion header 0 0).length +
        (elementsBytes messageVersion children).length ≤ UINT32_MAX ∧
      ElementsWritten messageVersion children

def ElementsWritten (messageVersion : UInt16) : List ElementTree → Prop
  | [] => True
  | element :: elements => element.Written messageVersion ∧ ElementsWritten messageVersion elements

end

/-- A writer that has counted what it has written. -/
def MessageElementWriter.Counting (w : MessageElementWriter) : Prop :=
  w.elementsWrittenSize ≤ w.bufferOffset ∧ w.elementsWrittenCount ≤ UINT32_MAX ∧
    w.bufferOffset < SizeT.modulus

/-- The writer after `n` more elements of `size` bytes. -/
structure MessageElementWriter.Advanced (w w' : MessageElementWriter) (n size : Nat) : Prop where
  offset_eq : w'.bufferOffset = w.bufferOffset + size
  count_eq : w'.elementsWrittenCount = w.elementsWrittenCount + n
  size_eq : w'.elementsWrittenSize = w.elementsWrittenSize + size
  version_eq : w'.messageVersion = w.messageVersion
  count_le : w'.elementsWrittenCount ≤ UINT32_MAX
  offset_lt : w'.bufferOffset < SizeT.modulus

theorem MessageElementWriter.Advanced.counting {w w' : MessageElementWriter} {n size : Nat}
    (h : w.Advanced w' n size) (hw : w.Counting) : w'.Counting := by
  refine ⟨?_, h.count_le, h.offset_lt⟩
  rw [h.offset_eq, h.size_eq]
  exact Nat.add_le_add_right hw.1 size

/-- The writer after one more element of `size` bytes, whatever was begun for it. -/
structure MessageElementWriter.OneMore (w w' : MessageElementWriter) (size : Nat) : Prop where
  room : w.elementsWrittenCount < UINT32_MAX
  fits : w.bufferOffset + size < SizeT.modulus
  advance_eq : ∃ begun, w' = MessageElementWriter.advance begun size ∧ begun = { w with
    elementSizeOffset := begun.elementSizeOffset
    dataCountOffset := begun.dataCountOffset
    elementHeaderSize := begun.elementHeaderSize }

theorem MessageElementWriter.OneMore.offset_eq {w w' : MessageElementWriter} {size : Nat}
    (h : w.OneMore w' size) : w'.bufferOffset = w.bufferOffset + size := by
  obtain ⟨begun, rfl, hbegun⟩ := h.advance_eq
  rw [hbegun]
  exact addSz_eq h.fits

theorem MessageElementWriter.OneMore.advanced {w w' : MessageElementWriter} {size : Nat}
    (h : w.OneMore w' size) (hw : w.Counting) : w.Advanced w' 1 size := by
  have hoffset := h.offset_eq
  obtain ⟨hcount, hlt, begun, rfl, hbegun⟩ := h
  have hmod := SizeT.le_modulus
  have hsmall := hw.1
  have hmax : UINT32_MAX < 2 ^ 32 := by decide
  have hcounted : addSz w.elementsWrittenCount 1 = w.elementsWrittenCount + 1 :=
    addSz_eq (by omega)
  have hsized : addSz w.elementsWrittenSize size = w.elementsWrittenSize + size :=
    addSz_eq (by omega)
  refine ⟨hoffset, ?_, ?_, ?_, ?_, by omega⟩
  · rw [hbegun]
    exact hcounted
  · rw [hbegun]
    exact hsized
  · rw [hbegun]
    rfl
  · rw [hbegun]
    show addSz w.elementsWrittenCount 1 ≤ _
    rw [hcounted]
    exact hcount

mutual

theorem writeElement_puts (unset elementWriter : MessageElementWriter) (element : ElementTree) :
    PutsAt BufferVec.bytes elementWriter.bufferOffset
      (elementBytes elementWriter.messageVersion element)
      (fun w => KnownVersion elementWriter.messageVersion ∧
        element.Written elementWriter.messageVersion ∧
        elementWriter.OneMore w (elementBytes elementWriter.messageVersion element).length)
      (writeElement unset elementWriter element) := by
  cases element with
  | data elementName dataType data =>
      rw [writeElement, elementBytes]
      refine (messageElementWriterWriteRaw_puts elementWriter elementName data dataType rfl).mono
        fun w hwritten => ?_
      obtain ⟨⟨hver, hcount, -, hsize, hmax, hname, hmany, hname2⟩, hlt, rfl⟩ := hwritten
      exact ⟨hver, ⟨hsize.symm, hmax, hname, hmany, hname2⟩, hcount, hlt, _, rfl, rfl⟩
  | nested header children =>
      rw [writeElement, elementBytes]
      have hbegin := messageElementWriterBeginNestedElement_puts elementWriter header unset rfl
      by_cases hver : KnownVersion elementWriter.messageVersion
      · have hlong := messageElementHeaderBytes_length hver header 0 0
        have hsame := (messageElementHeaderBytes_sized hver header).length_eq
          ((messageElementHeaderBytes elementWriter.messageVersion header 0 0).length +
            (elementsBytes elementWriter.messageVersion children).length) children.length
        refine Completes.puts_bind hbegin (List.ne_nil_of_length_pos (by omega))
          (by rw [List.length_append, hsame]; omega) fun p hp => ?_
        obtain ⟨parent, child⟩ := p
        obtain ⟨-, hstrings, hcount, hlt, hparent, hchild⟩ := hp
        dsimp only at hparent hchild ⊢
        have hchildren := writeElements_puts unset child
          (by rw [hchild]; exact ⟨Nat.zero_le _, Nat.zero_le _, hlt⟩) children
        have hoffset : child.bufferOffset = elementWriter.bufferOffset +
          (messageElementHeaderBytes elementWriter.messageVersion header 0 0).length := by rw [hchild]
        have hversion : child.messageVersion = elementWriter.messageVersion := by rw [hchild]
        rw [hoffset, hversion] at hchildren
        refine Completes.append_bind hchildren
          (by rw [List.length_append, List.length_append, hsame]) fun w h => ?_
        obtain ⟨hwritten, hadvanced⟩ := h
        have hend := hadvanced.offset_lt
        have hheaderSize : parent.elementHeaderSize =
          (messageElementHeaderBytes elementWriter.messageVersion header 0 0).length := by rw [hparent]
        have hwrittenSize : w.elementsWrittenSize =
            (elementsBytes elementWriter.messageVersion children).length := by
          rw [hadvanced.size_eq, hchild]
          exact Nat.zero_add _
        have hcounted : w.elementsWrittenCount = children.length := by
          rw [hadvanced.count_eq, hchild]
          exact Nat.zero_add _
        rw [hadvanced.offset_eq, hoffset] at hend
        have hsum : addSz parent.elementHeaderSize w.elementsWrittenSize =
            (messageElementHeaderBytes elementWriter.messageVersion header 0 0).length +
              (elementsBytes elementWriter.messageVersion children).length := by
          rw [hheaderSize, hwrittenSize, addSz_eq (by omega)]
        have hclose : Completes BufferVec.bytes elementWriter.bufferOffset
            (messageElementHeaderBytes elementWriter.messageVersion header 0 0 ++
              elementsBytes elementWriter.messageVersion children)
            (messageElementHeaderBytes elementWriter.messageVersion header
              ((messageElementHeaderBytes elementWriter.messageVersion header 0 0).length +
                (elementsBytes elementWriter.messageVersion children).length) children.length ++
              elementsBytes elementWriter.messageVersion children)
            (fun r => addSz parent.elementHeaderSize w.elementsWrittenSize ≤ UINT32_MAX ∧
              r = parent.advance (addSz parent.elementHeaderSize w.elementsWrittenSize))
            (messageElementWriterEndNestedElement parent w) := by
          rw [← hsum, ← hcounted]
          refine messageElementWriterEndNestedElement_completes w header ?_ ?_ ?_ ?_
          · rw [hparent]
          · rw [hparent]
            exact hver
          · rw [hparent]
          · rw [hparent]
        refine hclose.mono fun r hr => ?_
        obtain ⟨hmax, rfl⟩ := hr
        rw [hsum] at hmax ⊢
        refine ⟨hver, ⟨hstrings, ?_, hmax, hwritten⟩, ?_⟩
        · rw [← hcounted]
          exact hadvanced.count_le
        · rw [List.length_append, hsame]
          refine ⟨hcount, by omega, _, rfl, ?_⟩
          rw [hparent]
      · have hnone (size count : Nat) :
            messageElementHeaderBytes elementWriter.messageVersion header size count =
              messageElementHeaderBytes elementWriter.messageVersion header 0 0 := by
          rw [KnownVersion, not_or] at hver
          simp only [messageElementHeaderBytes, if_neg hver.1, if_neg hver.2]
        rw [hnone]
        exact hbegin.bind fun p hp => absurd hp.1 hver

theorem writeElements_puts (unset elementWriter : MessageElementWriter)
    (hw : elementWriter.Counting) (elements : List ElementTree) :
    PutsAt BufferVec.bytes elementWriter.bufferOffset
      (elementsBytes elementWriter.messageVersion elements)
      (fun w => ElementsWritten elementWriter.messageVersion elements ∧
        elementWriter.Advanced w elements.length
          (elementsBytes elementWriter.messageVersion elements).length)
      (writeElements unset elementWriter elements) := by
  cases elements with
  | nil =>
      rw [writeElements, elementsBytes]
      exact PutsAt.pure ⟨trivial, rfl, rfl, rfl, rfl, hw.2.1, hw.2.2⟩
  | cons element elements =>
      rw [writeElements, elementsBytes]
      refine (writeElement_puts unset elementWriter element).bind fun w h => ?_
      obtain ⟨-, hwritten, hmore⟩ := h
      have hadvanced := hmore.advanced hw
      have hrest := writeElements_puts unset w (hadvanced.counting hw) elements
      rw [hadvanced.version_eq, hadvanced.offset_eq] at hrest
      refine hrest.mono fun w' h' => ?_
      obtain ⟨hwritten', hadvanced'⟩ := h'
      refine ⟨⟨hwritten, hwritten'⟩, ?_, ?_, ?_, ?_, hadvanced'.count_le, hadvanced'.offset_lt⟩
      · rw [hadvanced'.offset_eq, hadvanced.offset_eq, List.length_append, Nat.add_assoc]
      · rw [hadvanced'.count_eq, hadvanced.count_eq, List.length_cons]
        omega
      · rw [hadvanced'.size_eq, hadvanced.size_eq, List.length_append, Nat.add_assoc]
      · rw [hadvanced'.version_eq, hadvanced.version_eq]

end

/-! ## Entries -/

theorem messageEntryHeaderBytes_unknown {messageVersion : UInt16} (hver : ¬ KnownVersion messageVersion)
    (header : MessageEntryConstHeader) (entrySize elementCount : Nat) :
    messageEntryHeaderBytes messageVersion header entrySize elementCount =
      messageEntryHeaderBytes messageVersion header 0 0 := by
  rw [KnownVersion, not_or] at hver
  simp only [messageEntryHeaderBytes, if_neg hver.1, if_neg hver.2]

theorem entryBytes_length {messageVersion : UInt16} (hver : KnownVersion messageVersion)
    (entry : EntryTree) :
    (entryBytes messageVersion entry).length =
      (messageEntryHeaderBytes messageVersion entry.header 0 0).length +
        (elementsBytes messageVersion entry.elements).length := by
  rw [entryBytes, List.length_append, (messageEntryHeaderBytes_sized hver entry.header).length_eq]

/-- What is known of an entry that was written. -/
structure EntryTree.Written (messageVersion : UInt16) (entry : EntryTree) : Prop where
  known : KnownVersion messageVersion
  strings : entry.header.StringsWithin UINT32_MAX
  elements : ElementsWritten messageVersion entry.elements
  count_le : entry.elements.length ≤ UINT32_MAX

/-- The writer after one more entry. It counts the size that the entry states. -/
structure MessageEntryWriter.Advanced (w w' : MessageEntryWriter) (size : Nat) : Prop where
  offset_eq : w'.bufferOffset = addSz w.bufferOffset (size % 2 ^ 32)
  count_eq : w'.entriesWrittenCount = addSz w.entriesWrittenCount 1
  size_eq : w'.entriesWrittenSize = addSz w.entriesWrittenSize (size % 2 ^ 32)
  version_eq : w'.messageVersion = w.messageVersion
  room : w.entriesWrittenCount < UINT16_MAX
  fits : w.bufferOffset + size < SizeT.modulus

theorem writeEntry_puts (unset : MessageElementWriter) (entryWriter : MessageEntryWriter)
    (entry : EntryTree) :
    PutsAt BufferVec.bytes entryWriter.bufferOffset (entryBytes entryWriter.messageVersion entry)
      (fun w => entry.Written entryWriter.messageVersion ∧
        entryWriter.Advanced w (entryBytes entryWriter.messageVersion entry).length)
      (writeEntry unset entryWriter entry) := by
  obtain ⟨header, elements⟩ := entry
  have hbegin := messageEntryWriterBeginEntry_puts entryWriter header unset rfl
  unfold writeEntry
  by_cases hver : KnownVersion entryWriter.messageVersion
  · have hlong := messageEntryHeaderBytes_length hver header 0 0
    rw [entryBytes_length hver, entryBytes]
    dsimp only
    have hsame := (messageEntryHeaderBytes_sized hver header).length_eq
      ((messageEntryHeaderBytes entryWriter.messageVersion header 0 0).length +
        (elementsBytes entryWriter.messageVersion elements).length) elements.length
    refine Completes.puts_bind hbegin (List.ne_nil_of_length_pos (by omega))
      (by rw [List.length_append, hsame]; omega) fun p hp => ?_
    obtain ⟨begun, child⟩ := p
    obtain ⟨-, hstrings, hroom, hlt, hbegun, hchild⟩ := hp
    dsimp only at hbegun hchild ⊢
    have helements := writeElements_puts unset child
      (by rw [hchild]; exact ⟨Nat.zero_le _, Nat.zero_le _, hlt⟩) elements
    have hoffset : child.bufferOffset = entryWriter.bufferOffset +
      (messageEntryHeaderBytes entryWriter.messageVersion header 0 0).length := by rw [hchild]
    have hversion : child.messageVersion = entryWriter.messageVersion := by rw [hchild]
    rw [hoffset, hversion] at helements
    refine Completes.append_bind helements
      (by rw [List.length_append, List.length_append, hsame]) fun w h => ?_
    obtain ⟨hwritten, hadvanced⟩ := h
    have hend := hadvanced.offset_lt
    have hheaderSize : begun.entryHeaderSize =
      (messageEntryHeaderBytes entryWriter.messageVersion header 0 0).length := by rw [hbegun]
    have hwrittenSize : w.elementsWrittenSize =
        (elementsBytes entryWriter.messageVersion elements).length := by
      rw [hadvanced.size_eq, hchild]
      exact Nat.zero_add _
    have hcounted : w.elementsWrittenCount = elements.length := by
      rw [hadvanced.count_eq, hchild]
      exact Nat.zero_add _
    rw [hadvanced.offset_eq, hoffset] at hend
    have hsum : addSz begun.entryHeaderSize w.elementsWrittenSize =
        (messageEntryHeaderBytes entryWriter.messageVersion header 0 0).length +
          (elementsBytes entryWriter.messageVersion elements).length := by
      rw [hheaderSize, hwrittenSize, addSz_eq (by omega)]
    have hclose := messageEntryWriterEndEntry_completes begun w header entryWriter.bufferOffset
      (elementsBytes entryWriter.messageVersion elements) rfl
      (by rw [hbegun]; exact hver) (by rw [hbegun]) (by rw [hbegun])
    have hbegunVersion : begun.messageVersion = entryWriter.messageVersion := by rw [hbegun]
    rw [hsum, hcounted, hbegunVersion] at hclose
    refine hclose.mono fun r hr => ?_
    refine ⟨⟨hver, hstrings, hwritten, ?_⟩, ?_⟩
    · rw [← hcounted]
      exact hadvanced.count_le
    · rw [hr, hbegun]
      exact ⟨rfl, rfl, rfl, rfl, hroom, by omega⟩
  · rw [entryBytes, messageEntryHeaderBytes_unknown hver]
    exact hbegin.bind fun p hp => absurd hp.1 hver

end

end RobotRaconteurLite

import RobotRaconteurLite.Proofs.ByteProgress
import RobotRaconteurLite.Proofs.Narrowing
import RobotRaconteurLite.Proofs.Payloads
import RobotRaconteurLite.Proofs.TreeHeaders

/-!
# Reading a tree back

An element of an entry that was written tells a reader of its name, of its type and
of what it holds, and its size is the way to the next one. A reader at an element is
known from the elements in front of it and behind it, and so is the one it moves to.
-/

namespace RobotRaconteurLite

open OffsetReader OffsetWriter LittleEndian Splice

section

variable [SizeT]

/-! ## What a header tells -/

/-- The header of an element that is written in one call. -/
def dataHeader (elementName : ConstString) (dataType : UInt16) : MessageElementConstHeader :=
  { MessageElementHeaderOf.zero ⟨[], modulus_pos⟩ with
    elementName := elementName, elementType := dataType }

theorem messageElementDataHeader4Bytes_eq (elementName : ConstString) (dataLen : Nat)
    (dataType : UInt16) (elemSize : Nat) :
    messageElementDataHeader4Bytes elementName dataLen dataType elemSize =
      (uintXBytes (UInt32.ofNat elemSize) ::
        (messageElementHeader4Fields (dataHeader elementName dataType) ++
          [uintXBytes (UInt32.ofNat dataLen)])).flatten := by
  have hnamed : decide (elementName.len > 0) = (elementName.len != 0) := by
    rw [Bool.eq_iff_iff]
    simp [Nat.pos_iff_ne_zero]
  have hflags : messageElementHeader4Flags (dataHeader elementName dataType) =
      flagsSetIf (elementName.len != 0) 0 MESSAGEELEMENT_FLAGS_ELEMENT_NAME_STR := by
    rw [← hnamed]
    rfl
  obtain ⟨hname, hcode, hnumber, htypeName, htypeCode, hmeta, -⟩ :=
    messageElementHeader4Flags_check (dataHeader elementName dataType)
  have hname : flagsCheck (messageElementHeader4Flags (dataHeader elementName dataType))
      MESSAGEELEMENT_FLAGS_ELEMENT_NAME_STR = (elementName.len != 0) := hname.trans hnamed
  have hcode : flagsCheck (messageElementHeader4Flags (dataHeader elementName dataType))
      MESSAGEELEMENT_FLAGS_ELEMENT_NAME_CODE = false := hcode
  have hnumber : flagsCheck (messageElementHeader4Flags (dataHeader elementName dataType))
      MESSAGEELEMENT_FLAGS_ELEMENT_NUMBER = false := hnumber
  have htypeName : flagsCheck (messageElementHeader4Flags (dataHeader elementName dataType))
      MESSAGEELEMENT_FLAGS_ELEMENT_TYPE_NAME_STR = false := htypeName
  have htypeCode : flagsCheck (messageElementHeader4Flags (dataHeader elementName dataType))
      MESSAGEELEMENT_FLAGS_ELEMENT_TYPE_NAME_CODE = false := htypeCode
  have hmeta : flagsCheck (messageElementHeader4Flags (dataHeader elementName dataType))
      MESSAGEELEMENT_FLAGS_META_INFO = false := hmeta
  simp only [messageElementDataHeader4Bytes, messageElementHeader4Fields, hname, hcode, hnumber,
    htypeName, htypeCode, hmeta, fieldBytes_false, List.cons_append, List.nil_append,
    List.flatten_cons, List.flatten_nil, List.append_nil]
  rw [hflags]
  rfl

/-- The header of an element with data has nothing but a name and a type. -/
def ElementTree.header : ElementTree → MessageElementConstHeader
  | .data elementName dataType _ => dataHeader elementName dataType
  | .nested header _ => header

def ElementTree.count : ElementTree → Nat
  | .data _ _ array => array.len
  | .nested _ children => children.length

/-- What is behind the header. -/
def ElementTree.payload (messageVersion : UInt16) : ElementTree → List UInt8
  | .data _ _ array => array.data
  | .nested _ children => elementsBytes messageVersion children

theorem ElementTree.Written.count_le {messageVersion : UInt16} {element : ElementTree}
    (h : element.Written messageVersion) : element.count ≤ UINT32_MAX := by
  cases element with
  | data elementName dataType data => exact h.2.2.2.1
  | nested header children => exact h.2.1

theorem ElementTree.Written.strings {messageVersion : UInt16} {element : ElementTree}
    (h : element.Written messageVersion) : element.header.StringsWithin UINT32_MAX := by
  cases element with
  | data elementName dataType data => exact ⟨h.2.2.1, Nat.zero_le _, Nat.zero_le _⟩
  | nested header children => exact h.1

theorem ElementTree.Written.strings2 {element : ElementTree} (h : element.Written 2)
    (hnarrow : element.NarrowStrings) : element.header.StringsWithin UINT16_MAX := by
  cases element with
  | data elementName dataType data => exact ⟨h.2.2.2.2 rfl, Nat.zero_le _, Nat.zero_le _⟩
  | nested header children => exact hnarrow.1

theorem elementBytes2_eq {element : ElementTree} (h : element.Written 2) :
    ∃ size, size ≤ UINT32_MAX ∧ size = (elementBytes 2 element).length ∧
      elementBytes 2 element =
        messageElementHeader2Bytes element.header size element.count ++ element.payload 2 := by
  cases element with
  | data elementName dataType data =>
      obtain ⟨hsize, hmax, -⟩ := h
      rw [← hsize] at hmax
      refine ⟨_, hmax, hsize, ?_⟩
      rw [elementBytes, messageElementDataBytes, messageElementDataHeaderBytes, if_pos rfl,
        messageElementDataHeader2Bytes_eq, messageElementDataSize, if_pos rfl]
      rfl
  | nested header children =>
      have hlength := elementBytes_nested_length (Or.inl rfl) header children
      obtain ⟨-, -, hmax, -⟩ := h
      refine ⟨_, hmax, hlength.symm, ?_⟩
      rw [elementBytes, messageElementHeaderBytes, if_pos rfl]
      rfl

/-- The size and the count are written in full only where they are filled in later. -/
theorem elementBytes4_eq {element : ElementTree} (h : element.Written 4) :
    ∃ (size : Nat) (sizeBytes countBytes : List UInt8),
      size ≤ UINT32_MAX ∧ size = (elementBytes 4 element).length ∧
      (∀ (v : BufferVec) (o : Nat),
        Parses v.bytes o sizeBytes (· = UInt32.ofNat size) (messageReadUintX v)) ∧
      (∀ (v : BufferVec) (o : Nat),
        Parses v.bytes o countBytes (· = UInt32.ofNat element.count) (messageReadUintX v)) ∧
      elementBytes 4 element =
        (sizeBytes :: (messageElementHeader4Fields element.header ++ [countBytes])).flatten ++
          element.payload 4 := by
  cases element with
  | data elementName dataType data =>
      obtain ⟨hsize, hmax, -⟩ := h
      rw [← hsize] at hmax
      refine ⟨_, _, _, hmax, hsize, fun _ _ => messageReadUintX_parses _,
        fun _ _ => messageReadUintX_parses _, ?_⟩
      rw [elementBytes, messageElementDataBytes, messageElementDataHeaderBytes,
        if_neg (by decide), if_pos rfl, messageElementDataHeader4Bytes_eq, messageElementDataSize,
        if_neg (by decide)]
      rfl
  | nested header children =>
      have hlength := elementBytes_nested_length (Or.inr rfl) header children
      obtain ⟨-, -, hmax, -⟩ := h
      refine ⟨_, _, _, hmax, hlength.symm, fun _ _ => messageReadUintX_long_parses _,
        fun _ _ => messageReadUintX_long_parses _, ?_⟩
      rw [elementBytes, messageElementHeaderBytes, if_neg (by decide), if_pos rfl]
      rfl

/-- The header that was read says what both versions have room for. -/
structure MessageElementHeaderOf.Tells (header : MessageElementHeader)
    (source : MessageElementConstHeader) : Prop where
  elementName_holds : header.elementName.Holds source.elementName.data
  elementTypeName_holds : header.elementTypeName.Holds source.elementTypeName.data
  metadata_holds : header.metadata.Holds source.metadata.data

/-- What a reader learns of an element from its header. -/
structure ElementTree.Seen (messageVersion : UInt16) (element : ElementTree)
    (reader : MessageElementReader) (target : MessageElementHeader)
    (p : MessageElementHeader × MessageElementBufferInfo) : Prop where
  tells : target.RoomFor element.header → p.1.Tells element.header
  type_eq : p.1.elementType = element.header.elementType
  count_eq : p.1.dataCount.toNat = element.count
  size_eq : p.1.elementSize.toNat = (elementBytes messageVersion element).length
  nameLen_eq : p.1.elementName.len = element.header.elementName.len
  name_at : 0 < element.header.elementName.len →
    At reader.buffer.bytes p.2.elementNameStrOffset element.header.elementName.data
  start_eq : p.2.dataStartOffset = reader.bufferOffset + p.2.headerSize
  end_eq : p.2.headerSize + (element.payload messageVersion).length =
    (elementBytes messageVersion element).length
  payload_at : At reader.buffer.bytes p.2.dataStartOffset (element.payload messageVersion)

theorem MessageElementHeaderOf.accepts_null (source : MessageElementConstHeader) :
    (MessageElementHeaderOf.zero (.null 0) : MessageElementHeader).Accepts source :=
  ⟨Or.inl rfl, Or.inl rfl, Or.inl rfl⟩

theorem elementHeader_seen {messageVersion : UInt16} (hver : KnownVersion messageVersion)
    {element : ElementTree} (hwritten : element.Written messageVersion)
    (hnarrow : messageVersion = 2 → element.NarrowStrings)
    {reader : MessageElementReader} (hversion : reader.messageVersion = messageVersion)
    (hat : At reader.buffer.bytes reader.bufferOffset (elementBytes messageVersion element))
    {target : MessageElementHeader} (haccepts : target.Accepts element.header) :
    ∃ p, messageElementReaderReadHeaderEx reader target = .ok p ∧
      element.Seen messageVersion reader target p := by
  have hcount := hwritten.count_le
  rw [messageElementReaderReadHeaderEx, hversion]
  rcases hver with rfl | rfl
  · obtain ⟨size, hmax, hsize, hbytes⟩ := elementBytes2_eq hwritten
    rw [hbytes, at_append] at hat
    obtain ⟨p, hread, hholds, htype, hsize', hcount', hheader, hstart, hnameAt, hnameLen⟩ :=
      messageElementReaderReadHeader2Ex_parses reader target (hwritten.strings2 (hnarrow rfl))
        haccepts rfl hat.1
    refine ⟨p, by rw [if_pos rfl, hread], ⟨fun hroom => ?_, htype, ?_, ?_, hnameLen,
      fun _ => hnameAt, ?_, ?_, ?_⟩⟩
    · obtain ⟨hname, htypeName, hmeta⟩ := hholds hroom
      exact ⟨hname, htypeName, hmeta⟩
    · rw [hcount', toNat_ofNat_of_le hcount]
    · rw [hsize', toNat_ofNat_of_le hmax, hsize]
    · rw [hstart, hheader]
    · rw [hheader, hbytes, List.length_append]
    · rw [hstart]
      exact hat.2
  · obtain ⟨size, sizeBytes, countBytes, hmax, hsize, hsizeRead, hcountRead, hbytes⟩ :=
      elementBytes4_eq hwritten
    rw [hbytes, at_append] at hat
    obtain ⟨p, hread, hreads, hsize', hcount', hheader, hstart, hnameAt, hnameLen, htype⟩ :=
      messageElementReaderReadHeader4Ex_parses reader target (hsizeRead _) (hcountRead _)
        hwritten.strings haccepts rfl hat.1
    refine ⟨p, by rw [if_neg (by decide), if_pos rfl, hread], ⟨fun hroom => ?_, htype, ?_, ?_,
      hnameLen, fun hpos => ?_, ?_, ?_, ?_⟩⟩
    · have hreads := hreads hroom
      exact ⟨hreads.elementName_holds, hreads.elementTypeName_holds, hreads.metadata_holds⟩
    · rw [hcount', toNat_ofNat_of_le hcount]
    · rw [hsize', toNat_ofNat_of_le hmax, hsize]
    · rw [if_pos hpos] at hnameAt
      exact hnameAt
    · rw [hstart, hheader]
    · rw [hheader, hbytes, List.length_append]
    · rw [hstart]
      exact hat.2

/-! ## One element after the other -/

theorem elementsBytes_append (messageVersion : UInt16) (before after : List ElementTree) :
    elementsBytes messageVersion (before ++ after) =
      elementsBytes messageVersion before ++ elementsBytes messageVersion after := by
  induction before with
  | nil => rfl
  | cons element before ih =>
      rw [List.cons_append, elementsBytes, elementsBytes, ih, List.append_assoc]

theorem elementsWritten_iff {messageVersion : UInt16} {elements : List ElementTree} :
    ElementsWritten messageVersion elements ↔ ∀ element ∈ elements, element.Written messageVersion := by
  induction elements with
  | nil => simp [ElementsWritten]
  | cons element elements ih => simp [ElementsWritten, ih]

theorem elementsNarrow_iff {elements : List ElementTree} :
    ElementsNarrow elements ↔ ∀ element ∈ elements, element.NarrowStrings := by
  induction elements with
  | nil => simp [ElementsNarrow]
  | cons element elements ih => simp [ElementsNarrow, ih]

/-- Elements at one place have names of one length, and the same behind their headers. -/
theorem elements_alike {messageVersion : UInt16} (hver : KnownVersion messageVersion)
    {element element' : ElementTree} (hwritten : element.Written messageVersion)
    (hwritten' : element'.Written messageVersion) (hnarrow : messageVersion = 2 → element.NarrowStrings)
    (hnarrow' : messageVersion = 2 → element'.NarrowStrings) {buffer : BufferVec} {o : Nat}
    (hat : At buffer.bytes o (elementBytes messageVersion element))
    (hat' : At buffer.bytes o (elementBytes messageVersion element')) :
    element.header.elementName.len = element'.header.elementName.len ∧
      element.payload messageVersion = element'.payload messageVersion := by
  obtain ⟨reader, hbuffer, hoffset, hversion⟩ : ∃ reader : MessageElementReader,
      reader.buffer = buffer ∧ reader.bufferOffset = o ∧ reader.messageVersion = messageVersion :=
    ⟨⟨buffer, o, 0, 0, 0, 0, messageVersion⟩, rfl, rfl, rfl⟩
  rw [← hbuffer, ← hoffset] at hat hat'
  obtain ⟨p, hread, hseen⟩ := elementHeader_seen hver hwritten hnarrow hversion hat
    (MessageElementHeaderOf.accepts_null _)
  obtain ⟨p', hread', hseen'⟩ := elementHeader_seen hver hwritten' hnarrow' hversion hat'
    (MessageElementHeaderOf.accepts_null _)
  cases hread.symm.trans hread'
  have hsize := hseen.size_eq.symm.trans hseen'.size_eq
  have hend := hseen.end_eq
  have hend' := hseen'.end_eq
  exact ⟨hseen.nameLen_eq.symm.trans hseen'.nameLen_eq,
    eq_of_at hseen.payload_at hseen'.payload_at (by omega)⟩

/-- Elements that were written lie in one piece of memory. -/
structure LieAt (buffer : BufferVec) (messageVersion : UInt16) (start : Nat)
    (elements : List ElementTree) : Prop where
  known : KnownVersion messageVersion
  one : buffer.segments.length = 1
  written : ElementsWritten messageVersion elements
  narrow : messageVersion = 2 → ElementsNarrow elements
  few : elements.length ≤ UINT32_MAX
  there : At buffer.bytes start (elementsBytes messageVersion elements)

/-- The reader at an element, with those behind it still to come. -/
def readerAt (buffer : BufferVec) (messageVersion : UInt16) (start : Nat)
    (before : List ElementTree) (element : ElementTree) (after : List ElementTree) :
    MessageElementReader where
  buffer := buffer
  bufferOffset := start + (elementsBytes messageVersion before).length
  bufferCount := (elementBytes messageVersion element).length
  bufferRemaining := (elementsBytes messageVersion after).length
  currentElement := before.length
  totalElements := (before ++ element :: after).length
  messageVersion := messageVersion

section

variable {buffer : BufferVec} {messageVersion : UInt16} {start : Nat}
  {before after : List ElementTree} {element : ElementTree} {target : ConstString}

theorem LieAt.header_seen (h : LieAt buffer messageVersion start (before ++ element :: after))
    {target : MessageElementHeader} (haccepts : target.Accepts element.header) :
    ∃ p, messageElementReaderReadHeaderEx (readerAt buffer messageVersion start before element after)
        target = .ok p ∧
      element.Seen messageVersion (readerAt buffer messageVersion start before element after)
        target p := by
  have hmem : element ∈ before ++ element :: after := by simp
  have hat := h.there
  rw [elementsBytes_append, elementsBytes, at_append, at_append] at hat
  exact elementHeader_seen h.known (elementsWritten_iff.mp h.written element hmem)
    (fun h2 => elementsNarrow_iff.mp (h.narrow h2) element hmem) rfl hat.2.1 haccepts

theorem LieAt.readCount (h : LieAt buffer messageVersion start (before ++ element :: after)) :
    ∃ size : UInt32, ∃ o, messageReadCount buffer messageVersion
        (start + (elementsBytes messageVersion before).length) = .ok (size, o) ∧
      size.toNat = (elementBytes messageVersion element).length := by
  obtain ⟨p, hread, hseen⟩ := h.header_seen (MessageElementHeaderOf.accepts_null _)
  obtain ⟨o, hcount⟩ := messageElementReaderReadHeaderEx_elementSize hread
  exact ⟨p.1.elementSize, o, hcount, hseen.size_eq⟩

theorem LieAt.readCount_first (h : LieAt buffer messageVersion start (element :: after)) :
    ∃ size : UInt32, ∃ o, messageReadCount buffer messageVersion start = .ok (size, o) ∧
      size.toNat = (elementBytes messageVersion element).length := by
  rw [← List.nil_append (element :: after)] at h
  simpa [elementsBytes] using h.readCount

theorem moveNext_readerAt_last (h : LieAt buffer messageVersion start (before ++ [element])) :
    messageElementReaderMoveNext (readerAt buffer messageVersion start before element []) =
      .error .noMore := by
  have hmod := SizeT.le_modulus
  have hfew := h.few
  rw [List.length_append, List.length_singleton, UINT32_MAX] at hfew
  rw [messageElementReaderMoveNext, failIf, if_pos]
  · rfl
  · show ¬ addSz before.length 1 < (before ++ [element]).length
    rw [addSz_eq (by omega), List.length_append, List.length_singleton]
    omega

theorem LieAt.moveNext {next : ElementTree}
    (h : LieAt buffer messageVersion start (before ++ element :: next :: after)) :
    messageElementReaderMoveNext
        (readerAt buffer messageVersion start before element (next :: after)) =
      .ok (readerAt buffer messageVersion start (before ++ [element]) next after) := by
  have hmod := SizeT.le_modulus
  have hsmall := buffer.length_bytes
  have hfew := h.few
  have hend := h.there.2
  have hsplit : before ++ element :: next :: after = (before ++ [element]) ++ next :: after := by simp
  have hpast : (elementsBytes messageVersion (before ++ [element])).length =
      (elementsBytes messageVersion before).length + (elementBytes messageVersion element).length := by
    rw [elementsBytes_append, List.length_append, elementsBytes, elementsBytes, List.append_nil]
  have hnext := h
  rw [hsplit] at hnext
  obtain ⟨size, o, hcount, hsize⟩ := hnext.readCount
  rw [hsplit, elementsBytes_append, List.length_append] at hend
  rw [List.length_append, List.length_cons, List.length_cons, UINT32_MAX] at hfew
  have hoffset : addSz (start + (elementsBytes messageVersion before).length)
      (elementBytes messageVersion element).length =
      start + (elementsBytes messageVersion (before ++ [element])).length := by
    rw [addSz_eq (by omega), hpast, Nat.add_assoc]
  have hcurrent : addSz before.length 1 = (before ++ [element]).length := by
    rw [addSz_eq (by omega), List.length_append, List.length_singleton]
  have hremaining : (elementsBytes messageVersion (next :: after)).length =
      (elementBytes messageVersion next).length + (elementsBytes messageVersion after).length := by
    rw [elementsBytes, List.length_append]
  have hleft : subSz (elementsBytes messageVersion (next :: after)).length size.toNat =
      (elementsBytes messageVersion after).length := by
    rw [elementsBytes, List.length_append] at hend
    rw [subSz_eq (by omega) (by omega)]
    omega
  rw [hsize] at hleft
  rw [← hoffset] at hcount
  have hmove := messageElementReaderMoveNext_eq
    (r := readerAt buffer messageVersion start before element (next :: after)) hcount
    (by
      show addSz before.length 1 < (before ++ element :: next :: after).length
      rw [hcurrent]
      simp)
    (by
      show size.toNat ≤ (elementsBytes messageVersion (next :: after)).length
      omega)
  rw [hmove]
  simp only [readerAt, hoffset, hcurrent, hleft, hsize, hsplit]

end

/-- What a version 2 entry must be for a reader to find its elements, whatever its size. -/
structure EntryTree.Legible (entry : EntryTree) : Prop where
  strings : entry.header.StringsWithin UINT16_MAX
  count : entry.elements.length ≤ UINT16_MAX
  elements : ElementsNarrow entry.elements

theorem EntryTree.Narrow.legible {entry : EntryTree} (h : entry.Narrow) : entry.Legible :=
  ⟨h.strings, h.count, h.elements⟩

/-- What a reader learns of an entry from its header. -/
structure EntryTree.Seen (messageVersion : UInt16) (entry : EntryTree) (reader : MessageEntryReader)
    (target : MessageEntryHeader) (p : MessageEntryHeader × MessageEntryBufferInfo) : Prop where
  tells : target.RoomFor entry.header → p.1.Tells entry.header
  count_eq : p.1.elementCount.toNat = entry.elements.length
  size_eq : p.1.entrySize = UInt32.ofNat (entryBytes messageVersion entry).length
  headerSize_eq : p.2.headerSize = (messageEntryHeaderBytes messageVersion entry.header 0 0).length
  start_eq : p.2.elementStartOffset =
    reader.bufferOffset + (messageEntryHeaderBytes messageVersion entry.header 0 0).length

theorem entryHeader_seen {messageVersion : UInt16} {entry : EntryTree}
    (hwritten : entry.Written messageVersion) (hlegible : messageVersion = 2 → entry.Legible)
    {reader : MessageEntryReader} (hversion : reader.messageVersion = messageVersion)
    (hat : At reader.buffer.bytes reader.bufferOffset (entryBytes messageVersion entry))
    {target : MessageEntryHeader} (haccepts : target.Accepts entry.header) :
    ∃ p, messageEntryReaderReadHeaderEx reader target = .ok p ∧
      entry.Seen messageVersion reader target p := by
  obtain ⟨hver, hstrings, -, hcount⟩ := hwritten
  have hsame := (messageEntryHeaderBytes_sized hver entry.header).length_eq
    ((messageEntryHeaderBytes messageVersion entry.header 0 0).length +
      (elementsBytes messageVersion entry.elements).length) entry.elements.length
  have hlength := entryBytes_length hver entry
  rw [entryBytes, at_append] at hat
  rw [messageEntryReaderReadHeaderEx, hversion]
  rcases hver with rfl | rfl
  · have hlegible := hlegible rfl
    simp only [messageEntryHeaderBytes, if_true] at hat hsame hlength ⊢
    obtain ⟨p, hread, htells, hsize', hcount', hheader, hstart⟩ :=
      messageEntryReaderReadHeader2Ex_parses reader target hlegible.strings hlegible.count haccepts
        rfl hat.1
    refine ⟨p, hread, htells, ?_, ?_, ?_, ?_⟩
    · rw [hcount', toNat_ofNat_of_le hcount]
    · rw [hsize', hlength]
    · rw [hheader, hsame, messageEntryHeaderBytes, if_pos rfl]
    · rw [hstart, hsame, messageEntryHeaderBytes, if_pos rfl]
  · have h42 : ¬ (4 : UInt16) = 2 := by decide
    simp only [messageEntryHeaderBytes, if_neg h42, if_true] at hat hsame hlength ⊢
    obtain ⟨p, hread, hreads, hsize', hcount', hheader, hstart⟩ :=
      messageEntryReaderReadHeader4Ex_parses reader target hstrings haccepts rfl hat.1
    refine ⟨p, hread, fun hroom => ?_, ?_, ?_, ?_, ?_⟩
    · have hreads := hreads hroom
      exact ⟨hreads.entryType_eq, hreads.servicePath_holds, hreads.memberName_holds,
        hreads.requestId_eq, hreads.error_eq, hreads.metadata_holds⟩
    · rw [hcount', toNat_ofNat_of_le hcount]
    · rw [hsize', hlength]
    · rw [hheader, hsame, messageEntryHeaderBytes, if_neg h42, if_pos rfl]
    · rw [hstart, hsame, messageEntryHeaderBytes, if_neg h42, if_pos rfl]

/-- What `begin_read_elements` finds in front of the first element, and of the first element. -/
theorem firstElement_seen {messageVersion : UInt16} {entry : EntryTree}
    (hwritten : entry.Written messageVersion) (hlegible : messageVersion = 2 → entry.Legible)
    (reader : MessageEntryReader) (hone : reader.buffer.segments.length = 1)
    (hversion : reader.messageVersion = messageVersion)
    (hat : At reader.buffer.bytes reader.bufferOffset (entryBytes messageVersion entry))
    {start : Nat} (hstart : start =
      reader.bufferOffset + (messageEntryHeaderBytes messageVersion entry.header 0 0).length) :
    ∃ p, messageEntryReaderReadHeaderEx reader (MessageEntryHeaderOf.zero (.null 0)) = .ok p ∧
      p.1.elementCount.toNat = entry.elements.length ∧
      p.2.headerSize = (messageEntryHeaderBytes messageVersion entry.header 0 0).length ∧
      p.2.elementStartOffset = start ∧
      ∀ element elements, entry.elements = element :: elements →
        LieAt reader.buffer messageVersion start (element :: elements) ∧
        ∃ size : UInt32, ∃ o, messageReadCount reader.buffer messageVersion start = .ok (size, o) ∧
          size.toNat = (elementBytes messageVersion element).length := by
  have haccepts : (MessageEntryHeaderOf.zero (.null 0) : MessageEntryHeader).Accepts entry.header :=
    ⟨Or.inl rfl, Or.inl rfl, Or.inl rfl⟩
  obtain ⟨p, hread, hseen⟩ := entryHeader_seen hwritten hlegible hversion hat haccepts
  refine ⟨p, hread, hseen.count_eq, hseen.headerSize_eq, hseen.start_eq.trans hstart.symm,
    fun element elements hlist => ?_⟩
  have hsame := (messageEntryHeaderBytes_sized hwritten.known entry.header).length_eq
    ((messageEntryHeaderBytes messageVersion entry.header 0 0).length +
      (elementsBytes messageVersion entry.elements).length) entry.elements.length
  rw [entryBytes, at_append, hsame, ← hstart] at hat
  have hlie : LieAt reader.buffer messageVersion start (element :: elements) :=
    ⟨hwritten.known, hone, hlist ▸ hwritten.elements,
      fun h => hlist ▸ (hlegible h).elements, hlist ▸ hwritten.count_le, hlist ▸ hat.2⟩
  exact ⟨hlie, hlie.readCount_first⟩

/-- A search begins at the first element, if there is one. -/
theorem beginReadElements_readerAt {messageVersion : UInt16} {entry : EntryTree}
    (hwritten : entry.Written messageVersion) (hlegible : messageVersion = 2 → entry.Legible)
    (reader : MessageEntryReader) (hone : reader.buffer.segments.length = 1)
    (hversion : reader.messageVersion = messageVersion)
    (hcount : reader.bufferCount = (entryBytes messageVersion entry).length)
    (hat : At reader.buffer.bytes reader.bufferOffset (entryBytes messageVersion entry))
    {start : Nat} (hstart : start =
      reader.bufferOffset + (messageEntryHeaderBytes messageVersion entry.header 0 0).length) :
    (entry.elements = [] ∧ messageEntryReaderBeginReadElements reader = .error .noMore) ∨
    ∃ element elements, entry.elements = element :: elements ∧
      LieAt reader.buffer messageVersion start (element :: elements) ∧
      messageEntryReaderBeginReadElements reader =
        .ok (readerAt reader.buffer messageVersion start [] element elements) := by
  have hsmall := reader.buffer.length_bytes
  have hlength := entryBytes_length hwritten.known entry
  have hend := hat.2
  obtain ⟨p, hread, hmany, hheader, helements, hfirst⟩ :=
    firstElement_seen hwritten hlegible reader hone hversion hat hstart
  rw [messageEntryReaderBeginReadElements, hread]
  simp only [bind, Except.bind, hheader, helements]
  cases hlist : entry.elements with
  | nil =>
      have hzero : p.1.elementCount = 0 := by
        apply UInt32.toNat_inj.mp
        rw [hmany, hlist]
        rfl
      rw [failIf, if_pos hzero]
      exact Or.inl ⟨rfl, rfl⟩
  | cons element elements =>
      obtain ⟨hlie, size, o, hsize, hcounted⟩ := hfirst element elements hlist
      rw [hlist, elementsBytes, List.length_append] at hlength
      have hsome : p.1.elementCount ≠ 0 := by
        intro hzero
        rw [hzero, hlist] at hmany
        cases hmany
      have hheaderEnd : subSz start reader.bufferOffset =
          (messageEntryHeaderBytes messageVersion entry.header 0 0).length :=
        subSz_of_eq_add hstart (by omega)
      have hfits : ¬ addSz (messageEntryHeaderBytes messageVersion entry.header 0 0).length
          (elementBytes messageVersion element).length > reader.bufferCount := by
        rw [addSz_eq (by omega)]
        omega
      have hrest : subSz reader.bufferCount
          (messageEntryHeaderBytes messageVersion entry.header 0 0).length =
          (elementBytes messageVersion element).length +
            (elementsBytes messageVersion elements).length :=
        subSz_of_eq_add (hcount.trans hlength) (by omega)
      have hleft : subSz (subSz reader.bufferCount
          (messageEntryHeaderBytes messageVersion entry.header 0 0).length)
          (elementBytes messageVersion element).length =
          (elementsBytes messageVersion elements).length :=
        subSz_of_eq_add hrest (by omega)
      refine Or.inr ⟨element, elements, rfl, hlie, ?_⟩
      simp only [failIf, if_neg hsome, hversion, hsize, hheaderEnd, hcounted, if_neg hfits, pure,
        Except.pure, hleft, readerAt, hmany, hlist]
      rfl

/-- An entry whose window ends in front of its first element's end is not opened. -/
theorem beginReadElements_tooShort {messageVersion : UInt16} {entry : EntryTree}
    (hwritten : entry.Written messageVersion) (hlegible : messageVersion = 2 → entry.Legible)
    (reader : MessageEntryReader) (hone : reader.buffer.segments.length = 1)
    (hversion : reader.messageVersion = messageVersion)
    (hat : At reader.buffer.bytes reader.bufferOffset (entryBytes messageVersion entry))
    {element : ElementTree} {elements : List ElementTree} (hlist : entry.elements = element :: elements)
    (hshort : reader.bufferCount < (messageEntryHeaderBytes messageVersion entry.header 0 0).length +
      (elementBytes messageVersion element).length) :
    messageEntryReaderBeginReadElements reader = .error .protocol := by
  have hsmall := reader.buffer.length_bytes
  have hlength := entryBytes_length hwritten.known entry
  have hend := hat.2
  obtain ⟨start, hstart⟩ : ∃ start, start =
    reader.bufferOffset + (messageEntryHeaderBytes messageVersion entry.header 0 0).length := ⟨_, rfl⟩
  obtain ⟨p, hread, hmany, hheader, helements, hfirst⟩ :=
    firstElement_seen hwritten hlegible reader hone hversion hat hstart
  obtain ⟨-, size, o, hsize, hcounted⟩ := hfirst element elements hlist
  rw [hlist, elementsBytes, List.length_append] at hlength
  have hsome : p.1.elementCount ≠ 0 := by
    intro hzero
    rw [hzero, hlist] at hmany
    cases hmany
  have hheaderEnd : subSz start reader.bufferOffset =
      (messageEntryHeaderBytes messageVersion entry.header 0 0).length :=
    subSz_of_eq_add hstart (by omega)
  have houtside : addSz (messageEntryHeaderBytes messageVersion entry.header 0 0).length
      (elementBytes messageVersion element).length > reader.bufferCount := by
    rw [addSz_eq (by omega)]
    exact hshort
  rw [messageEntryReaderBeginReadElements, hread]
  simp only [bind, Except.bind, helements, failIf, if_neg hsome, hversion, hsize, hheaderEnd,
    hcounted, if_pos houtside, pure, Except.pure]
  rfl

theorem beginReadNestedElements_readerAt {messageVersion : UInt16} (hver : KnownVersion messageVersion)
    {header : MessageElementConstHeader} {children : List ElementTree}
    (hwritten : (ElementTree.nested header children).Written messageVersion)
    (hnarrow : messageVersion = 2 → (ElementTree.nested header children).NarrowStrings)
    (hcomposite : header.elementType ∈ nestedElementTypes)
    (reader : MessageElementReader) (hone : reader.buffer.segments.length = 1)
    (hversion : reader.messageVersion = messageVersion)
    (hcount : reader.bufferCount = (elementBytes messageVersion (.nested header children)).length)
    (hat : At reader.buffer.bytes reader.bufferOffset
      (elementBytes messageVersion (.nested header children)))
    {start : Nat} (hstart : start =
      reader.bufferOffset + (messageElementHeaderBytes messageVersion header 0 0).length) :
    (children = [] ∧ messageElementReaderBeginReadNestedElements reader = .error .noMore) ∨
    ∃ element elements, children = element :: elements ∧
      LieAt reader.buffer messageVersion start (element :: elements) ∧
      messageElementReaderBeginReadNestedElements reader =
        .ok (readerAt reader.buffer messageVersion start [] element elements) := by
  have hsmall := reader.buffer.length_bytes
  have hlength := elementBytes_nested_length hver header children
  obtain ⟨p, hread, hseen⟩ := elementHeader_seen hver hwritten hnarrow hversion hat
    (MessageElementHeaderOf.accepts_null _)
  have htype : p.1.elementType = header.elementType := hseen.type_eq
  have hmany : p.1.dataCount.toNat = children.length := hseen.count_eq
  have hheader : p.2.headerSize = (messageElementHeaderBytes messageVersion header 0 0).length := by
    have hends : p.2.headerSize + (elementsBytes messageVersion children).length = _ := hseen.end_eq
    omega
  have helements := hseen.start_eq
  rw [hheader] at helements
  obtain ⟨-, hfew, -, hchildren⟩ := hwritten
  have hend := hat.2
  have hsame := (messageElementHeaderBytes_sized hver header).length_eq
    ((messageElementHeaderBytes messageVersion header 0 0).length +
      (elementsBytes messageVersion children).length) children.length
  rw [elementBytes, at_append, hsame, ← hstart] at hat
  rw [← hstart] at helements
  have hopens : ¬ p.1.elementType ∉ nestedElementTypes := by
    rw [htype]
    exact not_not.mpr hcomposite
  rw [messageElementReaderBeginReadNestedElements, hread]
  simp only [bind, Except.bind, hheader, helements, failIf, if_neg hopens, pure, Except.pure]
  cases children with
  | nil =>
      have hzero : p.1.dataCount = 0 := UInt32.toNat_inj.mp hmany
      rw [if_pos hzero]
      exact Or.inl ⟨rfl, rfl⟩
  | cons element elements =>
      have hlie : LieAt reader.buffer messageVersion start (element :: elements) :=
        ⟨hver, hone, hchildren, fun h => (hnarrow h).2, hfew, hat.2⟩
      obtain ⟨size, o, hsize, hcounted⟩ := hlie.readCount_first
      rw [elementsBytes, List.length_append] at hlength
      have hsome : p.1.dataCount ≠ 0 := by
        intro hzero
        rw [hzero] at hmany
        cases hmany
      have hrest : subSz reader.bufferCount
          (messageElementHeaderBytes messageVersion header 0 0).length =
          (elementBytes messageVersion element).length +
            (elementsBytes messageVersion elements).length :=
        subSz_of_eq_add (hcount.trans hlength) (by omega)
      have hfits : ¬ (elementBytes messageVersion element).length +
          (elementsBytes messageVersion elements).length <
          (elementBytes messageVersion element).length := Nat.not_lt.mpr (Nat.le_add_right _ _)
      have hleft : subSz ((elementBytes messageVersion element).length +
          (elementsBytes messageVersion elements).length)
          (elementBytes messageVersion element).length =
          (elementsBytes messageVersion elements).length := subSz_of_eq_add rfl (by omega)
      refine Or.inr ⟨element, elements, rfl, hlie, ?_⟩
      simp only [if_neg hsome, hversion, hsize, hcounted, hrest, if_neg hfits, hleft, readerAt, hmany]
      rfl

end

end RobotRaconteurLite

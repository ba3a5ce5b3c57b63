import RobotRaconteurLite.Proofs.RoomEnough

/-!
# What a version 2 entry states

A version 2 entry states the length of every string, the number of its elements
and every size in a field of two or of four bytes. Each such field is listed with
the number it should state, and a field states its number if and only if the
number fits into it: nothing else is cut anywhere. Which fields the writers make
sure of, and which they fill through a cast, is then a matter of looking at their
checks.
-/

namespace RobotRaconteurLite

open OffsetWriter LittleEndian Splice

/-- A number in the bytes of a message: where it starts, how many bytes it has, and what it
should be. -/
structure NumberField where
  offset : Nat
  width : Nat
  value : Nat
  deriving DecidableEq

/-- The field says what it should. -/
def NumberField.Stated (bytes : List UInt8) (field : NumberField) : Prop :=
  leNat (slice bytes field.offset field.width) = field.value

/-- The field was filled with what it should say, cut to its width. -/
def NumberField.Filled (bytes : List UInt8) (field : NumberField) : Prop :=
  At bytes field.offset (leBytes field.width field.value)

theorem NumberField.Filled.stated_iff {bytes : List UInt8} {field : NumberField}
    (h : field.Filled bytes) : field.Stated bytes ↔ field.value < 256 ^ field.width := by
  have hbytes := h.1
  rw [length_leBytes] at hbytes
  rw [NumberField.Stated, hbytes, ← leBytes_mod,
    leNat_leBytes (Nat.mod_lt _ (Nat.pow_pos (by decide)))]
  constructor
  · intro hmod
    rw [← hmod]
    exact Nat.mod_lt _ (Nat.pow_pos (by decide))
  · exact Nat.mod_eq_of_lt

theorem NumberField.filled_of_at {bytes : List UInt8} {o offset width value : Nat}
    (h : At bytes o (leBytes width value)) (ho : o = offset) :
    NumberField.Filled bytes ⟨offset, width, value⟩ := ho ▸ h

/-- The fields of an element header that starts at `o`: the size, the lengths of the name, of
the name of the type and of the metadata, and the count. -/
def elementHeaderFields (o elementName elementTypeName metadata elementSize dataCount : Nat) :
    List NumberField :=
  [⟨o, 4, elementSize⟩, ⟨o + 4, 2, elementName⟩, ⟨o + 8 + elementName, 2, elementTypeName⟩,
    ⟨o + 10 + elementName + elementTypeName, 2, metadata⟩,
    ⟨o + 12 + elementName + elementTypeName + metadata, 4, dataCount⟩]

/-- Every field can state its number. -/
def Fit (fields : List NumberField) : Prop := ∀ field ∈ fields, field.value < 256 ^ field.width

theorem fit_append {fields fields' : List NumberField} :
    Fit (fields ++ fields') ↔ Fit fields ∧ Fit fields' := List.forall_mem_append

theorem elementHeaderFields_fit {o elementName elementTypeName metadata elementSize dataCount : Nat}
    (hsize : elementSize ≤ UINT32_MAX) (hcount : dataCount ≤ UINT32_MAX) :
    Fit (elementHeaderFields o elementName elementTypeName metadata elementSize dataCount) ↔
      elementName ≤ UINT16_MAX ∧ elementTypeName ≤ UINT16_MAX ∧ metadata ≤ UINT16_MAX := by
  rw [UINT32_MAX] at hsize hcount
  simp only [Fit, elementHeaderFields, List.forall_mem_cons, UINT16_MAX]
  constructor
  · rintro ⟨-, hname, htypeName, hmeta, -, -⟩
    omega
  · rintro ⟨hname, htypeName, hmeta⟩
    refine ⟨?_, ?_, ?_, ?_, ?_, List.forall_mem_nil _⟩ <;> omega

section

variable [SizeT]

/-! ## The fields -/

mutual

def ElementTree.size2 : ElementTree → Nat
  | .data elementName _ data => 16 + elementName.len + data.data.length
  | .nested header children =>
      16 + header.elementName.len + header.elementTypeName.len + header.metadata.len +
        elementsSize2 children

def elementsSize2 : List ElementTree → Nat
  | [] => 0
  | element :: elements => element.size2 + elementsSize2 elements

end

def EntryTree.size2 (entry : EntryTree) : Nat :=
  22 + entry.header.servicePath.len + entry.header.memberName.len + entry.header.metadata.len +
    elementsSize2 entry.elements

mutual

def elementFields (o : Nat) : ElementTree → List NumberField
  | .data elementName dataType data =>
      elementHeaderFields o elementName.len 0 0 (ElementTree.data elementName dataType data).size2
        data.len
  | .nested header children =>
      elementHeaderFields o header.elementName.len header.elementTypeName.len header.metadata.len
        (ElementTree.nested header children).size2 children.length ++
      elementsFields
        (o + 16 + header.elementName.len + header.elementTypeName.len + header.metadata.len) children

def elementsFields (o : Nat) : List ElementTree → List NumberField
  | [] => []
  | element :: elements => elementFields o element ++ elementsFields (o + element.size2) elements

end

/-- The fields of an entry that starts at `o`: the size, the lengths of the service path, of
the member name and of the metadata, the number of elements, and the fields of these. -/
def entryFields (o : Nat) (entry : EntryTree) : List NumberField :=
  let servicePath := entry.header.servicePath.len
  let memberName := entry.header.memberName.len
  let metadata := entry.header.metadata.len
  [⟨o, 4, entry.size2⟩, ⟨o + 8, 2, servicePath⟩, ⟨o + 10 + servicePath, 2, memberName⟩,
    ⟨o + 18 + servicePath + memberName, 2, metadata⟩,
    ⟨o + 20 + servicePath + memberName + metadata, 2, entry.elements.length⟩] ++
  elementsFields (o + 22 + servicePath + memberName + metadata) entry.elements

/-! ## What the writers fill them with -/

theorem elementHeaderFields_filled {bytes : List UInt8} {o elementSize dataCount : Nat}
    {header : MessageElementConstHeader}
    (hat : At bytes o (messageElementHeader2Bytes header elementSize dataCount)) :
    ∀ field ∈ elementHeaderFields o header.elementName.len header.elementTypeName.len
      header.metadata.len elementSize dataCount, field.Filled bytes := by
  simp only [messageElementHeader2Bytes, string2Bytes, List.flatten_cons, List.flatten_nil,
    List.append_nil, List.append_assoc, at_append, length_leBytes] at hat
  obtain ⟨hsize, hname, -, -, htypeName, -, hmeta, -, hcount⟩ := hat
  simp only [elementHeaderFields, List.forall_mem_cons, ConstString.len]
  refine ⟨hsize, hname, NumberField.filled_of_at htypeName ?_, NumberField.filled_of_at hmeta ?_,
    NumberField.filled_of_at hcount ?_, List.forall_mem_nil _⟩ <;> omega

/-- An element with data is laid out as one that has a name and a type only. -/
theorem messageElementDataHeader2Bytes_eq (elementName : ConstString) (dataLen : Nat)
    (dataType : UInt16) (elemSize : Nat) :
    messageElementDataHeader2Bytes elementName dataLen dataType elemSize =
      messageElementHeader2Bytes { MessageElementHeaderOf.zero ⟨[], modulus_pos⟩ with
        elementName := elementName, elementType := dataType } elemSize dataLen := rfl

theorem length_messageElementHeader2Bytes (header : MessageElementConstHeader)
    (elementSize dataCount : Nat) :
    (messageElementHeader2Bytes header elementSize dataCount).length =
      16 + header.elementName.len + header.elementTypeName.len + header.metadata.len := by
  simp only [messageElementHeader2Bytes, List.flatten_cons, List.flatten_nil, List.length_append,
    length_leBytes, length_string2Bytes, List.length_nil]
  omega

theorem length_messageEntryHeader2Bytes (header : MessageEntryConstHeader)
    (entrySize elementCount : Nat) :
    (messageEntryHeader2Bytes header entrySize elementCount).length =
      22 + header.servicePath.len + header.memberName.len + header.metadata.len := by
  simp only [messageEntryHeader2Bytes, List.flatten_cons, List.flatten_nil, List.length_append,
    length_leBytes, length_string2Bytes, List.length_nil]
  omega

mutual

theorem length_elementBytes2 (element : ElementTree) :
    (elementBytes 2 element).length = element.size2 := by
  cases element with
  | data elementName dataType data =>
      rw [elementBytes, messageElementDataBytes, messageElementDataHeaderBytes, if_pos rfl,
        messageElementDataHeader2Bytes_eq, List.length_append, length_messageElementHeader2Bytes,
        ElementTree.size2]
      rfl
  | nested header children =>
      rw [elementBytes, List.length_append, messageElementHeaderBytes, if_pos rfl,
        length_messageElementHeader2Bytes, length_elementsBytes2 children, ElementTree.size2]

theorem length_elementsBytes2 (elements : List ElementTree) :
    (elementsBytes 2 elements).length = elementsSize2 elements := by
  cases elements with
  | nil => rfl
  | cons element elements =>
      rw [elementsBytes, List.length_append, length_elementBytes2 element,
        length_elementsBytes2 elements, elementsSize2]

end

mutual

theorem elementFields_filled {bytes : List UInt8} {o : Nat} (element : ElementTree)
    (hwritten : element.Written 2) (hat : At bytes o (elementBytes 2 element)) :
    ∀ field ∈ elementFields o element, field.Filled bytes := by
  have hlength := length_elementBytes2 element
  cases element with
  | data elementName dataType data =>
      have hsize := hwritten.1
      rw [elementBytes] at hat hlength
      rw [hlength, messageElementDataSize, if_pos rfl] at hsize
      rw [messageElementDataBytes, messageElementDataHeaderBytes, if_pos rfl, at_append,
        messageElementDataHeader2Bytes_eq, hsize] at hat
      rw [elementFields]
      exact elementHeaderFields_filled hat.1
  | nested header children =>
      obtain ⟨-, -, -, hchildren⟩ := hwritten
      rw [elementBytes, at_append, messageElementHeaderBytes, if_pos rfl,
        length_messageElementHeader2Bytes] at hat
      rw [messageElementHeaderBytes, if_pos rfl, length_messageElementHeader2Bytes,
        length_elementsBytes2, ← ElementTree.size2] at hat
      rw [elementFields, List.forall_mem_append]
      refine ⟨elementHeaderFields_filled hat.1, elementsFields_filled children hchildren ?_⟩
      simpa only [Nat.add_assoc] using hat.2

theorem elementsFields_filled {bytes : List UInt8} {o : Nat} (elements : List ElementTree)
    (hwritten : ElementsWritten 2 elements) (hat : At bytes o (elementsBytes 2 elements)) :
    ∀ field ∈ elementsFields o elements, field.Filled bytes := by
  cases elements with
  | nil => exact nofun
  | cons element elements =>
      rw [elementsBytes, at_append, length_elementBytes2] at hat
      rw [elementsFields, List.forall_mem_append]
      exact ⟨elementFields_filled element hwritten.1 hat.1,
        elementsFields_filled elements hwritten.2 hat.2⟩

end

theorem entryFields_filled {bytes : List UInt8} {o : Nat} {entry : EntryTree}
    (hwritten : ElementsWritten 2 entry.elements) (hat : At bytes o (entryBytes 2 entry)) :
    ∀ field ∈ entryFields o entry, field.Filled bytes := by
  rw [entryBytes, at_append, messageEntryHeaderBytes, if_pos rfl, length_messageEntryHeader2Bytes,
    messageEntryHeaderBytes, if_pos rfl, length_messageEntryHeader2Bytes, length_elementsBytes2,
    ← EntryTree.size2] at hat
  obtain ⟨hheader, helements⟩ := hat
  simp only [messageEntryHeader2Bytes, string2Bytes, List.flatten_cons, List.flatten_nil,
    List.append_nil, List.append_assoc, at_append, length_leBytes] at hheader
  obtain ⟨hsize, -, -, hpath, -, hmember, -, -, -, hmeta, -, hcount⟩ := hheader
  rw [entryFields, List.forall_mem_append]
  constructor
  · simp only [List.forall_mem_cons, ConstString.len]
    refine ⟨hsize, NumberField.filled_of_at hpath ?_, NumberField.filled_of_at hmember ?_,
      NumberField.filled_of_at hmeta ?_, NumberField.filled_of_at hcount ?_,
      List.forall_mem_nil _⟩ <;> omega
  · refine elementsFields_filled entry.elements hwritten ?_
    simpa only [Nat.add_assoc] using helements

/-! ## What fits -/

mutual

/-- No string of an element header needs more than two bytes for its length. The name of an
element with data is checked when it is written. -/
def ElementTree.NarrowStrings : ElementTree → Prop
  | .data _ _ _ => True
  | .nested header children => header.StringsWithin UINT16_MAX ∧ ElementsNarrow children

def ElementsNarrow : List ElementTree → Prop
  | [] => True
  | element :: elements => element.NarrowStrings ∧ ElementsNarrow elements

end

mutual

theorem elementFields_fit {o : Nat} (element : ElementTree) (hwritten : element.Written 2) :
    Fit (elementFields o element) ↔ element.NarrowStrings := by
  have hlength := length_elementBytes2 element
  cases element with
  | data elementName dataType data =>
      obtain ⟨-, hsize, -, hcount, hname⟩ := hwritten
      rw [elementBytes] at hlength
      rw [hlength] at hsize
      rw [elementFields, elementHeaderFields_fit hsize hcount, ElementTree.NarrowStrings]
      exact iff_true_intro ⟨hname rfl, Nat.zero_le _, Nat.zero_le _⟩
  | nested header children =>
      obtain ⟨-, hcount, hsize, hchildren⟩ := hwritten
      rw [messageElementHeaderBytes, if_pos rfl, length_messageElementHeader2Bytes,
        length_elementsBytes2, ← ElementTree.size2] at hsize
      rw [elementFields, fit_append, elementHeaderFields_fit hsize hcount,
        elementsFields_fit children hchildren, ElementTree.NarrowStrings]
      rfl

theorem elementsFields_fit {o : Nat} (elements : List ElementTree)
    (hwritten : ElementsWritten 2 elements) :
    Fit (elementsFields o elements) ↔ ElementsNarrow elements := by
  cases elements with
  | nil => exact iff_true_intro nofun
  | cons element elements =>
      rw [elementsFields, fit_append, elementFields_fit element hwritten.1,
        elementsFields_fit elements hwritten.2, ElementsNarrow]

end

/-- What an entry must be for its fields to say what they should. -/
structure EntryTree.Narrow (entry : EntryTree) : Prop where
  strings : entry.header.StringsWithin UINT16_MAX
  count : entry.elements.length ≤ UINT16_MAX
  size : entry.size2 ≤ UINT32_MAX
  elements : ElementsNarrow entry.elements

theorem entryFields_fit {o : Nat} {entry : EntryTree} (hwritten : ElementsWritten 2 entry.elements) :
    Fit (entryFields o entry) ↔ entry.Narrow := by
  rw [entryFields, fit_append, elementsFields_fit entry.elements hwritten]
  simp only [Fit, List.forall_mem_cons]
  constructor
  · rintro ⟨⟨hsize, hpath, hmember, hmeta, hcount, -⟩, helements⟩
    exact ⟨⟨Nat.le_of_lt_succ hpath, Nat.le_of_lt_succ hmember, Nat.le_of_lt_succ hmeta⟩,
      Nat.le_of_lt_succ hcount, Nat.le_of_lt_succ hsize, helements⟩
  · rintro ⟨⟨hpath, hmember, hmeta⟩, hcount, hsize, helements⟩
    exact ⟨⟨Nat.lt_succ_of_le hsize, Nat.lt_succ_of_le hpath, Nat.lt_succ_of_le hmember,
      Nat.lt_succ_of_le hmeta, Nat.lt_succ_of_le hcount, nofun⟩, helements⟩

/-- Every length, count and size in a version 2 entry is the true one if and only if the
strings of the entry header and of the headers of nested elements, the number of elements and
the size of the entry fit into their fields. -/
theorem entryFields_stated {unset : MessageElementWriter} {entryWriter w : MessageEntryWriter}
    {entry : EntryTree} {v v' : BufferVec} (hver : entryWriter.messageVersion = 2)
    (hwrite : writeEntry unset entryWriter entry v = (.ok w, v')) :
    (∀ field ∈ entryFields entryWriter.bufferOffset entry, field.Stated v'.bytes) ↔
      entry.Narrow := by
  have hput := writeEntry_puts unset entryWriter entry
  rw [hver] at hput
  obtain ⟨hwritten, -⟩ := answer_of_putsAt hput hwrite
  have hlong := messageEntryHeaderBytes_length hwritten.known entry.header 0 0
  have hat := at_of_putsAt hput hwrite (by rw [entryBytes_length hwritten.known]; omega)
  have hfilled := entryFields_filled hwritten.elements hat
  rw [← entryFields_fit (o := entryWriter.bufferOffset) hwritten.elements]
  exact forall₂_congr fun field hfield => (hfilled field hfield).stated_iff

end

section

open Lp64

def hundredBytes : BufferVec := ⟨[List.replicate 100 0], by decide⟩

/-- An entry with a service path and one element that has another in it. -/
def pathEntry : EntryTree where
  header :=
    { MessageEntryHeaderOf.zero (.constant []) with servicePath := .constant [0x61, 0x62] }
  elements :=
    [.nested (MessageElementHeaderOf.zero (.constant [0x63]))
      [.data (.constant [0x64]) 4 (.constant [7, 8])]]

/-- What is in the buffer after that entry was written. -/
def pathEntryBuffer : BufferVec :=
  (writeEntry ⟨0, 0, 0, 0, 0, 0, 0, 0⟩ ⟨10, 90, 0, 0, 0, 0, 0, 2⟩ pathEntry hundredBytes).2

theorem pathEntry_stated :
    writeEntry ⟨0, 0, 0, 0, 0, 0, 0, 0⟩ ⟨10, 90, 0, 0, 0, 0, 0, 2⟩ pathEntry hundredBytes =
        (.ok ⟨72, 28, 1, 62, 10, 32, 24, 2⟩, pathEntryBuffer) ∧
      ∀ field ∈ entryFields 10 pathEntry, field.Stated pathEntryBuffer.bytes := by
  have hwrite : writeEntry ⟨0, 0, 0, 0, 0, 0, 0, 0⟩ ⟨10, 90, 0, 0, 0, 0, 0, 2⟩ pathEntry
      hundredBytes = (.ok ⟨72, 28, 1, 62, 10, 32, 24, 2⟩, pathEntryBuffer) :=
    Prod.ext (by decide +kernel) (by rw [pathEntryBuffer])
  have hnested : ElementsNarrow pathEntry.elements :=
    ⟨⟨⟨by decide, by decide, by decide⟩, trivial, trivial⟩, trivial⟩
  exact ⟨hwrite, (entryFields_stated rfl hwrite).mpr ⟨⟨by decide, by decide, by decide⟩, by decide,
    by decide +kernel, hnested⟩⟩

theorem longPath_addressable :
    2 * (List.replicate 65536 (0x61 : UInt8)).length < SizeT.modulus := by
  rw [List.length_replicate]
  decide

/-- An entry whose service path is one byte too long for its length. -/
def longPathEntry : EntryTree where
  header :=
    { MessageEntryHeaderOf.zero (.constant []) with
      servicePath := ⟨List.replicate 65536 0x61, longPath_addressable⟩ }
  elements := []

theorem longPathBuffer_addressable :
    2 * [List.replicate 65600 (0 : UInt8)].flatten.length < SizeT.modulus := by
  rw [List.flatten_singleton, List.length_replicate]
  decide

/-- The entry is written, but does not say how long its service path is. -/
theorem longPathEntry_misstated :
    ∃ w v', writeEntry ⟨0, 0, 0, 0, 0, 0, 0, 0⟩ ⟨0, 65600, 0, 0, 0, 0, 0, 2⟩ longPathEntry
        ⟨[List.replicate 65600 0], longPathBuffer_addressable⟩ = (.ok w, v') ∧
      ¬ ∀ field ∈ entryFields 0 longPathEntry, field.Stated v'.bytes := by
  have hpath : longPathEntry.header.servicePath.len = 65536 := List.length_replicate
  have hstrings : longPathEntry.header.StringsWithin UINT32_MAX :=
    ⟨by rw [hpath]; decide, Nat.zero_le _, Nat.zero_le _⟩
  have hlength : (entryBytes 2 longPathEntry).length = 65558 := by
    rw [entryBytes_length (Or.inl rfl), messageEntryHeaderBytes, if_pos rfl,
      length_messageEntryHeader2Bytes, hpath]
    rfl
  obtain ⟨w, v', hwrite⟩ := writeEntry_succeeds (e := 65600) ⟨0, 0, 0, 0, 0, 0, 0, 0⟩
    ⟨0, 65600, 0, 0, 0, 0, 0, 2⟩ longPathEntry rfl (by decide)
    ⟨Or.inl rfl, hstrings, trivial, Nat.zero_le _⟩ trivial (by rw [hlength]; decide)
    ⟨[List.replicate 65600 0], longPathBuffer_addressable⟩
    (by rw [BufferVec.bytes, List.flatten_singleton, List.length_replicate])
  refine ⟨w, v', hwrite, fun hstated => ?_⟩
  have hput := writeEntry_puts ⟨0, 0, 0, 0, 0, 0, 0, 0⟩ ⟨0, 65600, 0, 0, 0, 0, 0, 2⟩ longPathEntry
  have hwritten := (answer_of_putsAt hput hwrite).1
  have hat := at_of_putsAt hput hwrite
    (by rw [entryBytes_length hwritten.known, messageEntryHeaderBytes, if_pos rfl,
      length_messageEntryHeader2Bytes]; omega)
  have hmem : ⟨8, 2, longPathEntry.header.servicePath.len⟩ ∈ entryFields 0 longPathEntry :=
    List.mem_cons_of_mem _ List.mem_cons_self
  have hfits := (entryFields_filled hwritten.elements hat _ hmem).stated_iff.mp (hstated _ hmem)
  rw [hpath] at hfits
  exact absurd hfits (by decide)

end

end RobotRaconteurLite

import RobotRaconteurLite.Proofs.Parsing
import RobotRaconteurLite.Proofs.Trees

/-!
# Entry headers and element headers come back

A header that was begun, whatever was written after it and however it was ended,
is the header the reader answers, with the sizes and the counts that were put in
at its end. An entry loses its member name code: the writer has no flag for it.
-/

namespace RobotRaconteurLite

open OffsetReader OffsetWriter LittleEndian Splice

theorem toNat_ofNat_of_le {n : Nat} (h : n ≤ UINT32_MAX) : (UInt32.ofNat n).toNat = n :=
  UInt32.toNat_ofNat_of_lt' (Nat.lt_succ_of_le h)

section

variable [SizeT]

/-! ## Entries -/

theorem MessageEntryHeaderOf.RoomFor.accepts {target : MessageEntryHeader}
    {header : MessageEntryConstHeader} (h : target.RoomFor header) : target.Accepts header :=
  ⟨Or.inr h.1, Or.inr h.2.1, Or.inr h.2.2⟩

theorem MessageElementHeaderOf.RoomFor.accepts {target : MessageElementHeader}
    {header : MessageElementConstHeader} (h : target.RoomFor header) : target.Accepts header :=
  ⟨Or.inr h.1, Or.inr h.2.1, Or.inr h.2.2⟩

/-- A version 4 entry header comes back as it was written unless it has a member name code. -/
theorem entryHeader_readsBack {unset : MessageElementWriter} {entryWriter w : MessageEntryWriter}
    {entry : EntryTree} {v v' : BufferVec} (hver : entryWriter.messageVersion = 4)
    (hwrite : writeEntry unset entryWriter entry v = (.ok w, v')) {reader : MessageEntryReader}
    (hbuffer : reader.buffer = v') (hoffset : reader.bufferOffset = entryWriter.bufferOffset)
    (hversion : reader.messageVersion = 4) {target : MessageEntryHeader}
    (hroom : target.RoomFor entry.header) :
    (∃ header, messageEntryReaderReadHeader reader target = .ok header ∧
        header.Reads entry.header) ↔ entry.header.memberNameCode = 0 := by
  have hput := writeEntry_puts unset entryWriter entry
  obtain ⟨hwritten, -⟩ := answer_of_putsAt hput hwrite
  have hlong := messageEntryHeaderBytes_length hwritten.known entry.header 0 0
  have hat := at_of_putsAt hput hwrite (by rw [entryBytes_length hwritten.known]; omega)
  rw [entryBytes, at_append, messageEntryHeaderBytes, if_neg (by rw [hver]; decide),
    if_pos hver] at hat
  rw [← hbuffer, ← hoffset] at hat
  obtain ⟨r, hread, hreads, -⟩ := messageEntryReaderReadHeader4Ex_parses reader target
    hwritten.strings hroom.accepts rfl hat.1
  have hanswer : messageEntryReaderReadHeader reader target = .ok r.1 := by
    rw [messageEntryReaderReadHeader, messageEntryReaderReadHeaderEx,
      if_neg (by rw [hversion]; decide), if_pos hversion, hread]
    rfl
  have hlost : r.1.memberNameCode = 0 := (hreads hroom).memberNameCode_eq
  constructor
  · rintro ⟨header, hheader, hsame⟩
    rw [hanswer] at hheader
    injection hheader with hheader
    rw [← hsame.memberNameCode_eq, ← hheader, hlost]
  · intro hcode
    refine ⟨r.1, hanswer, ?_⟩
    have hall := hreads hroom
    exact { hall with memberNameCode_eq := hlost.trans hcode.symm }

/-! ## Elements -/

theorem elementBytes_nested_length {messageVersion : UInt16} (hver : KnownVersion messageVersion)
    (header : MessageElementConstHeader) (children : List ElementTree) :
    (elementBytes messageVersion (.nested header children)).length =
      (messageElementHeaderBytes messageVersion header 0 0).length +
        (elementsBytes messageVersion children).length := by
  rw [elementBytes, List.length_append, (messageElementHeaderBytes_sized hver header).length_eq]

/-- The header of a version 4 element with elements in it comes back as it was written, with
the number of these elements and the size of all of it. -/
theorem nestedHeader_readsBack {unset elementWriter w : MessageElementWriter}
    {header : MessageElementConstHeader} {children : List ElementTree} {v v' : BufferVec}
    (hver : elementWriter.messageVersion = 4)
    (hwrite : writeElement unset elementWriter (.nested header children) v = (.ok w, v'))
    {reader : MessageElementReader} (hbuffer : reader.buffer = v')
    (hoffset : reader.bufferOffset = elementWriter.bufferOffset)
    (hversion : reader.messageVersion = 4) {target : MessageElementHeader}
    (hroom : target.RoomFor header) :
    ∃ r, messageElementReaderReadHeaderEx reader target = .ok r ∧ r.1.Reads header ∧
      r.1.dataCount.toNat = children.length ∧
      elementWriter.bufferOffset + r.1.elementSize.toNat = w.bufferOffset ∧
      (header.elementName.len > 0 →
        At v'.bytes r.2.elementNameStrOffset header.elementName.data) := by
  have hput := writeElement_puts unset elementWriter (.nested header children)
  obtain ⟨hknown, hwritten, hmore⟩ := answer_of_putsAt hput hwrite
  have hlong := messageElementHeaderBytes_length hknown header 0 0
  have hlength := elementBytes_nested_length hknown header children
  have hat := at_of_putsAt hput hwrite (by omega)
  obtain ⟨hstrings, hcount, hsize, -⟩ := hwritten
  rw [elementBytes, at_append, ← hlength, messageElementHeaderBytes, if_neg (by rw [hver]; decide),
    if_pos hver, ← hbuffer, ← hoffset] at hat
  obtain ⟨r, hread, hreads, hsize', hcount', -, -, hname, -⟩ :=
    messageElementReaderReadHeader4Ex_parses reader target
      (fun _ => messageReadUintX_long_parses _) (fun _ => messageReadUintX_long_parses _)
      hstrings hroom.accepts rfl hat.1
  refine ⟨r, ?_, hreads hroom, ?_, ?_, fun hnamed => ?_⟩
  · rw [messageElementReaderReadHeaderEx, if_neg (by rw [hversion]; decide), if_pos hversion, hread]
  · rw [hcount', toNat_ofNat_of_le hcount]
  · rw [hsize', hmore.offset_eq, toNat_ofNat_of_le (by omega)]
  · rw [if_pos hnamed] at hname
    rw [← hbuffer]
    exact hname

end

section

open Lp64

def fortyAndSixtyBytes : BufferVec := ⟨[List.replicate 40 0, List.replicate 60 0], by decide⟩

/-- An element header with a name, a number, a type name code and metadata. -/
def numberedElement (elementNumber : Int32) : MessageElementConstHeader where
  elementSize := 0
  elementFlags := 0
  elementName := .constant [0x61, 0x62]
  elementNameCode := 0
  elementNumber := elementNumber
  elementType := DATATYPE_LIST
  elementTypeName := .constant []
  elementTypeNameCode := 300
  metadata := .constant [0x63]
  dataCount := 0

/-- Two elements, the second of them with nothing in it. -/
def twoChildren : List ElementTree :=
  [.data (.constant [0x64]) 4 (.constant [7, 8]), .nested (numberedElement 0) []]

/-- An entry with these elements, a path and a member name code. -/
def codedEntry (memberNameCode : UInt32) : EntryTree where
  header :=
    { MessageEntryHeaderOf.zero (.constant []) with
      entryType := 103
      servicePath := .constant [0x70]
      memberNameCode := memberNameCode
      requestId := 9 }
  elements := twoChildren

/-- What is in the buffer after such an entry was written from its eleventh byte on. -/
def entryBuffer (memberNameCode : UInt32) : BufferVec :=
  (writeEntry ⟨0, 0, 0, 0, 0, 0, 0, 0⟩ ⟨10, 90, 0, 0, 0, 0, 0, 4⟩ (codedEntry memberNameCode)
    fortyAndSixtyBytes).2

def roomyEntryHeader : MessageEntryHeader :=
  MessageEntryHeaderOf.zero (.cleared 4)

theorem codedEntry_readsBack :
    ∃ header, messageEntryReaderReadHeader ⟨entryBuffer 0, 10, 0, 0, 0, 0, 4⟩ roomyEntryHeader =
      .ok header ∧ header.Reads (codedEntry 0).header := by
  have hwrite : writeEntry ⟨0, 0, 0, 0, 0, 0, 0, 0⟩ ⟨10, 90, 0, 0, 0, 0, 0, 4⟩ (codedEntry 0)
      fortyAndSixtyBytes = (.ok ⟨56, 44, 1, 46, 11, 22, 16, 4⟩, entryBuffer 0) :=
    Prod.ext (by decide +kernel) (by rw [entryBuffer])
  have hroom : roomyEntryHeader.RoomFor (codedEntry 0).header :=
    ⟨(by decide : 1 ≤ 4), (by decide : 0 ≤ 4), (by decide : 0 ≤ 4)⟩
  refine (entryHeader_readsBack rfl hwrite ?_ rfl rfl hroom).mpr rfl
  dsimp only

/-- A member name code is gone when the entry is read. -/
theorem codedEntry_losesCode :
    (writeEntry ⟨0, 0, 0, 0, 0, 0, 0, 0⟩ ⟨10, 90, 0, 0, 0, 0, 0, 4⟩ (codedEntry 5)
        fortyAndSixtyBytes).1 = .ok ⟨56, 44, 1, 46, 11, 22, 16, 4⟩ ∧
      ¬ ∃ header, messageEntryReaderReadHeader ⟨entryBuffer 5, 10, 0, 0, 0, 0, 4⟩ roomyEntryHeader =
        .ok header ∧ header.Reads (codedEntry 5).header := by
  refine ⟨by decide +kernel, ?_⟩
  rintro ⟨header, hread, hsame⟩
  have hcode : (messageEntryReaderReadHeader ⟨entryBuffer 5, 10, 0, 0, 0, 0, 4⟩
      roomyEntryHeader).map (·.memberNameCode) = .ok 0 := by decide +kernel
  rw [hread] at hcode
  injection hcode with hcode
  exact absurd (hcode.symm.trans hsame.memberNameCode_eq) (by decide)

/-- What is in the buffer after an element with two others in it. -/
def nestedBuffer : BufferVec :=
  (writeElement ⟨0, 0, 0, 0, 0, 0, 0, 0⟩ ⟨10, 90, 0, 0, 0, 0, 0, 4⟩
    (.nested (numberedElement (-70000)) twoChildren) fortyAndSixtyBytes).2

theorem numberedElement_readsBack :
    ∃ r, messageElementReaderReadHeaderEx ⟨nestedBuffer, 10, 0, 0, 0, 0, 4⟩
        (MessageElementHeaderOf.zero (.cleared 4)) = .ok r ∧
      r.1.Reads (numberedElement (-70000)) ∧ r.1.dataCount.toNat = twoChildren.length ∧
      10 + r.1.elementSize.toNat = 66 ∧
      ((numberedElement (-70000)).elementName.len > 0 →
        At nestedBuffer.bytes r.2.elementNameStrOffset (numberedElement (-70000)).elementName.data) := by
  have hwrite : writeElement ⟨0, 0, 0, 0, 0, 0, 0, 0⟩ ⟨10, 90, 0, 0, 0, 0, 0, 4⟩
      (.nested (numberedElement (-70000)) twoChildren) fortyAndSixtyBytes =
      (.ok ⟨66, 34, 1, 56, 11, 32, 26, 4⟩, nestedBuffer) :=
    Prod.ext (by decide +kernel) (by rw [nestedBuffer])
  refine nestedHeader_readsBack rfl hwrite ?_ rfl rfl
    ⟨(by decide : 2 ≤ 4), (by decide : 0 ≤ 4), (by decide : 1 ≤ 4)⟩
  dsimp only

end

end RobotRaconteurLite

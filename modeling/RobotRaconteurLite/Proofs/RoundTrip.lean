import RobotRaconteurLite.Proofs.Entries
import RobotRaconteurLite.Proofs.MessageHeaders
import RobotRaconteurLite.Proofs.MessageTrees
import RobotRaconteurLite.Proofs.TreeReads

/-!
# A message comes back as it was written

An application that opens each list and moves from one member to the next until there
is no more sees the tree that was written, if it has entries: the call that opens an
entry or a nested element answers that there is nothing in it, and the call that opens
a message never does.
-/

namespace RobotRaconteurLite

open OffsetReader OffsetWriter LittleEndian Splice

/-- A read that fails does not say that there is no more. -/
def NeverNoMore {α : Type} (read : Cursor α) : Prop := ∀ o, read o ≠ .error .noMore

theorem NeverNoMore.pure {α : Type} (a : α) : NeverNoMore (pure a : Cursor α) :=
  fun _ h => by cases h

theorem NeverNoMore.bind {α β : Type} {read : Cursor α} {rest : α → Cursor β}
    (hread : NeverNoMore read) (hrest : ∀ a, NeverNoMore (rest a)) : NeverNoMore (read >>= rest) := by
  intro o h
  rw [bind_apply] at h
  cases hfirst : read o with
  | error e =>
      rw [hfirst] at h
      cases h
      exact hread o hfirst
  | ok p =>
      rw [hfirst] at h
      exact hrest p.1 p.2 h

theorem NeverNoMore.ite {α : Type} {c : Prop} [Decidable c] {read read' : Cursor α}
    (hread : NeverNoMore read) (hread' : NeverNoMore read') :
    NeverNoMore (if c then read else read') := by
  split
  · exact hread
  · exact hread'

section

variable [SizeT]

/-! ## What an application sees -/

/-- The element that `reader` is at tells its name, its type, and how many items are in it. -/
def TellsElement (reader : MessageElementReader) (element : ElementTree) : Prop :=
  ∀ target : MessageElementHeader, target.RoomFor element.header →
    ∃ header, messageElementReaderReadHeader reader target = .ok header ∧
      header.Tells element.header ∧ header.elementType = element.header.elementType ∧
      header.dataCount.toNat = element.count

mutual

/-- The element that `reader` is at is this one, down to the data in it. -/
def VisitsElement (reader : MessageElementReader) : ElementTree → Prop
  | .data elementName dataType data =>
      TellsElement reader (.data elementName dataType data) ∧
      ∀ dest : CArray, dest.elemSize = data.elemSize → data.len ≤ dest.len →
        messageElementReaderReadDataEx reader dest.data dest.len dataType dest.elemSize =
          .ok (overwrite dest.data 0 data.data, data.len)
  | .nested header children =>
      TellsElement reader (.nested header children) ∧
      VisitsElements (messageElementReaderBeginReadNestedElements reader) children

/-- The reader that a call has answered is at the first of the elements, and goes on to the
last. -/
def VisitsElements (opened : Result MessageElementReader) : List ElementTree → Prop
  | [] => opened = .error .noMore
  | element :: elements => ∃ reader, opened = .ok reader ∧ VisitsElement reader element ∧
      VisitsElements (messageElementReaderMoveNext reader) elements

end

def VisitsEntry (reader : MessageEntryReader) (entry : EntryTree) : Prop :=
  (∀ target : MessageEntryHeader, target.RoomFor entry.header →
    ∃ header, messageEntryReaderReadHeader reader target = .ok header ∧
      header.Tells entry.header ∧ header.elementCount.toNat = entry.elements.length) ∧
  VisitsElements (messageEntryReaderBeginReadElements reader) entry.elements

def VisitsEntries (opened : Result MessageEntryReader) : List EntryTree → Prop
  | [] => opened = .error .noMore
  | entry :: entries => ∃ reader, opened = .ok reader ∧ VisitsEntry reader entry ∧
      VisitsEntries (messageEntryReaderMoveNext reader) entries

/-- A reader opened over `messageSize` bytes goes through this message. -/
def VisitsMessage (reader : MessageReader) (buffer : BufferVec) (messageSize : Nat)
    (message : MessageTree) : Prop :=
  ∃ opened, messageReaderInit reader buffer 0 messageSize = .ok opened ∧
    ∀ target : MessageHeader, target.RoomFor message.header →
      ∃ header opened', messageReaderReadHeader opened target = .ok (header, opened') ∧
        header.entryCount.toNat = message.entries.length ∧
        VisitsEntries (messageReaderBeginReadEntries opened') message.entries

mutual

/-- Every nested element has a type that `begin_read_nested_elements` opens. -/
def ElementTree.Opens : ElementTree → Prop
  | .data _ _ _ => True
  | .nested header children => header.elementType ∈ nestedElementTypes ∧ ElementsOpen children

def ElementsOpen : List ElementTree → Prop
  | [] => True
  | element :: elements => element.Opens ∧ ElementsOpen elements

end

/-! ## Elements -/

theorem tellsElement_of_at {messageVersion : UInt16} {element : ElementTree}
    {reader : MessageElementReader} (hver : KnownVersion messageVersion)
    (hwritten : element.Written messageVersion)
    (hnarrow : messageVersion = 2 → element.NarrowStrings)
    (hversion : reader.messageVersion = messageVersion)
    (hat : At reader.buffer.bytes reader.bufferOffset (elementBytes messageVersion element)) :
    TellsElement reader element := by
  intro target hroom
  obtain ⟨p, hread, hseen⟩ := elementHeader_seen hver hwritten hnarrow hversion hat hroom.accepts
  refine ⟨p.1, ?_, hseen.tells hroom, hseen.type_eq, hseen.count_eq⟩
  rw [messageElementReaderReadHeader, hread]
  rfl

theorem readDataEx_of_at {messageVersion : UInt16} {elementName : ConstString} {dataType : UInt16}
    {data : CArray} {reader : MessageElementReader} (hver : KnownVersion messageVersion)
    (hwritten : (ElementTree.data elementName dataType data).Written messageVersion)
    (hone : reader.buffer.segments.length = 1) (hversion : reader.messageVersion = messageVersion)
    (hat : At reader.buffer.bytes reader.bufferOffset
      (elementBytes messageVersion (.data elementName dataType data)))
    {dest : CArray} (hsize : dest.elemSize = data.elemSize) (hroom : data.len ≤ dest.len) :
    messageElementReaderReadDataEx reader dest.data dest.len dataType dest.elemSize =
      .ok (overwrite dest.data 0 data.data, data.len) := by
  obtain ⟨p, hread, hseen⟩ := elementHeader_seen hver hwritten (fun _ => trivial) hversion hat
    (MessageElementHeaderOf.accepts_null _)
  have hsmall := data.addressable
  have hlength := data.length_data
  have htype : p.1.elementType = dataType := hseen.type_eq
  have hcount : p.1.dataCount.toNat = data.len := hseen.count_eq
  have hends : p.2.headerSize + data.data.length = p.1.elementSize.toNat :=
    hseen.end_eq.trans hseen.size_eq.symm
  have hpayload : At reader.buffer.bytes p.2.dataStartOffset data.data := hseen.payload_at
  have hlt := p.1.elementSize.toNat_lt
  have hmod := SizeT.le_modulus
  have hrest : subSz p.1.elementSize.toNat p.2.headerSize = data.data.length :=
    subSz_of_eq_add hends.symm (by omega)
  have hproduct : mulSz dest.elemSize data.len = data.data.length := by
    rw [hsize, mulSz_eq (by rw [Nat.mul_comm, ← hlength]; omega), Nat.mul_comm, hlength]
  have hinfo : messageElementReaderGetDataInfo reader dataType dest.elemSize =
      .ok (p.2.dataStartOffset, data.data.length, p.1.dataCount) := by
    rw [messageElementReaderGetDataInfo, hread]
    simp [bind, Except.bind, failIf, htype, hcount, hrest, hproduct, pure, Except.pure]
  have hcopy : bufferVecCopyToMem reader.buffer p.2.dataStartOffset dest.data dest.len 0
      dest.elemSize data.len = .ok (overwrite dest.data 0 data.data) := by
    rcases Nat.eq_zero_or_pos data.len with h0 | hpos
    · have hnil : data.data = [] :=
        List.eq_nil_of_length_eq_zero (by rw [hlength, h0, Nat.zero_mul])
      rw [h0, bufferVecCopyToMem_zero, if_pos (Or.inl hone), hnil, overwrite_nil]
    · have hle := Nat.le_mul_of_pos_right data.len data.elemSize_pos
      rw [← hlength] at hle
      rw [bufferVecCopyToMem_eq _ _ _ hpos (by omega), if_pos hroom, hsize, ← hlength,
        fetch_of_at (by omega) hpayload]
      rfl
  rw [messageElementReaderReadDataEx, hinfo]
  simp only [bind, Except.bind, hcount, hcopy, pure, Except.pure]

/-- The call that opened these elements is at the first of them, or said that there is none. -/
def OpenedAt (opened : Result MessageElementReader) (buffer : BufferVec) (messageVersion : UInt16)
    (elements : List ElementTree) : Prop :=
  (elements = [] ∧ opened = .error .noMore) ∨
  ∃ start before element after, elements = element :: after ∧
    LieAt buffer messageVersion start (before ++ element :: after) ∧
    opened = .ok (readerAt buffer messageVersion start before element after)

/-- The next one, if there is one. -/
theorem openedAt_moveNext {buffer : BufferVec} {messageVersion : UInt16} {start : Nat}
    {before after : List ElementTree} {element : ElementTree}
    (h : LieAt buffer messageVersion start (before ++ element :: after)) :
    OpenedAt (messageElementReaderMoveNext (readerAt buffer messageVersion start before element after))
      buffer messageVersion after := by
  cases after with
  | nil => exact Or.inl ⟨rfl, moveNext_readerAt_last h⟩
  | cons next after =>
      refine Or.inr ⟨start, before ++ [element], next, after, rfl, ?_, h.moveNext⟩
      rwa [List.append_assoc]

mutual

theorem visitsElement_of_lieAt {buffer : BufferVec} {messageVersion : UInt16} {start : Nat}
    {before after : List ElementTree} (element : ElementTree)
    (h : LieAt buffer messageVersion start (before ++ element :: after)) (hopens : element.Opens) :
    VisitsElement (readerAt buffer messageVersion start before element after) element := by
  have hmem : element ∈ before ++ element :: after := by simp
  have hwritten := elementsWritten_iff.mp h.written element hmem
  have hnarrow := fun h2 => elementsNarrow_iff.mp (h.narrow h2) element hmem
  have hat := h.there
  rw [elementsBytes_append, elementsBytes, at_append, at_append] at hat
  have htells : TellsElement (readerAt buffer messageVersion start before element after) element :=
    tellsElement_of_at h.known hwritten hnarrow rfl hat.2.1
  cases element with
  | data elementName dataType data =>
      exact ⟨htells, fun dest hsize hroom =>
        readDataEx_of_at h.known hwritten h.one rfl hat.2.1 hsize hroom⟩
  | nested header children =>
      have hopened : OpenedAt (messageElementReaderBeginReadNestedElements
          (readerAt buffer messageVersion start before (.nested header children) after)) buffer
          messageVersion children := by
        rcases beginReadNestedElements_readerAt h.known hwritten hnarrow hopens.1
          (readerAt buffer messageVersion start before (.nested header children) after) h.one rfl rfl
          hat.2.1 rfl with ⟨rfl, hbegin⟩ | ⟨first, rest, rfl, hlie, hbegin⟩
        · exact Or.inl ⟨rfl, hbegin⟩
        · exact Or.inr ⟨_, [], first, rest, rfl, hlie, hbegin⟩
      exact ⟨htells, visitsElements_of_openedAt children hopened hopens.2⟩

theorem visitsElements_of_openedAt {opened : Result MessageElementReader} {buffer : BufferVec}
    {messageVersion : UInt16} (elements : List ElementTree)
    (h : OpenedAt opened buffer messageVersion elements) (hopen : ElementsOpen elements) :
    VisitsElements opened elements := by
  cases elements with
  | nil =>
      rcases h with ⟨-, hnone⟩ | ⟨start, before, element, after, hlist, -⟩
      · exact hnone
      · cases hlist
  | cons element elements =>
      rcases h with ⟨hlist, -⟩ | ⟨start, before, first, after, hlist, hlie, rfl⟩
      · cases hlist
      · cases hlist
        exact ⟨_, rfl, visitsElement_of_lieAt element hlie hopen.1,
          visitsElements_of_openedAt elements (openedAt_moveNext hlie) hopen.2⟩

end

/-! ## Entries -/

/-- An entry starts with its size. -/
theorem messageReadCount_of_at {messageVersion : UInt16} (hver : KnownVersion messageVersion)
    {buffer : BufferVec} {o : Nat} {entry : EntryTree}
    (hat : At buffer.bytes o (entryBytes messageVersion entry)) :
    ∃ o', messageReadCount buffer messageVersion o =
      .ok (UInt32.ofNat (entryBytes messageVersion entry).length, o') := by
  rw [entryBytes_length hver]
  rw [entryBytes, at_append] at hat
  obtain ⟨hat, -⟩ := hat
  rw [messageReadCount]
  rcases hver with rfl | rfl
  · rw [messageEntryHeaderBytes, if_pos rfl, messageEntryHeader2Bytes, List.flatten_cons,
      at_append] at hat
    obtain ⟨size, hread, rfl⟩ := messageReadUint32_parses _ hat.1
    rw [if_pos rfl, hread]
    exact ⟨_, rfl⟩
  · have h42 : ¬ (4 : UInt16) = 2 := by decide
    rw [messageEntryHeaderBytes, if_neg h42, if_pos rfl, messageEntryHeader4Bytes,
      List.flatten_cons, at_append] at hat
    obtain ⟨size, hread, rfl⟩ := messageReadUintX_long_parses _ hat.1
    rw [if_neg h42, if_pos rfl, hread]
    exact ⟨_, rfl⟩

theorem entriesBytes_append (messageVersion : UInt16) (before after : List EntryTree) :
    entriesBytes messageVersion (before ++ after) =
      entriesBytes messageVersion before ++ entriesBytes messageVersion after := by
  induction before with
  | nil => rfl
  | cons entry before ih =>
      rw [List.cons_append, entriesBytes, entriesBytes, ih, List.append_assoc]

/-- Entries that were written lie in one piece of memory, and their number where `move_next` is
to look for it, if that is anywhere. -/
structure EntriesLieAt (buffer : BufferVec) (messageVersion : UInt16) (countOffset start : Nat)
    (entries : List EntryTree) : Prop where
  known : KnownVersion messageVersion
  one : buffer.segments.length = 1
  written : ∀ entry ∈ entries, entry.Written messageVersion
  narrow : messageVersion = 2 → ∀ entry ∈ entries, entry.Narrow
  opens : ∀ entry ∈ entries, ElementsOpen entry.elements
  few : entries.length ≤ UINT16_MAX
  short : (entriesBytes messageVersion entries).length ≤ UINT32_MAX
  there : At buffer.bytes start (entriesBytes messageVersion entries)
  counted : countOffset = sizeTMax ∧ entries.length = 1 ∨ countOffset ≠ sizeTMax ∧
    ∃ o, messageReadCount2 buffer messageVersion countOffset =
      .ok (UInt32.ofNat entries.length, o)

/-- The reader at an entry, with those behind it still to come. -/
def entryReaderAt (buffer : BufferVec) (messageVersion : UInt16) (countOffset start : Nat)
    (before : List EntryTree) (entry : EntryTree) (after : List EntryTree) : MessageEntryReader where
  buffer := buffer
  bufferOffset := start + (entriesBytes messageVersion before).length
  bufferCount := (entryBytes messageVersion entry).length
  bufferRemaining := (entriesBytes messageVersion after).length
  currentEntry := before.length
  entryCountOffset := countOffset
  messageVersion := messageVersion

section

variable {buffer : BufferVec} {messageVersion : UInt16} {countOffset start : Nat}
  {before after : List EntryTree} {entry : EntryTree}

theorem EntriesLieAt.at_entry
    (h : EntriesLieAt buffer messageVersion countOffset start (before ++ entry :: after)) :
    At buffer.bytes (start + (entriesBytes messageVersion before).length)
      (entryBytes messageVersion entry) := by
  have hat := h.there
  rw [entriesBytes_append, entriesBytes, at_append, at_append] at hat
  exact hat.2.1

theorem EntriesLieAt.visitsEntry
    (h : EntriesLieAt buffer messageVersion countOffset start (before ++ entry :: after)) :
    VisitsEntry (entryReaderAt buffer messageVersion countOffset start before entry after) entry := by
  have hmem : entry ∈ before ++ entry :: after := by simp
  have hwritten := h.written entry hmem
  have hnarrow := fun h2 => h.narrow h2 entry hmem
  have hat := h.at_entry
  constructor
  · intro target hroom
    have hfound : ∃ p, messageEntryReaderReadHeaderEx
          (entryReaderAt buffer messageVersion countOffset start before entry after) target = .ok p ∧
        entry.Seen messageVersion
          (entryReaderAt buffer messageVersion countOffset start before entry after) target p :=
      entryHeader_seen hwritten (fun h => (hnarrow h).legible) rfl hat hroom.accepts
    obtain ⟨p, hread, hseen⟩ := hfound
    refine ⟨p.1, ?_, hseen.tells hroom, hseen.count_eq⟩
    rw [messageEntryReaderReadHeader, hread]
    rfl
  · have hopened : OpenedAt (messageEntryReaderBeginReadElements
        (entryReaderAt buffer messageVersion countOffset start before entry after)) buffer
        messageVersion entry.elements := by
      rcases beginReadElements_readerAt hwritten (fun h => (hnarrow h).legible)
        (entryReaderAt buffer messageVersion countOffset start before entry after) h.one rfl rfl hat
        rfl with ⟨hnil, hbegin⟩ | ⟨first, rest, hlist, hlie, hbegin⟩
      · exact Or.inl ⟨hnil, hbegin⟩
      · exact Or.inr ⟨_, [], first, rest, hlist, hlie, hbegin⟩
    exact visitsElements_of_openedAt entry.elements hopened (h.opens entry hmem)

theorem messageEntryReaderMoveNext_noMore {r : MessageEntryReader} {total : UInt32} {o : Nat}
    (hcount : messageReadCount2 r.buffer r.messageVersion r.entryCountOffset = .ok (total, o))
    (hlast : total.toNat ≤ addSz r.currentEntry 1) :
    messageEntryReaderMoveNext r = .error .noMore := by
  by_cases hnowhere : r.entryCountOffset = sizeTMax
  · simp [messageEntryReaderMoveNext, failIf, hnowhere, bind, Except.bind, throw, throwThe,
      MonadExceptOf.throw]
  · simp [messageEntryReaderMoveNext, failIf, hnowhere, hcount, Nat.not_lt.mpr hlast, bind,
      Except.bind, throw, throwThe, MonadExceptOf.throw, pure, Except.pure]

theorem EntriesLieAt.moveNext_last
    (h : EntriesLieAt buffer messageVersion countOffset start (before ++ [entry])) :
    messageEntryReaderMoveNext
      (entryReaderAt buffer messageVersion countOffset start before entry []) = .error .noMore := by
  have hmod := SizeT.le_modulus
  have hfew := h.few
  have h16 : UINT16_MAX < 2 ^ 16 := by decide
  rcases h.counted with ⟨hnowhere, -⟩ | ⟨-, o, hcount⟩
  · rw [messageEntryReaderMoveNext, failIf, if_pos]
    · rfl
    · exact hnowhere
  · refine messageEntryReaderMoveNext_noMore hcount ?_
    rw [toNat_ofNat_of_le (Nat.le_trans hfew (by decide)), List.length_append,
      List.length_singleton]
    show _ ≤ addSz before.length 1
    rw [List.length_append, List.length_singleton] at hfew
    rw [addSz_eq (by omega)]

theorem EntriesLieAt.moveNext {next : EntryTree}
    (h : EntriesLieAt buffer messageVersion countOffset start (before ++ entry :: next :: after)) :
    messageEntryReaderMoveNext
        (entryReaderAt buffer messageVersion countOffset start before entry (next :: after)) =
      .ok (entryReaderAt buffer messageVersion countOffset start (before ++ [entry]) next after) := by
  have hmod := SizeT.le_modulus
  have hsmall := buffer.length_bytes
  have h16 : UINT16_MAX < 2 ^ 16 := by decide
  have hfew := h.few
  have hshort := h.short
  have hend := h.there.2
  have hsplit : before ++ entry :: next :: after = (before ++ [entry]) ++ next :: after := by simp
  have hpast : (entriesBytes messageVersion (before ++ [entry])).length =
      (entriesBytes messageVersion before).length + (entryBytes messageVersion entry).length := by
    rw [entriesBytes_append, List.length_append, entriesBytes, entriesBytes, List.append_nil]
  have hremaining : (entriesBytes messageVersion (next :: after)).length =
      (entryBytes messageVersion next).length + (entriesBytes messageVersion after).length := by
    rw [entriesBytes, List.length_append]
  have hnext := h
  rw [hsplit] at hnext
  obtain ⟨o', hsize⟩ := messageReadCount_of_at h.known hnext.at_entry
  rw [hsplit, entriesBytes_append, List.length_append] at hend hshort
  rw [List.length_append, List.length_cons, List.length_cons] at hfew
  have hoffset : addSz (start + (entriesBytes messageVersion before).length)
      (entryBytes messageVersion entry).length =
      start + (entriesBytes messageVersion (before ++ [entry])).length := by
    rw [addSz_eq (by omega), hpast, Nat.add_assoc]
  have hcurrent : addSz before.length 1 = (before ++ [entry]).length := by
    rw [addSz_eq (by omega), List.length_append, List.length_singleton]
  have hwhole : (UInt32.ofNat (entryBytes messageVersion next).length).toNat =
      (entryBytes messageVersion next).length := toNat_ofNat_of_le (by omega)
  obtain ⟨hthere, o, hcount⟩ : countOffset ≠ sizeTMax ∧ ∃ o, messageReadCount2 buffer messageVersion
      countOffset = .ok (UInt32.ofNat (before ++ entry :: next :: after).length, o) := by
    refine h.counted.resolve_left fun hone => ?_
    have hlength := hone.2
    rw [List.length_append, List.length_cons, List.length_cons] at hlength
    omega
  refine messageEntryReaderMoveNext_iff.mpr ⟨_, o,
    UInt32.ofNat (entryBytes messageVersion next).length, o', hthere, hcount, ?_, ?_, ?_, ?_⟩
  · rw [toNat_ofNat_of_le (Nat.le_trans h.few (by decide))]
    show addSz before.length 1 < _
    rw [addSz_eq (by omega), List.length_append, List.length_cons, List.length_cons]
    omega
  · show messageReadCount buffer messageVersion (addSz (start +
      (entriesBytes messageVersion before).length) (entryBytes messageVersion entry).length) = _
    rw [hoffset]
    exact hsize
  · rw [hwhole]
    show _ ≤ (entriesBytes messageVersion (next :: after)).length
    omega
  · have hleft : subSz (entriesBytes messageVersion (next :: after)).length
        (entryBytes messageVersion next).length = (entriesBytes messageVersion after).length :=
      subSz_of_eq_add hremaining (by omega)
    simp only [entryReaderAt, hwhole, hoffset, hcurrent, hleft]

theorem visitsEntries_of_lieAt
    (h : EntriesLieAt buffer messageVersion countOffset start (before ++ entry :: after)) :
    VisitsEntries (.ok (entryReaderAt buffer messageVersion countOffset start before entry after))
      (entry :: after) := by
  induction after generalizing before entry with
  | nil => exact ⟨_, rfl, h.visitsEntry, h.moveNext_last⟩
  | cons next after ih =>
      refine ⟨_, rfl, h.visitsEntry, ?_⟩
      rw [h.moveNext]
      refine ih ?_
      rwa [List.append_assoc]

end

/-! ## The message -/

section

variable {messageVersion : UInt16} {header : MessageConstHeader} {messageFlagsMask : BitVec 8}
  {messageSize : Nat} {entryCount : UInt32} {buffer : BufferVec}

theorem countedHeaderBytes_version (hver : KnownVersion messageVersion)
    (header : MessageConstHeader) (messageFlagsMask : BitVec 8) (messageSize : Nat)
    (entryCount : UInt32) :
    ∃ rest, countedHeaderBytes messageVersion header messageFlagsMask messageSize entryCount =
      [0x52, 0x52, 0x41, 0x43] ++ (leBytes 4 messageSize ++ (leBytes 2 messageVersion.toNat ++ rest)) := by
  rcases hver with rfl | rfl
  · rw [countedHeaderBytes, if_pos rfl, messageHeader2Bytes]
    simp only [List.flatten_cons]
    exact ⟨_, rfl⟩
  · rw [countedHeaderBytes, if_neg (by decide), if_pos rfl, messageHeader4Bytes]
    simp only [List.flatten_cons]
    exact ⟨_, rfl⟩

theorem bufferVecCopyToUint32_of_at {o n : Nat} (hat : At buffer.bytes o (leBytes 4 n)) :
    bufferVecCopyToUint32 buffer o = .ok (UInt32.ofNat n) := by
  obtain ⟨a, hread, ha⟩ := messageReadUint32_parses n hat
  obtain ⟨b, hcopy, hb⟩ := bind_eq_ok.mp hread
  rw [hcopy]
  injection hb with hb
  exact congrArg _ ((Prod.mk.inj hb).1.trans ha)

theorem messageReaderInit_of_at (hver : KnownVersion messageVersion) (reader : MessageReader)
    {rest : List UInt8} (hat : At buffer.bytes 0
      (countedHeaderBytes messageVersion header messageFlagsMask messageSize entryCount ++ rest))
    (hsize : messageSize =
      (countedHeaderBytes messageVersion header messageFlagsMask messageSize entryCount ++ rest).length)
    (hmax : messageSize ≤ UINT32_MAX) :
    messageReaderInit reader buffer 0 messageSize = .ok { reader with
      buffer := buffer, bufferOffset := 0, bufferCount := messageSize } := by
  have hsmall := buffer.length_bytes
  have hmod := SizeT.le_modulus
  have hend := hat.2
  rw [← hsize, Nat.zero_add] at hend
  obtain ⟨rest', hrest⟩ := countedHeaderBytes_version hver header messageFlagsMask messageSize
    entryCount
  have hlong : 10 ≤ messageSize := by
    rw [hsize, hrest]
    simp only [List.length_append, length_leBytes, List.length_cons, List.length_nil]
    omega
  rw [hrest, at_append, at_append, at_append] at hat
  obtain ⟨⟨hmagic, hstated, -⟩, -⟩ := hat
  have hmagicRead : bufferVecCopyToUint8Array buffer 0 (List.replicate 4 0) 0 4 =
      .ok [0x52, 0x52, 0x41, 0x43] := by
    have hcopy : bufferVecCopyToUint8Array buffer 0 (List.replicate 4 0) 0 4 =
        (fetch buffer.bytes 0 4).map fun bs => overwrite (List.replicate 4 0) 0 bs :=
      bufferVecCopyToString_eq buffer 0 (by rw [List.length_replicate]; omega) (by decide)
        (by decide)
    rw [hcopy, show (4 : Nat) = ([0x52, 0x52, 0x41, 0x43] : List UInt8).length from rfl,
      fetch_of_at (by decide) hmagic]
    rfl
  have hsizeRead : bufferVecCopyToUint32 buffer (addSz 0 4) = .ok (UInt32.ofNat messageSize) := by
    rw [addSz_eq (by omega)]
    exact bufferVecCopyToUint32_of_at hstated
  simp only [messageReaderInit, bind, bind_eq_ok, failIf_eq_ok, pure, Except.pure]
  refine ⟨(), ?_, (), Nat.not_lt.mpr hlong, _, hmagicRead, (), fun h => h rfl, _, hsizeRead, (), ?_,
    trivial⟩
  · rw [bufferVecLen_toBuffers, addSz_eq (by omega), Nat.zero_add]
    exact Nat.not_lt.mpr hend
  · rw [toNat_ofNat_of_le hmax]
    exact Nat.lt_irrefl _

theorem messageReadCount2_of_at (hver : KnownVersion messageVersion)
    (hfew : entryCount.toNat ≤ UINT16_MAX)
    (hat : At buffer.bytes 0
      (countedHeaderBytes messageVersion header messageFlagsMask messageSize entryCount))
    {countOffset : Nat} (hcount : CountRead messageVersion header messageFlagsMask countOffset
      (countedHeaderBytes messageVersion header messageFlagsMask messageSize entryCount).length)
    (hthere : messageVersion = 2 ∨ flagsCheck (messageHeader4Flags header messageFlagsMask)
      MESSAGE_FLAGS_MULTIPLE_ENTRIES = true) :
    ∃ o, messageReadCount2 buffer messageVersion countOffset = .ok (entryCount, o) := by
  obtain ⟨front, middle, back, width, hshape⟩ := countedHeader_shape hver header messageFlagsMask
  have hfront := hshape.front_length
  rw [messageReadCount2]
  rw [hshape.bytes_eq] at hat hcount
  rw [CountRead] at hcount
  simp only [List.length_append, length_leBytes] at hcount
  simp only [at_append, List.length_append, length_leBytes] at hat
  obtain ⟨rfl, rfl, hback⟩ | ⟨rfl, rfl, hwidth⟩ := hshape.counted
  · rw [if_pos rfl] at hcount ⊢
    obtain ⟨val, hread, rfl⟩ := messageReadUint16_parses _ hat.2.1.2
    have hplace : countOffset = 0 + (front.length + 4) + middle.length := by omega
    have hval : (UInt16.ofNat entryCount.toNat).toUInt32 = entryCount := by
      apply UInt32.toNat_inj.mp
      rw [UInt16.toNat_toUInt32]
      exact UInt16.toNat_ofNat_of_lt' (Nat.lt_succ_of_le hfew)
    rw [hplace, bind_apply, hread]
    simp only [Except.bind, hval]
    exact ⟨_, rfl⟩
  · have h42 : ¬ (4 : UInt16) = 2 := by decide
    have hflag := hthere.resolve_left h42
    rw [if_neg h42, if_pos hflag] at hcount
    rw [if_pos hflag] at hwidth
    subst hwidth
    obtain ⟨fields, rfl⟩ := hshape.escape rfl
    rw [at_append] at hat
    have hplace : countOffset = 0 + (front.length + 4) + fields.length := by
      rw [List.length_append, List.length_singleton, List.length_nil] at hcount
      omega
    have hpadded : At buffer.bytes countOffset (paddedUintXBytes entryCount) := by
      rw [paddedUintXBytes, ← List.singleton_append, at_append, hplace]
      refine ⟨hat.2.1.1.2, ?_⟩
      have hcountAt := hat.2.1.2
      rw [List.length_append, ← Nat.add_assoc] at hcountAt
      exact hcountAt
    rw [if_neg h42, if_pos rfl]
    obtain ⟨val, hread, rfl⟩ := messageReadUintX_long_parses _ hpadded
    exact ⟨_, hread⟩

/-- The header that a message has in the end, as a reader finds it. -/
theorem messageReaderReadHeaderEx_counted (hver : KnownVersion messageVersion)
    (hwritable : header.Writable messageVersion messageFlagsMask)
    (hsize : (messageHeaderSize messageVersion header messageFlagsMask).toNat =
      (messageHeaderBytes messageVersion header messageFlagsMask 0).length)
    (hfew : entryCount.toNat ≤ UINT16_MAX)
    (hone : messageVersion = 4 → flagsCheck (messageHeader4Flags header messageFlagsMask)
      MESSAGE_FLAGS_MULTIPLE_ENTRIES = false → entryCount = 1)
    {reader : MessageReader} (hat : At reader.buffer.bytes reader.bufferOffset
      (countedHeaderBytes messageVersion header messageFlagsMask messageSize entryCount))
    {target : MessageHeader} (haccepts : target.Accepts
      (MessageHeaderOf.seen messageVersion messageFlagsMask { header with entryCount := entryCount })) :
    ∃ r, messageReaderReadHeaderEx reader target = .ok r ∧
      (target.RoomFor (MessageHeaderOf.seen messageVersion messageFlagsMask
          { header with entryCount := entryCount }) →
        r.1.Reads (MessageHeaderOf.seen messageVersion messageFlagsMask
          { header with entryCount := entryCount })) ∧
      r.1.headerSize.toNat = (messageHeaderBytes messageVersion header messageFlagsMask 0).length ∧
      r.1.messageVersion = messageVersion ∧
      CountRead messageVersion header messageFlagsMask r.2.entryCountOffset
        (reader.bufferOffset + (messageHeaderBytes messageVersion header messageFlagsMask 0).length) := by
  obtain ⟨rest, hrest⟩ := countedHeaderBytes_version hver header messageFlagsMask messageSize
    entryCount
  have hlength := countedHeaderBytes_length hver header messageFlagsMask messageSize entryCount
  have hversion : bufferVecCopyToUint16 reader.buffer (addSz reader.bufferOffset 8) =
      .ok messageVersion := by
    have hat' := hat
    rw [hrest, ← List.append_assoc] at hat'
    exact bufferVecCopyToUint16_version hat'
  unfold messageReaderReadHeaderEx
  rw [hversion]
  show ∃ r, (if messageVersion = 2 then _ else if messageVersion = 4 then _ else _) = _ ∧ _
  rw [← hlength] at hsize ⊢
  rcases hver with rfl | rfl
  · rw [messageHeaderSize, if_pos rfl, UInt16.toNat_toUInt32] at hsize
    rw [countedHeaderBytes, if_pos rfl] at hsize hat ⊢
    have hstrings : MessageHeaderOf.StringsWithin UINT16_MAX { header with entryCount := entryCount } :=
      hwritable.1
    obtain ⟨r, hread, hreads, -, hheader, hversion', hcount⟩ :=
      messageReaderReadHeader2Ex_parses reader target hstrings hfew haccepts rfl hsize hat
    refine ⟨r, hread, hreads, ?_, hversion', hcount⟩
    rw [hheader, UInt16.toNat_toUInt32]
    exact hsize
  · have h42 : ¬ (4 : UInt16) = 2 := by decide
    rw [messageHeaderSize, if_neg h42] at hsize
    rw [countedHeaderBytes, if_neg h42, if_pos rfl] at hsize hat ⊢
    have hsingle (h : flagsCheck (messageHeader4Flags header messageFlagsMask)
        MESSAGE_FLAGS_MULTIPLE_ENTRIES = false) :
        (MessageHeaderOf.masked messageFlagsMask { header with entryCount := entryCount }).entryCount =
          1 := by
      rw [MessageHeaderOf.masked, hone rfl h, ite_self]
    obtain ⟨r, hread, hreads, -, hheader, hversion', -, hcount⟩ :=
      messageReaderReadHeader4Ex_parses reader target rfl rfl hsingle hwritable.1 hwritable.2.1
        hwritable.2.2 haccepts rfl hsize hat
    exact ⟨r, hread, hreads, hheader ▸ hsize, hversion', hcount⟩

theorem messageReadUInt_neverNoMore {α : Type} {copy : BufferVec → Nat → Result α} {g : Nat → α}
    {size : Nat} (h0 : 0 < size) (h16 : size ≤ 16)
    (hcopy : ∀ pos, copy buffer pos = (bufferVecCopyToUInt buffer pos size).map g) :
    NeverNoMore (messageReadVal copy size buffer) := by
  intro o h
  rw [messageReadVal, hcopy, bufferVecCopyToUInt_eq _ _ h0 h16, fetch] at h
  split at h <;> cases h

theorem messageReadCount_neverNoMore (buffer : BufferVec) (messageVersion : UInt16) :
    NeverNoMore (messageReadCount buffer messageVersion) := by
  have h32 : NeverNoMore (messageReadUint32 buffer) :=
    messageReadUInt_neverNoMore (by decide) (by decide) fun _ => rfl
  have h16 : NeverNoMore (messageReadUint16 buffer) :=
    messageReadUInt_neverNoMore (by decide) (by decide) fun _ => rfl
  have h8 : NeverNoMore (messageReadUint8 buffer) :=
    messageReadUInt_neverNoMore (by decide) (by decide) fun _ => rfl
  have hunknown : NeverNoMore (throw .protocol : Cursor UInt32) := fun _ h => by cases h
  refine NeverNoMore.ite h32 (NeverNoMore.ite ?_ hunknown)
  exact h8.bind fun b => NeverNoMore.ite (NeverNoMore.pure _)
    (NeverNoMore.ite (h16.bind fun _ => NeverNoMore.pure _) (NeverNoMore.ite h32 hunknown))

theorem messageReaderBeginReadEntries_ne_noMore {r : MessageReader}
    {p : MessageHeader × MessageBufferInfo}
    (hread : messageReaderReadHeaderEx r (MessageHeaderOf.zero (.null 0)) = .ok p) :
    messageReaderBeginReadEntries r ≠ .error .noMore := by
  intro h
  rw [messageReaderBeginReadEntries, hread] at h
  simp only [bind, Except.bind] at h
  split at h
  · next e hcount =>
      cases h
      exact messageReadCount_neverNoMore _ _ _ hcount
  · rw [failIf] at h
    split at h
    · next e hfail =>
        cases h
        split at hfail <;> cases hfail
    · cases h

/-- `begin_read_entries` on a message with entries. -/
theorem messageReaderBeginReadEntries_of_at {entry : EntryTree} {entries : List EntryTree}
    {opened : MessageReader} {p : MessageHeader × MessageBufferInfo} {start : Nat}
    (h : EntriesLieAt opened.buffer opened.messageVersion p.2.entryCountOffset start
      (entry :: entries))
    (hread : messageReaderReadHeaderEx opened (MessageHeaderOf.zero (.null 0)) = .ok p)
    (hoffset : opened.bufferOffset = 0) (hstart : p.1.headerSize.toNat = start)
    (hcount : opened.bufferCount =
      start + (entriesBytes opened.messageVersion (entry :: entries)).length) :
    messageReaderBeginReadEntries opened =
      .ok (entryReaderAt opened.buffer opened.messageVersion p.2.entryCountOffset start [] entry
        entries) := by
  have hsmall := opened.buffer.length_bytes
  have hend := h.there.2
  have hshort := h.short
  rw [entriesBytes, List.length_append] at hcount hend hshort
  have hwhole : (UInt32.ofNat (entryBytes opened.messageVersion entry).length).toNat =
      (entryBytes opened.messageVersion entry).length := toNat_ofNat_of_le (by omega)
  have hentry : At opened.buffer.bytes start (entryBytes opened.messageVersion entry) :=
    (at_append.mp h.there).1
  obtain ⟨o, hsize⟩ := messageReadCount_of_at h.known hentry
  have hrest : subSz (subSz opened.bufferCount start) (entryBytes opened.messageVersion entry).length =
      (entriesBytes opened.messageVersion entries).length := by
    rw [subSz_of_eq_add hcount (by omega)]
    exact subSz_of_eq_add rfl (by omega)
  refine (beginReadEntries_iff hoffset).mpr ⟨p, UInt32.ofNat
    (entryBytes opened.messageVersion entry).length, o, hread, hstart ▸ hsize, ?_, ?_⟩
  · rw [hwhole, hstart, addSz_eq (by omega)]
    omega
  · simp only [entryReaderAt, hstart, hwhole, hrest, entriesBytes, List.length_nil, Nat.add_zero]

theorem MessageHeaderOf.exists_roomFor (source : MessageConstHeader) :
    ∃ target : MessageHeader, target.RoomFor source := by
  refine ⟨{ MessageHeaderOf.zero (StringBuf.null 0) with
    senderNodename := .storage source.senderNodename.data source.senderNodename.addressable
    receiverNodename := .storage source.receiverNodename.data source.receiverNodename.addressable
    metadata := .storage source.metadata.data source.metadata.addressable }, ?_, ?_, ?_⟩
  · exact Nat.le_refl _
  · exact Nat.le_refl _
  · exact Nat.le_refl _

theorem MessageHeaderOf.seen_entryCount (messageVersion : UInt16) (header : MessageConstHeader) :
    (header.seen messageVersion 0xFF).entryCount = header.entryCount := by
  rw [MessageHeaderOf.seen]
  split <;> rfl

theorem messageReaderReadHeader_of_ex {reader : MessageReader} {target : MessageHeader}
    {r : MessageHeader × MessageBufferInfo} (h : messageReaderReadHeaderEx reader target = .ok r) :
    messageReaderReadHeader reader target =
      .ok (r.1, { reader with messageVersion := r.1.messageVersion }) := by
  rw [messageReaderReadHeader, h]
  rfl

/-- An entry is no longer than the entries it is one of. -/
theorem entryBytes_le_of_mem {messageVersion : UInt16} {entry : EntryTree} {entries : List EntryTree}
    (hmem : entry ∈ entries) :
    (entryBytes messageVersion entry).length ≤ (entriesBytes messageVersion entries).length := by
  obtain ⟨before, after, rfl⟩ := List.append_of_mem hmem
  rw [entriesBytes_append, entriesBytes, List.length_append, List.length_append]
  omega

theorem length_entryBytes2 (entry : EntryTree) : (entryBytes 2 entry).length = entry.size2 := by
  rw [entryBytes_length (Or.inl rfl), messageEntryHeaderBytes, if_pos rfl,
    length_messageEntryHeader2Bytes, length_elementsBytes2, EntryTree.size2]

/-- The header with the number of entries that the message has in the end. -/
def MessageTree.counted (message : MessageTree) : MessageConstHeader :=
  { message.header with entryCount := UInt32.ofNat message.entries.length }

/-- A message that was written lies at the start of one piece of memory. -/
structure MessageLies (buffer : BufferVec) (messageVersion : UInt16) (message : MessageTree) :
    Prop where
  written : message.Written messageVersion 0xFF
  one : buffer.segments.length = 1
  narrow : messageVersion = 2 → ∀ entry ∈ message.entries,
    entry.header.StringsWithin UINT16_MAX ∧ entry.elements.length ≤ UINT16_MAX ∧
    ElementsNarrow entry.elements
  opens : ∀ entry ∈ message.entries, ElementsOpen entry.elements
  short : message.length messageVersion 0xFF ≤ UINT32_MAX
  there : At buffer.bytes 0 (messageBytes messageVersion 0xFF message)

section

variable {buffer : BufferVec} {messageVersion : UInt16} {message : MessageTree}

theorem messageBytes_length (hver : KnownVersion messageVersion) (message : MessageTree) :
    (messageBytes messageVersion 0xFF message).length = message.length messageVersion 0xFF := by
  rw [messageBytes, List.length_append, countedHeaderBytes_length hver, MessageTree.length]

theorem MessageLies.count_eq (h : MessageLies buffer messageVersion message) :
    (UInt32.ofNat message.entries.length).toNat = message.entries.length :=
  toNat_ofNat_of_le (Nat.le_trans h.written.few (by decide))

theorem MessageLies.init (h : MessageLies buffer messageVersion message) (reader : MessageReader) :
    messageReaderInit reader buffer 0 (message.length messageVersion 0xFF) = .ok { reader with
      buffer := buffer, bufferOffset := 0, bufferCount := message.length messageVersion 0xFF } :=
  messageReaderInit_of_at h.written.known reader h.there
    (messageBytes_length h.written.known message).symm h.short

theorem MessageLies.readHeaderEx (h : MessageLies buffer messageVersion message)
    {reader : MessageReader} (hbuffer : reader.buffer = buffer) (hoffset : reader.bufferOffset = 0)
    {target : MessageHeader} (haccepts : target.Accepts (message.counted.seen messageVersion 0xFF)) :
    ∃ r, messageReaderReadHeaderEx reader target = .ok r ∧
      (target.RoomFor (message.counted.seen messageVersion 0xFF) →
        r.1.Reads (message.counted.seen messageVersion 0xFF)) ∧
      r.1.headerSize.toNat =
        (messageHeaderBytes messageVersion message.header 0xFF 0).length ∧
      r.1.messageVersion = messageVersion ∧
      CountRead messageVersion message.header 0xFF r.2.entryCountOffset
        (messageHeaderBytes messageVersion message.header 0xFF 0).length := by
  have hfew : (UInt32.ofNat message.entries.length).toNat ≤ UINT16_MAX := by
    rw [h.count_eq]
    exact h.written.few
  have hsingle (h4 : messageVersion = 4) (hflag : flagsCheck (messageHeader4Flags message.header 0xFF)
      MESSAGE_FLAGS_MULTIPLE_ENTRIES = false) : UInt32.ofNat message.entries.length = 1 := by
    rw [h.written.one h4 hflag]
    rfl
  have hat : At reader.buffer.bytes reader.bufferOffset (countedHeaderBytes messageVersion
      message.header 0xFF (message.length messageVersion 0xFF)
      (UInt32.ofNat message.entries.length)) := by
    rw [hbuffer, hoffset]
    exact (at_append.mp h.there).1
  have hread := messageReaderReadHeaderEx_counted h.written.known h.written.writable
    h.written.headerSize_eq hfew hsingle hat haccepts
  rw [hoffset, Nat.zero_add] at hread
  exact hread

theorem MessageLies.readHeader (h : MessageLies buffer messageVersion message)
    {reader : MessageReader} (hbuffer : reader.buffer = buffer) (hoffset : reader.bufferOffset = 0)
    {target : MessageHeader} (hroom : target.RoomFor message.header) :
    ∃ header, messageReaderReadHeader reader target =
        .ok (header, { reader with messageVersion := messageVersion }) ∧
      header.entryCount.toNat = message.entries.length := by
  have hroom' : target.RoomFor message.counted := hroom
  have hseen := hroom'.seen messageVersion 0xFF
  obtain ⟨r, hread, hreads, -, hversion, -⟩ := h.readHeaderEx hbuffer hoffset hseen.accepts
  refine ⟨r.1, ?_, ?_⟩
  · rw [messageReaderReadHeader_of_ex hread, hversion]
  · rw [(hreads hseen).entryCount_eq, MessageHeaderOf.seen_entryCount]
    exact h.count_eq

theorem MessageLies.entriesLieAt (h : MessageLies buffer messageVersion message) {countOffset : Nat}
    (hcount : CountRead messageVersion message.header 0xFF countOffset
      (messageHeaderBytes messageVersion message.header 0xFF 0).length) :
    EntriesLieAt buffer messageVersion countOffset
      (messageHeaderBytes messageVersion message.header 0xFF 0).length message.entries := by
  have hver := h.written.known
  have hshort := h.short
  have hsmall := buffer.length_bytes
  have hmod := SizeT.le_modulus
  obtain ⟨hheaderAt, hentriesAt⟩ := at_append.mp h.there
  have hend := hentriesAt.2
  rw [countedHeaderBytes_length hver, Nat.zero_add] at hentriesAt hend
  rw [MessageTree.length] at hshort
  have hfew : (UInt32.ofNat message.entries.length).toNat ≤ UINT16_MAX := by
    rw [h.count_eq]
    exact h.written.few
  refine ⟨hver, h.one, h.written.entries, fun h2 entry hmem => ?_, h.opens, h.written.few, by omega,
    hentriesAt, ?_⟩
  · obtain ⟨hstrings, helements, hnarrow⟩ := h.narrow h2 entry hmem
    have hle : (entryBytes messageVersion entry).length ≤
        (entriesBytes messageVersion message.entries).length := entryBytes_le_of_mem hmem
    have hsize : (entryBytes messageVersion entry).length = entry.size2 := by
      rw [h2, length_entryBytes2]
    exact ⟨hstrings, helements, by omega, hnarrow⟩
  · -- Without a place for the count there is one entry.
    by_cases hthere : messageVersion = 2 ∨
        flagsCheck (messageHeader4Flags message.header 0xFF) MESSAGE_FLAGS_MULTIPLE_ENTRIES = true
    · have hnowhere : countOffset ≠ sizeTMax := by
        have hplace := hcount
        rw [CountRead] at hplace
        rw [sizeTMax]
        rcases hthere with h2 | hflag
        · rw [if_pos h2] at hplace
          omega
        · rw [if_pos hflag] at hplace
          split at hplace <;> omega
      refine Or.inr ⟨hnowhere, messageReadCount2_of_at hver hfew hheaderAt ?_ hthere⟩
      rw [countedHeaderBytes_length hver]
      exact hcount
    · obtain ⟨hnot2, hnoflag⟩ := not_or.mp hthere
      have h4 : messageVersion = 4 := hver.resolve_left hnot2
      refine Or.inl ⟨?_, h.written.one h4 (Bool.not_eq_true _ ▸ hnoflag)⟩
      rwa [CountRead, if_neg hnot2, if_neg hnoflag] at hcount

end

/-- A message that was written in one piece of memory is visited, entry by entry and element by
element, if and only if it has entries. -/
theorem writtenMessage_visited_iff {unset : MessageElementWriter} {writer : MessageWriter}
    {entryWriter : MessageEntryWriter} {message : MessageTree} {header : MessageConstHeader}
    {v v' buffer : BufferVec} (reader : MessageReader) (hstart : writer.bufferOffset = 0)
    (hwrite : writeMessage unset writer entryWriter 0xFF message v = (.ok header, v'))
    (hmax : message.length writer.messageVersion 0xFF ≤ UINT32_MAX)
    (hnarrow : writer.messageVersion = 2 → ∀ entry ∈ message.entries,
      entry.header.StringsWithin UINT16_MAX ∧ entry.elements.length ≤ UINT16_MAX ∧
      ElementsNarrow entry.elements)
    (hopens : ∀ entry ∈ message.entries, ElementsOpen entry.elements)
    (hone : buffer.segments.length = 1)
    (hbuffer : At buffer.bytes 0 (slice v'.bytes 0 header.messageSize.toNat)) :
    VisitsMessage reader buffer header.messageSize.toNat message ↔ message.entries ≠ [] := by
  have hput := writeMessage_puts unset writer entryWriter 0xFF message hmax
  obtain ⟨hwritten, hsize⟩ := answer_of_putsAt hput hwrite
  have hlong := messageHeaderBytes_length hwritten.known message.header 0xFF 0
  have hlength := messageBytes_length hwritten.known message
  have hat := at_of_putsAt hput hwrite (by rw [hlength, MessageTree.length]; omega)
  rw [hstart] at hat
  -- The buffer that is read has the bytes that were written.
  rw [hsize, ← hlength, hat.1] at hbuffer
  have hlies : MessageLies buffer writer.messageVersion message :=
    ⟨hwritten, hone, hnarrow, hopens, hmax, hbuffer⟩
  obtain ⟨opened', hopened'⟩ : ∃ opened' : MessageReader, opened' = { reader with
      buffer := buffer, bufferOffset := 0,
      bufferCount := message.length writer.messageVersion 0xFF,
      messageVersion := writer.messageVersion } := ⟨_, rfl⟩
  have hnull : (MessageHeaderOf.zero (StringBuf.null 0)).Accepts
      (message.counted.seen writer.messageVersion 0xFF) := ⟨Or.inl rfl, Or.inl rfl, Or.inl rfl⟩
  obtain ⟨p, hread, -, hheaderSize, -, hcount⟩ :=
    hlies.readHeaderEx (congrArg (·.buffer) hopened') (congrArg (·.bufferOffset) hopened') hnull
  have hreadHeader (target : MessageHeader) (hroom : target.RoomFor message.header) :
      ∃ header', messageReaderReadHeader { reader with
          buffer := buffer, bufferOffset := 0,
          bufferCount := message.length writer.messageVersion 0xFF } target =
          .ok (header', opened') ∧ header'.entryCount.toNat = message.entries.length := by
    rw [hopened']
    exact hlies.readHeader rfl rfl hroom
  rw [hsize]
  constructor
  · rintro ⟨opened, hinit, hvisits⟩ hempty
    rw [hlies.init reader] at hinit
    cases hinit
    obtain ⟨target, hroom⟩ := message.header.exists_roomFor
    obtain ⟨header', opened'', hheader, -, hentries⟩ := hvisits target hroom
    obtain ⟨header'', hheader', -⟩ := hreadHeader target hroom
    cases hheader'.symm.trans hheader
    rw [hempty] at hentries
    exact messageReaderBeginReadEntries_ne_noMore hread hentries
  · intro hsome
    refine ⟨_, hlies.init reader, fun target hroom => ?_⟩
    obtain ⟨header', hheader, hentryCount⟩ := hreadHeader target hroom
    refine ⟨header', opened', hheader, hentryCount, ?_⟩
    obtain ⟨entry, entries, hlist⟩ := List.exists_cons_of_ne_nil hsome
    have hlie := hlies.entriesLieAt hcount
    rw [hlist] at hlie ⊢
    have hbegin : messageReaderBeginReadEntries opened' = .ok (entryReaderAt buffer
        writer.messageVersion p.2.entryCountOffset
        (messageHeaderBytes writer.messageVersion message.header 0xFF 0).length [] entry entries) := by
      subst hopened'
      refine messageReaderBeginReadEntries_of_at hlie hread rfl hheaderSize ?_
      rw [← hlist]
      rfl
    rw [hbegin]
    have hlie' : EntriesLieAt buffer writer.messageVersion p.2.entryCountOffset
        (messageHeaderBytes writer.messageVersion message.header 0xFF 0).length
        ([] ++ entry :: entries) := hlie
    exact visitsEntries_of_lieAt hlie'

end

end

section

open Lp64

/-- What an application calls before it has the first entry. -/
def openEntries (reader : MessageReader) (buffer : BufferVec) (messageSize : Nat)
    (target : MessageHeader) : Result MessageEntryReader := do
  let opened ← messageReaderInit reader buffer 0 messageSize
  let (_, opened) ← messageReaderReadHeader opened target
  messageReaderBeginReadEntries opened

theorem VisitsMessage.openEntries_eq {reader : MessageReader} {buffer : BufferVec}
    {messageSize : Nat} {message : MessageTree} (hvisits : VisitsMessage reader buffer messageSize message)
    (hempty : message.entries = []) {target : MessageHeader} (hroom : target.RoomFor message.header) :
    openEntries reader buffer messageSize target = .error .noMore := by
  obtain ⟨opened, hinit, hheader⟩ := hvisits
  obtain ⟨header, opened', hread, -, hentries⟩ := hheader target hroom
  rw [hempty] at hentries
  simp only [openEntries, bind, Except.bind, hinit, hread]
  exact hentries

def unopened (messageVersion : UInt16) : MessageReader :=
  ⟨⟨[[]], by decide⟩, 0, 0, messageVersion⟩

def emptyMessage : MessageTree := ⟨MessageHeaderOf.zero (.constant []), []⟩

def writeEmpty : Result MessageConstHeader × BufferVec :=
  writeMessage ⟨0, 0, 0, 0, 0, 0, 0, 0⟩ ⟨0, 100, 0, 0, 2⟩ ⟨0, 0, 0, 0, 0, 0, 0, 0⟩ 0xFF emptyMessage
    hundredBytes

/-- `begin_read_entries` opens the zeros behind the header as an entry. -/
theorem emptyMessage_not_visited :
    writeEmpty.1.map (·.messageSize) = .ok 64 ∧
      ¬ VisitsMessage (unopened 2) writeEmpty.2 64 emptyMessage := by
  refine ⟨by decide +kernel, fun hvisits => ?_⟩
  have hroom : (MessageHeaderOf.zero (StringBuf.null 0)).RoomFor emptyMessage.header :=
    ⟨rfl, rfl, rfl⟩
  have hnone := hvisits.openEntries_eq rfl hroom
  have hruns : (openEntries (unopened 2) writeEmpty.2 64
      (MessageHeaderOf.zero (StringBuf.null 0))).isOk = true := by decide +kernel
  rw [hnone] at hruns
  cases hruns

def twoHundredBytes : BufferVec := ⟨[List.replicate 200 0], by decide +kernel⟩

/-- Two entries, one without elements and one with an element in another. -/
def nestedMessage : MessageTree where
  header := MessageHeaderOf.zero (.constant [])
  entries :=
    [⟨MessageEntryHeaderOf.zero (.constant []), []⟩,
      ⟨MessageEntryHeaderOf.zero (.constant [0x65]),
        [.nested { MessageElementHeaderOf.zero (.constant [0x61]) with elementType := DATATYPE_LIST }
          [.data (.constant [0x62]) 4 (.constant [7, 8, 9])]]⟩]

def writeNested : Result MessageConstHeader × BufferVec :=
  writeMessage ⟨0, 0, 0, 0, 0, 0, 0, 0⟩ ⟨0, 200, 0, 0, 2⟩ ⟨0, 0, 0, 0, 0, 0, 0, 0⟩ 0xFF nestedMessage
    twoHundredBytes

theorem nestedMessage_visited :
    ∃ header, writeNested.1 = .ok header ∧
      VisitsMessage (unopened 2) writeNested.2 header.messageSize.toNat nestedMessage := by
  obtain ⟨hsize, hone, hlength⟩ : writeNested.1.map (·.messageSize.toNat) = .ok 150 ∧
      writeNested.2.segments.length = 1 ∧ writeNested.2.bytes.length = 200 := by decide +kernel
  obtain ⟨header, hheader, hsize⟩ := map_eq_ok.mp hsize
  refine ⟨header, hheader, ?_⟩
  have hwrite : writeMessage ⟨0, 0, 0, 0, 0, 0, 0, 0⟩ ⟨0, 200, 0, 0, 2⟩ ⟨0, 0, 0, 0, 0, 0, 0, 0⟩ 0xFF
      nestedMessage twoHundredBytes = (.ok header, writeNested.2) :=
    Prod.ext hheader (by rw [writeNested])
  have hbuffer : At writeNested.2.bytes 0 (slice writeNested.2.bytes 0 header.messageSize.toNat) := by
    rw [At, length_slice (by omega)]
    exact ⟨rfl, by omega⟩
  refine (writtenMessage_visited_iff (unopened 2) rfl hwrite (by decide +kernel) ?_ ?_
    hone hbuffer).mpr (List.cons_ne_nil _ _)
  · intro _ entry hmem
    simp only [nestedMessage, List.mem_cons, List.not_mem_nil, or_false] at hmem
    rcases hmem with rfl | rfl
    · exact ⟨⟨by decide, by decide, by decide⟩, by decide, trivial⟩
    · exact ⟨⟨by decide, by decide, by decide⟩, by decide,
        ⟨⟨by decide, by decide, by decide⟩, trivial, trivial⟩, trivial⟩
  · intro entry hmem
    simp only [nestedMessage, List.mem_cons, List.not_mem_nil, or_false] at hmem
    rcases hmem with rfl | rfl
    · trivial
    · exact ⟨⟨by decide, trivial, trivial⟩, trivial⟩

end

end RobotRaconteurLite

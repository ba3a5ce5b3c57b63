import RobotRaconteurLite.Message.Data
import RobotRaconteurLite.Proofs.FirstMatch
import RobotRaconteurLite.Proofs.RoundTrip

/-!
# Typed data comes back by its name

A value or an array is written under a name and a type. Whoever looks for the
name in what was written, as the handlers of an application do with the
parameters of a request, finds it. The checks pass for its type and its number
of items and for no other, and so do the reads: an array fits a destination with
room for it and leaves the rest of that alone, a value is read if it is the only
one.

All of this follows from what `get_data_info` answers at the element, whichever
type is asked for.
-/

namespace RobotRaconteurLite

open Splice

section

variable [SizeT] {α β : Type}

/-! ## At the element -/

/-- An array of a type, in memory. -/
def DataType.array (dataType : DataType α) (values : List α)
    (hsmall : 2 * (values.length * dataType.codec.size) < SizeT.modulus) : CArray where
  data := dataType.codec.bytes values
  len := values.length
  elemSize := dataType.codec.size
  elemSize_pos := dataType.codec.size_pos
  length_data := dataType.codec.length_bytes values
  addressable := by rwa [dataType.codec.length_bytes]

/-- The element that typed data is written as. -/
def DataType.element (dataType : DataType α) (elementName : ConstString) (values : List α)
    (hsmall : 2 * (values.length * dataType.codec.size) < SizeT.modulus) : ElementTree :=
  .data elementName dataType.code (dataType.array values hsmall)

theorem messageElementWriterWriteArray_eq (unset : MessageElementWriter) (dataType : DataType α)
    (elementWriter : MessageElementWriter) (elementName : ConstString) (values : List α)
    (hsmall : 2 * (values.length * dataType.codec.size) < SizeT.modulus) :
    messageElementWriterWriteArray dataType elementWriter elementName values =
      writeElement unset elementWriter (dataType.element elementName values hsmall) := by
  rw [DataType.element, writeElement]
  rfl

/-- What `get_data_info` and `read_header` say of the element that a reader is at. -/
structure MessageElementReader.AtData (reader : MessageElementReader) (dataType : UInt16)
    (data : CArray) (offset : Nat) (count : UInt32) : Prop where
  one : reader.buffer.segments.length = 1
  header : ∃ header, messageElementReaderReadHeader reader (MessageElementHeaderOf.zero (.null 0)) =
    .ok header ∧ header.elementType = dataType ∧ header.dataCount = count
  info : messageElementReaderGetDataInfo reader dataType data.elemSize =
    .ok (offset, data.data.length, count)
  info_other : ∀ code size, dataType ≠ code →
    messageElementReaderGetDataInfo reader code size = .error .messageElementTypeMismatch
  count_eq : count.toNat = data.len
  there : At reader.buffer.bytes offset data.data

theorem atData_of_lieAt {buffer : BufferVec} {messageVersion : UInt16} {start : Nat}
    {before after : List ElementTree} {elementName : ConstString} {dataType : UInt16} {data : CArray}
    (h : LieAt buffer messageVersion start (before ++ .data elementName dataType data :: after)) :
    ∃ offset count, (readerAt buffer messageVersion start before (.data elementName dataType data)
      after).AtData dataType data offset count := by
  obtain ⟨reader, hreader⟩ : ∃ reader, reader = readerAt buffer messageVersion start before
      (.data elementName dataType data) after := ⟨_, rfl⟩
  obtain ⟨p, hread, hseen⟩ := h.header_seen (MessageElementHeaderOf.accepts_null _)
  have hone := h.one
  rw [← hreader] at hread hseen ⊢
  have hlength := data.length_data
  have hsmall := data.addressable
  have htype : p.1.elementType = dataType := hseen.type_eq
  have hcount : p.1.dataCount.toNat = data.len := hseen.count_eq
  have hends : p.2.headerSize + data.data.length = p.1.elementSize.toNat :=
    hseen.end_eq.trans hseen.size_eq.symm
  have hlt := p.1.elementSize.toNat_lt
  have hmod := SizeT.le_modulus
  have hrest : subSz p.1.elementSize.toNat p.2.headerSize = data.data.length :=
    subSz_of_eq_add hends.symm (by omega)
  have hproduct : mulSz data.elemSize data.len = data.data.length := by
    rw [mulSz_eq (by rw [Nat.mul_comm, ← hlength]; omega), Nat.mul_comm, hlength]
  refine ⟨p.2.dataStartOffset, p.1.dataCount, ?_⟩
  constructor
  case one => rwa [hreader]
  case header =>
    refine ⟨p.1, ?_, htype, rfl⟩
    rw [messageElementReaderReadHeader, hread]
    rfl
  case info =>
    rw [messageElementReaderGetDataInfo, hread]
    simp [bind, Except.bind, failIf, htype, hcount, hrest, hproduct, pure, Except.pure]
  case info_other =>
    intro code size hother
    rw [messageElementReaderGetDataInfo, hread]
    simp [bind, Except.bind, failIf, htype, hother, throw, throwThe, MonadExceptOf.throw]
  case count_eq => exact hcount
  case there => exact hseen.payload_at

/-- The data laid over the start of an array with room for it. -/
theorem MessageElementReader.AtData.copyToMem {reader : MessageElementReader} {dataType : UInt16}
    {data : CArray} {offset : Nat} {count : UInt32}
    (h : reader.AtData dataType data offset count) (dest : CArray)
    (hsize : dest.elemSize = data.elemSize) :
    bufferVecCopyToMem reader.buffer offset dest.data dest.len 0 dest.elemSize count.toNat =
      if data.len ≤ dest.len then .ok (overwrite dest.data 0 data.data) else .error .outOfRange := by
  have hlength := data.length_data
  have hsmall := data.addressable
  rw [h.count_eq]
  rcases Nat.eq_zero_or_pos data.len with h0 | hpos
  · have hnil : data.data = [] :=
      List.eq_nil_of_length_eq_zero (by rw [hlength, h0, Nat.zero_mul])
    rw [h0, bufferVecCopyToMem_zero, if_pos (Or.inl h.one), if_pos (Nat.zero_le _), hnil,
      overwrite_nil]
  · have hle := Nat.le_mul_of_pos_right data.len data.elemSize_pos
    rw [← hlength] at hle
    rw [bufferVecCopyToMem_eq _ _ _ hpos (by omega), hsize, ← hlength,
      fetch_of_at (by omega) h.there]
    rfl

/-! ## Reading it -/

theorem messageElementReaderReadDataArray_typed {reader : MessageElementReader}
    {dataType : DataType α} {values : List α} {offset : Nat} {count : UInt32}
    {hsmall : 2 * (values.length * dataType.codec.size) < SizeT.modulus}
    (h : reader.AtData dataType.code (dataType.array values hsmall) offset count) (dest : List α)
    (hdest : 2 * (dest.length * dataType.codec.size) < SizeT.modulus) :
    messageElementReaderReadDataArray dataType reader dest =
      if values.length ≤ dest.length then
        .ok (values ++ dest.drop values.length, values.length)
      else .error .outOfRange := by
  have hinfo : messageElementReaderGetDataInfo reader dataType.code dataType.codec.size = _ := h.info
  have hcopy : bufferVecCopyToMem reader.buffer offset (dataType.codec.bytes dest) dest.length 0
      dataType.codec.size count.toNat = if values.length ≤ dest.length then
        .ok (overwrite (dataType.codec.bytes dest) 0 (dataType.codec.bytes values))
      else .error .outOfRange := h.copyToMem (dataType.array dest hdest) rfl
  have hcount : count.toNat = values.length := h.count_eq
  rw [messageElementReaderReadDataArray, messageElementReaderReadDataEx, hinfo]
  simp only [bind, Except.bind]
  rw [hcopy]
  by_cases hroom : values.length ≤ dest.length
  · have hlength : (values ++ dest.drop values.length).length = dest.length := by
      rw [List.length_append, List.length_drop]
      omega
    rw [if_pos hroom, if_pos hroom]
    simp only [pure, Except.pure, hcount]
    rw [dataType.codec.overwrite_bytes, ← hlength, dataType.codec.items_bytes]
  · rw [if_neg hroom, if_neg hroom]

theorem messageElementReaderReadDataScalar_typed {reader : MessageElementReader}
    {dataType : DataType α} {values : List α} {offset : Nat} {count : UInt32}
    {hsmall : 2 * (values.length * dataType.codec.size) < SizeT.modulus}
    (h : reader.AtData dataType.code (dataType.array values hsmall) offset count) (old : α) :
    (∀ value, values = [value] →
      messageElementReaderReadDataScalar dataType reader old = .ok value) ∧
    (values.length ≠ 1 →
      messageElementReaderReadDataScalar dataType reader old = .error .protocol) := by
  have hinfo : messageElementReaderGetDataInfo reader dataType.code dataType.codec.size = _ := h.info
  have hcount : count.toNat = values.length := h.count_eq
  rw [messageElementReaderReadDataScalar, messageElementReaderReadDataScalarEx, hinfo]
  simp only [bind, Except.bind]
  constructor
  · rintro value rfl
    have hone : count = 1 := UInt32.toNat_inj.mp hcount
    have hsize : 2 * (([old] : List α).length * dataType.codec.size) < SizeT.modulus := hsmall
    have hcopy : bufferVecCopyToMem reader.buffer offset (dataType.codec.bytes [old]) 1 0
        dataType.codec.size count.toNat =
          .ok (overwrite (dataType.codec.bytes [old]) 0 (dataType.codec.bytes [value])) :=
      (h.copyToMem (dataType.array [old] hsize) rfl).trans (if_pos (Nat.le_refl 1))
    -- The scalar is an array of one.
    have hbytes (a : α) : dataType.codec.bytes [a] = dataType.codec.toBytes a := by simp
    have hmul : mulSz 1 dataType.codec.size = dataType.codec.size := by
      rw [mulSz_eq (by rw [List.length_singleton] at hsmall; omega), Nat.one_mul]
    rw [hcount, List.length_singleton, bufferVecCopyToMem, hmul, dataType.codec.overwrite_bytes,
      hbytes] at hcopy
    rw [failIf, if_neg (not_not.mpr hone)]
    simp only [pure, Except.pure]
    cases hrun : bufferVecCopyVecEx reader.buffer.toBuffers offset 1 dataType.codec.size
        [⟨dataType.codec.toBytes old, 1⟩] 0 dataType.codec.size 1 with
    | error e =>
        rw [hrun] at hcopy
        cases hcopy
    | ok destVec =>
        rw [hrun] at hcopy
        have hdata : (bufferData destVec).flatten =
            dataType.codec.bytes ([value] ++ [old].drop [value].length) := by
          injection hcopy
        have hdrop : [value] ++ [old].drop [value].length = [value] := rfl
        rw [hdrop, hbytes] at hdata
        simp only [hdata, dataType.codec.ofBytes_toBytes]
  · intro hmany
    have hone : count ≠ 1 := by
      rintro rfl
      exact hmany hcount.symm
    rw [failIf, if_pos hone]
    rfl

/-- A read of another type says so. -/
theorem readData_otherType {reader : MessageElementReader} {code : UInt16} {data : CArray}
    {offset : Nat} {count : UInt32} (h : reader.AtData code data offset count) (other : DataType β)
    (hother : code ≠ other.code) (dest : List β) (old : β) :
    messageElementReaderReadDataArray other reader dest = .error .messageElementTypeMismatch ∧
      messageElementReaderReadDataScalar other reader old = .error .messageElementTypeMismatch := by
  rw [messageElementReaderReadDataArray, messageElementReaderReadDataEx,
    messageElementReaderReadDataScalar, messageElementReaderReadDataScalarEx,
    h.info_other _ _ hother]
  exact ⟨rfl, rfl⟩

/-! ## Checking it -/

theorem verifyScalar_atData {reader : MessageElementReader} {code : UInt16} {data : CArray}
    {offset : Nat} {count : UInt32} (h : reader.AtData code data offset count) (expected : UInt16) :
    verifyScalar (.ok reader) expected =
      if code = expected ∧ data.len = 1 then .ok reader else .error .messageElementTypeMismatch := by
  obtain ⟨header, hread, htype, hcount⟩ := h.header
  have hone : count = 1 ↔ data.len = 1 := by
    rw [← h.count_eq, ← UInt32.toNat_inj]
    rfl
  rw [verifyScalar]
  simp only [bind, Except.bind, hread, htype, hcount, failIf, ne_eq, ← hone]
  by_cases hcode : code = expected
  · by_cases hcount1 : count = 1
    · simp [hcode, hcount1, pure, Except.pure]
    · simp [hcode, hcount1, pure, Except.pure, throw, throwThe, MonadExceptOf.throw]
  · simp [hcode, throw, throwThe, MonadExceptOf.throw]

theorem verifyArray_atData {reader : MessageElementReader} {code : UInt16} {data : CArray}
    {offset : Nat} {count : UInt32} (h : reader.AtData code data offset count) (expected : UInt16)
    (expectedLen : UInt32) (varLength : Bool) :
    verifyArray (.ok reader) expected expectedLen varLength =
      if code ≠ expected then .error .messageElementTypeMismatch
      else if varLength then
        if data.len ≤ expectedLen.toNat then .ok reader else .error .outOfRange
      else if data.len = expectedLen.toNat then .ok reader
      else .error .messageElementTypeMismatch := by
  obtain ⟨header, hread, htype, hcount⟩ := h.header
  have hle : ¬ count > expectedLen ↔ data.len ≤ expectedLen.toNat := by
    rw [← h.count_eq, gt_iff_lt, UInt32.lt_iff_toNat_lt]
    exact Nat.not_lt
  have heq : count = expectedLen ↔ data.len = expectedLen.toNat := by
    rw [← h.count_eq, UInt32.toNat_inj]
  rw [verifyArray]
  simp only [bind, Except.bind, hread, htype, hcount, failIf, ne_eq, ← hle, ← heq]
  by_cases hcode : code = expected
  · cases varLength with
    | true =>
        by_cases hmore : count > expectedLen
        · simp [hcode, hmore, pure, Except.pure, throw, throwThe, MonadExceptOf.throw]
        · simp [hcode, hmore, pure, Except.pure]
    | false =>
        by_cases hsame : count = expectedLen
        · simp [hcode, hsame, pure, Except.pure]
        · simp [hcode, hsame, pure, Except.pure, throw, throwThe, MonadExceptOf.throw]
  · simp [hcode, throw, throwThe, MonadExceptOf.throw]

/-! ## Finding it -/

/-- What was found is typed data: which checks it passes, and what reading it gives. -/
structure IsTypedData (found : Result MessageElementReader) (dataType : DataType α)
    (values : List α) : Prop where
  verify_scalar : ∀ expected, verifyScalar found expected =
    if dataType.code = expected ∧ values.length = 1 then found
    else .error .messageElementTypeMismatch
  verify_array : ∀ expected expectedLen varLength, verifyArray found expected expectedLen varLength =
    if dataType.code ≠ expected then .error .messageElementTypeMismatch
    else if varLength then
      if values.length ≤ expectedLen.toNat then found else .error .outOfRange
    else if values.length = expectedLen.toNat then found
    else .error .messageElementTypeMismatch
  read_array : ∀ dest : List α, 2 * (dest.length * dataType.codec.size) < SizeT.modulus →
    (found >>= fun reader => messageElementReaderReadDataArray dataType reader dest) =
      if values.length ≤ dest.length then
        .ok (values ++ dest.drop values.length, values.length)
      else .error .outOfRange
  read_scalar : ∀ value old, values = [value] →
    (found >>= fun reader => messageElementReaderReadDataScalar dataType reader old) = .ok value
  read_scalar_many : ∀ old, values.length ≠ 1 →
    (found >>= fun reader => messageElementReaderReadDataScalar dataType reader old) =
      .error .protocol
  read_other : ∀ (β : Type) (other : DataType β) (dest : List β) (old : β),
    dataType.code ≠ other.code →
    (found >>= fun reader => messageElementReaderReadDataArray other reader dest) =
        .error .messageElementTypeMismatch ∧
      (found >>= fun reader => messageElementReaderReadDataScalar other reader old) =
        .error .messageElementTypeMismatch

theorem isTypedData_of_lieAt {buffer : BufferVec} {messageVersion : UInt16} {start : Nat}
    {before after : List ElementTree} {dataType : DataType α} {elementName : ConstString}
    {values : List α} {hsmall : 2 * (values.length * dataType.codec.size) < SizeT.modulus}
    (h : LieAt buffer messageVersion start
      (before ++ dataType.element elementName values hsmall :: after)) :
    IsTypedData (.ok (readerAt buffer messageVersion start before
      (dataType.element elementName values hsmall) after)) dataType values := by
  obtain ⟨offset, count, hdata⟩ := atData_of_lieAt h
  constructor
  case verify_scalar => exact verifyScalar_atData hdata
  case verify_array => exact verifyArray_atData hdata
  case read_array => exact messageElementReaderReadDataArray_typed hdata
  case read_scalar => exact fun value old =>
    (messageElementReaderReadDataScalar_typed hdata old).1 value
  case read_scalar_many => exact fun old => (messageElementReaderReadDataScalar_typed hdata old).2
  case read_other => exact fun β other dest old hother => readData_otherType hdata other hother dest old

theorem FindsFirst.isTypedData {found : Result MessageElementReader} {buffer : BufferVec}
    {messageVersion : UInt16} {start : Nat} {before after : List ElementTree}
    {dataType : DataType α} {elementName target : ConstString} {values : List α}
    {hsmall : 2 * (values.length * dataType.codec.size) < SizeT.modulus}
    (h : FindsFirst found buffer messageVersion start
      (before ++ dataType.element elementName values hsmall :: after) target)
    (hlie : LieAt buffer messageVersion start
      (before ++ dataType.element elementName values hsmall :: after))
    (hpassed : ∀ other ∈ before, other.name.data ≠ target.data)
    (hname : elementName.data = target.data) :
    IsTypedData found dataType values := by
  rw [h.ok_of_first hpassed hname]
  exact isTypedData_of_lieAt hlie

/-- Typed data that was written under a name, in an entry or in a composite element, to one piece of
memory, is found by that name if no element before it has it. In version 2 the lengths of the
strings and the number of the elements have to have room in their fields. It passes the checks for
its type and its number of items, and reading it as that type gives what was written. -/
theorem typedData_found (unset : MessageElementWriter) (dataType : DataType α)
    (elementName target : ConstString) (values : List α)
    (hsmall : 2 * (values.length * dataType.codec.size) < SizeT.modulus)
    (before after : List ElementTree) (hpassed : ∀ other ∈ before, other.name.data ≠ target.data)
    (hname : elementName.data = target.data) :
    (∀ (entryWriter w : MessageEntryWriter) (entry : EntryTree) (v v' : BufferVec)
      (reader : MessageEntryReader),
      entry.elements = before ++ dataType.element elementName values hsmall :: after →
      writeEntry unset entryWriter entry v = (.ok w, v') → v'.segments.length = 1 →
      (entryWriter.messageVersion = 2 → entry.Narrow) →
      reader.AtEntry v' entryWriter.messageVersion entryWriter.bufferOffset entry →
      IsTypedData (messageEntryReaderFindElement reader target) dataType values) ∧
    ∀ (elementWriter w : MessageElementWriter) (header : MessageElementConstHeader)
      (children : List ElementTree) (v v' : BufferVec) (reader : MessageElementReader),
      children = before ++ dataType.element elementName values hsmall :: after →
      writeElement unset elementWriter (.nested header children) v = (.ok w, v') →
      v'.segments.length = 1 → header.elementType ∈ nestedElementTypes →
      (elementWriter.messageVersion = 2 → (ElementTree.nested header children).NarrowStrings) →
      reader.AtElement v' elementWriter.messageVersion elementWriter.bufferOffset
        (.nested header children) →
      IsTypedData (messageElementReaderFindNestedElement reader target) dataType values := by
  constructor
  · intro entryWriter w entry v v' reader helements hwrite hone hnarrow hreader
    obtain ⟨rfl, hversion, hoffset, hcount⟩ := hreader
    have hput := writeEntry_puts unset entryWriter entry
    obtain ⟨hwritten, -⟩ := answer_of_putsAt hput hwrite
    have hlong := messageEntryHeaderBytes_length hwritten.known entry.header 0 0
    have hat := at_of_putsAt hput hwrite (by rw [entryBytes_length hwritten.known]; omega)
    rw [← hoffset] at hat
    have hholds : reader.Holds entryWriter.messageVersion entry :=
      ⟨hwritten, fun h => (hnarrow h).legible, hone, hversion, hcount, hat⟩
    have hfinds := hholds.findsFirst target
    have hlie := hholds.lieAt (by
      rw [helements]
      exact List.append_ne_nil_of_right_ne_nil _ (List.cons_ne_nil _ _))
    rw [helements] at hfinds hlie
    exact hfinds.isTypedData hlie hpassed hname
  · intro elementWriter w header children v v' reader hchildren hwrite hone hcomposite hnarrow hreader
    obtain ⟨rfl, hversion, hoffset, hcount⟩ := hreader
    have hput := writeElement_puts unset elementWriter (.nested header children)
    obtain ⟨hver, hwritten, -⟩ := answer_of_putsAt hput hwrite
    have hlong := messageElementHeaderBytes_length hver header 0 0
    have hat := at_of_putsAt hput hwrite (by rw [elementBytes_nested_length hver]; omega)
    rw [← hoffset] at hat
    rw [messageElementReaderFindNestedElement]
    rcases beginReadNestedElements_readerAt hver hwritten hnarrow hcomposite reader hone hversion
      hcount hat rfl with ⟨hnil, -⟩ | ⟨element, elements, hlist, hlie, hbegin⟩
    · rw [hnil] at hchildren
      exact absurd hchildren.symm (List.append_ne_nil_of_right_ne_nil _ (List.cons_ne_nil _ _))
    · have hfinds := @LieAt.findsFirst _ _ _ _ _ _ target hlie
      rw [hbegin]
      rw [← hlist, hchildren] at hlie
      rw [← hlist] at hfinds
      rw [hchildren] at hfinds
      exact hfinds.isTypedData hlie hpassed hname

end

section

open Lp64

/-- An array of two integers, and a number behind it. -/
def twoParameters : List ElementTree :=
  [dataInt32.element (.constant [0x6E]) [-1, 7] (by decide +kernel),
    dataDouble.element (.constant [0x78]) [0x4000000000000000] (by decide +kernel)]

def twoParametersEntry : EntryTree := ⟨MessageEntryHeaderOf.zero (.constant []), twoParameters⟩

def twoParametersEntryBuffer : BufferVec :=
  (writeEntry ⟨0, 0, 0, 0, 0, 0, 0, 0⟩ ⟨10, 90, 0, 0, 0, 0, 0, 4⟩ twoParametersEntry hundredBytes).2

def twoParametersListBuffer : BufferVec :=
  (writeElement ⟨0, 0, 0, 0, 0, 0, 0, 0⟩ ⟨10, 90, 0, 0, 0, 0, 0, 2⟩ (.nested listHeader twoParameters)
    hundredBytes).2

theorem twoParameters_found :
    IsTypedData (messageEntryReaderFindElement ⟨twoParametersEntryBuffer, 10, 43, 0, 0, 0, 4⟩
        (.constant [0x78])) dataDouble [0x4000000000000000] ∧
      IsTypedData (messageElementReaderFindNestedElement ⟨twoParametersListBuffer, 10, 66, 0, 0, 0, 2⟩
        (.constant [0x78])) dataDouble [0x4000000000000000] := by
  have hentry : writeEntry ⟨0, 0, 0, 0, 0, 0, 0, 0⟩ ⟨10, 90, 0, 0, 0, 0, 0, 4⟩ twoParametersEntry
      hundredBytes = (.ok ⟨53, 47, 1, 43, 11, 19, 13, 4⟩, twoParametersEntryBuffer) :=
    Prod.ext (by decide +kernel) (by rw [twoParametersEntryBuffer])
  have hlist : writeElement ⟨0, 0, 0, 0, 0, 0, 0, 0⟩ ⟨10, 90, 0, 0, 0, 0, 0, 2⟩
      (.nested listHeader twoParameters) hundredBytes =
      (.ok ⟨76, 24, 1, 66, 10, 22, 16, 2⟩, twoParametersListBuffer) :=
    Prod.ext (by decide +kernel) (by rw [twoParametersListBuffer])
  have hstrings : listHeader.StringsWithin UINT16_MAX :=
    ⟨Nat.zero_le _, Nat.zero_le _, Nat.zero_le _⟩
  have hentryAt : (⟨twoParametersEntryBuffer, 10, 43, 0, 0, 0, 4⟩ : MessageEntryReader).AtEntry
      twoParametersEntryBuffer 4 10 twoParametersEntry :=
    ⟨by dsimp only, rfl, rfl, by decide +kernel⟩
  have hlistAt : (⟨twoParametersListBuffer, 10, 66, 0, 0, 0, 2⟩ : MessageElementReader).AtElement
      twoParametersListBuffer 2 10 (.nested listHeader twoParameters) :=
    ⟨by dsimp only, rfl, rfl, by decide +kernel⟩
  have hfound := typedData_found ⟨0, 0, 0, 0, 0, 0, 0, 0⟩ dataDouble (.constant [0x78])
    (.constant [0x78]) [0x4000000000000000] (by decide +kernel)
    [dataInt32.element (.constant [0x6E]) [-1, 7] (by decide +kernel)] []
    (fun other hother => by
      cases List.mem_singleton.mp hother
      decide) rfl
  exact ⟨hfound.1 _ _ _ _ _ _ rfl hentry (by decide +kernel) (fun h => absurd h (by decide)) hentryAt,
    hfound.2 _ _ _ _ _ _ _ rfl hlist (by decide +kernel) (by decide)
      (fun _ => ⟨hstrings, trivial, trivial, trivial⟩) hlistAt⟩

/-- A handler that wants the two integers gets them in the first two places of its array. -/
example : (messageEntryReaderFindElement ⟨twoParametersEntryBuffer, 10, 43, 0, 0, 0, 4⟩
    (.constant [0x6E]) >>= fun reader => messageElementReaderReadDataInt32Array reader [0, 0, 5]) =
      .ok ([-1, 7, 5], 2) := by
  decide +kernel

end

end RobotRaconteurLite

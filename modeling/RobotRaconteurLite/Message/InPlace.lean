import RobotRaconteurLite.Lib.OffsetWriter
import RobotRaconteurLite.Message.Reader
import RobotRaconteurLite.Message.Writer

/-!
# Calls that change their arguments (`message.c`)

The functions of the readers and writers answer the new record where C changes the
one it is given, and so leave open what becomes of that when a call fails. Here the same
calls are written with their assignments, each of which is made to the caller's
own record.
-/

namespace RobotRaconteurLite

open OffsetWriter

/-- What a call that fails leaves the record at, where `x` is what it answers. -/
def inPlace {α : Type} (x : Result α) (record : α) : Result Unit × α :=
  match x with
  | .ok record => (.ok (), record)
  | .error e => (.error e, record)

theorem inPlace_error {α : Type} {x : Result α} {record record' : α} {e : Status}
    (h : inPlace x record = (.error e, record')) : record' = record := by
  cases x with
  | ok a => cases h
  | error e' =>
      cases h
      rfl

section

variable [SizeT]

/-- `robotraconteurlite_messageelement_reader_move_next`. -/
def messageElementReaderMoveNextInPlace (elementReader : MessageElementReader) :
    Result Unit × MessageElementReader :=
  let o := addSz elementReader.bufferOffset elementReader.bufferCount
  if ¬ addSz elementReader.currentElement 1 < elementReader.totalElements then
    (.error .noMore, elementReader)
  else
    match messageReadCount elementReader.buffer elementReader.messageVersion o with
    | .error e => (.error e, elementReader)
    | .ok (elementSize, _) =>
        if elementReader.bufferRemaining < elementSize.toNat then (.error .protocol, elementReader)
        else
          let elementReader := { elementReader with bufferOffset := o }
          let elementReader := { elementReader with bufferCount := elementSize.toNat }
          let elementReader := { elementReader with
            bufferRemaining := subSz elementReader.bufferRemaining elementSize.toNat }
          (.ok (), { elementReader with currentElement := addSz elementReader.currentElement 1 })

/-- `robotraconteurlite_messageentry_reader_move_next`. -/
def messageEntryReaderMoveNextInPlace (entryReader : MessageEntryReader) :
    Result Unit × MessageEntryReader :=
  let o := addSz entryReader.bufferOffset entryReader.bufferCount
  if entryReader.entryCountOffset = sizeTMax then (.error .noMore, entryReader)
  else
    match messageReadCount2 entryReader.buffer entryReader.messageVersion
      entryReader.entryCountOffset with
    | .error e => (.error e, entryReader)
    | .ok (entryCount, _) =>
        if ¬ addSz entryReader.currentEntry 1 < entryCount.toNat then (.error .noMore, entryReader)
        else
          match messageReadCount entryReader.buffer entryReader.messageVersion o with
          | .error e => (.error e, entryReader)
          | .ok (entrySize, _) =>
              if entryReader.bufferRemaining < entrySize.toNat then (.error .protocol, entryReader)
              else
                let entryReader := { entryReader with bufferOffset := o }
                let entryReader := { entryReader with bufferCount := entrySize.toNat }
                let entryReader := { entryReader with
                  bufferRemaining := subSz entryReader.bufferRemaining entrySize.toNat }
                (.ok (), { entryReader with currentEntry := addSz entryReader.currentEntry 1 })

/-- `robotraconteurlite_messageelement_reader_read_data_ex`: the destination after the read, and
`*dest_len` after the call. -/
def messageElementReaderReadDataExInPlace (elementReader : MessageElementReader)
    (destBuf : List UInt8) (destLen : Nat) (destElemType : UInt16) (destElemSize : Nat) :
    Result (List UInt8) × Nat :=
  match messageElementReaderGetDataInfo elementReader destElemType destElemSize with
  | .error e => (.error e, destLen)
  | .ok (dataOffset, _, dataCount) =>
      match bufferVecCopyToMem elementReader.buffer dataOffset destBuf destLen 0 destElemSize
        dataCount.toNat with
      | .error e => (.error e, destLen)
      | .ok dest => (.ok dest, dataCount.toNat)

theorem messageElementReaderMoveNextInPlace_eq (r : MessageElementReader) :
    messageElementReaderMoveNextInPlace r = inPlace (messageElementReaderMoveNext r) r := by
  rw [messageElementReaderMoveNextInPlace, messageElementReaderMoveNext]
  by_cases hmore : ¬ addSz r.currentElement 1 < r.totalElements
  · simp only [failIf, if_pos hmore]
    rfl
  · simp only [failIf, if_neg hmore]
    cases messageReadCount r.buffer r.messageVersion (addSz r.bufferOffset r.bufferCount) with
    | error e => rfl
    | ok p =>
        by_cases hrem : r.bufferRemaining < p.1.toNat
        · simp only [if_pos hrem, bind, Except.bind, pure, Except.pure]
          rfl
        · simp only [if_neg hrem, bind, Except.bind, pure, Except.pure]
          rfl

theorem messageEntryReaderMoveNextInPlace_eq (r : MessageEntryReader) :
    messageEntryReaderMoveNextInPlace r = inPlace (messageEntryReaderMoveNext r) r := by
  rw [messageEntryReaderMoveNextInPlace, messageEntryReaderMoveNext]
  by_cases hmulti : r.entryCountOffset = sizeTMax
  · simp only [failIf, if_pos hmulti]
    rfl
  · simp only [failIf, if_neg hmulti]
    cases messageReadCount2 r.buffer r.messageVersion r.entryCountOffset with
    | error e => rfl
    | ok total =>
        by_cases hmore : ¬ addSz r.currentEntry 1 < total.1.toNat
        · simp only [if_pos hmore, bind, Except.bind, pure, Except.pure]
          rfl
        · simp only [if_neg hmore, bind, Except.bind, pure, Except.pure]
          cases messageReadCount r.buffer r.messageVersion (addSz r.bufferOffset r.bufferCount) with
          | error e => rfl
          | ok p =>
              by_cases hrem : r.bufferRemaining < p.1.toNat
              · simp only [if_pos hrem]
                rfl
              · simp only [if_neg hrem]
                rfl

theorem messageElementReaderReadDataExInPlace_eq (r : MessageElementReader) (destBuf : List UInt8)
    (destLen : Nat) (destElemType : UInt16) (destElemSize : Nat) :
    messageElementReaderReadDataExInPlace r destBuf destLen destElemType destElemSize =
      match messageElementReaderReadDataEx r destBuf destLen destElemType destElemSize with
      | .ok (dest, count) => (.ok dest, count)
      | .error e => (.error e, destLen) := by
  rw [messageElementReaderReadDataExInPlace, messageElementReaderReadDataEx]
  cases messageElementReaderGetDataInfo r destElemType destElemSize with
  | error e => rfl
  | ok p =>
      obtain ⟨dataOffset, dataSize, dataCount⟩ := p
      simp only [bind, Except.bind, pure, Except.pure]
      cases bufferVecCopyToMem r.buffer dataOffset destBuf destLen 0 destElemSize dataCount.toNat with
      | error e => rfl
      | ok dest => rfl

/-! ## Writing -/

/-- `robotraconteurlite_messageelement_writer_write_raw`. -/
def messageElementWriterWriteRawInPlace (elementWriter : MessageElementWriter)
    (elementName : ConstString) (dataBuf : List UInt8) (dataLen : Nat) (dataType : UInt16)
    (dataElemSize : Nat) : StateM BufferVec (Result Unit × MessageElementWriter) := fun buffer =>
  let writeHeader : BufferM (MessageElementBufferInfo × Nat) :=
    StateT.run' (if elementWriter.messageVersion = 2 then
        messageElementWriterWriteDataHeader2Ex elementName dataLen dataType dataElemSize
      else if elementWriter.messageVersion = 4 then
        messageElementWriterWriteDataHeader4Ex elementName dataLen dataType dataElemSize
      else throw .protocol) elementWriter.bufferOffset
  if ¬ elementWriter.elementsWrittenCount < UINT32_MAX then ((.error .protocol, elementWriter), buffer)
  else
    match writeHeader buffer with
    | (.error e, buffer) => ((.error e, elementWriter), buffer)
    | (.ok (bufferInfo, elemSize), buffer) =>
        match bufferUpdate (fun buffer => bufferVecCopyFromMem buffer bufferInfo.dataStartOffset
          dataBuf dataLen 0 dataElemSize dataLen) buffer with
        | (.error e, buffer) => ((.error e, elementWriter), buffer)
        | (.ok (), buffer) =>
            let elementWriter := { elementWriter with
              elementsWrittenCount := addSz elementWriter.elementsWrittenCount 1 }
            let elementWriter := { elementWriter with
              elementsWrittenSize := addSz elementWriter.elementsWrittenSize elemSize }
            let elementWriter := { elementWriter with
              bufferOffset := addSz elementWriter.bufferOffset elemSize }
            let elementWriter := { elementWriter with
              bufferCount := subSz elementWriter.bufferCount elemSize }
            ((.ok (), elementWriter), buffer)

/-- `robotraconteurlite_messageelement_writer_begin_nested_element`: the writer and the nested
one. -/
def messageElementWriterBeginNestedElementInPlace (elementWriter : MessageElementWriter)
    (header : MessageElementConstHeader) (nestedElementWriter : MessageElementWriter) :
    StateM BufferVec (Result Unit × MessageElementWriter × MessageElementWriter) := fun buffer =>
  let writeHeader : BufferM MessageElementBufferInfo :=
    StateT.run' (if elementWriter.messageVersion = 2 then
        messageElementWriterWriteHeader2Ex elementWriter header
      else if elementWriter.messageVersion = 4 then
        messageElementWriterWriteHeader4Ex elementWriter header
      else throw .protocol) elementWriter.bufferOffset
  if ¬ elementWriter.elementsWrittenCount < UINT32_MAX then
    ((.error .protocol, elementWriter, nestedElementWriter), buffer)
  else
    match writeHeader buffer with
    | (.error e, buffer) => ((.error e, elementWriter, nestedElementWriter), buffer)
    | (.ok bufferInfo, buffer) =>
        let nestedElementWriter := { nestedElementWriter with
          bufferOffset := bufferInfo.dataStartOffset }
        let nestedElementWriter := { nestedElementWriter with
          bufferCount := subSz elementWriter.bufferCount bufferInfo.headerSize }
        let nestedElementWriter := { nestedElementWriter with elementsWrittenCount := 0 }
        let nestedElementWriter := { nestedElementWriter with elementsWrittenSize := 0 }
        let nestedElementWriter := { nestedElementWriter with
          messageVersion := elementWriter.messageVersion }
        let elementWriter := { elementWriter with
          elementSizeOffset := bufferInfo.elementSizeOffset }
        let elementWriter := { elementWriter with
          dataCountOffset := bufferInfo.elementCountOffset }
        let elementWriter := { elementWriter with elementHeaderSize := bufferInfo.headerSize }
        ((.ok (), elementWriter, nestedElementWriter), buffer)

/-- `robotraconteurlite_messageelement_writer_end_nested_element`. -/
def messageElementWriterEndNestedElementInPlace (elementWriter : MessageElementWriter)
    (nestedElementWriter : MessageElementWriter) :
    StateM BufferVec (Result Unit × MessageElementWriter) := fun buffer =>
  let elementSize :=
    addSz elementWriter.elementHeaderSize nestedElementWriter.elementsWrittenSize
  let dataCount := UInt32.ofNat nestedElementWriter.elementsWrittenCount
  let writeSizes : BufferM Unit :=
    if elementWriter.messageVersion = 2 then do
      StateT.run' (messageWriteUint32 (UInt32.ofNat elementSize)) elementWriter.elementSizeOffset
      StateT.run' (messageWriteUint32 dataCount) elementWriter.dataCountOffset
    else if elementWriter.messageVersion = 4 then do
      messageWritePaddedUintXVal elementWriter.elementSizeOffset (UInt32.ofNat elementSize)
      messageWritePaddedUintXVal elementWriter.dataCountOffset dataCount
    else throw .protocol
  if elementSize > UINT32_MAX then ((.error .outOfRange, elementWriter), buffer)
  else
    match writeSizes buffer with
    | (.error e, buffer) => ((.error e, elementWriter), buffer)
    | (.ok (), buffer) =>
        let elementWriter := { elementWriter with
          elementsWrittenCount := addSz elementWriter.elementsWrittenCount 1 }
        let elementWriter := { elementWriter with
          elementsWrittenSize := addSz elementWriter.elementsWrittenSize elementSize }
        let elementWriter := { elementWriter with
          bufferOffset := addSz elementWriter.bufferOffset elementSize }
        let elementWriter := { elementWriter with
          bufferCount := subSz elementWriter.bufferCount elementSize }
        ((.ok (), elementWriter), buffer)

/-- `robotraconteurlite_messageentry_writer_begin_entry`: the entry writer and the element
writer. -/
def messageEntryWriterBeginEntryInPlace (entryWriter : MessageEntryWriter)
    (header : MessageEntryConstHeader) (elementWriter : MessageElementWriter) :
    StateM BufferVec (Result Unit × MessageEntryWriter × MessageElementWriter) := fun buffer =>
  let writeHeader : BufferM MessageEntryBufferInfo :=
    StateT.run' (if entryWriter.messageVersion = 2 then
        messageEntryWriterWriteHeader2Ex entryWriter header
      else if entryWriter.messageVersion = 4 then
        messageEntryWriterWriteHeader4Ex entryWriter header
      else throw .protocol) entryWriter.bufferOffset
  if ¬ entryWriter.entriesWrittenCount < UINT16_MAX then
    ((.error .protocol, entryWriter, elementWriter), buffer)
  else
    match writeHeader buffer with
    | (.error e, buffer) => ((.error e, entryWriter, elementWriter), buffer)
    | (.ok bufferInfo, buffer) =>
        let elementWriter := { elementWriter with
          bufferOffset := addSz entryWriter.bufferOffset bufferInfo.headerSize }
        let elementWriter := { elementWriter with
          bufferCount := subSz entryWriter.bufferCount bufferInfo.headerSize }
        let elementWriter := { elementWriter with elementsWrittenCount := 0 }
        let elementWriter := { elementWriter with elementsWrittenSize := 0 }
        let elementWriter := { elementWriter with messageVersion := entryWriter.messageVersion }
        let entryWriter := { entryWriter with entrySizeOffset := bufferInfo.entrySizeOffset }
        let entryWriter := { entryWriter with
          elementCountOffset := bufferInfo.elementCountOffset }
        let entryWriter := { entryWriter with entryHeaderSize := bufferInfo.headerSize }
        ((.ok (), entryWriter, elementWriter), buffer)

/-- `inPlace` for a call that also writes to the buffer. -/
def bufferedInPlace {α : Type} (c : BufferM α) (record : α) :
    StateM BufferVec (Result Unit × α) :=
  fun buffer => (inPlace (c buffer).1 record, (c buffer).2)

theorem bufferedInPlace_error {α : Type} {c : BufferM α} {record record' : α} {e : Status}
    {v v' : BufferVec} (h : bufferedInPlace c record v = ((.error e, record'), v')) :
    record' = record :=
  inPlace_error (congrArg Prod.fst h)

theorem failIf_neg_apply {p : Prop} [Decidable p] {e : Status} (h : ¬ p) (v : BufferVec) :
    (failIf p e : BufferM Unit) v = (.ok (), v) := by
  rw [failIf, if_neg h]
  rfl

theorem messageElementWriterWriteRawInPlace_eq (elementWriter : MessageElementWriter)
    (elementName : ConstString) (dataBuf : List UInt8) (dataLen : Nat) (dataType : UInt16)
    (dataElemSize : Nat) :
    messageElementWriterWriteRawInPlace elementWriter elementName dataBuf dataLen dataType
        dataElemSize =
      bufferedInPlace (messageElementWriterWriteRaw elementWriter elementName dataBuf dataLen
        dataType dataElemSize) elementWriter := by
  funext v
  simp only [messageElementWriterWriteRawInPlace, bufferedInPlace, messageElementWriterWriteRaw]
  by_cases hroom : ¬ elementWriter.elementsWrittenCount < UINT32_MAX
  · simp only [failIf, if_pos hroom]
    rfl
  · simp only [if_neg hroom, buffered_bind_apply, failIf_neg_apply hroom]
    generalize (StateT.run' _ _ : BufferM (MessageElementBufferInfo × Nat)) v = written
    obtain ⟨x, w⟩ := written
    cases x with
    | error e => rfl
    | ok p =>
        dsimp only
        generalize bufferUpdate _ w = copied
        obtain ⟨x, u⟩ := copied
        cases x <;> rfl

theorem messageElementWriterBeginNestedElementInPlace_eq (elementWriter : MessageElementWriter)
    (header : MessageElementConstHeader) (nestedElementWriter : MessageElementWriter) :
    messageElementWriterBeginNestedElementInPlace elementWriter header nestedElementWriter =
      bufferedInPlace (messageElementWriterBeginNestedElement elementWriter header
        nestedElementWriter) (elementWriter, nestedElementWriter) := by
  funext v
  simp only [messageElementWriterBeginNestedElementInPlace, bufferedInPlace,
    messageElementWriterBeginNestedElement]
  by_cases hroom : ¬ elementWriter.elementsWrittenCount < UINT32_MAX
  · simp only [failIf, if_pos hroom]
    rfl
  · simp only [if_neg hroom, buffered_bind_apply, failIf_neg_apply hroom]
    generalize (StateT.run' _ _ : BufferM MessageElementBufferInfo) v = written
    obtain ⟨x, w⟩ := written
    cases x <;> rfl

theorem messageElementWriterEndNestedElementInPlace_eq
    (elementWriter nestedElementWriter : MessageElementWriter) :
    messageElementWriterEndNestedElementInPlace elementWriter nestedElementWriter =
      bufferedInPlace (messageElementWriterEndNestedElement elementWriter nestedElementWriter)
        elementWriter := by
  funext v
  simp only [messageElementWriterEndNestedElementInPlace, bufferedInPlace,
    messageElementWriterEndNestedElement]
  by_cases hlong : addSz elementWriter.elementHeaderSize nestedElementWriter.elementsWrittenSize >
      UINT32_MAX
  · simp only [failIf, if_pos hlong]
    rfl
  · simp only [if_neg hlong, buffered_bind_apply, failIf_neg_apply hlong]
    by_cases h2 : elementWriter.messageVersion = 2
    · simp only [if_pos h2, buffered_bind_apply]
      generalize (StateT.run' _ _ : BufferM Unit) v = first
      obtain ⟨x, w⟩ := first
      cases x with
      | error e => rfl
      | ok _ =>
          dsimp only
          generalize (StateT.run' _ _ : BufferM Unit) w = second
          obtain ⟨x, u⟩ := second
          cases x <;> rfl
    · by_cases h4 : elementWriter.messageVersion = 4
      · simp only [if_neg h2, if_pos h4, buffered_bind_apply]
        generalize messageWritePaddedUintXVal _ _ v = first
        obtain ⟨x, w⟩ := first
        cases x with
        | error e => rfl
        | ok _ =>
            dsimp only
            generalize messageWritePaddedUintXVal _ _ w = second
            obtain ⟨x, u⟩ := second
            cases x <;> rfl
      · simp only [if_neg h2, if_neg h4]
        rfl

theorem messageEntryWriterBeginEntryInPlace_eq (entryWriter : MessageEntryWriter)
    (header : MessageEntryConstHeader) (elementWriter : MessageElementWriter) :
    messageEntryWriterBeginEntryInPlace entryWriter header elementWriter =
      bufferedInPlace (messageEntryWriterBeginEntry entryWriter header elementWriter)
        (entryWriter, elementWriter) := by
  funext v
  simp only [messageEntryWriterBeginEntryInPlace, bufferedInPlace, messageEntryWriterBeginEntry]
  by_cases hroom : ¬ entryWriter.entriesWrittenCount < UINT16_MAX
  · simp only [failIf, if_pos hroom]
    rfl
  · simp only [if_neg hroom, buffered_bind_apply, failIf_neg_apply hroom]
    generalize (StateT.run' _ _ : BufferM MessageEntryBufferInfo) v = written
    obtain ⟨x, w⟩ := written
    cases x <;> rfl

end

end RobotRaconteurLite

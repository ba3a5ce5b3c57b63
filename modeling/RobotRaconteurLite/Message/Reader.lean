import RobotRaconteurLite.Message.Types

/-!
# The message reader (`message.c`)

The reader never builds a tree. Each of its records is a window of the buffer,
and each call computes the next window from sizes it reads at the edge of the
current one.

The functions that parse a header thread a byte offset through a sequence of
reads, `robotraconteurlite_size_t* offset` in C. Here that is a `Cursor`: a
computation that starts at an offset and, unless it fails, answers a value and
the offset it stopped at. A C function that fails half-way leaves the fields it
had already read in the caller's header. No caller in the library looks at a
header after a failure, so a failed read answers its status only.
-/

namespace RobotRaconteurLite

open Splice

/-- A read that starts at an offset and moves it. -/
abbrev Cursor (α : Type) := StateT Nat (Except Status) α

/-- `if (c) { return e; }`. -/
def failIf {m : Type → Type} [Monad m] [MonadExceptOf Status m] (c : Prop) [Decidable c]
    (e : Status) : m Unit :=
  if c then throw e else pure ()

/-- A field that is there when a flag says so. -/
def readIf {α : Type} (present : Bool) (read : Cursor α) (default : α) : Cursor α :=
  if present then read else pure default

section

variable [SizeT]

/-- `robotraconteurlite_message_reader_init`. -/
def messageReaderInit (reader : MessageReader) (buffer : BufferVec) (offset count : Nat) :
    Result MessageReader := do
  failIf (bufferVecLen buffer.toBuffers < addSz offset count) .outOfRange
  failIf (count < 10) .outOfRange
  let magicData ← bufferVecCopyToUint8Array buffer offset (List.replicate 4 0) 0 4
  failIf (magicData ≠ [0x52, 0x52, 0x41, 0x43]) .protocol
  let messageSize ← bufferVecCopyToUint32 buffer (addSz offset 4)
  failIf (count < messageSize.toNat) .outOfRange
  pure { reader with
    buffer := buffer, bufferOffset := offset, bufferCount := count }

/-! ## Fields -/

/-- `robotraconteurlite_message_read_header_string`. A string without storage
only learns the length. -/
def messageReadHeaderString (buffer : BufferVec) (offset strLen : Nat) (str : StringBuf) :
    Result StringBuf :=
  match str with
  | .null len =>
      if strLen = 0 then .ok (.null 0)
      else if len = 0 then .ok (.null strLen)
      else .error .undefined
  | .storage bytes h =>
      if strLen = 0 then .ok (.storage [] modulus_pos)
      else if bytes.length < strLen then .error .invalidArgument
      else do
        let copied ← bufferVecCopyToString buffer offset bytes 0 strLen
        if hc : (copied.take strLen).length ≤ bytes.length then
          pure (.storage (copied.take strLen) (Nat.lt_of_le_of_lt (Nat.mul_le_mul_left 2 hc) h))
        else .error .undefined

/-- A read of one value of `size` bytes. -/
def messageReadVal {α : Type} (copy : BufferVec → Nat → Result α) (size : Nat)
    (buffer : BufferVec) : Cursor α := fun offset => do
  let val ← copy buffer offset
  pure (val, addSz offset size)

/-- `*offset += n`. -/
def messageSkip (n : Nat) : Cursor Unit := fun offset => pure ((), addSz offset n)

/-- `robotraconteurlite_message_read_uint32`. -/
def messageReadUint32 (buffer : BufferVec) : Cursor UInt32 :=
  messageReadVal bufferVecCopyToUint32 4 buffer

/-- `robotraconteurlite_message_read_uint16`. -/
def messageReadUint16 (buffer : BufferVec) : Cursor UInt16 :=
  messageReadVal bufferVecCopyToUint16 2 buffer

/-- `robotraconteurlite_message_read_uint8`. -/
def messageReadUint8 (buffer : BufferVec) : Cursor UInt8 :=
  messageReadVal bufferVecCopyToUint8 1 buffer

/-- `robotraconteurlite_message_read_uint_x`. -/
def messageReadUintX (buffer : BufferVec) : Cursor UInt32 := do
  let b ← messageReadUint8 buffer
  if b ≤ 252 then pure b.toUInt32
  else if b = 253 then do
    let val16 ← messageReadUint16 buffer
    pure val16.toUInt32
  else if b = 254 then messageReadUint32 buffer
  else throw .protocol

/-- `robotraconteurlite_message_read_int_x`. -/
def messageReadIntX (buffer : BufferVec) : Cursor Int32 := do
  let b ← messageReadVal bufferVecCopyToInt8 1 buffer
  if b ≤ 124 then pure b.toInt32
  else if b = 125 then do
    let val16 ← messageReadVal bufferVecCopyToInt16 2 buffer
    pure val16.toInt32
  else if b = 126 then messageReadVal bufferVecCopyToInt32 4 buffer
  else throw .protocol

/-- `robotraconteurlite_message_read_count`. -/
def messageReadCount (buffer : BufferVec) (ver : UInt16) : Cursor UInt32 :=
  if ver = 2 then messageReadUint32 buffer
  else if ver = 4 then messageReadUintX buffer
  else throw .protocol

/-- `robotraconteurlite_message_read_count2`. -/
def messageReadCount2 (buffer : BufferVec) (ver : UInt16) : Cursor UInt32 :=
  if ver = 2 then do
    let val16 ← messageReadUint16 buffer
    pure val16.toUInt32
  else if ver = 4 then messageReadUintX buffer
  else throw .protocol

/-- A block behind its length, which the reader passes over. -/
def messageSkipBlock (buffer : BufferVec) : Cursor Unit := do
  let size ← messageReadUintX buffer
  messageSkip size.toNat

/-- `robotraconteurlite_message_read_nodeid`. -/
def messageReadNodeid (buffer : BufferVec) : Cursor NodeId := fun offset => do
  let data ← bufferVecCopyToUint8Array buffer offset (List.replicate 16 0) 0 16
  if h : data.length = 16 then pure (⟨data, h⟩, addSz offset 16)
  else .error .undefined

/-- `struct robotraconteurlite_message_read_header_string_info`. -/
structure ReadHeaderStringInfo where
  offset : Nat
  strLen : Nat
  deriving DecidableEq, Repr

/-- Where a string with a length in front of it lies, and the offset moved past it. -/
def messageReadHeaderStringInfo (readLen : Cursor Nat) : Cursor ReadHeaderStringInfo := do
  let strLen ← readLen
  let offset ← get
  messageSkip strLen
  pure ⟨offset, strLen⟩

/-- `robotraconteurlite_message_read_header_string_with_len_prefix2_1`. -/
def messageReadHeaderStringWithLenPrefix2_1 (buffer : BufferVec) :
    Cursor ReadHeaderStringInfo :=
  messageReadHeaderStringInfo (UInt16.toNat <$> messageReadUint16 buffer)

/-- `robotraconteurlite_message_read_header_string_with_len_prefix4_1`. -/
def messageReadHeaderStringWithLenPrefix4_1 (buffer : BufferVec) :
    Cursor ReadHeaderStringInfo :=
  messageReadHeaderStringInfo (UInt32.toNat <$> messageReadUintX buffer)

/-- `robotraconteurlite_message_read_header_string_with_len_prefix2_2`, and
`prefix4_2`. The offset stays where it is. -/
def messageReadHeaderStringWithLenPrefix_2 (buffer : BufferVec)
    (strInfo : ReadHeaderStringInfo) (str : StringBuf) : Cursor StringBuf := fun offset => do
  let str ← messageReadHeaderString buffer strInfo.offset strInfo.strLen str
  pure (str, offset)

/-! ## Message header -/

/-- `robotraconteurlite_message_reader_read_header4_ex`. -/
def messageReaderReadHeader4Ex (reader : MessageReader) (header : MessageHeader) :
    Result (MessageHeader × MessageBufferInfo) :=
  StateT.run' (do
    -- skip RRAC magic
    messageSkip 4
    let messageSize ← messageReadUint32 reader.buffer
    let messageVersion ← messageReadUint16 reader.buffer
    failIf (messageVersion ≠ 4) .protocol
    let headerSize ← messageReadUintX reader.buffer
    let flags8 ← messageReadUint8 reader.buffer
    let flags := flags8.toBitVec
    let routing := flagsCheck flags MESSAGE_FLAGS_ROUTING_INFO
    let endpoint := flagsCheck flags MESSAGE_FLAGS_ENDPOINT_INFO
    let metaFlag := flagsCheck flags MESSAGE_FLAGS_META_INFO
    let senderNodeid ← readIf routing (messageReadNodeid reader.buffer) NodeId.any
    let receiverNodeid ← readIf routing (messageReadNodeid reader.buffer) NodeId.any
    let senderInfo ← readIf routing
      (messageReadHeaderStringWithLenPrefix4_1 reader.buffer) ⟨0, 0⟩
    let receiverInfo ← readIf routing
      (messageReadHeaderStringWithLenPrefix4_1 reader.buffer) ⟨0, 0⟩
    let senderEndpoint ← readIf endpoint (messageReadUintX reader.buffer) 0
    let receiverEndpoint ← readIf endpoint (messageReadUintX reader.buffer) 0
    let priority ← readIf (flagsCheck flags MESSAGE_FLAGS_PRIORITY)
      (messageReadUint16 reader.buffer) 0
    let metaInfo ← readIf metaFlag
      (messageReadHeaderStringWithLenPrefix4_1 reader.buffer) ⟨0, 0⟩
    let messageId ← readIf metaFlag (messageReadUint16 reader.buffer) 0
    let messageResId ← readIf metaFlag (messageReadUint16 reader.buffer) 0
    readIf (flagsCheck flags MESSAGE_FLAGS_STRING_TABLE) (messageSkipBlock reader.buffer) ()
    let multiple := flagsCheck flags MESSAGE_FLAGS_MULTIPLE_ENTRIES
    let countOffset ← get
    let entryCount ← readIf multiple (messageReadUintX reader.buffer) 1
    readIf (flagsCheck flags MESSAGE_FLAGS_EXTENDED) (messageSkipBlock reader.buffer) ()
    let o ← get
    failIf (subSz o reader.bufferOffset ≠ headerSize.toNat) .protocol
    let senderNodename ← readIf routing (messageReadHeaderStringWithLenPrefix_2
      reader.buffer senderInfo header.senderNodename) (.null 0)
    let receiverNodename ← readIf routing (messageReadHeaderStringWithLenPrefix_2
      reader.buffer receiverInfo header.receiverNodename) (.null 0)
    let metadata ← readIf metaFlag (messageReadHeaderStringWithLenPrefix_2
      reader.buffer metaInfo header.metadata) (.null 0)
    pure ({ header with
        messageSize, messageVersion, headerSize, senderNodeid, receiverNodeid,
        senderEndpoint, receiverEndpoint, priority, senderNodename, receiverNodename,
        metadata, entryCount, messageId, messageResId
        messageFlags := flags },
      { startBufferOffset := reader.bufferOffset
        headerSize := headerSize.toNat
        entryCountOffset := if multiple then countOffset else sizeTMax
        entryStartOffset := o }))
    reader.bufferOffset

/-- `robotraconteurlite_message_reader_read_header2_ex`. -/
def messageReaderReadHeader2Ex (reader : MessageReader) (header : MessageHeader) :
    Result (MessageHeader × MessageBufferInfo) :=
  StateT.run' (do
    -- skip RRAC magic
    messageSkip 4
    let messageSize ← messageReadUint32 reader.buffer
    let messageVersion ← messageReadUint16 reader.buffer
    let headerSize ← messageReadUint16 reader.buffer
    let senderNodeid ← messageReadNodeid reader.buffer
    let receiverNodeid ← messageReadNodeid reader.buffer
    let senderEndpoint ← messageReadUint32 reader.buffer
    let receiverEndpoint ← messageReadUint32 reader.buffer
    let senderInfo ← messageReadHeaderStringWithLenPrefix2_1 reader.buffer
    let receiverInfo ← messageReadHeaderStringWithLenPrefix2_1 reader.buffer
    let metaInfo ← messageReadHeaderStringWithLenPrefix2_1 reader.buffer
    let countOffset ← get
    let entryCount ← messageReadUint16 reader.buffer
    let messageId ← messageReadUint16 reader.buffer
    let messageResId ← messageReadUint16 reader.buffer
    let o ← get
    failIf (subSz o reader.bufferOffset ≠ headerSize.toNat) .protocol
    let senderNodename ← messageReadHeaderStringWithLenPrefix_2 reader.buffer
      senderInfo header.senderNodename
    let receiverNodename ← messageReadHeaderStringWithLenPrefix_2 reader.buffer
      receiverInfo header.receiverNodename
    let metadata ← messageReadHeaderStringWithLenPrefix_2 reader.buffer
      metaInfo header.metadata
    pure ({ header with
        messageSize, messageVersion, senderNodeid, receiverNodeid, senderEndpoint,
        receiverEndpoint, senderNodename, receiverNodename, metadata, messageId, messageResId
        headerSize := headerSize.toUInt32
        entryCount := entryCount.toUInt32
        messageFlags := MESSAGE_FLAGS_VERSION2COMPAT
        priority := 0 },
      { startBufferOffset := reader.bufferOffset
        headerSize := headerSize.toNat
        entryCountOffset := countOffset
        entryStartOffset := o }))
    reader.bufferOffset

/-- `robotraconteurlite_message_reader_read_header_ex`. -/
def messageReaderReadHeaderEx (reader : MessageReader) (header : MessageHeader) :
    Result (MessageHeader × MessageBufferInfo) := do
  let messageVersion ← bufferVecCopyToUint16 reader.buffer (addSz reader.bufferOffset 8)
  if messageVersion = 2 then messageReaderReadHeader2Ex reader header
  else if messageVersion = 4 then messageReaderReadHeader4Ex reader header
  else .error .protocol

/-- `robotraconteurlite_message_reader_read_header`. -/
def messageReaderReadHeader (reader : MessageReader) (header : MessageHeader) :
    Result (MessageHeader × MessageReader) := do
  let (header, _) ← messageReaderReadHeaderEx reader header
  pure (header, { reader with messageVersion := header.messageVersion })

/-! ## Entries -/

/-- `robotraconteurlite_message_reader_begin_read_entries`. -/
def messageReaderBeginReadEntries (reader : MessageReader) : Result MessageEntryReader := do
  let (messageHeader, messageBufferInfo) ←
    messageReaderReadHeaderEx reader (MessageHeaderOf.zero (.null 0))
  let o := addSz reader.bufferOffset messageHeader.headerSize.toNat
  let (entrySize, _) ← messageReadCount reader.buffer reader.messageVersion o
  failIf (addSz o entrySize.toNat > reader.bufferCount) .protocol
  pure {
    buffer := reader.buffer
    bufferOffset := addSz reader.bufferOffset o
    bufferCount := entrySize.toNat
    bufferRemaining := subSz (subSz reader.bufferCount o) entrySize.toNat
    currentEntry := 0
    entryCountOffset := messageBufferInfo.entryCountOffset
    messageVersion := reader.messageVersion }

/-- `robotraconteurlite_messageentry_reader_move_next`. -/
def messageEntryReaderMoveNext (entryReader : MessageEntryReader) :
    Result MessageEntryReader := do
  let o := addSz entryReader.bufferOffset entryReader.bufferCount
  failIf (entryReader.entryCountOffset = sizeTMax) .noMore
  let (entryCount, _) ← messageReadCount2 entryReader.buffer entryReader.messageVersion
    entryReader.entryCountOffset
  failIf (¬ addSz entryReader.currentEntry 1 < entryCount.toNat) .noMore
  let (entrySize, _) ← messageReadCount entryReader.buffer entryReader.messageVersion o
  failIf (entryReader.bufferRemaining < entrySize.toNat) .protocol
  pure { entryReader with
    bufferOffset := o
    bufferCount := entrySize.toNat
    bufferRemaining := subSz entryReader.bufferRemaining entrySize.toNat
    currentEntry := addSz entryReader.currentEntry 1 }

/-- `robotraconteurlite_messageentry_reader_read_header2_ex`. -/
def messageEntryReaderReadHeader2Ex (entryReader : MessageEntryReader)
    (header : MessageEntryHeader) : Result (MessageEntryHeader × MessageEntryBufferInfo) :=
  StateT.run' (do
    let entrySize ← messageReadUint32 entryReader.buffer
    let entryType ← messageReadUint16 entryReader.buffer
    -- reserved
    messageSkip 2
    let servicePathInfo ← messageReadHeaderStringWithLenPrefix2_1 entryReader.buffer
    let memberNameInfo ← messageReadHeaderStringWithLenPrefix2_1 entryReader.buffer
    let requestId ← messageReadUint32 entryReader.buffer
    let error ← messageReadUint16 entryReader.buffer
    let metaInfo ← messageReadHeaderStringWithLenPrefix2_1 entryReader.buffer
    let countOffset ← get
    let elementCount ← messageReadUint16 entryReader.buffer
    let servicePath ← messageReadHeaderStringWithLenPrefix_2 entryReader.buffer
      servicePathInfo header.servicePath
    let memberName ← messageReadHeaderStringWithLenPrefix_2 entryReader.buffer
      memberNameInfo header.memberName
    let metadata ← messageReadHeaderStringWithLenPrefix_2 entryReader.buffer
      metaInfo header.metadata
    let o ← get
    pure ({ header with
        entrySize, entryType, requestId, error, servicePath, memberName, metadata
        elementCount := elementCount.toUInt32 },
      { startBufferOffset := entryReader.bufferOffset
        headerSize := subSz o entryReader.bufferOffset
        elementCountOffset := countOffset
        elementStartOffset := o
        entrySizeOffset := entryReader.bufferOffset }))
    entryReader.bufferOffset

/-- `robotraconteurlite_messageentry_reader_read_header4_ex`. -/
def messageEntryReaderReadHeader4Ex (entryReader : MessageEntryReader)
    (header : MessageEntryHeader) : Result (MessageEntryHeader × MessageEntryBufferInfo) :=
  StateT.run' (do
    let entrySize ← messageReadUintX entryReader.buffer
    let flags8 ← messageReadUint8 entryReader.buffer
    let flags := flags8.toBitVec
    let servicePathStr := flagsCheck flags MESSAGEENTRY_FLAGS_SERVICE_PATH_STR
    let memberNameStr := flagsCheck flags MESSAGEENTRY_FLAGS_MEMBER_NAME_STR
    let metaFlag := flagsCheck flags MESSAGEENTRY_FLAGS_META_INFO
    let entryType ← messageReadUint16 entryReader.buffer
    let servicePathInfo ← readIf servicePathStr
      (messageReadHeaderStringWithLenPrefix4_1 entryReader.buffer) ⟨0, 0⟩
    let servicePathCode ← readIf (flagsCheck flags MESSAGEENTRY_FLAGS_SERVICE_PATH_CODE)
      (messageReadUintX entryReader.buffer) 0
    let memberNameInfo ← readIf memberNameStr
      (messageReadHeaderStringWithLenPrefix4_1 entryReader.buffer) ⟨0, 0⟩
    let memberNameCode ← readIf (flagsCheck flags MESSAGEENTRY_FLAGS_MEMBER_NAME_CODE)
      (messageReadUintX entryReader.buffer) 0
    let requestId ← readIf (flagsCheck flags MESSAGEENTRY_FLAGS_REQUEST_ID)
      (messageReadUintX entryReader.buffer) 0
    let error ← readIf (flagsCheck flags MESSAGEENTRY_FLAGS_ERROR)
      (messageReadUint16 entryReader.buffer) 0
    let metaInfo ← readIf metaFlag
      (messageReadHeaderStringWithLenPrefix4_1 entryReader.buffer) ⟨0, 0⟩
    readIf (flagsCheck flags MESSAGEENTRY_FLAGS_EXTENDED)
      (messageSkipBlock entryReader.buffer) ()
    let countOffset ← get
    let elementCount ← messageReadUintX entryReader.buffer
    let servicePath ← readIf servicePathStr (messageReadHeaderStringWithLenPrefix_2
      entryReader.buffer servicePathInfo header.servicePath) (.null 0)
    let memberName ← readIf memberNameStr (messageReadHeaderStringWithLenPrefix_2
      entryReader.buffer memberNameInfo header.memberName) (.null 0)
    let metadata ← readIf metaFlag (messageReadHeaderStringWithLenPrefix_2
      entryReader.buffer metaInfo header.metadata) (.null 0)
    let o ← get
    pure ({ header with
        entrySize, entryType, servicePath, servicePathCode, memberName, memberNameCode,
        requestId, error, metadata, elementCount },
      { startBufferOffset := entryReader.bufferOffset
        headerSize := subSz o entryReader.bufferOffset
        elementCountOffset := countOffset
        elementStartOffset := o
        entrySizeOffset := entryReader.bufferOffset }))
    entryReader.bufferOffset

/-- `robotraconteurlite_messageentry_reader_read_header_ex`. -/
def messageEntryReaderReadHeaderEx (entryReader : MessageEntryReader)
    (header : MessageEntryHeader) : Result (MessageEntryHeader × MessageEntryBufferInfo) :=
  if entryReader.messageVersion = 2 then messageEntryReaderReadHeader2Ex entryReader header
  else if entryReader.messageVersion = 4 then
    messageEntryReaderReadHeader4Ex entryReader header
  else .error .protocol

/-- `robotraconteurlite_messageentry_reader_read_header`. -/
def messageEntryReaderReadHeader (entryReader : MessageEntryReader)
    (header : MessageEntryHeader) : Result MessageEntryHeader :=
  Prod.fst <$> messageEntryReaderReadHeaderEx entryReader header

/-! ## Elements -/

/-- `robotraconteurlite_messageentry_reader_begin_read_elements`. -/
def messageEntryReaderBeginReadElements (entryReader : MessageEntryReader) :
    Result MessageElementReader := do
  let (entryHeader, entryBufferInfo) ←
    messageEntryReaderReadHeaderEx entryReader (MessageEntryHeaderOf.zero (.null 0))
  failIf (entryHeader.elementCount = 0) .noMore
  let o := entryBufferInfo.elementStartOffset
  let (elementSize, _) ← messageReadCount entryReader.buffer entryReader.messageVersion o
  failIf (addSz (subSz o entryReader.bufferOffset) elementSize.toNat >
    entryReader.bufferCount) .protocol
  pure {
    buffer := entryReader.buffer
    bufferOffset := o
    bufferCount := elementSize.toNat
    bufferRemaining := subSz (subSz entryReader.bufferCount entryBufferInfo.headerSize)
      elementSize.toNat
    currentElement := 0
    totalElements := entryHeader.elementCount.toNat
    messageVersion := entryReader.messageVersion }

/-- `robotraconteurlite_messageelement_reader_move_next`. -/
def messageElementReaderMoveNext (elementReader : MessageElementReader) :
    Result MessageElementReader := do
  let o := addSz elementReader.bufferOffset elementReader.bufferCount
  failIf (¬ addSz elementReader.currentElement 1 < elementReader.totalElements) .noMore
  let (elementSize, _) ←
    messageReadCount elementReader.buffer elementReader.messageVersion o
  failIf (elementReader.bufferRemaining < elementSize.toNat) .protocol
  pure { elementReader with
    bufferOffset := o
    bufferCount := elementSize.toNat
    bufferRemaining := subSz elementReader.bufferRemaining elementSize.toNat
    currentElement := addSz elementReader.currentElement 1 }

/-- `robotraconteurlite_messageelement_reader_read_header2_ex`. -/
def messageElementReaderReadHeader2Ex (elementReader : MessageElementReader)
    (header : MessageElementHeader) :
    Result (MessageElementHeader × MessageElementBufferInfo) :=
  StateT.run' (do
    let elementSize ← messageReadUint32 elementReader.buffer
    let elementNameInfo ← messageReadHeaderStringWithLenPrefix2_1 elementReader.buffer
    let elementType ← messageReadUint16 elementReader.buffer
    let elementTypeNameInfo ← messageReadHeaderStringWithLenPrefix2_1 elementReader.buffer
    let metaInfo ← messageReadHeaderStringWithLenPrefix2_1 elementReader.buffer
    let countOffset ← get
    let dataCount ← messageReadUint32 elementReader.buffer
    let elementName ← messageReadHeaderStringWithLenPrefix_2 elementReader.buffer
      elementNameInfo header.elementName
    let elementTypeName ← messageReadHeaderStringWithLenPrefix_2 elementReader.buffer
      elementTypeNameInfo header.elementTypeName
    let metadata ← messageReadHeaderStringWithLenPrefix_2 elementReader.buffer
      metaInfo header.metadata
    let o ← get
    pure ({ header with
        elementSize, elementType, dataCount, elementName, elementTypeName, metadata },
      { startBufferOffset := elementReader.bufferOffset
        headerSize := subSz o elementReader.bufferOffset
        dataStartOffset := o
        elementNameStrOffset := elementNameInfo.offset
        elementCountOffset := countOffset
        elementSizeOffset := elementReader.bufferOffset }))
    elementReader.bufferOffset

/-- `robotraconteurlite_messageelement_reader_read_header4_ex`. -/
def messageElementReaderReadHeader4Ex (elementReader : MessageElementReader)
    (header : MessageElementHeader) :
    Result (MessageElementHeader × MessageElementBufferInfo) :=
  StateT.run' (do
    let elementSize ← messageReadUintX elementReader.buffer
    let flags8 ← messageReadUint8 elementReader.buffer
    let flags := flags8.toBitVec
    let nameStr := flagsCheck flags MESSAGEELEMENT_FLAGS_ELEMENT_NAME_STR
    let typeNameStr := flagsCheck flags MESSAGEELEMENT_FLAGS_ELEMENT_TYPE_NAME_STR
    let metaFlag := flagsCheck flags MESSAGEELEMENT_FLAGS_META_INFO
    let elementNameInfo ← readIf nameStr
      (messageReadHeaderStringWithLenPrefix4_1 elementReader.buffer) ⟨0, 0⟩
    let elementNameCode ← readIf (flagsCheck flags MESSAGEELEMENT_FLAGS_ELEMENT_NAME_CODE)
      (messageReadUintX elementReader.buffer) 0
    let elementNumber ← readIf (flagsCheck flags MESSAGEELEMENT_FLAGS_ELEMENT_NUMBER)
      (messageReadIntX elementReader.buffer) 0
    let elementType ← messageReadUint16 elementReader.buffer
    let elementTypeNameInfo ← readIf typeNameStr
      (messageReadHeaderStringWithLenPrefix4_1 elementReader.buffer) ⟨0, 0⟩
    let elementTypeNameCode ←
      readIf (flagsCheck flags MESSAGEELEMENT_FLAGS_ELEMENT_TYPE_NAME_CODE)
        (messageReadUintX elementReader.buffer) 0
    let metaInfo ← readIf metaFlag
      (messageReadHeaderStringWithLenPrefix4_1 elementReader.buffer) ⟨0, 0⟩
    readIf (flagsCheck flags MESSAGEELEMENT_FLAGS_EXTENDED)
      (messageSkipBlock elementReader.buffer) ()
    let countOffset ← get
    let dataCount ← messageReadUintX elementReader.buffer
    let elementName ← readIf nameStr (messageReadHeaderStringWithLenPrefix_2
      elementReader.buffer elementNameInfo header.elementName) (.null 0)
    let elementTypeName ← readIf typeNameStr (messageReadHeaderStringWithLenPrefix_2
      elementReader.buffer elementTypeNameInfo header.elementTypeName) (.null 0)
    let metadata ← readIf metaFlag (messageReadHeaderStringWithLenPrefix_2
      elementReader.buffer metaInfo header.metadata) (.null 0)
    let o ← get
    pure ({ header with
        elementSize, elementName, elementNameCode, elementNumber, elementType,
        elementTypeName, elementTypeNameCode, metadata, dataCount },
      { startBufferOffset := elementReader.bufferOffset
        headerSize := subSz o elementReader.bufferOffset
        dataStartOffset := o
        elementNameStrOffset := if nameStr then elementNameInfo.offset else sizeTMax
        elementCountOffset := countOffset
        elementSizeOffset := elementReader.bufferOffset }))
    elementReader.bufferOffset

/-- `robotraconteurlite_messageelement_reader_read_header_ex`. -/
def messageElementReaderReadHeaderEx (elementReader : MessageElementReader)
    (header : MessageElementHeader) :
    Result (MessageElementHeader × MessageElementBufferInfo) :=
  if elementReader.messageVersion = 2 then
    messageElementReaderReadHeader2Ex elementReader header
  else if elementReader.messageVersion = 4 then
    messageElementReaderReadHeader4Ex elementReader header
  else .error .protocol

/-- `robotraconteurlite_messageelement_reader_read_header`. -/
def messageElementReaderReadHeader (elementReader : MessageElementReader)
    (header : MessageElementHeader) : Result MessageElementHeader :=
  Prod.fst <$> messageElementReaderReadHeaderEx elementReader header

/-- `robotraconteurlite_messageelement_reader_get_data_info`: the offset, size
and count of an element's data. -/
def messageElementReaderGetDataInfo (elementReader : MessageElementReader)
    (dataType : UInt16) (dataElementSize : Nat) : Result (Nat × Nat × UInt32) := do
  let (elementHeader, elementBufferInfo) ←
    messageElementReaderReadHeaderEx elementReader (MessageElementHeaderOf.zero (.null 0))
  failIf (elementHeader.elementType ≠ dataType) .messageElementTypeMismatch
  let dataSize := subSz elementHeader.elementSize.toNat elementBufferInfo.headerSize
  failIf (dataElementSize ≠ 0 ∧
    mulSz dataElementSize elementHeader.dataCount.toNat ≠ dataSize) .protocol
  pure (elementBufferInfo.dataStartOffset, dataSize, elementHeader.dataCount)

/-- `robotraconteurlite_messageelement_reader_read_data_ex`: the destination
after the read and the count stored in `*dest_len`. -/
def messageElementReaderReadDataEx (elementReader : MessageElementReader)
    (destBuf : List UInt8) (destLen : Nat) (destElemType : UInt16) (destElemSize : Nat) :
    Result (List UInt8 × Nat) := do
  let (dataOffset, _, dataCount) ←
    messageElementReaderGetDataInfo elementReader destElemType destElemSize
  let dest ← bufferVecCopyToMem elementReader.buffer dataOffset destBuf destLen 0
    destElemSize dataCount.toNat
  pure (dest, dataCount.toNat)

/-- `robotraconteurlite_messageelement_reader_read_data_scalar_ex`. -/
def messageElementReaderReadDataScalarEx (elementReader : MessageElementReader)
    (destScalar : List UInt8) (destElemType : UInt16) (destElemSize : Nat) :
    Result (List UInt8) := do
  let (dataOffset, _, dataCount) ←
    messageElementReaderGetDataInfo elementReader destElemType destElemSize
  failIf (dataCount ≠ 1) .protocol
  let destVec ← bufferVecCopyVecEx elementReader.buffer.toBuffers dataOffset 1 destElemSize
    [⟨destScalar, 1⟩] 0 destElemSize 1
  pure (bufferData destVec).flatten

/-- The types `begin_read_nested_elements` opens. -/
def nestedElementTypes : List UInt16 :=
  [DATATYPE_STRUCTURE, DATATYPE_MAP_INT32, DATATYPE_MAP_STRING, DATATYPE_LIST,
    DATATYPE_MULTIDIMARRAY, DATATYPE_POD, DATATYPE_POD_ARRAY, DATATYPE_POD_MULTIDIMARRAY,
    DATATYPE_NAMEDARRAY_ARRAY, DATATYPE_NAMEDARRAY_MULTIDIMARRAY]

/-- `robotraconteurlite_messageelement_reader_begin_read_nested_elements`. -/
def messageElementReaderBeginReadNestedElements (elementReader : MessageElementReader) :
    Result MessageElementReader := do
  let (header, bufferInfo) ←
    messageElementReaderReadHeaderEx elementReader (MessageElementHeaderOf.zero (.null 0))
  failIf (header.elementType ∉ nestedElementTypes) .messageElementTypeMismatch
  failIf (header.dataCount = 0) .noMore
  let (nestedElementSize, _) ← messageReadCount elementReader.buffer
    elementReader.messageVersion bufferInfo.dataStartOffset
  failIf (subSz elementReader.bufferCount bufferInfo.headerSize < nestedElementSize.toNat)
    .protocol
  pure {
    buffer := elementReader.buffer
    bufferOffset := bufferInfo.dataStartOffset
    bufferCount := nestedElementSize.toNat
    bufferRemaining := subSz (subSz elementReader.bufferCount bufferInfo.headerSize)
      nestedElementSize.toNat
    currentElement := 0
    totalElements := header.dataCount.toNat
    messageVersion := elementReader.messageVersion }

end

end RobotRaconteurLite

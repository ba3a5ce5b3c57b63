import RobotRaconteurLite.Message.Reader

/-!
# The message writer (`message.c`)

A message is written front to back. A size or a count that is not known yet is
written as zero, the writer remembers where, and the call that closes the
message, the entry or the nested element writes the value there.

Every writer record in C points at the same buffer vector. Here that vector is
the state of the computation, a `BufferM`, and the records carry the offsets
and counts only. A failing call returns its status and leaves in the buffer
what it had already written, and a `BufferM` does the same. The functions that
write a header also thread an offset, as the readers do.
-/

namespace RobotRaconteurLite

section

variable [SizeT]

/-- A computation on the buffer vector that can fail. -/
abbrev BufferM := ExceptT Status (StateM BufferVec)

/-- A write that starts at an offset and moves it. -/
abbrev Writing (α : Type) := StateT Nat BufferM α

/-- A call that writes into the buffer vector, or fails and leaves it alone. -/
def bufferUpdate (copy : BufferVec → Result BufferVec) : BufferM Unit :=
  ExceptT.mk fun v =>
    match copy v with
    | .ok v => (.ok (), v)
    | .error e => (.error e, v)

/-- `struct robotraconteurlite_message_writer`. -/
structure MessageWriter where
  bufferOffset : Nat
  bufferCount : Nat
  messageSizeOffset : Nat
  entryCountOffset : Nat
  messageVersion : UInt16
  deriving DecidableEq, Repr

/-- `struct robotraconteurlite_messageentry_writer`. -/
structure MessageEntryWriter where
  bufferOffset : Nat
  bufferCount : Nat
  entriesWrittenCount : Nat
  entriesWrittenSize : Nat
  entrySizeOffset : Nat
  elementCountOffset : Nat
  entryHeaderSize : Nat
  messageVersion : UInt16
  deriving DecidableEq, Repr

/-- `struct robotraconteurlite_messageelement_writer`. -/
structure MessageElementWriter where
  bufferOffset : Nat
  bufferCount : Nat
  elementsWrittenCount : Nat
  elementsWrittenSize : Nat
  elementSizeOffset : Nat
  dataCountOffset : Nat
  elementHeaderSize : Nat
  messageVersion : UInt16
  deriving DecidableEq, Repr

def UINT16_MAX : Nat := 0xFFFF
def UINT32_MAX : Nat := 0xFFFFFFFF

/-- `robotraconteurlite_message_writer_init`. -/
def messageWriterInit (writer : MessageWriter) (offset count : Nat)
    (messageVersion : UInt16) : BufferM MessageWriter := do
  let buffer ← get
  failIf (bufferVecLen buffer.toBuffers < addSz offset count) .outOfRange
  pure { writer with
    bufferOffset := offset, bufferCount := count, messageVersion := messageVersion }

/-! ## Fields -/

/-- A write of one value of `size` bytes. -/
def messageWriteVal {α : Type} (copy : BufferVec → Nat → α → Result BufferVec) (size : Nat)
    (val : α) : Writing Unit := fun offset => do
  bufferUpdate fun buffer => copy buffer offset val
  pure ((), addSz offset size)

/-- `robotraconteurlite_message_write_uint32`. -/
def messageWriteUint32 (val : UInt32) : Writing Unit :=
  messageWriteVal bufferVecCopyFromUint32 4 val

/-- `robotraconteurlite_message_write_uint16`. -/
def messageWriteUint16 (val : UInt16) : Writing Unit :=
  messageWriteVal bufferVecCopyFromUint16 2 val

/-- `robotraconteurlite_message_write_uint8`. -/
def messageWriteUint8 (val : UInt8) : Writing Unit :=
  messageWriteVal bufferVecCopyFromUint8 1 val

/-- `robotraconteurlite_message_write_int32`. -/
def messageWriteInt32 (val : Int32) : Writing Unit :=
  messageWriteVal bufferVecCopyFromInt32 4 val

/-- `robotraconteurlite_message_write_int16`. -/
def messageWriteInt16 (val : Int16) : Writing Unit :=
  messageWriteVal bufferVecCopyFromInt16 2 val

/-- `robotraconteurlite_message_write_int8`. -/
def messageWriteInt8 (val : Int8) : Writing Unit :=
  messageWriteVal bufferVecCopyFromInt8 1 val

/-- `robotraconteurlite_message_write_uint_x`. -/
def messageWriteUintX (val : UInt32) : Writing Unit :=
  if val ≤ 252 then messageWriteUint8 val.toUInt8
  else if val.toNat ≤ UINT16_MAX then do
    messageWriteUint8 253
    messageWriteUint16 val.toUInt16
  else do
    messageWriteUint8 254
    messageWriteUint32 val

/-- `robotraconteurlite_message_uint_x_size`, which cannot fail. -/
def messageUintXSize (val : UInt32) : Nat :=
  if val ≤ 252 then 1 else if val.toNat ≤ UINT16_MAX then 3 else 5

/-- `robotraconteurlite_message_len_plus_uint_x`: the length with its own
prefix counted, and the size of the prefix. -/
def messageLenPlusUintX (dataLen : UInt32) : Result (UInt32 × Nat) :=
  if dataLen ≤ 251 then .ok (dataLen + 1, 1)
  else if dataLen.toNat ≤ UINT16_MAX - 3 then .ok (dataLen + 3, 3)
  else if dataLen.toNat ≤ UINT32_MAX - 5 then .ok (dataLen + 5, 5)
  else .error .outOfRange

/-- `robotraconteurlite_message_write_padded_uint_x`: the offset of the value. -/
def messageWritePaddedUintX (count : UInt32) : Writing Nat := do
  messageWriteUint8 254
  let countOffset ← get
  messageWriteUint32 count
  pure countOffset

/-- `robotraconteurlite_message_padded_uint_x_size`, which cannot fail. -/
def messagePaddedUintXSize (_count : UInt32) : Nat := 5

/-- `robotraconteurlite_message_write_padded_uint_x_val`. -/
def messageWritePaddedUintXVal (countOffset : Nat) (count : UInt32) : BufferM Unit :=
  bufferUpdate fun buffer => bufferVecCopyFromUint32 buffer countOffset count

/-- `robotraconteurlite_message_write_int_x`. -/
def messageWriteIntX (val : Int32) : Writing Unit :=
  if -128 ≤ val.toInt ∧ val.toInt ≤ 124 then messageWriteInt8 val.toInt8
  else if -32768 ≤ val.toInt ∧ val.toInt ≤ 32767 then do
    messageWriteInt8 125
    messageWriteInt16 val.toInt16
  else do
    messageWriteInt8 126
    messageWriteInt32 val

/-- `robotraconteurlite_message_header_string_with_len_prefix_size4`. -/
def messageHeaderStringWithLenPrefixSize4 (str : ConstString) : Result Nat := do
  failIf (str.len > UINT32_MAX) .outOfRange
  pure (addSz (messageUintXSize (UInt32.ofNat str.len)) str.len)

/-- A string behind its length. -/
def messageWriteHeaderString (writeLen : Writing Unit) (str : ConstString) : Writing Unit := do
  failIf (str.len > UINT32_MAX) .outOfRange
  writeLen
  if str.len > 0 then
    messageWriteVal (fun buffer offset data =>
      bufferVecCopyFromString buffer offset data 0 data.length) str.len str.data
  else pure ()

/-- `robotraconteurlite_message_write_header_string_with_len_prefix2`. -/
def messageWriteHeaderStringWithLenPrefix2 (str : ConstString) : Writing Unit :=
  messageWriteHeaderString (messageWriteUint16 (UInt16.ofNat str.len)) str

/-- `robotraconteurlite_message_write_header_string_with_len_prefix4`. -/
def messageWriteHeaderStringWithLenPrefix4 (str : ConstString) : Writing Unit :=
  messageWriteHeaderString (messageWriteUintX (UInt32.ofNat str.len)) str

/-- A field that is written when a flag says so. -/
def writeIf (present : Bool) (write : Writing Unit) : Writing Unit :=
  if present then write else pure ()

/-- A flag that is set when its field is there. -/
def flagsSetIf {w : Nat} (present : Bool) (flags mask : BitVec w) : BitVec w :=
  if present then flagsSet flags mask else flags

/-- The magic four bytes. -/
def messageWriteMagic : Writing Unit :=
  messageWriteVal (fun buffer offset magic =>
    bufferVecCopyFromMem buffer offset magic 4 0 1 4) 4 [0x52, 0x52, 0x41, 0x43]

def messageWriteNodeid (id : NodeId) : Writing Unit :=
  messageWriteVal (fun buffer offset id =>
    bufferVecCopyFromUint8Array buffer offset id 0 16) 16 id.data

/-! ## Message header -/

/-- `robotraconteurlite_message_writer_write_header2_ex`. -/
def messageWriterWriteHeader2Ex (header : MessageConstHeader) :
    Writing (MessageConstHeader × MessageBufferInfo) := do
  let str1Len := header.senderNodename.len
  let str2Len := header.receiverNodename.len
  let str3Len := header.metadata.len
  let str4Len := addSz (addSz str1Len str2Len) str3Len
  failIf (str1Len > UINT16_MAX ∨ str2Len > UINT16_MAX ∨ str3Len > UINT16_MAX ∨
    addSz str4Len 64 > UINT16_MAX) .outOfRange
  let headerSize := UInt16.ofNat (addSz str4Len 64)
  let startOffset ← get
  messageWriteMagic
  messageWriteUint32 0
  messageWriteUint16 2
  messageWriteUint16 headerSize
  messageWriteNodeid header.senderNodeid
  messageWriteNodeid header.receiverNodeid
  messageWriteUint32 header.senderEndpoint
  messageWriteUint32 header.receiverEndpoint
  messageWriteHeaderStringWithLenPrefix2 header.senderNodename
  messageWriteHeaderStringWithLenPrefix2 header.receiverNodename
  messageWriteHeaderStringWithLenPrefix2 header.metadata
  let countOffset ← get
  failIf (header.entryCount.toNat > UINT16_MAX) .outOfRange
  messageWriteUint16 header.entryCount.toUInt16
  messageWriteUint16 header.messageId
  messageWriteUint16 header.messageResId
  let o ← get
  pure ({ header with headerSize := headerSize.toUInt32 },
    { startBufferOffset := startOffset
      headerSize := headerSize.toNat
      entryCountOffset := countOffset
      entryStartOffset := o })

/-- The flags of a version 4 header: each field the mask allows and that has
something to say. -/
def messageHeader4Flags (header : MessageConstHeader) (messageFlagsMask : BitVec 8) :
    BitVec 8 :=
  let routing := flagsCheck messageFlagsMask MESSAGE_FLAGS_ROUTING_INFO &&
    (!nodeidIsany header.senderNodeid || !nodeidIsany header.receiverNodeid ||
      header.senderNodename.len != 0 || header.receiverNodename.len != 0)
  let endpoint := flagsCheck messageFlagsMask MESSAGE_FLAGS_ENDPOINT_INFO &&
    (header.senderEndpoint != 0 || header.receiverEndpoint != 0)
  let priority := flagsCheck messageFlagsMask MESSAGE_FLAGS_PRIORITY && header.priority != 0
  let metaFlag := flagsCheck messageFlagsMask MESSAGE_FLAGS_META_INFO &&
    (header.metadata.len != 0 || header.messageId != 0 || header.messageResId != 0)
  let multiple := flagsCheck messageFlagsMask MESSAGE_FLAGS_MULTIPLE_ENTRIES &&
    header.entryCount != 1
  let flags := flagsSetIf routing 0 MESSAGE_FLAGS_ROUTING_INFO
  let flags := flagsSetIf endpoint flags MESSAGE_FLAGS_ENDPOINT_INFO
  let flags := flagsSetIf priority flags MESSAGE_FLAGS_PRIORITY
  let flags := flagsSetIf metaFlag flags MESSAGE_FLAGS_META_INFO
  let flags := flagsSetIf multiple flags MESSAGE_FLAGS_MULTIPLE_ENTRIES
  flags ||| ((messageFlagsMask &&& MESSAGE_FLAGS_UNRELIABLE) &&& flags)

/-- The size of a version 4 header without the length prefix that counts it. -/
def messageHeader4Size (header : MessageConstHeader) (flags : BitVec 8) : Result Nat := do
  let headerSize := 11
  let headerSize ←
    if flagsCheck flags MESSAGE_FLAGS_ROUTING_INFO then do
      let s1 ← messageHeaderStringWithLenPrefixSize4 header.senderNodename
      let s2 ← messageHeaderStringWithLenPrefixSize4 header.receiverNodename
      pure (addSz (addSz (addSz headerSize 32) s1) s2)
    else pure headerSize
  let headerSize :=
    if flagsCheck flags MESSAGE_FLAGS_ENDPOINT_INFO then
      addSz (addSz headerSize (messageUintXSize header.senderEndpoint))
        (messageUintXSize header.receiverEndpoint)
    else headerSize
  let headerSize :=
    if flagsCheck flags MESSAGE_FLAGS_PRIORITY then addSz headerSize 2 else headerSize
  let headerSize ←
    if flagsCheck flags MESSAGE_FLAGS_META_INFO then do
      let s ← messageHeaderStringWithLenPrefixSize4 header.metadata
      pure (addSz (addSz headerSize s) 4)
    else pure headerSize
  if flagsCheck flags MESSAGE_FLAGS_MULTIPLE_ENTRIES then
    pure (addSz headerSize (messagePaddedUintXSize header.entryCount))
  else pure headerSize

/-- A call that reads and writes nothing. -/
def liftResult {α : Type} (r : Result α) : Writing α := fun offset =>
  match r with
  | .ok a => pure (a, offset)
  | .error e => throw e

/-- `robotraconteurlite_message_writer_write_header4_ex`. -/
def messageWriterWriteHeader4Ex (header : MessageConstHeader) (messageFlagsMask : BitVec 8) :
    Writing (MessageConstHeader × MessageBufferInfo) := do
  let flags := messageHeader4Flags header messageFlagsMask
  let size ← liftResult (messageHeader4Size header flags)
  failIf (size > UINT32_MAX) .outOfRange
  let (_, s) ← liftResult (messageLenPlusUintX (UInt32.ofNat size))
  let headerSize := addSz size s
  failIf (headerSize > UINT32_MAX) .outOfRange
  let startOffset ← get
  messageWriteMagic
  messageWriteUint32 0
  messageWriteUint16 4
  messageWriteUintX (UInt32.ofNat headerSize)
  messageWriteUint8 (UInt8.ofBitVec flags)
  let routing := flagsCheck flags MESSAGE_FLAGS_ROUTING_INFO
  let endpoint := flagsCheck flags MESSAGE_FLAGS_ENDPOINT_INFO
  let metaFlag := flagsCheck flags MESSAGE_FLAGS_META_INFO
  writeIf routing (messageWriteNodeid header.senderNodeid)
  writeIf routing (messageWriteNodeid header.receiverNodeid)
  writeIf routing (messageWriteHeaderStringWithLenPrefix4 header.senderNodename)
  writeIf routing (messageWriteHeaderStringWithLenPrefix4 header.receiverNodename)
  writeIf endpoint (messageWriteUintX header.senderEndpoint)
  writeIf endpoint (messageWriteUintX header.receiverEndpoint)
  writeIf (flagsCheck flags MESSAGE_FLAGS_PRIORITY) (messageWriteUint16 header.priority)
  writeIf metaFlag (messageWriteHeaderStringWithLenPrefix4 header.metadata)
  writeIf metaFlag (messageWriteUint16 header.messageId)
  writeIf metaFlag (messageWriteUint16 header.messageResId)
  let countOffset ←
    if flagsCheck flags MESSAGE_FLAGS_MULTIPLE_ENTRIES then
      messageWritePaddedUintX header.entryCount
    else pure sizeTMax
  let o ← get
  failIf (subSz o startOffset ≠ headerSize) .internalError
  pure ({ header with headerSize := UInt32.ofNat headerSize },
    { startBufferOffset := startOffset
      headerSize := headerSize
      entryCountOffset := countOffset
      entryStartOffset := o })

/-- `robotraconteurlite_message_writer_begin_message_ex`. -/
def messageWriterBeginMessageEx (writer : MessageWriter) (header : MessageConstHeader)
    (entryWriter : MessageEntryWriter) (messageFlagsMask : BitVec 8) :
    BufferM (MessageWriter × MessageConstHeader × MessageEntryWriter) := do
  let (header, messageBufferInfo) ←
    StateT.run' (if writer.messageVersion = 2 then messageWriterWriteHeader2Ex header
      else if writer.messageVersion = 4 then
        messageWriterWriteHeader4Ex header messageFlagsMask
      else throw .protocol) writer.bufferOffset
  let entryWriter := { entryWriter with
    bufferOffset := addSz writer.bufferOffset messageBufferInfo.headerSize
    bufferCount := subSz writer.bufferCount messageBufferInfo.headerSize
    entriesWrittenCount := 0
    entriesWrittenSize := 0
    messageVersion := writer.messageVersion }
  let writer := { writer with
    messageSizeOffset := addSz messageBufferInfo.startBufferOffset 4
    entryCountOffset := messageBufferInfo.entryCountOffset }
  pure (writer, header, entryWriter)

/-- `robotraconteurlite_message_writer_begin_message`. -/
def messageWriterBeginMessage (writer : MessageWriter) (header : MessageConstHeader)
    (entryWriter : MessageEntryWriter) :
    BufferM (MessageWriter × MessageConstHeader × MessageEntryWriter) :=
  messageWriterBeginMessageEx writer header entryWriter 0xFF

/-- `robotraconteurlite_message_writer_end_message`. -/
def messageWriterEndMessage (writer : MessageWriter) (header : MessageConstHeader)
    (entryWriter : MessageEntryWriter) : BufferM MessageConstHeader := do
  let messageSize := addSz entryWriter.entriesWrittenSize header.headerSize.toNat
  failIf (messageSize > UINT32_MAX) .outOfRange
  bufferUpdate fun buffer => bufferVecCopyFromUint32 buffer writer.messageSizeOffset
    (UInt32.ofNat messageSize)
  if writer.entryCountOffset ≠ sizeTMax then
    if writer.messageVersion = 2 then
      StateT.run' (messageWriteUint16 (UInt16.ofNat entryWriter.entriesWrittenCount))
        writer.entryCountOffset
    else if writer.messageVersion = 4 then
      messageWritePaddedUintXVal writer.entryCountOffset
        (UInt32.ofNat entryWriter.entriesWrittenCount)
    else throw .protocol
  else failIf (entryWriter.entriesWrittenCount ≠ 1) .protocol
  pure { header with
    messageSize := UInt32.ofNat messageSize
    entryCount := UInt32.ofNat entryWriter.entriesWrittenCount }

/-! ## Entries -/

/-- `robotraconteurlite_messageentry_writer_write_header2_ex`. -/
def messageEntryWriterWriteHeader2Ex (entryWriter : MessageEntryWriter)
    (header : MessageEntryConstHeader) : Writing MessageEntryBufferInfo := do
  let sizeOffset ← get
  messageWriteUint32 0
  messageWriteUint16 header.entryType
  -- pad
  messageWriteUint16 0
  messageWriteHeaderStringWithLenPrefix2 header.servicePath
  messageWriteHeaderStringWithLenPrefix2 header.memberName
  messageWriteUint32 header.requestId
  messageWriteUint16 header.error
  messageWriteHeaderStringWithLenPrefix2 header.metadata
  let countOffset ← get
  messageWriteUint16 0
  let o ← get
  pure {
    startBufferOffset := sizeOffset
    headerSize := subSz o entryWriter.bufferOffset
    elementCountOffset := countOffset
    elementStartOffset := o
    entrySizeOffset := sizeOffset }

/-- The flags of a version 4 entry header. The writer has no case for a member
name code. -/
def messageEntryHeader4Flags (header : MessageEntryConstHeader) : BitVec 8 :=
  let flags := flagsSetIf (header.servicePath.len > 0) 0
    MESSAGEENTRY_FLAGS_SERVICE_PATH_STR
  let flags := flagsSetIf (header.servicePathCode != 0) flags
    MESSAGEENTRY_FLAGS_SERVICE_PATH_CODE
  let flags := flagsSetIf (header.memberName.len > 0) flags
    MESSAGEENTRY_FLAGS_MEMBER_NAME_STR
  let flags := flagsSetIf (header.requestId != 0) flags MESSAGEENTRY_FLAGS_REQUEST_ID
  let flags := flagsSetIf (header.error != 0) flags MESSAGEENTRY_FLAGS_ERROR
  flagsSetIf (header.metadata.len > 0) flags MESSAGEENTRY_FLAGS_META_INFO

/-- `robotraconteurlite_messageentry_writer_write_header4_ex`. -/
def messageEntryWriterWriteHeader4Ex (entryWriter : MessageEntryWriter)
    (header : MessageEntryConstHeader) : Writing MessageEntryBufferInfo := do
  let flags := messageEntryHeader4Flags header
  let startOffset ← get
  let sizeOffset ← messageWritePaddedUintX 0
  messageWriteUint8 (UInt8.ofBitVec flags)
  messageWriteUint16 header.entryType
  writeIf (flagsCheck flags MESSAGEENTRY_FLAGS_SERVICE_PATH_STR)
    (messageWriteHeaderStringWithLenPrefix4 header.servicePath)
  writeIf (flagsCheck flags MESSAGEENTRY_FLAGS_SERVICE_PATH_CODE)
    (messageWriteUintX header.servicePathCode)
  writeIf (flagsCheck flags MESSAGEENTRY_FLAGS_MEMBER_NAME_STR)
    (messageWriteHeaderStringWithLenPrefix4 header.memberName)
  writeIf (flagsCheck flags MESSAGEENTRY_FLAGS_MEMBER_NAME_CODE)
    (messageWriteUintX header.memberNameCode)
  writeIf (flagsCheck flags MESSAGEENTRY_FLAGS_REQUEST_ID)
    (messageWriteUintX header.requestId)
  writeIf (flagsCheck flags MESSAGEENTRY_FLAGS_ERROR) (messageWriteUint16 header.error)
  writeIf (flagsCheck flags MESSAGEENTRY_FLAGS_META_INFO)
    (messageWriteHeaderStringWithLenPrefix4 header.metadata)
  let countOffset ← messageWritePaddedUintX 0
  let o ← get
  pure {
    startBufferOffset := startOffset
    headerSize := subSz o entryWriter.bufferOffset
    elementCountOffset := countOffset
    elementStartOffset := o
    entrySizeOffset := sizeOffset }

/-- `robotraconteurlite_messageentry_writer_begin_entry`. -/
def messageEntryWriterBeginEntry (entryWriter : MessageEntryWriter)
    (header : MessageEntryConstHeader) (elementWriter : MessageElementWriter) :
    BufferM (MessageEntryWriter × MessageElementWriter) := do
  failIf (¬ entryWriter.entriesWrittenCount < UINT16_MAX) .protocol
  let bufferInfo ←
    StateT.run' (if entryWriter.messageVersion = 2 then
        messageEntryWriterWriteHeader2Ex entryWriter header
      else if entryWriter.messageVersion = 4 then
        messageEntryWriterWriteHeader4Ex entryWriter header
      else throw .protocol) entryWriter.bufferOffset
  let elementWriter := { elementWriter with
    bufferOffset := addSz entryWriter.bufferOffset bufferInfo.headerSize
    bufferCount := subSz entryWriter.bufferCount bufferInfo.headerSize
    elementsWrittenCount := 0
    elementsWrittenSize := 0
    messageVersion := entryWriter.messageVersion }
  let entryWriter := { entryWriter with
    entrySizeOffset := bufferInfo.entrySizeOffset
    elementCountOffset := bufferInfo.elementCountOffset
    entryHeaderSize := bufferInfo.headerSize }
  pure (entryWriter, elementWriter)

/-- `robotraconteurlite_messageentry_writer_end_entry`. -/
def messageEntryWriterEndEntry (entryWriter : MessageEntryWriter)
    (elementWriter : MessageElementWriter) : BufferM MessageEntryWriter := do
  let entrySize := UInt32.ofNat
    (addSz entryWriter.entryHeaderSize elementWriter.elementsWrittenSize)
  if entryWriter.messageVersion = 2 then do
    StateT.run' (messageWriteUint32 entrySize) entryWriter.entrySizeOffset
    StateT.run' (messageWriteUint16 (UInt16.ofNat elementWriter.elementsWrittenCount))
      entryWriter.elementCountOffset
  else if entryWriter.messageVersion = 4 then do
    messageWritePaddedUintXVal entryWriter.entrySizeOffset entrySize
    messageWritePaddedUintXVal entryWriter.elementCountOffset
      (UInt32.ofNat elementWriter.elementsWrittenCount)
  else throw .protocol
  pure { entryWriter with
    entriesWrittenCount := addSz entryWriter.entriesWrittenCount 1
    entriesWrittenSize := addSz entryWriter.entriesWrittenSize entrySize.toNat
    bufferOffset := addSz entryWriter.bufferOffset entrySize.toNat
    bufferCount := subSz entryWriter.bufferCount entrySize.toNat }

/-! ## Elements -/

/-- The flags of a version 4 element header. -/
def messageElementHeader4Flags (header : MessageElementConstHeader) : BitVec 8 :=
  let flags := flagsSetIf (header.elementName.len > 0) 0
    MESSAGEELEMENT_FLAGS_ELEMENT_NAME_STR
  let flags := flagsSetIf (header.elementNameCode != 0) flags
    MESSAGEELEMENT_FLAGS_ELEMENT_NAME_CODE
  let flags := flagsSetIf (header.elementNumber != 0) flags
    MESSAGEELEMENT_FLAGS_ELEMENT_NUMBER
  let flags := flagsSetIf (header.elementTypeName.len > 0) flags
    MESSAGEELEMENT_FLAGS_ELEMENT_TYPE_NAME_STR
  let flags := flagsSetIf (header.elementTypeNameCode != 0) flags
    MESSAGEELEMENT_FLAGS_ELEMENT_TYPE_NAME_CODE
  flagsSetIf (header.metadata.len > 0) flags MESSAGEELEMENT_FLAGS_META_INFO

/-- `robotraconteurlite_messageelement_writer_write_header4_ex`. -/
def messageElementWriterWriteHeader4Ex (elementWriter : MessageElementWriter)
    (header : MessageElementConstHeader) : Writing MessageElementBufferInfo := do
  let flags := messageElementHeader4Flags header
  let startOffset ← get
  let sizeOffset ← messageWritePaddedUintX 0
  messageWriteUint8 (UInt8.ofBitVec flags)
  let nameStr := flagsCheck flags MESSAGEELEMENT_FLAGS_ELEMENT_NAME_STR
  let nameOffset ← get
  writeIf nameStr (messageWriteHeaderStringWithLenPrefix4 header.elementName)
  writeIf (flagsCheck flags MESSAGEELEMENT_FLAGS_ELEMENT_NAME_CODE)
    (messageWriteUintX header.elementNameCode)
  writeIf (flagsCheck flags MESSAGEELEMENT_FLAGS_ELEMENT_NUMBER)
    (messageWriteIntX header.elementNumber)
  messageWriteUint16 header.elementType
  writeIf (flagsCheck flags MESSAGEELEMENT_FLAGS_ELEMENT_TYPE_NAME_STR)
    (messageWriteHeaderStringWithLenPrefix4 header.elementTypeName)
  writeIf (flagsCheck flags MESSAGEELEMENT_FLAGS_ELEMENT_TYPE_NAME_CODE)
    (messageWriteUintX header.elementTypeNameCode)
  writeIf (flagsCheck flags MESSAGEELEMENT_FLAGS_META_INFO)
    (messageWriteHeaderStringWithLenPrefix4 header.metadata)
  let countOffset ← messageWritePaddedUintX 0
  let o ← get
  pure {
    startBufferOffset := startOffset
    headerSize := subSz o elementWriter.bufferOffset
    dataStartOffset := o
    elementNameStrOffset := if nameStr then nameOffset else sizeTMax
    elementCountOffset := countOffset
    elementSizeOffset := sizeOffset }

/-- `robotraconteurlite_messageelement_writer_write_header2_ex`. -/
def messageElementWriterWriteHeader2Ex (elementWriter : MessageElementWriter)
    (header : MessageElementConstHeader) : Writing MessageElementBufferInfo := do
  let startOffset ← get
  messageWriteUint32 0
  let nameOffset ← get
  messageWriteHeaderStringWithLenPrefix2 header.elementName
  messageWriteUint16 header.elementType
  messageWriteHeaderStringWithLenPrefix2 header.elementTypeName
  messageWriteHeaderStringWithLenPrefix2 header.metadata
  let countOffset ← get
  messageWriteUint32 0
  let o ← get
  pure {
    startBufferOffset := startOffset
    headerSize := subSz o elementWriter.bufferOffset
    dataStartOffset := o
    elementNameStrOffset := nameOffset
    elementCountOffset := countOffset
    elementSizeOffset := startOffset }

/-- `robotraconteurlite_messageelement_writer_begin_nested_element`. -/
def messageElementWriterBeginNestedElement (elementWriter : MessageElementWriter)
    (header : MessageElementConstHeader) (nestedElementWriter : MessageElementWriter) :
    BufferM (MessageElementWriter × MessageElementWriter) := do
  failIf (¬ elementWriter.elementsWrittenCount < UINT32_MAX) .protocol
  let bufferInfo ←
    StateT.run' (if elementWriter.messageVersion = 2 then
        messageElementWriterWriteHeader2Ex elementWriter header
      else if elementWriter.messageVersion = 4 then
        messageElementWriterWriteHeader4Ex elementWriter header
      else throw .protocol) elementWriter.bufferOffset
  let nestedElementWriter := { nestedElementWriter with
    bufferOffset := bufferInfo.dataStartOffset
    bufferCount := subSz elementWriter.bufferCount bufferInfo.headerSize
    elementsWrittenCount := 0
    elementsWrittenSize := 0
    messageVersion := elementWriter.messageVersion }
  let elementWriter := { elementWriter with
    elementSizeOffset := bufferInfo.elementSizeOffset
    dataCountOffset := bufferInfo.elementCountOffset
    elementHeaderSize := bufferInfo.headerSize }
  pure (elementWriter, nestedElementWriter)

/-- The records of an element writer after an element of `elementSize` bytes. -/
def MessageElementWriter.advance (elementWriter : MessageElementWriter)
    (elementSize : Nat) : MessageElementWriter :=
  { elementWriter with
    elementsWrittenCount := addSz elementWriter.elementsWrittenCount 1
    elementsWrittenSize := addSz elementWriter.elementsWrittenSize elementSize
    bufferOffset := addSz elementWriter.bufferOffset elementSize
    bufferCount := subSz elementWriter.bufferCount elementSize }

/-- `robotraconteurlite_messageelement_writer_end_nested_element`. -/
def messageElementWriterEndNestedElement (elementWriter : MessageElementWriter)
    (nestedElementWriter : MessageElementWriter) : BufferM MessageElementWriter := do
  let elementSize :=
    addSz elementWriter.elementHeaderSize nestedElementWriter.elementsWrittenSize
  failIf (elementSize > UINT32_MAX) .outOfRange
  let dataCount := UInt32.ofNat nestedElementWriter.elementsWrittenCount
  if elementWriter.messageVersion = 2 then do
    StateT.run' (messageWriteUint32 (UInt32.ofNat elementSize))
      elementWriter.elementSizeOffset
    StateT.run' (messageWriteUint32 dataCount) elementWriter.dataCountOffset
  else if elementWriter.messageVersion = 4 then do
    messageWritePaddedUintXVal elementWriter.elementSizeOffset (UInt32.ofNat elementSize)
    messageWritePaddedUintXVal elementWriter.dataCountOffset dataCount
  else throw .protocol
  pure (elementWriter.advance elementSize)

/-- `robotraconteurlite_messageelement_writer_write_data_header2_ex`: the offset
of the data and the size of the element. -/
def messageElementWriterWriteDataHeader2Ex (elementName : ConstString) (dataLen : Nat)
    (dataType : UInt16) (dataElemSize : Nat) :
    Writing (MessageElementBufferInfo × Nat) := do
  failIf (elementName.len > UINT16_MAX) .outOfRange
  let dataSize := mulSz dataLen dataElemSize
  let elemSize := addSz (addSz 16 elementName.len) dataSize
  failIf (elemSize > UINT32_MAX) .outOfRange
  let startOffset ← get
  messageWriteUint32 (UInt32.ofNat elemSize)
  let nameOffset ← get
  messageWriteHeaderStringWithLenPrefix2 elementName
  messageWriteUint16 dataType
  -- No element type name
  messageWriteUint16 0
  -- No metadata
  messageWriteUint16 0
  failIf (dataLen > UINT32_MAX) .outOfRange
  let countOffset ← get
  messageWriteUint32 (UInt32.ofNat dataLen)
  let o ← get
  pure ({
    startBufferOffset := startOffset
    headerSize := subSz o startOffset
    dataStartOffset := o
    elementNameStrOffset := nameOffset
    elementCountOffset := countOffset
    elementSizeOffset := startOffset }, elemSize)

/-- The size of a version 4 element without the length prefix that counts it. -/
def messageElementData4Size (elementName : ConstString) (dataLen dataElemSize : Nat) :
    Result Nat := do
  let elemSize := 3
  let elemSize ←
    if elementName.len ≠ 0 then do
      let s ← messageHeaderStringWithLenPrefixSize4 elementName
      pure (addSz elemSize s)
    else pure elemSize
  failIf (dataLen > UINT32_MAX) .outOfRange
  let elemSize := addSz elemSize (messageUintXSize (UInt32.ofNat dataLen))
  pure (addSz elemSize (mulSz dataLen dataElemSize))

/-- `robotraconteurlite_messageelement_writer_write_data_header4_ex`. -/
def messageElementWriterWriteDataHeader4Ex (elementName : ConstString) (dataLen : Nat)
    (dataType : UInt16) (dataElemSize : Nat) :
    Writing (MessageElementBufferInfo × Nat) := do
  let flags := flagsSetIf (elementName.len != 0) 0 MESSAGEELEMENT_FLAGS_ELEMENT_NAME_STR
  let size ← liftResult (messageElementData4Size elementName dataLen dataElemSize)
  failIf (size > UINT32_MAX) .outOfRange
  let (_, s) ← liftResult (messageLenPlusUintX (UInt32.ofNat size))
  let elemSize := addSz size s
  failIf (elemSize > UINT32_MAX) .outOfRange
  let startOffset ← get
  messageWriteUintX (UInt32.ofNat elemSize)
  messageWriteUint8 (UInt8.ofBitVec flags)
  writeIf (flagsCheck flags MESSAGEELEMENT_FLAGS_ELEMENT_NAME_STR)
    (messageWriteHeaderStringWithLenPrefix4 elementName)
  messageWriteUint16 dataType
  messageWriteUintX (UInt32.ofNat dataLen)
  let o ← get
  pure ({
    startBufferOffset := startOffset
    headerSize := subSz o startOffset
    dataStartOffset := o
    elementNameStrOffset := sizeTMax
    elementCountOffset := sizeTMax
    elementSizeOffset := sizeTMax }, elemSize)

/-- `robotraconteurlite_messageelement_writer_write_raw`. -/
def messageElementWriterWriteRaw (elementWriter : MessageElementWriter)
    (elementName : ConstString) (dataBuf : List UInt8) (dataLen : Nat) (dataType : UInt16)
    (dataElemSize : Nat) : BufferM MessageElementWriter := do
  failIf (¬ elementWriter.elementsWrittenCount < UINT32_MAX) .protocol
  let (bufferInfo, elemSize) ←
    StateT.run' (if elementWriter.messageVersion = 2 then
        messageElementWriterWriteDataHeader2Ex elementName dataLen dataType dataElemSize
      else if elementWriter.messageVersion = 4 then
        messageElementWriterWriteDataHeader4Ex elementName dataLen dataType dataElemSize
      else throw .protocol) elementWriter.bufferOffset
  bufferUpdate fun buffer => bufferVecCopyFromMem buffer bufferInfo.dataStartOffset dataBuf
    dataLen 0 dataElemSize dataLen
  pure (elementWriter.advance elemSize)

end

end RobotRaconteurLite

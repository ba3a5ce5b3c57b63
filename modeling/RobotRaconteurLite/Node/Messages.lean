import RobotRaconteurLite.Message.Search
import RobotRaconteurLite.Node.Types

/-!
# Messages of the node (`node.c`)

A message of the node has one entry. It is begun in the send buffer of a
connection, its elements are written, and when it is ended the transport may
have it. The C keeps the writers of a message in one record, `SendMessageentryData`
here. What a failing write has already put into the buffer stays there.

A received message is read as far as it can be, and the event that reports it
carries what was read together with the status of the read.
-/

namespace RobotRaconteurLite

/-- `CreateConnection`. -/
def CREATE_CONNECTION : List UInt8 :=
  [0x43, 0x72, 0x65, 0x61, 0x74, 0x65, 0x43, 0x6f, 0x6e, 0x6e, 0x65, 0x63, 0x74, 0x69, 0x6f, 0x6e]

/-- `capabilities`. -/
def CAPABILITIES : List UInt8 :=
  [0x63, 0x61, 0x70, 0x61, 0x62, 0x69, 0x6c, 0x69, 0x74, 0x69, 0x65, 0x73]

/-- `errorname`. -/
def ERRORNAME : List UInt8 :=
  [0x65, 0x72, 0x72, 0x6f, 0x72, 0x6e, 0x61, 0x6d, 0x65]

/-- `errorstring`. -/
def ERRORSTRING : List UInt8 :=
  [0x65, 0x72, 0x72, 0x6f, 0x72, 0x73, 0x74, 0x72, 0x69, 0x6e, 0x67]

def CONNECTION_PARSE_CAPABILITY_MESSAGE2 : BitVec 32 := 0x1
def CONNECTION_PARSE_CAPABILITY_MESSAGE4 : BitVec 32 := 0x2

def TRANSPORT_CAPABILITY_CODE_PAGE_MASK : UInt32 := 0xFFF00000
def TRANSPORT_CAPABILITY_CODE_MESSAGE2_BASIC_PAGE : UInt32 := 0x02000000
def TRANSPORT_CAPABILITY_CODE_MESSAGE2_BASIC_ENABLE : UInt32 := 0x00000001
def TRANSPORT_CAPABILITY_CODE_MESSAGE4_BASIC_PAGE : UInt32 := 0x04000000
def TRANSPORT_CAPABILITY_CODE_MESSAGE4_BASIC_ENABLE : UInt32 := 0x00000001

section

variable [SizeT]

/-! ## Sending -/

/-- A call of the writers on the send buffer of a connection. -/
def Connection.writing {α : Type} (c : Connection) (write : BufferM α) : Result α × Connection :=
  if h : 2 * [c.sendBuffer.take c.sendBufferLen].flatten.length < SizeT.modulus then
    ((write ⟨[c.sendBuffer.take c.sendBufferLen], h⟩).1,
      { c with
        sendBuffer := (write ⟨[c.sendBuffer.take c.sendBufferLen], h⟩).2.bytes ++
          c.sendBuffer.drop c.sendBufferLen })
  else (.error .undefined, c)

/-- `struct robotraconteurlite_node_send_messageentry_data`, from when the message is
begun. -/
structure SendMessageentryData where
  messageEntryHeader : MessageEntryConstHeader
  messageHeader : MessageConstHeader
  messageWriter : MessageWriter
  entryWriter : MessageEntryWriter
  elementWriter : MessageElementWriter

/-- The header of a message of the node on a connection. -/
def nodeMessageHeader (node : Node) (c : Connection) : MessageConstHeader :=
  { MessageHeaderOf.zero (.constant []) with
    messageVersion := 2
    senderNodeid := node.nodeid
    receiverNodeid := c.remoteNodeid
    senderEndpoint := c.localEndpoint
    receiverEndpoint := c.remoteEndpoint
    senderNodename := node.nodename
    receiverNodename := .constant c.remoteNodename }

/-- `robotraconteurlite_node_begin_send_messageentry`. -/
def nodeBeginSendMessageentry (node : Node) (i : Nat)
    (messageEntryHeader : MessageEntryConstHeader) : Result SendMessageentryData × Node :=
  match connectionBeginSendMessage (node.connection i) ⟨0, 0, 0, 0, 0⟩ with
  | .error e => (.error e, node)
  | .ok messageWriter =>
      node.onConnection i fun c => c.writing do
        let (messageWriter, messageHeader, entryWriter) ← messageWriterBeginMessageEx messageWriter
          (nodeMessageHeader node c) ⟨0, 0, 0, 0, 0, 0, 0, 0⟩ (~~~c.messageFlagsInvMask)
        let (entryWriter, elementWriter) ← messageEntryWriterBeginEntry entryWriter
          messageEntryHeader ⟨0, 0, 0, 0, 0, 0, 0, 0⟩
        pure { messageEntryHeader, messageHeader, messageWriter, entryWriter, elementWriter }

/-- The calls that write the elements of a message that was begun. -/
def nodeWriteElements (node : Node) (i : Nat) (sendData : SendMessageentryData)
    (elements : List ElementTree) : Result SendMessageentryData × Node :=
  node.onConnection i fun c => c.writing do
    let elementWriter ← writeElements ⟨0, 0, 0, 0, 0, 0, 0, 0⟩ sendData.elementWriter elements
    pure { sendData with elementWriter }

/-- `robotraconteurlite_node_end_send_messageentry`. -/
def nodeEndSendMessageentry (node : Node) (i : Nat) (sendData : SendMessageentryData) :
    Result Unit × Node :=
  match node.onConnection i fun c => c.writing do
    let entryWriter ← messageEntryWriterEndEntry sendData.entryWriter sendData.elementWriter
    messageWriterEndMessage sendData.messageWriter sendData.messageHeader entryWriter with
  | (.error e, node) => (.error e, node)
  | (.ok messageHeader, node) =>
      (.ok (), (node.modifyConnection i fun c =>
        connectionEndSendMessage c messageHeader.messageSize.toNat).addEffect
          (.queued i sendData.messageEntryHeader))

/-- A message from its beginning to its end. -/
def nodeSendMessageentry (node : Node) (i : Nat) (messageEntryHeader : MessageEntryConstHeader)
    (elements : List ElementTree) : Result Unit × Node :=
  match nodeBeginSendMessageentry node i messageEntryHeader with
  | (.error e, node) => (.error e, node)
  | (.ok sendData, node) =>
      match nodeWriteElements node i sendData elements with
      | (.error e, node) => (.error e, node)
      | (.ok sendData, node) => nodeEndSendMessageentry node i sendData

/-- The header of the response to a request. -/
def responseHeader (request : MessageEntryConstHeader) : MessageEntryConstHeader :=
  { request with entryType := request.entryType + 1 }

/-- `robotraconteurlite_node_begin_send_messageentry_response`. -/
def nodeBeginSendMessageentryResponse (node : Node) (i : Nat)
    (request : MessageEntryConstHeader) : Result SendMessageentryData × Node :=
  nodeBeginSendMessageentry node i (responseHeader request)

/-- `robotraconteurlite_node_send_messageentry_empty_response`. -/
def nodeSendMessageentryEmptyResponse (node : Node) (i : Nat)
    (request : MessageEntryConstHeader) : Result Unit × Node :=
  nodeSendMessageentry node i (responseHeader request) []

/-- An element that `messageelement_writer_write_data_string` writes. -/
def stringElement (elementName : List UInt8) (value : ConstString) : ElementTree :=
  .data (.constant elementName) DATATYPE_STRING (CArray.ofBytes value.data value.addressable)

/-- `robotraconteurlite_connection_send_messageentry_error_response`. -/
def connectionSendMessageentryErrorResponse (node : Node) (i : Nat)
    (request : MessageEntryConstHeader) (errorCode : UInt16) (errorName errorMessage : List UInt8) :
    Result Unit × Node :=
  -- There is no response to a response.
  if request.entryType &&& 1 = 0 then (.ok (), node)
  else
    nodeSendMessageentry node i { responseHeader request with error := errorCode }
      [stringElement ERRORNAME (.constant errorName),
        stringElement ERRORSTRING (.constant errorMessage)]

/-! ## Receiving -/

def MessageHeaderOf.map {str str' : Type} (f : str → str') (header : MessageHeaderOf str) :
    MessageHeaderOf str' :=
  { header with
    senderNodename := f header.senderNodename
    receiverNodename := f header.receiverNodename
    metadata := f header.metadata }

def MessageEntryHeaderOf.map {str str' : Type} (f : str → str') (header : MessageEntryHeaderOf str) :
    MessageEntryHeaderOf str' :=
  { header with
    servicePath := f header.servicePath
    memberName := f header.memberName
    metadata := f header.metadata }

/-- `robotraconteurlite_string_shallow_copy_from_mutable`. The only string that has no storage
is the metadata of a message, which nobody looks at. -/
def StringBuf.shallowCopy : StringBuf → ConstString
  | .null _ => .constant []
  | .storage bytes h => ⟨bytes, h⟩

/-- The storage for a message header's strings. -/
def receiveHeaderStorage : MessageHeader :=
  { MessageHeaderOf.zero (.null 0) with
    senderNodename := .cleared MESSAGE_STR_MAX_SIZE
    receiverNodename := .cleared MESSAGE_STR_MAX_SIZE }

/-- The storage for an entry header's strings. -/
def receiveEntryHeaderStorage : MessageEntryHeader :=
  MessageEntryHeaderOf.zero (.cleared MESSAGE_STR_MAX_SIZE)

/-- `robotraconteurlite_node_receive_messageentry`, into a record of zeros: what it read, and
its status. `verify_incoming_message` accepts every message. -/
def nodeReceiveMessageentry (c : Connection) : ReceivedMessage × Result Unit :=
  match connectionMessageReceive c ⟨⟨[], modulus_pos⟩, 0, 0, 0⟩ with
  | .error e => (.zero, .error e)
  | .ok messageReader =>
      match messageReaderReadHeader messageReader receiveHeaderStorage with
      | .error e => (.zero, .error e)
      | .ok (header, messageReader) =>
          let received : ReceivedMessage :=
            { ReceivedMessage.zero with receivedMessageHeader := header.map StringBuf.shallowCopy }
          match messageReaderBeginReadEntries messageReader with
          | .error e => (received, .error e)
          | .ok entryReader =>
              let received := { received with entryReader }
              match messageEntryReaderReadHeader entryReader receiveEntryHeaderStorage with
              | .error e => (received, .error e)
              | .ok entryHeader =>
                  ({ received with
                    receivedMessageEntryHeader := entryHeader.map StringBuf.shallowCopy }, .ok ())

/-! ## Capabilities -/

/-- What one word of the capabilities adds to the flags. -/
def parseCapability (c : UInt32) (flags : BitVec 32) : BitVec 32 :=
  let flags :=
    if c &&& TRANSPORT_CAPABILITY_CODE_PAGE_MASK = TRANSPORT_CAPABILITY_CODE_MESSAGE2_BASIC_PAGE ∧
        c &&& TRANSPORT_CAPABILITY_CODE_MESSAGE2_BASIC_ENABLE ≠ 0 then
      flagsSet flags CONNECTION_PARSE_CAPABILITY_MESSAGE2
    else flags
  if c &&& TRANSPORT_CAPABILITY_CODE_PAGE_MASK = TRANSPORT_CAPABILITY_CODE_MESSAGE4_BASIC_PAGE ∧
      c &&& TRANSPORT_CAPABILITY_CODE_MESSAGE4_BASIC_ENABLE ≠ 0 then
    flagsSet flags CONNECTION_PARSE_CAPABILITY_MESSAGE4
  else flags

/-- The loop of `parse_capabilities`, at word `i` with so many words to go. -/
def parseCapabilitiesLoop (buffer : BufferVec) (dataStartOffset i : Nat) :
    Nat → BitVec 32 → BitVec 32
  | 0, flags => flags
  | n + 1, flags =>
      match bufferVecCopyToUint32 buffer (addSz dataStartOffset (mulSz i 4)) with
      | .error _ => flags
      | .ok c => parseCapabilitiesLoop buffer dataStartOffset (i + 1) n (parseCapability c flags)

/-- `robotraconteurlite_node_transport_parse_capabilities`: the flags. Its status is never
looked at. -/
def nodeTransportParseCapabilities (entryReader : MessageEntryReader) : BitVec 32 :=
  match messageEntryReaderFindElementVerifyArray entryReader (.constant CAPABILITIES)
      DATATYPE_UINT32 1024 with
  | .error _ => 0
  | .ok elementReader =>
      match messageElementReaderReadHeaderEx elementReader
          (MessageElementHeaderOf.zero (.null 0)) with
      | .error _ => 0
      | .ok (header, bufferInfo) =>
          parseCapabilitiesLoop elementReader.buffer bufferInfo.dataStartOffset 0
            header.dataCount.toNat 0

/-- The elements that `robotraconteurlite_node_transport_populate_capabilities` writes. -/
def nodeTransportPopulateCapabilities (capabilityFlags : BitVec 32) : List ElementTree :=
  let capsReply :=
    (if flagsCheck capabilityFlags CONNECTION_PARSE_CAPABILITY_MESSAGE2 then
      [TRANSPORT_CAPABILITY_CODE_MESSAGE2_BASIC_PAGE |||
        TRANSPORT_CAPABILITY_CODE_MESSAGE2_BASIC_ENABLE] else []) ++
    (if flagsCheck capabilityFlags CONNECTION_PARSE_CAPABILITY_MESSAGE4 then
      [TRANSPORT_CAPABILITY_CODE_MESSAGE4_BASIC_PAGE |||
        TRANSPORT_CAPABILITY_CODE_MESSAGE4_BASIC_ENABLE] else [])
  if capsReply.length > 0 then
    [.data (.constant CAPABILITIES) DATATYPE_UINT32 (.constantUInt32s capsReply)]
  else []

end

end RobotRaconteurLite

import RobotRaconteurLite.BufferVec

/-!
# Headers, readers and writers (`message.h`)

The records of `message.h`. A header a reader fills in holds mutable strings
and one a writer takes holds constant ones; the two C structures are otherwise
equal field by field, so they are one structure over the type of a string.

A mutable string is either no storage at all, with whatever length was last
stored beside the null pointer, or storage of as many bytes as its length says.
-/

namespace RobotRaconteurLite

section

variable [SizeT]

/-- `struct robotraconteurlite_string`. -/
inductive StringBuf
  | null (len : Nat)
  | storage (bytes : List UInt8) (addressable : 2 * bytes.length < SizeT.modulus)
  deriving DecidableEq, Repr

/-- `struct robotraconteurlite_const_string`. -/
structure ConstString where
  data : List UInt8
  addressable : 2 * data.length < SizeT.modulus
  deriving DecidableEq, Repr

def ConstString.len (str : ConstString) : Nat := str.data.length

/-- A string constant, or a string in a `char` array of `MESSAGE_STR_MAX_SIZE`. -/
def ConstString.constant (data : List UInt8) : ConstString := ⟨data.take 128, addressable_take data⟩

/-- A part of a string. -/
def ConstString.part (str : ConstString) (data : List UInt8) : ConstString where
  data := data.take str.data.length
  addressable := Nat.lt_of_le_of_lt
    (Nat.mul_le_mul_left 2 (List.length_take_le str.data.length data)) str.addressable

def StringBuf.len : StringBuf → Nat
  | .null len => len
  | .storage bytes _ => bytes.length

/-- Storage the caller set up, of so many zero bytes. -/
def StringBuf.cleared (len : Nat) : StringBuf :=
  .storage ((List.replicate len 0).take 128) (addressable_take _)

end

/-- `struct robotraconteurlite_nodeid`. -/
structure NodeId where
  data : List UInt8
  length_data : data.length = 16
  deriving DecidableEq, Repr

/-- The node id of sixteen zero bytes. -/
def NodeId.any : NodeId := ⟨List.replicate 16 0, rfl⟩

/-- `robotraconteurlite_nodeid_isany`. -/
def nodeidIsany (id : NodeId) : Bool := id.data.all (· == 0)

/-! ## Data types -/

def DATATYPE_STRUCTURE : UInt16 := 101
def DATATYPE_MAP_INT32 : UInt16 := 102
def DATATYPE_MAP_STRING : UInt16 := 103
def DATATYPE_LIST : UInt16 := 108
def DATATYPE_POD : UInt16 := 109
def DATATYPE_POD_ARRAY : UInt16 := 110
def DATATYPE_POD_MULTIDIMARRAY : UInt16 := 111
def DATATYPE_NAMEDARRAY_ARRAY : UInt16 := 115
def DATATYPE_NAMEDARRAY_MULTIDIMARRAY : UInt16 := 116
def DATATYPE_MULTIDIMARRAY : UInt16 := 117

/-! ## Flags -/

def MESSAGE_FLAGS_ROUTING_INFO : BitVec 8 := 0x01
def MESSAGE_FLAGS_ENDPOINT_INFO : BitVec 8 := 0x02
def MESSAGE_FLAGS_PRIORITY : BitVec 8 := 0x04
def MESSAGE_FLAGS_UNRELIABLE : BitVec 8 := 0x08
def MESSAGE_FLAGS_META_INFO : BitVec 8 := 0x10
def MESSAGE_FLAGS_STRING_TABLE : BitVec 8 := 0x20
def MESSAGE_FLAGS_MULTIPLE_ENTRIES : BitVec 8 := 0x40
def MESSAGE_FLAGS_EXTENDED : BitVec 8 := 0x80
def MESSAGE_FLAGS_VERSION2COMPAT : BitVec 8 := 0x53

def MESSAGEENTRY_FLAGS_SERVICE_PATH_STR : BitVec 8 := 0x01
def MESSAGEENTRY_FLAGS_SERVICE_PATH_CODE : BitVec 8 := 0x02
def MESSAGEENTRY_FLAGS_MEMBER_NAME_STR : BitVec 8 := 0x04
def MESSAGEENTRY_FLAGS_MEMBER_NAME_CODE : BitVec 8 := 0x08
def MESSAGEENTRY_FLAGS_REQUEST_ID : BitVec 8 := 0x10
def MESSAGEENTRY_FLAGS_ERROR : BitVec 8 := 0x20
def MESSAGEENTRY_FLAGS_META_INFO : BitVec 8 := 0x40
def MESSAGEENTRY_FLAGS_EXTENDED : BitVec 8 := 0x80

def MESSAGEELEMENT_FLAGS_ELEMENT_NAME_STR : BitVec 8 := 0x01
def MESSAGEELEMENT_FLAGS_ELEMENT_NAME_CODE : BitVec 8 := 0x02
def MESSAGEELEMENT_FLAGS_ELEMENT_NUMBER : BitVec 8 := 0x04
def MESSAGEELEMENT_FLAGS_ELEMENT_TYPE_NAME_STR : BitVec 8 := 0x08
def MESSAGEELEMENT_FLAGS_ELEMENT_TYPE_NAME_CODE : BitVec 8 := 0x10
def MESSAGEELEMENT_FLAGS_META_INFO : BitVec 8 := 0x20
def MESSAGEELEMENT_FLAGS_EXTENDED : BitVec 8 := 0x80

/-! ## Headers -/

/-- `struct robotraconteurlite_message_header`, and its `const` twin. -/
structure MessageHeaderOf (str : Type) where
  messageSize : UInt32
  messageVersion : UInt16
  headerSize : UInt32
  messageFlags : BitVec 8
  senderNodeid : NodeId
  receiverNodeid : NodeId
  senderEndpoint : UInt32
  receiverEndpoint : UInt32
  priority : UInt16
  senderNodename : str
  receiverNodename : str
  metadata : str
  entryCount : UInt32
  messageId : UInt16
  messageResId : UInt16
  deriving DecidableEq, Repr

/-- `struct robotraconteurlite_messageentry_header`, and its `const` twin. -/
structure MessageEntryHeaderOf (str : Type) where
  entrySize : UInt32
  entryFlags : BitVec 8
  entryType : UInt16
  servicePath : str
  servicePathCode : UInt32
  memberName : str
  memberNameCode : UInt32
  requestId : UInt32
  error : UInt16
  metadata : str
  elementCount : UInt32
  deriving DecidableEq, Repr

/-- `struct robotraconteurlite_messageelement_header`, and its `const` twin. -/
structure MessageElementHeaderOf (str : Type) where
  elementSize : UInt32
  elementFlags : BitVec 8
  elementName : str
  elementNameCode : UInt32
  elementNumber : Int32
  elementType : UInt16
  elementTypeName : str
  elementTypeNameCode : UInt32
  metadata : str
  dataCount : UInt32
  deriving DecidableEq

/-- `memset` of a header to zero. -/
def MessageHeaderOf.zero {str : Type} (s : str) : MessageHeaderOf str where
  messageSize := 0
  messageVersion := 0
  headerSize := 0
  messageFlags := 0
  senderNodeid := NodeId.any
  receiverNodeid := NodeId.any
  senderEndpoint := 0
  receiverEndpoint := 0
  priority := 0
  senderNodename := s
  receiverNodename := s
  metadata := s
  entryCount := 0
  messageId := 0
  messageResId := 0

def MessageEntryHeaderOf.zero {str : Type} (s : str) : MessageEntryHeaderOf str where
  entrySize := 0
  entryFlags := 0
  entryType := 0
  servicePath := s
  servicePathCode := 0
  memberName := s
  memberNameCode := 0
  requestId := 0
  error := 0
  metadata := s
  elementCount := 0

def MessageElementHeaderOf.zero {str : Type} (s : str) : MessageElementHeaderOf str where
  elementSize := 0
  elementFlags := 0
  elementName := s
  elementNameCode := 0
  elementNumber := 0
  elementType := 0
  elementTypeName := s
  elementTypeNameCode := 0
  metadata := s
  dataCount := 0

/-- `struct robotraconteurlite_message_buffer_info`. -/
structure MessageBufferInfo where
  startBufferOffset : Nat
  headerSize : Nat
  entryCountOffset : Nat
  entryStartOffset : Nat
  deriving DecidableEq, Repr

/-- `struct robotraconteurlite_messageentry_buffer_info`. -/
structure MessageEntryBufferInfo where
  startBufferOffset : Nat
  headerSize : Nat
  elementCountOffset : Nat
  elementStartOffset : Nat
  entrySizeOffset : Nat
  deriving DecidableEq, Repr

/-- `struct robotraconteurlite_messageelement_buffer_info`. -/
structure MessageElementBufferInfo where
  startBufferOffset : Nat
  headerSize : Nat
  dataStartOffset : Nat
  elementNameStrOffset : Nat
  elementCountOffset : Nat
  elementSizeOffset : Nat
  deriving DecidableEq, Repr

/-! ## Readers and writers -/

section

variable [SizeT]

abbrev MessageHeader := MessageHeaderOf StringBuf
abbrev MessageEntryHeader := MessageEntryHeaderOf StringBuf
abbrev MessageElementHeader := MessageElementHeaderOf StringBuf
abbrev MessageConstHeader := MessageHeaderOf ConstString
abbrev MessageEntryConstHeader := MessageEntryHeaderOf ConstString
abbrev MessageElementConstHeader := MessageElementHeaderOf ConstString

/-- `struct robotraconteurlite_message_reader`. -/
structure MessageReader where
  buffer : BufferVec
  bufferOffset : Nat
  bufferCount : Nat
  messageVersion : UInt16
  deriving DecidableEq, Repr

/-- `struct robotraconteurlite_messageentry_reader`. -/
structure MessageEntryReader where
  buffer : BufferVec
  bufferOffset : Nat
  bufferCount : Nat
  bufferRemaining : Nat
  entryCountOffset : Nat
  currentEntry : Nat
  messageVersion : UInt16
  deriving DecidableEq, Repr

/-- `struct robotraconteurlite_messageelement_reader`. -/
structure MessageElementReader where
  buffer : BufferVec
  bufferOffset : Nat
  bufferCount : Nat
  bufferRemaining : Nat
  currentElement : Nat
  totalElements : Nat
  messageVersion : UInt16
  deriving DecidableEq, Repr

end

end RobotRaconteurLite

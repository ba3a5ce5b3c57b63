import RobotRaconteurLite.Lib.ItemCodec
import RobotRaconteurLite.Message.Search
import RobotRaconteurLite.Message.Writer

/-!
# Typed data (`message_data.c`)

An application reads and writes the data of an element as an array of one of
the types of the wire, or as one value of it. Each type has a code and a way its
values lie in memory, and the functions of a type are those of every other with
the code and the size exchanged. On the machines this is for, memory and wire
agree on the order of bytes.

A `double` or a `single` is here what `memcpy` takes it for: its bits.

The checks that an application makes of an element it has looked for are here
too, for they are made with the same codes.
-/

namespace RobotRaconteurLite

/-- A type that data on the wire can have. -/
structure DataType (α : Type) where
  code : UInt16
  codec : ItemCodec α

namespace DataType

def u8 : ItemCodec UInt8 :=
  .ofEquiv ⟨UInt8.toBitVec, UInt8.ofBitVec, fun _ => rfl, fun _ => rfl⟩ (.word 1 (by decide))

def u16 : ItemCodec UInt16 :=
  .ofEquiv ⟨UInt16.toBitVec, UInt16.ofBitVec, fun _ => rfl, fun _ => rfl⟩ (.word 2 (by decide))

def u32 : ItemCodec UInt32 :=
  .ofEquiv ⟨UInt32.toBitVec, UInt32.ofBitVec, fun _ => rfl, fun _ => rfl⟩ (.word 4 (by decide))

def u64 : ItemCodec UInt64 :=
  .ofEquiv ⟨UInt64.toBitVec, UInt64.ofBitVec, fun _ => rfl, fun _ => rfl⟩ (.word 8 (by decide))

def i8 : ItemCodec Int8 :=
  .ofEquiv ⟨Int8.toBitVec, Int8.ofBitVec, fun _ => rfl, fun _ => rfl⟩ (.word 1 (by decide))

def i16 : ItemCodec Int16 :=
  .ofEquiv ⟨Int16.toBitVec, Int16.ofBitVec, fun _ => rfl, fun _ => rfl⟩ (.word 2 (by decide))

def i32 : ItemCodec Int32 :=
  .ofEquiv ⟨Int32.toBitVec, Int32.ofBitVec, fun _ => rfl, fun _ => rfl⟩ (.word 4 (by decide))

def i64 : ItemCodec Int64 :=
  .ofEquiv ⟨Int64.toBitVec, Int64.ofBitVec, fun _ => rfl, fun _ => rfl⟩ (.word 8 (by decide))

end DataType

def DATATYPE_DOUBLE : UInt16 := 1

def DATATYPE_SINGLE : UInt16 := 2

def DATATYPE_INT8 : UInt16 := 3

def DATATYPE_UINT8 : UInt16 := 4

def DATATYPE_INT16 : UInt16 := 5

def DATATYPE_UINT16 : UInt16 := 6

def DATATYPE_INT32 : UInt16 := 7

def DATATYPE_INT64 : UInt16 := 9

def DATATYPE_UINT64 : UInt16 := 10

def DATATYPE_CDOUBLE : UInt16 := 12

def DATATYPE_CSINGLE : UInt16 := 13

def DATATYPE_BOOL : UInt16 := 14

def dataDouble : DataType (BitVec 64) := ⟨DATATYPE_DOUBLE, .word 8 (by decide)⟩

def dataSingle : DataType (BitVec 32) := ⟨DATATYPE_SINGLE, .word 4 (by decide)⟩

def dataInt8 : DataType Int8 := ⟨DATATYPE_INT8, DataType.i8⟩

def dataUint8 : DataType UInt8 := ⟨DATATYPE_UINT8, DataType.u8⟩

def dataInt16 : DataType Int16 := ⟨DATATYPE_INT16, DataType.i16⟩

def dataUint16 : DataType UInt16 := ⟨DATATYPE_UINT16, DataType.u16⟩

def dataInt32 : DataType Int32 := ⟨DATATYPE_INT32, DataType.i32⟩

def dataUint32 : DataType UInt32 := ⟨DATATYPE_UINT32, DataType.u32⟩

def dataInt64 : DataType Int64 := ⟨DATATYPE_INT64, DataType.i64⟩

def dataUint64 : DataType UInt64 := ⟨DATATYPE_UINT64, DataType.u64⟩

/-- The real part, and the imaginary part behind it. -/
def dataCdouble : DataType (BitVec 64 × BitVec 64) :=
  ⟨DATATYPE_CDOUBLE, .pair (.word 8 (by decide)) (.word 8 (by decide))⟩

def dataCsingle : DataType (BitVec 32 × BitVec 32) :=
  ⟨DATATYPE_CSINGLE, .pair (.word 4 (by decide)) (.word 4 (by decide))⟩

/-- `struct robotraconteurlite_bool` is its one byte. -/
def dataBool : DataType UInt8 := ⟨DATATYPE_BOOL, DataType.u8⟩

def dataString : DataType UInt8 := ⟨DATATYPE_STRING, DataType.u8⟩

/-- The codes of the types that have functions of their own. -/
def dataTypeCodes : List UInt16 :=
  [dataDouble.code, dataSingle.code, dataInt8.code, dataUint8.code, dataInt16.code, dataUint16.code,
    dataInt32.code, dataUint32.code, dataInt64.code, dataUint64.code, dataString.code,
    dataCdouble.code, dataCsingle.code, dataBool.code]

section

variable [SizeT] {α : Type}

/-! ## What the functions of every type do -/

/-- The functions `read_data_<type>_array`: the destination and the count stored in `dest_array`. -/
def messageElementReaderReadDataArray (dataType : DataType α) (elementReader : MessageElementReader)
    (dest : List α) : Result (List α × Nat) := do
  let (data, len) ← messageElementReaderReadDataEx elementReader (dataType.codec.bytes dest)
    dest.length dataType.code dataType.codec.size
  pure (dataType.codec.items dest.length data, len)

/-- The functions `read_data_<type>`, given the value that is there before. -/
def messageElementReaderReadDataScalar (dataType : DataType α) (elementReader : MessageElementReader)
    (value : α) : Result α := do
  let data ← messageElementReaderReadDataScalarEx elementReader (dataType.codec.toBytes value)
    dataType.code dataType.codec.size
  pure (dataType.codec.ofBytes data)

/-- The functions `write_<type>_array`. -/
def messageElementWriterWriteArray (dataType : DataType α) (elementWriter : MessageElementWriter)
    (elementName : ConstString) (values : List α) : BufferM MessageElementWriter :=
  messageElementWriterWriteRaw elementWriter elementName (dataType.codec.bytes values) values.length
    dataType.code dataType.codec.size

/-- The functions `write_<type>`: an array of one. -/
def messageElementWriterWriteScalar (dataType : DataType α) (elementWriter : MessageElementWriter)
    (elementName : ConstString) (value : α) : BufferM MessageElementWriter :=
  messageElementWriterWriteArray dataType elementWriter elementName [value]

/-! ## Readers -/

def messageElementReaderReadDataDoubleArray := messageElementReaderReadDataArray dataDouble

def messageElementReaderReadDataDouble := messageElementReaderReadDataScalar dataDouble

def messageElementReaderReadDataSingleArray := messageElementReaderReadDataArray dataSingle

def messageElementReaderReadDataSingle := messageElementReaderReadDataScalar dataSingle

def messageElementReaderReadDataInt8Array := messageElementReaderReadDataArray dataInt8

def messageElementReaderReadDataInt8 := messageElementReaderReadDataScalar dataInt8

def messageElementReaderReadDataUint8Array := messageElementReaderReadDataArray dataUint8

def messageElementReaderReadDataUint8 := messageElementReaderReadDataScalar dataUint8

def messageElementReaderReadDataInt16Array := messageElementReaderReadDataArray dataInt16

def messageElementReaderReadDataInt16 := messageElementReaderReadDataScalar dataInt16

def messageElementReaderReadDataUint16Array := messageElementReaderReadDataArray dataUint16

def messageElementReaderReadDataUint16 := messageElementReaderReadDataScalar dataUint16

def messageElementReaderReadDataInt32Array := messageElementReaderReadDataArray dataInt32

def messageElementReaderReadDataInt32 := messageElementReaderReadDataScalar dataInt32

def messageElementReaderReadDataUint32Array := messageElementReaderReadDataArray dataUint32

def messageElementReaderReadDataUint32 := messageElementReaderReadDataScalar dataUint32

def messageElementReaderReadDataInt64Array := messageElementReaderReadDataArray dataInt64

def messageElementReaderReadDataInt64 := messageElementReaderReadDataScalar dataInt64

def messageElementReaderReadDataUint64Array := messageElementReaderReadDataArray dataUint64

def messageElementReaderReadDataUint64 := messageElementReaderReadDataScalar dataUint64

def messageElementReaderReadDataCdoubleArray := messageElementReaderReadDataArray dataCdouble

def messageElementReaderReadDataCdouble := messageElementReaderReadDataScalar dataCdouble

def messageElementReaderReadDataCsingleArray := messageElementReaderReadDataArray dataCsingle

def messageElementReaderReadDataCsingle := messageElementReaderReadDataScalar dataCsingle

def messageElementReaderReadDataBoolArray := messageElementReaderReadDataArray dataBool

def messageElementReaderReadDataBool := messageElementReaderReadDataScalar dataBool

/-! ## Writers -/

def messageElementWriterWriteDouble := messageElementWriterWriteScalar dataDouble

def messageElementWriterWriteDoubleArray := messageElementWriterWriteArray dataDouble

def messageElementWriterWriteSingle := messageElementWriterWriteScalar dataSingle

def messageElementWriterWriteSingleArray := messageElementWriterWriteArray dataSingle

def messageElementWriterWriteInt8 := messageElementWriterWriteScalar dataInt8

def messageElementWriterWriteInt8Array := messageElementWriterWriteArray dataInt8

def messageElementWriterWriteUint8 := messageElementWriterWriteScalar dataUint8

def messageElementWriterWriteUint8Array := messageElementWriterWriteArray dataUint8

def messageElementWriterWriteInt16 := messageElementWriterWriteScalar dataInt16

def messageElementWriterWriteInt16Array := messageElementWriterWriteArray dataInt16

def messageElementWriterWriteUint16 := messageElementWriterWriteScalar dataUint16

def messageElementWriterWriteUint16Array := messageElementWriterWriteArray dataUint16

def messageElementWriterWriteInt32 := messageElementWriterWriteScalar dataInt32

def messageElementWriterWriteInt32Array := messageElementWriterWriteArray dataInt32

def messageElementWriterWriteUint32 := messageElementWriterWriteScalar dataUint32

def messageElementWriterWriteUint32Array := messageElementWriterWriteArray dataUint32

def messageElementWriterWriteInt64 := messageElementWriterWriteScalar dataInt64

def messageElementWriterWriteInt64Array := messageElementWriterWriteArray dataInt64

def messageElementWriterWriteUint64 := messageElementWriterWriteScalar dataUint64

def messageElementWriterWriteUint64Array := messageElementWriterWriteArray dataUint64

def messageElementWriterWriteCdouble := messageElementWriterWriteScalar dataCdouble

def messageElementWriterWriteCdoubleArray := messageElementWriterWriteArray dataCdouble

def messageElementWriterWriteCsingle := messageElementWriterWriteScalar dataCsingle

def messageElementWriterWriteCsingleArray := messageElementWriterWriteArray dataCsingle

def messageElementWriterWriteBool := messageElementWriterWriteScalar dataBool

def messageElementWriterWriteBoolArray := messageElementWriterWriteArray dataBool

/-- `robotraconteurlite_messageelement_writer_write_data_string`. -/
def messageElementWriterWriteDataString (elementWriter : MessageElementWriter)
    (elementName value : ConstString) : BufferM MessageElementWriter :=
  messageElementWriterWriteArray dataString elementWriter elementName value.data

/-! ## Checks of an element that was found -/

/-- The functions `verify_scalar`, behind the search. -/
def verifyScalar (found : Result MessageElementReader) (expectedDataType : UInt16) :
    Result MessageElementReader := do
  let elementReader ← found
  let header ← messageElementReaderReadHeader elementReader (MessageElementHeaderOf.zero (.null 0))
  failIf (header.elementType ≠ expectedDataType) .messageElementTypeMismatch
  failIf (header.dataCount ≠ 1) .messageElementTypeMismatch
  pure elementReader

/-- The functions `verify_array`, behind the search. -/
def verifyArray (found : Result MessageElementReader) (expectedDataType : UInt16)
    (expectedLen : UInt32) (varLength : Bool) : Result MessageElementReader := do
  let elementReader ← found
  let header ← messageElementReaderReadHeader elementReader (MessageElementHeaderOf.zero (.null 0))
  failIf (header.elementType ≠ expectedDataType) .messageElementTypeMismatch
  if varLength then failIf (header.dataCount > expectedLen) .outOfRange
  else failIf (header.dataCount ≠ expectedLen) .messageElementTypeMismatch
  pure elementReader

/-- `robotraconteurlite_messageentry_reader_find_element_verify_scalar`. -/
def messageEntryReaderFindElementVerifyScalar (entryReader : MessageEntryReader)
    (elementName : ConstString) (expectedDataType : UInt16) : Result MessageElementReader :=
  verifyScalar (messageEntryReaderFindElement entryReader elementName) expectedDataType

/-- `robotraconteurlite_messageentry_reader_find_element_verify_array`, for an array of fixed
length. -/
def messageEntryReaderFindElementVerifyFixedArray (entryReader : MessageEntryReader)
    (elementName : ConstString) (expectedDataType : UInt16) (expectedLen : UInt32) :
    Result MessageElementReader :=
  verifyArray (messageEntryReaderFindElement entryReader elementName) expectedDataType expectedLen false

/-- The one for an array of variable length makes the same check. -/
theorem messageEntryReaderFindElementVerifyArray_eq (entryReader : MessageEntryReader)
    (elementName : ConstString) (expectedDataType : UInt16) (expectedLen : UInt32) :
    messageEntryReaderFindElementVerifyArray entryReader elementName expectedDataType expectedLen =
      verifyArray (messageEntryReaderFindElement entryReader elementName) expectedDataType expectedLen
        true := rfl

/-- `robotraconteurlite_messageelement_reader_find_nested_element_verify_scalar`. -/
def messageElementReaderFindNestedElementVerifyScalar (elementReader : MessageElementReader)
    (nestedElementName : ConstString) (expectedDataType : UInt16) : Result MessageElementReader :=
  verifyScalar (messageElementReaderFindNestedElement elementReader nestedElementName) expectedDataType

/-- `robotraconteurlite_messageelement_reader_find_nested_element_verify_array`. -/
def messageElementReaderFindNestedElementVerifyArray (elementReader : MessageElementReader)
    (nestedElementName : ConstString) (expectedDataType : UInt16) (expectedLen : UInt32)
    (varLength : Bool) : Result MessageElementReader :=
  verifyArray (messageElementReaderFindNestedElement elementReader nestedElementName) expectedDataType
    expectedLen varLength

/-- `robotraconteurlite_messageelement_reader_find_nested_element_verify_string`. -/
def messageElementReaderFindNestedElementVerifyString (elementReader : MessageElementReader)
    (nestedElementName : ConstString) (expectedMaxLen : UInt32) : Result MessageElementReader :=
  verifyArray (messageElementReaderFindNestedElement elementReader nestedElementName) DATATYPE_STRING
    expectedMaxLen true

end

end RobotRaconteurLite

import RobotRaconteurLite.Message.Reader
import RobotRaconteurLite.Strings

/-!
# Looking for an element by its name (`message.c`, `message_data.c`)

An entry's elements are read one after the other until one has the name. A name
is compared with what is in the buffer sixteen bytes at a time.
-/

namespace RobotRaconteurLite

def DATATYPE_UINT32 : UInt16 := 8
def DATATYPE_STRING : UInt16 := 11

section

variable [SizeT]

/-- The inner loop of `find_element`: whether the bytes at an offset are the name. Each round
takes at most as many bytes as there is room for on the stack. -/
def elementNameMatches (buffer : BufferVec) :
    Nat → Nat → List UInt8 → Result Bool
  | 0, _, _ => .ok false
  | fuel + 1, offset, name => do
      let strRead := min name.length 16
      let temp ← bufferVecCopyToString buffer offset (List.replicate 16 0) 0 strRead
      if temp.take strRead ≠ name.take strRead then pure false
      else if name.length ≤ 16 then pure true
      else elementNameMatches buffer fuel (addSz offset strRead) (name.drop strRead)

/-- The loop of `find_element` and of `find_nested_element`, at an element. A reader moves on as
often as the count of elements lets it. -/
def findElementLoop (elementName : ConstString) :
    Nat → MessageElementReader → Result MessageElementReader
  | 0, _ => .error .messageElementNotFound
  | fuel + 1, elementReader => do
      let (header, bufferInfo) ←
        messageElementReaderReadHeaderEx elementReader (MessageElementHeaderOf.zero (.null 0))
      let found ←
        if header.elementName.len = elementName.len then
          elementNameMatches elementReader.buffer (elementName.len + 1)
            bufferInfo.elementNameStrOffset elementName.data
        else pure false
      if found then pure elementReader
      else
        match messageElementReaderMoveNext elementReader with
        | .error .noMore => .error .messageElementNotFound
        | .error e => .error e
        | .ok elementReader => findElementLoop elementName fuel elementReader

/-- `robotraconteurlite_messageentry_reader_find_element`. -/
def messageEntryReaderFindElement (entryReader : MessageEntryReader) (elementName : ConstString) :
    Result MessageElementReader :=
  match messageEntryReaderBeginReadElements entryReader with
  | .error .noMore => .error .messageElementNotFound
  | .error e => .error e
  | .ok elementReader => findElementLoop elementName elementReader.totalElements elementReader

/-- `robotraconteurlite_messageelement_reader_find_nested_element`. -/
def messageElementReaderFindNestedElement (elementReader : MessageElementReader)
    (nestedElementName : ConstString) : Result MessageElementReader :=
  match messageElementReaderBeginReadNestedElements elementReader with
  | .error .noMore => .error .messageElementNotFound
  | .error e => .error e
  | .ok nestedElementReader =>
      findElementLoop nestedElementName nestedElementReader.totalElements nestedElementReader

/-- `robotraconteurlite_messageentry_reader_find_element_verify_array`, for an array of
variable length. -/
def messageEntryReaderFindElementVerifyArray (entryReader : MessageEntryReader)
    (elementName : ConstString) (expectedDataType : UInt16) (expectedLen : UInt32) :
    Result MessageElementReader := do
  let elementReader ← messageEntryReaderFindElement entryReader elementName
  let header ← messageElementReaderReadHeader elementReader (MessageElementHeaderOf.zero (.null 0))
  failIf (header.elementType ≠ expectedDataType) .messageElementTypeMismatch
  failIf (header.dataCount > expectedLen) .outOfRange
  pure elementReader

/-- `robotraconteurlite_messageentry_reader_find_element_verify_string`. -/
def messageEntryReaderFindElementVerifyString (entryReader : MessageEntryReader)
    (elementName : ConstString) (expectedMaxLen : UInt32) : Result MessageElementReader :=
  messageEntryReaderFindElementVerifyArray entryReader elementName DATATYPE_STRING expectedMaxLen

/-- `robotraconteurlite_messageelement_reader_read_data_string`, into storage of so many
bytes. -/
def messageElementReaderReadDataString (elementReader : MessageElementReader) (len : Nat) :
    Result (List UInt8) := do
  let (dest, count) ←
    messageElementReaderReadDataEx elementReader (List.replicate len 0) len DATATYPE_STRING 1
  pure (dest.take count)

end

/-- The loop of `match_string_in_list`, in a segment: the segments of a list separated by
semicolons, without the empty ones. -/
def listSegmentsLoop : List UInt8 → List UInt8 → List (List UInt8)
  | segment, [] => if segment ≠ [] then [segment] else []
  | segment, b :: rest =>
      if b = 59 then
        if segment ≠ [] then segment :: listSegmentsLoop [] rest else listSegmentsLoop [] rest
      else listSegmentsLoop (segment ++ [b]) rest

def listSegments (list : List UInt8) : List (List UInt8) := listSegmentsLoop [] list

/-- `robotraconteurlite_util_match_string_in_list`. -/
def utilMatchStringInList (list value : List UInt8) : Bool :=
  (listSegments list).any fun segment => stringCmp segment value == 0

end RobotRaconteurLite

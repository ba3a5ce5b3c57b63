import RobotRaconteurLite.Message.Writer

/-!
# What an application does with a message

An application holds one message reader, one entry reader and as many element
readers as it has levels open, and makes the calls of `message.h` on them in any
order. A `ReadSession` is what it holds and a `ReadCall` one call, with the
storage the caller passes in. A call on a reader nobody has opened has no
meaning in C, and answers `undefined`. A `WriteSession` and a `WriteCall` are
the same for writing.
-/

namespace RobotRaconteurLite

section

variable [SizeT]

/-! ## Reading -/

structure ReadSession where
  buffer : BufferVec
  message : Option MessageReader
  entry : Option MessageEntryReader
  element : Nat → Option MessageElementReader

inductive ReadCall
  | init (offset count : Nat)
  | readHeader (header : MessageHeader)
  | beginReadEntries
  | entryMoveNext
  | entryReadHeader (header : MessageEntryHeader)
  | beginReadElements (slot : Nat)
  | elementMoveNext (slot : Nat)
  | elementReadHeader (slot : Nat) (header : MessageElementHeader)
  | beginReadNestedElements (slot nested : Nat)
  | readData (slot : Nat) (dest : CArray) (dataType : UInt16)
  | readDataScalar (slot : Nat) (dest : CArray) (h : dest.len = 1) (dataType : UInt16)

/-- What a call hands back: the window of the reader it opened or moved, a
header, or the caller's array with the data in it. -/
inductive ReadOutput
  | window (offset count : Nat)
  | header (header : MessageHeader)
  | entryHeader (header : MessageEntryHeader)
  | elementHeader (header : MessageElementHeader)
  | data (dest : List UInt8) (count : Nat)

/-- Nothing opened yet. -/
def ReadSession.start (buffer : BufferVec) : ReadSession := ⟨buffer, none, none, fun _ => none⟩

/-- A call on one reader. When it fails the session stays as it is. -/
def ReadSession.on {ρ α : Type} (s : ReadSession) (reader : Option ρ) (call : ρ → Result α)
    (next : α → ReadOutput × ReadSession) : Result ReadOutput × ReadSession :=
  match reader with
  | none => (.error .undefined, s)
  | some r =>
      match call r with
      | .ok a => (.ok (next a).1, (next a).2)
      | .error e => (.error e, s)

def ReadSession.setMessage (s : ReadSession) (r : MessageReader) : ReadOutput × ReadSession :=
  (.window r.bufferOffset r.bufferCount, { s with message := some r })

def ReadSession.setEntry (s : ReadSession) (r : MessageEntryReader) :
    ReadOutput × ReadSession :=
  (.window r.bufferOffset r.bufferCount, { s with entry := some r })

def ReadSession.setElement (s : ReadSession) (slot : Nat) (r : MessageElementReader) :
    ReadOutput × ReadSession :=
  (.window r.bufferOffset r.bufferCount,
    { s with element := fun i => if i = slot then some r else s.element i })

def ReadSession.step (s : ReadSession) : ReadCall → Result ReadOutput × ReadSession
  | .init offset count =>
      s.on (some (s.message.getD ⟨s.buffer, 0, 0, 0⟩))
        (fun r => messageReaderInit r s.buffer offset count) s.setMessage
  | .readHeader header =>
      s.on s.message (fun r => messageReaderReadHeader r header)
        fun p => (.header p.1, { s with message := some p.2 })
  | .beginReadEntries => s.on s.message messageReaderBeginReadEntries s.setEntry
  | .entryMoveNext => s.on s.entry messageEntryReaderMoveNext s.setEntry
  | .entryReadHeader header =>
      s.on s.entry (fun r => messageEntryReaderReadHeader r header)
        fun header => (.entryHeader header, s)
  | .beginReadElements slot =>
      s.on s.entry messageEntryReaderBeginReadElements (s.setElement slot)
  | .elementMoveNext slot =>
      s.on (s.element slot) messageElementReaderMoveNext (s.setElement slot)
  | .elementReadHeader slot header =>
      s.on (s.element slot) (fun r => messageElementReaderReadHeader r header)
        fun header => (.elementHeader header, s)
  | .beginReadNestedElements slot nested =>
      s.on (s.element slot) messageElementReaderBeginReadNestedElements (s.setElement nested)
  | .readData slot dest dataType =>
      s.on (s.element slot)
        (fun r => messageElementReaderReadDataEx r dest.data dest.len dataType dest.elemSize)
        fun p => (.data p.1 p.2, s)
  | .readDataScalar slot dest _ dataType =>
      s.on (s.element slot)
        (fun r => messageElementReaderReadDataScalarEx r dest.data dataType dest.elemSize)
        fun data => (.data data 1, s)

/-! ## Writing -/

structure WriteSession where
  buffer : BufferVec
  message : MessageWriter
  header : MessageConstHeader
  entry : MessageEntryWriter
  element : Nat → MessageElementWriter

inductive WriteCall
  | init (offset count : Nat) (messageVersion : UInt16)
  | beginMessage (header : MessageConstHeader) (messageFlagsMask : BitVec 8)
  | beginEntry (header : MessageEntryConstHeader) (slot : Nat)
  | writeRaw (slot : Nat) (elementName : ConstString) (data : CArray) (dataType : UInt16)
  | beginNestedElement (slot : Nat) (header : MessageElementConstHeader) (nested : Nat)
  | endNestedElement (slot nested : Nat)
  | endEntry (slot : Nat)
  | endMessage

/-- A call: its status, the bytes in the buffer after it, and the session. A
failing call keeps the writers and what it had already written. -/
def WriteSession.on {α : Type} (s : WriteSession) (call : BufferM α)
    (next : α → WriteSession) : (Result Unit × List UInt8) × WriteSession :=
  match call s.buffer with
  | (.ok a, v) => ((.ok (), v.bytes), { next a with buffer := v })
  | (.error e, v) => ((.error e, v.bytes), { s with buffer := v })

def WriteSession.setElement (s : WriteSession) (slot : Nat) (w : MessageElementWriter) :
    WriteSession :=
  { s with element := fun i => if i = slot then w else s.element i }

def WriteSession.step (s : WriteSession) :
    WriteCall → (Result Unit × List UInt8) × WriteSession
  | .init offset count messageVersion =>
      s.on (messageWriterInit s.message offset count messageVersion)
        fun w => { s with message := w }
  | .beginMessage header messageFlagsMask =>
      s.on (messageWriterBeginMessageEx s.message header s.entry messageFlagsMask)
        fun p => { s with message := p.1, header := p.2.1, entry := p.2.2 }
  | .beginEntry header slot =>
      s.on (messageEntryWriterBeginEntry s.entry header (s.element slot))
        fun p => { s with entry := p.1 }.setElement slot p.2
  | .writeRaw slot elementName data dataType =>
      s.on (messageElementWriterWriteRaw (s.element slot) elementName data.data data.len
        dataType data.elemSize) (s.setElement slot)
  | .beginNestedElement slot header nested =>
      s.on (messageElementWriterBeginNestedElement (s.element slot) header
        (s.element nested)) fun p => (s.setElement slot p.1).setElement nested p.2
  | .endNestedElement slot nested =>
      s.on (messageElementWriterEndNestedElement (s.element slot) (s.element nested))
        (s.setElement slot)
  | .endEntry slot =>
      s.on (messageEntryWriterEndEntry s.entry (s.element slot)) fun w => { s with entry := w }
  | .endMessage =>
      s.on (messageWriterEndMessage s.message s.header s.entry)
        fun header => { s with header := header }

end

end RobotRaconteurLite

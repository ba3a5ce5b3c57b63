import RobotRaconteurLite.Message.InPlace
import RobotRaconteurLite.Message.Tree

/-!
# Messages written with failures

An application that goes on after a call has failed leaves out what the call was
for, with all that was to be in it, and makes the next call on the records as the
failed one left them. What it attempts is a tree, and so is what it has written in
the end.
-/

namespace RobotRaconteurLite

section

variable [SizeT]

mutual

/-- The writer after the calls for an element, and what of it is in the message. -/
def attemptElement (unset elementWriter : MessageElementWriter) :
    ElementTree → StateM BufferVec (MessageElementWriter × List ElementTree)
  | .data elementName dataType data => fun buffer =>
      match messageElementWriterWriteRawInPlace elementWriter elementName data.data data.len
        dataType data.elemSize buffer with
      | ((.error _, elementWriter), buffer) => ((elementWriter, []), buffer)
      | ((.ok (), elementWriter), buffer) =>
          ((elementWriter, [.data elementName dataType data]), buffer)
  | .nested header children => fun buffer =>
      match messageElementWriterBeginNestedElementInPlace elementWriter header unset buffer with
      | ((.error _, elementWriter, _), buffer) => ((elementWriter, []), buffer)
      | ((.ok (), elementWriter, nestedElementWriter), buffer) =>
          match attemptElements unset nestedElementWriter children buffer with
          | ((nestedElementWriter, written), buffer) =>
              match messageElementWriterEndNestedElementInPlace elementWriter nestedElementWriter
                buffer with
              | ((.error _, elementWriter), buffer) => ((elementWriter, []), buffer)
              | ((.ok (), elementWriter), buffer) =>
                  ((elementWriter, [.nested header written]), buffer)

def attemptElements (unset elementWriter : MessageElementWriter) :
    List ElementTree → StateM BufferVec (MessageElementWriter × List ElementTree)
  | [] => fun buffer => ((elementWriter, []), buffer)
  | element :: elements => fun buffer =>
      match attemptElement unset elementWriter element buffer with
      | ((elementWriter, written), buffer) =>
          match attemptElements unset elementWriter elements buffer with
          | ((elementWriter, more), buffer) => ((elementWriter, written ++ more), buffer)

end

/-- An entry that was begun has to be ended. -/
def attemptEntries (unset : MessageElementWriter) (entryWriter : MessageEntryWriter) :
    List EntryTree → BufferM (MessageEntryWriter × List EntryTree)
  | [] => fun buffer => (.ok (entryWriter, []), buffer)
  | entry :: entries => fun buffer =>
      match messageEntryWriterBeginEntryInPlace entryWriter entry.header unset buffer with
      | ((.error _, entryWriter, _), buffer) => attemptEntries unset entryWriter entries buffer
      | ((.ok (), entryWriter, elementWriter), buffer) =>
          match attemptElements unset elementWriter entry.elements buffer with
          | ((elementWriter, written), buffer) =>
              match messageEntryWriterEndEntry entryWriter elementWriter buffer with
              | (.error e, buffer) => (.error e, buffer)
              | (.ok entryWriter, buffer) =>
                  match attemptEntries unset entryWriter entries buffer with
                  | (.error e, buffer) => (.error e, buffer)
                  | (.ok (entryWriter, more), buffer) =>
                      (.ok (entryWriter, ⟨entry.header, written⟩ :: more), buffer)

/-- The header after a message with entries that are attempted, and what of them is in it. -/
def attemptMessage (unset : MessageElementWriter) (writer : MessageWriter)
    (entryWriter : MessageEntryWriter) (messageFlagsMask : BitVec 8) (message : MessageTree) :
    BufferM (MessageConstHeader × List EntryTree) := do
  let (writer, header, entryWriter) ←
    messageWriterBeginMessageEx writer message.header entryWriter messageFlagsMask
  let (entryWriter, written) ← attemptEntries unset entryWriter message.entries
  let header ← messageWriterEndMessage writer header entryWriter
  pure (header, written)

/-- The header after a message none of whose calls may fail. -/
def writeMessage (unset : MessageElementWriter) (writer : MessageWriter)
    (entryWriter : MessageEntryWriter) (messageFlagsMask : BitVec 8) (message : MessageTree) :
    BufferM MessageConstHeader := do
  let (writer, header, entryWriter) ←
    messageWriterBeginMessageEx writer message.header entryWriter messageFlagsMask
  let entryWriter ← writeEntries unset entryWriter message.entries
  messageWriterEndMessage writer header entryWriter

end

end RobotRaconteurLite

import RobotRaconteurLite.Message.Writer

/-!
# Messages as trees

A message is a list of entries and an entry a list of elements, and an element
holds data or elements again. An application writes one depth first: what is
begun is filled and then ended, before the next is begun.

The record of a writer nobody has opened yet is whatever memory holds, `unset`.
-/

namespace RobotRaconteurLite

section

variable [SizeT]

inductive ElementTree
  | data (elementName : ConstString) (dataType : UInt16) (data : CArray)
  | nested (header : MessageElementConstHeader) (children : List ElementTree)

structure EntryTree where
  header : MessageEntryConstHeader
  elements : List ElementTree

structure MessageTree where
  header : MessageConstHeader
  entries : List EntryTree

mutual

def writeElement (unset elementWriter : MessageElementWriter) :
    ElementTree → BufferM MessageElementWriter
  | .data elementName dataType data =>
      messageElementWriterWriteRaw elementWriter elementName data.data data.len dataType
        data.elemSize
  | .nested header children => do
      let (elementWriter, nestedElementWriter) ←
        messageElementWriterBeginNestedElement elementWriter header unset
      let nestedElementWriter ← writeElements unset nestedElementWriter children
      messageElementWriterEndNestedElement elementWriter nestedElementWriter

def writeElements (unset elementWriter : MessageElementWriter) :
    List ElementTree → BufferM MessageElementWriter
  | [] => pure elementWriter
  | element :: elements => do
      let elementWriter ← writeElement unset elementWriter element
      writeElements unset elementWriter elements

end

def writeEntry (unset : MessageElementWriter) (entryWriter : MessageEntryWriter)
    (entry : EntryTree) : BufferM MessageEntryWriter := do
  let (entryWriter, elementWriter) ← messageEntryWriterBeginEntry entryWriter entry.header unset
  let elementWriter ← writeElements unset elementWriter entry.elements
  messageEntryWriterEndEntry entryWriter elementWriter

def writeEntries (unset : MessageElementWriter) (entryWriter : MessageEntryWriter) :
    List EntryTree → BufferM MessageEntryWriter
  | [] => pure entryWriter
  | entry :: entries => do
      let entryWriter ← writeEntry unset entryWriter entry
      writeEntries unset entryWriter entries

end

end RobotRaconteurLite

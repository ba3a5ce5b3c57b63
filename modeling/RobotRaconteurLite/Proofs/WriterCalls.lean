import RobotRaconteurLite.Proofs.Layout

/-!
# What a call of a writer does

A call lays down a header with zeros where its size and its count will be, and
the writers it answers know where. The call that closes what was begun puts the
two numbers there.
-/

namespace RobotRaconteurLite

open OffsetWriter LittleEndian Splice

theorem leBytes_uint32_ofNat (n : Nat) : leBytes 4 (UInt32.ofNat n).toNat = leBytes 4 n := by
  rw [UInt32.toNat_ofNat', show (2 : Nat) ^ 32 = 256 ^ 4 by decide, leBytes_mod]

/-- A header with its size behind `skip` bytes, and with its count in its last `width`. -/
def SizedHeader (skip width : Nat) (bytes : Nat → Nat → List UInt8) : Prop :=
  ∃ front middle : List UInt8, front.length = skip ∧
    ∀ size count, bytes size count = front ++ leBytes 4 size ++ middle ++ leBytes width count

/-- A header with a number in full width at each end. -/
theorem sizedHeader_of_fields (fields : List (List UInt8)) {width : Nat} :
    SizedHeader 0 width fun size count =>
      (leBytes 4 size :: (fields ++ [leBytes width count])).flatten := by
  refine ⟨[], fields.flatten, rfl, fun size count => ?_⟩
  simp only [List.flatten_cons, List.flatten_append, List.flatten_nil, List.nil_append,
    List.append_nil, List.append_assoc]

/-- A header with a padded number at each end. -/
theorem sizedHeader_of_padded (fields : List (List UInt8)) :
    SizedHeader 1 4 fun size count => (paddedUintXBytes (UInt32.ofNat size) ::
      (fields ++ [paddedUintXBytes (UInt32.ofNat count)])).flatten := by
  refine ⟨[254], fields.flatten ++ [254], rfl, fun size count => ?_⟩
  simp only [List.flatten_cons, List.flatten_append, List.flatten_nil, paddedUintXBytes,
    leBytes_uint32_ofNat, List.append_assoc, List.cons_append, List.nil_append, List.append_nil]

theorem SizedHeader.length_eq {skip width : Nat} {bytes : Nat → Nat → List UInt8}
    (h : SizedHeader skip width bytes) (size count : Nat) :
    (bytes size count).length = (bytes 0 0).length := by
  obtain ⟨front, middle, -, hbytes⟩ := h
  simp only [hbytes, List.length_append, length_leBytes]

theorem SizedHeader.room {skip width : Nat} {bytes : Nat → Nat → List UInt8}
    (h : SizedHeader skip width bytes) : skip + 4 + width ≤ (bytes 0 0).length := by
  obtain ⟨front, middle, hskip, hbytes⟩ := h
  simp only [hbytes, List.length_append, length_leBytes]
  omega

/-- The size and the count put in their places. -/
theorem SizedHeader.patch {skip width : Nat} {bytes : Nat → Nat → List UInt8}
    (h : SizedHeader skip width bytes) (rest : List UInt8) (size count : Nat) :
    overwrite (overwrite (bytes 0 0 ++ rest) skip (leBytes 4 size)) ((bytes 0 0).length - width)
      (leBytes width count) = bytes size count ++ rest := by
  obtain ⟨front, middle, hskip, hbytes⟩ := h
  have hsize : overwrite (bytes 0 0 ++ rest) skip (leBytes 4 size) =
      (front ++ leBytes 4 size ++ middle) ++ leBytes width 0 ++ rest := by
    have hmiddle := overwrite_middle (x := front) (y := leBytes 4 0) (w := leBytes 4 size)
      (z := middle ++ leBytes width 0 ++ rest) (by rw [length_leBytes, length_leBytes])
    rw [hskip] at hmiddle
    simp only [hbytes, List.append_assoc] at hmiddle ⊢
    exact hmiddle
  have hlen : (bytes 0 0).length - width = (front ++ leBytes 4 size ++ middle).length := by
    simp only [hbytes, List.length_append, length_leBytes]
    omega
  rw [hsize, hlen, overwrite_middle (by rw [length_leBytes, length_leBytes]), hbytes]

section

variable [SizeT]

/-- The header of a message, nothing for a version that has none. -/
def messageHeaderBytes (messageVersion : UInt16) (header : MessageConstHeader)
    (messageFlagsMask : BitVec 8) (messageSize : Nat) : List UInt8 :=
  if messageVersion = 2 then messageHeader2Bytes header (messageHeader2Size header) messageSize
  else if messageVersion = 4 then
    messageHeader4Bytes header (messageHeader4Flags header messageFlagsMask)
      (UInt32.ofNat (messageHeader4TotalSize header (messageHeader4Flags header messageFlagsMask)))
      messageSize
  else []

/-- The header size such a header states. -/
def messageHeaderSize (messageVersion : UInt16) (header : MessageConstHeader)
    (messageFlagsMask : BitVec 8) : UInt32 :=
  if messageVersion = 2 then (messageHeader2Size header).toUInt32
  else UInt32.ofNat
    (messageHeader4TotalSize header (messageHeader4Flags header messageFlagsMask))

/-- The writer that `begin_message_ex` picks. -/
def messageWriterWriteHeader (messageVersion : UInt16) (header : MessageConstHeader)
    (messageFlagsMask : BitVec 8) : Writing (MessageConstHeader × MessageBufferInfo) :=
  if messageVersion = 2 then messageWriterWriteHeader2Ex header
  else if messageVersion = 4 then messageWriterWriteHeader4Ex header messageFlagsMask
  else throw .protocol

def messageEntryHeaderBytes (messageVersion : UInt16) (header : MessageEntryConstHeader)
    (entrySize elementCount : Nat) : List UInt8 :=
  if messageVersion = 2 then messageEntryHeader2Bytes header entrySize elementCount
  else if messageVersion = 4 then messageEntryHeader4Bytes header entrySize elementCount
  else []

def messageElementHeaderBytes (messageVersion : UInt16) (header : MessageElementConstHeader)
    (elementSize dataCount : Nat) : List UInt8 :=
  if messageVersion = 2 then messageElementHeader2Bytes header elementSize dataCount
  else if messageVersion = 4 then messageElementHeader4Bytes header elementSize dataCount
  else []

def messageElementDataHeaderBytes (messageVersion : UInt16) (elementName : ConstString)
    (dataLen : Nat) (dataType : UInt16) (dataElemSize : Nat) : List UInt8 :=
  if messageVersion = 2 then
    messageElementDataHeader2Bytes elementName dataLen dataType
      (messageElementData2Size elementName dataLen dataElemSize)
  else if messageVersion = 4 then
    messageElementDataHeader4Bytes elementName dataLen dataType
      (messageElementData4TotalSize elementName dataLen dataElemSize)
  else []

/-- A version the writers know. -/
def KnownVersion (messageVersion : UInt16) : Prop := messageVersion = 2 ∨ messageVersion = 4

/-- Where in its field the size of an entry or an element starts. -/
def sizeSkip (messageVersion : UInt16) : Nat := if messageVersion = 2 then 0 else 1

/-- The width of the count in a message header and in an entry header. -/
def countWidth (messageVersion : UInt16) : Nat := if messageVersion = 2 then 2 else 4

/-- What a header must be to be written. -/
def MessageHeaderOf.Writable (messageVersion : UInt16) (messageFlagsMask : BitVec 8)
    (header : MessageConstHeader) : Prop :=
  let flags := messageHeader4Flags header messageFlagsMask
  if messageVersion = 2 then
    header.StringsWithin UINT16_MAX ∧ header.entryCount.toNat ≤ UINT16_MAX
  else
    (flagsCheck flags MESSAGE_FLAGS_ROUTING_INFO = true →
      header.senderNodename.len ≤ UINT32_MAX) ∧
    (flagsCheck flags MESSAGE_FLAGS_ROUTING_INFO = true →
      header.receiverNodename.len ≤ UINT32_MAX) ∧
    (flagsCheck flags MESSAGE_FLAGS_META_INFO = true → header.metadata.len ≤ UINT32_MAX)

/-- The entry count is at `countOffset` of a header that ends at `next`, or there is none. -/
def CountLies (messageVersion : UInt16) (header : MessageConstHeader) (messageFlagsMask : BitVec 8)
    (countOffset next : Nat) : Prop :=
  if messageVersion = 2 then countOffset + 6 = next
  else if flagsCheck (messageHeader4Flags header messageFlagsMask) MESSAGE_FLAGS_MULTIPLE_ENTRIES
  then countOffset + 4 = next
  else countOffset = sizeTMax

theorem bytes_lt_modulus (v : BufferVec) : v.bytes.length < SizeT.modulus := by
  have := v.length_bytes
  omega

/-- What was laid down somewhere lies there. -/
theorem at_of_putsAt {α : Type} {o : Nat} {bs : List UInt8} {Q : α → Prop} {c : BufferM α}
    {v v' : BufferVec} {a : α} (h : PutsAt BufferVec.bytes o bs Q c) (hrun : c v = (.ok a, v'))
    (h0 : 0 < bs.length) : At v'.bytes o bs := by
  have hput := h v
  rw [hrun] at hput
  obtain ⟨-, hlaid, hin⟩ := hput
  rw [hlaid]
  refine at_overwrite (hin.resolve_left fun hnil => ?_)
  rw [hnil] at h0
  exact absurd h0 (by decide)

theorem answer_of_putsAt {α : Type} {o : Nat} {bs : List UInt8} {Q : α → Prop} {c : BufferM α}
    {v v' : BufferVec} {a : α} (h : PutsAt BufferVec.bytes o bs Q c) (hrun : c v = (.ok a, v')) :
    Q a := by
  have hput := h v
  rw [hrun] at hput
  exact hput.1

theorem messageWriterInit_apply (writer : MessageWriter) (offset count : Nat)
    (messageVersion : UInt16) (v : BufferVec) :
    messageWriterInit writer offset count messageVersion v =
      if bufferVecLen v.toBuffers < addSz offset count then (.error .outOfRange, v)
      else (.ok { writer with
        bufferOffset := offset, bufferCount := count, messageVersion := messageVersion }, v) := by
  show (failIf (bufferVecLen v.toBuffers < addSz offset count) .outOfRange >>= fun _ =>
    pure { writer with
      bufferOffset := offset, bufferCount := count, messageVersion } : BufferM MessageWriter) v = _
  rw [buffered_bind_apply]
  unfold failIf
  by_cases hshort : bufferVecLen v.toBuffers < addSz offset count
  · rw [if_pos hshort, if_pos hshort]
    rfl
  · rw [if_neg hshort, if_neg hshort]
    rfl

/-! ## Beginning -/

theorem messageHeaderBytes_length {messageVersion : UInt16} (hver : KnownVersion messageVersion)
    (header : MessageConstHeader) (messageFlagsMask : BitVec 8) (messageSize : Nat) :
    10 ≤ (messageHeaderBytes messageVersion header messageFlagsMask messageSize).length := by
  rcases hver with rfl | rfl
  · rw [messageHeaderBytes, if_pos rfl, length_messageHeader2Bytes]
    omega
  · rw [messageHeaderBytes, if_neg (by decide), if_pos rfl, messageHeader4Bytes]
    simp only [List.flatten_cons, List.length_append, length_leBytes, List.length_cons]
    omega

theorem messageEntryHeaderBytes_length {messageVersion : UInt16} (hver : KnownVersion messageVersion)
    (header : MessageEntryConstHeader) (entrySize elementCount : Nat) :
    10 ≤ (messageEntryHeaderBytes messageVersion header entrySize elementCount).length := by
  rcases hver with rfl | rfl
  · rw [messageEntryHeaderBytes, if_pos rfl, messageEntryHeader2Bytes]
    simp only [List.flatten_cons, List.length_append, length_leBytes, length_string2Bytes]
    omega
  · rw [messageEntryHeaderBytes, if_neg (by decide), if_pos rfl, messageEntryHeader4Bytes]
    simp only [List.flatten_cons, List.flatten_append, List.length_append, length_paddedUintXBytes]
    omega

theorem messageElementHeaderBytes_length {messageVersion : UInt16}
    (hver : KnownVersion messageVersion) (header : MessageElementConstHeader)
    (elementSize dataCount : Nat) :
    10 ≤ (messageElementHeaderBytes messageVersion header elementSize dataCount).length := by
  rcases hver with rfl | rfl
  · rw [messageElementHeaderBytes, if_pos rfl, messageElementHeader2Bytes]
    simp only [List.flatten_cons, List.length_append, length_leBytes, length_string2Bytes]
    omega
  · rw [messageElementHeaderBytes, if_neg (by decide), if_pos rfl, messageElementHeader4Bytes]
    simp only [List.flatten_cons, List.flatten_append, List.length_append, length_paddedUintXBytes]
    omega

theorem messageWriterWriteHeader_puts (messageVersion : UInt16) (header : MessageConstHeader)
    (messageFlagsMask : BitVec 8) {o : Nat} {bytes : List UInt8}
    (hbytes : bytes = messageHeaderBytes messageVersion header messageFlagsMask 0) :
    Puts BufferVec.bytes o bytes
      (fun r => KnownVersion messageVersion ∧ header.Writable messageVersion messageFlagsMask ∧
        CountLies messageVersion header messageFlagsMask r.2.entryCountOffset (o + bytes.length) ∧
        r.1.headerSize = messageHeaderSize messageVersion header messageFlagsMask ∧
        r.1.headerSize.toNat = r.2.headerSize ∧ r.2.startBufferOffset = o ∧
        (o + bytes.length < SizeT.modulus → r.2.headerSize = bytes.length))
      (messageWriterWriteHeader messageVersion header messageFlagsMask) := by
  unfold messageWriterWriteHeader
  by_cases h2 : messageVersion = 2
  · rw [if_pos h2]
    rw [messageHeaderBytes, if_pos h2] at hbytes
    rw [hbytes]
    refine (messageWriterWriteHeader2Ex_puts header).mono fun r hr => ?_
    obtain ⟨hsize, hheader, hstart, hlength, hcount, hstrings, hmany⟩ := hr
    refine ⟨Or.inl h2, ?_, ?_, ?_, hheader, hstart, fun _ => hlength⟩
    · rw [MessageHeaderOf.Writable, if_pos h2]
      exact ⟨hstrings, hmany⟩
    · rw [CountLies, if_pos h2]
      omega
    · rw [messageHeaderSize, if_pos h2, hsize]
  · rw [if_neg h2]
    by_cases h4 : messageVersion = 4
    · rw [if_pos h4]
      rw [messageHeaderBytes, if_neg h2, if_pos h4] at hbytes
      refine (messageWriterWriteHeader4Ex_puts header messageFlagsMask rfl hbytes).mono fun r hr => ?_
      obtain ⟨hsize, hheader, hstart, hlength, hcount, hstrings⟩ := hr
      refine ⟨Or.inr h4, ?_, ?_, ?_, hheader, hstart, hlength⟩
      · rw [MessageHeaderOf.Writable, if_neg h2]
        exact hstrings
      · rw [CountLies, if_neg h2]
        exact hcount
      · rw [messageHeaderSize, if_neg h2, hsize]
    · rw [if_neg h4]
      exact PutsAt.throw _

theorem messageWriterBeginMessageEx_puts (writer : MessageWriter) (header : MessageConstHeader)
    (entryWriter : MessageEntryWriter) (messageFlagsMask : BitVec 8) {bytes : List UInt8}
    (hbytes : bytes = messageHeaderBytes writer.messageVersion header messageFlagsMask 0) :
    PutsAt BufferVec.bytes writer.bufferOffset bytes
      (fun r => ∃ countOffset, KnownVersion writer.messageVersion ∧
        header.Writable writer.messageVersion messageFlagsMask ∧
        CountLies writer.messageVersion header messageFlagsMask countOffset
          (writer.bufferOffset + bytes.length) ∧
        writer.bufferOffset + bytes.length < SizeT.modulus ∧
        r.1 = { writer with
          messageSizeOffset := writer.bufferOffset + 4
          entryCountOffset := countOffset } ∧
        r.2.1.headerSize = messageHeaderSize writer.messageVersion header messageFlagsMask ∧
        r.2.1.headerSize.toNat = bytes.length ∧
        r.2.2 = { entryWriter with
          bufferOffset := writer.bufferOffset + bytes.length
          bufferCount := subSz writer.bufferCount bytes.length
          entriesWrittenCount := 0
          entriesWrittenSize := 0
          messageVersion := writer.messageVersion })
      (messageWriterBeginMessageEx writer header entryWriter messageFlagsMask) := by
  unfold messageWriterBeginMessageEx
  by_cases hver : KnownVersion writer.messageVersion
  · have hlong := messageHeaderBytes_length hver header messageFlagsMask 0
    rw [← hbytes] at hlong
    have hne := List.ne_nil_of_length_pos (by omega : 0 < bytes.length)
    have hput := messageWriterWriteHeader_puts writer.messageVersion header messageFlagsMask
      (o := writer.bufferOffset) hbytes
    rw [← List.append_nil bytes]
    refine (hput.run'.bounded bytes_lt_modulus hne).bind fun r hr => ?_
    obtain ⟨header', info⟩ := r
    obtain ⟨⟨-, hwritable, hcount, hfield, hheader, hstart, hsize⟩, hlt⟩ := hr
    replace hsize := hsize hlt
    dsimp only at hheader hstart hsize hcount hfield
    rw [List.append_nil]
    refine PutsAt.pure ⟨info.entryCountOffset, hver, hwritable, hcount, hlt, ?_, hfield, ?_, ?_⟩
    · rw [hstart, addSz_eq (by omega)]
    · rw [hheader, hsize]
    · rw [hsize, addSz_eq hlt]
  · have h2 : ¬ writer.messageVersion = 2 := fun h => hver (Or.inl h)
    have h4 : ¬ writer.messageVersion = 4 := fun h => hver (Or.inr h)
    rw [if_neg h2, if_neg h4]
    exact PutsAt.throw _

theorem messageEntryWriterBeginEntry_puts (entryWriter : MessageEntryWriter)
    (header : MessageEntryConstHeader) (elementWriter : MessageElementWriter) {bytes : List UInt8}
    (hbytes : bytes = messageEntryHeaderBytes entryWriter.messageVersion header 0 0) :
    PutsAt BufferVec.bytes entryWriter.bufferOffset bytes
      (fun r => KnownVersion entryWriter.messageVersion ∧ header.StringsWithin UINT32_MAX ∧
        entryWriter.entriesWrittenCount < UINT16_MAX ∧
        entryWriter.bufferOffset + bytes.length < SizeT.modulus ∧
        r.1 = { entryWriter with
          entrySizeOffset := entryWriter.bufferOffset + sizeSkip entryWriter.messageVersion
          elementCountOffset := entryWriter.bufferOffset +
            (bytes.length - countWidth entryWriter.messageVersion)
          entryHeaderSize := bytes.length } ∧
        r.2 = { elementWriter with
          bufferOffset := entryWriter.bufferOffset + bytes.length
          bufferCount := subSz entryWriter.bufferCount bytes.length
          elementsWrittenCount := 0
          elementsWrittenSize := 0
          messageVersion := entryWriter.messageVersion })
      (messageEntryWriterBeginEntry entryWriter header elementWriter) := by
  unfold messageEntryWriterBeginEntry
  rw [← List.append_nil bytes]
  refine PutsAt.nil_bind (failIf_putsAt _) fun _ hroom => ?_
  by_cases h2 : entryWriter.messageVersion = 2
  · rw [if_pos h2]
    have hlong := messageEntryHeaderBytes_length (Or.inl h2) header 0 0
    rw [← hbytes] at hlong
    rw [messageEntryHeaderBytes, if_pos h2] at hbytes
    have hput := messageEntryWriterWriteHeader2Ex_puts entryWriter header hbytes
    have hne := List.ne_nil_of_length_pos (by omega : 0 < bytes.length)
    refine (hput.run'.bounded bytes_lt_modulus hne).bind fun info hinfo => ?_
    obtain ⟨⟨hsize, hoffset, hcount, hstrings⟩, hlt⟩ := hinfo
    have hcountAt : info.elementCountOffset = entryWriter.bufferOffset + (bytes.length - 2) := by
      omega
    rw [List.append_nil, sizeSkip, countWidth, if_pos h2, if_pos h2]
    refine PutsAt.pure ⟨Or.inl h2, hstrings, not_not.mp hroom, hlt, ?_, ?_⟩
    · rw [hsize hlt, hoffset, hcountAt, Nat.add_zero]
    · rw [hsize hlt, addSz_eq hlt]
  · rw [if_neg h2]
    by_cases h4 : entryWriter.messageVersion = 4
    · rw [if_pos h4]
      have hlong := messageEntryHeaderBytes_length (Or.inr h4) header 0 0
      rw [← hbytes] at hlong
      rw [messageEntryHeaderBytes, if_neg h2, if_pos h4] at hbytes
      have hput := messageEntryWriterWriteHeader4Ex_puts entryWriter header hbytes
      have hne := List.ne_nil_of_length_pos (by omega : 0 < bytes.length)
      refine (hput.run'.bounded bytes_lt_modulus hne).bind fun info hinfo => ?_
      obtain ⟨⟨hsize, hoffset, hcount, hstrings⟩, hlt⟩ := hinfo
      have hcountAt : info.elementCountOffset = entryWriter.bufferOffset + (bytes.length - 4) := by
        omega
      rw [List.append_nil, sizeSkip, countWidth, if_neg h2, if_neg h2]
      refine PutsAt.pure ⟨Or.inr h4, hstrings, not_not.mp hroom, hlt, ?_, ?_⟩
      · rw [hsize hlt, hoffset, hcountAt]
      · rw [hsize hlt, addSz_eq hlt]
    · rw [if_neg h4]
      exact PutsAt.throw _

theorem messageElementWriterBeginNestedElement_puts (elementWriter : MessageElementWriter)
    (header : MessageElementConstHeader) (nestedElementWriter : MessageElementWriter)
    {bytes : List UInt8}
    (hbytes : bytes = messageElementHeaderBytes elementWriter.messageVersion header 0 0) :
    PutsAt BufferVec.bytes elementWriter.bufferOffset bytes
      (fun r => KnownVersion elementWriter.messageVersion ∧ header.StringsWithin UINT32_MAX ∧
        elementWriter.elementsWrittenCount < UINT32_MAX ∧
        elementWriter.bufferOffset + bytes.length < SizeT.modulus ∧
        r.1 = { elementWriter with
          elementSizeOffset := elementWriter.bufferOffset + sizeSkip elementWriter.messageVersion
          dataCountOffset := elementWriter.bufferOffset + (bytes.length - 4)
          elementHeaderSize := bytes.length } ∧
        r.2 = { nestedElementWriter with
          bufferOffset := elementWriter.bufferOffset + bytes.length
          bufferCount := subSz elementWriter.bufferCount bytes.length
          elementsWrittenCount := 0
          elementsWrittenSize := 0
          messageVersion := elementWriter.messageVersion })
      (messageElementWriterBeginNestedElement elementWriter header nestedElementWriter) := by
  unfold messageElementWriterBeginNestedElement
  rw [← List.append_nil bytes]
  refine PutsAt.nil_bind (failIf_putsAt _) fun _ hroom => ?_
  by_cases h2 : elementWriter.messageVersion = 2
  · rw [if_pos h2]
    have hlong := messageElementHeaderBytes_length (Or.inl h2) header 0 0
    rw [← hbytes] at hlong
    rw [messageElementHeaderBytes, if_pos h2] at hbytes
    have hput := messageElementWriterWriteHeader2Ex_puts elementWriter header hbytes
    have hne := List.ne_nil_of_length_pos (by omega : 0 < bytes.length)
    refine (hput.run'.bounded bytes_lt_modulus hne).bind fun info hinfo => ?_
    obtain ⟨⟨hsize, hoffset, hcount, hstart, hstrings⟩, hlt⟩ := hinfo
    have hcountAt : info.elementCountOffset = elementWriter.bufferOffset + (bytes.length - 4) := by
      omega
    rw [List.append_nil, sizeSkip, if_pos h2]
    refine PutsAt.pure ⟨Or.inl h2, hstrings, not_not.mp hroom, hlt, ?_, ?_⟩
    · rw [hsize hlt, hoffset, hcountAt, Nat.add_zero]
    · rw [hsize hlt, hstart]
  · rw [if_neg h2]
    by_cases h4 : elementWriter.messageVersion = 4
    · rw [if_pos h4]
      have hlong := messageElementHeaderBytes_length (Or.inr h4) header 0 0
      rw [← hbytes] at hlong
      rw [messageElementHeaderBytes, if_neg h2, if_pos h4] at hbytes
      have hput := messageElementWriterWriteHeader4Ex_puts elementWriter header hbytes
      have hne := List.ne_nil_of_length_pos (by omega : 0 < bytes.length)
      refine (hput.run'.bounded bytes_lt_modulus hne).bind fun info hinfo => ?_
      obtain ⟨⟨hsize, hoffset, hcount, hstart, hstrings⟩, hlt⟩ := hinfo
      have hcountAt : info.elementCountOffset = elementWriter.bufferOffset + (bytes.length - 4) := by
        omega
      rw [List.append_nil, sizeSkip, if_neg h2]
      refine PutsAt.pure ⟨Or.inr h4, hstrings, not_not.mp hroom, hlt, ?_, ?_⟩
      · rw [hsize hlt, hoffset, hcountAt]
      · rw [hsize hlt, hstart]
    · rw [if_neg h4]
      exact PutsAt.throw _

/-- The data of an array, also of an empty one. -/
theorem bufferUpdate_fromMem_putsAt (data : CArray) {o : Nat} :
    PutsAt BufferVec.bytes o data.data (fun _ => True)
      (bufferUpdate fun buffer => bufferVecCopyFromMem buffer o data.data data.len 0 data.elemSize
        data.len) := by
  rcases Nat.eq_zero_or_pos data.len with h0 | hpos
  · have hnil : data.data = [] := by
      apply List.eq_nil_of_length_eq_zero
      rw [data.length_data, h0, Nat.zero_mul]
    intro v
    rw [bufferUpdate, ExceptT.mk, bufferVecCopyFromMem_zero v o data h0, hnil]
    by_cases hone : v.segments.length = 1
    · rw [if_pos hone]
      exact ⟨trivial, (overwrite_nil v.bytes o).symm, Or.inl rfl⟩
    · rw [if_neg hone]
      exact KeptOutside.refl _ _ _ v
  · exact bufferUpdate_putsAt fun v => bufferVecCopyFromMem_eq v o data hpos

/-- What is written of an element with data. -/
def messageElementDataBytes (messageVersion : UInt16) (elementName : ConstString) (data : CArray)
    (dataType : UInt16) : List UInt8 :=
  messageElementDataHeaderBytes messageVersion elementName data.len dataType data.elemSize ++
    data.data

/-- The size that an element with data says it has. -/
def messageElementDataSize (messageVersion : UInt16) (elementName : ConstString) (data : CArray) :
    Nat :=
  if messageVersion = 2 then messageElementData2Size elementName data.len data.elemSize
  else messageElementData4TotalSize elementName data.len data.elemSize

theorem messageElementDataBytes_length {messageVersion : UInt16} (hver : KnownVersion messageVersion)
    (elementName : ConstString) (data : CArray) (dataType : UInt16) :
    5 ≤ (messageElementDataBytes messageVersion elementName data dataType).length := by
  rcases hver with rfl | rfl
  · rw [messageElementDataBytes, messageElementDataHeaderBytes, if_pos rfl,
      messageElementDataHeader2Bytes]
    simp only [List.flatten_cons, List.length_append, length_leBytes]
    omega
  · rw [messageElementDataBytes, messageElementDataHeaderBytes, if_neg (by decide), if_pos rfl,
      messageElementDataHeader4Bytes]
    simp only [List.flatten_cons, List.length_append, length_leBytes, length_uintXBytes]
    have hsize := messageUintXSize_pos (UInt32.ofNat
      (messageElementData4TotalSize elementName data.len data.elemSize))
    have hcount := messageUintXSize_pos (UInt32.ofNat data.len)
    omega

/-- What a written data element is known to be, when it says it has `elementSize` bytes. -/
def DataWritten (elementWriter : MessageElementWriter) (elementName : ConstString) (data : CArray)
    (bytes : List UInt8) (elementSize : Nat) : Prop :=
  KnownVersion elementWriter.messageVersion ∧ elementWriter.elementsWrittenCount < UINT32_MAX ∧
  (bytes.length < SizeT.modulus → elementSize = bytes.length) ∧
  elementSize = messageElementDataSize elementWriter.messageVersion elementName data ∧
  elementSize ≤ UINT32_MAX ∧ elementName.len ≤ UINT32_MAX ∧ data.len ≤ UINT32_MAX ∧
  (elementWriter.messageVersion = 2 → elementName.len ≤ UINT16_MAX)

/-- The rest of a data element, behind its header. -/
theorem writeRawData_putsAt {elementWriter : MessageElementWriter} {elementName : ConstString}
    {data : CArray} {bytes : List UInt8} {o start elementSize : Nat} (hstart : start = o)
    (hwritten : DataWritten elementWriter elementName data bytes elementSize) :
    PutsAt BufferVec.bytes o data.data
      (fun w => ∃ elementSize, DataWritten elementWriter elementName data bytes elementSize ∧
        w = elementWriter.advance elementSize)
      (bufferUpdate (fun buffer => bufferVecCopyFromMem buffer start data.data data.len 0
        data.elemSize data.len) >>= fun _ => pure (elementWriter.advance elementSize)) := by
  subst hstart
  exact (bufferUpdate_fromMem_putsAt data).bind_pure fun _ _ => ⟨elementSize, hwritten, rfl⟩

theorem messageElementWriterWriteRaw_putsAt (elementWriter : MessageElementWriter)
    (elementName : ConstString) (data : CArray) (dataType : UInt16) {bytes : List UInt8}
    (hbytes : bytes = messageElementDataBytes elementWriter.messageVersion elementName data
      dataType) :
    PutsAt BufferVec.bytes elementWriter.bufferOffset bytes
      (fun w => ∃ elementSize, DataWritten elementWriter elementName data bytes elementSize ∧
        w = elementWriter.advance elementSize)
      (messageElementWriterWriteRaw elementWriter elementName data.data data.len dataType
        data.elemSize) := by
  unfold messageElementWriterWriteRaw
  refine PutsAt.nil_bind (failIf_putsAt _) fun _ hroom => ?_
  have hcount := not_not.mp hroom
  have hlen := congrArg List.length hbytes
  rw [messageElementDataBytes, List.length_append, data.length_data] at hlen
  by_cases h2 : elementWriter.messageVersion = 2
  · rw [if_pos h2]
    rw [messageElementDataHeaderBytes, if_pos h2] at hlen
    nth_rewrite 1 [hbytes]
    rw [messageElementDataBytes, messageElementDataHeaderBytes, if_pos h2]
    refine (messageElementWriterWriteDataHeader2Ex_puts rfl).run'.bind fun r hr => ?_
    obtain ⟨hstart, hsize, heq, hmax, hname, hmany⟩ := hr
    have hname32 : elementName.len ≤ UINT32_MAX := Nat.le_trans hname (by decide)
    refine writeRawData_putsAt hstart ⟨Or.inl h2, hcount, ?_, ?_, hmax, hname32, hmany, fun _ => hname⟩
    · rw [hlen]
      exact hsize
    · rw [messageElementDataSize, if_pos h2]
      exact heq
  · rw [if_neg h2]
    by_cases h4 : elementWriter.messageVersion = 4
    · rw [if_pos h4]
      rw [messageElementDataHeaderBytes, if_neg h2, if_pos h4] at hlen
      nth_rewrite 1 [hbytes]
      rw [messageElementDataBytes, messageElementDataHeaderBytes, if_neg h2, if_pos h4]
      refine (messageElementWriterWriteDataHeader4Ex_puts rfl).run'.bind fun r hr => ?_
      obtain ⟨hstart, hsize, heq, hmax, hname, hmany⟩ := hr
      refine writeRawData_putsAt hstart ⟨Or.inr h4, hcount, ?_, ?_, hmax, hname, hmany,
        fun h => absurd h h2⟩
      · rw [hlen]
        exact hsize
      · rw [messageElementDataSize, if_neg h2]
        exact heq
    · rw [if_neg h4]
      exact PutsAt.throw _

theorem messageElementWriterWriteRaw_puts (elementWriter : MessageElementWriter)
    (elementName : ConstString) (data : CArray) (dataType : UInt16) {bytes : List UInt8}
    (hbytes : bytes = messageElementDataBytes elementWriter.messageVersion elementName data
      dataType) :
    PutsAt BufferVec.bytes elementWriter.bufferOffset bytes
      (fun w => DataWritten elementWriter elementName data bytes bytes.length ∧
        elementWriter.bufferOffset + bytes.length < SizeT.modulus ∧
        w = elementWriter.advance bytes.length)
      (messageElementWriterWriteRaw elementWriter elementName data.data data.len dataType
        data.elemSize) := by
  have hput := messageElementWriterWriteRaw_putsAt elementWriter elementName data dataType hbytes
  by_cases hver : KnownVersion elementWriter.messageVersion
  · have hlong := messageElementDataBytes_length hver elementName data dataType
    rw [← hbytes] at hlong
    have hne := List.ne_nil_of_length_pos (by omega : 0 < bytes.length)
    refine (hput.bounded bytes_lt_modulus hne).mono fun w hw => ?_
    obtain ⟨⟨elementSize, hwritten, hadvance⟩, hlt⟩ := hw
    have hsize : elementSize = bytes.length := hwritten.2.2.1 (by omega)
    rw [hsize] at hwritten hadvance
    exact ⟨hwritten, hlt, hadvance⟩
  · exact hput.mono fun w hw => by
      obtain ⟨elementSize, hwritten, -⟩ := hw
      exact absurd hwritten.1 hver

/-! ## Ending -/

theorem messageEntryHeaderBytes_sized {messageVersion : UInt16} (hver : KnownVersion messageVersion)
    (header : MessageEntryConstHeader) :
    SizedHeader (sizeSkip messageVersion) (countWidth messageVersion)
      (messageEntryHeaderBytes messageVersion header) := by
  rcases hver with rfl | rfl
  · exact sizedHeader_of_fields [leBytes 2 header.entryType.toNat, leBytes 2 0,
      string2Bytes header.servicePath, string2Bytes header.memberName,
      leBytes 4 header.requestId.toNat, leBytes 2 header.error.toNat, string2Bytes header.metadata]
  · exact sizedHeader_of_padded (messageEntryHeader4Fields header)

theorem messageElementHeaderBytes_sized {messageVersion : UInt16}
    (hver : KnownVersion messageVersion) (header : MessageElementConstHeader) :
    SizedHeader (sizeSkip messageVersion) 4 (messageElementHeaderBytes messageVersion header) := by
  rcases hver with rfl | rfl
  · exact sizedHeader_of_fields [string2Bytes header.elementName, leBytes 2 header.elementType.toNat,
      string2Bytes header.elementTypeName, string2Bytes header.metadata]
  · exact sizedHeader_of_padded (messageElementHeader4Fields header)

/-- Two writes that put the size and the count of a header in their places. -/
theorem completes_header {α : Type} {o skip width size count : Nat}
    {bytes : Nat → Nat → List UInt8} {rest : List UInt8} (h : SizedHeader skip width bytes)
    {writeSize writeCount : BufferM Unit} {a : α} {Q : α → Prop}
    (hsize : PutsAt BufferVec.bytes (o + skip) (leBytes 4 size) (fun _ => True) writeSize)
    (hcount : PutsAt BufferVec.bytes (o + ((bytes 0 0).length - width)) (leBytes width count)
      (fun _ => True) writeCount) (ha : Q a) :
    Completes BufferVec.bytes o (bytes 0 0 ++ rest) (bytes size count ++ rest) Q
      (writeSize >>= fun _ => writeCount >>= fun _ => pure a) := by
  have hroom := h.room
  have hlen := h.length_eq size count
  have hin : skip + (leBytes 4 size).length ≤ (bytes 0 0 ++ rest).length := by
    rw [List.length_append, length_leBytes]
    omega
  refine Completes.patch_bind hsize hin (by rw [List.length_append, List.length_append, hlen])
    fun _ _ => ?_
  refine Completes.patch_bind hcount ?_ ?_ fun _ _ => ?_
  · rw [length_overwrite hin, List.length_append, length_leBytes]
    omega
  · rw [length_overwrite hin, List.length_append, List.length_append, hlen]
  · rw [h.patch]
    exact Completes.pure ha

theorem bufferUpdate_uint32_putsAt {o : Nat} (n : Nat) :
    PutsAt BufferVec.bytes o (leBytes 4 n) (fun _ => True)
      (bufferUpdate fun buffer => bufferVecCopyFromUint32 buffer o (UInt32.ofNat n)) := by
  rw [← leBytes_uint32_ofNat]
  exact bufferUpdate_putsAt fun v => bufferVecCopyFromUInt_eq v o _ (by decide) (by decide)

theorem messageEntryWriterEndEntry_completes (entryWriter : MessageEntryWriter)
    (elementWriter : MessageElementWriter) (header : MessageEntryConstHeader) (o : Nat)
    (rest : List UInt8) {bytes : Nat → Nat → List UInt8}
    (hbytes : bytes = messageEntryHeaderBytes entryWriter.messageVersion header)
    (hver : KnownVersion entryWriter.messageVersion)
    (hsize : entryWriter.entrySizeOffset = o + sizeSkip entryWriter.messageVersion)
    (hcount : entryWriter.elementCountOffset =
      o + ((bytes 0 0).length - countWidth entryWriter.messageVersion)) :
    Completes BufferVec.bytes o (bytes 0 0 ++ rest)
      (bytes (addSz entryWriter.entryHeaderSize elementWriter.elementsWrittenSize)
        elementWriter.elementsWrittenCount ++ rest)
      (· = { entryWriter with
        entriesWrittenCount := addSz entryWriter.entriesWrittenCount 1
        entriesWrittenSize := addSz entryWriter.entriesWrittenSize
          (addSz entryWriter.entryHeaderSize elementWriter.elementsWrittenSize % 2 ^ 32)
        bufferOffset := addSz entryWriter.bufferOffset
          (addSz entryWriter.entryHeaderSize elementWriter.elementsWrittenSize % 2 ^ 32)
        bufferCount := subSz entryWriter.bufferCount
          (addSz entryWriter.entryHeaderSize elementWriter.elementsWrittenSize % 2 ^ 32) })
      (messageEntryWriterEndEntry entryWriter elementWriter) := by
  have hsized := messageEntryHeaderBytes_sized hver header
  rw [← hbytes] at hsized
  unfold messageEntryWriterEndEntry
  rw [← UInt32.toNat_ofNat']
  refine Completes.ite (fun h2 => ?_) fun h2 => Completes.ite (fun _ => ?_)
    fun h4 => absurd (hver.resolve_left h2) h4
  · rw [countWidth, if_pos h2] at hsized hcount
    rw [hsize, hcount]
    exact completes_header hsized (messageWriteUint32_ofNat_puts _).run'
      (messageWriteUint16_ofNat_puts _).run' rfl
  · rw [countWidth, if_neg h2] at hsized hcount
    rw [hsize, hcount]
    exact completes_header hsized (bufferUpdate_uint32_putsAt _) (bufferUpdate_uint32_putsAt _) rfl

theorem messageElementWriterEndNestedElement_completes {elementWriter : MessageElementWriter}
    (nestedElementWriter : MessageElementWriter) (header : MessageElementConstHeader) {o : Nat}
    {rest : List UInt8} {bytes : Nat → Nat → List UInt8}
    (hbytes : bytes = messageElementHeaderBytes elementWriter.messageVersion header)
    (hver : KnownVersion elementWriter.messageVersion)
    (hsize : elementWriter.elementSizeOffset = o + sizeSkip elementWriter.messageVersion)
    (hcount : elementWriter.dataCountOffset = o + ((bytes 0 0).length - 4)) :
    Completes BufferVec.bytes o (bytes 0 0 ++ rest)
      (bytes (addSz elementWriter.elementHeaderSize nestedElementWriter.elementsWrittenSize)
        nestedElementWriter.elementsWrittenCount ++ rest)
      (fun w => addSz elementWriter.elementHeaderSize nestedElementWriter.elementsWrittenSize ≤
          UINT32_MAX ∧
        w = elementWriter.advance
          (addSz elementWriter.elementHeaderSize nestedElementWriter.elementsWrittenSize))
      (messageElementWriterEndNestedElement elementWriter nestedElementWriter) := by
  have hsized := messageElementHeaderBytes_sized hver header
  rw [← hbytes] at hsized
  unfold messageElementWriterEndNestedElement
  rw [hsize, hcount]
  refine Completes.nil_bind (failIf_putsAt _) fun _ hmax => ?_
  have hend := Nat.le_of_not_gt hmax
  refine Completes.ite (fun _ => ?_) fun h2 => Completes.ite (fun _ => ?_)
    fun h4 => absurd (hver.resolve_left h2) h4
  · exact completes_header hsized (messageWriteUint32_ofNat_puts _).run'
      (messageWriteUint32_ofNat_puts _).run' ⟨hend, rfl⟩
  · exact completes_header hsized (bufferUpdate_uint32_putsAt _) (bufferUpdate_uint32_putsAt _)
      ⟨hend, rfl⟩

end

end RobotRaconteurLite

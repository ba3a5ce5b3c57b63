import RobotRaconteurLite.Proofs.Trees

/-!
# Room enough

A version 2 message is refused for what it is, or because the buffer ends too
early. What passes the checks is written wherever the buffer goes up to its end:
each write has the room that the bytes of the whole need, so no step looks at more
than its own check.
-/

namespace RobotRaconteurLite

open OffsetWriter LittleEndian Splice

section

variable [SizeT] {o e : Nat}

/-! ## Fields -/

theorem failIf_succeeds {p : Prop} [Decidable p] {status : Status} (h : ¬ p) :
    SucceedsTo BufferVec.bytes e (failIf p status : BufferM Unit) := by
  rw [failIf, if_neg h]
  exact SucceedsTo.pure _

theorem failIf_writing_succeeds {p : Prop} [Decidable p] {status : Status} (h : ¬ p) :
    SucceedsTo BufferVec.bytes e ((failIf p status : Writing Unit) o) := by
  rw [failIf, if_neg h]
  exact SucceedsTo.pure _

theorem bufferUpdate_succeeds {copy : BufferVec → Result BufferVec} {bs : List UInt8}
    (hcopy : ∀ v, copy v = v.store o bs) (h0 : 0 < bs.length) (hfit : o + bs.length ≤ e) :
    SucceedsTo BufferVec.bytes e (bufferUpdate copy) := by
  intro v hroom
  have hin : o < v.bytes.length ∧ o + bs.length ≤ v.bytes.length := ⟨by omega, by omega⟩
  rw [bufferUpdate, ExceptT.mk, hcopy, BufferVec.store, dif_pos hin]
  exact ⟨_, _, rfl⟩

theorem messageWriteVal_succeeds {α : Type} {copy : BufferVec → Nat → α → Result BufferVec}
    {size : Nat} {val : α} {bs : List UInt8} (hcopy : ∀ v pos, copy v pos val = v.store pos bs)
    (h0 : 0 < bs.length) (hfit : o + bs.length ≤ e) :
    SucceedsTo BufferVec.bytes e (messageWriteVal copy size val o) :=
  SucceedsTo.bind (bufferUpdate_succeeds (fun v => hcopy v o) h0 hfit)
    (bufferUpdate_putsAt fun v => hcopy v o) fun _ _ => SucceedsTo.pure _

theorem messageWriteUint32_succeeds (val : UInt32) {n : Nat} (hfit : o + (leBytes 4 n).length ≤ e) :
    SucceedsTo BufferVec.bytes e (messageWriteUint32 val o) :=
  messageWriteVal_succeeds (fun v pos => bufferVecCopyFromUInt_eq v pos _ (by decide) (by decide))
    (by rw [length_leBytes]; decide) (by rwa [length_leBytes] at hfit ⊢)

theorem messageWriteUint16_succeeds (val : UInt16) {n : Nat} (hfit : o + (leBytes 2 n).length ≤ e) :
    SucceedsTo BufferVec.bytes e (messageWriteUint16 val o) :=
  messageWriteVal_succeeds (fun v pos => bufferVecCopyFromUInt_eq v pos _ (by decide) (by decide))
    (by rw [length_leBytes]; decide) (by rwa [length_leBytes] at hfit ⊢)

theorem messageWriteHeaderStringWithLenPrefix2_succeeds {str : ConstString}
    (hlen : str.len ≤ UINT32_MAX) (hfit : o + (string2Bytes str).length ≤ e) :
    SucceedsTo BufferVec.bytes e (messageWriteHeaderStringWithLenPrefix2 str o) := by
  unfold messageWriteHeaderStringWithLenPrefix2 messageWriteHeaderString
  refine SucceedsTo.writer_bind (failIf_writing_succeeds (Nat.not_lt.mpr hlen)) (failIf_puts _)
    fun _ _ => ?_
  refine SucceedsTo.puts_bind (messageWriteUint16_succeeds _) (messageWriteUint16_ofNat_puts _)
    (fun _ _ hfit => ?_) hfit
  by_cases h0 : str.len > 0
  · rw [if_pos h0]
    exact messageWriteVal_succeeds (fun v pos => bufferVecCopyFromBytes_eq v pos str.addressable
      (List.length_pos_iff.mp h0)) h0 hfit
  · rw [if_neg h0]
    exact SucceedsTo.pure _

theorem messageWriteMagic_succeeds (hfit : o + [0x52, 0x52, 0x41, 0x43].length ≤ e) :
    SucceedsTo BufferVec.bytes e (messageWriteMagic o) := by
  have hmod := SizeT.le_modulus
  have haddr : 2 * ([0x52, 0x52, 0x41, 0x43] : List UInt8).length < SizeT.modulus := by
    simp only [List.length_cons, List.length_nil]
    omega
  exact messageWriteVal_succeeds (fun v pos => bufferVecCopyFromBytes_eq v pos haddr (by decide))
    (by decide) hfit

theorem messageWriteNodeid_succeeds (id : NodeId) (hfit : o + id.data.length ≤ e) :
    SucceedsTo BufferVec.bytes e (messageWriteNodeid id o) := by
  have hmod := SizeT.le_modulus
  have hlen := id.length_data
  have hcopy (v : BufferVec) (pos : Nat) :
      bufferVecCopyFromUint8Array v pos id.data 0 16 = v.store pos id.data := by
    rw [← bufferVecCopyFromBytes_eq v pos (by omega) (List.ne_nil_of_length_pos (by omega)),
      bufferVecCopyFromUint8Array, hlen]
  exact messageWriteVal_succeeds hcopy (by omega) hfit

/-! ## Headers -/

/-- A version 2 message header that passes the checks. Its size has a field of two bytes. -/
structure MessageHeaderOf.Passes2 (header : MessageConstHeader) : Prop where
  size_le : header.senderNodename.len + header.receiverNodename.len + header.metadata.len + 64 ≤
    UINT16_MAX
  count_le : header.entryCount.toNat ≤ UINT16_MAX

theorem messageWriterWriteHeader2Ex_succeeds {header : MessageConstHeader} (h : header.Passes2)
    (hfit : o + (messageHeader2Bytes header (messageHeader2Size header) 0).length ≤ e) :
    SucceedsTo BufferVec.bytes e (messageWriterWriteHeader2Ex header o) := by
  have hmod := SizeT.le_modulus
  have hsize := h.size_le
  have hmax : UINT16_MAX = 65535 := rfl
  unfold messageWriterWriteHeader2Ex
  refine SucceedsTo.writer_bind (failIf_writing_succeeds ?_) (failIf_puts _) fun _ _ => ?_
  · rw [addSz_eq (by omega : header.senderNodename.len + header.receiverNodename.len < SizeT.modulus),
      addSz_eq (by omega : header.senderNodename.len + header.receiverNodename.len +
        header.metadata.len < SizeT.modulus), addSz_eq (by omega)]
    omega
  refine SucceedsTo.get_bind ?_
  refine SucceedsTo.puts_bind messageWriteMagic_succeeds messageWriteMagic_puts
    (fun _ _ hfit => ?_) hfit
  refine SucceedsTo.puts_bind (messageWriteUint32_succeeds 0) (messageWriteUint32_puts 0)
    (fun _ _ hfit => ?_) hfit
  refine SucceedsTo.puts_bind (messageWriteUint16_succeeds 2) (messageWriteUint16_puts 2)
    (fun _ _ hfit => ?_) hfit
  refine SucceedsTo.puts_bind (messageWriteUint16_succeeds _) (messageWriteUint16_puts _)
    (fun _ _ hfit => ?_) hfit
  refine SucceedsTo.puts_bind (messageWriteNodeid_succeeds _) (messageWriteNodeid_puts _)
    (fun _ _ hfit => ?_) hfit
  refine SucceedsTo.puts_bind (messageWriteNodeid_succeeds _) (messageWriteNodeid_puts _)
    (fun _ _ hfit => ?_) hfit
  refine SucceedsTo.puts_bind (messageWriteUint32_succeeds _) (messageWriteUint32_puts _)
    (fun _ _ hfit => ?_) hfit
  refine SucceedsTo.puts_bind (messageWriteUint32_succeeds _) (messageWriteUint32_puts _)
    (fun _ _ hfit => ?_) hfit
  have hlen {str : ConstString} (hle : str.len ≤ 65535) : str.len ≤ UINT32_MAX :=
    Nat.le_trans hle (by decide)
  refine SucceedsTo.puts_bind (messageWriteHeaderStringWithLenPrefix2_succeeds (hlen (by omega)))
    (messageWriteHeaderStringWithLenPrefix2_puts _) (fun _ _ hfit => ?_) hfit
  refine SucceedsTo.puts_bind (messageWriteHeaderStringWithLenPrefix2_succeeds (hlen (by omega)))
    (messageWriteHeaderStringWithLenPrefix2_puts _) (fun _ _ hfit => ?_) hfit
  refine SucceedsTo.puts_bind (messageWriteHeaderStringWithLenPrefix2_succeeds (hlen (by omega)))
    (messageWriteHeaderStringWithLenPrefix2_puts _) (fun _ _ hfit => ?_) hfit
  refine SucceedsTo.get_bind ?_
  refine SucceedsTo.writer_bind (failIf_writing_succeeds (Nat.not_lt.mpr h.count_le)) (failIf_puts _)
    fun _ _ => ?_
  refine SucceedsTo.puts_bind (messageWriteUint16_succeeds _) (messageWriteUint16_toUInt16_puts _)
    (fun _ _ hfit => ?_) hfit
  refine SucceedsTo.puts_bind (messageWriteUint16_succeeds _) (messageWriteUint16_puts _)
    (fun _ _ hfit => ?_) hfit
  refine SucceedsTo.puts_bind (messageWriteUint16_succeeds _) (messageWriteUint16_puts _)
    (fun _ _ hfit => ?_) hfit
  exact SucceedsTo.get_bind (SucceedsTo.pure _)

theorem messageEntryWriterWriteHeader2Ex_succeeds (entryWriter : MessageEntryWriter)
    {header : MessageEntryConstHeader} (hstrings : header.StringsWithin UINT32_MAX)
    (hfit : o + (messageEntryHeader2Bytes header 0 0).length ≤ e) :
    SucceedsTo BufferVec.bytes e (messageEntryWriterWriteHeader2Ex entryWriter header o) := by
  obtain ⟨hpath, hmember, hmeta⟩ := hstrings
  unfold messageEntryWriterWriteHeader2Ex
  refine SucceedsTo.get_bind ?_
  refine SucceedsTo.puts_bind (messageWriteUint32_succeeds 0) (messageWriteUint32_puts 0)
    (fun _ _ hfit => ?_) hfit
  refine SucceedsTo.puts_bind (messageWriteUint16_succeeds _) (messageWriteUint16_puts _)
    (fun _ _ hfit => ?_) hfit
  refine SucceedsTo.puts_bind (messageWriteUint16_succeeds 0) (messageWriteUint16_puts 0)
    (fun _ _ hfit => ?_) hfit
  refine SucceedsTo.puts_bind (messageWriteHeaderStringWithLenPrefix2_succeeds hpath)
    (messageWriteHeaderStringWithLenPrefix2_puts _) (fun _ _ hfit => ?_) hfit
  refine SucceedsTo.puts_bind (messageWriteHeaderStringWithLenPrefix2_succeeds hmember)
    (messageWriteHeaderStringWithLenPrefix2_puts _) (fun _ _ hfit => ?_) hfit
  refine SucceedsTo.puts_bind (messageWriteUint32_succeeds _) (messageWriteUint32_puts _)
    (fun _ _ hfit => ?_) hfit
  refine SucceedsTo.puts_bind (messageWriteUint16_succeeds _) (messageWriteUint16_puts _)
    (fun _ _ hfit => ?_) hfit
  refine SucceedsTo.puts_bind (messageWriteHeaderStringWithLenPrefix2_succeeds hmeta)
    (messageWriteHeaderStringWithLenPrefix2_puts _) (fun _ _ hfit => ?_) hfit
  refine SucceedsTo.get_bind ?_
  refine SucceedsTo.puts_bind (messageWriteUint16_succeeds 0) (messageWriteUint16_puts 0)
    (fun _ _ hfit => ?_) hfit
  exact SucceedsTo.get_bind (SucceedsTo.pure _)

theorem messageElementWriterWriteHeader2Ex_succeeds (elementWriter : MessageElementWriter)
    {header : MessageElementConstHeader} (hstrings : header.StringsWithin UINT32_MAX)
    (hfit : o + (messageElementHeader2Bytes header 0 0).length ≤ e) :
    SucceedsTo BufferVec.bytes e (messageElementWriterWriteHeader2Ex elementWriter header o) := by
  obtain ⟨hname, htypeName, hmeta⟩ := hstrings
  unfold messageElementWriterWriteHeader2Ex
  refine SucceedsTo.get_bind ?_
  refine SucceedsTo.puts_bind (messageWriteUint32_succeeds 0) (messageWriteUint32_puts 0)
    (fun _ _ hfit => ?_) hfit
  refine SucceedsTo.get_bind ?_
  refine SucceedsTo.puts_bind (messageWriteHeaderStringWithLenPrefix2_succeeds hname)
    (messageWriteHeaderStringWithLenPrefix2_puts _) (fun _ _ hfit => ?_) hfit
  refine SucceedsTo.puts_bind (messageWriteUint16_succeeds _) (messageWriteUint16_puts _)
    (fun _ _ hfit => ?_) hfit
  refine SucceedsTo.puts_bind (messageWriteHeaderStringWithLenPrefix2_succeeds htypeName)
    (messageWriteHeaderStringWithLenPrefix2_puts _) (fun _ _ hfit => ?_) hfit
  refine SucceedsTo.puts_bind (messageWriteHeaderStringWithLenPrefix2_succeeds hmeta)
    (messageWriteHeaderStringWithLenPrefix2_puts _) (fun _ _ hfit => ?_) hfit
  refine SucceedsTo.get_bind ?_
  refine SucceedsTo.puts_bind (messageWriteUint32_succeeds 0) (messageWriteUint32_puts 0)
    (fun _ _ hfit => ?_) hfit
  exact SucceedsTo.get_bind (SucceedsTo.pure _)

/-- The header of an element with data states the size. -/
theorem messageElementWriterWriteDataHeader2Ex_succeeds {elementName : ConstString}
    {dataLen dataElemSize : Nat} (dataType : UInt16) (hname : elementName.len ≤ UINT16_MAX)
    (hsize : messageElementData2Size elementName dataLen dataElemSize ≤ UINT32_MAX)
    (hmany : dataLen ≤ UINT32_MAX)
    (hfit : o + (messageElementDataHeader2Bytes elementName dataLen dataType
      (messageElementData2Size elementName dataLen dataElemSize)).length ≤ e) :
    SucceedsTo BufferVec.bytes e
      (messageElementWriterWriteDataHeader2Ex elementName dataLen dataType dataElemSize o) := by
  unfold messageElementWriterWriteDataHeader2Ex
  refine SucceedsTo.writer_bind (failIf_writing_succeeds (Nat.not_lt.mpr hname)) (failIf_puts _)
    fun _ _ => ?_
  refine SucceedsTo.writer_bind (failIf_writing_succeeds (Nat.not_lt.mpr hsize)) (failIf_puts _)
    fun _ _ => ?_
  refine SucceedsTo.get_bind ?_
  refine SucceedsTo.puts_bind (messageWriteUint32_succeeds _) (messageWriteUint32_ofNat_puts _)
    (fun _ _ hfit => ?_) hfit
  refine SucceedsTo.get_bind ?_
  refine SucceedsTo.puts_bind
    (messageWriteHeaderStringWithLenPrefix2_succeeds (Nat.le_trans hname (by decide)))
    (messageWriteHeaderStringWithLenPrefix2_puts _) (fun _ _ hfit => ?_) hfit
  refine SucceedsTo.puts_bind (messageWriteUint16_succeeds _) (messageWriteUint16_puts _)
    (fun _ _ hfit => ?_) hfit
  refine SucceedsTo.puts_bind (messageWriteUint16_succeeds 0) (messageWriteUint16_puts 0)
    (fun _ _ hfit => ?_) hfit
  refine SucceedsTo.puts_bind (messageWriteUint16_succeeds 0) (messageWriteUint16_puts 0)
    (fun _ _ hfit => ?_) hfit
  refine SucceedsTo.writer_bind (failIf_writing_succeeds (Nat.not_lt.mpr hmany)) (failIf_puts _)
    fun _ _ => ?_
  refine SucceedsTo.get_bind ?_
  refine SucceedsTo.puts_bind (messageWriteUint32_succeeds _) (messageWriteUint32_ofNat_puts _)
    (fun _ _ hfit => ?_) hfit
  exact SucceedsTo.get_bind (SucceedsTo.pure _)

/-! ## Elements -/

mutual

/-- No array is empty. What becomes of an empty one depends on the pieces of the buffer. -/
def ElementTree.Filled : ElementTree → Prop
  | .data _ _ data => 0 < data.len
  | .nested _ children => ElementsFilled children

def ElementsFilled : List ElementTree → Prop
  | [] => True
  | element :: elements => element.Filled ∧ ElementsFilled elements

end

theorem elementsFilled_iff {elements : List ElementTree} :
    ElementsFilled elements ↔ ∀ element ∈ elements, element.Filled := by
  induction elements with
  | nil => simp [ElementsFilled]
  | cons element elements ih => rw [ElementsFilled, ih, List.forall_mem_cons]

theorem messageElementWriterWriteRaw_succeeds {elementWriter : MessageElementWriter}
    {elementName : ConstString} {data : CArray} {dataType : UInt16}
    (hver : elementWriter.messageVersion = 2)
    (hroom : elementWriter.elementsWrittenCount < UINT32_MAX) (h0 : 0 < data.len)
    (hwritten : (ElementTree.data elementName dataType data).Written 2)
    (hfit : elementWriter.bufferOffset +
      (messageElementDataBytes 2 elementName data dataType).length ≤ e) :
    SucceedsTo BufferVec.bytes e (messageElementWriterWriteRaw elementWriter elementName data.data
      data.len dataType data.elemSize) := by
  obtain ⟨hsize, hmax, -, hmany, hname⟩ := hwritten
  rw [← hsize, messageElementDataSize, if_pos rfl] at hmax
  rw [messageElementDataBytes, messageElementDataHeaderBytes, if_pos rfl, List.length_append,
    ← Nat.add_assoc] at hfit
  unfold messageElementWriterWriteRaw
  rw [if_pos hver]
  refine SucceedsTo.bind (failIf_succeeds (not_not.mpr hroom)) (failIf_putsAt _ (o := 0))
    fun _ _ => ?_
  have hheader := messageElementWriterWriteDataHeader2Ex_succeeds dataType (hname rfl) hmax hmany
    (Nat.le_of_add_right_le hfit)
  have hput : Puts BufferVec.bytes elementWriter.bufferOffset _ _
      (messageElementWriterWriteDataHeader2Ex elementName data.len dataType data.elemSize) :=
    messageElementWriterWriteDataHeader2Ex_puts rfl
  refine SucceedsTo.bind (hheader.run' hput) hput.run' fun r hr => ?_
  obtain ⟨hstart, -⟩ := hr
  dsimp only
  rw [hstart]
  have hlen := data.len_le
  exact SucceedsTo.bind (bufferUpdate_succeeds (fun v => bufferVecCopyFromMem_eq v _ data h0)
    (by omega) hfit) (bufferUpdate_fromMem_putsAt data) fun _ _ => SucceedsTo.pure _

theorem messageElementWriterBeginNestedElement_succeeds {elementWriter : MessageElementWriter}
    {header : MessageElementConstHeader} (nestedElementWriter : MessageElementWriter)
    (hver : elementWriter.messageVersion = 2)
    (hroom : elementWriter.elementsWrittenCount < UINT32_MAX)
    (hstrings : header.StringsWithin UINT32_MAX)
    (hfit : elementWriter.bufferOffset + (messageElementHeaderBytes 2 header 0 0).length ≤ e) :
    SucceedsTo BufferVec.bytes e
      (messageElementWriterBeginNestedElement elementWriter header nestedElementWriter) := by
  rw [messageElementHeaderBytes, if_pos rfl] at hfit
  unfold messageElementWriterBeginNestedElement
  rw [if_pos hver]
  refine SucceedsTo.bind (failIf_succeeds (not_not.mpr hroom)) (failIf_putsAt _ (o := 0))
    fun _ _ => ?_
  have hput := messageElementWriterWriteHeader2Ex_puts elementWriter header rfl
  exact SucceedsTo.bind
    ((messageElementWriterWriteHeader2Ex_succeeds elementWriter hstrings hfit).run' hput) hput.run'
    fun _ _ => SucceedsTo.pure _

/-- The size and the count have places in the header that was written. -/
theorem messageElementWriterEndNestedElement_succeeds {parent : MessageElementWriter}
    (child : MessageElementWriter) (hver : parent.messageVersion = 2)
    (hmax : addSz parent.elementHeaderSize child.elementsWrittenSize ≤ UINT32_MAX)
    (hsize : parent.elementSizeOffset + 4 ≤ e) (hcount : parent.dataCountOffset + 4 ≤ e) :
    SucceedsTo BufferVec.bytes e (messageElementWriterEndNestedElement parent child) := by
  unfold messageElementWriterEndNestedElement
  simp only [if_pos hver]
  refine SucceedsTo.bind (failIf_succeeds (Nat.not_lt.mpr hmax)) (failIf_putsAt _ (o := 0))
    fun _ _ => ?_
  have hwrite {o : Nat} (val : UInt32) (hfit : o + 4 ≤ e) :
      SucceedsTo BufferVec.bytes e (StateT.run' (messageWriteUint32 val) o) :=
    (messageWriteUint32_succeeds val (n := 0) (by rwa [length_leBytes])).run'
      (messageWriteUint32_puts val)
  refine SucceedsTo.bind (hwrite _ hsize) (messageWriteUint32_puts _).run' fun _ _ => ?_
  exact SucceedsTo.bind (hwrite _ hcount) (messageWriteUint32_puts _).run' fun _ _ =>
    SucceedsTo.pure _

mutual

theorem writeElement_succeeds (unset : MessageElementWriter) {elementWriter : MessageElementWriter}
    (element : ElementTree) (hver : elementWriter.messageVersion = 2)
    (hroom : elementWriter.elementsWrittenCount < UINT32_MAX) (hwritten : element.Written 2)
    (hfilled : element.Filled)
    (hfit : elementWriter.bufferOffset + (elementBytes 2 element).length ≤ e) :
    SucceedsTo BufferVec.bytes e (writeElement unset elementWriter element) := by
  cases element with
  | data elementName dataType data =>
      rw [writeElement]
      exact messageElementWriterWriteRaw_succeeds hver hroom hfilled hwritten hfit
  | nested header children =>
      have hknown : KnownVersion 2 := Or.inl rfl
      have hlong := messageElementHeaderBytes_length hknown header 0 0
      obtain ⟨hstrings, hmany, hmax, hchildren⟩ := hwritten
      rw [elementBytes, List.length_append,
        (messageElementHeaderBytes_sized hknown header).length_eq] at hfit
      rw [writeElement]
      have hbegin := messageElementWriterBeginNestedElement_puts elementWriter header unset rfl
      rw [hver] at hbegin
      refine SucceedsTo.bind (messageElementWriterBeginNestedElement_succeeds unset hver hroom
        hstrings (by omega)) hbegin fun p hp => ?_
      obtain ⟨parent, child⟩ := p
      obtain ⟨-, -, -, hlt, hparent, hchild⟩ := hp
      dsimp only at hparent hchild ⊢
      have hcounting : child.Counting := by
        rw [hchild]
        exact ⟨Nat.zero_le _, Nat.zero_le _, hlt⟩
      have hoffset : child.bufferOffset =
        elementWriter.bufferOffset + (messageElementHeaderBytes 2 header 0 0).length := by rw [hchild]
      have hversion : child.messageVersion = 2 := by rw [hchild]
      have hcount : child.elementsWrittenCount = 0 := by rw [hchild]
      have hsize : child.elementsWrittenSize = 0 := by rw [hchild]
      have hput := writeElements_puts unset child hcounting children
      rw [hversion] at hput
      refine SucceedsTo.bind (writeElements_succeeds unset children hversion hcounting (by omega)
        hchildren hfilled (by omega)) hput fun w hw => ?_
      obtain ⟨-, hadvanced⟩ := hw
      have hheaderSize : parent.elementHeaderSize =
        (messageElementHeaderBytes 2 header 0 0).length := by rw [hparent]
      have hsizeOffset : parent.elementSizeOffset = elementWriter.bufferOffset := by
        rw [hparent, sizeSkip, if_pos rfl, Nat.add_zero]
      have hcountOffset : parent.dataCountOffset =
        elementWriter.bufferOffset + ((messageElementHeaderBytes 2 header 0 0).length - 4) := by
          rw [hparent]
      have hsum : addSz parent.elementHeaderSize w.elementsWrittenSize ≤ UINT32_MAX := by
        have hend := hadvanced.offset_lt
        rw [hadvanced.offset_eq, hoffset] at hend
        rw [hadvanced.size_eq, hsize, hheaderSize, Nat.zero_add, addSz_eq (by omega)]
        exact hmax
      exact messageElementWriterEndNestedElement_succeeds w (by rw [hparent]) hsum (by omega)
        (by omega)

theorem writeElements_succeeds (unset : MessageElementWriter) {elementWriter : MessageElementWriter}
    (elements : List ElementTree) (hver : elementWriter.messageVersion = 2)
    (hw : elementWriter.Counting)
    (hroom : elementWriter.elementsWrittenCount + elements.length ≤ UINT32_MAX)
    (hwritten : ElementsWritten 2 elements) (hfilled : ElementsFilled elements)
    (hfit : elementWriter.bufferOffset + (elementsBytes 2 elements).length ≤ e) :
    SucceedsTo BufferVec.bytes e (writeElements unset elementWriter elements) := by
  cases elements with
  | nil =>
      rw [writeElements]
      exact SucceedsTo.pure _
  | cons element elements =>
      rw [elementsBytes, List.length_append] at hfit
      rw [List.length_cons] at hroom
      rw [writeElements]
      refine SucceedsTo.bind (writeElement_succeeds unset element hver (by omega) hwritten.1
        hfilled.1 (by omega)) (writeElement_puts unset elementWriter element) fun w h => ?_
      obtain ⟨-, -, hmore⟩ := h
      have hadvanced := hmore.advanced hw
      have hoffset := hadvanced.offset_eq
      have hcount := hadvanced.count_eq
      rw [hver] at hoffset
      refine writeElements_succeeds unset elements (hadvanced.version_eq.trans hver)
        (hadvanced.counting hw) (by omega) hwritten.2 hfilled.2 (by omega)

end

/-! ## Entries and messages -/

theorem messageEntryWriterBeginEntry_succeeds {entryWriter : MessageEntryWriter}
    {header : MessageEntryConstHeader} (elementWriter : MessageElementWriter)
    (hver : entryWriter.messageVersion = 2) (hroom : entryWriter.entriesWrittenCount < UINT16_MAX)
    (hstrings : header.StringsWithin UINT32_MAX)
    (hfit : entryWriter.bufferOffset + (messageEntryHeaderBytes 2 header 0 0).length ≤ e) :
    SucceedsTo BufferVec.bytes e (messageEntryWriterBeginEntry entryWriter header elementWriter) := by
  rw [messageEntryHeaderBytes, if_pos rfl] at hfit
  unfold messageEntryWriterBeginEntry
  rw [if_pos hver]
  refine SucceedsTo.bind (failIf_succeeds (not_not.mpr hroom)) (failIf_putsAt _ (o := 0))
    fun _ _ => ?_
  have hput := messageEntryWriterWriteHeader2Ex_puts entryWriter header rfl
  exact SucceedsTo.bind
    ((messageEntryWriterWriteHeader2Ex_succeeds entryWriter hstrings hfit).run' hput) hput.run'
    fun _ _ => SucceedsTo.pure _

/-- Nothing is checked here. -/
theorem messageEntryWriterEndEntry_succeeds {begun : MessageEntryWriter}
    (elementWriter : MessageElementWriter) (hver : begun.messageVersion = 2)
    (hsize : begun.entrySizeOffset + 4 ≤ e) (hcount : begun.elementCountOffset + 2 ≤ e) :
    SucceedsTo BufferVec.bytes e (messageEntryWriterEndEntry begun elementWriter) := by
  unfold messageEntryWriterEndEntry
  simp only [if_pos hver]
  refine SucceedsTo.bind (SucceedsTo.run' (messageWriteUint32_succeeds _ (n := 0) ?_)
    (messageWriteUint32_puts _)) (messageWriteUint32_puts _).run' fun _ _ => ?_
  · rwa [length_leBytes]
  refine SucceedsTo.bind (SucceedsTo.run' (messageWriteUint16_succeeds _ (n := 0) ?_)
    (messageWriteUint16_puts _)) (messageWriteUint16_puts _).run' fun _ _ => SucceedsTo.pure _
  rwa [length_leBytes]

/-- An entry is written wherever there is room for it, however large it is. -/
theorem writeEntry_succeeds (unset : MessageElementWriter) (entryWriter : MessageEntryWriter)
    (entry : EntryTree) (hver : entryWriter.messageVersion = 2)
    (hroom : entryWriter.entriesWrittenCount < UINT16_MAX) (hwritten : entry.Written 2)
    (hfilled : ElementsFilled entry.elements)
    (hfit : entryWriter.bufferOffset + (entryBytes 2 entry).length ≤ e) :
    SucceedsTo BufferVec.bytes e (writeEntry unset entryWriter entry) := by
  obtain ⟨header, elements⟩ := entry
  obtain ⟨hknown, hstrings, helements, hmany⟩ := hwritten
  have hlong := messageEntryHeaderBytes_length hknown header 0 0
  rw [entryBytes_length hknown] at hfit
  dsimp only at hfit hmany hstrings helements
  unfold writeEntry
  dsimp only
  have hbegin := messageEntryWriterBeginEntry_puts entryWriter header unset rfl
  rw [hver] at hbegin
  refine SucceedsTo.bind (messageEntryWriterBeginEntry_succeeds unset hver hroom hstrings
    (by omega)) hbegin fun p hp => ?_
  obtain ⟨begun, child⟩ := p
  obtain ⟨-, -, -, hlt, hbegun, hchild⟩ := hp
  dsimp only at hbegun hchild ⊢
  have hcounting : child.Counting := by
    rw [hchild]
    exact ⟨Nat.zero_le _, Nat.zero_le _, hlt⟩
  have hoffset : child.bufferOffset =
    entryWriter.bufferOffset + (messageEntryHeaderBytes 2 header 0 0).length := by rw [hchild]
  have hcount : child.elementsWrittenCount = 0 := by rw [hchild]
  have hput := writeElements_puts unset child hcounting elements
  refine SucceedsTo.bind (writeElements_succeeds unset elements (by rw [hchild]) hcounting
    (by omega) helements hfilled (by omega)) hput fun w _ => ?_
  have hsizeOffset : begun.entrySizeOffset = entryWriter.bufferOffset := by
    rw [hbegun, sizeSkip, if_pos rfl, Nat.add_zero]
  have hcountOffset : begun.elementCountOffset =
    entryWriter.bufferOffset + ((messageEntryHeaderBytes 2 header 0 0).length - 2) := by
      rw [hbegun, countWidth, if_pos rfl]
  exact messageEntryWriterEndEntry_succeeds w (by rw [hbegun]) (by omega) (by omega)

theorem messageWriterBeginMessageEx_succeeds {writer : MessageWriter} {header : MessageConstHeader}
    (entryWriter : MessageEntryWriter) (messageFlagsMask : BitVec 8)
    (hver : writer.messageVersion = 2) (hpasses : header.Passes2)
    (hfit : writer.bufferOffset + (messageHeaderBytes 2 header messageFlagsMask 0).length ≤ e) :
    SucceedsTo BufferVec.bytes e
      (messageWriterBeginMessageEx writer header entryWriter messageFlagsMask) := by
  rw [messageHeaderBytes, if_pos rfl] at hfit
  unfold messageWriterBeginMessageEx
  rw [if_pos hver]
  exact SucceedsTo.bind ((messageWriterWriteHeader2Ex_succeeds hpasses hfit).run'
    (messageWriterWriteHeader2Ex_puts header)) (messageWriterWriteHeader2Ex_puts header).run'
    fun _ _ => SucceedsTo.pure _

theorem messageWriterEndMessage_succeeds {writer : MessageWriter} {header : MessageConstHeader}
    {entryWriter : MessageEntryWriter} (hver : writer.messageVersion = 2)
    (hmax : addSz entryWriter.entriesWrittenSize header.headerSize.toNat ≤ UINT32_MAX)
    (hsize : writer.messageSizeOffset + 4 ≤ e) (hcount : writer.entryCountOffset + 2 ≤ e)
    (hcounted : writer.entryCountOffset ≠ sizeTMax) :
    SucceedsTo BufferVec.bytes e (messageWriterEndMessage writer header entryWriter) := by
  unfold messageWriterEndMessage
  simp only [if_pos hver, if_pos hcounted]
  refine SucceedsTo.bind (failIf_succeeds (Nat.not_lt.mpr hmax)) (failIf_putsAt _ (o := 0))
    fun _ _ => ?_
  refine SucceedsTo.bind (bufferUpdate_succeeds (fun v => bufferVecCopyFromUInt_eq v _ _ (by decide)
    (by decide)) (by rw [length_leBytes]; decide) (by rwa [length_leBytes]))
    (bufferUpdate_uint32_putsAt _) fun _ _ => ?_
  refine SucceedsTo.bind (SucceedsTo.run' (messageWriteUint16_succeeds _ (n := 0) ?_)
    (messageWriteUint16_puts _)) (messageWriteUint16_puts _).run' fun _ _ => SucceedsTo.pure _
  rwa [length_leBytes]

end

end RobotRaconteurLite

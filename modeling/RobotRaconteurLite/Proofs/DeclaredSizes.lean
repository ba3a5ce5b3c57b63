import RobotRaconteurLite.Lib.OffsetReader
import RobotRaconteurLite.Proofs.RoomEnough

/-!
# Sizes that count themselves

A version 4 header states its size in a number of variable width, and the size
counts that number. The writer adds up what each section will take before it
writes any of them, and compares the sum with what was written at the end. The
two agree: a sum that wrapped belongs to a header that no buffer has room for.

The size of an element counts its data too, of which nothing is written with the
header. So that sum may wrap, and then the element states too little.
-/

namespace RobotRaconteurLite

open OffsetWriter LittleEndian Splice

section

variable [SizeT] {o hi : Nat}

/-! ## How a writer fails -/

/-- The status of every failure of a writer. -/
def OutOfRange (e : Status) : Prop := e = .outOfRange

theorem BufferVec.store_fails {v : BufferVec} {pos : Nat} {bs : List UInt8} {e : Status}
    (h : v.store pos bs = .error e) : OutOfRange e := by
  rw [BufferVec.store] at h
  split at h
  · cases h
  · cases h
    rfl

theorem messageWriteVal_fails {α : Type} {copy : BufferVec → Nat → α → Result BufferVec}
    {size : Nat} {val : α} {bs : List UInt8} (hcopy : ∀ v pos, copy v pos val = v.store pos bs) :
    FailsWith BufferVec.bytes hi OutOfRange (messageWriteVal copy size val o) := by
  intro v _ e herror
  rw [messageWriteVal, buffered_bind_apply, bufferUpdate, ExceptT.mk, hcopy] at herror
  cases hstore : v.store o bs with
  | error e' =>
      rw [hstore] at herror
      cases herror
      exact BufferVec.store_fails hstore
  | ok w =>
      rw [hstore] at herror
      cases herror

theorem messageWriteUInt_fails {α : Type} {copy : BufferVec → Nat → α → Result BufferVec}
    {size : Nat} {val : α} {n : Nat} (h0 : 0 < size) (h : size ≤ 16)
    (hcopy : ∀ v pos, copy v pos val = bufferVecCopyFromUInt v pos size n) :
    FailsWith BufferVec.bytes hi OutOfRange (messageWriteVal copy size val o) :=
  messageWriteVal_fails fun v pos => (hcopy v pos).trans (bufferVecCopyFromUInt_eq v pos n h0 h)

theorem messageWriteUint32_fails (val : UInt32) :
    FailsWith BufferVec.bytes hi OutOfRange (messageWriteUint32 val o) :=
  messageWriteUInt_fails (by decide) (by decide) fun _ _ => rfl

theorem messageWriteUint16_fails (val : UInt16) :
    FailsWith BufferVec.bytes hi OutOfRange (messageWriteUint16 val o) :=
  messageWriteUInt_fails (by decide) (by decide) fun _ _ => rfl

theorem messageWriteUint8_fails (val : UInt8) :
    FailsWith BufferVec.bytes hi OutOfRange (messageWriteUint8 val o) :=
  messageWriteUInt_fails (by decide) (by decide) fun _ _ => rfl

theorem messageWriteUintX_fails (val : UInt32) :
    FailsWith BufferVec.bytes hi OutOfRange (messageWriteUintX val o) := by
  unfold messageWriteUintX
  split
  · exact messageWriteUint8_fails _
  · split
    · exact FailsWith.bind (messageWriteUint8_fails 253) (messageWriteUint8_puts 253)
        fun _ _ => messageWriteUint16_fails _
    · exact FailsWith.bind (messageWriteUint8_fails 254) (messageWriteUint8_puts 254)
        fun _ _ => messageWriteUint32_fails _

theorem failIf_fails {p : Prop} [Decidable p] :
    FailsWith BufferVec.bytes hi OutOfRange ((failIf p .outOfRange : Writing Unit) o) := by
  unfold failIf
  split
  · exact FailsWith.throw rfl
  · exact FailsWith.pure _

theorem liftResult_fails {α : Type} {r : Result α} (h : ∀ e, r = .error e → OutOfRange e) :
    FailsWith BufferVec.bytes hi OutOfRange (liftResult r o) := by
  cases r with
  | ok a => exact FailsWith.pure _
  | error e => exact FailsWith.throw (h e rfl)

theorem messageWriteHeaderStringWithLenPrefix4_fails (str : ConstString) :
    FailsWith BufferVec.bytes hi OutOfRange (messageWriteHeaderStringWithLenPrefix4 str o) := by
  unfold messageWriteHeaderStringWithLenPrefix4 messageWriteHeaderString
  refine FailsWith.nil_bind failIf_fails (failIf_puts _) fun _ _ => ?_
  refine FailsWith.bind (messageWriteUintX_fails _) (messageWriteUintX_puts _) fun _ _ => ?_
  by_cases h0 : str.len > 0
  · rw [if_pos h0]
    exact messageWriteVal_fails fun v pos => bufferVecCopyFromBytes_eq v pos str.addressable
      (List.length_pos_iff.mp h0)
  · rw [if_neg h0]
    exact FailsWith.pure _

theorem writeIf_fails {present : Bool} {write : Writing Unit}
    (h : FailsWith BufferVec.bytes hi OutOfRange (write o)) :
    FailsWith BufferVec.bytes hi OutOfRange (writeIf present write o) := by
  cases present with
  | true => exact h
  | false => exact FailsWith.pure _

theorem messageWriteMagic_fails : FailsWith BufferVec.bytes hi OutOfRange (messageWriteMagic o) := by
  have hmod := SizeT.le_modulus
  have haddr : 2 * ([0x52, 0x52, 0x41, 0x43] : List UInt8).length < SizeT.modulus := by
    simp only [List.length_cons, List.length_nil]
    omega
  exact messageWriteVal_fails fun v pos => bufferVecCopyFromBytes_eq v pos haddr (by decide)

theorem messageWriteNodeid_fails (id : NodeId) :
    FailsWith BufferVec.bytes hi OutOfRange (messageWriteNodeid id o) := by
  have hmod := SizeT.le_modulus
  have hlen := id.length_data
  have hcopy (v : BufferVec) (pos : Nat) :
      bufferVecCopyFromUint8Array v pos id.data 0 16 = v.store pos id.data := by
    rw [← bufferVecCopyFromBytes_eq v pos (by omega) (List.ne_nil_of_length_pos (by omega)),
      bufferVecCopyFromUint8Array, hlen]
  exact messageWriteVal_fails hcopy

theorem messageHeaderStringWithLenPrefixSize4_fails {str : ConstString} {e : Status}
    (h : messageHeaderStringWithLenPrefixSize4 str = .error e) : OutOfRange e := by
  unfold messageHeaderStringWithLenPrefixSize4 failIf at h
  split at h
  · cases h
    exact rfl
  · cases h

omit [SizeT] in
theorem messageLenPlusUintX_fails {dataLen : UInt32} {e : Status}
    (h : messageLenPlusUintX dataLen = .error e) : OutOfRange e := by
  unfold messageLenPlusUintX at h
  split at h
  · cases h
  · split at h
    · cases h
    · split at h
      · cases h
      · cases h
        exact rfl

/-! ## The size of a header -/

/-- What the sections of a version 4 header take, of the sizes of its strings. The number
that counts them is not among them. -/
def headerSections (header : MessageConstHeader) (flags : BitVec 8) (s1 s2 s3 : Nat) : Nat :=
  11 + (if flagsCheck flags MESSAGE_FLAGS_ROUTING_INFO then 32 + s1 + s2 else 0) +
  (if flagsCheck flags MESSAGE_FLAGS_ENDPOINT_INFO then
      messageUintXSize header.senderEndpoint + messageUintXSize header.receiverEndpoint else 0) +
  (if flagsCheck flags MESSAGE_FLAGS_PRIORITY then 2 else 0) +
  (if flagsCheck flags MESSAGE_FLAGS_META_INFO then s3 + 4 else 0) +
  if flagsCheck flags MESSAGE_FLAGS_MULTIPLE_ENTRIES then 5 else 0

/-- The size of a string that is written when a flag says so. -/
def stringSectionSize (present : Bool) (str : ConstString) : Nat :=
  (fieldBytes present (string4Bytes str)).length

/-- The same with the strings the header has. -/
def messageHeader4SectionsSize (header : MessageConstHeader) (flags : BitVec 8) : Nat :=
  headerSections header flags
    (stringSectionSize (flagsCheck flags MESSAGE_FLAGS_ROUTING_INFO) header.senderNodename)
    (stringSectionSize (flagsCheck flags MESSAGE_FLAGS_ROUTING_INFO) header.receiverNodename)
    (stringSectionSize (flagsCheck flags MESSAGE_FLAGS_META_INFO) header.metadata)

theorem length_messageHeader4Bytes (header : MessageConstHeader) (flags : BitVec 8)
    (headerSize : UInt32) (messageSize : Nat) :
    (messageHeader4Bytes header flags headerSize messageSize).length =
      messageHeader4SectionsSize header flags + messageUintXSize headerSize := by
  simp only [messageHeader4Bytes, messageHeader4SectionsSize, headerSections, stringSectionSize,
    List.flatten_cons, List.flatten_nil, List.length_append, List.length_nil, List.length_cons,
    length_leBytes, length_uintXBytes, length_fieldBytes, length_paddedUintXBytes,
    NodeId.length_data]
  cases flagsCheck flags MESSAGE_FLAGS_ROUTING_INFO <;>
    cases flagsCheck flags MESSAGE_FLAGS_ENDPOINT_INFO <;>
    cases flagsCheck flags MESSAGE_FLAGS_META_INFO <;>
    simp only [if_true, if_false, Bool.false_eq_true] <;> omega

theorem messageHeaderStringWithLenPrefixSize4_eq {str : ConstString} {s : Nat}
    (h : messageHeaderStringWithLenPrefixSize4 str = .ok s)
    (hlt : (string4Bytes str).length < SizeT.modulus) : s = (string4Bytes str).length := by
  rw [length_string4Bytes] at hlt ⊢
  unfold messageHeaderStringWithLenPrefixSize4 failIf at h
  split at h
  · cases h
  · cases h
    exact addSz_eq hlt

/-- The sum of the sections as the writer adds it up, with the sizes of the strings. -/
def sectionsSz (header : MessageConstHeader) (flags : BitVec 8) (s1 s2 s3 : Nat) : Nat :=
  let headerSize := if flagsCheck flags MESSAGE_FLAGS_ROUTING_INFO then
    addSz (addSz (addSz 11 32) s1) s2 else 11
  let headerSize := if flagsCheck flags MESSAGE_FLAGS_ENDPOINT_INFO then
    addSz (addSz headerSize (messageUintXSize header.senderEndpoint))
      (messageUintXSize header.receiverEndpoint) else headerSize
  let headerSize := if flagsCheck flags MESSAGE_FLAGS_PRIORITY then addSz headerSize 2 else headerSize
  let headerSize := if flagsCheck flags MESSAGE_FLAGS_META_INFO then
    addSz (addSz headerSize s3) 4 else headerSize
  if flagsCheck flags MESSAGE_FLAGS_MULTIPLE_ENTRIES then addSz headerSize 5 else headerSize

/-- The size of a string that is written when a flag says so. -/
def stringSizeIf (present : Bool) (str : ConstString) : Result Nat :=
  if present then messageHeaderStringWithLenPrefixSize4 str else .ok 0

theorem stringSizeIf_fails {present : Bool} {str : ConstString} {e : Status}
    (h : stringSizeIf present str = .error e) : OutOfRange e := by
  cases present with
  | true => exact messageHeaderStringWithLenPrefixSize4_fails h
  | false => cases h

theorem stringSizeIf_eq {present : Bool} {str : ConstString} {s : Nat}
    (h : stringSizeIf present str = .ok s) (hlt : stringSectionSize present str < SizeT.modulus) :
    s = stringSectionSize present str := by
  cases present with
  | true => exact messageHeaderStringWithLenPrefixSize4_eq h hlt
  | false =>
      cases h
      rfl

/-- The strings first, and then the sum. -/
theorem messageHeader4Size_strings (header : MessageConstHeader) (flags : BitVec 8) :
    messageHeader4Size header flags =
      (stringSizeIf (flagsCheck flags MESSAGE_FLAGS_ROUTING_INFO) header.senderNodename >>= fun s1 =>
        stringSizeIf (flagsCheck flags MESSAGE_FLAGS_ROUTING_INFO) header.receiverNodename >>=
          fun s2 => stringSizeIf (flagsCheck flags MESSAGE_FLAGS_META_INFO) header.metadata >>=
            fun s3 => pure (sectionsSz header flags s1 s2 s3)) := by
  unfold messageHeader4Size sectionsSz stringSizeIf
  generalize flagsCheck flags MESSAGE_FLAGS_ROUTING_INFO = routing
  generalize flagsCheck flags MESSAGE_FLAGS_META_INFO = metaFlag
  generalize flagsCheck flags MESSAGE_FLAGS_MULTIPLE_ENTRIES = multiple
  cases routing <;> cases metaFlag <;> cases multiple <;> rfl

theorem messageHeader4Size_fails {header : MessageConstHeader} {flags : BitVec 8} {e : Status}
    (h : messageHeader4Size header flags = .error e) : OutOfRange e := by
  rw [messageHeader4Size_strings] at h
  cases h1 : stringSizeIf (flagsCheck flags MESSAGE_FLAGS_ROUTING_INFO) header.senderNodename with
  | error e1 =>
      rw [h1] at h
      cases h
      exact stringSizeIf_fails h1
  | ok s1 =>
      cases h2 : stringSizeIf (flagsCheck flags MESSAGE_FLAGS_ROUTING_INFO)
          header.receiverNodename with
      | error e2 =>
          rw [h1, h2] at h
          cases h
          exact stringSizeIf_fails h2
      | ok s2 =>
          cases h3 : stringSizeIf (flagsCheck flags MESSAGE_FLAGS_META_INFO) header.metadata with
          | error e3 =>
              rw [h1, h2, h3] at h
              cases h
              exact stringSizeIf_fails h3
          | ok s3 =>
              rw [h1, h2, h3] at h
              cases h

omit [SizeT] in
theorem ite_size_eq {present : Bool} {n m size : Nat} (f : Nat → Nat) (hn : n = m)
    (h : present = true → f m = m + size) :
    (if present then f n else n) = m + if present then size else 0 := by
  subst hn
  cases present with
  | true => exact h rfl
  | false => rfl

theorem addSz_addSz_eq {a b c : Nat} (h : a + b + c < SizeT.modulus) :
    addSz (addSz a b) c = a + (b + c) := by
  rw [addSz_eq (Nat.lt_of_le_of_lt (Nat.le_add_right _ c) h), addSz_eq h, Nat.add_assoc]

theorem sectionsSz_eq {header : MessageConstHeader} {flags : BitVec 8} {s1 s2 s3 : Nat}
    (hlt : headerSections header flags s1 s2 s3 < SizeT.modulus) :
    sectionsSz header flags s1 s2 s3 = headerSections header flags s1 s2 s3 := by
  unfold headerSections at hlt ⊢
  unfold sectionsSz
  refine ite_size_eq (addSz · 5) ?_ fun hmany => ?_
  · refine ite_size_eq (fun n => addSz (addSz n s3) 4) ?_ fun hmeta => ?_
    · refine ite_size_eq (addSz · 2) ?_ fun hpriority => ?_
      · refine ite_size_eq (fun n => addSz (addSz n _) _) ?_ fun hendpoint => ?_
        · refine ite_size_eq (fun n => addSz (addSz (addSz n 32) s1) s2) rfl fun hrouting => ?_
          rw [if_pos hrouting] at hlt
          rw [addSz_eq (by omega : 11 + 32 < SizeT.modulus), addSz_addSz_eq (by omega)]
          omega
        · rw [if_pos hendpoint] at hlt
          exact addSz_addSz_eq (by omega)
      · rw [if_pos hpriority] at hlt
        exact addSz_eq (by omega)
    · rw [if_pos hmeta] at hlt
      exact addSz_addSz_eq (by omega)
  · rw [if_pos hmany] at hlt
    exact addSz_eq hlt

theorem stringSectionSize_le (header : MessageConstHeader) (flags : BitVec 8) :
    stringSectionSize (flagsCheck flags MESSAGE_FLAGS_ROUTING_INFO) header.senderNodename ≤
      messageHeader4SectionsSize header flags ∧
    stringSectionSize (flagsCheck flags MESSAGE_FLAGS_ROUTING_INFO) header.receiverNodename ≤
      messageHeader4SectionsSize header flags ∧
    stringSectionSize (flagsCheck flags MESSAGE_FLAGS_META_INFO) header.metadata ≤
      messageHeader4SectionsSize header flags := by
  unfold messageHeader4SectionsSize headerSections
  refine ⟨?_, ?_, ?_⟩
  · cases flagsCheck flags MESSAGE_FLAGS_ROUTING_INFO with
    | true => simp only [if_true]; omega
    | false => exact Nat.zero_le _
  · cases flagsCheck flags MESSAGE_FLAGS_ROUTING_INFO with
    | true => simp only [if_true]; omega
    | false => exact Nat.zero_le _
  · cases flagsCheck flags MESSAGE_FLAGS_META_INFO with
    | true => simp only [if_true]; omega
    | false => exact Nat.zero_le _

/-- Where the exact sum fits `size_t`, it is what is added up. -/
theorem messageHeader4Size_eq {header : MessageConstHeader} {flags : BitVec 8} {size : Nat}
    (h : messageHeader4Size header flags = .ok size)
    (hlt : messageHeader4SectionsSize header flags < SizeT.modulus) :
    size = messageHeader4SectionsSize header flags := by
  rw [messageHeader4Size_strings] at h
  obtain ⟨s1, h1, h⟩ := OffsetReader.bind_eq_ok.mp h
  obtain ⟨s2, h2, h⟩ := OffsetReader.bind_eq_ok.mp h
  obtain ⟨s3, h3, h⟩ := OffsetReader.bind_eq_ok.mp h
  cases h
  obtain ⟨hsender, hreceiver, hmeta⟩ := stringSectionSize_le header flags
  rw [stringSizeIf_eq h1 (Nat.lt_of_le_of_lt hsender hlt),
    stringSizeIf_eq h2 (Nat.lt_of_le_of_lt hreceiver hlt),
    stringSizeIf_eq h3 (Nat.lt_of_le_of_lt hmeta hlt)]
  exact sectionsSz_eq hlt

/-! ## The header -/

theorem messageWritePaddedUintX_fails (count : UInt32) :
    FailsWith BufferVec.bytes hi OutOfRange (messageWritePaddedUintX count o) := by
  refine FailsWith.first_bind (List.cons_ne_nil _ _) (messageWriteUint8_fails 254)
    (messageWriteUint8_puts 254) fun _ _ => ?_
  refine FailsWith.get_bind ?_
  exact FailsWith.puts_bind (messageWriteUint32_fails count) (messageWriteUint32_puts count)
    fun _ _ => FailsWith.pure _

/-- A check that cannot go off inside a buffer. -/
theorem failIf_unreached {p : Prop} [Decidable p] {e : Status} (h : o < SizeT.modulus → ¬ p) :
    FailsWith BufferVec.bytes o OutOfRange ((failIf p e : Writing Unit) o) := by
  refine FailsWith.bounded bytes_lt_modulus fun hlt => ?_
  rw [failIf, if_neg (h hlt)]
  exact FailsWith.pure _

/-- The end of a version 4 header fails at most for the entry count. -/
theorem writeHeader4End_fails {α : Type} {start headerSize : Nat} {many : Bool} {count : UInt32}
    {f : Nat → Nat → α}
    (hend : ∀ next, next = o + (fieldBytes many (paddedUintXBytes count)).length →
      next < SizeT.modulus → subSz next start = headerSize) :
    FailsWith BufferVec.bytes o OutOfRange
      ((if many then messageWritePaddedUintX count >>= fun countOffset => do
          let next ← get
          failIf (subSz next start ≠ headerSize) .internalError
          pure (f countOffset next)
        else pure sizeTMax >>= fun countOffset => do
          let next ← get
          failIf (subSz next start ≠ headerSize) .internalError
          pure (f countOffset next)) o) := by
  cases many with
  | true =>
      refine FailsWith.puts_bind (messageWritePaddedUintX_fails count)
        (messageWritePaddedUintX_puts count) fun countOffset _ => ?_
      refine FailsWith.get_bind ?_
      exact FailsWith.nil_bind (failIf_unreached fun hlt => not_not.mpr (hend _ rfl hlt)) (failIf_puts _)
        fun _ _ => FailsWith.pure _
  | false =>
      refine FailsWith.nil_bind (Q := fun _ => True) (FailsWith.pure _) (Puts.pure trivial)
        fun countOffset _ => ?_
      refine FailsWith.get_bind ?_
      exact FailsWith.nil_bind (failIf_unreached fun hlt => not_not.mpr (hend _ rfl hlt)) (failIf_puts _)
        fun _ _ => FailsWith.pure _

/-- What is added up first is what is written, where a buffer can hold it. -/
theorem messageHeader4_total {header : MessageConstHeader} {flags : BitVec 8} {size s : Nat}
    {total : UInt32} {messageSize : Nat} (hsize : messageHeader4Size header flags = .ok size)
    (hmax : size ≤ UINT32_MAX) (hs : messageLenPlusUintX (UInt32.ofNat size) = .ok (total, s))
    (hlt : (messageHeader4Bytes header flags (UInt32.ofNat (addSz size s)) messageSize).length <
      SizeT.modulus) :
    (messageHeader4Bytes header flags (UInt32.ofNat (addSz size s)) messageSize).length =
      addSz size s := by
  have hmod := SizeT.le_modulus
  obtain ⟨hsum, hprefix⟩ := messageLenPlusUintX_spec (Nat.lt_succ_of_le hmax) hs
  rw [length_messageHeader4Bytes] at hlt ⊢
  rw [addSz_eq (by omega : size + s < SizeT.modulus), hprefix,
    messageHeader4Size_eq hsize (Nat.lt_of_add_right_lt hlt)]

/-- The check at the end never goes off. -/
theorem messageWriterWriteHeader4Ex_fails (header : MessageConstHeader)
    (messageFlagsMask : BitVec 8) :
    FailsWith BufferVec.bytes hi OutOfRange
      (messageWriterWriteHeader4Ex header messageFlagsMask o) := by
  unfold messageWriterWriteHeader4Ex
  generalize messageHeader4Flags header messageFlagsMask = flags
  refine FailsWith.nil_bind (liftResult_fails fun e he => messageHeader4Size_fails he)
    (liftResult_puts _) fun size hsize => ?_
  refine FailsWith.nil_bind failIf_fails (failIf_puts _) fun _ hmax => ?_
  refine FailsWith.nil_bind (liftResult_fails fun e he => messageLenPlusUintX_fails he)
    (liftResult_puts _) fun p hp => ?_
  obtain ⟨total, s⟩ := p
  refine FailsWith.nil_bind failIf_fails (failIf_puts _) fun _ _ => ?_
  refine FailsWith.get_bind ?_
  refine FailsWith.first_bind (List.cons_ne_nil _ _) messageWriteMagic_fails messageWriteMagic_puts
    fun _ _ => ?_
  refine FailsWith.puts_bind (messageWriteUint32_fails 0) (messageWriteUint32_puts 0) fun _ _ => ?_
  refine FailsWith.puts_bind (messageWriteUint16_fails 4) (messageWriteUint16_puts 4) fun _ _ => ?_
  refine FailsWith.puts_bind (messageWriteUintX_fails _) (messageWriteUintX_puts _) fun _ _ => ?_
  refine FailsWith.puts_bind (messageWriteUint8_fails _) (messageWriteUint8_puts _) fun _ _ => ?_
  refine FailsWith.puts_bind (writeIf_fails (messageWriteNodeid_fails _))
    (writeIf_puts (messageWriteNodeid_puts _)) fun _ _ => ?_
  refine FailsWith.puts_bind (writeIf_fails (messageWriteNodeid_fails _))
    (writeIf_puts (messageWriteNodeid_puts _)) fun _ _ => ?_
  refine FailsWith.puts_bind (writeIf_fails (messageWriteHeaderStringWithLenPrefix4_fails _))
    (writeIf_puts (messageWriteHeaderStringWithLenPrefix4_puts _)) fun _ _ => ?_
  refine FailsWith.puts_bind (writeIf_fails (messageWriteHeaderStringWithLenPrefix4_fails _))
    (writeIf_puts (messageWriteHeaderStringWithLenPrefix4_puts _)) fun _ _ => ?_
  refine FailsWith.puts_bind (writeIf_fails (messageWriteUintX_fails _))
    (writeIf_puts (messageWriteUintX_puts _)) fun _ _ => ?_
  refine FailsWith.puts_bind (writeIf_fails (messageWriteUintX_fails _))
    (writeIf_puts (messageWriteUintX_puts _)) fun _ _ => ?_
  refine FailsWith.puts_bind (writeIf_fails (messageWriteUint16_fails _))
    (writeIf_puts (messageWriteUint16_puts _)) fun _ _ => ?_
  refine FailsWith.puts_bind (writeIf_fails (messageWriteHeaderStringWithLenPrefix4_fails _))
    (writeIf_puts (messageWriteHeaderStringWithLenPrefix4_puts _)) fun _ _ => ?_
  refine FailsWith.puts_bind (writeIf_fails (messageWriteUint16_fails _))
    (writeIf_puts (messageWriteUint16_puts _)) fun _ _ => ?_
  refine FailsWith.puts_bind (writeIf_fails (messageWriteUint16_fails _))
    (writeIf_puts (messageWriteUint16_puts _)) fun _ _ => ?_
  refine writeHeader4End_fails fun next hnext hlt => ?_
  have hnext' : next =
      o + (messageHeader4Bytes header flags (UInt32.ofNat (addSz size s)) 0).length := by
    rw [hnext, messageHeader4Bytes]
    simp only [List.flatten_cons, List.flatten_nil, List.length_append, List.length_nil,
      length_leBytes]
    omega
  rw [subSz_of_eq_add hnext' hlt]
  exact messageHeader4_total hsize (Nat.le_of_not_gt hmax) hp (by omega)

/-! ## The header of an element -/

theorem messageElementData4Size_fails {elementName : ConstString} {dataLen dataElemSize : Nat}
    {e : Status} (h : messageElementData4Size elementName dataLen dataElemSize = .error e) :
    OutOfRange e := by
  unfold messageElementData4Size messageHeaderStringWithLenPrefixSize4 failIf at h
  by_cases hname : elementName.len ≠ 0
  · rw [if_pos hname] at h
    by_cases hlong : elementName.len > UINT32_MAX
    · rw [if_pos hlong] at h
      cases h
      exact rfl
    · rw [if_neg hlong] at h
      by_cases hmany : dataLen > UINT32_MAX
      · simp only [if_pos hmany] at h
        cases h
        exact rfl
      · simp only [if_neg hmany] at h
        cases h
  · rw [if_neg hname] at h
    by_cases hmany : dataLen > UINT32_MAX
    · simp only [if_pos hmany] at h
      cases h
      exact rfl
    · simp only [if_neg hmany] at h
      cases h

theorem messageElementWriterWriteDataHeader4Ex_fails (elementName : ConstString)
    (dataLen : Nat) (dataType : UInt16) (dataElemSize : Nat) :
    FailsWith BufferVec.bytes hi OutOfRange
      (messageElementWriterWriteDataHeader4Ex elementName dataLen dataType dataElemSize o) := by
  unfold messageElementWriterWriteDataHeader4Ex
  refine FailsWith.nil_bind (liftResult_fails fun e he => messageElementData4Size_fails he)
    (liftResult_puts _) fun size _ => ?_
  refine FailsWith.nil_bind failIf_fails (failIf_puts _) fun _ _ => ?_
  refine FailsWith.nil_bind (liftResult_fails fun e he => messageLenPlusUintX_fails he)
    (liftResult_puts _) fun p _ => ?_
  obtain ⟨total, s⟩ := p
  refine FailsWith.nil_bind failIf_fails (failIf_puts _) fun _ _ => ?_
  refine FailsWith.get_bind ?_
  refine FailsWith.bind (messageWriteUintX_fails _) (messageWriteUintX_puts _) fun _ _ => ?_
  refine FailsWith.bind (messageWriteUint8_fails _) (messageWriteUint8_puts _) fun _ _ => ?_
  refine FailsWith.bind (writeIf_fails (messageWriteHeaderStringWithLenPrefix4_fails _))
    (writeIf_puts (messageWriteHeaderStringWithLenPrefix4_puts _)) fun _ _ => ?_
  refine FailsWith.bind (messageWriteUint16_fails _) (messageWriteUint16_puts _) fun _ _ => ?_
  refine FailsWith.bind (messageWriteUintX_fails _) (messageWriteUintX_puts _) fun _ _ => ?_
  exact FailsWith.get_bind (FailsWith.pure _)

/-- What an element takes without the number that counts it and without its data. -/
def elementSectionsSize (elementName : ConstString) (dataLen : Nat) : Nat :=
  3 + stringSectionSize (elementName.len != 0) elementName + messageUintXSize (UInt32.ofNat dataLen)

/-- The size is added up in `size_t`. -/
theorem messageElementData4Size_eq_mod {elementName : ConstString} {dataLen dataElemSize : Nat}
    (hname : elementName.len ≤ UINT32_MAX) (hmany : dataLen ≤ UINT32_MAX) :
    messageElementData4Size elementName dataLen dataElemSize =
      .ok ((elementSectionsSize elementName dataLen + dataLen * dataElemSize) % SizeT.modulus) := by
  unfold messageElementData4Size messageHeaderStringWithLenPrefixSize4 failIf elementSectionsSize
    stringSectionSize
  rw [if_neg (Nat.not_lt.mpr hname), if_neg (Nat.not_lt.mpr hmany), length_fieldBytes,
    length_string4Bytes]
  by_cases h0 : elementName.len = 0
  · have hnamed : (elementName.len != 0) = false := bne_eq_false_iff_eq.mpr h0
    rw [hnamed, if_neg (not_not.mpr h0)]
    change Except.ok (addSz (addSz 3 _) (mulSz _ _)) = _
    simp only [addSz, mulSz, Nat.mod_add_mod, Nat.add_mod_mod]
    rfl
  · have hnamed : (elementName.len != 0) = true := bne_iff_ne.mpr h0
    rw [hnamed, if_pos h0]
    change Except.ok (addSz (addSz (addSz 3 (addSz _ _)) _) (mulSz _ _)) = _
    simp only [addSz, mulSz, Nat.mod_add_mod, Nat.add_mod_mod]
    rfl

/-- The width of a number that is added to what it counts. -/
def lenPlusWidth (k : Nat) : Nat := if k ≤ 251 then 1 else if k ≤ UINT16_MAX - 3 then 3 else 5

omit [SizeT] in
theorem messageLenPlusUintX_eq {k : Nat} (hk : k ≤ UINT32_MAX - 5) :
    ∃ total, messageLenPlusUintX (UInt32.ofNat k) = .ok (total, lenPlusWidth k) := by
  have hmax : UINT32_MAX = 4294967295 := rfl
  have hk32 : k < 4294967296 := by omega
  have htoNat : (UInt32.ofNat k).toNat = k := UInt32.toNat_ofNat_of_lt' hk32
  have h251 : (251 : UInt32).toNat = 251 := by decide
  simp only [messageLenPlusUintX, lenPlusWidth, UInt32.le_iff_toNat_le, htoNat, h251]
  by_cases h1 : k ≤ 251
  · rw [if_pos h1, if_pos h1]
    exact ⟨_, rfl⟩
  · rw [if_neg h1, if_neg h1]
    by_cases h3 : k ≤ UINT16_MAX - 3
    · rw [if_pos h3, if_pos h3]
      exact ⟨_, rfl⟩
    · rw [if_neg h3, if_neg h3, if_pos hk]
      exact ⟨_, rfl⟩

theorem messageWriteUint8_succeeds (val : UInt8) {n : Nat} (hfit : o + (leBytes 1 n).length ≤ hi) :
    SucceedsTo BufferVec.bytes hi (messageWriteUint8 val o) :=
  messageWriteVal_succeeds (fun v pos => bufferVecCopyFromUInt_eq v pos _ (by decide) (by decide))
    (by rw [length_leBytes]; decide) (by rwa [length_leBytes] at hfit ⊢)

theorem messageWriteUintX_succeeds (val : UInt32) (hfit : o + (uintXBytes val).length ≤ hi) :
    SucceedsTo BufferVec.bytes hi (messageWriteUintX val o) := by
  unfold messageWriteUintX
  unfold uintXBytes at hfit
  split
  · next h1 =>
      rw [if_pos h1] at hfit
      exact messageWriteUint8_succeeds _ hfit
  · next h1 =>
      rw [if_neg h1] at hfit
      split
      · next h3 =>
          rw [if_pos h3] at hfit
          refine SucceedsTo.puts_bind (x := leBytes 1 253) (messageWriteUint8_succeeds 253)
            (messageWriteUint8_puts 253) (fun _ _ hfit => ?_) hfit
          exact messageWriteUint16_succeeds _ hfit
      · next h3 =>
          rw [if_neg h3] at hfit
          refine SucceedsTo.puts_bind (x := leBytes 1 254) (messageWriteUint8_succeeds 254)
            (messageWriteUint8_puts 254) (fun _ _ hfit => ?_) hfit
          exact messageWriteUint32_succeeds _ hfit

theorem messageWriteHeaderStringWithLenPrefix4_succeeds {str : ConstString}
    (hlen : str.len ≤ UINT32_MAX) (hfit : o + (string4Bytes str).length ≤ hi) :
    SucceedsTo BufferVec.bytes hi (messageWriteHeaderStringWithLenPrefix4 str o) := by
  unfold messageWriteHeaderStringWithLenPrefix4 messageWriteHeaderString
  refine SucceedsTo.writer_bind (failIf_writing_succeeds (Nat.not_lt.mpr hlen)) (failIf_puts _)
    fun _ _ => ?_
  refine SucceedsTo.puts_bind (messageWriteUintX_succeeds _) (messageWriteUintX_puts _)
    (fun _ _ hfit => ?_) hfit
  by_cases h0 : str.len > 0
  · rw [if_pos h0]
    exact messageWriteVal_succeeds (fun v pos => bufferVecCopyFromBytes_eq v pos str.addressable
      (List.length_pos_iff.mp h0)) h0 hfit
  · rw [if_neg h0]
    exact SucceedsTo.pure _

theorem writeIf_succeeds {present : Bool} {write : Writing Unit} {bs : List UInt8}
    (h : o + bs.length ≤ hi → SucceedsTo BufferVec.bytes hi (write o))
    (hfit : o + (fieldBytes present bs).length ≤ hi) :
    SucceedsTo BufferVec.bytes hi (writeIf present write o) := by
  cases present with
  | true => exact h hfit
  | false => exact SucceedsTo.pure _

theorem liftResult_succeeds {α : Type} {r : Result α} {a : α} (h : r = .ok a) :
    SucceedsTo BufferVec.bytes hi (liftResult r o) := by
  rw [h]
  exact SucceedsTo.pure _

theorem messageElementWriterWriteDataHeader4Ex_succeeds {elementName : ConstString}
    {dataLen dataElemSize size : Nat} (dataType : UInt16) (hname : elementName.len ≤ UINT32_MAX)
    (hmany : dataLen ≤ UINT32_MAX)
    (hsize : size = (elementSectionsSize elementName dataLen + dataLen * dataElemSize) %
      SizeT.modulus) (hmax : size ≤ UINT32_MAX - 5)
    (hfit : o + (messageElementDataHeader4Bytes elementName dataLen dataType
      (size + lenPlusWidth size)).length ≤ hi) :
    SucceedsTo BufferVec.bytes hi
      (messageElementWriterWriteDataHeader4Ex elementName dataLen dataType dataElemSize o) := by
  have hsize4 : messageElementData4Size elementName dataLen dataElemSize = .ok size :=
    hsize ▸ messageElementData4Size_eq_mod hname hmany
  obtain ⟨total, hlen⟩ := messageLenPlusUintX_eq hmax
  have hsum := (messageLenPlusUintX_spec (by rw [UINT32_MAX] at hmax; omega) hlen).1
  have hadd : addSz size (lenPlusWidth size) = size + lenPlusWidth size :=
    addSz_eq (Nat.lt_of_lt_of_le hsum SizeT.le_modulus)
  unfold messageElementWriterWriteDataHeader4Ex
  refine SucceedsTo.writer_bind (liftResult_succeeds hsize4) (liftResult_puts _) fun a ha => ?_
  cases hsize4.symm.trans ha
  refine SucceedsTo.writer_bind (failIf_writing_succeeds (by omega)) (failIf_puts _) fun _ _ => ?_
  refine SucceedsTo.writer_bind (liftResult_succeeds hlen) (liftResult_puts _) fun p hp => ?_
  cases hlen.symm.trans hp
  dsimp only
  rw [hadd]
  refine SucceedsTo.writer_bind (failIf_writing_succeeds (Nat.not_lt.mpr (Nat.le_of_lt_succ hsum)))
    (failIf_puts _) fun _ _ => ?_
  refine SucceedsTo.get_bind ?_
  refine SucceedsTo.puts_bind (messageWriteUintX_succeeds _) (messageWriteUintX_puts _)
    (fun _ _ hfit => ?_) hfit
  refine SucceedsTo.puts_bind (messageWriteUint8_succeeds _) (messageWriteUint8_puts _)
    (fun _ _ hfit => ?_) hfit
  have hnamed : flagsCheck (flagsSetIf (elementName.len != 0) 0 MESSAGEELEMENT_FLAGS_ELEMENT_NAME_STR)
      MESSAGEELEMENT_FLAGS_ELEMENT_NAME_STR = (elementName.len != 0) := by
    cases elementName.len != 0 <;> decide
  rw [hnamed]
  refine SucceedsTo.puts_bind
    (writeIf_succeeds (messageWriteHeaderStringWithLenPrefix4_succeeds hname))
    (writeIf_puts (messageWriteHeaderStringWithLenPrefix4_puts _)) (fun _ _ hfit => ?_) hfit
  refine SucceedsTo.puts_bind (messageWriteUint16_succeeds _) (messageWriteUint16_puts _)
    (fun _ _ hfit => ?_) hfit
  refine SucceedsTo.puts_bind (messageWriteUintX_succeeds _) (messageWriteUintX_puts _)
    (fun _ _ hfit => ?_) hfit
  exact SucceedsTo.get_bind (SucceedsTo.pure _)

/-! ## What is declared -/

/-- The header lies where it was asked for, and its size is the number of its bytes. No failure
is the writer's own. -/
def HeaderSizeExact (header : MessageConstHeader) (messageFlagsMask : BitVec 8) (o : Nat)
    (v : BufferVec) : Prop :=
  match messageWriterWriteHeader4Ex header messageFlagsMask o v with
  | (.ok ((header', info), next), w) =>
      ∃ bytes, bytes = messageHeader4Bytes header (messageHeader4Flags header messageFlagsMask)
          header'.headerSize 0 ∧
        w.bytes = overwrite v.bytes o bytes ∧ next = o + bytes.length ∧
        header'.headerSize.toNat = bytes.length ∧ info.headerSize = bytes.length
  | (.error e, _) => e ≠ .internalError

/-- The header of an element lies where it was asked for, and the size of the element counts it
and the data. -/
def ElementSizeExact (elementName : ConstString) (dataLen : Nat) (dataType : UInt16)
    (dataElemSize : Nat) (o : Nat) (v : BufferVec) : Prop :=
  match messageElementWriterWriteDataHeader4Ex elementName dataLen dataType dataElemSize o v with
  | (.ok ((_, elementSize), next), w) =>
      ∃ bytes, bytes = messageElementDataHeader4Bytes elementName dataLen dataType elementSize ∧
        w.bytes = overwrite v.bytes o bytes ∧ next = o + bytes.length ∧
        elementSize = bytes.length + dataLen * dataElemSize
  | (.error e, _) => e = .outOfRange

/-- The size of the element is none that wraps in `size_t`, or the element is refused: for its
name, for its count, for what is left of its size, or because its header has no room. -/
def ElementSizeFits (elementName : ConstString) (dataLen dataElemSize o : Nat) (v : BufferVec) :
    Prop :=
  let sections := elementSectionsSize elementName dataLen
  let size := (sections + dataLen * dataElemSize) % SizeT.modulus
  sections + dataLen * dataElemSize < SizeT.modulus ∨ UINT32_MAX < elementName.len ∨
    UINT32_MAX < dataLen ∨ UINT32_MAX - 5 < size ∨
    v.bytes.length < o + (sections + lenPlusWidth size)

theorem messageHeader4Bytes_ne_nil (header : MessageConstHeader) (flags : BitVec 8)
    (headerSize : UInt32) (messageSize : Nat) :
    messageHeader4Bytes header flags headerSize messageSize ≠ [] := by
  unfold messageHeader4Bytes
  exact List.cons_ne_nil _ _

theorem messageWriterWriteHeader4Ex_exact (header : MessageConstHeader)
    (messageFlagsMask : BitVec 8) (o : Nat) (v : BufferVec) :
    HeaderSizeExact header messageFlagsMask o v := by
  have hfails : FailsWith BufferVec.bytes 0 OutOfRange _ :=
    messageWriterWriteHeader4Ex_fails (o := o) header messageFlagsMask
  have hputs := messageWriterWriteHeader4Ex_puts (o := o) header messageFlagsMask rfl rfl v
  have herror := hfails v (Nat.zero_le _)
  unfold HeaderSizeExact
  cases hrun : messageWriterWriteHeader4Ex header messageFlagsMask o v with
  | mk x w =>
      rw [hrun] at herror hputs
      cases x with
      | error e =>
          rw [show e = .outOfRange from herror e rfl]
          nofun
      | ok p =>
          obtain ⟨⟨hanswer, hnext⟩, hwrite, hin⟩ := hputs
          obtain ⟨hheader, hinfo, -, hsize, -⟩ := hanswer
          have hsome := messageHeader4Bytes_ne_nil header
            (messageHeader4Flags header messageFlagsMask)
          have hlt := Nat.lt_of_le_of_lt (hin.resolve_left (hsome _ _)) (bytes_lt_modulus v)
          rw [← hheader] at hnext hwrite hlt hsize
          exact ⟨_, rfl, hwrite, hnext, hinfo.trans (hsize hlt), hsize hlt⟩

theorem length_messageElementDataHeader4Bytes (elementName : ConstString) (dataLen : Nat)
    (dataType : UInt16) (elementSize : Nat) :
    (messageElementDataHeader4Bytes elementName dataLen dataType elementSize).length =
      elementSectionsSize elementName dataLen + messageUintXSize (UInt32.ofNat elementSize) := by
  simp only [messageElementDataHeader4Bytes, elementSectionsSize, stringSectionSize,
    List.flatten_cons, List.flatten_nil, List.length_append, List.length_nil, length_leBytes,
    length_uintXBytes]
  omega

theorem length_countedDataHeader4Bytes (elementName : ConstString) (dataLen : Nat)
    (dataType : UInt16) {size : Nat} (hmax : size ≤ UINT32_MAX - 5) :
    (messageElementDataHeader4Bytes elementName dataLen dataType
      (size + lenPlusWidth size)).length =
      elementSectionsSize elementName dataLen + lenPlusWidth size := by
  obtain ⟨total, hlen⟩ := messageLenPlusUintX_eq hmax
  obtain ⟨-, hwidth⟩ := messageLenPlusUintX_spec (by rw [UINT32_MAX] at hmax; omega) hlen
  rw [length_messageElementDataHeader4Bytes, hwidth]

theorem liftResult_run {α : Type} {r : Result α} {p : α × Nat} {v w : BufferVec}
    (h : liftResult r o v = (.ok p, w)) : r = .ok p.1 ∧ p.2 = o := by
  cases r with
  | ok a =>
      cases h
      exact ⟨rfl, rfl⟩
  | error e => cases h

theorem failIf_run {p : Prop} [Decidable p] {e : Status} {a : Unit × Nat} {v w : BufferVec}
    (h : (failIf p e : Writing Unit) o v = (.ok a, w)) : ¬ p := by
  intro hp
  rw [failIf, if_pos hp] at h
  cases h

omit [SizeT] in
theorem messageLenPlusUintX_le {k s : Nat} {total : UInt32} (hk : k ≤ UINT32_MAX)
    (h : messageLenPlusUintX (UInt32.ofNat k) = .ok (total, s)) : k ≤ UINT32_MAX - 5 := by
  have hk32 : k < 4294967296 := Nat.lt_succ_of_le hk
  have htoNat : (UInt32.ofNat k).toNat = k := UInt32.toNat_ofNat_of_lt' hk32
  have h251 : (251 : UInt32).toNat = 251 := by decide
  simp only [messageLenPlusUintX, UInt32.le_iff_toNat_le, htoNat, h251, UINT16_MAX,
    UINT32_MAX] at h ⊢
  split at h
  · omega
  · split at h
    · omega
    · split at h
      · assumption
      · cases h

/-- What a call that comes back has added up. -/
theorem messageElementWriterWriteDataHeader4Ex_size_le {elementName : ConstString}
    {dataLen dataElemSize : Nat} {dataType : UInt16} {v w : BufferVec}
    {p : (MessageElementBufferInfo × Nat) × Nat}
    (h : messageElementWriterWriteDataHeader4Ex elementName dataLen dataType dataElemSize o v =
      (.ok p, w)) (hname : elementName.len ≤ UINT32_MAX) (hmany : dataLen ≤ UINT32_MAX) :
    (elementSectionsSize elementName dataLen + dataLen * dataElemSize) % SizeT.modulus ≤
      UINT32_MAX - 5 := by
  unfold messageElementWriterWriteDataHeader4Ex at h
  obtain ⟨a, u, hsize, h⟩ := buffered_bind_run h
  obtain ⟨hsize, -⟩ := liftResult_run hsize
  rw [messageElementData4Size_eq_mod hname hmany] at hsize
  obtain ⟨size, next⟩ := a
  cases hsize
  obtain ⟨a, u, hmax, h⟩ := buffered_bind_run h
  obtain ⟨a, u, hlen, h⟩ := buffered_bind_run h
  obtain ⟨hlen, -⟩ := liftResult_run hlen
  exact messageLenPlusUintX_le (Nat.le_of_not_gt (failIf_run hmax)) hlen

/-- What a call that comes back declares: what was added up, and the number for it. -/
theorem messageElementWriterWriteDataHeader4Ex_ok {elementName : ConstString}
    {dataLen dataElemSize next : Nat} {dataType : UInt16} {o : Nat} {v w : BufferVec}
    {r : MessageElementBufferInfo × Nat}
    (h : messageElementWriterWriteDataHeader4Ex elementName dataLen dataType dataElemSize o v =
      (.ok (r, next), w)) :
    let sections := elementSectionsSize elementName dataLen
    let size := (sections + dataLen * dataElemSize) % SizeT.modulus
    let bytes := messageElementDataHeader4Bytes elementName dataLen dataType r.2
    (elementName.len ≤ UINT32_MAX ∧ dataLen ≤ UINT32_MAX ∧ size ≤ UINT32_MAX - 5 ∧
      o + bytes.length ≤ v.bytes.length) ∧
    r.2 = size + lenPlusWidth size ∧ bytes.length = sections + lenPlusWidth size ∧
      w.bytes = overwrite v.bytes o bytes ∧ next = o + bytes.length := by
  obtain ⟨bytes, hbytes⟩ : ∃ bytes, bytes = messageElementDataHeader4Bytes elementName dataLen
    dataType (messageElementData4TotalSize elementName dataLen dataElemSize) := ⟨_, rfl⟩
  have hput : PutsAt BufferVec.bytes o bytes _ _ :=
    messageElementWriterWriteDataHeader4Ex_puts hbytes
  have hrun := hput v
  rw [h] at hrun
  obtain ⟨⟨⟨-, -, htotal, -, hname, hmany⟩, hnext⟩, hwrite, hin⟩ := hrun
  have hle := messageElementWriterWriteDataHeader4Ex_size_le h hname hmany
  obtain ⟨total, hlen⟩ := messageLenPlusUintX_eq hle
  have hsum := (messageLenPlusUintX_spec (by rw [UINT32_MAX] at hle; omega) hlen).1
  rw [← htotal] at hbytes
  rw [messageElementData4TotalSize, messageElementData4Size_eq_mod hname hmany] at htotal
  dsimp only at htotal
  rw [hlen] at htotal
  dsimp only at htotal
  rw [addSz_eq (Nat.lt_of_lt_of_le hsum SizeT.le_modulus)] at htotal
  have hlength := length_countedDataHeader4Bytes elementName dataLen dataType hle
  rw [← htotal, ← hbytes] at hlength
  dsimp only
  rw [← hbytes]
  refine ⟨⟨hname, hmany, hle, hin.resolve_left fun hnil => ?_⟩, htotal, hlength, hwrite, hnext⟩
  rw [hnil, elementSectionsSize, List.length_nil] at hlength
  omega

/-- Version 4 sizes count themselves. The size of a header always does, and the size of an
element where it does not wrap. -/
theorem declaredSizes_exact_iff (header : MessageConstHeader) (messageFlagsMask : BitVec 8)
    (elementName : ConstString) (dataLen : Nat) (dataType : UInt16) (dataElemSize o : Nat)
    (v : BufferVec) :
    HeaderSizeExact header messageFlagsMask o v ∧
        ElementSizeExact elementName dataLen dataType dataElemSize o v ↔
      ElementSizeFits elementName dataLen dataElemSize o v := by
  have hfails : FailsWith BufferVec.bytes 0 OutOfRange _ :=
    messageElementWriterWriteDataHeader4Ex_fails (o := o) elementName dataLen dataType dataElemSize
  have herror := hfails v (Nat.zero_le _)
  constructor
  · rintro ⟨-, hexact⟩
    unfold ElementSizeFits
    refine or_iff_not_imp_left.mpr fun hwraps => or_iff_not_imp_left.mpr fun hname => ?_
    refine or_iff_not_imp_left.mpr fun hmany => or_iff_not_imp_left.mpr fun hmax => ?_
    by_contra hroom
    obtain ⟨p, w, hrun⟩ := messageElementWriterWriteDataHeader4Ex_succeeds dataType
      (Nat.le_of_not_gt hname) (Nat.le_of_not_gt hmany) rfl (Nat.le_of_not_gt hmax) (Nat.le_refl _)
      v (by rwa [length_countedDataHeader4Bytes _ _ _ (Nat.le_of_not_gt hmax), ← not_lt])
    obtain ⟨⟨info, elementSize⟩, next⟩ := p
    unfold ElementSizeExact at hexact
    rw [hrun] at hexact
    obtain ⟨bytes, rfl, -, -, hsum⟩ := hexact
    obtain ⟨-, hsize, hlength, -, -⟩ := messageElementWriterWriteDataHeader4Ex_ok hrun
    dsimp only at hsum hsize hlength
    have hlt := Nat.mod_lt (elementSectionsSize elementName dataLen + dataLen * dataElemSize)
      modulus_pos
    omega
  · intro hfits
    refine ⟨messageWriterWriteHeader4Ex_exact header messageFlagsMask o v, ?_⟩
    unfold ElementSizeExact
    cases hrun : messageElementWriterWriteDataHeader4Ex elementName dataLen dataType dataElemSize o v with
    | mk x w =>
        rw [hrun] at herror
        cases x with
        | error e => exact herror e rfl
        | ok p =>
            obtain ⟨⟨info, elementSize⟩, next⟩ := p
            obtain ⟨⟨hname, hmany, hmax, hroom⟩, hsize, hlength, hwrite, hnext⟩ :=
              messageElementWriterWriteDataHeader4Ex_ok hrun
            refine ⟨_, rfl, hwrite, hnext, ?_⟩
            rcases hfits with hlt | hgt | hgt | hgt | hgt
            · rw [Nat.mod_eq_of_lt hlt] at hsize hlength
              dsimp only at hsize hlength ⊢
              omega
            · exact absurd hname (Nat.not_le.mpr hgt)
            · exact absurd hmany (Nat.not_le.mpr hgt)
            · exact absurd hmax (Nat.not_le.mpr hgt)
            · rw [hlength] at hroom
              exact absurd hroom (Nat.not_le.mpr hgt)

end

section

open Ilp32

def sixteenBytes : BufferVec := ⟨[List.replicate 16 0], by decide⟩

/-- Four gigabytes of doubles are an element of eleven bytes. -/
theorem hugeArray_understated :
    (messageElementWriterWriteDataHeader4Ex (.constant [0x61]) (2 ^ 29) 1 8 0 sixteenBytes).1.map
        (·.1.2) = .ok 11 ∧
      ¬ ElementSizeExact (.constant [0x61]) (2 ^ 29) 1 8 0 sixteenBytes := by
  have hsize : (messageElementWriterWriteDataHeader4Ex (.constant [0x61]) (2 ^ 29) 1 8 0
      sixteenBytes).1.map (·.1.2) = .ok 11 := by decide +kernel
  refine ⟨hsize, fun hexact => ?_⟩
  unfold ElementSizeExact at hexact
  cases hrun : messageElementWriterWriteDataHeader4Ex (.constant [0x61]) (2 ^ 29) 1 8 0
      sixteenBytes with
  | mk x w =>
      rw [hrun] at hsize hexact
      cases x with
      | error e => cases hsize
      | ok p =>
          obtain ⟨⟨info, elementSize⟩, next⟩ := p
          obtain ⟨bytes, -, -, -, hsum⟩ := hexact
          have heleven : elementSize = 11 := Except.ok.inj hsize
          omega

end

end RobotRaconteurLite

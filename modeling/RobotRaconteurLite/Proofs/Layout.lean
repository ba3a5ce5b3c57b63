import RobotRaconteurLite.Lib.OffsetWriter
import RobotRaconteurLite.Message.Writer

/-!
# What the writers lay down

Each header as the bytes it becomes, field by field, with zero where a size or a
count is written later. A writer that succeeds has laid down exactly these bytes
at its offset, and one that fails has touched nothing but the place where they
would have gone.
-/

namespace RobotRaconteurLite

open OffsetWriter LittleEndian Splice

/-! ## The bytes -/

def uintXBytes (val : UInt32) : List UInt8 :=
  if val ≤ 252 then leBytes 1 val.toNat
  else if val.toNat ≤ UINT16_MAX then 253 :: leBytes 2 val.toNat
  else 254 :: leBytes 4 val.toNat

theorem length_uintXBytes (val : UInt32) : (uintXBytes val).length = messageUintXSize val := by
  unfold uintXBytes messageUintXSize
  split
  · exact length_leBytes 1 _
  · split
    · rw [List.length_cons, length_leBytes]
    · rw [List.length_cons, length_leBytes]

theorem messageUintXSize_pos (val : UInt32) : 0 < messageUintXSize val := by
  unfold messageUintXSize
  split
  · decide
  · split <;> decide

theorem messageUintXSize_ofNat {k : Nat} (hk : k < 4294967296) :
    messageUintXSize (UInt32.ofNat k) = if k ≤ 252 then 1 else if k ≤ 65535 then 3 else 5 := by
  have htoNat : (UInt32.ofNat k).toNat = k := UInt32.toNat_ofNat_of_lt' hk
  have h252 : (252 : UInt32).toNat = 252 := by decide
  simp only [messageUintXSize, UInt32.le_iff_toNat_le, htoNat, h252, UINT16_MAX]

/-- The prefix that counts itself has the size that was counted. -/
theorem messageLenPlusUintX_spec {k s : Nat} {total : UInt32} (hk : k < 4294967296)
    (h : messageLenPlusUintX (UInt32.ofNat k) = .ok (total, s)) :
    k + s < 4294967296 ∧ messageUintXSize (UInt32.ofNat (k + s)) = s := by
  have htoNat : (UInt32.ofNat k).toNat = k := UInt32.toNat_ofNat_of_lt' hk
  have h251 : (251 : UInt32).toNat = 251 := by decide
  simp only [messageLenPlusUintX, UInt32.le_iff_toNat_le, htoNat, h251, UINT16_MAX,
    UINT32_MAX] at h
  split at h
  · cases h
    refine ⟨by omega, ?_⟩
    rw [messageUintXSize_ofNat (by omega), if_pos (by omega)]
  · split at h
    · cases h
      refine ⟨by omega, ?_⟩
      rw [messageUintXSize_ofNat (by omega), if_neg (by omega), if_pos (by omega)]
    · split at h
      · cases h
        refine ⟨by omega, ?_⟩
        rw [messageUintXSize_ofNat (by omega), if_neg (by omega), if_neg (by omega)]
      · cases h

def intXBytes (val : Int32) : List UInt8 :=
  if -128 ≤ val.toInt ∧ val.toInt ≤ 124 then leBytes 1 val.toInt8.toUInt8.toNat
  else if -32768 ≤ val.toInt ∧ val.toInt ≤ 32767 then 125 :: leBytes 2 val.toInt16.toUInt16.toNat
  else 126 :: leBytes 4 val.toUInt32.toNat

def paddedUintXBytes (count : UInt32) : List UInt8 := 254 :: leBytes 4 count.toNat

theorem length_paddedUintXBytes (count : UInt32) : (paddedUintXBytes count).length = 5 := by
  rw [paddedUintXBytes, List.length_cons, length_leBytes]

/-- The bytes of a field that is there when a flag says so. -/
def fieldBytes (present : Bool) (bytes : List UInt8) : List UInt8 := if present then bytes else []

@[simp] theorem fieldBytes_false (bytes : List UInt8) : fieldBytes false bytes = [] := rfl

@[simp] theorem fieldBytes_true (bytes : List UInt8) : fieldBytes true bytes = bytes := rfl

theorem length_fieldBytes (present : Bool) (bytes : List UInt8) :
    (fieldBytes present bytes).length = if present then bytes.length else 0 := by
  unfold fieldBytes
  split <;> rfl

theorem flagsCheck_or {w : Nat} (a b m : BitVec w) :
    flagsCheck (a ||| b) m = (flagsCheck a m || flagsCheck b m) := by
  have hand : (a ||| b) &&& m = (a &&& m) ||| (b &&& m) := by
    ext i hi
    simp only [BitVec.getElem_and, BitVec.getElem_or, Bool.and_or_distrib_right]
  simp only [flagsCheck, hand, bne, ← Bool.not_and]
  congr 1
  rw [Bool.eq_iff_iff]
  simp [BitVec.or_eq_zero_iff]

theorem flagsCheck_flagsSetIf {w : Nat} (present : Bool) (flags mask m : BitVec w) :
    flagsCheck (flagsSetIf present flags mask) m =
      (flagsCheck flags m || present && flagsCheck mask m) := by
  cases present with
  | false => simp [flagsSetIf]
  | true => simp [flagsSetIf, flagsSet, flagsCheck_or]

theorem or_and_self_right {w : Nat} (a b : BitVec w) : a ||| (b &&& a) = a := by
  ext i hi
  simp only [BitVec.getElem_and, BitVec.getElem_or]
  cases a[i] <;> cases b[i] <;> rfl

section

variable [SizeT]

def string2Bytes (str : ConstString) : List UInt8 := leBytes 2 str.len ++ str.data

theorem length_string2Bytes (str : ConstString) : (string2Bytes str).length = 2 + str.len := by
  rw [string2Bytes, List.length_append, length_leBytes, ConstString.len]

def string4Bytes (str : ConstString) : List UInt8 := uintXBytes (UInt32.ofNat str.len) ++ str.data

theorem length_string4Bytes (str : ConstString) :
    (string4Bytes str).length = messageUintXSize (UInt32.ofNat str.len) + str.len := by
  rw [string4Bytes, List.length_append, length_uintXBytes, ConstString.len]

def messageHeader2Bytes (header : MessageConstHeader) (headerSize : UInt16) (messageSize : Nat) :
    List UInt8 :=
  [[0x52, 0x52, 0x41, 0x43], leBytes 4 messageSize, leBytes 2 2, leBytes 2 headerSize.toNat,
    header.senderNodeid.data, header.receiverNodeid.data,
    leBytes 4 header.senderEndpoint.toNat, leBytes 4 header.receiverEndpoint.toNat,
    string2Bytes header.senderNodename, string2Bytes header.receiverNodename,
    string2Bytes header.metadata, leBytes 2 header.entryCount.toNat,
    leBytes 2 header.messageId.toNat, leBytes 2 header.messageResId.toNat].flatten

def messageHeader4Bytes (header : MessageConstHeader) (flags : BitVec 8) (headerSize : UInt32)
    (messageSize : Nat) : List UInt8 :=
  let routing := flagsCheck flags MESSAGE_FLAGS_ROUTING_INFO
  let endpoint := flagsCheck flags MESSAGE_FLAGS_ENDPOINT_INFO
  let metaFlag := flagsCheck flags MESSAGE_FLAGS_META_INFO
  [[0x52, 0x52, 0x41, 0x43], leBytes 4 messageSize, leBytes 2 4, uintXBytes headerSize,
    leBytes 1 flags.toNat, fieldBytes routing header.senderNodeid.data,
    fieldBytes routing header.receiverNodeid.data,
    fieldBytes routing (string4Bytes header.senderNodename),
    fieldBytes routing (string4Bytes header.receiverNodename),
    fieldBytes endpoint (uintXBytes header.senderEndpoint),
    fieldBytes endpoint (uintXBytes header.receiverEndpoint),
    fieldBytes (flagsCheck flags MESSAGE_FLAGS_PRIORITY) (leBytes 2 header.priority.toNat),
    fieldBytes metaFlag (string4Bytes header.metadata),
    fieldBytes metaFlag (leBytes 2 header.messageId.toNat),
    fieldBytes metaFlag (leBytes 2 header.messageResId.toNat),
    fieldBytes (flagsCheck flags MESSAGE_FLAGS_MULTIPLE_ENTRIES)
      (paddedUintXBytes header.entryCount)].flatten

def messageEntryHeader2Bytes (header : MessageEntryConstHeader) (entrySize elementCount : Nat) :
    List UInt8 :=
  [leBytes 4 entrySize, leBytes 2 header.entryType.toNat, leBytes 2 0, string2Bytes header.servicePath,
    string2Bytes header.memberName, leBytes 4 header.requestId.toNat, leBytes 2 header.error.toNat,
    string2Bytes header.metadata, leBytes 2 elementCount].flatten

/-- What is between the size and the count of a version 4 entry header. -/
def messageEntryHeader4Fields (header : MessageEntryConstHeader) : List (List UInt8) :=
  let flags := messageEntryHeader4Flags header
  [leBytes 1 flags.toNat, leBytes 2 header.entryType.toNat,
    fieldBytes (flagsCheck flags MESSAGEENTRY_FLAGS_SERVICE_PATH_STR)
      (string4Bytes header.servicePath),
    fieldBytes (flagsCheck flags MESSAGEENTRY_FLAGS_SERVICE_PATH_CODE)
      (uintXBytes header.servicePathCode),
    fieldBytes (flagsCheck flags MESSAGEENTRY_FLAGS_MEMBER_NAME_STR)
      (string4Bytes header.memberName),
    fieldBytes (flagsCheck flags MESSAGEENTRY_FLAGS_MEMBER_NAME_CODE)
      (uintXBytes header.memberNameCode),
    fieldBytes (flagsCheck flags MESSAGEENTRY_FLAGS_REQUEST_ID) (uintXBytes header.requestId),
    fieldBytes (flagsCheck flags MESSAGEENTRY_FLAGS_ERROR) (leBytes 2 header.error.toNat),
    fieldBytes (flagsCheck flags MESSAGEENTRY_FLAGS_META_INFO) (string4Bytes header.metadata)]

def messageEntryHeader4Bytes (header : MessageEntryConstHeader) (entrySize elementCount : Nat) :
    List UInt8 :=
  (paddedUintXBytes (UInt32.ofNat entrySize) :: (messageEntryHeader4Fields header ++
    [paddedUintXBytes (UInt32.ofNat elementCount)])).flatten

def messageElementHeader2Bytes (header : MessageElementConstHeader) (elementSize dataCount : Nat) :
    List UInt8 :=
  [leBytes 4 elementSize, string2Bytes header.elementName, leBytes 2 header.elementType.toNat,
    string2Bytes header.elementTypeName, string2Bytes header.metadata, leBytes 4 dataCount].flatten

/-- What is between the size and the count of a version 4 element header. -/
def messageElementHeader4Fields (header : MessageElementConstHeader) : List (List UInt8) :=
  let flags := messageElementHeader4Flags header
  [leBytes 1 flags.toNat,
    fieldBytes (flagsCheck flags MESSAGEELEMENT_FLAGS_ELEMENT_NAME_STR)
      (string4Bytes header.elementName),
    fieldBytes (flagsCheck flags MESSAGEELEMENT_FLAGS_ELEMENT_NAME_CODE)
      (uintXBytes header.elementNameCode),
    fieldBytes (flagsCheck flags MESSAGEELEMENT_FLAGS_ELEMENT_NUMBER)
      (intXBytes header.elementNumber),
    leBytes 2 header.elementType.toNat,
    fieldBytes (flagsCheck flags MESSAGEELEMENT_FLAGS_ELEMENT_TYPE_NAME_STR)
      (string4Bytes header.elementTypeName),
    fieldBytes (flagsCheck flags MESSAGEELEMENT_FLAGS_ELEMENT_TYPE_NAME_CODE)
      (uintXBytes header.elementTypeNameCode),
    fieldBytes (flagsCheck flags MESSAGEELEMENT_FLAGS_META_INFO) (string4Bytes header.metadata)]

def messageElementHeader4Bytes (header : MessageElementConstHeader) (elementSize dataCount : Nat) :
    List UInt8 :=
  (paddedUintXBytes (UInt32.ofNat elementSize) :: (messageElementHeader4Fields header ++
    [paddedUintXBytes (UInt32.ofNat dataCount)])).flatten

/-- The header of an element with `dataLen` items, and with `elemSize` bytes in all. -/
def messageElementDataHeader2Bytes (elementName : ConstString) (dataLen : Nat) (dataType : UInt16)
    (elemSize : Nat) : List UInt8 :=
  [leBytes 4 elemSize, string2Bytes elementName, leBytes 2 dataType.toNat, leBytes 2 0, leBytes 2 0,
    leBytes 4 dataLen].flatten

def messageElementDataHeader4Bytes (elementName : ConstString) (dataLen : Nat) (dataType : UInt16)
    (elemSize : Nat) : List UInt8 :=
  let named := elementName.len != 0
  [uintXBytes (UInt32.ofNat elemSize),
    leBytes 1 (flagsSetIf named 0 MESSAGEELEMENT_FLAGS_ELEMENT_NAME_STR).toNat,
    fieldBytes named (string4Bytes elementName), leBytes 2 dataType.toNat,
    uintXBytes (UInt32.ofNat dataLen)].flatten

/-! ## Fields -/

variable {o : Nat}

theorem bufferUpdate_putsAt {copy : BufferVec → Result BufferVec} {bs : List UInt8}
    (hcopy : ∀ v, copy v = v.store o bs) :
    PutsAt BufferVec.bytes o bs (fun _ => True) (bufferUpdate copy) := by
  intro v
  rw [bufferUpdate, ExceptT.mk, hcopy]
  cases h : v.store o bs with
  | error e => exact KeptOutside.refl _ _ _ v
  | ok w =>
      obtain ⟨hin, hbytes⟩ := BufferVec.bytes_of_store h
      exact ⟨trivial, hbytes, Or.inr hin⟩

theorem messageWriteVal_puts {α : Type} {copy : BufferVec → Nat → α → Result BufferVec} {size : Nat}
    {val : α} {bs : List UInt8} (hcopy : ∀ v pos, copy v pos val = v.store pos bs)
    (hsize : size = bs.length) :
    Puts BufferVec.bytes o bs (fun _ => True) (messageWriteVal copy size val) := by
  intro v
  rw [messageWriteVal, buffered_bind_apply, bufferUpdate, ExceptT.mk, hcopy]
  cases h : v.store o bs with
  | error e => exact KeptOutside.refl _ _ _ v
  | ok w =>
      obtain ⟨hin, hbytes⟩ := BufferVec.bytes_of_store h
      have hv := v.length_bytes
      have hnext : addSz o size = o + bs.length := by
        rw [hsize]
        exact addSz_eq (by omega)
      exact ⟨⟨trivial, hnext⟩, hbytes, Or.inr hin⟩

theorem messageWriteUInt_puts {α : Type} {copy : BufferVec → Nat → α → Result BufferVec} {size : Nat}
    {val : α} {n : Nat} (h0 : 0 < size) (h : size ≤ 16)
    (hcopy : ∀ v pos, copy v pos val = bufferVecCopyFromUInt v pos size n) :
    Puts BufferVec.bytes o (leBytes size n) (fun _ => True) (messageWriteVal copy size val) :=
  messageWriteVal_puts (fun v pos => (hcopy v pos).trans (bufferVecCopyFromUInt_eq v pos n h0 h))
    (length_leBytes size n).symm

theorem messageWriteUint32_puts (val : UInt32) :
    Puts BufferVec.bytes o (leBytes 4 val.toNat) (fun _ => True) (messageWriteUint32 val) :=
  messageWriteUInt_puts (by decide) (by decide) fun _ _ => rfl

theorem messageWriteUint16_puts (val : UInt16) :
    Puts BufferVec.bytes o (leBytes 2 val.toNat) (fun _ => True) (messageWriteUint16 val) :=
  messageWriteUInt_puts (by decide) (by decide) fun _ _ => rfl

theorem messageWriteUint8_puts (val : UInt8) :
    Puts BufferVec.bytes o (leBytes 1 val.toNat) (fun _ => True) (messageWriteUint8 val) :=
  messageWriteUInt_puts (by decide) (by decide) fun _ _ => rfl

/-- A value that was cut to fewer bytes than it has spells the same bytes. -/
theorem messageWriteUint16_ofNat_puts (n : Nat) :
    Puts BufferVec.bytes o (leBytes 2 n) (fun _ => True) (messageWriteUint16 (UInt16.ofNat n)) := by
  have h := messageWriteUint16_puts (o := o) (UInt16.ofNat n)
  rw [UInt16.toNat_ofNat', show (2 : Nat) ^ 16 = 256 ^ 2 by decide, leBytes_mod] at h
  exact h

theorem messageWriteUint32_ofNat_puts (n : Nat) :
    Puts BufferVec.bytes o (leBytes 4 n) (fun _ => True) (messageWriteUint32 (UInt32.ofNat n)) := by
  have h := messageWriteUint32_puts (o := o) (UInt32.ofNat n)
  rw [UInt32.toNat_ofNat', show (2 : Nat) ^ 32 = 256 ^ 4 by decide, leBytes_mod] at h
  exact h

theorem messageWriteUint16_toUInt16_puts (n : UInt32) :
    Puts BufferVec.bytes o (leBytes 2 n.toNat) (fun _ => True) (messageWriteUint16 n.toUInt16) := by
  have h := messageWriteUint16_puts (o := o) n.toUInt16
  rw [UInt32.toNat_toUInt16, show (2 : Nat) ^ 16 = 256 ^ 2 by decide, leBytes_mod] at h
  exact h

theorem messageWriteUintX_puts (val : UInt32) :
    Puts BufferVec.bytes o (uintXBytes val) (fun _ => True) (messageWriteUintX val) := by
  unfold messageWriteUintX uintXBytes
  split
  · have h := messageWriteUint8_puts (o := o) val.toUInt8
    rw [UInt32.toNat_toUInt8, show (2 : Nat) ^ 8 = 256 ^ 1 by decide, leBytes_mod] at h
    exact h
  · split
    · exact (messageWriteUint8_puts 253).bind fun _ _ => messageWriteUint16_toUInt16_puts val
    · exact (messageWriteUint8_puts 254).bind fun _ _ => messageWriteUint32_puts val

theorem messageWriteIntX_puts (val : Int32) :
    Puts BufferVec.bytes o (intXBytes val) (fun _ => True) (messageWriteIntX val) := by
  have h8 (o : Nat) (n : Int8) : Puts BufferVec.bytes o (leBytes 1 n.toUInt8.toNat) (fun _ => True)
      (messageWriteInt8 n) := messageWriteUInt_puts (by decide) (by decide) fun _ _ => rfl
  unfold messageWriteIntX intXBytes
  split
  · exact h8 o val.toInt8
  · split
    · exact (h8 o 125).bind fun _ _ => messageWriteUInt_puts (by decide) (by decide) fun _ _ => rfl
    · exact (h8 o 126).bind fun _ _ => messageWriteUInt_puts (by decide) (by decide) fun _ _ => rfl

theorem messageWritePaddedUintX_puts (count : UInt32) :
    Puts BufferVec.bytes o (paddedUintXBytes count) (· = o + 1) (messageWritePaddedUintX count) := by
  refine (messageWriteUint8_puts 254).bind fun _ _ => ?_
  exact Puts.get_bind ((messageWriteUint32_puts count).bind_pure fun _ _ => rfl)

theorem failIf_putsAt {p : Prop} [Decidable p] (e : Status) :
    PutsAt BufferVec.bytes o [] (fun _ => ¬ p) (failIf p e : BufferM Unit) :=
  PutsAt.ite (fun _ => PutsAt.throw e) fun hp => PutsAt.pure hp

theorem failIf_puts {p : Prop} [Decidable p] (e : Status) :
    Puts BufferVec.bytes o [] (fun _ => ¬ p) (failIf p e : Writing Unit) :=
  Puts.ite (fun _ => Puts.throw e) fun hp => Puts.pure hp

theorem liftResult_puts {α : Type} (r : Result α) :
    Puts BufferVec.bytes o [] (fun a => r = .ok a) (liftResult r) := by
  cases r with
  | ok a => exact Puts.pure rfl
  | error e => exact Puts.throw e

theorem messageWriteHeaderString_puts {writeLen : Writing Unit} {str : ConstString}
    {bs : List UInt8} (hlen : Puts BufferVec.bytes o bs (fun _ => True) writeLen) :
    Puts BufferVec.bytes o (bs ++ str.data) (fun _ => str.len ≤ UINT32_MAX)
      (messageWriteHeaderString writeLen str) := by
  refine Puts.bind (y := bs ++ str.data) (failIf_puts _) fun _ hfits => ?_
  have hle : str.len ≤ UINT32_MAX := Nat.le_of_not_gt hfits
  refine hlen.bind fun _ _ => ?_
  by_cases h0 : str.len > 0
  · rw [if_pos h0]
    exact (messageWriteVal_puts (fun v pos => bufferVecCopyFromBytes_eq v pos str.addressable
      (List.length_pos_iff.mp h0)) rfl).mono fun _ _ => hle
  · rw [if_neg h0, List.eq_nil_of_length_eq_zero (Nat.eq_zero_of_not_pos h0)]
    exact Puts.pure hle

theorem messageWriteHeaderStringWithLenPrefix2_puts (str : ConstString) :
    Puts BufferVec.bytes o (string2Bytes str) (fun _ => str.len ≤ UINT32_MAX)
      (messageWriteHeaderStringWithLenPrefix2 str) :=
  messageWriteHeaderString_puts (messageWriteUint16_ofNat_puts str.len)

theorem messageWriteHeaderStringWithLenPrefix4_puts (str : ConstString) :
    Puts BufferVec.bytes o (string4Bytes str) (fun _ => str.len ≤ UINT32_MAX)
      (messageWriteHeaderStringWithLenPrefix4 str) :=
  messageWriteHeaderString_puts (messageWriteUintX_puts _)

theorem writeIf_puts {present : Bool} {write : Writing Unit} {bs : List UInt8} {q : Prop}
    (h : Puts BufferVec.bytes o bs (fun _ => q) write) :
    Puts BufferVec.bytes o (fieldBytes present bs) (fun _ => present = true → q)
      (writeIf present write) := by
  cases present with
  | true => exact h.mono fun _ hq _ => hq
  | false => exact Puts.pure nofun

theorem messageWriteMagic_puts :
    Puts BufferVec.bytes o [0x52, 0x52, 0x41, 0x43] (fun _ => True) messageWriteMagic := by
  have hmod := SizeT.le_modulus
  have haddr : 2 * ([0x52, 0x52, 0x41, 0x43] : List UInt8).length < SizeT.modulus := by
    simp only [List.length_cons, List.length_nil]
    omega
  exact messageWriteVal_puts (fun v pos => bufferVecCopyFromBytes_eq v pos haddr (by decide)) rfl

theorem messageWriteNodeid_puts (id : NodeId) :
    Puts BufferVec.bytes o id.data (fun _ => True) (messageWriteNodeid id) := by
  have hmod := SizeT.le_modulus
  have hlen := id.length_data
  have hcopy (v : BufferVec) (pos : Nat) :
      bufferVecCopyFromUint8Array v pos id.data 0 16 = v.store pos id.data := by
    rw [← bufferVecCopyFromBytes_eq v pos (by omega) (List.ne_nil_of_length_pos (by omega)),
      bufferVecCopyFromUint8Array, hlen]
  exact messageWriteVal_puts hcopy hlen.symm

/-! ## Strings and flags -/

/-- No string of the header is longer than `bound`. -/
def MessageHeaderOf.StringsWithin (bound : Nat) (header : MessageConstHeader) : Prop :=
  header.senderNodename.len ≤ bound ∧ header.receiverNodename.len ≤ bound ∧
    header.metadata.len ≤ bound

def MessageEntryHeaderOf.StringsWithin (bound : Nat) (header : MessageEntryConstHeader) : Prop :=
  header.servicePath.len ≤ bound ∧ header.memberName.len ≤ bound ∧ header.metadata.len ≤ bound

def MessageElementHeaderOf.StringsWithin (bound : Nat) (header : MessageElementConstHeader) : Prop :=
  header.elementName.len ≤ bound ∧ header.elementTypeName.len ≤ bound ∧
    header.metadata.len ≤ bound

/-- A string that is written when it is not empty. -/
theorem ConstString.len_le_of_written {str : ConstString} {bound : Nat} {flag : Bool}
    (hflag : flag = decide (str.len > 0)) (h : flag = true → str.len ≤ bound) :
    str.len ≤ bound := by
  rcases Nat.eq_zero_or_pos str.len with h0 | hpos
  · omega
  · exact h (by rw [hflag, decide_eq_true hpos])

/-- A section is there when the mask allows it and it has something to say. The unreliable flag
never is. -/
theorem messageHeader4Flags_check (header : MessageConstHeader) (mask : BitVec 8) :
    let flags := messageHeader4Flags header mask
    flagsCheck flags MESSAGE_FLAGS_ROUTING_INFO = (flagsCheck mask MESSAGE_FLAGS_ROUTING_INFO &&
      (!nodeidIsany header.senderNodeid || !nodeidIsany header.receiverNodeid ||
        header.senderNodename.len != 0 || header.receiverNodename.len != 0)) ∧
    flagsCheck flags MESSAGE_FLAGS_ENDPOINT_INFO = (flagsCheck mask MESSAGE_FLAGS_ENDPOINT_INFO &&
      (header.senderEndpoint != 0 || header.receiverEndpoint != 0)) ∧
    flagsCheck flags MESSAGE_FLAGS_PRIORITY =
      (flagsCheck mask MESSAGE_FLAGS_PRIORITY && header.priority != 0) ∧
    flagsCheck flags MESSAGE_FLAGS_META_INFO = (flagsCheck mask MESSAGE_FLAGS_META_INFO &&
      (header.metadata.len != 0 || header.messageId != 0 || header.messageResId != 0)) ∧
    flagsCheck flags MESSAGE_FLAGS_MULTIPLE_ENTRIES =
      (flagsCheck mask MESSAGE_FLAGS_MULTIPLE_ENTRIES && header.entryCount != 1) ∧
    flagsCheck flags MESSAGE_FLAGS_UNRELIABLE = false ∧
    flagsCheck flags MESSAGE_FLAGS_STRING_TABLE = false ∧
    flagsCheck flags MESSAGE_FLAGS_EXTENDED = false := by
  simp only [messageHeader4Flags, or_and_self_right, flagsCheck_flagsSetIf]
  refine ⟨?_, ?_, ?_, ?_, ?_, ?_, ?_, ?_⟩ <;>
    simp [flagsCheck, MESSAGE_FLAGS_ROUTING_INFO, MESSAGE_FLAGS_ENDPOINT_INFO,
      MESSAGE_FLAGS_PRIORITY, MESSAGE_FLAGS_META_INFO, MESSAGE_FLAGS_MULTIPLE_ENTRIES,
      MESSAGE_FLAGS_UNRELIABLE, MESSAGE_FLAGS_STRING_TABLE, MESSAGE_FLAGS_EXTENDED]

/-- A section is there when it has something to say. -/
theorem messageEntryHeader4Flags_check (header : MessageEntryConstHeader) :
    let flags := messageEntryHeader4Flags header
    flagsCheck flags MESSAGEENTRY_FLAGS_SERVICE_PATH_STR = decide (header.servicePath.len > 0) ∧
    flagsCheck flags MESSAGEENTRY_FLAGS_SERVICE_PATH_CODE = (header.servicePathCode != 0) ∧
    flagsCheck flags MESSAGEENTRY_FLAGS_MEMBER_NAME_STR = decide (header.memberName.len > 0) ∧
    flagsCheck flags MESSAGEENTRY_FLAGS_MEMBER_NAME_CODE = false ∧
    flagsCheck flags MESSAGEENTRY_FLAGS_REQUEST_ID = (header.requestId != 0) ∧
    flagsCheck flags MESSAGEENTRY_FLAGS_ERROR = (header.error != 0) ∧
    flagsCheck flags MESSAGEENTRY_FLAGS_META_INFO = decide (header.metadata.len > 0) ∧
    flagsCheck flags MESSAGEENTRY_FLAGS_EXTENDED = false := by
  simp only [messageEntryHeader4Flags, flagsCheck_flagsSetIf]
  refine ⟨?_, ?_, ?_, ?_, ?_, ?_, ?_, ?_⟩ <;>
    simp [flagsCheck, MESSAGEENTRY_FLAGS_SERVICE_PATH_STR, MESSAGEENTRY_FLAGS_SERVICE_PATH_CODE,
      MESSAGEENTRY_FLAGS_MEMBER_NAME_STR, MESSAGEENTRY_FLAGS_MEMBER_NAME_CODE,
      MESSAGEENTRY_FLAGS_REQUEST_ID, MESSAGEENTRY_FLAGS_ERROR, MESSAGEENTRY_FLAGS_META_INFO,
      MESSAGEENTRY_FLAGS_EXTENDED]

theorem messageElementHeader4Flags_check (header : MessageElementConstHeader) :
    let flags := messageElementHeader4Flags header
    flagsCheck flags MESSAGEELEMENT_FLAGS_ELEMENT_NAME_STR = decide (header.elementName.len > 0) ∧
    flagsCheck flags MESSAGEELEMENT_FLAGS_ELEMENT_NAME_CODE = (header.elementNameCode != 0) ∧
    flagsCheck flags MESSAGEELEMENT_FLAGS_ELEMENT_NUMBER = (header.elementNumber != 0) ∧
    flagsCheck flags MESSAGEELEMENT_FLAGS_ELEMENT_TYPE_NAME_STR =
      decide (header.elementTypeName.len > 0) ∧
    flagsCheck flags MESSAGEELEMENT_FLAGS_ELEMENT_TYPE_NAME_CODE =
      (header.elementTypeNameCode != 0) ∧
    flagsCheck flags MESSAGEELEMENT_FLAGS_META_INFO = decide (header.metadata.len > 0) ∧
    flagsCheck flags MESSAGEELEMENT_FLAGS_EXTENDED = false := by
  simp only [messageElementHeader4Flags, flagsCheck_flagsSetIf]
  refine ⟨?_, ?_, ?_, ?_, ?_, ?_, ?_⟩ <;>
    simp [flagsCheck, MESSAGEELEMENT_FLAGS_ELEMENT_NAME_STR,
      MESSAGEELEMENT_FLAGS_ELEMENT_NAME_CODE, MESSAGEELEMENT_FLAGS_ELEMENT_NUMBER,
      MESSAGEELEMENT_FLAGS_ELEMENT_TYPE_NAME_STR, MESSAGEELEMENT_FLAGS_ELEMENT_TYPE_NAME_CODE,
      MESSAGEELEMENT_FLAGS_META_INFO, MESSAGEELEMENT_FLAGS_EXTENDED]

/-! ## Headers -/

theorem length_messageHeader2Bytes (header : MessageConstHeader) (headerSize : UInt16)
    (messageSize : Nat) :
    (messageHeader2Bytes header headerSize messageSize).length = 64 + header.senderNodename.len +
      header.receiverNodename.len + header.metadata.len := by
  simp only [messageHeader2Bytes, List.flatten_cons, List.flatten_nil, List.length_append,
    List.length_cons, List.length_nil, length_leBytes, length_string2Bytes,
    header.senderNodeid.length_data, header.receiverNodeid.length_data]
  omega

/-- The size field of a version 2 header. -/
def messageHeader2Size (header : MessageConstHeader) : UInt16 :=
  UInt16.ofNat (addSz (addSz (addSz header.senderNodename.len header.receiverNodename.len)
    header.metadata.len) 64)

theorem messageWriterWriteHeader2Ex_puts (header : MessageConstHeader) :
    Puts BufferVec.bytes o (messageHeader2Bytes header (messageHeader2Size header) 0)
      (fun r => r.1.headerSize = (messageHeader2Size header).toUInt32 ∧
        r.1.headerSize.toNat = r.2.headerSize ∧ r.2.startBufferOffset = o ∧
        r.2.headerSize = (messageHeader2Bytes header (messageHeader2Size header) 0).length ∧
        r.2.entryCountOffset + 6 = o + r.2.headerSize ∧ header.StringsWithin UINT16_MAX ∧
        header.entryCount.toNat ≤ UINT16_MAX)
      (messageWriterWriteHeader2Ex header) := by
  unfold messageWriterWriteHeader2Ex
  refine Puts.nil_bind (failIf_puts _) fun _ hfits => ?_
  refine Puts.get_bind ?_
  refine messageWriteMagic_puts.bind fun _ _ => ?_
  refine (messageWriteUint32_puts 0).bind fun _ _ => ?_
  refine (messageWriteUint16_puts 2).bind fun _ _ => ?_
  refine (messageWriteUint16_puts _).bind fun _ _ => ?_
  refine (messageWriteNodeid_puts _).bind fun _ _ => ?_
  refine (messageWriteNodeid_puts _).bind fun _ _ => ?_
  refine (messageWriteUint32_puts _).bind fun _ _ => ?_
  refine (messageWriteUint32_puts _).bind fun _ _ => ?_
  refine (messageWriteHeaderStringWithLenPrefix2_puts _).bind fun _ _ => ?_
  refine (messageWriteHeaderStringWithLenPrefix2_puts _).bind fun _ _ => ?_
  refine (messageWriteHeaderStringWithLenPrefix2_puts _).bind fun _ _ => ?_
  refine Puts.get_bind ?_
  refine Puts.nil_bind (failIf_puts _) fun _ hcount => ?_
  refine (messageWriteUint16_toUInt16_puts _).bind fun _ _ => ?_
  refine (messageWriteUint16_puts _).bind fun _ _ => ?_
  refine (messageWriteUint16_puts _).bind fun _ _ => ?_
  refine Puts.get_bind (Puts.pure ?_)
  have hmod := SizeT.le_modulus
  have hstrings : header.StringsWithin UINT16_MAX := by
    unfold MessageHeaderOf.StringsWithin
    omega
  rw [UINT16_MAX] at hfits
  have hsize : (messageHeader2Size header).toNat =
      (messageHeader2Bytes header (messageHeader2Size header) 0).length := by
    rw [length_messageHeader2Bytes, messageHeader2Size, UInt16.toNat_ofNat']
    rw [addSz_eq (by omega : header.senderNodename.len + header.receiverNodename.len < SizeT.modulus),
      addSz_eq (by omega : header.senderNodename.len + header.receiverNodename.len +
        header.metadata.len < SizeT.modulus), addSz_eq (by omega)] at hfits ⊢
    omega
  refine ⟨rfl, rfl, rfl, hsize, ?_, hstrings, Nat.le_of_not_gt hcount⟩
  change _ = o + (messageHeader2Size header).toNat
  rw [hsize, length_messageHeader2Bytes]
  simp only [List.length_cons, List.length_nil, length_leBytes, length_string2Bytes,
    NodeId.length_data]
  omega

/-- The size a version 4 header gets, zero where it has none. -/
def messageHeader4TotalSize (header : MessageConstHeader) (flags : BitVec 8) : Nat :=
  match messageHeader4Size header flags with
  | .error _ => 0
  | .ok size =>
      match messageLenPlusUintX (UInt32.ofNat size) with
      | .error _ => 0
      | .ok (_, s) => addSz size s

/-- The end of a version 4 header: the entry count if there is one, and the check of the
size. -/
theorem writeHeader4End_puts {α : Type} {start headerSize : Nat} {many : Bool} {count : UInt32}
    {f : Nat → Nat → α} {Q : α → Prop}
    (hq : ∀ countOffset next, next = o + (fieldBytes many (paddedUintXBytes count)).length →
      (if many then countOffset + 4 = next else countOffset = sizeTMax) →
      subSz next start = headerSize → Q (f countOffset next)) :
    Puts BufferVec.bytes o (fieldBytes many (paddedUintXBytes count)) Q
      (if many then messageWritePaddedUintX count >>= fun countOffset => do
          let next ← get
          failIf (subSz next start ≠ headerSize) .internalError
          pure (f countOffset next)
        else pure sizeTMax >>= fun countOffset => do
          let next ← get
          failIf (subSz next start ≠ headerSize) .internalError
          pure (f countOffset next)) := by
  cases many with
  | true =>
      refine Puts.bind (y := []) (messageWritePaddedUintX_puts count) fun countOffset hcount => ?_
      refine Puts.get_bind (Puts.nil_bind (failIf_puts _) fun _ hend => Puts.pure ?_)
      refine hq _ _ rfl ?_ (not_not.mp hend)
      rw [if_pos rfl, hcount, length_paddedUintXBytes]
  | false =>
      refine Puts.nil_bind (Q := (· = sizeTMax)) (Puts.pure rfl) fun countOffset hcount => ?_
      refine Puts.get_bind (Puts.nil_bind (failIf_puts _) fun _ hend => Puts.pure ?_)
      exact hq _ _ rfl hcount (not_not.mp hend)

/-- The size of what lies between two offsets. -/
theorem subSz_of_eq_add {k o n : Nat} (hk : k = o + n) (hlt : k < SizeT.modulus) :
    subSz k o = n := by
  rw [subSz_eq (by omega) hlt, hk, Nat.add_sub_cancel_left]

theorem messageWriterWriteHeader4Ex_puts (header : MessageConstHeader)
    (messageFlagsMask : BitVec 8) {flags : BitVec 8} {bytes : List UInt8}
    (hflags : flags = messageHeader4Flags header messageFlagsMask)
    (hbytes : bytes = messageHeader4Bytes header flags
      (UInt32.ofNat (messageHeader4TotalSize header flags)) 0) :
    Puts BufferVec.bytes o bytes
      (fun r => r.1.headerSize = UInt32.ofNat (messageHeader4TotalSize header flags) ∧
        r.1.headerSize.toNat = r.2.headerSize ∧ r.2.startBufferOffset = o ∧
        (o + bytes.length < SizeT.modulus → r.2.headerSize = bytes.length) ∧
        (if flagsCheck flags MESSAGE_FLAGS_MULTIPLE_ENTRIES then
          r.2.entryCountOffset + 4 = o + bytes.length
        else r.2.entryCountOffset = sizeTMax) ∧
        (flagsCheck flags MESSAGE_FLAGS_ROUTING_INFO = true →
          header.senderNodename.len ≤ UINT32_MAX) ∧
        (flagsCheck flags MESSAGE_FLAGS_ROUTING_INFO = true →
          header.receiverNodename.len ≤ UINT32_MAX) ∧
        (flagsCheck flags MESSAGE_FLAGS_META_INFO = true → header.metadata.len ≤ UINT32_MAX))
      (messageWriterWriteHeader4Ex header messageFlagsMask) := by
  unfold messageWriterWriteHeader4Ex
  rw [← hflags]
  clear hflags
  refine Puts.nil_bind (liftResult_puts _) fun size hsize => ?_
  refine Puts.nil_bind (failIf_puts _) fun _ _ => ?_
  refine Puts.nil_bind (liftResult_puts _) fun p hp => ?_
  obtain ⟨total, s⟩ := p
  refine Puts.nil_bind (failIf_puts _) fun _ hmax => ?_
  have htotal : messageHeader4TotalSize header flags = addSz size s := by
    rw [messageHeader4TotalSize, hsize]
    dsimp only
    rw [hp]
  rw [htotal] at hbytes
  obtain ⟨k, hk⟩ : ∃ k, k = o + bytes.length := ⟨_, rfl⟩
  rw [← hk]
  have hlength (hlt : k < SizeT.modulus) : subSz k o = bytes.length := subSz_of_eq_add hk hlt
  rw [hbytes]
  refine Puts.get_bind ?_
  refine messageWriteMagic_puts.bind fun _ _ => ?_
  refine (messageWriteUint32_puts 0).bind fun _ _ => ?_
  refine (messageWriteUint16_puts 4).bind fun _ _ => ?_
  refine (messageWriteUintX_puts _).bind fun _ _ => ?_
  refine (messageWriteUint8_puts _).bind fun _ _ => ?_
  refine (writeIf_puts (messageWriteNodeid_puts _)).bind fun _ _ => ?_
  refine (writeIf_puts (messageWriteNodeid_puts _)).bind fun _ _ => ?_
  refine (writeIf_puts (messageWriteHeaderStringWithLenPrefix4_puts _)).bind fun _ hsender => ?_
  refine (writeIf_puts (messageWriteHeaderStringWithLenPrefix4_puts _)).bind fun _ hreceiver => ?_
  refine (writeIf_puts (messageWriteUintX_puts _)).bind fun _ _ => ?_
  refine (writeIf_puts (messageWriteUintX_puts _)).bind fun _ _ => ?_
  refine (writeIf_puts (messageWriteUint16_puts _)).bind fun _ _ => ?_
  refine (writeIf_puts (messageWriteHeaderStringWithLenPrefix4_puts _)).bind fun _ hmeta => ?_
  refine (writeIf_puts (messageWriteUint16_puts _)).bind fun _ _ => ?_
  refine (writeIf_puts (messageWriteUint16_puts _)).bind fun _ _ => ?_
  rw [List.flatten_singleton]
  refine writeHeader4End_puts fun countOffset next hnext hcount hend => ?_
  have hk' : next = k := by
    rw [hnext, hk, hbytes, messageHeader4Bytes]
    simp only [List.flatten_cons, List.flatten_nil, List.length_append, List.length_nil,
      length_leBytes]
    omega
  rw [hk'] at hcount hend
  refine ⟨congrArg UInt32.ofNat htotal.symm, ?_, rfl, fun hlt => ?_, hcount, hsender, hreceiver,
    hmeta⟩
  · change (UInt32.ofNat (addSz size s)).toNat = addSz size s
    exact UInt32.toNat_ofNat_of_lt' (Nat.lt_succ_of_le (Nat.le_of_not_gt hmax))
  · rw [← hbytes, ← hlength hlt]
    exact hend.symm

theorem messageEntryWriterWriteHeader2Ex_puts (entryWriter : MessageEntryWriter)
    (header : MessageEntryConstHeader) {bytes : List UInt8}
    (hbytes : bytes = messageEntryHeader2Bytes header 0 0) :
    Puts BufferVec.bytes entryWriter.bufferOffset bytes
      (fun info => (entryWriter.bufferOffset + bytes.length < SizeT.modulus →
          info.headerSize = bytes.length) ∧ info.entrySizeOffset = entryWriter.bufferOffset ∧
        info.elementCountOffset + 2 = entryWriter.bufferOffset + bytes.length ∧
        header.StringsWithin UINT32_MAX)
      (messageEntryWriterWriteHeader2Ex entryWriter header) := by
  unfold messageEntryWriterWriteHeader2Ex
  generalize entryWriter.bufferOffset = o
  obtain ⟨k, hk⟩ : ∃ k, k = o + bytes.length := ⟨_, rfl⟩
  rw [← hk]
  have hlength (hlt : k < SizeT.modulus) : subSz k o = bytes.length := subSz_of_eq_add hk hlt
  rw [hbytes] at hk ⊢
  refine Puts.get_bind ?_
  refine (messageWriteUint32_puts 0).bind fun _ _ => ?_
  refine (messageWriteUint16_puts _).bind fun _ _ => ?_
  refine (messageWriteUint16_puts 0).bind fun _ _ => ?_
  refine (messageWriteHeaderStringWithLenPrefix2_puts _).bind fun _ hpath => ?_
  refine (messageWriteHeaderStringWithLenPrefix2_puts _).bind fun _ hmember => ?_
  refine (messageWriteUint32_puts _).bind fun _ _ => ?_
  refine (messageWriteUint16_puts _).bind fun _ _ => ?_
  refine (messageWriteHeaderStringWithLenPrefix2_puts _).bind fun _ hmeta => ?_
  refine Puts.nil_bind Puts.get fun countOffset hcount => ?_
  refine (messageWriteUint16_puts 0).bind fun _ _ => ?_
  refine Puts.nil_bind Puts.get fun next hnext => Puts.pure ?_
  have hk' : next = k := by
    rw [hnext, hk, messageEntryHeader2Bytes]
    simp only [List.flatten_cons, List.flatten_nil, List.length_append, List.length_nil,
      length_leBytes]
    omega
  refine ⟨fun hlt => ?_, rfl, ?_, hpath, hmember, hmeta⟩
  · rw [← hbytes, ← hlength hlt, ← hk']
  · rw [← hk', hnext, ← hcount]
    exact congrArg (countOffset + ·) (length_leBytes _ _).symm

theorem messageEntryWriterWriteHeader4Ex_puts (entryWriter : MessageEntryWriter)
    (header : MessageEntryConstHeader) {bytes : List UInt8}
    (hbytes : bytes = messageEntryHeader4Bytes header 0 0) :
    Puts BufferVec.bytes entryWriter.bufferOffset bytes
      (fun info => (entryWriter.bufferOffset + bytes.length < SizeT.modulus →
          info.headerSize = bytes.length) ∧ info.entrySizeOffset = entryWriter.bufferOffset + 1 ∧
        info.elementCountOffset + 4 = entryWriter.bufferOffset + bytes.length ∧
        header.StringsWithin UINT32_MAX)
      (messageEntryWriterWriteHeader4Ex entryWriter header) := by
  unfold messageEntryWriterWriteHeader4Ex
  generalize entryWriter.bufferOffset = o
  obtain ⟨k, hk⟩ : ∃ k, k = o + bytes.length := ⟨_, rfl⟩
  rw [← hk]
  have hlength (hlt : k < SizeT.modulus) : subSz k o = bytes.length := subSz_of_eq_add hk hlt
  rw [hbytes] at hk ⊢
  refine Puts.get_bind ?_
  refine (messageWritePaddedUintX_puts 0).bind fun sizeOffset hsize => ?_
  refine (messageWriteUint8_puts _).bind fun _ _ => ?_
  refine (messageWriteUint16_puts _).bind fun _ _ => ?_
  refine (writeIf_puts (messageWriteHeaderStringWithLenPrefix4_puts _)).bind fun _ hpath => ?_
  refine (writeIf_puts (messageWriteUintX_puts _)).bind fun _ _ => ?_
  refine (writeIf_puts (messageWriteHeaderStringWithLenPrefix4_puts _)).bind fun _ hmember => ?_
  refine (writeIf_puts (messageWriteUintX_puts _)).bind fun _ _ => ?_
  refine (writeIf_puts (messageWriteUintX_puts _)).bind fun _ _ => ?_
  refine (writeIf_puts (messageWriteUint16_puts _)).bind fun _ _ => ?_
  refine (writeIf_puts (messageWriteHeaderStringWithLenPrefix4_puts _)).bind fun _ hmeta => ?_
  refine (messageWritePaddedUintX_puts 0).bind fun countOffset hcount => ?_
  refine Puts.nil_bind Puts.get fun next hnext => Puts.pure ?_
  have hk' : next = k := by
    rw [hnext, hk, messageEntryHeader4Bytes, messageEntryHeader4Fields]
    simp only [List.cons_append, List.nil_append, List.flatten_cons, List.flatten_nil,
      List.length_append, List.length_nil, length_leBytes, length_paddedUintXBytes]
    omega
  obtain ⟨hpathFlag, -, hmemberFlag, -, -, -, hmetaFlag, -⟩ := messageEntryHeader4Flags_check header
  refine ⟨fun hlt => ?_, hsize, ?_, ConstString.len_le_of_written hpathFlag hpath,
    ConstString.len_le_of_written hmemberFlag hmember,
    ConstString.len_le_of_written hmetaFlag hmeta⟩
  · rw [← hbytes, ← hlength hlt, ← hk']
  · rw [← hk', hnext, hcount, length_paddedUintXBytes]

theorem messageElementWriterWriteHeader2Ex_puts (elementWriter : MessageElementWriter)
    (header : MessageElementConstHeader) {bytes : List UInt8}
    (hbytes : bytes = messageElementHeader2Bytes header 0 0) :
    Puts BufferVec.bytes elementWriter.bufferOffset bytes
      (fun info => (elementWriter.bufferOffset + bytes.length < SizeT.modulus →
          info.headerSize = bytes.length) ∧ info.elementSizeOffset = elementWriter.bufferOffset ∧
        info.elementCountOffset + 4 = elementWriter.bufferOffset + bytes.length ∧
        info.dataStartOffset = elementWriter.bufferOffset + bytes.length ∧
        header.StringsWithin UINT32_MAX)
      (messageElementWriterWriteHeader2Ex elementWriter header) := by
  unfold messageElementWriterWriteHeader2Ex
  generalize elementWriter.bufferOffset = o
  obtain ⟨k, hk⟩ : ∃ k, k = o + bytes.length := ⟨_, rfl⟩
  rw [← hk]
  have hlength (hlt : k < SizeT.modulus) : subSz k o = bytes.length := subSz_of_eq_add hk hlt
  rw [hbytes] at hk ⊢
  refine Puts.get_bind ?_
  refine (messageWriteUint32_puts 0).bind fun _ _ => ?_
  refine Puts.get_bind ?_
  refine (messageWriteHeaderStringWithLenPrefix2_puts _).bind fun _ hname => ?_
  refine (messageWriteUint16_puts _).bind fun _ _ => ?_
  refine (messageWriteHeaderStringWithLenPrefix2_puts _).bind fun _ htypeName => ?_
  refine (messageWriteHeaderStringWithLenPrefix2_puts _).bind fun _ hmeta => ?_
  refine Puts.nil_bind Puts.get fun countOffset hcount => ?_
  refine (messageWriteUint32_puts 0).bind fun _ _ => ?_
  refine Puts.nil_bind Puts.get fun next hnext => Puts.pure ?_
  have hk' : next = k := by
    rw [hnext, hk, messageElementHeader2Bytes]
    simp only [List.flatten_cons, List.flatten_nil, List.length_append, List.length_nil,
      length_leBytes]
    omega
  refine ⟨fun hlt => ?_, rfl, ?_, hk', hname, htypeName, hmeta⟩
  · rw [← hbytes, ← hlength hlt, ← hk']
  · rw [← hk', hnext, ← hcount]
    exact congrArg (countOffset + ·) (length_leBytes _ _).symm

theorem messageElementWriterWriteHeader4Ex_puts (elementWriter : MessageElementWriter)
    (header : MessageElementConstHeader) {bytes : List UInt8}
    (hbytes : bytes = messageElementHeader4Bytes header 0 0) :
    Puts BufferVec.bytes elementWriter.bufferOffset bytes
      (fun info => (elementWriter.bufferOffset + bytes.length < SizeT.modulus →
          info.headerSize = bytes.length) ∧ info.elementSizeOffset = elementWriter.bufferOffset + 1 ∧
        info.elementCountOffset + 4 = elementWriter.bufferOffset + bytes.length ∧
        info.dataStartOffset = elementWriter.bufferOffset + bytes.length ∧
        header.StringsWithin UINT32_MAX)
      (messageElementWriterWriteHeader4Ex elementWriter header) := by
  unfold messageElementWriterWriteHeader4Ex
  generalize elementWriter.bufferOffset = o
  obtain ⟨k, hk⟩ : ∃ k, k = o + bytes.length := ⟨_, rfl⟩
  rw [← hk]
  have hlength (hlt : k < SizeT.modulus) : subSz k o = bytes.length := subSz_of_eq_add hk hlt
  rw [hbytes] at hk ⊢
  refine Puts.get_bind ?_
  refine (messageWritePaddedUintX_puts 0).bind fun sizeOffset hsize => ?_
  refine (messageWriteUint8_puts _).bind fun _ _ => ?_
  refine Puts.get_bind ?_
  refine (writeIf_puts (messageWriteHeaderStringWithLenPrefix4_puts _)).bind fun _ hname => ?_
  refine (writeIf_puts (messageWriteUintX_puts _)).bind fun _ _ => ?_
  refine (writeIf_puts (messageWriteIntX_puts _)).bind fun _ _ => ?_
  refine (messageWriteUint16_puts _).bind fun _ _ => ?_
  refine (writeIf_puts (messageWriteHeaderStringWithLenPrefix4_puts _)).bind fun _ htypeName => ?_
  refine (writeIf_puts (messageWriteUintX_puts _)).bind fun _ _ => ?_
  refine (writeIf_puts (messageWriteHeaderStringWithLenPrefix4_puts _)).bind fun _ hmeta => ?_
  refine (messageWritePaddedUintX_puts 0).bind fun countOffset hcount => ?_
  refine Puts.nil_bind Puts.get fun next hnext => Puts.pure ?_
  have hk' : next = k := by
    rw [hnext, hk, messageElementHeader4Bytes, messageElementHeader4Fields]
    simp only [List.cons_append, List.nil_append, List.flatten_cons, List.flatten_nil,
      List.length_append, List.length_nil, length_leBytes, length_paddedUintXBytes]
    omega
  obtain ⟨hnameFlag, -, -, htypeNameFlag, -, hmetaFlag, -⟩ := messageElementHeader4Flags_check header
  refine ⟨fun hlt => ?_, hsize, ?_, hk', ConstString.len_le_of_written hnameFlag hname,
    ConstString.len_le_of_written htypeNameFlag htypeName,
    ConstString.len_le_of_written hmetaFlag hmeta⟩
  · rw [← hbytes, ← hlength hlt, ← hk']
  · rw [← hk', hnext, hcount, length_paddedUintXBytes]

/-! ## Elements with data -/

/-- The size of a version 2 element. -/
def messageElementData2Size (elementName : ConstString) (dataLen dataElemSize : Nat) : Nat :=
  addSz (addSz 16 elementName.len) (mulSz dataLen dataElemSize)

/-- The size of a version 4 element, zero where it has none. -/
def messageElementData4TotalSize (elementName : ConstString) (dataLen dataElemSize : Nat) : Nat :=
  match messageElementData4Size elementName dataLen dataElemSize with
  | .error _ => 0
  | .ok size =>
      match messageLenPlusUintX (UInt32.ofNat size) with
      | .error _ => 0
      | .ok (_, s) => addSz size s

theorem messageElementWriterWriteDataHeader2Ex_puts {elementName : ConstString}
    {dataLen dataElemSize : Nat} {dataType : UInt16} {bytes : List UInt8}
    (hbytes : bytes = messageElementDataHeader2Bytes elementName dataLen dataType
      (messageElementData2Size elementName dataLen dataElemSize)) :
    Puts BufferVec.bytes o bytes
      (fun r => r.1.dataStartOffset = o + bytes.length ∧
        (bytes.length + dataLen * dataElemSize < SizeT.modulus →
          r.2 = bytes.length + dataLen * dataElemSize) ∧
        r.2 = messageElementData2Size elementName dataLen dataElemSize ∧ r.2 ≤ UINT32_MAX ∧
        elementName.len ≤ UINT16_MAX ∧ dataLen ≤ UINT32_MAX)
      (messageElementWriterWriteDataHeader2Ex elementName dataLen dataType dataElemSize) := by
  unfold messageElementWriterWriteDataHeader2Ex
  have hlen : bytes.length = 16 + elementName.len := by
    rw [hbytes, messageElementDataHeader2Bytes]
    simp only [List.flatten_cons, List.flatten_nil, List.length_append, List.length_nil,
      length_leBytes, length_string2Bytes]
    omega
  refine Puts.nil_bind (failIf_puts _) fun _ hname => ?_
  refine Puts.nil_bind (failIf_puts _) fun _ hsize => ?_
  refine Puts.get_bind ?_
  obtain ⟨k, hk⟩ : ∃ k, k = o + bytes.length := ⟨_, rfl⟩
  rw [← hk, hlen]
  rw [hbytes] at hk ⊢
  refine (messageWriteUint32_ofNat_puts _).bind fun _ _ => ?_
  refine Puts.get_bind ?_
  refine (messageWriteHeaderStringWithLenPrefix2_puts _).bind fun _ _ => ?_
  refine (messageWriteUint16_puts _).bind fun _ _ => ?_
  refine (messageWriteUint16_puts 0).bind fun _ _ => ?_
  refine (messageWriteUint16_puts 0).bind fun _ _ => ?_
  refine Puts.nil_bind (failIf_puts _) fun _ hmany => ?_
  refine Puts.get_bind ?_
  refine (messageWriteUint32_ofNat_puts _).bind fun _ _ => ?_
  refine Puts.nil_bind Puts.get fun next hnext => Puts.pure ⟨?_, fun hlt => ?_, rfl,
    Nat.le_of_not_gt hsize, Nat.le_of_not_gt hname, Nat.le_of_not_gt hmany⟩
  · change next = k
    rw [hnext, hk, messageElementDataHeader2Bytes]
    simp only [List.flatten_cons, List.flatten_nil, List.length_append, List.length_nil,
      length_leBytes]
    omega
  · change addSz (addSz 16 elementName.len) (mulSz dataLen dataElemSize) = _
    rw [mulSz_eq (by omega), addSz_eq (by omega : 16 + elementName.len < SizeT.modulus),
      addSz_eq hlt]

theorem messageElementData4Size_spec {elementName : ConstString} {dataLen dataElemSize size : Nat}
    (h : messageElementData4Size elementName dataLen dataElemSize = .ok size) :
    dataLen ≤ UINT32_MAX ∧ size = addSz (addSz (if elementName.len ≠ 0 then
        addSz 3 (addSz (messageUintXSize (UInt32.ofNat elementName.len)) elementName.len) else 3)
      (messageUintXSize (UInt32.ofNat dataLen))) (mulSz dataLen dataElemSize) := by
  unfold messageElementData4Size messageHeaderStringWithLenPrefixSize4 failIf at h
  by_cases hname : elementName.len ≠ 0
  · rw [if_pos hname] at h ⊢
    by_cases hlong : elementName.len > UINT32_MAX
    · rw [if_pos hlong] at h
      cases h
    · rw [if_neg hlong] at h
      by_cases hmany : dataLen > UINT32_MAX
      · simp only [if_pos hmany] at h
        cases h
      · simp only [if_neg hmany] at h
        cases h
        exact ⟨Nat.le_of_not_gt hmany, rfl⟩
  · rw [if_neg hname] at h ⊢
    by_cases hmany : dataLen > UINT32_MAX
    · simp only [if_pos hmany] at h
      cases h
    · simp only [if_neg hmany] at h
      cases h
      exact ⟨Nat.le_of_not_gt hmany, rfl⟩

/-- The size that was added up is the size of what is written. -/
theorem messageElementData4Size_eq {elementName : ConstString} {dataLen dataElemSize size s : Nat}
    {total : UInt32} {dataType : UInt16}
    (hsize : messageElementData4Size elementName dataLen dataElemSize = .ok size)
    (hmax : size ≤ UINT32_MAX) (hs : messageLenPlusUintX (UInt32.ofNat size) = .ok (total, s))
    (hlt : (messageElementDataHeader4Bytes elementName dataLen dataType (addSz size s)).length +
      dataLen * dataElemSize < SizeT.modulus) :
    addSz size s = (messageElementDataHeader4Bytes elementName dataLen dataType
      (addSz size s)).length + dataLen * dataElemSize := by
  have hmod := SizeT.le_modulus
  obtain ⟨hsum, hprefix⟩ := messageLenPlusUintX_spec (Nat.lt_succ_of_le hmax) hs
  obtain ⟨-, hspec⟩ := messageElementData4Size_spec hsize
  rw [addSz_eq (by omega : size + s < SizeT.modulus)] at hlt ⊢
  simp only [messageElementDataHeader4Bytes, List.flatten_cons, List.flatten_nil, List.length_append,
    List.length_nil, length_leBytes, length_uintXBytes, length_fieldBytes, length_string4Bytes,
    hprefix, bne_iff_ne] at hlt ⊢
  have hsize' : size = (if elementName.len ≠ 0 then
      3 + (messageUintXSize (UInt32.ofNat elementName.len) + elementName.len) else 3) +
      messageUintXSize (UInt32.ofNat dataLen) + dataLen * dataElemSize := by
    rw [hspec]
    generalize messageUintXSize (UInt32.ofNat elementName.len) = a at hlt
    generalize messageUintXSize (UInt32.ofNat dataLen) = b at hlt
    split at hlt
    · next hname =>
        rw [if_pos hname, if_pos hname, mulSz_eq (by omega),
          addSz_eq (by omega : a + elementName.len < SizeT.modulus),
          addSz_eq (by omega : 3 + (a + elementName.len) < SizeT.modulus),
          addSz_eq (by omega : 3 + (a + elementName.len) + b < SizeT.modulus), addSz_eq (by omega)]
    · next hname =>
        rw [if_neg hname, if_neg hname, mulSz_eq (by omega),
          addSz_eq (by omega : 3 + b < SizeT.modulus), addSz_eq (by omega)]
  rw [hsize']
  split
  · omega
  · omega

theorem messageElementWriterWriteDataHeader4Ex_puts {elementName : ConstString}
    {dataLen dataElemSize : Nat} {dataType : UInt16} {bytes : List UInt8}
    (hbytes : bytes = messageElementDataHeader4Bytes elementName dataLen dataType
      (messageElementData4TotalSize elementName dataLen dataElemSize)) :
    Puts BufferVec.bytes o bytes
      (fun r => r.1.dataStartOffset = o + bytes.length ∧
        (bytes.length + dataLen * dataElemSize < SizeT.modulus →
          r.2 = bytes.length + dataLen * dataElemSize) ∧
        r.2 = messageElementData4TotalSize elementName dataLen dataElemSize ∧ r.2 ≤ UINT32_MAX ∧
        elementName.len ≤ UINT32_MAX ∧ dataLen ≤ UINT32_MAX)
      (messageElementWriterWriteDataHeader4Ex elementName dataLen dataType dataElemSize) := by
  unfold messageElementWriterWriteDataHeader4Ex
  refine Puts.nil_bind (liftResult_puts _) fun size hsize => ?_
  refine Puts.nil_bind (failIf_puts _) fun _ hmax => ?_
  refine Puts.nil_bind (liftResult_puts _) fun p hs => ?_
  obtain ⟨total, s⟩ := p
  have htotal : messageElementData4TotalSize elementName dataLen dataElemSize = addSz size s := by
    rw [messageElementData4TotalSize, hsize]
    dsimp only
    rw [hs]
  rw [htotal] at hbytes ⊢
  refine Puts.nil_bind (failIf_puts _) fun _ hfits => ?_
  refine Puts.get_bind ?_
  obtain ⟨k, hk⟩ : ∃ k, k = o + bytes.length := ⟨_, rfl⟩
  rw [← hk]
  rw [hbytes] at hk ⊢
  refine (messageWriteUintX_puts _).bind fun _ _ => ?_
  refine (messageWriteUint8_puts _).bind fun _ _ => ?_
  have hnamed : flagsCheck (flagsSetIf (elementName.len != 0) 0 MESSAGEELEMENT_FLAGS_ELEMENT_NAME_STR)
      MESSAGEELEMENT_FLAGS_ELEMENT_NAME_STR = (elementName.len != 0) := by
    cases elementName.len != 0 <;> decide
  rw [hnamed]
  refine (writeIf_puts (messageWriteHeaderStringWithLenPrefix4_puts _)).bind fun _ hname => ?_
  refine (messageWriteUint16_puts _).bind fun _ _ => ?_
  refine (messageWriteUintX_puts _).bind fun _ _ => ?_
  have hname' : elementName.len ≤ UINT32_MAX := by
    by_cases h0 : elementName.len = 0
    · omega
    · exact hname (bne_iff_ne.mpr h0)
  refine Puts.nil_bind Puts.get fun next hnext => Puts.pure ⟨?_, fun hlt => ?_, rfl,
    Nat.le_of_not_gt hfits, hname', (messageElementData4Size_spec hsize).1⟩
  · change next = k
    rw [hnext, hk, messageElementDataHeader4Bytes]
    simp only [List.flatten_cons, List.flatten_nil, List.length_append, List.length_nil,
      length_leBytes]
    omega
  · exact messageElementData4Size_eq hsize (Nat.le_of_not_gt hmax) hs hlt

end

end RobotRaconteurLite

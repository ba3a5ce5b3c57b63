import RobotRaconteurLite.Lib.OffsetReader
import RobotRaconteurLite.Proofs.Layout

/-!
# What the readers make of it

Every header as the readers see it: where the bytes of `Layout` lie, with any
size and any count in their places, a reader answers the header they were made
from, section by section.
-/

namespace RobotRaconteurLite

open OffsetReader LittleEndian Splice

theorem fetch_of_at {bytes bs : List UInt8} {o : Nat} (h0 : 0 < bs.length) (h : At bytes o bs) :
    fetch bytes o bs.length = .ok bs := by
  obtain ⟨hbs, hend⟩ := h
  rw [fetch, if_pos ⟨by omega, hend⟩, hbs]

theorem eq_of_absent {α : Type} [BEq α] [LawfulBEq α] {a d : α} {flag : Bool}
    (hflag : flag = (a != d)) (h : flag = false) : a = d := by
  rw [hflag] at h
  simpa using h

theorem nodeidIsany_eq {id : NodeId} (h : nodeidIsany id = true) : id = NodeId.any := by
  have hzero : id.data = List.replicate 16 0 := by
    rw [List.eq_replicate_iff]
    refine ⟨id.length_data, fun b hb => ?_⟩
    exact eq_of_beq (List.all_eq_true.mp h b hb)
  cases id
  cases hzero
  rfl

/-- A string that has nothing in it. -/
theorem ConstString.eq_empty [SizeT] {str : ConstString} (h : str.len = 0) :
    str = ⟨[], modulus_pos⟩ := by
  have hnil : str.data = [] := List.eq_nil_of_length_eq_zero h
  cases str
  cases hnil
  rfl

/-- A section that a flag does not announce, by the mask or because there is nothing in it. -/
theorem seen_of_absent {α : Type} {present allowed : Bool} {something : Bool} {a d : α}
    (hflag : present = (allowed && something)) (hsame : something = false → a = d)
    (h : present = false) : (if allowed then a else d) = d := by
  cases allowed with
  | false => rfl
  | true =>
      rw [h, Bool.true_and] at hflag
      exact hsame hflag.symm

theorem seen_of_present {α : Type} {present allowed : Bool} {something : Bool} {a d : α}
    (hflag : present = (allowed && something)) (h : present = true) :
    (if allowed then a else d) = a := by
  rw [h] at hflag
  rw [if_pos (Bool.and_eq_true _ _ ▸ hflag.symm : allowed = true ∧ something = true).1]

section

variable [SizeT] {v : BufferVec} {o : Nat}

/-! ## Fields -/

theorem messageReadUInt_parses {α : Type} {copy : BufferVec → Nat → Result α} {g : Nat → α}
    {size n : Nat} (h0 : 0 < size) (h16 : size ≤ 16)
    (hcopy : ∀ pos, copy v pos = (bufferVecCopyToUInt v pos size).map g) :
    Parses v.bytes o (leBytes size n) (· = g (n % 256 ^ size)) (messageReadVal copy size v) := by
  intro hat
  have hlen := length_leBytes size n
  have hsmall := v.length_bytes
  have hend := hat.2
  have hfetch := fetch_of_at (by omega) hat
  rw [hlen] at hfetch hend
  refine ⟨_, ?_, rfl⟩
  show (copy v o).bind (fun a => .ok (a, addSz o size)) = _
  have hnat : leNat (leBytes size n) = n % 256 ^ size := by
    rw [← leBytes_mod]
    exact leNat_leBytes (Nat.mod_lt _ (Nat.pow_pos (by decide)))
  rw [hcopy, bufferVecCopyToUInt_eq v o h0 h16, hfetch, addSz_eq (by omega), hlen, ← hnat]
  rfl

theorem messageReadUint32_parses (n : Nat) :
    Parses v.bytes o (leBytes 4 n) (· = UInt32.ofNat n) (messageReadUint32 v) := by
  refine (messageReadUInt_parses (by decide) (by decide) fun _ => rfl).mono fun a ha => ?_
  rw [ha]
  exact UInt32.ofNat_mod_size

theorem messageReadUint16_parses (n : Nat) :
    Parses v.bytes o (leBytes 2 n) (· = UInt16.ofNat n) (messageReadUint16 v) := by
  refine (messageReadUInt_parses (by decide) (by decide) fun _ => rfl).mono fun a ha => ?_
  rw [ha]
  exact UInt16.ofNat_mod_size

theorem messageReadUint8_parses (n : Nat) :
    Parses v.bytes o (leBytes 1 n) (· = UInt8.ofNat n) (messageReadUint8 v) := by
  refine (messageReadUInt_parses (by decide) (by decide) fun _ => rfl).mono fun a ha => ?_
  rw [ha]
  exact UInt8.ofNat_mod_size

theorem messageReadUint32_val_parses (val : UInt32) :
    Parses v.bytes o (leBytes 4 val.toNat) (· = val) (messageReadUint32 v) :=
  (messageReadUint32_parses val.toNat).mono fun _ ha => ha.trans UInt32.ofNat_toNat

theorem messageReadUint16_val_parses (val : UInt16) :
    Parses v.bytes o (leBytes 2 val.toNat) (· = val) (messageReadUint16 v) :=
  (messageReadUint16_parses val.toNat).mono fun _ ha => ha.trans UInt16.ofNat_toNat

/-- The flags of a version 4 header. -/
theorem messageReadFlags_parses (flags : BitVec 8) :
    Parses v.bytes o (leBytes 1 flags.toNat) (fun flags8 => flags8.toBitVec = flags)
      (messageReadUint8 v) := by
  refine (messageReadUint8_parses flags.toNat).mono fun flags8 hflags => ?_
  rw [hflags]
  exact BitVec.ofNat_toNat _ _

/-- The escape byte of a variable-width integer. -/
theorem messageReadUint8_escape_parses (b : UInt8) :
    Parses v.bytes o [b] (· = b) (messageReadUint8 v) := by
  have h := messageReadUint8_parses (v := v) (o := o) b.toNat
  rw [UInt8.ofNat_toNat] at h
  simpa [leBytes] using h

theorem messageReadUintX_long_parses (val : UInt32) :
    Parses v.bytes o (paddedUintXBytes val) (· = val) (messageReadUintX v) := by
  unfold messageReadUintX paddedUintXBytes
  refine Parses.bind (x := [254]) (messageReadUint8_escape_parses 254) fun b hb => ?_
  subst hb
  rw [if_neg (by decide), if_neg (by decide), if_pos rfl]
  refine (messageReadUint32_parses _).mono fun a ha => ?_
  rw [ha, UInt32.ofNat_toNat]

theorem messageReadUintX_parses (val : UInt32) :
    Parses v.bytes o (uintXBytes val) (· = val) (messageReadUintX v) := by
  unfold uintXBytes
  split
  · next hle =>
      have h252 : (252 : UInt32).toNat = 252 := by decide
      rw [UInt32.le_iff_toNat_le, h252] at hle
      unfold messageReadUintX
      rw [← List.append_nil (leBytes 1 val.toNat)]
      refine (messageReadUint8_parses val.toNat).bind fun b hb => ?_
      have hbNat : b.toNat = val.toNat := by
        rw [hb, UInt8.toNat_ofNat']
        omega
      have hb252 : (252 : UInt8).toNat = 252 := by decide
      rw [if_pos (UInt8.le_iff_toNat_le.mpr (by omega))]
      refine Parses.pure ?_
      apply UInt32.toNat_inj.mp
      rw [UInt8.toNat_toUInt32, hbNat]
  · split
    · next hle =>
        unfold messageReadUintX
        refine Parses.bind (x := [253]) (messageReadUint8_escape_parses 253) fun b hb => ?_
        subst hb
        rw [if_neg (by decide), if_pos rfl]
        refine (messageReadUint16_parses _).bind_pure fun a ha => ?_
        apply UInt32.toNat_inj.mp
        rw [UINT16_MAX] at hle
        rw [ha, UInt16.toNat_toUInt32, UInt16.toNat_ofNat']
        omega
    · exact messageReadUintX_long_parses val

theorem messageReadInt8_parses (val : Int8) :
    Parses v.bytes o (leBytes 1 val.toUInt8.toNat) (· = val)
      (messageReadVal bufferVecCopyToInt8 1 v) := by
  refine (messageReadUInt_parses (g := fun n => (UInt8.ofNat n).toInt8) (by decide) (by decide)
    fun pos => ?_).mono fun a ha => ?_
  · show (bufferVecCopyToUInt v pos 1 |>.map UInt8.ofNat |>.map UInt8.toInt8) = _
    cases bufferVecCopyToUInt v pos 1 <;> rfl
  · rw [ha, show (256 : Nat) ^ 1 = UInt8.size by decide, UInt8.ofNat_mod_size, UInt8.ofNat_toNat]
    rfl

theorem messageReadInt16_parses (val : Int16) :
    Parses v.bytes o (leBytes 2 val.toUInt16.toNat) (· = val)
      (messageReadVal bufferVecCopyToInt16 2 v) := by
  refine (messageReadUInt_parses (g := fun n => (UInt16.ofNat n).toInt16) (by decide) (by decide)
    fun pos => ?_).mono fun a ha => ?_
  · show (bufferVecCopyToUInt v pos 2 |>.map UInt16.ofNat |>.map UInt16.toInt16) = _
    cases bufferVecCopyToUInt v pos 2 <;> rfl
  · rw [ha, show (256 : Nat) ^ 2 = UInt16.size by decide, UInt16.ofNat_mod_size,
      UInt16.ofNat_toNat]
    rfl

theorem messageReadInt32_parses (val : Int32) :
    Parses v.bytes o (leBytes 4 val.toUInt32.toNat) (· = val)
      (messageReadVal bufferVecCopyToInt32 4 v) := by
  refine (messageReadUInt_parses (g := fun n => (UInt32.ofNat n).toInt32) (by decide) (by decide)
    fun pos => ?_).mono fun a ha => ?_
  · show (bufferVecCopyToUInt v pos 4 |>.map UInt32.ofNat |>.map UInt32.toInt32) = _
    cases bufferVecCopyToUInt v pos 4 <;> rfl
  · rw [ha, show (256 : Nat) ^ 4 = UInt32.size by decide, UInt32.ofNat_mod_size,
      UInt32.ofNat_toNat]
    rfl

/-- A signed integer comes back, whichever of the three widths it was given. -/
theorem messageReadIntX_parses (val : Int32) :
    Parses v.bytes o (intXBytes val) (· = val) (messageReadIntX v) := by
  have h124 : (124 : Int8).toInt = 124 := by decide
  unfold intXBytes messageReadIntX
  split
  · next hsmall =>
      have hval : val.toInt8.toInt = val.toInt := by
        rw [Int32.toInt_toInt8]
        exact Int.bmod_eq_of_le (by omega) (by omega)
      rw [← List.append_nil (leBytes 1 _)]
      refine (messageReadInt8_parses val.toInt8).bind fun b hb => ?_
      subst hb
      rw [if_pos (Int8.le_iff_toInt_le.mpr (by omega))]
      refine Parses.pure (Int32.toInt_inj.mp ?_)
      rw [Int8.toInt_toInt32, hval]
  · split
    · next hmid =>
        refine Parses.bind (x := [125]) (messageReadInt8_parses 125) fun b hb => ?_
        subst hb
        rw [if_neg (by decide), if_pos rfl]
        refine (messageReadInt16_parses val.toInt16).bind_pure fun a ha => ?_
        apply Int32.toInt_inj.mp
        rw [ha, Int16.toInt_toInt32, Int32.toInt_toInt16]
        exact Int.bmod_eq_of_le (by omega) (by omega)
    · refine Parses.bind (x := [126]) (messageReadInt8_parses 126) fun b hb => ?_
      subst hb
      rw [if_neg (by decide), if_neg (by decide), if_pos rfl]
      exact messageReadInt32_parses val

theorem messageSkip_parses {bs : List UInt8} {n : Nat} (h : n = bs.length) :
    Parses v.bytes o bs (fun _ => True) (messageSkip n) := by
  intro hat
  have hsmall := v.length_bytes
  have hend := hat.2
  refine ⟨(), ?_, trivial⟩
  rw [h, messageSkip, addSz_eq (by omega)]
  rfl

theorem failIf_parses {p : Prop} [Decidable p] (e : Status) (hp : ¬ p) :
    Parses v.bytes o [] (fun _ => True) (failIf p e : Cursor Unit) := by
  rw [failIf, if_neg hp]
  exact Parses.pure trivial

/-- A field that may be missing, as seen from outside. -/
theorem readIf_seen_parses {α : Type} {present : Bool} {bs : List UInt8} {read : Cursor α}
    {a seen default : α} (hread : Parses v.bytes o bs (· = a) read)
    (hpresent : present = true → seen = a) (habsent : present = false → seen = default) :
    Parses v.bytes o (fieldBytes present bs) (· = seen) (readIf present read default) := by
  cases present with
  | true => exact hread.mono fun _ ha => ha.trans (hpresent rfl).symm
  | false => exact Parses.pure (habsent rfl).symm

/-- A field that is not there has its default. -/
theorem readIf_parses {α : Type} {present : Bool} {bs : List UInt8} {read : Cursor α}
    {a default : α} (hread : Parses v.bytes o bs (· = a) read) (habsent : present = false → a = default) :
    Parses v.bytes o (fieldBytes present bs) (· = a) (readIf present read default) :=
  readIf_seen_parses hread (fun _ => rfl) habsent

theorem messageReadNodeid_parses (id : NodeId) :
    Parses v.bytes o id.data (· = id) (messageReadNodeid v) := by
  intro hat
  have hsmall := v.length_bytes
  have hmod := SizeT.le_modulus
  have hend := hat.2
  have hlen := id.length_data
  have hcopy : bufferVecCopyToString v o (List.replicate 16 0) 0 16 =
      (fetch v.bytes o 16).map fun bs => overwrite (List.replicate 16 0) 0 bs :=
    bufferVecCopyToString_eq v o
    (by rw [List.length_replicate]; omega) (by decide) (by decide)
  have hfetch := fetch_of_at (by omega) hat
  rw [hlen] at hfetch hend
  rw [hfetch] at hcopy
  have hover : overwrite (List.replicate 16 0) 0 id.data = id.data := by
    simp [overwrite, hlen]
  refine ⟨id, ?_, rfl⟩
  show (bufferVecCopyToUint8Array v o (List.replicate 16 0) 0 16).bind _ = _
  rw [show bufferVecCopyToUint8Array v o (List.replicate 16 0) 0 16 =
    .ok (overwrite (List.replicate 16 0) 0 id.data) from hcopy, hover]
  show (if h : id.data.length = 16 then _ else _) = _
  rw [dif_pos hlen, addSz_eq (by omega), hlen]
  rfl

/-! ## Strings -/

/-- The caller's string can take `n` bytes. -/
def StringBuf.RoomFor (n : Nat) : StringBuf → Prop
  | .null _ => n = 0
  | .storage bytes _ => n ≤ bytes.length

/-- The string is these bytes. One without storage can only be the empty one. -/
def StringBuf.Holds (data : List UInt8) : StringBuf → Prop
  | .null len => len = 0 ∧ data = []
  | .storage bytes _ => bytes = data

theorem StringBuf.RoomFor.mono {str : StringBuf} {n m : Nat} (h : str.RoomFor n) (hle : m ≤ n) :
    str.RoomFor m := by
  cases str with
  | null len =>
      have h0 : n = 0 := h
      show m = 0
      omega
  | storage bytes haddr => exact Nat.le_trans hle h

/-- A string the reader can answer, or one that only learns the length. -/
def StringBuf.Accepts (n : Nat) (str : StringBuf) : Prop := str = .null 0 ∨ str.RoomFor n

theorem messageReadHeaderString_eq {data : List UInt8} {offset : Nat} {str : StringBuf}
    (hat : At v.bytes offset data) (haccepts : str.Accepts data.length) :
    ∃ str', messageReadHeaderString v offset data.length str = .ok str' ∧
      str'.len = data.length ∧ (str.RoomFor data.length → str'.Holds data) := by
  cases str with
  | null len =>
      rcases Nat.eq_zero_or_pos data.length with h0 | hpos
      · have hnil : data = [] := List.eq_nil_of_length_eq_zero h0
        subst hnil
        exact ⟨.null 0, rfl, rfl, fun _ => ⟨rfl, rfl⟩⟩
      · have hlen : len = 0 := by
          rcases haccepts with h | h
          · injection h
          · exact absurd h (by show ¬ data.length = 0; omega)
        refine ⟨.null data.length, ?_, rfl, fun h => absurd h (by show ¬ data.length = 0; omega)⟩
        simp only [messageReadHeaderString]
        rw [if_neg (by omega), if_pos hlen]
  | storage bytes h =>
      have hle : data.length ≤ bytes.length := haccepts.resolve_left nofun
      rcases Nat.eq_zero_or_pos data.length with h0 | hpos
      · have hnil : data = [] := List.eq_nil_of_length_eq_zero h0
        subst hnil
        exact ⟨.storage [] modulus_pos, rfl, rfl, fun _ => rfl⟩
      · have hover : (overwrite bytes 0 data).take data.length = data := by
          simp [overwrite]
        have hcopy : bufferVecCopyToString v offset bytes 0 data.length =
            .ok (overwrite bytes 0 data) := by
          rw [bufferVecCopyToString_eq v offset h hpos hle, fetch_of_at hpos hat]
          rfl
        refine ⟨.storage data (Nat.lt_of_le_of_lt (Nat.mul_le_mul_left 2 hle) h), ?_, rfl,
          fun _ => rfl⟩
        simp only [messageReadHeaderString]
        rw [if_neg (by omega), if_neg (by omega), hcopy]
        show (if hc : ((overwrite bytes 0 data).take data.length).length ≤ bytes.length then
          Except.ok _ else _) = _
        simp only [hover, dif_pos hle]

/-- Where the bytes of a string lie. -/
def ReadHeaderStringInfo.LocatesIn (bytes data : List UInt8) (info : ReadHeaderStringInfo) : Prop :=
  info.strLen = data.length ∧ At bytes info.offset data

theorem messageReadHeaderStringInfo_parses {bs data : List UInt8} {readLen : Cursor Nat}
    (hlen : Parses v.bytes o bs (· = data.length) readLen) :
    Parses v.bytes o (bs ++ data) (·.LocatesIn v.bytes data)
      (messageReadHeaderStringInfo readLen) := by
  refine Parses.of_at fun hat => ?_
  refine hlen.bind fun n hn => ?_
  refine Parses.get_bind ?_
  refine (messageSkip_parses hn).bind_pure fun _ _ => ?_
  exact ⟨hn, (at_append.mp hat).2⟩

theorem messageReadHeaderStringWithLenPrefix2_1_parses {str : ConstString}
    (hlen : str.len ≤ UINT16_MAX) :
    Parses v.bytes o (string2Bytes str) (·.LocatesIn v.bytes str.data)
      (messageReadHeaderStringWithLenPrefix2_1 v) := by
  refine messageReadHeaderStringInfo_parses ((messageReadUint16_parses str.len).map fun n hn => ?_)
  rw [hn]
  exact UInt16.toNat_ofNat_of_lt' (Nat.lt_succ_of_le hlen)

theorem messageReadHeaderStringWithLenPrefix4_1_parses {str : ConstString}
    (hlen : str.len ≤ UINT32_MAX) :
    Parses v.bytes o (string4Bytes str) (·.LocatesIn v.bytes str.data)
      (messageReadHeaderStringWithLenPrefix4_1 v) := by
  refine messageReadHeaderStringInfo_parses ((messageReadUintX_parses _).map fun n hn => ?_)
  rw [hn]
  exact UInt32.toNat_ofNat_of_lt' (Nat.lt_succ_of_le hlen)

theorem messageReadHeaderStringWithLenPrefix_2_parses {info : ReadHeaderStringInfo}
    {data : List UInt8} {str : StringBuf} (hinfo : info.LocatesIn v.bytes data)
    (haccepts : str.Accepts data.length) :
    Parses v.bytes o []
      (fun str' => str'.len = data.length ∧ (str.RoomFor data.length → str'.Holds data))
      (messageReadHeaderStringWithLenPrefix_2 v info str) := by
  obtain ⟨str', hread, hsame⟩ := messageReadHeaderString_eq hinfo.2 haccepts
  refine fun _ => ⟨str', ?_, hsame⟩
  show (messageReadHeaderString v info.offset info.strLen str).bind _ = _
  rw [hinfo.1, hread]
  rfl

theorem readIf_info_parses {present : Bool} {str : ConstString} {info : ReadHeaderStringInfo}
    (hlen : present = true → str.len ≤ UINT32_MAX) :
    Parses v.bytes o (fieldBytes present (string4Bytes str))
      (fun info => present = true → info.LocatesIn v.bytes str.data)
      (readIf present (messageReadHeaderStringWithLenPrefix4_1 v) info) := by
  cases present with
  | true => exact (messageReadHeaderStringWithLenPrefix4_1_parses (hlen rfl)).mono fun _ h _ => h
  | false => exact Parses.pure nofun

/-- A string whose section may be missing, read at last from where it was found. -/
theorem readIf_string_parses {present : Bool} {info : ReadHeaderStringInfo} {d : List UInt8}
    {str : StringBuf} (hinfo : present = true → info.LocatesIn v.bytes d)
    (haccepts : str.Accepts d.length) (habsent : present = false → d = []) :
    Parses v.bytes o []
      (fun str' => str'.len = d.length ∧ (str.RoomFor d.length → str'.Holds d))
      (readIf present (messageReadHeaderStringWithLenPrefix_2 v info str) (.null 0)) := by
  cases present with
  | true => exact messageReadHeaderStringWithLenPrefix_2_parses (hinfo rfl) haccepts
  | false =>
      have hnil := habsent rfl
      refine Parses.pure ⟨?_, fun _ => ⟨rfl, hnil⟩⟩
      rw [hnil]
      rfl

/-! ## Headers -/

/-- The caller's header has room for the strings of the other one. -/
def MessageHeaderOf.RoomFor (header : MessageHeader) (source : MessageConstHeader) : Prop :=
  header.senderNodename.RoomFor source.senderNodename.len ∧
    header.receiverNodename.RoomFor source.receiverNodename.len ∧
    header.metadata.RoomFor source.metadata.len

def MessageHeaderOf.Accepts (header : MessageHeader) (source : MessageConstHeader) : Prop :=
  header.senderNodename.Accepts source.senderNodename.len ∧
    header.receiverNodename.Accepts source.receiverNodename.len ∧
    header.metadata.Accepts source.metadata.len

/-- The header that was read says what the other one said. -/
structure MessageHeaderOf.Reads (header : MessageHeader) (source : MessageConstHeader) : Prop where
  senderNodeid_eq : header.senderNodeid = source.senderNodeid
  receiverNodeid_eq : header.receiverNodeid = source.receiverNodeid
  senderNodename_holds : header.senderNodename.Holds source.senderNodename.data
  receiverNodename_holds : header.receiverNodename.Holds source.receiverNodename.data
  senderEndpoint_eq : header.senderEndpoint = source.senderEndpoint
  receiverEndpoint_eq : header.receiverEndpoint = source.receiverEndpoint
  priority_eq : header.priority = source.priority
  metadata_holds : header.metadata.Holds source.metadata.data
  messageId_eq : header.messageId = source.messageId
  messageResId_eq : header.messageResId = source.messageResId
  entryCount_eq : header.entryCount = source.entryCount

/-- What a mask leaves of a header: nothing in the sections it does not allow. -/
def MessageHeaderOf.masked (mask : BitVec 8) (header : MessageConstHeader) : MessageConstHeader :=
  let routing := flagsCheck mask MESSAGE_FLAGS_ROUTING_INFO
  let endpoint := flagsCheck mask MESSAGE_FLAGS_ENDPOINT_INFO
  let metaInfo := flagsCheck mask MESSAGE_FLAGS_META_INFO
  let noString : ConstString := ⟨[], modulus_pos⟩
  { header with
    senderNodeid := if routing then header.senderNodeid else NodeId.any
    receiverNodeid := if routing then header.receiverNodeid else NodeId.any
    senderNodename := if routing then header.senderNodename else noString
    receiverNodename := if routing then header.receiverNodename else noString
    senderEndpoint := if endpoint then header.senderEndpoint else 0
    receiverEndpoint := if endpoint then header.receiverEndpoint else 0
    priority := if flagsCheck mask MESSAGE_FLAGS_PRIORITY then header.priority else 0
    metadata := if metaInfo then header.metadata else noString
    messageId := if metaInfo then header.messageId else 0
    messageResId := if metaInfo then header.messageResId else 0
    entryCount := if flagsCheck mask MESSAGE_FLAGS_MULTIPLE_ENTRIES then header.entryCount else 1 }

/-- The caller's header has room for the strings of the other one. -/
def MessageEntryHeaderOf.RoomFor (header : MessageEntryHeader) (source : MessageEntryConstHeader) :
    Prop :=
  header.servicePath.RoomFor source.servicePath.len ∧
    header.memberName.RoomFor source.memberName.len ∧ header.metadata.RoomFor source.metadata.len

def MessageEntryHeaderOf.Accepts (header : MessageEntryHeader) (source : MessageEntryConstHeader) :
    Prop :=
  header.servicePath.Accepts source.servicePath.len ∧
    header.memberName.Accepts source.memberName.len ∧ header.metadata.Accepts source.metadata.len

/-- The header that was read says what the other one said. -/
structure MessageEntryHeaderOf.Reads (header : MessageEntryHeader) (source : MessageEntryConstHeader) :
    Prop where
  entryType_eq : header.entryType = source.entryType
  servicePath_holds : header.servicePath.Holds source.servicePath.data
  servicePathCode_eq : header.servicePathCode = source.servicePathCode
  memberName_holds : header.memberName.Holds source.memberName.data
  memberNameCode_eq : header.memberNameCode = source.memberNameCode
  requestId_eq : header.requestId = source.requestId
  error_eq : header.error = source.error
  metadata_holds : header.metadata.Holds source.metadata.data

/-- The header that was read says what both versions have room for. -/
structure MessageEntryHeaderOf.Tells (header : MessageEntryHeader) (source : MessageEntryConstHeader) :
    Prop where
  entryType_eq : header.entryType = source.entryType
  servicePath_holds : header.servicePath.Holds source.servicePath.data
  memberName_holds : header.memberName.Holds source.memberName.data
  requestId_eq : header.requestId = source.requestId
  error_eq : header.error = source.error
  metadata_holds : header.metadata.Holds source.metadata.data

/-- A string that is not written is empty. -/
theorem ConstString.data_nil_of_absent {str : ConstString} {flag : Bool}
    (hflag : flag = decide (str.len > 0)) (h : flag = false) : str.data = [] := by
  rw [hflag] at h
  have h0 : str.len = 0 := by
    have := of_decide_eq_false h
    omega
  exact List.eq_nil_of_length_eq_zero h0

theorem messageEntryReaderReadHeader4Ex_parses (reader : MessageEntryReader)
    (header : MessageEntryHeader) {source : MessageEntryConstHeader} {size count : Nat}
    (hstrings : source.StringsWithin UINT32_MAX) (haccepts : header.Accepts source)
    {bytes : List UInt8} (hbytes : bytes = messageEntryHeader4Bytes source size count)
    (hat : At reader.buffer.bytes reader.bufferOffset bytes) :
    ∃ r, messageEntryReaderReadHeader4Ex reader header = .ok r ∧
      (header.RoomFor source → r.1.Reads { source with memberNameCode := 0 }) ∧
      r.1.entrySize = UInt32.ofNat size ∧ r.1.elementCount = UInt32.ofNat count ∧
      r.2.headerSize = bytes.length ∧
      r.2.elementStartOffset = reader.bufferOffset + bytes.length := by
  have hsmall := reader.buffer.length_bytes
  have hend := hat.2
  have hheader : subSz (reader.bufferOffset + bytes.length) reader.bufferOffset = bytes.length :=
    subSz_of_eq_add rfl (by omega)
  obtain ⟨hpathLen, hmemberLen, hmetaLen⟩ := hstrings
  obtain ⟨hpathRoom, hmemberRoom, hmetaRoom⟩ := haccepts
  obtain ⟨hpathFlag, hpathCodeFlag, hmemberFlag, hmemberCodeFlag, hidFlag, herrorFlag, hmetaFlag,
    hextendedFlag⟩ := messageEntryHeader4Flags_check source
  obtain ⟨k, hk⟩ : ∃ k, k = reader.bufferOffset + bytes.length := ⟨_, rfl⟩
  rw [← hk] at hheader ⊢
  refine Parses.run' ?_ hat
  rw [hbytes] at hk ⊢
  refine (messageReadUintX_long_parses _).bind fun entrySize hsize => ?_
  refine (messageReadFlags_parses _).bind fun flags8 hflags => ?_
  dsimp only
  rw [hflags]
  refine (messageReadUint16_val_parses _).bind fun entryType htype => ?_
  refine (readIf_info_parses fun _ => hpathLen).bind fun pathInfo hpath => ?_
  refine (readIf_parses (messageReadUintX_parses _) (eq_of_absent hpathCodeFlag)).bind
    fun pathCode hpathCode => ?_
  refine (readIf_info_parses fun _ => hmemberLen).bind fun memberInfo hmember => ?_
  rw [hmemberCodeFlag]
  refine Parses.nil_bind (Q := (· = 0)) (Parses.pure rfl) fun memberCode hmemberCode => ?_
  refine (readIf_parses (messageReadUintX_parses _) (eq_of_absent hidFlag)).bind
    fun requestId hid => ?_
  refine (readIf_parses (messageReadUint16_val_parses _) (eq_of_absent herrorFlag)).bind
    fun error herror => ?_
  refine (readIf_info_parses fun _ => hmetaLen).bind fun metaInfo hmeta => ?_
  rw [hextendedFlag]
  refine Parses.nil_bind (Q := fun _ => True) (Parses.pure trivial) fun _ _ => ?_
  refine Parses.get_bind ?_
  refine (messageReadUintX_long_parses _).bind fun elementCount hcount => ?_
  refine Parses.nil_bind (readIf_string_parses hpath hpathRoom
    (ConstString.data_nil_of_absent hpathFlag)) fun servicePath hpathHolds => ?_
  refine Parses.nil_bind (readIf_string_parses hmember hmemberRoom
    (ConstString.data_nil_of_absent hmemberFlag)) fun memberName hmemberHolds => ?_
  refine Parses.nil_bind (readIf_string_parses hmeta hmetaRoom
    (ConstString.data_nil_of_absent hmetaFlag)) fun metadata hmetaHolds => ?_
  refine Parses.nil_bind (Parses.get (k := k) ?_) fun next hnext => Parses.pure ?_
  · rw [hk, messageEntryHeader4Bytes, messageEntryHeader4Fields, hmemberCodeFlag]
    simp only [List.cons_append, List.nil_append, List.flatten_cons, List.flatten_nil,
      List.length_append, List.length_nil, length_leBytes, length_paddedUintXBytes, fieldBytes_false]
    omega
  · rw [hnext]
    exact ⟨fun hroom => ⟨htype, hpathHolds.2 hroom.1, hpathCode, hmemberHolds.2 hroom.2.1, hmemberCode,
      hid, herror, hmetaHolds.2 hroom.2.2⟩, hsize, hcount, hbytes ▸ hheader, rfl⟩

theorem messageEntryReaderReadHeader2Ex_parses (reader : MessageEntryReader)
    (header : MessageEntryHeader) {source : MessageEntryConstHeader} {size count : Nat}
    (hstrings : source.StringsWithin UINT16_MAX) (hmany : count ≤ UINT16_MAX)
    (haccepts : header.Accepts source) {bytes : List UInt8}
    (hbytes : bytes = messageEntryHeader2Bytes source size count)
    (hat : At reader.buffer.bytes reader.bufferOffset bytes) :
    ∃ r, messageEntryReaderReadHeader2Ex reader header = .ok r ∧
      (header.RoomFor source → r.1.Tells source) ∧ r.1.entrySize = UInt32.ofNat size ∧
      r.1.elementCount = UInt32.ofNat count ∧
      r.2.headerSize = bytes.length ∧
      r.2.elementStartOffset = reader.bufferOffset + bytes.length := by
  have hsmall := reader.buffer.length_bytes
  have hend := hat.2
  have hheader : subSz (reader.bufferOffset + bytes.length) reader.bufferOffset = bytes.length :=
    subSz_of_eq_add rfl (by omega)
  obtain ⟨hpathLen, hmemberLen, hmetaLen⟩ := hstrings
  obtain ⟨hpathRoom, hmemberRoom, hmetaRoom⟩ := haccepts
  obtain ⟨k, hk⟩ : ∃ k, k = reader.bufferOffset + bytes.length := ⟨_, rfl⟩
  rw [← hk] at hheader ⊢
  refine Parses.run' ?_ hat
  rw [hbytes] at hk ⊢
  refine (messageReadUint32_parses _).bind fun entrySize hsize => ?_
  refine (messageReadUint16_val_parses _).bind fun entryType htype => ?_
  refine (messageSkip_parses rfl).bind fun _ _ => ?_
  refine (messageReadHeaderStringWithLenPrefix2_1_parses hpathLen).bind fun pathInfo hpath => ?_
  refine (messageReadHeaderStringWithLenPrefix2_1_parses hmemberLen).bind
    fun memberInfo hmember => ?_
  refine (messageReadUint32_val_parses _).bind fun requestId hid => ?_
  refine (messageReadUint16_val_parses _).bind fun error herror => ?_
  refine (messageReadHeaderStringWithLenPrefix2_1_parses hmetaLen).bind fun metaInfo hmeta => ?_
  refine Parses.get_bind ?_
  refine Parses.bind (y := []) (messageReadUint16_parses _) fun elementCount hcount => ?_
  refine Parses.nil_bind (messageReadHeaderStringWithLenPrefix_2_parses hpath hpathRoom)
    fun servicePath hpathHolds => ?_
  refine Parses.nil_bind (messageReadHeaderStringWithLenPrefix_2_parses hmember hmemberRoom)
    fun memberName hmemberHolds => ?_
  refine Parses.nil_bind (messageReadHeaderStringWithLenPrefix_2_parses hmeta hmetaRoom)
    fun metadata hmetaHolds => ?_
  refine Parses.nil_bind (Parses.get (k := k) ?_) fun next hnext => Parses.pure ?_
  · rw [hk, messageEntryHeader2Bytes]
    simp only [List.flatten_cons, List.flatten_nil, List.length_append, List.length_nil]
    omega
  · have hcounted : elementCount.toUInt32 = UInt32.ofNat count := by
      apply UInt32.toNat_inj.mp
      have hlt : count < UInt16.size := Nat.lt_succ_of_le hmany
      rw [UInt16.toNat_toUInt32, hcount, UInt16.toNat_ofNat_of_lt' hlt,
        UInt32.toNat_ofNat_of_lt' (Nat.lt_trans hlt (by decide))]
    rw [hnext]
    exact ⟨fun hroom => ⟨htype, hpathHolds.2 hroom.1, hmemberHolds.2 hroom.2.1, hid, herror,
      hmetaHolds.2 hroom.2.2⟩, hsize, hcounted, hbytes ▸ hheader, rfl⟩

/-- The entry count may be another one than the writer was given. -/
theorem messageReaderReadHeader4Ex_parses (reader : MessageReader) (header : MessageHeader)
    {source given : MessageConstHeader} {mask flags : BitVec 8} {headerSize : UInt32} {size : Nat}
    (hflags : flags = messageHeader4Flags given mask)
    (hgiven : given = { source with entryCount := given.entryCount })
    (hone : flagsCheck flags MESSAGE_FLAGS_MULTIPLE_ENTRIES = false →
      (source.masked mask).entryCount = 1)
    (hsender : flagsCheck flags MESSAGE_FLAGS_ROUTING_INFO = true →
      source.senderNodename.len ≤ UINT32_MAX)
    (hreceiver : flagsCheck flags MESSAGE_FLAGS_ROUTING_INFO = true →
      source.receiverNodename.len ≤ UINT32_MAX)
    (hmeta : flagsCheck flags MESSAGE_FLAGS_META_INFO = true → source.metadata.len ≤ UINT32_MAX)
    (haccepts : header.Accepts (source.masked mask)) {bytes : List UInt8}
    (hbytes : bytes = messageHeader4Bytes source flags headerSize size)
    (hheaderSize : headerSize.toNat = bytes.length)
    (hat : At reader.buffer.bytes reader.bufferOffset bytes) :
    ∃ r, messageReaderReadHeader4Ex reader header = .ok r ∧
      (header.RoomFor (source.masked mask) → r.1.Reads (source.masked mask)) ∧
      r.1.messageSize = UInt32.ofNat size ∧ r.1.headerSize = headerSize ∧
      r.1.messageVersion = 4 ∧ r.1.messageFlags = flags ∧
      (if flagsCheck flags MESSAGE_FLAGS_MULTIPLE_ENTRIES then
        r.2.entryCountOffset + 5 = reader.bufferOffset + bytes.length
      else r.2.entryCountOffset = sizeTMax) := by
  have hsmall := reader.buffer.length_bytes
  have hend := hat.2
  have hheader : subSz (reader.bufferOffset + bytes.length) reader.bufferOffset = bytes.length :=
    subSz_of_eq_add rfl (by omega)
  obtain ⟨hsenderRoom, hreceiverRoom, hmetaRoom⟩ := haccepts
  obtain ⟨hrouting, hendpoint, hpriority, hmetaInfo, hmultiple, -, htable, hextended⟩ :=
    messageHeader4Flags_check given mask
  rw [← hflags] at hrouting hendpoint hpriority hmetaInfo hmultiple htable hextended
  rw [hgiven] at hrouting hendpoint hpriority hmetaInfo
  dsimp only at hrouting hendpoint hpriority hmetaInfo
  have hnoRouting (h : (!nodeidIsany source.senderNodeid || !nodeidIsany source.receiverNodeid ||
      source.senderNodename.len != 0 || source.receiverNodename.len != 0) = false) :
      source.senderNodeid = NodeId.any ∧ source.receiverNodeid = NodeId.any ∧
        source.senderNodename = ⟨[], modulus_pos⟩ ∧ source.receiverNodename = ⟨[], modulus_pos⟩ := by
    simp only [Bool.or_eq_false_iff, Bool.not_eq_false', bne_eq_false_iff_eq] at h
    obtain ⟨⟨⟨hs, hr⟩, hsn⟩, hrn⟩ := h
    exact ⟨nodeidIsany_eq hs, nodeidIsany_eq hr, ConstString.eq_empty hsn, ConstString.eq_empty hrn⟩
  have hnoEndpoint (h : (source.senderEndpoint != 0 || source.receiverEndpoint != 0) = false) :
      source.senderEndpoint = 0 ∧ source.receiverEndpoint = 0 := by
    simpa only [Bool.or_eq_false_iff, bne_eq_false_iff_eq] using h
  have hnoMeta (h : (source.metadata.len != 0 || source.messageId != 0 ||
      source.messageResId != 0) = false) :
      source.metadata = ⟨[], modulus_pos⟩ ∧ source.messageId = 0 ∧ source.messageResId = 0 := by
    simp only [Bool.or_eq_false_iff, bne_eq_false_iff_eq] at h
    exact ⟨ConstString.eq_empty h.1.1, h.1.2, h.2⟩
  obtain ⟨k, hk⟩ : ∃ k, k = reader.bufferOffset + bytes.length := ⟨_, rfl⟩
  rw [← hk] at hheader ⊢
  refine Parses.run' ?_ hat
  rw [hbytes] at hk ⊢
  refine (messageSkip_parses rfl).bind fun _ _ => ?_
  refine (messageReadUint32_parses _).bind fun messageSize hmessageSize => ?_
  refine (messageReadUint16_parses 4).bind fun messageVersion hversion => ?_
  refine Parses.nil_bind (failIf_parses _ (not_not.mpr hversion)) fun _ _ => ?_
  refine (messageReadUintX_parses _).bind fun size' hsize' => ?_
  refine (messageReadFlags_parses _).bind fun flags8 hflags8 => ?_
  dsimp only
  rw [hflags8]
  refine (readIf_seen_parses (messageReadNodeid_parses _) (seen_of_present hrouting)
    (seen_of_absent hrouting fun h => (hnoRouting h).1)).bind fun senderNodeid hsenderNodeid => ?_
  refine (readIf_seen_parses (messageReadNodeid_parses _) (seen_of_present hrouting)
    (seen_of_absent hrouting fun h => (hnoRouting h).2.1)).bind fun receiverNodeid hreceiverNodeid => ?_
  refine (readIf_info_parses hsender).bind fun senderInfo hsenderInfo => ?_
  refine (readIf_info_parses hreceiver).bind fun receiverInfo hreceiverInfo => ?_
  refine (readIf_seen_parses (messageReadUintX_parses _) (seen_of_present hendpoint)
    (seen_of_absent hendpoint fun h => (hnoEndpoint h).1)).bind fun senderEndpoint hsenderEndpoint => ?_
  refine (readIf_seen_parses (messageReadUintX_parses _) (seen_of_present hendpoint)
    (seen_of_absent hendpoint fun h => (hnoEndpoint h).2)).bind
    fun receiverEndpoint hreceiverEndpoint => ?_
  refine (readIf_seen_parses (messageReadUint16_val_parses _) (seen_of_present hpriority)
    (seen_of_absent hpriority fun h => bne_eq_false_iff_eq.mp h)).bind fun priority hpriority' => ?_
  refine (readIf_info_parses hmeta).bind fun metaData hmetaData => ?_
  refine (readIf_seen_parses (messageReadUint16_val_parses _) (seen_of_present hmetaInfo)
    (seen_of_absent hmetaInfo fun h => (hnoMeta h).2.1)).bind fun messageId hmessageId => ?_
  refine (readIf_seen_parses (messageReadUint16_val_parses _) (seen_of_present hmetaInfo)
    (seen_of_absent hmetaInfo fun h => (hnoMeta h).2.2)).bind fun messageResId hmessageResId => ?_
  rw [htable]
  refine Parses.nil_bind (Q := fun _ => True) (Parses.pure trivial) fun _ _ => ?_
  refine Parses.nil_bind (Parses.get rfl) fun countOffset hcountOffset => ?_
  refine Parses.bind (y := []) (readIf_seen_parses (messageReadUintX_long_parses _)
    (seen_of_present hmultiple) hone) fun entryCount hentryCount => ?_
  rw [hextended]
  refine Parses.nil_bind (Q := fun _ => True) (Parses.pure trivial) fun _ _ => ?_
  refine Parses.nil_bind (Parses.get (k := k) ?_) fun next hnext => ?_
  · rw [hk, messageHeader4Bytes]
    simp only [List.flatten_cons, List.flatten_nil, List.length_append, List.length_nil]
    omega
  refine Parses.nil_bind (failIf_parses _ ?_) fun _ _ => ?_
  · rw [hnext, hsize', hheader, hheaderSize, hbytes]
    exact not_not.mpr rfl
  have hsenderSeen (h : flagsCheck flags MESSAGE_FLAGS_ROUTING_INFO = true) :
      (source.masked mask).senderNodename = source.senderNodename := seen_of_present hrouting h
  have hreceiverSeen (h : flagsCheck flags MESSAGE_FLAGS_ROUTING_INFO = true) :
      (source.masked mask).receiverNodename = source.receiverNodename := seen_of_present hrouting h
  have hmetaSeen (h : flagsCheck flags MESSAGE_FLAGS_META_INFO = true) :
      (source.masked mask).metadata = source.metadata := seen_of_present hmetaInfo h
  refine Parses.nil_bind (readIf_string_parses (d := (source.masked mask).senderNodename.data)
    (fun h => by rw [hsenderSeen h]; exact hsenderInfo h) hsenderRoom fun h => congrArg
      ConstString.data (seen_of_absent hrouting (fun h => (hnoRouting h).2.2.1) h))
    fun senderNodename hsenderHolds => ?_
  refine Parses.nil_bind (readIf_string_parses (d := (source.masked mask).receiverNodename.data)
    (fun h => by rw [hreceiverSeen h]; exact hreceiverInfo h) hreceiverRoom fun h => congrArg
      ConstString.data (seen_of_absent hrouting (fun h => (hnoRouting h).2.2.2) h))
    fun receiverNodename hreceiverHolds => ?_
  refine Parses.nil_bind (readIf_string_parses (d := (source.masked mask).metadata.data)
    (fun h => by rw [hmetaSeen h]; exact hmetaData h) hmetaRoom fun h => congrArg
      ConstString.data (seen_of_absent hmetaInfo (fun h => (hnoMeta h).1) h))
    fun metadata hmetaHolds => Parses.pure ?_
  refine ⟨fun hroom => ⟨hsenderNodeid, hreceiverNodeid, hsenderHolds.2 hroom.1,
    hreceiverHolds.2 hroom.2.1, hsenderEndpoint, hreceiverEndpoint, hpriority',
    hmetaHolds.2 hroom.2.2, hmessageId, hmessageResId, hentryCount⟩, hmessageSize, hsize', hversion,
    rfl, ?_⟩
  split
  · next hmultiple =>
      show countOffset + 5 = k
      rw [hcountOffset, hk, messageHeader4Bytes]
      simp only [List.flatten_cons, List.flatten_nil, List.length_append, List.length_nil, hmultiple,
        fieldBytes_true, length_paddedUintXBytes]
      omega
  · rfl

/-- What a version 2 header has no room for. -/
def MessageHeaderOf.version2 (header : MessageConstHeader) : MessageConstHeader :=
  { header with priority := 0 }

theorem messageReaderReadHeader2Ex_parses (reader : MessageReader) (header : MessageHeader)
    {source : MessageConstHeader} {headerSize : UInt16} {size : Nat}
    (hstrings : source.StringsWithin UINT16_MAX) (hmany : source.entryCount.toNat ≤ UINT16_MAX)
    (haccepts : header.Accepts source) {bytes : List UInt8}
    (hbytes : bytes = messageHeader2Bytes source headerSize size)
    (hheaderSize : headerSize.toNat = bytes.length)
    (hat : At reader.buffer.bytes reader.bufferOffset bytes) :
    ∃ r, messageReaderReadHeader2Ex reader header = .ok r ∧
      (header.RoomFor source → r.1.Reads source.version2) ∧
      r.1.messageSize = UInt32.ofNat size ∧ r.1.headerSize = headerSize.toUInt32 ∧
      r.1.messageVersion = 2 ∧ r.2.entryCountOffset + 6 = reader.bufferOffset + bytes.length := by
  have hsmall := reader.buffer.length_bytes
  have hend := hat.2
  have hheader : subSz (reader.bufferOffset + bytes.length) reader.bufferOffset = bytes.length :=
    subSz_of_eq_add rfl (by omega)
  obtain ⟨hsenderLen, hreceiverLen, hmetaLen⟩ := hstrings
  obtain ⟨hsenderRoom, hreceiverRoom, hmetaRoom⟩ := haccepts
  obtain ⟨k, hk⟩ : ∃ k, k = reader.bufferOffset + bytes.length := ⟨_, rfl⟩
  rw [← hk] at hheader ⊢
  refine Parses.run' ?_ hat
  rw [hbytes] at hk ⊢
  refine (messageSkip_parses rfl).bind fun _ _ => ?_
  refine (messageReadUint32_parses _).bind fun messageSize hmessageSize => ?_
  refine (messageReadUint16_parses 2).bind fun messageVersion hversion => ?_
  refine (messageReadUint16_val_parses _).bind fun size' hsize' => ?_
  refine (messageReadNodeid_parses _).bind fun senderNodeid hsenderNodeid => ?_
  refine (messageReadNodeid_parses _).bind fun receiverNodeid hreceiverNodeid => ?_
  refine (messageReadUint32_val_parses _).bind fun senderEndpoint hsenderEndpoint => ?_
  refine (messageReadUint32_val_parses _).bind fun receiverEndpoint hreceiverEndpoint => ?_
  refine (messageReadHeaderStringWithLenPrefix2_1_parses hsenderLen).bind fun senderInfo hsender => ?_
  refine (messageReadHeaderStringWithLenPrefix2_1_parses hreceiverLen).bind
    fun receiverInfo hreceiver => ?_
  refine (messageReadHeaderStringWithLenPrefix2_1_parses hmetaLen).bind fun metaInfo hmeta => ?_
  refine Parses.nil_bind (Parses.get rfl) fun countOffset hcountOffset => ?_
  refine (messageReadUint16_parses _).bind fun entryCount hentryCount => ?_
  refine (messageReadUint16_val_parses _).bind fun messageId hmessageId => ?_
  refine Parses.bind (y := []) (messageReadUint16_val_parses _) fun messageResId hmessageResId => ?_
  refine Parses.nil_bind (Parses.get (k := k) ?_) fun next hnext => ?_
  · rw [hk, messageHeader2Bytes]
    simp only [List.flatten_cons, List.flatten_nil, List.length_append, List.length_nil]
    omega
  refine Parses.nil_bind (failIf_parses _ ?_) fun _ _ => ?_
  · rw [hnext, hsize', hheader, hheaderSize, hbytes]
    exact not_not.mpr rfl
  refine Parses.nil_bind (messageReadHeaderStringWithLenPrefix_2_parses hsender hsenderRoom)
    fun senderNodename hsenderHolds => ?_
  refine Parses.nil_bind (messageReadHeaderStringWithLenPrefix_2_parses hreceiver hreceiverRoom)
    fun receiverNodename hreceiverHolds => ?_
  refine Parses.nil_bind (messageReadHeaderStringWithLenPrefix_2_parses hmeta hmetaRoom)
    fun metadata hmetaHolds => Parses.pure ?_
  have hentries : entryCount.toUInt32 = source.entryCount := by
    apply UInt32.toNat_inj.mp
    rw [UInt16.toNat_toUInt32, hentryCount]
    exact UInt16.toNat_ofNat_of_lt' (Nat.lt_succ_of_le hmany)
  refine ⟨fun hroom => ⟨hsenderNodeid, hreceiverNodeid, hsenderHolds.2 hroom.1,
    hreceiverHolds.2 hroom.2.1, hsenderEndpoint, hreceiverEndpoint, rfl, hmetaHolds.2 hroom.2.2,
    hmessageId, hmessageResId, hentries⟩, hmessageSize, congrArg UInt16.toUInt32 hsize', hversion, ?_⟩
  show countOffset + 6 = k
  rw [hcountOffset, hk, messageHeader2Bytes]
  simp only [List.flatten_cons, List.flatten_nil, List.length_append, List.length_nil,
    length_leBytes]
  omega

/-! ## Element headers -/

/-- The caller's header has room for the strings of the other one. -/
def MessageElementHeaderOf.RoomFor (header : MessageElementHeader)
    (source : MessageElementConstHeader) : Prop :=
  header.elementName.RoomFor source.elementName.len ∧
    header.elementTypeName.RoomFor source.elementTypeName.len ∧
    header.metadata.RoomFor source.metadata.len

def MessageElementHeaderOf.Accepts (header : MessageElementHeader)
    (source : MessageElementConstHeader) : Prop :=
  header.elementName.Accepts source.elementName.len ∧
    header.elementTypeName.Accepts source.elementTypeName.len ∧
    header.metadata.Accepts source.metadata.len

/-- The header that was read says what the other one said. -/
structure MessageElementHeaderOf.Reads (header : MessageElementHeader)
    (source : MessageElementConstHeader) : Prop where
  elementName_holds : header.elementName.Holds source.elementName.data
  elementNameCode_eq : header.elementNameCode = source.elementNameCode
  elementNumber_eq : header.elementNumber = source.elementNumber
  elementType_eq : header.elementType = source.elementType
  elementTypeName_holds : header.elementTypeName.Holds source.elementTypeName.data
  elementTypeNameCode_eq : header.elementTypeNameCode = source.elementTypeNameCode
  metadata_holds : header.metadata.Holds source.metadata.data

/-- The size and the count of an element may be of any width the reader takes. -/
theorem messageElementReaderReadHeader4Ex_parses (reader : MessageElementReader)
    (header : MessageElementHeader) {source : MessageElementConstHeader} {size count : UInt32}
    {sizeBytes countBytes : List UInt8}
    (hsize : ∀ o, Parses reader.buffer.bytes o sizeBytes (· = size) (messageReadUintX reader.buffer))
    (hcount : ∀ o, Parses reader.buffer.bytes o countBytes (· = count)
      (messageReadUintX reader.buffer))
    (hstrings : source.StringsWithin UINT32_MAX) (haccepts : header.Accepts source)
    {bytes : List UInt8}
    (hbytes : bytes = (sizeBytes :: (messageElementHeader4Fields source ++ [countBytes])).flatten)
    (hat : At reader.buffer.bytes reader.bufferOffset bytes) :
    ∃ r, messageElementReaderReadHeader4Ex reader header = .ok r ∧
      (header.RoomFor source → r.1.Reads source) ∧ r.1.elementSize = size ∧ r.1.dataCount = count ∧
      r.2.headerSize = bytes.length ∧ r.2.dataStartOffset = reader.bufferOffset + bytes.length ∧
      (if source.elementName.len > 0 then
        At reader.buffer.bytes r.2.elementNameStrOffset source.elementName.data
      else r.2.elementNameStrOffset = sizeTMax) ∧
      r.1.elementName.len = source.elementName.len ∧ r.1.elementType = source.elementType := by
  have hsmall := reader.buffer.length_bytes
  have hend := hat.2
  have hheader : subSz (reader.bufferOffset + bytes.length) reader.bufferOffset = bytes.length :=
    subSz_of_eq_add rfl (by omega)
  obtain ⟨hnameLen, htypeNameLen, hmetaLen⟩ := hstrings
  obtain ⟨hnameRoom, htypeNameRoom, hmetaRoom⟩ := haccepts
  obtain ⟨hnameFlag, hnameCodeFlag, hnumberFlag, htypeNameFlag, htypeCodeFlag, hmetaFlag,
    hextendedFlag⟩ := messageElementHeader4Flags_check source
  obtain ⟨k, hk⟩ : ∃ k, k = reader.bufferOffset + bytes.length := ⟨_, rfl⟩
  rw [← hk] at hheader ⊢
  refine Parses.run' ?_ hat
  rw [hbytes] at hk ⊢
  refine (hsize _).bind fun elementSize hsize' => ?_
  refine (messageReadFlags_parses _).bind fun flags8 hflags => ?_
  dsimp only
  rw [hflags]
  refine (readIf_info_parses fun _ => hnameLen).bind fun nameInfo hname => ?_
  refine (readIf_parses (messageReadUintX_parses _) (eq_of_absent hnameCodeFlag)).bind
    fun nameCode hnameCode => ?_
  refine (readIf_parses (messageReadIntX_parses _) (eq_of_absent hnumberFlag)).bind
    fun number hnumber => ?_
  refine (messageReadUint16_val_parses _).bind fun elementType htype => ?_
  refine (readIf_info_parses fun _ => htypeNameLen).bind fun typeNameInfo htypeName => ?_
  refine (readIf_parses (messageReadUintX_parses _) (eq_of_absent htypeCodeFlag)).bind
    fun typeCode htypeCode => ?_
  refine (readIf_info_parses fun _ => hmetaLen).bind fun metaInfo hmeta => ?_
  rw [hextendedFlag]
  refine Parses.nil_bind (Q := fun _ => True) (Parses.pure trivial) fun _ _ => ?_
  refine Parses.get_bind ?_
  refine (hcount _).bind fun dataCount hcount' => ?_
  refine Parses.nil_bind (readIf_string_parses hname hnameRoom
    (ConstString.data_nil_of_absent hnameFlag)) fun elementName hnameHolds => ?_
  refine Parses.nil_bind (readIf_string_parses htypeName htypeNameRoom
    (ConstString.data_nil_of_absent htypeNameFlag)) fun typeName htypeNameHolds => ?_
  refine Parses.nil_bind (readIf_string_parses hmeta hmetaRoom
    (ConstString.data_nil_of_absent hmetaFlag)) fun metadata hmetaHolds => ?_
  refine Parses.nil_bind (Parses.get (k := k) ?_) fun next hnext => Parses.pure ?_
  · rw [hk, messageElementHeader4Fields]
    simp only [List.cons_append, List.nil_append, List.flatten_cons, List.flatten_nil,
      List.length_append, List.length_nil]
    omega
  · rw [hnext]
    refine ⟨fun hroom => ⟨hnameHolds.2 hroom.1, hnameCode, hnumber, htype,
      htypeNameHolds.2 hroom.2.1, htypeCode, hmetaHolds.2 hroom.2.2⟩, hsize', hcount', hbytes ▸ hheader,
      rfl, ?_, hnameHolds.1, htype⟩
    dsimp only
    rw [hnameFlag] at hname ⊢
    split
    · next hlen =>
        rw [if_pos (decide_eq_true hlen)]
        exact (hname (decide_eq_true hlen)).2
    · next hlen => rw [if_neg (by simpa using hlen)]

theorem messageElementReaderReadHeader2Ex_parses (reader : MessageElementReader)
    (header : MessageElementHeader) {source : MessageElementConstHeader} {size count : Nat}
    (hstrings : source.StringsWithin UINT16_MAX) (haccepts : header.Accepts source)
    {bytes : List UInt8} (hbytes : bytes = messageElementHeader2Bytes source size count)
    (hat : At reader.buffer.bytes reader.bufferOffset bytes) :
    ∃ r, messageElementReaderReadHeader2Ex reader header = .ok r ∧
      (header.RoomFor source → r.1.elementName.Holds source.elementName.data ∧
        r.1.elementTypeName.Holds source.elementTypeName.data ∧
        r.1.metadata.Holds source.metadata.data) ∧ r.1.elementType = source.elementType ∧
      r.1.elementSize = UInt32.ofNat size ∧ r.1.dataCount = UInt32.ofNat count ∧
      r.2.headerSize = bytes.length ∧ r.2.dataStartOffset = reader.bufferOffset + bytes.length ∧
      At reader.buffer.bytes r.2.elementNameStrOffset source.elementName.data ∧
      r.1.elementName.len = source.elementName.len := by
  have hsmall := reader.buffer.length_bytes
  have hend := hat.2
  have hheader : subSz (reader.bufferOffset + bytes.length) reader.bufferOffset = bytes.length :=
    subSz_of_eq_add rfl (by omega)
  obtain ⟨hnameLen, htypeNameLen, hmetaLen⟩ := hstrings
  obtain ⟨hnameRoom, htypeNameRoom, hmetaRoom⟩ := haccepts
  obtain ⟨k, hk⟩ : ∃ k, k = reader.bufferOffset + bytes.length := ⟨_, rfl⟩
  rw [← hk] at hheader ⊢
  refine Parses.run' ?_ hat
  rw [hbytes] at hk ⊢
  refine (messageReadUint32_parses _).bind fun elementSize hsize => ?_
  refine (messageReadHeaderStringWithLenPrefix2_1_parses hnameLen).bind fun nameInfo hname => ?_
  refine (messageReadUint16_val_parses _).bind fun elementType htype => ?_
  refine (messageReadHeaderStringWithLenPrefix2_1_parses htypeNameLen).bind
    fun typeNameInfo htypeName => ?_
  refine (messageReadHeaderStringWithLenPrefix2_1_parses hmetaLen).bind fun metaInfo hmeta => ?_
  refine Parses.get_bind ?_
  refine Parses.bind (y := []) (messageReadUint32_parses _) fun dataCount hcount => ?_
  refine Parses.nil_bind (messageReadHeaderStringWithLenPrefix_2_parses hname hnameRoom)
    fun elementName hnameHolds => ?_
  refine Parses.nil_bind (messageReadHeaderStringWithLenPrefix_2_parses htypeName htypeNameRoom)
    fun typeName htypeNameHolds => ?_
  refine Parses.nil_bind (messageReadHeaderStringWithLenPrefix_2_parses hmeta hmetaRoom)
    fun metadata hmetaHolds => ?_
  refine Parses.nil_bind (Parses.get (k := k) ?_) fun next hnext => Parses.pure ?_
  · rw [hk, messageElementHeader2Bytes]
    simp only [List.flatten_cons, List.flatten_nil, List.length_append, List.length_nil]
    omega
  · rw [hnext]
    exact ⟨fun hroom => ⟨hnameHolds.2 hroom.1, htypeNameHolds.2 hroom.2.1, hmetaHolds.2 hroom.2.2⟩, htype,
      hsize, hcount, hbytes ▸ hheader, rfl, hname.2, hnameHolds.1⟩

end

end RobotRaconteurLite

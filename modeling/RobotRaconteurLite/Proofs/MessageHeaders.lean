import RobotRaconteurLite.Proofs.Parsing
import RobotRaconteurLite.Proofs.WriterCalls

/-!
# Message headers come back

What `begin_message_ex` lays down, `read_header_ex` answers, except for one flag:
the writer builds its flags from nothing and never looks at the `UNRELIABLE` bit
of the header it was given.
-/

namespace RobotRaconteurLite

open OffsetReader OffsetWriter LittleEndian Splice

section

variable [SizeT]

/-- What a reader sees of a header. -/
def MessageHeaderOf.seen (messageVersion : UInt16) (messageFlagsMask : BitVec 8)
    (header : MessageConstHeader) : MessageConstHeader :=
  if messageVersion = 2 then header.version2 else header.masked messageFlagsMask

theorem messageHeaderBytes_version {messageVersion : UInt16} (hver : KnownVersion messageVersion)
    (header : MessageConstHeader) (messageFlagsMask : BitVec 8) (messageSize : Nat) :
    ∃ rest, messageHeaderBytes messageVersion header messageFlagsMask messageSize =
      ([0x52, 0x52, 0x41, 0x43] ++ leBytes 4 messageSize) ++
        (leBytes 2 messageVersion.toNat ++ rest) := by
  rcases hver with rfl | rfl
  · rw [messageHeaderBytes, if_pos rfl, messageHeader2Bytes]
    simp only [List.flatten_cons, List.append_assoc]
    exact ⟨_, rfl⟩
  · rw [messageHeaderBytes, if_neg (by decide), if_pos rfl, messageHeader4Bytes]
    simp only [List.flatten_cons, List.append_assoc]
    exact ⟨_, rfl⟩

/-- Where a reader is to look for the entry count of a header that ends at `next`, if
there is one. -/
def CountRead (messageVersion : UInt16) (header : MessageConstHeader) (messageFlagsMask : BitVec 8)
    (countOffset next : Nat) : Prop :=
  if messageVersion = 2 then countOffset + 6 = next
  else if flagsCheck (messageHeader4Flags header messageFlagsMask) MESSAGE_FLAGS_MULTIPLE_ENTRIES
  then countOffset + 5 = next
  else countOffset = sizeTMax

/-- A header that was read, where its bytes lay. -/
structure HeaderRead (messageVersion : UInt16) (messageFlagsMask : BitVec 8)
    (header : MessageConstHeader) (messageSize length start : Nat) (target : MessageHeader)
    (r : MessageHeader × MessageBufferInfo) : Prop where
  reads : target.RoomFor (header.seen messageVersion messageFlagsMask) →
    r.1.Reads (header.seen messageVersion messageFlagsMask)
  messageSize_eq : r.1.messageSize = UInt32.ofNat messageSize
  headerSize_eq : r.1.headerSize.toNat = length
  messageVersion_eq : r.1.messageVersion = messageVersion
  countRead : CountRead messageVersion header messageFlagsMask r.2.entryCountOffset (start + length)
  messageFlags_eq : messageVersion = 4 → r.1.messageFlags = messageHeader4Flags header messageFlagsMask

theorem bufferVecCopyToUint16_of_at {v : BufferVec} {o n : Nat} (hat : At v.bytes o (leBytes 2 n)) :
    bufferVecCopyToUint16 v o = .ok (UInt16.ofNat n) := by
  obtain ⟨a, hread, ha⟩ := messageReadUint16_parses n hat
  obtain ⟨b, hcopy, hb⟩ := bind_eq_ok.mp hread
  rw [hcopy]
  injection hb with hb
  exact congrArg _ ((Prod.mk.inj hb).1.trans ha)

/-- The version of a message lies behind its size. -/
theorem bufferVecCopyToUint16_version {v : BufferVec} {o messageSize : Nat} {messageVersion : UInt16}
    {rest : List UInt8} (hat : At v.bytes o (([0x52, 0x52, 0x41, 0x43] ++ leBytes 4 messageSize) ++
      (leBytes 2 messageVersion.toNat ++ rest))) :
    bufferVecCopyToUint16 v (addSz o 8) = .ok messageVersion := by
  have hsmall := v.length_bytes
  have hlay := (at_append.mp (at_append.mp hat).2).1
  have hstart : ([0x52, 0x52, 0x41, 0x43] ++ leBytes 4 messageSize).length = 8 := by
    rw [List.length_append, length_leBytes]
    rfl
  have hle := hlay.2
  rw [hstart] at hlay hle
  rw [addSz_eq (by omega), bufferVecCopyToUint16_of_at hlay, UInt16.ofNat_toNat]

theorem messageReaderReadHeaderEx_reads (reader : MessageReader) (target : MessageHeader)
    {messageVersion : UInt16} {messageFlagsMask : BitVec 8} {header : MessageConstHeader}
    {messageSize : Nat} {bytes : List UInt8} (hver : KnownVersion messageVersion)
    (hwritable : header.Writable messageVersion messageFlagsMask)
    (haccepts : target.Accepts (header.seen messageVersion messageFlagsMask))
    (hbytes : bytes = messageHeaderBytes messageVersion header messageFlagsMask messageSize)
    (hsize : (messageHeaderSize messageVersion header messageFlagsMask).toNat = bytes.length)
    (hat : At reader.buffer.bytes reader.bufferOffset bytes) :
    ∃ r, messageReaderReadHeaderEx reader target = .ok r ∧
      HeaderRead messageVersion messageFlagsMask header messageSize bytes.length
        reader.bufferOffset target r := by
  have hversion : bufferVecCopyToUint16 reader.buffer (addSz reader.bufferOffset 8) =
      .ok messageVersion := by
    obtain ⟨rest, hrest⟩ := messageHeaderBytes_version hver header messageFlagsMask messageSize
    rw [← hbytes] at hrest
    rw [hrest] at hat
    exact bufferVecCopyToUint16_version hat
  unfold messageReaderReadHeaderEx
  rw [hversion]
  show ∃ r, (if messageVersion = 2 then _ else if messageVersion = 4 then _ else _) = _ ∧ _
  rcases hver with rfl | rfl
  · rw [messageHeaderBytes, if_pos rfl] at hbytes
    rw [messageHeaderSize, if_pos rfl, UInt16.toNat_toUInt32] at hsize
    obtain ⟨r, hread, hreads, hmessage, hheader, hversion', hcount⟩ :=
      messageReaderReadHeader2Ex_parses reader target hwritable.1 hwritable.2 haccepts hbytes hsize hat
    refine ⟨r, hread, hreads, hmessage, ?_, hversion', hcount, fun h => absurd h (by decide)⟩
    rw [hheader, UInt16.toNat_toUInt32, hsize]
  · rw [messageHeaderBytes, if_neg (by decide), if_pos rfl] at hbytes
    rw [messageHeaderSize, if_neg (by decide)] at hsize
    have hone (h : flagsCheck (messageHeader4Flags header messageFlagsMask)
        MESSAGE_FLAGS_MULTIPLE_ENTRIES = false) : (header.masked messageFlagsMask).entryCount = 1 :=
      seen_of_absent (messageHeader4Flags_check header messageFlagsMask).2.2.2.2.1
        (fun h => bne_eq_false_iff_eq.mp h) h
    obtain ⟨r, hread, hreads, hmessage, hheader, hversion', hflags, hcount⟩ :=
      messageReaderReadHeader4Ex_parses reader target rfl rfl hone hwritable.1 hwritable.2.1 hwritable.2.2
        haccepts hbytes hsize hat
    exact ⟨r, hread, hreads, hmessage, hheader ▸ hsize, hversion', hcount, fun _ => hflags⟩

/-! ## The round trip -/

theorem MessageHeaderOf.RoomFor.seen {target : MessageHeader} {header : MessageConstHeader}
    (h : target.RoomFor header) (messageVersion : UInt16) (messageFlagsMask : BitVec 8) :
    target.RoomFor (header.seen messageVersion messageFlagsMask) := by
  obtain ⟨hsender, hreceiver, hmeta⟩ := h
  rw [MessageHeaderOf.seen]
  split
  · exact ⟨hsender, hreceiver, hmeta⟩
  · refine ⟨hsender.mono ?_, hreceiver.mono ?_, hmeta.mono ?_⟩ <;>
    · dsimp only [MessageHeaderOf.masked]
      split
      · exact Nat.le_refl _
      · exact Nat.zero_le _

theorem MessageHeaderOf.RoomFor.accepts {target : MessageHeader} {header : MessageConstHeader}
    (h : target.RoomFor header) : target.Accepts header :=
  ⟨Or.inr h.1, Or.inr h.2.1, Or.inr h.2.2⟩

/-- The writer never sets the flag. -/
theorem messageHeader4Flags_unreliable (header : MessageConstHeader) (messageFlagsMask : BitVec 8) :
    flagsCheck (messageHeader4Flags header messageFlagsMask) MESSAGE_FLAGS_UNRELIABLE = false :=
  (messageHeader4Flags_check header messageFlagsMask).2.2.2.2.2.1

/-- `read_header` on a header that was written: every section the mask allows, and the
flag of the header as far as the mask allows it. -/
def ReadsBack (messageVersion : UInt16) (messageFlagsMask : BitVec 8) (header : MessageConstHeader)
    (start next : Nat) (read : Result (MessageHeader × MessageReader)) : Prop :=
  ∃ r, read = .ok r ∧ r.1.Reads (header.seen messageVersion messageFlagsMask) ∧
    start + r.1.headerSize.toNat = next ∧
    (messageVersion = 4 → flagsCheck r.1.messageFlags MESSAGE_FLAGS_UNRELIABLE =
      flagsCheck (header.messageFlags &&& messageFlagsMask) MESSAGE_FLAGS_UNRELIABLE)

/-- A header comes back as it was written unless it should have said `UNRELIABLE`. -/
theorem messageHeader_readsBack {messageVersion : UInt16} {messageFlagsMask : BitVec 8}
    {header : MessageConstHeader} {v v' : BufferVec} {start next : Nat}
    {w : MessageConstHeader × MessageBufferInfo}
    (hwrite : messageWriterWriteHeader messageVersion header messageFlagsMask start v =
      (.ok (w, next), v'))
    {reader : MessageReader} (hbuffer : reader.buffer = v') (hoffset : reader.bufferOffset = start)
    {target : MessageHeader} (hroom : target.RoomFor header) :
    ReadsBack messageVersion messageFlagsMask header start next
        (messageReaderReadHeader reader target) ↔
      ¬ (messageVersion = 4 ∧
        flagsCheck (header.messageFlags &&& messageFlagsMask) MESSAGE_FLAGS_UNRELIABLE = true) := by
  obtain ⟨bytes, hbytes⟩ : ∃ bytes, bytes = messageHeaderBytes messageVersion header
    messageFlagsMask 0 := ⟨_, rfl⟩
  have hput := messageWriterWriteHeader_puts messageVersion header messageFlagsMask (o := start)
    hbytes v
  rw [hwrite] at hput
  obtain ⟨⟨⟨hver, hwritable, -, hfield, hsize, -, hinfo⟩, hnext⟩, hlaid, hin⟩ := hput
  dsimp only at hnext hin hlaid
  have hlong := messageHeaderBytes_length hver header messageFlagsMask 0
  rw [← hbytes] at hlong
  have hroomy := v.length_bytes
  replace hin : start + bytes.length ≤ v.bytes.length := hin.resolve_left fun h => by
    rw [h] at hlong
    simp at hlong
  have hlength : (messageHeaderSize messageVersion header messageFlagsMask).toNat = bytes.length := by
    rw [← hfield, hsize, hinfo (by omega)]
  have hat : At reader.buffer.bytes reader.bufferOffset bytes := by
    rw [hbuffer, hoffset, hlaid]
    exact at_overwrite hin
  have hroom' := hroom.seen messageVersion messageFlagsMask
  obtain ⟨r, hread, hr⟩ := messageReaderReadHeaderEx_reads reader target hver hwritable
    hroom'.accepts hbytes hlength hat
  have hanswer : messageReaderReadHeader reader target =
      .ok (r.1, { reader with messageVersion := r.1.messageVersion }) := by
    unfold messageReaderReadHeader
    rw [hread]
    rfl
  constructor
  · rintro ⟨r', hr', -, -, hflag⟩ ⟨h4, hunreliable⟩
    rw [hanswer] at hr'
    injection hr' with hr'
    have hflags := hflag h4
    rw [hunreliable, ← hr', hr.messageFlags_eq h4, messageHeader4Flags_unreliable] at hflags
    exact absurd hflags (by decide)
  · intro hreliable
    refine ⟨_, hanswer, hr.reads hroom', ?_, fun h4 => ?_⟩
    · rw [hnext, hr.headerSize_eq]
    · have hclear : flagsCheck (header.messageFlags &&& messageFlagsMask)
          MESSAGE_FLAGS_UNRELIABLE = false := Bool.eq_false_iff.mpr fun h => hreliable ⟨h4, h⟩
      rw [hr.messageFlags_eq h4, messageHeader4Flags_unreliable, hclear]

end

section

open Lp64

/-- A header with something in every section, and with these flags. -/
def fullHeader (messageFlags : BitVec 8) : MessageConstHeader where
  messageSize := 0
  messageVersion := 0
  headerSize := 0
  messageFlags := messageFlags
  senderNodeid := ⟨List.replicate 16 7, rfl⟩
  receiverNodeid := NodeId.any
  senderEndpoint := 5
  receiverEndpoint := 70000
  priority := 2
  senderNodename := .constant [0x61, 0x62]
  receiverNodename := .constant []
  metadata := .constant [0x63]
  entryCount := 3
  messageId := 300
  messageResId := 0

/-- A caller's header with four bytes for every string. -/
def roomyHeader : MessageHeader := MessageHeaderOf.zero (.cleared 4)

/-- An empty buffer that a full header fits into. -/
def headerBuffer : BufferVec := ⟨[List.replicate 90 0], by decide⟩

/-- What is in that buffer after a header was written from its third byte on. -/
def writtenBuffer (messageFlags : BitVec 8) : BufferVec :=
  (messageWriterWriteHeader 4 (fullHeader messageFlags) 0xFF 2 headerBuffer).2

theorem fullHeader_readsBack :
    ReadsBack 4 0xFF (fullHeader 0) 2 69
      (messageReaderReadHeader ⟨writtenBuffer 0, 2, 0, 0⟩ roomyHeader) := by
  have hwrite : messageWriterWriteHeader 4 (fullHeader 0) 0xFF 2 headerBuffer =
      (.ok (({ fullHeader 0 with headerSize := 67 }, ⟨2, 67, 65, 69⟩), 69), writtenBuffer 0) :=
    Prod.ext (by decide +kernel) (by rw [writtenBuffer])
  have hroom : roomyHeader.RoomFor (fullHeader 0) :=
    ⟨(by decide : 2 ≤ 4), (by decide : 0 ≤ 4), (by decide : 1 ≤ 4)⟩
  refine (messageHeader_readsBack hwrite ?_ rfl hroom).mpr (by decide)
  dsimp only

/-- The flag of an unreliable message is gone when its header is read. -/
theorem unreliableHeader_losesFlag :
    (messageWriterWriteHeader 4 (fullHeader 0x08) 0xFF 2 headerBuffer).1 =
        .ok (({ fullHeader 0x08 with headerSize := 67 }, ⟨2, 67, 65, 69⟩), 69) ∧
      ¬ ReadsBack 4 0xFF (fullHeader 0x08) 2 69
        (messageReaderReadHeader ⟨writtenBuffer 0x08, 2, 0, 0⟩ roomyHeader) := by
  refine ⟨by decide +kernel, ?_⟩
  rintro ⟨r, hr, -, -, hflag⟩
  have hread : (messageReaderReadHeader ⟨writtenBuffer 0x08, 2, 0, 0⟩ roomyHeader).map
      (fun r => flagsCheck r.1.messageFlags MESSAGE_FLAGS_UNRELIABLE) = .ok false := by
    decide +kernel
  rw [hr] at hread
  injection hread with hread
  exact absurd (hread.symm.trans (hflag rfl)) (by decide)

end

end RobotRaconteurLite

import RobotRaconteurLite.Message.Attempts
import RobotRaconteurLite.Proofs.TreeHeaders

/-!
# The bytes of a message

A message that was written is its header, with the size of all and the number of the
entries in their places, and then one entry after the other.
-/

namespace RobotRaconteurLite

open OffsetWriter LittleEndian Splice

theorem fieldBytes_padded (present : Bool) (count : UInt32) :
    fieldBytes present (paddedUintXBytes count) =
      fieldBytes present [254] ++ leBytes (if present then 4 else 0) count.toNat := by
  cases present <;> rfl

section

variable [SizeT]

def entriesBytes (messageVersion : UInt16) : List EntryTree → List UInt8
  | [] => []
  | entry :: entries => entryBytes messageVersion entry ++ entriesBytes messageVersion entries

/-- The header as it is in the end. Whether it states a count was decided before. -/
def countedHeaderBytes (messageVersion : UInt16) (header : MessageConstHeader)
    (messageFlagsMask : BitVec 8) (messageSize : Nat) (entryCount : UInt32) : List UInt8 :=
  let counted := { header with entryCount := entryCount }
  let flags := messageHeader4Flags header messageFlagsMask
  if messageVersion = 2 then messageHeader2Bytes counted (messageHeader2Size header) messageSize
  else if messageVersion = 4 then
    messageHeader4Bytes counted flags (UInt32.ofNat (messageHeader4TotalSize header flags))
      messageSize
  else []

theorem messageHeaderBytes_eq_counted (messageVersion : UInt16) (header : MessageConstHeader)
    (messageFlagsMask : BitVec 8) (messageSize : Nat) :
    messageHeaderBytes messageVersion header messageFlagsMask messageSize =
      countedHeaderBytes messageVersion header messageFlagsMask messageSize header.entryCount := rfl

/-- What is in front of the size, between it and the count, and behind the count. A count of
full width has an escape byte. -/
structure CountedHeaderShape (messageVersion : UInt16) (header : MessageConstHeader)
    (messageFlagsMask : BitVec 8) (front middle back : List UInt8) (width : Nat) : Prop where
  front_length : front.length = 4
  bytes_eq : ∀ messageSize entryCount,
    countedHeaderBytes messageVersion header messageFlagsMask messageSize entryCount =
      front ++ leBytes 4 messageSize ++ (middle ++ leBytes width entryCount.toNat ++ back)
  counted : messageVersion = 2 ∧ width = 2 ∧ back.length = 4 ∨ messageVersion = 4 ∧ back = [] ∧
    width = if flagsCheck (messageHeader4Flags header messageFlagsMask)
      MESSAGE_FLAGS_MULTIPLE_ENTRIES then 4 else 0
  escape : width = 4 → ∃ fields, middle = fields ++ [254]

theorem countedHeader_shape {messageVersion : UInt16} (hver : KnownVersion messageVersion)
    (header : MessageConstHeader) (messageFlagsMask : BitVec 8) :
    ∃ front middle back width,
      CountedHeaderShape messageVersion header messageFlagsMask front middle back width := by
  rcases hver with rfl | rfl
  · refine ⟨[0x52, 0x52, 0x41, 0x43],
      [leBytes 2 2, leBytes 2 (messageHeader2Size header).toNat, header.senderNodeid.data,
        header.receiverNodeid.data, leBytes 4 header.senderEndpoint.toNat,
        leBytes 4 header.receiverEndpoint.toNat, string2Bytes header.senderNodename,
        string2Bytes header.receiverNodename, string2Bytes header.metadata].flatten,
      leBytes 2 header.messageId.toNat ++ leBytes 2 header.messageResId.toNat, 2,
      ⟨rfl, fun messageSize entryCount => ?_, Or.inl ⟨rfl, rfl, ?_⟩, fun h => absurd h (by decide)⟩⟩
    · simp only [countedHeaderBytes, if_pos, messageHeader2Bytes, List.flatten_cons,
        List.flatten_nil, List.append_assoc, List.append_nil]
    · rw [List.length_append, length_leBytes, length_leBytes]
  · obtain ⟨flags, hflags⟩ : ∃ flags, flags = messageHeader4Flags header messageFlagsMask := ⟨_, rfl⟩
    have h42 : ¬ (4 : UInt16) = 2 := by decide
    obtain ⟨fields, hfields⟩ : ∃ fields, fields =
      [leBytes 2 4, uintXBytes (UInt32.ofNat (messageHeader4TotalSize header flags)),
        leBytes 1 flags.toNat,
        fieldBytes (flagsCheck flags MESSAGE_FLAGS_ROUTING_INFO) header.senderNodeid.data,
        fieldBytes (flagsCheck flags MESSAGE_FLAGS_ROUTING_INFO) header.receiverNodeid.data,
        fieldBytes (flagsCheck flags MESSAGE_FLAGS_ROUTING_INFO) (string4Bytes header.senderNodename),
        fieldBytes (flagsCheck flags MESSAGE_FLAGS_ROUTING_INFO)
          (string4Bytes header.receiverNodename),
        fieldBytes (flagsCheck flags MESSAGE_FLAGS_ENDPOINT_INFO) (uintXBytes header.senderEndpoint),
        fieldBytes (flagsCheck flags MESSAGE_FLAGS_ENDPOINT_INFO)
          (uintXBytes header.receiverEndpoint),
        fieldBytes (flagsCheck flags MESSAGE_FLAGS_PRIORITY) (leBytes 2 header.priority.toNat),
        fieldBytes (flagsCheck flags MESSAGE_FLAGS_META_INFO) (string4Bytes header.metadata),
        fieldBytes (flagsCheck flags MESSAGE_FLAGS_META_INFO) (leBytes 2 header.messageId.toNat),
        fieldBytes (flagsCheck flags MESSAGE_FLAGS_META_INFO)
          (leBytes 2 header.messageResId.toNat)].flatten := ⟨_, rfl⟩
    refine ⟨[0x52, 0x52, 0x41, 0x43],
      fields ++ fieldBytes (flagsCheck flags MESSAGE_FLAGS_MULTIPLE_ENTRIES) [254], [], _,
      ⟨rfl, fun messageSize entryCount => ?_, Or.inr ⟨rfl, rfl, rfl⟩, fun hwidth => ⟨fields, ?_⟩⟩⟩
    · rw [hfields]
      simp only [countedHeaderBytes, if_neg h42, if_pos, ← hflags, messageHeader4Bytes,
        fieldBytes_padded, List.flatten_cons, List.flatten_nil, List.append_assoc, List.append_nil]
    · rw [← hflags] at hwidth
      split at hwidth
      · next hflag => rw [hflag, fieldBytes_true]
      · cases hwidth

section

variable {messageVersion : UInt16} {header : MessageConstHeader} {messageFlagsMask : BitVec 8}

theorem countedHeaderBytes_length (hver : KnownVersion messageVersion)
    (header : MessageConstHeader) (messageFlagsMask : BitVec 8) (messageSize : Nat)
    (entryCount : UInt32) :
    (countedHeaderBytes messageVersion header messageFlagsMask messageSize entryCount).length =
      (messageHeaderBytes messageVersion header messageFlagsMask 0).length := by
  obtain ⟨front, middle, back, width, hshape⟩ := countedHeader_shape hver header messageFlagsMask
  simp only [messageHeaderBytes_eq_counted, hshape.bytes_eq, List.length_append, length_leBytes]

/-- The size and the count put in their places. -/
theorem CountedHeaderShape.patch {front middle back : List UInt8} {width : Nat}
    (h : CountedHeaderShape messageVersion header messageFlagsMask front middle back width)
    (rest : List UInt8) (messageSize : Nat) (entryCount : UInt32) :
    overwrite (overwrite (messageHeaderBytes messageVersion header messageFlagsMask 0 ++ rest) 4
        (leBytes 4 messageSize)) (8 + middle.length) (leBytes width entryCount.toNat) =
      countedHeaderBytes messageVersion header messageFlagsMask messageSize entryCount ++ rest := by
  have hsize := overwrite_middle (x := front) (y := leBytes 4 0) (w := leBytes 4 messageSize)
    (z := middle ++ leBytes width header.entryCount.toNat ++ back ++ rest)
    (by rw [length_leBytes, length_leBytes])
  have hcount := overwrite_middle (x := front ++ leBytes 4 messageSize ++ middle)
    (y := leBytes width header.entryCount.toNat) (w := leBytes width entryCount.toNat)
    (z := back ++ rest) (by rw [length_leBytes, length_leBytes])
  have hwhere : (front ++ leBytes 4 messageSize ++ middle).length = 8 + middle.length := by
    simp only [List.length_append, length_leBytes, h.front_length]
  rw [hwhere] at hcount
  rw [h.front_length] at hsize
  simp only [List.append_assoc] at hsize hcount
  simp only [messageHeaderBytes_eq_counted, h.bytes_eq, List.append_assoc]
  rw [hsize, hcount]

/-- What the writer is left with, and what the header says in the end. -/
def MessageEnded (header' header : MessageConstHeader) (messageSize entryCount : Nat) : Prop :=
  header' = { header with
    messageSize := UInt32.ofNat messageSize
    entryCount := UInt32.ofNat entryCount }

theorem messageWriterEndMessage_completes (header : MessageConstHeader) (messageFlagsMask : BitVec 8)
    {writer : MessageWriter} (begun : MessageConstHeader) {entryWriter : MessageEntryWriter} {o : Nat}
    (rest : List UInt8) (hver : KnownVersion writer.messageVersion)
    (hsize : writer.messageSizeOffset = o + 4)
    (hcount : CountLies writer.messageVersion header messageFlagsMask writer.entryCountOffset
      (o + (messageHeaderBytes writer.messageVersion header messageFlagsMask 0).length))
    (hlt : o + (messageHeaderBytes writer.messageVersion header messageFlagsMask 0).length <
      SizeT.modulus)
    (hmany : entryWriter.entriesWrittenCount ≤ UINT16_MAX) :
    Completes BufferVec.bytes o
      (messageHeaderBytes writer.messageVersion header messageFlagsMask 0 ++ rest)
      (countedHeaderBytes writer.messageVersion header messageFlagsMask
        (addSz entryWriter.entriesWrittenSize begun.headerSize.toNat)
        (UInt32.ofNat entryWriter.entriesWrittenCount) ++ rest)
      (fun header' => addSz entryWriter.entriesWrittenSize begun.headerSize.toNat ≤ UINT32_MAX ∧
        (writer.entryCountOffset = sizeTMax → entryWriter.entriesWrittenCount = 1) ∧
        MessageEnded header' begun (addSz entryWriter.entriesWrittenSize begun.headerSize.toNat)
          entryWriter.entriesWrittenCount)
      (messageWriterEndMessage writer begun entryWriter) := by
  obtain ⟨front, middle, back, width, hshape⟩ := countedHeader_shape hver header messageFlagsMask
  have hlength : (messageHeaderBytes writer.messageVersion header messageFlagsMask 0).length =
      8 + middle.length + width + back.length := by
    simp only [messageHeaderBytes_eq_counted, hshape.bytes_eq, List.length_append, length_leBytes,
      hshape.front_length]
    omega
  have hpatch := hshape.patch rest (addSz entryWriter.entriesWrittenSize begun.headerSize.toNat)
    (UInt32.ofNat entryWriter.entriesWrittenCount)
  have hsame := countedHeaderBytes_length hver header messageFlagsMask
    (addSz entryWriter.entriesWrittenSize begun.headerSize.toNat)
    (UInt32.ofNat entryWriter.entriesWrittenCount)
  unfold messageWriterEndMessage
  rw [hsize]
  refine Completes.nil_bind (failIf_putsAt _) fun _ hmax => ?_
  have hmax := Nat.le_of_not_gt hmax
  have hin : 4 + (leBytes 4 (addSz entryWriter.entriesWrittenSize begun.headerSize.toNat)).length ≤
      (messageHeaderBytes writer.messageVersion header messageFlagsMask 0 ++ rest).length := by
    rw [List.length_append, length_leBytes]
    omega
  refine Completes.patch_bind (bufferUpdate_uint32_putsAt _) hin
    (by rw [List.length_append, List.length_append, hsame]) fun _ _ => ?_
  have hroom : 8 + middle.length + (leBytes width entryWriter.entriesWrittenCount).length ≤
      (overwrite (messageHeaderBytes writer.messageVersion header messageFlagsMask 0 ++ rest) 4
        (leBytes 4 (addSz entryWriter.entriesWrittenSize begun.headerSize.toNat))).length := by
    rw [length_overwrite hin, List.length_append, length_leBytes]
    omega
  have hend : (overwrite (messageHeaderBytes writer.messageVersion header messageFlagsMask 0 ++ rest) 4
        (leBytes 4 (addSz entryWriter.entriesWrittenSize begun.headerSize.toNat))).length ≤
      (countedHeaderBytes writer.messageVersion header messageFlagsMask
        (addSz entryWriter.entriesWrittenSize begun.headerSize.toNat)
        (UInt32.ofNat entryWriter.entriesWrittenCount) ++ rest).length := by
    rw [length_overwrite hin, List.length_append, List.length_append, hsame]
  rw [toNat_ofNat_of_le (Nat.le_trans hmany (by decide))] at hpatch
  rw [CountLies, hlength] at hcount
  rw [hlength] at hlt
  refine Completes.ite (fun hthere => Completes.ite (fun h2 => ?_) fun h2 =>
    Completes.ite (fun h4 => ?_) fun h4 => absurd (hver.resolve_left h2) h4) fun hnone => ?_
  · rw [if_pos h2] at hcount
    obtain ⟨-, rfl, hback⟩ | ⟨h4, -⟩ := hshape.counted
    · have hplace : writer.entryCountOffset = o + (8 + middle.length) := by omega
      rw [hplace]
      refine Completes.patch_bind (messageWriteUint16_ofNat_puts _).run' hroom hend fun _ _ => ?_
      rw [hpatch]
      exact Completes.pure ⟨hmax, fun h => absurd (hplace ▸ h) hthere, rfl⟩
    · rw [h2] at h4
      exact absurd h4 (by decide)
  · rw [if_neg h2] at hcount
    obtain ⟨h2', -⟩ | ⟨-, rfl, hwidth⟩ := hshape.counted
    · exact absurd h2' h2
    split at hcount
    · next hflag =>
        rw [if_pos hflag] at hwidth
        subst hwidth
        rw [List.length_nil] at hcount
        have hplace : writer.entryCountOffset = o + (8 + middle.length) := by omega
        rw [hplace]
        refine Completes.patch_bind (bufferUpdate_uint32_putsAt _) hroom hend fun _ _ => ?_
        rw [hpatch]
        exact Completes.pure ⟨hmax, fun h => absurd (hplace ▸ h) hthere, rfl⟩
    · exact absurd hcount hthere
  · -- The header has no place for a count.
    have hnone := not_not.mp hnone
    refine Completes.nil_bind (failIf_putsAt _) fun _ hone => ?_
    have hone := not_not.mp hone
    have hnowhere : leBytes width entryWriter.entriesWrittenCount = [] := by
      obtain ⟨h2, -, -⟩ | ⟨h4, rfl, hwidth⟩ := hshape.counted
      · rw [if_pos h2, hnone, sizeTMax] at hcount
        omega
      · rw [if_neg (by rw [h4]; decide), hnone, sizeTMax] at hcount
        split at hcount
        · omega
        · next hflag =>
            rw [if_neg hflag] at hwidth
            rw [hwidth]
            rfl
    rw [hnowhere, overwrite_nil] at hpatch
    rw [hpatch]
    exact Completes.pure ⟨hmax, fun _ => hone, rfl⟩

/-! ## Entries and all -/

/-- A writer that has counted what it has written. -/
structure MessageEntryWriter.Counting (w : MessageEntryWriter) : Prop where
  size_le : w.entriesWrittenSize ≤ w.bufferOffset
  count_le : w.entriesWrittenCount ≤ UINT16_MAX
  offset_lt : w.bufferOffset < SizeT.modulus

/-- The writer after `n` more entries of `size` bytes. -/
structure MessageEntryWriter.AdvancedBy (w w' : MessageEntryWriter) (n size : Nat) : Prop where
  offset_eq : w'.bufferOffset = w.bufferOffset + size
  count_eq : w'.entriesWrittenCount = w.entriesWrittenCount + n
  size_eq : w'.entriesWrittenSize = w.entriesWrittenSize + size
  version_eq : w'.messageVersion = w.messageVersion
  count_le : w'.entriesWrittenCount ≤ UINT16_MAX
  offset_lt : w'.bufferOffset < SizeT.modulus

theorem MessageEntryWriter.Advanced.advancedBy {w w' : MessageEntryWriter} {size : Nat}
    (h : w.Advanced w' size) (hw : w.Counting) (hmax : size ≤ UINT32_MAX) :
    w.AdvancedBy w' 1 size := by
  have hmod := SizeT.le_modulus
  have hlt := h.fits
  have hsmall := hw.size_le
  have hroom := h.room
  have h16 : UINT16_MAX < 2 ^ 16 := by decide
  have hwhole : size % 2 ^ 32 = size := Nat.mod_eq_of_lt (Nat.lt_succ_of_le hmax)
  have hoffset := h.offset_eq
  have hcount := h.count_eq
  have hsize := h.size_eq
  rw [hwhole, addSz_eq (by omega)] at hoffset hsize
  rw [addSz_eq (by omega)] at hcount
  exact ⟨hoffset, hcount, hsize, h.version_eq, by omega, by omega⟩

theorem MessageEntryWriter.AdvancedBy.counting {w w' : MessageEntryWriter} {n size : Nat}
    (h : w.AdvancedBy w' n size) (hw : w.Counting) : w'.Counting := by
  refine ⟨?_, h.count_le, h.offset_lt⟩
  rw [h.offset_eq, h.size_eq]
  exact Nat.add_le_add_right hw.size_le size

theorem writeEntries_puts (unset : MessageElementWriter) (entryWriter : MessageEntryWriter)
    (hw : entryWriter.Counting) (entries : List EntryTree)
    (hmax : (entriesBytes entryWriter.messageVersion entries).length ≤ UINT32_MAX) :
    PutsAt BufferVec.bytes entryWriter.bufferOffset
      (entriesBytes entryWriter.messageVersion entries)
      (fun w => (∀ entry ∈ entries, entry.Written entryWriter.messageVersion) ∧
        entryWriter.AdvancedBy w entries.length
          (entriesBytes entryWriter.messageVersion entries).length)
      (writeEntries unset entryWriter entries) := by
  induction entries generalizing entryWriter with
  | nil =>
      rw [writeEntries, entriesBytes]
      exact PutsAt.pure ⟨fun _ h => absurd h List.not_mem_nil, rfl, rfl, rfl, rfl, hw.count_le,
        hw.offset_lt⟩
  | cons entry entries ih =>
      rw [entriesBytes, List.length_append] at hmax
      rw [writeEntries, entriesBytes]
      refine (writeEntry_puts unset entryWriter entry).bind fun w h => ?_
      obtain ⟨hwritten, hadvanced⟩ := h
      have hadvanced := hadvanced.advancedBy hw (by omega)
      have hrest := ih w (hadvanced.counting hw) (by rw [hadvanced.version_eq]; omega)
      rw [hadvanced.version_eq, hadvanced.offset_eq] at hrest
      refine hrest.mono fun w' h' => ?_
      obtain ⟨hwritten', hadvanced'⟩ := h'
      refine ⟨List.forall_mem_cons.mpr ⟨hwritten, hwritten'⟩, ?_, ?_, ?_, ?_, hadvanced'.count_le,
        hadvanced'.offset_lt⟩
      · rw [hadvanced'.offset_eq, hadvanced.offset_eq, List.length_append, Nat.add_assoc]
      · rw [hadvanced'.count_eq, hadvanced.count_eq, List.length_cons]
        omega
      · rw [hadvanced'.size_eq, hadvanced.size_eq, List.length_append, Nat.add_assoc]
      · rw [hadvanced'.version_eq, hadvanced.version_eq]

/-- How many bytes a message has. -/
def MessageTree.length (messageVersion : UInt16) (messageFlagsMask : BitVec 8)
    (message : MessageTree) : Nat :=
  (messageHeaderBytes messageVersion message.header messageFlagsMask 0).length +
    (entriesBytes messageVersion message.entries).length

/-- The header states the size of the message and, if it has a place for it, the number of
the entries. -/
def messageBytes (messageVersion : UInt16) (messageFlagsMask : BitVec 8) (message : MessageTree) :
    List UInt8 :=
  countedHeaderBytes messageVersion message.header messageFlagsMask
      (message.length messageVersion messageFlagsMask) (UInt32.ofNat message.entries.length) ++
    entriesBytes messageVersion message.entries

/-- What is known of a message that was written. -/
structure MessageTree.Written (messageVersion : UInt16) (messageFlagsMask : BitVec 8)
    (message : MessageTree) : Prop where
  known : KnownVersion messageVersion
  writable : message.header.Writable messageVersion messageFlagsMask
  headerSize_eq : (messageHeaderSize messageVersion message.header messageFlagsMask).toNat =
    (messageHeaderBytes messageVersion message.header messageFlagsMask 0).length
  entries : ∀ entry ∈ message.entries, entry.Written messageVersion
  few : message.entries.length ≤ UINT16_MAX
  one : messageVersion = 4 → flagsCheck (messageHeader4Flags message.header messageFlagsMask)
    MESSAGE_FLAGS_MULTIPLE_ENTRIES = false → message.entries.length = 1

/-- From the entries to the message. `entries` is how they are written, and `size` what the writer
counts of them. -/
theorem writeMessage_puts_of (unset : MessageElementWriter) (writer : MessageWriter)
    (entryWriter : MessageEntryWriter) (messageFlagsMask : BitVec 8) (message : MessageTree)
    (P : Prop) (size : Nat)
    (hentries : ∀ opened : MessageEntryWriter, opened.Counting →
      opened.bufferOffset = writer.bufferOffset +
        (messageHeaderBytes writer.messageVersion message.header messageFlagsMask 0).length →
      opened.messageVersion = writer.messageVersion → opened.entriesWrittenCount = 0 →
      opened.entriesWrittenSize = 0 →
      PutsAt BufferVec.bytes opened.bufferOffset
        (entriesBytes writer.messageVersion message.entries)
        (fun w => P ∧ w.entriesWrittenCount = message.entries.length ∧ w.entriesWrittenSize = size ∧
          message.entries.length ≤ UINT16_MAX ∧
          (messageHeaderBytes writer.messageVersion message.header messageFlagsMask 0).length + size <
            SizeT.modulus)
        (writeEntries unset opened message.entries)) :
    PutsAt BufferVec.bytes writer.bufferOffset
      (countedHeaderBytes writer.messageVersion message.header messageFlagsMask
          ((messageHeaderBytes writer.messageVersion message.header messageFlagsMask 0).length + size)
          (UInt32.ofNat message.entries.length) ++
        entriesBytes writer.messageVersion message.entries)
      (fun header => P ∧ KnownVersion writer.messageVersion ∧
        message.header.Writable writer.messageVersion messageFlagsMask ∧
        (messageHeaderSize writer.messageVersion message.header messageFlagsMask).toNat =
          (messageHeaderBytes writer.messageVersion message.header messageFlagsMask 0).length ∧
        message.entries.length ≤ UINT16_MAX ∧
        (writer.messageVersion = 4 → flagsCheck (messageHeader4Flags message.header messageFlagsMask)
          MESSAGE_FLAGS_MULTIPLE_ENTRIES = false → message.entries.length = 1) ∧
        header.messageSize.toNat =
          (messageHeaderBytes writer.messageVersion message.header messageFlagsMask 0).length + size)
      (writeMessage unset writer entryWriter messageFlagsMask message) := by
  have hbegin := messageWriterBeginMessageEx_puts writer message.header entryWriter messageFlagsMask
    rfl
  unfold writeMessage
  by_cases hver : KnownVersion writer.messageVersion
  · have hlong := messageHeaderBytes_length hver message.header messageFlagsMask 0
    have hsame := countedHeaderBytes_length hver message.header messageFlagsMask
      ((messageHeaderBytes writer.messageVersion message.header messageFlagsMask 0).length + size)
      (UInt32.ofNat message.entries.length)
    refine Completes.puts_bind hbegin (List.ne_nil_of_length_pos (by omega))
      (by rw [List.length_append, hsame]; omega) fun p hp => ?_
    obtain ⟨begun, header, opened⟩ := p
    obtain ⟨countOffset, -, hwritable, hcount, hlt, hbegun, hfield, hheader, hopened⟩ := hp
    dsimp only at hbegun hfield hheader hopened ⊢
    have hoffset : opened.bufferOffset = writer.bufferOffset +
      (messageHeaderBytes writer.messageVersion message.header messageFlagsMask 0).length := by
        rw [hopened]
    have hversion : opened.messageVersion = writer.messageVersion := by rw [hopened]
    have hnone : opened.entriesWrittenCount = 0 := by rw [hopened]
    have hempty : opened.entriesWrittenSize = 0 := by rw [hopened]
    have hentries := hentries opened ⟨by omega, by omega, by omega⟩ hoffset hversion hnone hempty
    rw [hoffset] at hentries
    refine Completes.append_bind hentries (by rw [List.length_append, List.length_append, hsame])
      fun w h => ?_
    obtain ⟨hp, hcounted, hsize, hfew, hend⟩ := h
    have hsum : addSz w.entriesWrittenSize header.headerSize.toNat =
        (messageHeaderBytes writer.messageVersion message.header messageFlagsMask 0).length + size := by
      rw [hsize, hheader, addSz_eq (by omega), Nat.add_comm]
    have hbegunVersion : begun.messageVersion = writer.messageVersion := by rw [hbegun]
    have hbegunCount : begun.entryCountOffset = countOffset := by rw [hbegun]
    have hclose := messageWriterEndMessage_completes message.header messageFlagsMask header
      (entriesBytes writer.messageVersion message.entries) (hbegunVersion.symm ▸ hver)
      (by rw [hbegun]) (by rw [hbegunVersion, hbegunCount]; exact hcount)
      (by rw [hbegunVersion]; exact hlt) (hcounted ▸ hfew)
    rw [hsum, hcounted, hbegunVersion, hbegunCount] at hclose
    refine hclose.mono fun header' hheader' => ?_
    obtain ⟨hmax, hone, rfl⟩ := hheader'
    refine ⟨hp, hver, hwritable, by rw [← hfield, hheader], hfew, fun h4 hflag => hone ?_,
      toNat_ofNat_of_le hmax⟩
    rw [CountLies, if_neg (by rw [h4]; decide), if_neg (by rw [hflag]; decide)] at hcount
    exact hcount
  · have hnone (size : Nat) (count : UInt32) :
        countedHeaderBytes writer.messageVersion message.header messageFlagsMask size count =
          messageHeaderBytes writer.messageVersion message.header messageFlagsMask 0 := by
      rw [KnownVersion, not_or] at hver
      simp only [countedHeaderBytes, messageHeaderBytes, if_neg hver.1, if_neg hver.2]
    rw [hnone]
    refine hbegin.bind fun p hp => ?_
    obtain ⟨-, hknown, -⟩ := hp
    exact absurd hknown hver

theorem writeMessage_puts (unset : MessageElementWriter) (writer : MessageWriter)
    (entryWriter : MessageEntryWriter) (messageFlagsMask : BitVec 8) (message : MessageTree)
    (hmax : message.length writer.messageVersion messageFlagsMask ≤ UINT32_MAX) :
    PutsAt BufferVec.bytes writer.bufferOffset
      (messageBytes writer.messageVersion messageFlagsMask message)
      (fun header => message.Written writer.messageVersion messageFlagsMask ∧
        header.messageSize.toNat = message.length writer.messageVersion messageFlagsMask)
      (writeMessage unset writer entryWriter messageFlagsMask message) := by
  refine (writeMessage_puts_of unset writer entryWriter messageFlagsMask message
    (∀ entry ∈ message.entries, entry.Written writer.messageVersion)
    (entriesBytes writer.messageVersion message.entries).length
    fun opened hcounting hoffset hversion hnone hempty => ?_).mono fun header h => ?_
  · have hentries := writeEntries_puts unset opened hcounting message.entries
      (by rw [hversion]; exact Nat.le_trans (Nat.le_add_left _ _) hmax)
    rw [hversion] at hentries
    refine hentries.mono fun w h => ?_
    obtain ⟨hwritten, hadvanced⟩ := h
    have hcount := hadvanced.count_eq
    have hsize := hadvanced.size_eq
    have hlt := hadvanced.offset_lt
    have hplace := hadvanced.offset_eq
    rw [hnone, Nat.zero_add] at hcount
    rw [hempty, Nat.zero_add] at hsize
    exact ⟨hwritten, hcount, hsize, hcount ▸ hadvanced.count_le, by omega⟩
  · obtain ⟨hwritten, hver, hwritable, hsize, hfew, hone, hstated⟩ := h
    exact ⟨⟨hver, hwritable, hsize, hwritten, hfew, hone⟩, hstated⟩

/-- A message with one entry. Its size is stated with what the size field of the entry has room
for. -/
theorem writeMessage_one_puts (unset : MessageElementWriter) (writer : MessageWriter)
    (entryWriter : MessageEntryWriter) (messageFlagsMask : BitVec 8) (header : MessageConstHeader)
    (entry : EntryTree) :
    PutsAt BufferVec.bytes writer.bufferOffset
      (countedHeaderBytes writer.messageVersion header messageFlagsMask
          ((messageHeaderBytes writer.messageVersion header messageFlagsMask 0).length +
            (entryBytes writer.messageVersion entry).length % 2 ^ 32) 1 ++
        entryBytes writer.messageVersion entry)
      (fun header' => entry.Written writer.messageVersion ∧ KnownVersion writer.messageVersion ∧
        header.Writable writer.messageVersion messageFlagsMask ∧
        (messageHeaderSize writer.messageVersion header messageFlagsMask).toNat =
          (messageHeaderBytes writer.messageVersion header messageFlagsMask 0).length ∧
        header'.messageSize.toNat =
          (messageHeaderBytes writer.messageVersion header messageFlagsMask 0).length +
            (entryBytes writer.messageVersion entry).length % 2 ^ 32)
      (writeMessage unset writer entryWriter messageFlagsMask ⟨header, [entry]⟩) := by
  have hput := writeMessage_puts_of unset writer entryWriter messageFlagsMask ⟨header, [entry]⟩
    (entry.Written writer.messageVersion)
    ((entryBytes writer.messageVersion entry).length % 2 ^ 32)
    fun opened hcounting hoffset hversion hnone hempty => ?_
  · rw [entriesBytes, entriesBytes, List.append_nil] at hput
    refine hput.mono fun header' h => ?_
    obtain ⟨hwritten, hver, hwritable, hsize, -, -, hstated⟩ := h
    exact ⟨hwritten, hver, hwritable, hsize, hstated⟩
  · have hentry := writeEntry_puts unset opened entry
    rw [hversion] at hentry
    rw [writeEntries, entriesBytes, entriesBytes]
    refine hentry.bind fun w h => ?_
    obtain ⟨hwritten, hadvanced⟩ := h
    have hfits := hadvanced.fits
    have hcount := hadvanced.count_eq
    have hsize := hadvanced.size_eq
    have hle := Nat.mod_le (entryBytes writer.messageVersion entry).length (2 ^ 32)
    have hmod := SizeT.le_modulus
    have hone : 1 ≤ UINT16_MAX := by decide
    rw [hnone, addSz_eq (by omega)] at hcount
    rw [hempty, addSz_eq (by omega), Nat.zero_add] at hsize
    dsimp only at hoffset ⊢
    exact PutsAt.pure ⟨hwritten, hcount, hsize, hone, by omega⟩

end

end

end RobotRaconteurLite

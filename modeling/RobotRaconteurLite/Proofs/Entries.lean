import RobotRaconteurLite.Proofs.HeaderMoves
import RobotRaconteurLite.Connection

/-!
# Where entry windows lie

`connection_message_receive` opens a reader over everything the connection has
received, which can be more than the first message. The entry calls bound each
size they read by the reader's count, so the bound they check is the number of
buffered bytes, not the length the message declares.

Entries lie end to end, so the windows of an iteration are known from the sizes
alone. `EntriesFit` follows them and says of each one that either it ends
inside the message or the check stops it.
-/

namespace RobotRaconteurLite

open OffsetReader Splice LittleEndian

theorem utilReadUint32_take {l : List UInt8} {n pos : Nat} (h : n + 4 ≤ pos) :
    utilReadUint32 (l.take pos) n = utilReadUint32 l n := by
  rw [utilReadUint32, utilReadUint32, slice, slice, List.drop_take, List.take_take,
    Nat.min_eq_left (by omega)]

section

variable [SizeT]

/-- The entry reader after `n` more calls of `move_next`. -/
def messageEntryReaderMoveNextTimes :
    Nat → MessageEntryReader → Result MessageEntryReader
  | 0, r => .ok r
  | n + 1, r => do
      let r ← messageEntryReaderMoveNext r
      messageEntryReaderMoveNextTimes n r

/-- The length field of the first message in the receive buffer. -/
def Connection.firstMessageSize (c : Connection) : Nat :=
  (utilReadUint32 c.recvBuffer 4).toNat

/-- Every entry window that reading reaches lies inside `[0, messageSize)`. -/
def EntryWindowsInside (messageSize : Nat) (opened : Result MessageEntryReader) : Prop :=
  ∀ r₀, opened = .ok r₀ → ∀ n r, messageEntryReaderMoveNextTimes n r₀ = .ok r →
    r.bufferOffset + r.bufferCount ≤ messageSize

/-- How many entries `move_next` goes through: what the message declares, or one
when it declares no count. -/
def declaredEntries (r : MessageReader) (info : MessageBufferInfo) : Nat :=
  if info.entryCountOffset = sizeTMax then 1
  else match messageReadCount2 r.buffer r.messageVersion info.entryCountOffset with
    | .ok (entryCount, _) => entryCount.toNat
    | .error _ => 1

/-- `n` entries from offset `o` on: each one ends inside the message, or behind
the buffered bytes. -/
def EntriesFit (r : MessageReader) (messageSize : Nat) : Nat → Nat → Prop
  | 0, _ => True
  | n + 1, o => ∀ size o', messageReadCount r.buffer r.messageVersion o = .ok (size, o') →
      r.bufferCount < o + size.toNat ∨
        o + size.toNat ≤ messageSize ∧ EntriesFit r messageSize n (o + size.toNat)

/-- No declared entry crosses the end of the message and yet ends among the
buffered bytes. The check of the first entry is made on a sum, which can wrap. -/
def NoEntryCrosses (r : MessageReader) (messageSize : Nat) : Prop :=
  ∀ p, messageReaderReadHeaderEx r (MessageHeaderOf.zero (.null 0)) = .ok p →
    ∀ size o', messageReadCount r.buffer r.messageVersion p.1.headerSize.toNat =
        .ok (size, o') →
      r.bufferCount < addSz p.1.headerSize.toNat size.toNat ∨
        p.1.headerSize.toNat + size.toNat ≤ messageSize ∧
        EntriesFit r messageSize (declaredEntries r p.2 - 1)
          (p.1.headerSize.toNat + size.toNat)

/-! ## What the calls do when they succeed -/

theorem bufferVecCopyToUint32_eq_ok {v : BufferVec} {pos : Nat} {x : UInt32}
    (h : bufferVecCopyToUint32 v pos = .ok x) :
    pos + 4 ≤ v.bytes.length ∧ x = utilReadUint32 v.bytes pos := by
  rw [bufferVecCopyToUint32, bufferVecCopyToUInt_eq v pos (by decide) (by decide)] at h
  obtain ⟨n, hn, rfl⟩ := map_eq_ok.mp h
  obtain ⟨bs, hbs, rfl⟩ := map_eq_ok.mp hn
  obtain ⟨-, hle, rfl⟩ := fetch_eq_ok hbs
  exact ⟨hle, rfl⟩

theorem connectionMessageReceive_cases {c : Connection} {r₀ r : MessageReader}
    (hpos : c.recvBufferPos ≤ c.recvBuffer.length)
    (h : connectionMessageReceive c r₀ = .ok r) :
    r.bufferOffset = 0 ∧ r.bufferCount = c.recvBufferPos ∧
      r.buffer.bytes = c.recvBuffer.take c.recvBufferPos ∧
      c.firstMessageSize ≤ c.recvBufferPos := by
  have hlen : (c.recvBuffer.take c.recvBufferPos).length = c.recvBufferPos := by
    rw [List.length_take]
    omega
  rw [connectionMessageReceive] at h
  split at h
  · cases h
  · split at h
    · next haddr =>
        split at h
        · next r' hinit =>
            injection h with h
            subst h
            simp only [messageReaderInit, bind, bind_eq_ok, failIf_eq_ok, pure,
              Except.pure] at hinit
            obtain ⟨-, hin, -, hten, magicData, -, -, -, size, hsize, -, hle, heq⟩ := hinit
            injection heq with heq
            subst heq
            have hbytes : BufferVec.bytes ⟨[c.recvBuffer.take c.recvBufferPos], haddr⟩ =
                c.recvBuffer.take c.recvBufferPos := List.flatten_singleton
            have hmod := SizeT.le_modulus
            rw [addSz_eq (by omega)] at hsize
            obtain ⟨h8, rfl⟩ := bufferVecCopyToUint32_eq_ok hsize
            rw [hbytes, utilReadUint32_take (by omega)] at hle
            refine ⟨rfl, rfl, hbytes, ?_⟩
            exact Nat.le_of_not_lt hle
        · cases h
    · cases h

theorem messageReaderReadHeader_cases {r r' : MessageReader} {header header' : MessageHeader}
    (h : messageReaderReadHeader r header = .ok (header', r')) :
    r' = { r with messageVersion := header'.messageVersion } := by
  simp only [messageReaderReadHeader, bind, bind_eq_ok, pure, Except.pure] at h
  obtain ⟨p, -, heq⟩ := h
  injection heq with heq
  obtain ⟨rfl, rfl⟩ := Prod.mk.inj heq
  rfl

theorem beginReadEntries_iff {r : MessageReader} {er : MessageEntryReader}
    (h0 : r.bufferOffset = 0) :
    messageReaderBeginReadEntries r = .ok er ↔
      ∃ p : MessageHeader × MessageBufferInfo, ∃ size : UInt32, ∃ o' : Nat,
        messageReaderReadHeaderEx r (MessageHeaderOf.zero (.null 0)) = .ok p ∧
        messageReadCount r.buffer r.messageVersion p.1.headerSize.toNat = .ok (size, o') ∧
        addSz p.1.headerSize.toNat size.toNat ≤ r.bufferCount ∧
        er = {
          buffer := r.buffer
          bufferOffset := p.1.headerSize.toNat
          bufferCount := size.toNat
          bufferRemaining :=
            subSz (subSz r.bufferCount p.1.headerSize.toNat) size.toNat
          currentEntry := 0
          entryCountOffset := p.2.entryCountOffset
          messageVersion := r.messageVersion } := by
  have hzero (x : UInt32) : addSz 0 x.toNat = x.toNat := by
    have hx := x.toNat_lt
    have hmod := SizeT.le_modulus
    rw [addSz_eq (by omega), Nat.zero_add]
  simp only [messageReaderBeginReadEntries, bind, bind_eq_ok, failIf_eq_ok, pure,
    Except.pure, h0, hzero]
  constructor
  · rintro ⟨p, hread, ⟨size, o'⟩, hsize, -, hfits, heq⟩
    injection heq with heq
    exact ⟨p, size, o', hread, hsize, Nat.le_of_not_lt hfits, heq.symm⟩
  · rintro ⟨p, size, o', hread, hsize, hfits, rfl⟩
    exact ⟨p, hread, (size, o'), hsize, (), Nat.not_lt.mpr hfits, rfl⟩

theorem messageEntryReaderMoveNext_iff {r r' : MessageEntryReader} :
    messageEntryReaderMoveNext r = .ok r' ↔
      ∃ total : UInt32, ∃ o : Nat, ∃ size : UInt32, ∃ o' : Nat,
        r.entryCountOffset ≠ sizeTMax ∧
        messageReadCount2 r.buffer r.messageVersion r.entryCountOffset = .ok (total, o) ∧
        addSz r.currentEntry 1 < total.toNat ∧
        messageReadCount r.buffer r.messageVersion (addSz r.bufferOffset r.bufferCount) =
          .ok (size, o') ∧
        size.toNat ≤ r.bufferRemaining ∧
        r' = { r with
          bufferOffset := addSz r.bufferOffset r.bufferCount
          bufferCount := size.toNat
          bufferRemaining := subSz r.bufferRemaining size.toNat
          currentEntry := addSz r.currentEntry 1 } := by
  simp only [messageEntryReaderMoveNext, bind, bind_eq_ok, failIf_eq_ok, pure, Except.pure]
  constructor
  · rintro ⟨-, hmulti, ⟨total, o⟩, htotal, -, hmore, ⟨size, o'⟩, hsize, -, hrem, heq⟩
    injection heq with heq
    exact ⟨total, o, size, o', hmulti, htotal, Nat.not_le.mp (by simpa using hmore), hsize,
      Nat.le_of_not_lt hrem, heq.symm⟩
  · rintro ⟨total, o, size, o', hmulti, htotal, hmore, hsize, hrem, rfl⟩
    exact ⟨(), hmulti, (total, o), htotal, (), by simpa using hmore, (size, o'), hsize, (),
      Nat.not_lt.mpr hrem, rfl⟩

/-! ## The invariant of an iteration -/

/-- An entry reader opened from `r`, whose window and remainder end where the
buffered bytes do. -/
structure EntryEnds (r : MessageReader) (info : MessageBufferInfo)
    (er : MessageEntryReader) : Prop where
  buffer_eq : er.buffer = r.buffer
  version_eq : er.messageVersion = r.messageVersion
  countOffset_eq : er.entryCountOffset = info.entryCountOffset
  current_lt : er.currentEntry + 1 < SizeT.modulus
  ends : er.bufferOffset + er.bufferCount + er.bufferRemaining = r.bufferCount

/-- How many entries are left behind the current one. -/
def entriesLeft (r : MessageReader) (info : MessageBufferInfo) (er : MessageEntryReader) :
    Nat :=
  declaredEntries r info - 1 - er.currentEntry

variable {r : MessageReader} {info : MessageBufferInfo} {er er' : MessageEntryReader}
  {messageSize : Nat}

/-- A step keeps the invariant and takes the next size as the chain of sizes
has it. -/
theorem EntryEnds.moveNext (hr : r.bufferCount < SizeT.modulus) (he : EntryEnds r info er)
    (h : messageEntryReaderMoveNext er = .ok er') :
    EntryEnds r info er' ∧ entriesLeft r info er = entriesLeft r info er' + 1 ∧
      er'.bufferOffset = er.bufferOffset + er.bufferCount ∧
      ∃ size o', messageReadCount r.buffer r.messageVersion er'.bufferOffset =
        .ok (size, o') ∧ er'.bufferCount = size.toNat := by
  obtain ⟨hbuf, hver, hoff, hcur, hends⟩ := he
  obtain ⟨total, o, size, o', hmulti, htotal, hmore, hsize, hrem, rfl⟩ :=
    messageEntryReaderMoveNext_iff.mp h
  have hmod := SizeT.le_modulus
  have htotal32 := total.toNat_lt
  rw [addSz_eq hcur] at hmore ⊢
  rw [addSz_eq (by omega)] at hsize ⊢
  rw [hbuf, hver] at htotal hsize
  rw [hoff] at hmulti htotal
  have hdeclared : declaredEntries r info = total.toNat := by
    rw [declaredEntries, if_neg hmulti, htotal]
  refine ⟨⟨hbuf, hver, hoff, ?_, ?_⟩, ?_, rfl, size, o', hsize, rfl⟩
  · dsimp only
    omega
  · dsimp only
    rw [subSz_eq hrem (by omega)]
    omega
  · rw [entriesLeft, entriesLeft, hdeclared]
    dsimp only
    omega

/-- Where an entry is left and its size is read and fits, a step is made. -/
theorem EntryEnds.exists_moveNext (hr : r.bufferCount < SizeT.modulus)
    (he : EntryEnds r info er) (hleft : 0 < entriesLeft r info er) {size : UInt32} {o' : Nat}
    (hsize : messageReadCount r.buffer r.messageVersion (er.bufferOffset + er.bufferCount) =
      .ok (size, o'))
    (hfits : er.bufferOffset + er.bufferCount + size.toNat ≤ r.bufferCount) :
    ∃ er', messageEntryReaderMoveNext er = .ok er' ∧ er'.bufferCount = size.toNat := by
  obtain ⟨hbuf, hver, hoff, hcur, hends⟩ := he
  rw [entriesLeft, declaredEntries] at hleft
  split at hleft
  · omega
  · next hmulti =>
      split at hleft
      · next total o htotal =>
          refine ⟨_, messageEntryReaderMoveNext_iff.mpr ⟨total, o, size, o', ?_, ?_, ?_, ?_,
            ?_, rfl⟩, rfl⟩
          · rw [hoff]
            exact hmulti
          · rw [hbuf, hver, hoff]
            exact htotal
          · rw [addSz_eq hcur]
            omega
          · rw [addSz_eq (by omega), hbuf, hver]
            exact hsize
          · omega
      · omega

/-- Reading keeps to the message when no entry that is left crosses its end. -/
theorem EntryEnds.moveNextTimes_inside (hr : r.bufferCount < SizeT.modulus) {n : Nat}
    {er : MessageEntryReader} (he : EntryEnds r info er)
    (hin : er.bufferOffset + er.bufferCount ≤ messageSize)
    (hfit : EntriesFit r messageSize (entriesLeft r info er)
      (er.bufferOffset + er.bufferCount))
    (h : messageEntryReaderMoveNextTimes n er = .ok er') :
    er'.bufferOffset + er'.bufferCount ≤ messageSize := by
  induction n generalizing er with
  | zero =>
      injection h with h
      subst h
      exact hin
  | succ n ih =>
      simp only [messageEntryReaderMoveNextTimes, bind, bind_eq_ok] at h
      obtain ⟨er₁, hnext, htimes⟩ := h
      obtain ⟨he₁, hleft, hoff, size, o', hsize, hcount⟩ := he.moveNext hr hnext
      have hends := he₁.ends
      rw [hleft, ← hoff, EntriesFit] at hfit
      rcases hfit size o' hsize with hbehind | ⟨hin₁, hfit₁⟩
      · omega
      · rw [← hcount] at hin₁ hfit₁
        exact ih he₁ hin₁ hfit₁ htimes

/-- When reading keeps to the message, no entry that is left crosses its end. -/
theorem EntryEnds.entriesFit (hr : r.bufferCount < SizeT.modulus) {k : Nat}
    {er : MessageEntryReader} (he : EntryEnds r info er) (hk : entriesLeft r info er = k)
    (hin : EntryWindowsInside messageSize (.ok er)) :
    EntriesFit r messageSize k (er.bufferOffset + er.bufferCount) := by
  induction k generalizing er with
  | zero => trivial
  | succ k ih =>
      intro size o' hsize
      rcases Nat.lt_or_ge r.bufferCount (er.bufferOffset + er.bufferCount + size.toNat) with
        hbehind | hfits
      · exact Or.inl hbehind
      · right
        obtain ⟨er₁, hnext, hcount⟩ := he.exists_moveNext hr (by omega) hsize hfits
        obtain ⟨he₁, hleft, hoff, -⟩ := he.moveNext hr hnext
        have hin₁ : EntryWindowsInside messageSize (.ok er₁) := by
          intro r₀ heq n r' htimes
          injection heq with heq
          subst heq
          apply hin er rfl (n + 1) r'
          simp only [messageEntryReaderMoveNextTimes, bind, bind_eq_ok]
          exact ⟨er₁, hnext, htimes⟩
        have hfit₁ := ih he₁ (by omega) hin₁
        have hend₁ := hin₁ er₁ rfl 0 er₁ rfl
        rw [hoff, hcount] at hfit₁ hend₁
        exact ⟨hend₁, hfit₁⟩

theorem beginReadEntries_ends {p : MessageHeader × MessageBufferInfo} {size : UInt32}
    (hr : r.bufferCount < SizeT.modulus)
    (hfits : p.1.headerSize.toNat + size.toNat ≤ r.bufferCount) :
    EntryEnds r p.2 {
      buffer := r.buffer
      bufferOffset := p.1.headerSize.toNat
      bufferCount := size.toNat
      bufferRemaining := subSz (subSz r.bufferCount p.1.headerSize.toNat) size.toNat
      currentEntry := 0
      entryCountOffset := p.2.entryCountOffset
      messageVersion := r.messageVersion } := by
  have hmod := SizeT.le_modulus
  refine ⟨rfl, rfl, rfl, by dsimp only; omega, ?_⟩
  dsimp only
  rw [subSz_eq (by omega) hr, subSz_eq (by omega) (by omega)]
  omega

/-- Over a reader at offset 0 the entries keep to the first `messageSize` bytes
exactly when no declared entry crosses their end. -/
theorem entryWindowsInside_iff_noEntryCrosses (h0 : r.bufferOffset = 0)
    (hr : r.bufferCount < SizeT.modulus) (hsize : messageSize ≤ r.bufferCount) :
    EntryWindowsInside messageSize (messageReaderBeginReadEntries r) ↔
      NoEntryCrosses r messageSize := by
  constructor
  · intro hin p hread size o' hcount
    rcases Nat.lt_or_ge r.bufferCount (addSz p.1.headerSize.toNat size.toNat) with
      hbehind | hfits
    · exact Or.inl hbehind
    · right
      have hopen := (beginReadEntries_iff h0).mpr
        ⟨p, size, o', hread, hcount, hfits, rfl⟩
      have hend := hin _ hopen 0 _ rfl
      dsimp only at hend
      have hle : p.1.headerSize.toNat + size.toNat ≤ r.bufferCount := by omega
      refine ⟨hend, (beginReadEntries_ends hr hle).entriesFit hr rfl ?_⟩
      rw [hopen] at hin
      exact hin
  · intro hcross er hopen n er' htimes
    obtain ⟨p, size, o', hread, hcount, hfits, rfl⟩ := (beginReadEntries_iff h0).mp hopen
    rcases hcross p hread size o' hcount with hbehind | ⟨hin, hfit⟩
    · omega
    · exact (beginReadEntries_ends hr (by omega)).moveNextTimes_inside hr hin hfit htimes

/-- Entries read out of a receive buffer keep to the first message exactly when
no declared entry crosses its end. -/
theorem receivedEntries_inside_iff {c : Connection} {r₀ r r' : MessageReader}
    {header header' : MessageHeader} (hpos : c.recvBufferPos ≤ c.recvBuffer.length)
    (hrecv : connectionMessageReceive c r₀ = .ok r)
    (hread : messageReaderReadHeader r header = .ok (header', r')) :
    EntryWindowsInside c.firstMessageSize (messageReaderBeginReadEntries r') ↔
      NoEntryCrosses r' c.firstMessageSize := by
  obtain ⟨h0, hcount, hbytes, hsize⟩ := connectionMessageReceive_cases hpos hrecv
  obtain rfl := messageReaderReadHeader_cases hread
  have hlen := r.buffer.length_bytes
  rw [hbytes, List.length_take, Nat.min_eq_left hpos] at hlen
  exact entryWindowsInside_iff_noEntryCrosses h0 (by dsimp only; omega)
    (by dsimp only; omega)

end

section

open Lp64

/-- A connection that has received `bytes`, the first message among them whole. -/
def receivedConnection (bytes : List UInt8) : Connection :=
  { connectionConstruct [] bytes with
    recvBufferPos := bytes.length
    connectionState := STATUS_FLAGS_CONNECTED ||| STATUS_FLAGS_MESSAGE_RECEIVED }

/-- A version 4 message of sixteen bytes whose one entry declares `entrySize`
bytes, and the first bytes of the message behind it. -/
def pipelinedMessages (entrySize : UInt8) : List UInt8 :=
  [0x52, 0x52, 0x41, 0x43, 16, 0, 0, 0, 4, 0, 12, 0, entrySize, 0, 1, 0,
    0x52, 0x52, 0x41, 0x43]

/-- The reader over those bytes. -/
def pipelinedReader (entrySize : UInt8) (messageVersion : UInt16) : MessageReader :=
  ⟨⟨[pipelinedMessages entrySize], (by decide : 2 * 20 < 2 ^ 64)⟩, 0, 20, messageVersion⟩

/-- An entry of eight bytes in a message with room for four is accepted, and its
window takes the next message's magic in. -/
theorem pipelinedMessages_entry_outside :
    ∃ header : MessageHeader, ∃ er : MessageEntryReader,
      connectionMessageReceive (receivedConnection (pipelinedMessages 8))
        (pipelinedReader 0 0) = .ok (pipelinedReader 8 0) ∧
      messageReaderReadHeader (pipelinedReader 8 0) (MessageHeaderOf.zero (.null 0)) =
        .ok (header, pipelinedReader 8 4) ∧
      messageReaderBeginReadEntries (pipelinedReader 8 4) = .ok er ∧
      (receivedConnection (pipelinedMessages 8)).firstMessageSize = 16 ∧
      er.bufferOffset + er.bufferCount = 20 ∧
      ¬ EntryWindowsInside (receivedConnection (pipelinedMessages 8)).firstMessageSize
        (messageReaderBeginReadEntries (pipelinedReader 8 4)) := by
  refine ⟨_, _, rfl, rfl, rfl, rfl, rfl, ?_⟩
  intro h
  have hend := h _ rfl 0 _ rfl
  revert hend
  decide +kernel

/-- An entry of four bytes stays inside. -/
theorem pipelinedMessages_entry_inside :
    EntryWindowsInside (receivedConnection (pipelinedMessages 4)).firstMessageSize
      (messageReaderBeginReadEntries (pipelinedReader 4 4)) := by
  have hcross : NoEntryCrosses (pipelinedReader 4 4)
      (receivedConnection (pipelinedMessages 4)).firstMessageSize := by
    intro p hread size o' hsize
    have hheader : (messageReaderReadHeaderEx (pipelinedReader 4 4)
        (MessageHeaderOf.zero (.null 0))).map
        (fun p => (p.1.headerSize, declaredEntries (pipelinedReader 4 4) p.2)) =
        .ok (12, 1) := by decide +kernel
    rw [hread] at hheader
    obtain ⟨hhs, hdeclared⟩ := Prod.mk.inj (Except.ok.inj hheader)
    have hcount : (messageReadCount (pipelinedReader 4 4).buffer 4 12).map Prod.fst =
        .ok 4 := by decide +kernel
    rw [hhs] at hsize ⊢
    obtain ⟨q, hq, hfour⟩ := map_eq_ok.mp hcount
    obtain ⟨rfl, -⟩ := Prod.mk.inj (Except.ok.inj (hq.symm.trans hsize))
    rw [hdeclared, hfour]
    exact Or.inr ⟨by decide +kernel, trivial⟩
  exact (receivedEntries_inside_iff (Nat.le_refl _)
    (rfl : connectionMessageReceive (receivedConnection (pipelinedMessages 4))
      (pipelinedReader 0 0) = .ok (pipelinedReader 4 0))
    (rfl : messageReaderReadHeader (pipelinedReader 4 0) (MessageHeaderOf.zero (.null 0)) =
      .ok (_, pipelinedReader 4 4))).mpr hcross

end

end RobotRaconteurLite

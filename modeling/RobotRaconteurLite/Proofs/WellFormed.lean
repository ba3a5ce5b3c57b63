import RobotRaconteurLite.Proofs.SessionsAlike

/-!
# Well-formed messages

A message is well formed when its sizes and counts fit together: each header
lies inside its window, the entries fill the message, the elements fill their
entry and nested elements fill their element. Nothing is said about the fields
of a header, or about an element's data.

No reader call on a well-formed message runs off its end. The one exception is
`begin_read_entries` on a message without entries, which looks for a first entry
all the same.
-/

namespace RobotRaconteurLite

open OffsetReader

/-! ## Results that are not `OUT_OF_RANGE` -/

/-- The call answers a value with `Q`, or fails for another reason than having
run off the end. -/
def Within {α : Type} (Q : α → Prop) : Result α → Prop
  | .ok a => Q a
  | .error e => e ≠ .outOfRange

theorem Within.bind {α β : Type} {Q : α → Prop} {Q' : β → Prop} {x : Result α}
    {f : α → Result β} (hx : Within Q x) (hf : ∀ a, x = .ok a → Q a → Within Q' (f a)) :
    Within Q' (x.bind f) := by
  cases x with
  | error e => exact hx
  | ok a => exact hf a rfl hx

theorem Within.failIf_bind {β : Type} {Q' : β → Prop} {c : Prop} [Decidable c] {e : Status}
    {f : Unit → Result β} (he : e ≠ .outOfRange) (hf : ¬ c → Within Q' (f ())) :
    Within Q' ((failIf c e : Result Unit).bind f) := by
  rw [failIf]
  split
  · exact he
  · next h => exact hf h

theorem Within.of_ne {α : Type} {x : Result α} (h : x ≠ .error .outOfRange) :
    Within (fun _ => True) x := by
  cases x with
  | ok a => trivial
  | error e => exact fun he => h (congrArg _ he)

theorem Within.ne {α : Type} {Q : α → Prop} {x : Result α} (h : Within Q x) :
    x ≠ .error .outOfRange := by
  rintro rfl
  exact h rfl

section

variable [SizeT]

/-! ## Windows that fit together -/

def elementAt (v : BufferVec) (ver : UInt16) (o : Nat) : MessageElementReader :=
  ⟨v, o, 0, 0, 0, 0, ver⟩

def entryAt (v : BufferVec) (ver : UInt16) (o : Nat) : MessageEntryReader :=
  ⟨v, o, 0, 0, 0, 0, ver⟩

/-- The element at `o` has `size` bytes and its header lies inside them. -/
structure WfElementHeader (v : BufferVec) (ver : UInt16) (o : Nat) (size : UInt32)
    (p : MessageElementHeader × MessageElementBufferInfo) : Prop where
  count : ∃ o', messageReadCount v ver o = .ok (size, o')
  inside : ∀ header, messageElementReaderReadHeaderEx (elementAt v ver o) header ≠
    .error .outOfRange
  header : messageElementReaderReadHeaderEx (elementAt v ver o)
    (MessageElementHeaderOf.zero (.null 0)) = .ok p
  elementSize_eq : p.1.elementSize = size
  fits : p.2.headerSize ≤ size.toNat
  dataStart_eq : p.2.dataStartOffset = o + p.2.headerSize

/-- `n` elements lie end to end from `o` to `stop`. -/
inductive WfElements (v : BufferVec) (ver : UInt16) : Nat → Nat → Nat → Prop
  | nil (o : Nat) : WfElements v ver 0 o o
  | cons {n o stop : Nat} {size : UInt32} {p : MessageElementHeader × MessageElementBufferInfo}
      (head : WfElementHeader v ver o size p)
      (nested : p.1.elementType ∈ nestedElementTypes →
        WfElements v ver p.1.dataCount.toNat p.2.dataStartOffset (o + size.toNat))
      (rest : WfElements v ver n (o + size.toNat) stop) :
      WfElements v ver (n + 1) o stop

/-- The entry at `o` has `size` bytes and its header lies inside them. -/
structure WfEntryHeader (v : BufferVec) (ver : UInt16) (o : Nat) (size : UInt32)
    (p : MessageEntryHeader × MessageEntryBufferInfo) : Prop where
  count : ∃ o', messageReadCount v ver o = .ok (size, o')
  inside : ∀ header, messageEntryReaderReadHeaderEx (entryAt v ver o) header ≠
    .error .outOfRange
  header : messageEntryReaderReadHeaderEx (entryAt v ver o)
    (MessageEntryHeaderOf.zero (.null 0)) = .ok p

/-- `n` entries lie end to end from `o` to `stop`. -/
inductive WfEntries (v : BufferVec) (ver : UInt16) : Nat → Nat → Nat → Prop
  | nil (o : Nat) : WfEntries v ver 0 o o
  | cons {n o stop : Nat} {size : UInt32} {p : MessageEntryHeader × MessageEntryBufferInfo}
      (head : WfEntryHeader v ver o size p)
      (elements : WfElements v ver p.1.elementCount.toNat p.2.elementStartOffset
        (o + size.toNat))
      (rest : WfEntries v ver n (o + size.toNat) stop) :
      WfEntries v ver (n + 1) o stop

/-- A version `ver` message of `n` entries that is all of `v`. -/
structure WfMessage (v : BufferVec) (ver : UInt16) (n : Nat) : Prop where
  init : ∀ r, ∃ r', messageReaderInit r v 0 v.bytes.length = .ok r'
  inside : ∀ r header, r.buffer = v → r.bufferOffset = 0 →
    messageReaderReadHeaderEx r header ≠ .error .outOfRange
  header : ∃ p : MessageHeader × MessageBufferInfo,
    messageReaderReadHeaderEx ⟨v, 0, v.bytes.length, 0⟩ (MessageHeaderOf.zero (.null 0)) =
      .ok p ∧
    p.1.messageVersion = ver ∧ (ver = 2 ∨ ver = 4) ∧
    (if p.2.entryCountOffset = sizeTMax then n = 1 else
      ∃ total o', messageReadCount2 v ver p.2.entryCountOffset = .ok (total, o') ∧
        total.toNat = n) ∧
    WfEntries v ver n p.1.headerSize.toNat v.bytes.length

variable {v : BufferVec} {ver : UInt16} {n o stop : Nat}

theorem WfElements.le (h : WfElements v ver n o stop) : o ≤ stop := by
  induction h with
  | nil o => exact Nat.le_refl _
  | cons head nested rest _ ih => omega

theorem WfEntries.le (h : WfEntries v ver n o stop) : o ≤ stop := by
  induction h with
  | nil o => exact Nat.le_refl _
  | cons head elements rest ih => omega

/-! ## Readers inside a well-formed message -/

/-- The reader is on an element of a well-formed row that ends inside the buffer. -/
def ElementReaderWf (v : BufferVec) (ver : UInt16) (r : MessageElementReader) : Prop :=
  r.buffer = v ∧ r.messageVersion = ver ∧
    ∃ size p k stop, WfElementHeader v ver r.bufferOffset size p ∧
      r.bufferCount = size.toNat ∧
      (p.1.elementType ∈ nestedElementTypes → WfElements v ver p.1.dataCount.toNat
        p.2.dataStartOffset (r.bufferOffset + size.toNat)) ∧
      WfElements v ver k (r.bufferOffset + size.toNat) stop ∧ stop ≤ v.bytes.length ∧
      r.totalElements = r.currentElement + (k + 1) ∧ r.totalElements < 2 ^ 32

/-- The reader is on an entry of a well-formed message of `n` entries. -/
def EntryReaderWf (v : BufferVec) (ver : UInt16) (n : Nat) (r : MessageEntryReader) : Prop :=
  r.buffer = v ∧ r.messageVersion = ver ∧
    (r.entryCountOffset ≠ sizeTMax → ∃ total o',
      messageReadCount2 v ver r.entryCountOffset = .ok (total, o') ∧ total.toNat = n) ∧
    ∃ size p k, WfEntryHeader v ver r.bufferOffset size p ∧ r.bufferCount = size.toNat ∧
      WfElements v ver p.1.elementCount.toNat p.2.elementStartOffset
        (r.bufferOffset + size.toNat) ∧
      WfEntries v ver k (r.bufferOffset + size.toNat) v.bytes.length ∧
      n = r.currentEntry + (k + 1) ∧ n < 2 ^ 32

/-- The reader a row of elements is opened with. -/
theorem WfElements.opened (h : WfElements v ver n o stop) (hn : n < 2 ^ 32)
    (hstop : stop ≤ v.bytes.length) {size : UInt32} {o' : Nat} (hpos : n ≠ 0)
    (hsize : messageReadCount v ver o = .ok (size, o')) (remaining : Nat) :
    ElementReaderWf v ver ⟨v, o, size.toNat, remaining, 0, n, ver⟩ := by
  cases h with
  | nil => exact absurd rfl hpos
  | cons head nested rest =>
      obtain ⟨o'', hcount⟩ := head.count
      rw [hsize] at hcount
      injection hcount with hcount
      obtain ⟨rfl, -⟩ := Prod.mk.inj hcount
      exact ⟨rfl, rfl, _, _, _, _, head, rfl, nested, rest, hstop, by simp, hn⟩

/-- Where a row is not empty its first size is there. -/
theorem WfElements.readCount (h : WfElements v ver n o stop) (hpos : n ≠ 0) :
    messageReadCount v ver o ≠ .error .outOfRange := by
  cases h with
  | nil => exact absurd rfl hpos
  | cons head nested rest =>
      obtain ⟨o'', hcount⟩ := head.count
      rw [hcount]
      nofun

theorem ElementReaderWf.moveNext {r : MessageElementReader} (hr : ElementReaderWf v ver r) :
    Within (ElementReaderWf v ver) (messageElementReaderMoveNext r) := by
  obtain ⟨rfl, rfl, size, p, k, stop, head, hcount, nested, rest, hstop, htotal, h32⟩ := hr
  have hmod := SizeT.le_modulus
  have hv := r.buffer.length_bytes
  have hle := rest.le
  have hnext : addSz r.currentElement 1 = r.currentElement + 1 := addSz_eq (by omega)
  have ho : addSz r.bufferOffset r.bufferCount = r.bufferOffset + size.toNat := by
    rw [hcount, addSz_eq (by omega)]
  rw [messageElementReaderMoveNext, ho, hnext]
  refine Within.failIf_bind (by decide) fun hmore => ?_
  refine Within.bind (Within.of_ne (rest.readCount (by omega))) ?_
  rintro ⟨size', o'⟩ hsize -
  refine Within.failIf_bind (by decide) fun _ => ?_
  cases rest with
  | nil => omega
  | cons head' nested' rest' =>
      obtain ⟨o'', hcount'⟩ := head'.count
      rw [hsize] at hcount'
      injection hcount' with hcount'
      obtain ⟨rfl, -⟩ := Prod.mk.inj hcount'
      refine ⟨rfl, rfl, _, _, _, _, head', rfl, nested', rest', hstop, ?_, h32⟩
      dsimp only
      omega

theorem ElementReaderWf.readHeader {r : MessageElementReader} (hr : ElementReaderWf v ver r)
    (header : MessageElementHeader) :
    messageElementReaderReadHeaderEx r header ≠ .error .outOfRange := by
  obtain ⟨rfl, rfl, size, p, k, stop, head, -⟩ := hr
  exact head.inside header

theorem ElementReaderWf.beginReadNested {r : MessageElementReader}
    (hr : ElementReaderWf v ver r) :
    Within (ElementReaderWf v ver) (messageElementReaderBeginReadNestedElements r) := by
  obtain ⟨rfl, rfl, size, p, k, stop, head, hcount, nested, rest, hstop, htotal, h32⟩ := hr
  have hle := rest.le
  have hheader : messageElementReaderReadHeaderEx r (MessageElementHeaderOf.zero (.null 0)) =
    .ok p := head.header
  rw [messageElementReaderBeginReadNestedElements, hheader]
  refine Within.failIf_bind (by decide) fun htype => ?_
  refine Within.failIf_bind (by decide) fun hzero => ?_
  have hne : p.1.dataCount.toNat ≠ 0 := fun h => hzero (UInt32.toNat_inj.mp h)
  have hrow := nested (Decidable.not_not.mp htype)
  refine Within.bind (Within.of_ne (hrow.readCount hne)) ?_
  rintro ⟨size', o'⟩ hsize -
  refine Within.failIf_bind (by decide) fun _ => ?_
  exact hrow.opened p.1.dataCount.toNat_lt (by omega) hne hsize _

theorem EntryReaderWf.moveNext {r : MessageEntryReader} (hr : EntryReaderWf v ver n r) :
    Within (EntryReaderWf v ver n) (messageEntryReaderMoveNext r) := by
  obtain ⟨rfl, rfl, htotal, size, p, k, head, hcount, elements, rest, hn, h32⟩ := hr
  have hmod := SizeT.le_modulus
  have hv := r.buffer.length_bytes
  have hle := rest.le
  have hnext : addSz r.currentEntry 1 = r.currentEntry + 1 := addSz_eq (by omega)
  have ho : addSz r.bufferOffset r.bufferCount = r.bufferOffset + size.toNat := by
    rw [hcount, addSz_eq (by omega)]
  rw [messageEntryReaderMoveNext, ho, hnext]
  refine Within.failIf_bind (by decide) fun hmulti => ?_
  obtain ⟨total, o', hread, hn'⟩ := htotal hmulti
  rw [hread]
  refine Within.failIf_bind (by decide) fun hmore => ?_
  generalize hstop : r.buffer.bytes.length = stop at rest
  cases rest with
  | nil => omega
  | cons head' elements' rest' =>
      subst hstop
      obtain ⟨o'', hcount'⟩ := head'.count
      rw [hcount']
      refine Within.failIf_bind (by decide) fun _ => ?_
      refine ⟨rfl, rfl, htotal, _, _, _, head', rfl, elements', rest', ?_, h32⟩
      dsimp only
      omega

theorem EntryReaderWf.readHeader {r : MessageEntryReader} (hr : EntryReaderWf v ver n r)
    (header : MessageEntryHeader) :
    messageEntryReaderReadHeaderEx r header ≠ .error .outOfRange := by
  obtain ⟨rfl, rfl, -, size, p, k, head, -⟩ := hr
  exact head.inside header

theorem EntryReaderWf.beginReadElements {r : MessageEntryReader}
    (hr : EntryReaderWf v ver n r) :
    Within (ElementReaderWf v ver) (messageEntryReaderBeginReadElements r) := by
  obtain ⟨rfl, rfl, -, size, p, k, head, hcount, elements, rest, -⟩ := hr
  have hle := rest.le
  have hheader : messageEntryReaderReadHeaderEx r (MessageEntryHeaderOf.zero (.null 0)) =
    .ok p := head.header
  rw [messageEntryReaderBeginReadElements, hheader]
  refine Within.failIf_bind (by decide) fun hzero => ?_
  have hne : p.1.elementCount.toNat ≠ 0 := fun h => hzero (UInt32.toNat_inj.mp h)
  refine Within.bind (Within.of_ne (elements.readCount hne)) ?_
  rintro ⟨size', o'⟩ hsize -
  refine Within.failIf_bind (by decide) fun _ => ?_
  exact elements.opened p.1.elementCount.toNat_lt hle hne hsize _

/-! ### The message reader -/

theorem messageReadVal_eq_ok {α : Type} {copy : BufferVec → Nat → Result α} {size o o' : Nat}
    {a : α} (h : messageReadVal copy size v o = .ok (a, o')) :
    copy v o = .ok a ∧ o' = addSz o size := by
  simp only [messageReadVal, bind, bind_eq_ok, pure, Except.pure] at h
  obtain ⟨b, hb, heq⟩ := h
  injection heq with heq
  obtain ⟨rfl, rfl⟩ := Prod.mk.inj heq
  exact ⟨hb, rfl⟩

/-- A header read that answers the version it found behind magic and size. -/
theorem versionRead_eq {q : MessageHeader × MessageBufferInfo}
    {rest : UInt32 → UInt16 → Cursor (MessageHeader × MessageBufferInfo)}
    (h : StateT.run' (do
      messageSkip 4
      let messageSize ← messageReadUint32 v
      let messageVersion ← messageReadUint16 v
      rest messageSize messageVersion) o = .ok q)
    (hrest : ∀ size ver', Answers (fun q => q.1.messageVersion = ver') (rest size ver')) :
    bufferVecCopyToUint16 v (addSz (addSz o 4) 4) = .ok q.1.messageVersion := by
  obtain ⟨o', hrun⟩ := run'_eq_ok.mp h
  simp only [bind_apply, bind_eq_ok] at hrun
  obtain ⟨⟨_, o₁⟩, hskip, ⟨size, o₂⟩, hsize, ⟨ver', o₃⟩, hver, hrun⟩ := hrun
  obtain ⟨-, rfl⟩ := Prod.mk.inj (Except.ok.inj hskip)
  obtain ⟨-, rfl⟩ := messageReadVal_eq_ok hsize
  rw [(messageReadVal_eq_ok hver).1]
  exact congrArg _ (hrest size ver' _ _ _ hrun).symm

/-- A header says the version that its bytes hold, whatever strings were asked
for. -/
theorem messageReaderReadHeaderEx_version {r : MessageReader} {header : MessageHeader}
    {q : MessageHeader × MessageBufferInfo} (h : messageReaderReadHeaderEx r header = .ok q) :
    bufferVecCopyToUint16 r.buffer (addSz (addSz r.bufferOffset 4) 4) =
      .ok q.1.messageVersion := by
  simp only [messageReaderReadHeaderEx, bind, bind_eq_ok] at h
  obtain ⟨ver, -, h⟩ := h
  split at h
  · refine versionRead_eq h fun size ver' => ?_
    repeat refine Answers.bind fun _ => ?_
    exact Answers.pure rfl
  · split at h
    · refine versionRead_eq h fun size ver' => ?_
      repeat refine Answers.bind fun _ => ?_
      exact Answers.pure rfl
    · cases h

/-- The reader is over the whole message, before or after its header was read. -/
def MessageReaderWf (v : BufferVec) (ver : UInt16) (r : MessageReader) : Prop :=
  r.buffer = v ∧ r.bufferOffset = 0 ∧ r.bufferCount = v.bytes.length ∧
    (r.messageVersion = ver ∨ r.messageVersion = 0)

theorem WfMessage.readHeader (hm : WfMessage v ver n) {r : MessageReader}
    (hr : MessageReaderWf v ver r) (header : MessageHeader) :
    Within (fun p => MessageReaderWf v ver p.2) (messageReaderReadHeader r header) := by
  obtain ⟨rfl, h0, hcount, -⟩ := hr
  refine Within.bind (Within.of_ne (hm.inside r header rfl h0)) ?_
  rintro q hq -
  obtain ⟨p, hp, hver, -⟩ := hm.header
  have hv := messageReaderReadHeaderEx_version hq
  have hv' := messageReaderReadHeaderEx_version hp
  rw [h0] at hv
  rw [hv, hver] at hv'
  exact ⟨rfl, h0, hcount, Or.inl (Except.ok.inj hv')⟩

/-- Without its version known a count cannot be read. -/
theorem messageReadCount_zero (v : BufferVec) (o : Nat) :
    messageReadCount v 0 o = .error .protocol := rfl

/-- A header read looks at the buffer and the offset only. -/
theorem messageReaderReadHeaderEx_congr {r r' : MessageReader} (hv : r.buffer = r'.buffer)
    (ho : r.bufferOffset = r'.bufferOffset) (header : MessageHeader) :
    messageReaderReadHeaderEx r header = messageReaderReadHeaderEx r' header := by
  cases r
  cases r'
  subst hv ho
  rfl

theorem WfMessage.beginReadEntries (hm : WfMessage v ver n) (hn : n ≠ 0) {r : MessageReader}
    (hr : MessageReaderWf v ver r) :
    Within (EntryReaderWf v ver n) (messageReaderBeginReadEntries r) := by
  obtain ⟨rfl, h0, hcount, hver⟩ := hr
  obtain ⟨p, hp, -, -, htotal, hentries⟩ := hm.header
  have hread : messageReaderReadHeaderEx r (MessageHeaderOf.zero (.null 0)) = .ok p := by
    rw [← hp]
    apply messageReaderReadHeaderEx_congr
    · rfl
    · exact h0
  have hmod := SizeT.le_modulus
  have hsize := p.1.headerSize.toNat_lt
  have ho : addSz r.bufferOffset p.1.headerSize.toNat = p.1.headerSize.toNat := by
    rw [h0, addSz_eq (by omega), Nat.zero_add]
  have ho' : addSz r.bufferOffset (addSz r.bufferOffset p.1.headerSize.toNat) =
      p.1.headerSize.toNat := by
    rw [ho, ho]
  rw [messageReaderBeginReadEntries, hread]
  dsimp only [bind, Except.bind]
  rw [ho', ho]
  rcases hver with hver | hver
  · rw [hver]
    generalize hstop : r.buffer.bytes.length = stop at hentries
    cases hentries with
    | nil => exact absurd rfl hn
    | cons head elements rest =>
        subst hstop
        obtain ⟨o', hread⟩ := head.count
        rw [hread]
        refine Within.failIf_bind (by decide) fun _ => ?_
        refine ⟨rfl, rfl, ?_, _, _, _, head, rfl, elements, rest, by simp, ?_⟩
        · intro hmulti
          rwa [if_neg hmulti] at htotal
        · split at htotal
          · omega
          · obtain ⟨total, o'', -, htotal⟩ := htotal
            have := total.toNat_lt
            omega
  · rw [hver, messageReadCount_zero]
    exact (by decide : Status.protocol ≠ .outOfRange)

end

end RobotRaconteurLite

import Mathlib.Data.Nat.ModEq
import Mathlib.Tactic.Ring
import RobotRaconteurLite.Lib.CallSequence
import RobotRaconteurLite.Proofs.WellFormed

/-!
# Reading a message in the middle of a buffer

`message_reader_init` takes the offset of the message and the number of its
bytes, so a message can be read where it lies in a longer buffer. The header
calls honour the offset. `begin_read_entries` adds it twice, once to find the
first entry's size and once more to place the first window, and compares a sum
that holds it with a count that does not.

What lies behind the message is looked at in one case only. A message without
entries ends where its first entry's size would be, and `begin_read_entries`
reads a size there if the buffer goes on.
-/

namespace RobotRaconteurLite

open OffsetReader CallSequence Splice

/-- Running off the end of the message is excused in the longer buffer. -/
def outOfRangeOnly (e : Status) : Prop := e = .outOfRange

theorem eq_of_ne_outOfRange {α : Type} {x y : Result α} (h : ResultRel outOfRangeOnly Eq x y)
    (hx : x ≠ .error .outOfRange) : y = x := by
  cases x with
  | error e => exact h.resolve_left fun he => hx (congrArg _ he)
  | ok a =>
      cases y with
      | error e => exact h.elim
      | ok b => exact congrArg _ (Eq.symm h)

section

variable [SizeT]

/-! ## Shifted offsets -/

theorem addSz_assoc (a b c : Nat) : addSz (addSz a b) c = addSz a (addSz b c) := by
  simp only [addSz, Nat.mod_add_mod, Nat.add_mod_mod, Nat.add_assoc]

theorem subSz_addSz (k a b : Nat) : subSz (addSz k a) (addSz k b) = subSz a b := by
  have hpos := modulus_pos
  have hb := Nat.mod_lt b hpos
  have hkb := Nat.mod_lt (k + b) hpos
  have hsum : k + a + (SizeT.modulus - (k + b) % SizeT.modulus) ≡
      a + (SizeT.modulus - b % SizeT.modulus) [MOD SizeT.modulus] := by
    refine Nat.ModEq.add_right_cancel (Nat.mod_modEq (k + b) SizeT.modulus) ?_
    have hback := (Nat.mod_modEq b SizeT.modulus).add_left
      (a + (SizeT.modulus - b % SizeT.modulus) + k)
    rw [show k + a + (SizeT.modulus - (k + b) % SizeT.modulus) + (k + b) % SizeT.modulus =
        a + (SizeT.modulus - b % SizeT.modulus) + k + b % SizeT.modulus by omega,
      ← Nat.add_assoc]
    exact hback
  simp only [subSz, addSz, Nat.mod_add_mod, Nat.mod_mod]
  exact hsum

variable {v u : BufferVec} {p s : List UInt8}

/-- A message read at the start of its own buffer, and in the middle of another. -/
theorem readsAlike_shifted (hu : u.bytes = p ++ v.bytes ++ s) :
    ReadsAlike outOfRangeOnly (addSz p.length) v u where
  fetch_rel pos n hn := by
    rw [fetch, fetch]
    split
    · next hin =>
        have hlen := u.length_bytes
        rw [hu, List.length_append, List.length_append] at hlen
        rw [addSz_eq (by omega), if_pos, hu, List.append_assoc, slice_append_right,
          slice_append_left hin.2]
        · rfl
        · rw [hu, List.length_append, List.length_append]
          omega
    · exact Or.inl rfl
  addSz_eq o n := addSz_assoc p.length o n
  subSz_eq a b := subSz_addSz p.length a b

/-- The same where nothing lies in front of the message. -/
theorem readsAlike_suffix (hu : u.bytes = v.bytes ++ s) :
    ReadsAlike outOfRangeOnly id v u where
  fetch_rel pos n hn := by
    rw [fetch, fetch]
    split
    · next hin =>
        rw [id, if_pos, hu, slice_append_left hin.2]
        · rfl
        · rw [hu, List.length_append]
          omega
    · exact Or.inl rfl
  addSz_eq _ _ := rfl
  subSz_eq _ _ := rfl

/-! ## The message at the start of the buffer -/

/-- The data of an element lies inside its window. -/
theorem ElementReaderWf.getDataInfo {ver : UInt16} {r : MessageElementReader}
    (hr : ElementReaderWf v ver r) {dataType : UInt16} {dest : CArray} {pos size : Nat}
    {count : UInt32}
    (h : messageElementReaderGetDataInfo r dataType dest.elemSize = .ok (pos, size, count))
    (hcount : count.toNat ≤ dest.len) :
    pos + count.toNat * dest.elemSize ≤ v.bytes.length := by
  obtain ⟨rfl, rfl, esize, p, k, stop, head, -, -, rest, hstop, -⟩ := hr
  have hheader : messageElementReaderReadHeaderEx r (MessageElementHeaderOf.zero (.null 0)) =
    .ok p := head.header
  have hle := rest.le
  have hsize32 := esize.toNat_lt
  have hmod := SizeT.le_modulus
  have hfits := head.fits
  have haddr := dest.addressable
  have hmul := dest.mul_le hcount
  rw [messageElementReaderGetDataInfo, hheader] at h
  simp only [bind, bind_eq_ok, failIf_eq_ok, pure, Except.pure] at h
  obtain ⟨_, hp, -, -, -, hdata, heq⟩ := h
  obtain rfl := Except.ok.inj hp
  injection heq with heq
  obtain ⟨rfl, hrest⟩ := Prod.mk.inj heq
  obtain ⟨-, rfl⟩ := Prod.mk.inj hrest
  have hes := dest.elemSize_pos
  have hsame : mulSz dest.elemSize p.1.dataCount.toNat =
      subSz p.1.elementSize.toNat p.2.headerSize :=
    Decidable.not_not.mp fun hne => hdata ⟨by omega, hne⟩
  rw [head.elementSize_eq, subSz_eq hfits (by omega),
    mulSz_eq (by rw [Nat.mul_comm]; omega), Nat.mul_comm] at hsame
  rw [head.dataStart_eq]
  omega

theorem ElementReaderWf.getDataInfo_within {ver : UInt16} {r : MessageElementReader}
    (hr : ElementReaderWf v ver r) (dataType : UInt16) (elemSize : Nat) :
    Within (fun _ => True) (messageElementReaderGetDataInfo r dataType elemSize) := by
  refine Within.bind (Within.of_ne (hr.readHeader _)) fun _ _ _ => ?_
  refine Within.failIf_bind (by decide) fun _ => ?_
  exact Within.failIf_bind (by decide) fun _ => trivial

section

variable (hv : v.segments.length = 1) (hw : u.segments.length = 1)
  (hu : u.bytes = v.bytes ++ s)

include hv hw hu

/-- A copy whose bytes lie inside the message is the same from both buffers. -/
theorem copyToMem_suffix (pos : Nat) (dest : CArray) {count : Nat} (hcount : count < SizeT.modulus)
    (hin : count ≤ dest.len → pos + count * dest.elemSize ≤ v.bytes.length) :
    bufferVecCopyToMem u pos dest.data dest.len 0 dest.elemSize count =
      bufferVecCopyToMem v pos dest.data dest.len 0 dest.elemSize count := by
  rcases Nat.eq_zero_or_pos count with rfl | hpos
  · rw [bufferVecCopyToMem_zero, bufferVecCopyToMem_zero, if_pos (Or.inl hv),
      if_pos (Or.inl hw)]
  · rw [bufferVecCopyToMem_eq v pos dest hpos hcount, bufferVecCopyToMem_eq u pos dest hpos hcount]
    split
    · next hle =>
        have hin := hin hle
        have hmul := Nat.mul_pos hpos dest.elemSize_pos
        have hlen : v.bytes.length ≤ u.bytes.length := by
          rw [hu, List.length_append]
          omega
        rw [fetch, fetch, if_pos (by omega), if_pos (by omega), hu, slice_append_left hin]
    · rfl

theorem readDataEx_suffix {ver : UInt16} {r : MessageElementReader}
    (hr : ElementReaderWf v ver r) (dest : CArray) (dataType : UInt16) :
    messageElementReaderReadDataEx (r.onBuffer u) dest.data dest.len dataType dest.elemSize =
      messageElementReaderReadDataEx r dest.data dest.len dataType dest.elemSize := by
  have hmod := SizeT.le_modulus
  rw [messageElementReaderReadDataEx, messageElementReaderReadDataEx,
    eq_of_ne_outOfRange ((readsAlike_suffix hu).getDataInfo hr.1 dataType dest.elemSize)
      (hr.getDataInfo_within dataType dest.elemSize).ne]
  cases hinfo : messageElementReaderGetDataInfo r dataType dest.elemSize with
  | error e => rfl
  | ok q =>
      obtain ⟨pos, size, count⟩ := q
      have hcount := count.toNat_lt
      have hcopy := copyToMem_suffix hv hw hu pos dest (show count.toNat < SizeT.modulus by omega)
        (hr.getDataInfo hinfo)
      dsimp only [bind, Except.bind]
      rw [MessageElementReader.onBuffer, hcopy, hr.1]

theorem readDataScalarEx_suffix {ver : UInt16} {r : MessageElementReader}
    (hr : ElementReaderWf v ver r) (dest : CArray) (hlen : dest.len = 1)
    (dataType : UInt16) :
    messageElementReaderReadDataScalarEx (r.onBuffer u) dest.data dataType dest.elemSize =
      messageElementReaderReadDataScalarEx r dest.data dataType dest.elemSize := by
  have hmod := SizeT.le_modulus
  have hone : mulSz 1 dest.elemSize = dest.elemSize := by
    have hdata := dest.length_data
    have haddr := dest.addressable
    rw [hlen, Nat.one_mul] at hdata
    rw [mulSz_eq (by omega), Nat.one_mul]
  rw [messageElementReaderReadDataScalarEx, messageElementReaderReadDataScalarEx,
    eq_of_ne_outOfRange ((readsAlike_suffix hu).getDataInfo hr.1 dataType dest.elemSize)
      (hr.getDataInfo_within dataType dest.elemSize).ne]
  cases hinfo : messageElementReaderGetDataInfo r dataType dest.elemSize with
  | error e => rfl
  | ok q =>
      obtain ⟨pos, size, count⟩ := q
      dsimp only [bind, Except.bind]
      rcases Decidable.em (count = 1) with rfl | hcount
      · have hcopy := copyToMem_suffix hv hw hu pos dest (show 1 < SizeT.modulus by omega)
          (hr.getDataInfo hinfo)
        rw [bufferVecCopyToMem, bufferVecCopyToMem, hone, hlen] at hcopy
        simp only [failIf, ne_eq, not_true_eq_false, if_false]
        rw [MessageElementReader.onBuffer, hr.1]
        exact hcopy
      · simp only [failIf, if_pos hcount]
        rfl

/-! ### Sessions -/

/-- Every reader is on a part of the well-formed message. -/
structure SessionWf (v : BufferVec) (ver : UInt16) (n : Nat) (s : ReadSession) : Prop where
  buffer : s.buffer = v
  message : ∀ r, s.message = some r → MessageReaderWf v ver r
  entry : ∀ r, s.entry = some r → EntryReaderWf v ver n r
  element : ∀ i r, s.element i = some r → ElementReaderWf v ver r

end

variable {ver : UInt16} {n : Nat}

theorem SessionWf.on {t : ReadSession} (ht : SessionWf v ver n t) {ρ α : Type} {Q : α → Prop}
    {reader : Option ρ} {call : ρ → Result α} {next : α → ReadOutput × ReadSession}
    (hcall : ∀ r, reader = some r → Within Q (call r))
    (hnext : ∀ a, Q a → SessionWf v ver n (next a).2) :
    SessionWf v ver n (t.on reader call next).2 ∧
      (t.on reader call next).1 ≠ .error .outOfRange := by
  cases reader with
  | none =>
      refine ⟨ht, fun he => ?_⟩
      cases he
  | some r =>
      have hr := hcall r rfl
      simp only [ReadSession.on]
      cases hx : call r with
      | error e =>
          rw [hx] at hr
          exact ⟨ht, fun he => hr (Except.error.inj he)⟩
      | ok a =>
          rw [hx] at hr
          refine ⟨hnext a hr, fun he => ?_⟩
          cases he

theorem SessionWf.setEntry {t : ReadSession} (ht : SessionWf v ver n t)
    {r : MessageEntryReader} (hr : EntryReaderWf v ver n r) :
    SessionWf v ver n (t.setEntry r).2 where
  buffer := ht.buffer
  message := ht.message
  entry r' h := by
    injection h with h
    rwa [← h]
  element := ht.element

theorem SessionWf.setElement {t : ReadSession} (ht : SessionWf v ver n t) (slot : Nat)
    {r : MessageElementReader} (hr : ElementReaderWf v ver r) :
    SessionWf v ver n (t.setElement slot r).2 where
  buffer := ht.buffer
  message := ht.message
  entry := ht.entry
  element i r' h := by
    dsimp only [ReadSession.setElement] at h
    split at h
    · injection h with h
      rwa [← h]
    · exact ht.element i r' h

def ReadCall.IsDataRead : ReadCall → Prop
  | .readData .. => True
  | .readDataScalar .. => True
  | _ => False

/-- No call runs off the end of a well-formed message that has an entry. -/
theorem SessionWf.step (hm : WfMessage v ver n) (hn : n ≠ 0) {t : ReadSession}
    (ht : SessionWf v ver n t) {c : ReadCall} (hinit : ¬ c.IsInit) (hdata : ¬ c.IsDataRead) :
    SessionWf v ver n (t.step c).2 ∧ (t.step c).1 ≠ .error .outOfRange := by
  cases c with
  | init offset count => exact absurd trivial hinit
  | readHeader header =>
      refine ht.on (fun r hr => hm.readHeader (ht.message r hr) header) fun a ha => ?_
      exact ⟨ht.buffer, fun r' h => by injection h with h; rwa [← h], ht.entry, ht.element⟩
  | beginReadEntries =>
      exact ht.on (fun r hr => hm.beginReadEntries hn (ht.message r hr)) fun a ha =>
        ht.setEntry ha
  | entryMoveNext =>
      exact ht.on (fun r hr => (ht.entry r hr).moveNext) fun a ha => ht.setEntry ha
  | entryReadHeader header =>
      refine ht.on (fun r hr => ?_) fun a (_ : True) => ht
      exact Within.bind (Within.of_ne ((ht.entry r hr).readHeader header)) fun _ _ _ => trivial
  | beginReadElements slot =>
      exact ht.on (fun r hr => (ht.entry r hr).beginReadElements) fun a ha =>
        ht.setElement slot ha
  | elementMoveNext slot =>
      exact ht.on (fun r hr => (ht.element slot r hr).moveNext) fun a ha =>
        ht.setElement slot ha
  | elementReadHeader slot header =>
      refine ht.on (fun r hr => ?_) fun a (_ : True) => ht
      exact Within.bind (Within.of_ne ((ht.element slot r hr).readHeader header))
        fun _ _ _ => trivial
  | beginReadNestedElements slot nested =>
      exact ht.on (fun r hr => (ht.element slot r hr).beginReadNested) fun a ha =>
        ht.setElement nested ha
  | readData slot dest dataType => exact absurd trivial hdata
  | readDataScalar slot dest hlen dataType => exact absurd trivial hdata

theorem SessionWf.oneBuffer {t : ReadSession} (ht : SessionWf v ver n t) : t.OneBuffer where
  message r hr := by rw [(ht.message r hr).1, ht.buffer]
  entry r hr := by rw [(ht.entry r hr).1, ht.buffer]
  element i r hr := by rw [(ht.element i r hr).1, ht.buffer]

/-- A call that leaves the session as it is and answers the same on both buffers. -/
theorem ReadSession.on_eq {t : ReadSession} {ρ α : Type} {reader : Option ρ} {f : ρ → ρ}
    {call : ρ → Result α} {out : α → ReadOutput}
    (hcall : ∀ r, reader = some r → call (f r) = call r) :
    (t.onBuffer u).on (reader.map f) call (fun a => (out a, t.onBuffer u)) =
      ((t.on reader call fun a => (out a, t)).1,
        (t.on reader call fun a => (out a, t)).2.onBuffer u) := by
  cases reader with
  | none => rfl
  | some r =>
      simp only [ReadSession.on, Option.map_some, hcall r rfl]
      cases call r <;> rfl

theorem ReadSession.on_const {t : ReadSession} {ρ α : Type} (reader : Option ρ)
    (call : ρ → Result α) (out : α → ReadOutput) :
    (t.on reader call fun a => (out a, t)).2 = t := by
  cases reader with
  | none => rfl
  | some r =>
      simp only [ReadSession.on]
      cases call r <;> rfl

theorem SessionWf.step_suffix (hm : WfMessage v ver n) (hn : n ≠ 0)
    (hv : v.segments.length = 1) (hw : u.segments.length = 1) (hu : u.bytes = v.bytes ++ s)
    {t : ReadSession} (ht : SessionWf v ver n t) {c : ReadCall} (hinit : ¬ c.IsInit) :
    (t.onBuffer u).step c = ((t.step c).1, (t.step c).2.onBuffer u) ∧
      SessionWf v ver n (t.step c).2 := by
  by_cases hdata : c.IsDataRead
  · cases c with
    | readData slot dest dataType =>
        refine ⟨ReadSession.on_eq fun r hr => ?_, ?_⟩
        · exact readDataEx_suffix hv hw hu (ht.element slot r hr) dest dataType
        · rw [ReadSession.step, ReadSession.on_const]
          exact ht
    | readDataScalar slot dest hlen dataType =>
        refine ⟨ReadSession.on_eq fun r hr => ?_, ?_⟩
        · exact readDataScalarEx_suffix hv hw hu (ht.element slot r hr) dest hlen dataType
        · rw [ReadSession.step, ReadSession.on_const]
          exact ht
    | _ => exact hdata.elim
  · obtain ⟨hnext, hne⟩ := ht.step hm hn hinit hdata
    have hzero : c.ZeroCopiesAlike outOfRangeOnly v u t := by
      cases c with
      | readData slot dest dataType => exact absurd trivial hdata
      | _ => trivial
    refine ⟨?_, hnext⟩
    obtain ⟨e, rfl, he⟩ | heq :=
      ((readsAlike_suffix hu).step ht.oneBuffer ht.buffer hinit hzero).alike
    · exact absurd he hne
    · exact heq

/-! ## A message without entries -/

/-- Both sessions have a message reader only, the second one at offset `k`. -/
def HeaderOnly (v u : BufferVec) (ver : UInt16) (k : Nat) (t t' : ReadSession) : Prop :=
  ∃ ver', (ver' = ver ∨ ver' = 0) ∧
    t = { ReadSession.start v with message := some ⟨v, 0, v.bytes.length, ver'⟩ } ∧
    t' = { ReadSession.start u with message := some ⟨u, k, v.bytes.length, ver'⟩ }

/-- The same results, windows `k` further on. -/
def ShiftedBy (k : Nat) : Result ReadOutput → Result ReadOutput → Prop
  | .ok (.window o count), y => y = .ok (.window (k + o) count)
  | x, y => y = x

theorem length_shifted (hu : u.bytes = p ++ v.bytes ++ s) :
    p.length + v.bytes.length ≤ u.bytes.length := by
  rw [hu, List.length_append, List.length_append]
  omega

/-- The header of the message, read where it lies in the longer buffer. -/
theorem WfMessage.readHeaderEx_shifted (hm : WfMessage v ver n)
    (hu : u.bytes = p ++ v.bytes ++ s) (ver' : UInt16) (header : MessageHeader) :
    (∃ e, messageReaderReadHeaderEx ⟨v, 0, v.bytes.length, ver'⟩ header = .error e ∧
      messageReaderReadHeaderEx ⟨u, p.length, v.bytes.length, ver'⟩ header = .error e) ∨
    ∃ q q', messageReaderReadHeaderEx ⟨v, 0, v.bytes.length, ver'⟩ header = .ok q ∧
      messageReaderReadHeaderEx ⟨u, p.length, v.bytes.length, ver'⟩ header = .ok q' ∧
      q'.1 = q.1 ∧ q.1.messageVersion = ver := by
  have hlen := length_shifted hu
  have hul := u.length_bytes
  have hoff : (⟨u, p.length, v.bytes.length, ver'⟩ : MessageReader).bufferOffset =
      addSz p.length (⟨v, 0, v.bytes.length, ver'⟩ : MessageReader).bufferOffset := by
    dsimp only
    rw [addSz_eq (by omega), Nat.add_zero]
  have hrel := (readsAlike_shifted hu).readHeaderEx rfl rfl hoff header
  have hne := hm.inside ⟨v, 0, v.bytes.length, ver'⟩ header rfl rfl
  cases hx : messageReaderReadHeaderEx ⟨v, 0, v.bytes.length, ver'⟩ header with
  | error e =>
      rw [hx] at hrel hne
      exact Or.inl ⟨e, rfl, hrel.resolve_left fun he => hne (congrArg _ he)⟩
  | ok q =>
      cases hy : messageReaderReadHeaderEx ⟨u, p.length, v.bytes.length, ver'⟩ header with
      | error e =>
          rw [hx, hy] at hrel
          exact hrel.elim
      | ok q' =>
          rw [hx, hy] at hrel
          obtain ⟨p₀, hp₀, hver, -⟩ := hm.header
          have hv := messageReaderReadHeaderEx_version hx
          rw [messageReaderReadHeaderEx_version hp₀, hver] at hv
          exact Or.inr ⟨q, q', rfl, rfl, hrel.1, (Except.ok.inj hv).symm⟩

/-- There is no size at the end of the buffer. -/
theorem messageReadCount_end (hver : ver = 2 ∨ ver = 4) :
    messageReadCount v ver v.bytes.length = .error .outOfRange := by
  have hval {α : Type} (f : Nat → α) {size : Nat} (h0 : 0 < size) (h16 : size ≤ 16) :
      messageReadVal (fun v o => f <$> bufferVecCopyToUInt v o size) size v v.bytes.length =
        .error .outOfRange := by
    dsimp only [messageReadVal]
    rw [bufferVecCopyToUInt_eq v _ h0 h16, fetch, if_neg (by omega)]
    rfl
  rcases hver with rfl | rfl
  · exact hval UInt32.ofNat (by decide) (by decide)
  · change messageReadUintX v v.bytes.length = _
    have hbyte : messageReadUint8 v v.bytes.length = .error .outOfRange :=
      hval UInt8.ofNat (by decide) (by decide)
    rw [messageReadUintX, bind_apply, hbyte]
    rfl

/-- A header that fails to read keeps both sessions, and one that is read leaves
the version in both readers. -/
theorem HeaderOnly.readHeader (hm : WfMessage v ver n) (hu : u.bytes = p ++ v.bytes ++ s)
    {t t' : ReadSession} (h : HeaderOnly v u ver p.length t t') (header : MessageHeader) :
    ShiftedBy p.length (t.step (.readHeader header)).1 (t'.step (.readHeader header)).1 ∧
      HeaderOnly v u ver p.length (t.step (.readHeader header)).2
        (t'.step (.readHeader header)).2 := by
  obtain ⟨ver', hver', rfl, rfl⟩ := h
  simp only [ReadSession.step, ReadSession.on, messageReaderReadHeader]
  obtain ⟨e, hx, hy⟩ | ⟨q, q', hx, hy, hq, hver⟩ := hm.readHeaderEx_shifted hu ver' header
  · rw [hx, hy]
    exact ⟨rfl, ver', hver', rfl, rfl⟩
  · rw [hx, hy]
    dsimp only [bind, Except.bind, pure, Except.pure]
    rw [hq, hver]
    exact ⟨rfl, ver, Or.inl rfl, rfl, rfl⟩

/-- The size `begin_read_entries` looks for at the end of the message. -/
theorem messageReaderBeginReadEntries_end {r : MessageReader}
    {q : MessageHeader × MessageBufferInfo} {e : Status}
    (hread : messageReaderReadHeaderEx r (MessageHeaderOf.zero (.null 0)) = .ok q)
    (hcount : messageReadCount r.buffer r.messageVersion
      (addSz r.bufferOffset q.1.headerSize.toNat) = .error e) :
    messageReaderBeginReadEntries r = .error e := by
  rw [messageReaderBeginReadEntries, hread]
  dsimp only [bind, Except.bind]
  rw [hcount]

/-- A message without entries ends with its header. -/
theorem WfMessage.readHeaderEx_none (hm : WfMessage v ver 0)
    (hu : u.bytes = p ++ v.bytes ++ s) (ver' : UInt16) :
    ∃ q q', messageReaderReadHeaderEx ⟨v, 0, v.bytes.length, ver'⟩
        (MessageHeaderOf.zero (.null 0)) = .ok q ∧
      messageReaderReadHeaderEx ⟨u, p.length, v.bytes.length, ver'⟩
        (MessageHeaderOf.zero (.null 0)) = .ok q' ∧
      addSz 0 q.1.headerSize.toNat = v.bytes.length ∧
      addSz p.length q'.1.headerSize.toNat = p.length + v.bytes.length := by
  obtain ⟨p₀, hp₀, -, -, -, hentries⟩ := hm.header
  have hmod := SizeT.le_modulus
  have hsize := p₀.1.headerSize.toNat_lt
  have hlen := length_shifted hu
  have hul := u.length_bytes
  have hend : p₀.1.headerSize.toNat = v.bytes.length := by
    generalize hstop : v.bytes.length = stop at hentries
    cases hentries
    rfl
  have hread : messageReaderReadHeaderEx ⟨v, 0, v.bytes.length, ver'⟩
      (MessageHeaderOf.zero (.null 0)) = .ok p₀ := hp₀
  obtain ⟨e, hx, -⟩ | ⟨q, q', hx, hy, hq, -⟩ :=
    hm.readHeaderEx_shifted hu ver' (MessageHeaderOf.zero (.null 0))
  · rw [hread] at hx
    cases hx
  · rw [hread] at hx
    obtain rfl := Except.ok.inj hx
    refine ⟨p₀, q', hread, hy, ?_, ?_⟩
    · rw [addSz_eq (by omega), Nat.zero_add, hend]
    · rw [hq, hend, addSz_eq (by omega)]

/-- Where the message has no entry, the first size is looked for behind it. -/
theorem WfMessage.beginReadEntries_none (hm : WfMessage v ver 0)
    (hu : u.bytes = p ++ v.bytes ++ s)
    (hbehind : messageReadCount u ver (p.length + v.bytes.length) = .error .outOfRange)
    {ver' : UInt16} (hver' : ver' = ver ∨ ver' = 0) :
    ∃ e, messageReaderBeginReadEntries ⟨v, 0, v.bytes.length, ver'⟩ = .error e ∧
      messageReaderBeginReadEntries ⟨u, p.length, v.bytes.length, ver'⟩ = .error e := by
  obtain ⟨-, -, -, hversion, -⟩ := hm.header
  obtain ⟨q, q', hx, hy, hox, hoy⟩ := hm.readHeaderEx_none hu ver'
  rcases hver' with rfl | rfl
  · refine ⟨.outOfRange, messageReaderBeginReadEntries_end hx ?_,
      messageReaderBeginReadEntries_end hy ?_⟩
    · dsimp only
      rw [hox]
      exact messageReadCount_end hversion
    · dsimp only
      rw [hoy]
      exact hbehind
  · exact ⟨.protocol, messageReaderBeginReadEntries_end hx (messageReadCount_zero _ _),
      messageReaderBeginReadEntries_end hy (messageReadCount_zero _ _)⟩

theorem HeaderOnly.step (hm : WfMessage v ver 0) (hu : u.bytes = p ++ v.bytes ++ s)
    (hbehind : messageReadCount u ver (p.length + v.bytes.length) = .error .outOfRange)
    {t t' : ReadSession} (h : HeaderOnly v u ver p.length t t') {c : ReadCall}
    (hinit : ¬ c.IsInit) :
    ShiftedBy p.length (t.step c).1 (t'.step c).1 ∧
      HeaderOnly v u ver p.length (t.step c).2 (t'.step c).2 := by
  cases c with
  | init offset count => exact absurd trivial hinit
  | readHeader header => exact h.readHeader hm hu header
  | beginReadEntries =>
      obtain ⟨ver', hver', rfl, rfl⟩ := h
      obtain ⟨e, hx, hy⟩ := hm.beginReadEntries_none hu hbehind hver'
      simp only [ReadSession.step, ReadSession.on, hx, hy]
      exact ⟨rfl, ver', hver', rfl, rfl⟩
  | _ =>
      obtain ⟨ver', hver', rfl, rfl⟩ := h
      exact ⟨rfl, ver', hver', rfl, rfl⟩

/-! ## The law -/

/-- Reading the message in the middle of `u` is reading it alone. -/
def PositionIndependent (v u : BufferVec) (k : Nat) : Prop :=
  ∀ cs : List ReadCall, (∀ c ∈ cs, ¬ c.IsInit) →
    List.Forall₂ (ShiftedBy k)
      (outputs ReadSession.step (ReadSession.start v) (.init 0 v.bytes.length :: cs))
      (outputs ReadSession.step (ReadSession.start u) (.init k v.bytes.length :: cs))

theorem WfMessage.init_shifted (hm : WfMessage v ver n) (hu : u.bytes = p ++ v.bytes ++ s) :
    (ReadSession.start v).step (.init 0 v.bytes.length) =
        (.ok (.window 0 v.bytes.length),
          { ReadSession.start v with message := some ⟨v, 0, v.bytes.length, 0⟩ }) ∧
      (ReadSession.start u).step (.init p.length v.bytes.length) =
        (.ok (.window p.length v.bytes.length),
          { ReadSession.start u with message := some ⟨u, p.length, v.bytes.length, 0⟩ }) := by
  have hlen := length_shifted hu
  have hul := u.length_bytes
  have hrel := (readsAlike_shifted hu).init ⟨v, 0, 0, 0⟩ ⟨u, 0, 0, 0⟩
    (show p.length = addSz p.length 0 by rw [addSz_eq (by omega), Nat.add_zero])
    (show _ < addSz p.length v.bytes.length ↔ _ < addSz 0 v.bytes.length by
      rw [bufferVecLen_toBuffers, bufferVecLen_toBuffers, addSz_eq (by omega), addSz_eq (by omega)]
      omega)
  obtain ⟨r, hr⟩ := hm.init ⟨v, 0, 0, 0⟩
  rw [hr] at hrel
  cases hy : messageReaderInit ⟨u, 0, 0, 0⟩ u p.length v.bytes.length with
  | error e =>
      rw [hy] at hrel
      exact hrel.elim
  | ok r' =>
      rw [hy] at hrel
      obtain ⟨rfl, rfl⟩ := hrel
      simp only [ReadSession.step, ReadSession.on, ReadSession.start, Option.getD_none, hr, hy]
      exact ⟨rfl, rfl⟩

/-- The offset of the message is counted twice in the offset of its first entry. -/
theorem messageReaderBeginReadEntries_offset {r : MessageReader} {er : MessageEntryReader}
    {q : MessageHeader × MessageBufferInfo}
    (hread : messageReaderReadHeaderEx r (MessageHeaderOf.zero (.null 0)) = .ok q)
    (h : messageReaderBeginReadEntries r = .ok er) :
    er.bufferOffset =
      addSz r.bufferOffset (addSz r.bufferOffset q.1.headerSize.toNat) := by
  simp only [messageReaderBeginReadEntries, bind, bind_eq_ok, pure, Except.pure, hread] at h
  obtain ⟨_, hq, _, _, -, -, heq⟩ := h
  obtain rfl := Except.ok.inj hq
  rw [← Except.ok.inj heq]

/-- Alone, the message's first entry is opened where its header ends. -/
theorem WfMessage.beginReadEntries_alone (hm : WfMessage v ver n) (hn : n ≠ 0) :
    ∃ q er, messageReaderReadHeaderEx ⟨v, 0, v.bytes.length, ver⟩
        (MessageHeaderOf.zero (.null 0)) = .ok q ∧
      messageReaderBeginReadEntries ⟨v, 0, v.bytes.length, ver⟩ = .ok er ∧
      er.bufferOffset = q.1.headerSize.toNat ∧
      q.1.headerSize.toNat ≤ v.bytes.length := by
  obtain ⟨q, hq, -, -, -, hentries⟩ := hm.header
  have hmod := SizeT.le_modulus
  have hv := v.length_bytes
  have hle := hentries.le
  have hread : messageReaderReadHeaderEx ⟨v, 0, v.bytes.length, ver⟩
      (MessageHeaderOf.zero (.null 0)) = .ok q := hq
  have ho : addSz 0 q.1.headerSize.toNat = q.1.headerSize.toNat := by
    rw [addSz_eq (by omega), Nat.zero_add]
  have hopen : ∃ er, messageReaderBeginReadEntries ⟨v, 0, v.bytes.length, ver⟩ = .ok er := by
    generalize hstop : v.bytes.length = stop at hentries hread ⊢
    cases hentries with
    | nil => exact absurd rfl hn
    | cons head elements rest =>
        obtain ⟨o', hcount⟩ := head.count
        have hfits := rest.le
        rw [messageReaderBeginReadEntries, hread]
        dsimp only [bind, Except.bind]
        rw [ho, hcount]
        dsimp only
        rw [addSz_eq (by omega), failIf, if_neg (by omega)]
        exact ⟨_, rfl⟩
  obtain ⟨er, her⟩ := hopen
  refine ⟨q, er, hread, her, ?_, hle⟩
  rw [messageReaderBeginReadEntries_offset hread her]
  dsimp only
  rw [ho, ho]

/-- What a run up to `begin_read_entries` shows of the law. -/
theorem PositionIndependent.beginReadEntries (h : PositionIndependent v u p.length)
    (hm : WfMessage v ver n) (hu : u.bytes = p ++ v.bytes ++ s) :
    ShiftedBy p.length
      ((messageReaderBeginReadEntries ⟨v, 0, v.bytes.length, ver⟩).map fun r =>
        .window r.bufferOffset r.bufferCount)
      ((messageReaderBeginReadEntries ⟨u, p.length, v.bytes.length, ver⟩).map fun r =>
        .window r.bufferOffset r.bufferCount) := by
  have hrun := h [.readHeader (MessageHeaderOf.zero (.null 0)), .beginReadEntries]
    (by simp [ReadCall.IsInit])
  obtain ⟨hinit, hinit'⟩ := hm.init_shifted hu
  obtain ⟨p₀, hp₀, -⟩ := hm.header
  have hread : messageReaderReadHeaderEx ⟨v, 0, v.bytes.length, 0⟩
      (MessageHeaderOf.zero (.null 0)) = .ok p₀ := hp₀
  obtain ⟨e, hx, -⟩ | ⟨q, q', hx, hy, hq, hver⟩ :=
    hm.readHeaderEx_shifted hu 0 (MessageHeaderOf.zero (.null 0))
  · rw [hread] at hx
    cases hx
  · simp only [outputs, List.forall₂_cons, hinit, hinit'] at hrun
    have hlast := hrun.2.2.1
    simp only [ReadSession.step, ReadSession.on, messageReaderReadHeader, hx, hy, bind,
      Except.bind, pure, Except.pure, hq, hver] at hlast
    revert hlast
    cases messageReaderBeginReadEntries ⟨v, 0, v.bytes.length, ver⟩ <;>
      cases messageReaderBeginReadEntries ⟨u, p.length, v.bytes.length, ver⟩ <;> exact id

/-- Two sessions on the message, alone and at the start of a longer buffer. -/
def OnSuffix (v u : BufferVec) (ver : UInt16) (n : Nat) (t t' : ReadSession) : Prop :=
  t' = t.onBuffer u ∧ SessionWf v ver n t

theorem shiftedBy_zero (x : Result ReadOutput) : ShiftedBy 0 x x := by
  cases x with
  | error e => rfl
  | ok out =>
      cases out with
      | window o count =>
          change Except.ok (ReadOutput.window o count) = .ok (.window (0 + o) count)
          rw [Nat.zero_add]
      | _ => rfl

theorem OnSuffix.step {t t' : ReadSession} (h : OnSuffix v u ver n t t')
    (hm : WfMessage v ver n) (hn : n ≠ 0) (hv : v.segments.length = 1)
    (hw : u.segments.length = 1) (hu : u.bytes = v.bytes ++ s) {c : ReadCall}
    (hinit : ¬ c.IsInit) :
    ShiftedBy 0 (t.step c).1 (t'.step c).1 ∧ OnSuffix v u ver n (t.step c).2 (t'.step c).2 := by
  obtain ⟨rfl, ht⟩ := h
  obtain ⟨heq, hnext⟩ := ht.step_suffix hm hn hv hw hu hinit
  rw [heq]
  exact ⟨shiftedBy_zero _, rfl, hnext⟩

/-- Reading a well-formed message in the middle of a buffer is reading it alone
exactly when it has entries and nothing lies in front of it, or has none and no
size lies behind it. -/
theorem positionIndependent_iff (hv : v.segments.length = 1) (hw : u.segments.length = 1)
    (hu : u.bytes = p ++ v.bytes ++ s) (hm : WfMessage v ver n) :
    PositionIndependent v u p.length ↔
      0 < n ∧ p = [] ∨
        n = 0 ∧ messageReadCount u ver (p.length + v.bytes.length) = .error .outOfRange := by
  obtain ⟨hinit, hinit'⟩ := hm.init_shifted hu
  constructor
  · intro h
    have hbegin := h.beginReadEntries hm hu
    have hlen := length_shifted hu
    have hul := u.length_bytes
    rcases Nat.eq_zero_or_pos n with rfl | hpos
    · right
      obtain ⟨-, -, -, hversion, -⟩ := hm.header
      obtain ⟨q, q', hx, hy, hox, hoy⟩ := hm.readHeaderEx_none hu ver
      have hopen : messageReaderBeginReadEntries ⟨v, 0, v.bytes.length, ver⟩ =
          .error .outOfRange := by
        apply messageReaderBeginReadEntries_end hx
        dsimp only
        rw [hox]
        exact messageReadCount_end hversion
      rw [hopen] at hbegin
      refine ⟨rfl, ?_⟩
      cases hcount : messageReadCount u ver (p.length + v.bytes.length) with
      | error e =>
          rw [← hoy] at hcount
          rw [messageReaderBeginReadEntries_end hy hcount] at hbegin
          injection hbegin with he
          rw [he]
      | ok q'' =>
          -- A size behind the message is either too large or opens an entry.
          rw [messageReaderBeginReadEntries, hy] at hbegin
          dsimp only [bind, Except.bind] at hbegin
          rw [hoy, hcount] at hbegin
          by_cases hlarge : addSz (p.length + v.bytes.length) q''.1.toNat > v.bytes.length
          · simp only [failIf, if_pos hlarge] at hbegin
            cases hbegin
          · simp only [failIf, if_neg hlarge] at hbegin
            cases hbegin
    · left
      refine ⟨hpos, ?_⟩
      obtain ⟨q, er, hread, hopen, hoff, hle⟩ := hm.beginReadEntries_alone (by omega)
      rw [hopen] at hbegin
      cases hopen' : messageReaderBeginReadEntries ⟨u, p.length, v.bytes.length, ver⟩ with
      | error e =>
          rw [hopen'] at hbegin
          cases hbegin
      | ok er' =>
          rw [hopen'] at hbegin
          obtain ⟨e, hx, -⟩ | ⟨q₁, q', hx, hy, hq, -⟩ :=
            hm.readHeaderEx_shifted hu ver (MessageHeaderOf.zero (.null 0))
          · rw [hread] at hx
            cases hx
          · rw [hread] at hx
            obtain rfl := Except.ok.inj hx
            have hoff' := messageReaderBeginReadEntries_offset hy hopen'
            have hsame : er'.bufferOffset = p.length + er.bufferOffset := by
              injection hbegin with hbegin
              injection hbegin
            rw [hq, hsame, hoff] at hoff'
            dsimp only at hoff'
            rw [show addSz p.length q.1.headerSize.toNat = p.length + q.1.headerSize.toNat from
              addSz_eq (by omega), addSz_eq (by omega)] at hoff'
            exact List.eq_nil_of_length_eq_zero (by omega)
  · rintro (⟨hpos, rfl⟩ | ⟨rfl, hbehind⟩) cs hcs
    · simp only [outputs, List.forall₂_cons, hinit, hinit']
      rw [List.nil_append] at hu
      have hstart : OnSuffix v u ver n
          { ReadSession.start v with message := some ⟨v, 0, v.bytes.length, 0⟩ }
          { ReadSession.start u with message := some ⟨u, 0, v.bytes.length, 0⟩ } := by
        refine ⟨rfl, rfl, ?_, ?_, ?_⟩
        · intro r hr
          injection hr with hr
          subst hr
          exact ⟨rfl, rfl, rfl, Or.inr rfl⟩
        · intro r hr
          cases hr
        · intro i r hr
          cases hr
      exact ⟨rfl, forall₂_outputs_of
        (fun t t' c h hc => h.step hm (by omega) hv hw hu hc) hstart hcs⟩
    · simp only [outputs, List.forall₂_cons, hinit, hinit']
      have hstart : HeaderOnly v u ver p.length
          { ReadSession.start v with message := some ⟨v, 0, v.bytes.length, 0⟩ }
          { ReadSession.start u with message := some ⟨u, p.length, v.bytes.length, 0⟩ } :=
        ⟨0, Or.inr rfl, rfl, rfl⟩
      exact ⟨rfl, forall₂_outputs_of (fun t t' c h hc => h.step hm hu hbehind hc) hstart hcs⟩

end

section

open Lp64

/-- A version 4 message of one entry without elements, behind `pre` and before `post`. -/
def embeddedMessage (pre post : List UInt8) : List UInt8 :=
  pre ++ [0x52, 0x52, 0x41, 0x43, 17, 0, 0, 0, 4, 0, 12, 0, 5, 0, 1, 0, 0] ++ post

/-- The message alone. -/
def aloneBuffer : BufferVec :=
  ⟨[embeddedMessage [] []], (by decide : 2 * 17 < 2 ^ 64)⟩

/-- One byte in front of the message. -/
def behindOneByte : BufferVec :=
  ⟨[embeddedMessage [0] []], (by decide : 2 * 18 < 2 ^ 64)⟩

/-- One byte behind the message. -/
def beforeOneByte : BufferVec :=
  ⟨[embeddedMessage [] [0]], (by decide : 2 * 18 < 2 ^ 64)⟩

theorem aloneBuffer_wf : WfMessage aloneBuffer 4 1 where
  init := fun r => ⟨_, rfl⟩
  inside := by
    intro r header hbuffer hoffset
    have hcongr : messageReaderReadHeaderEx r header =
        messageReaderReadHeaderEx ⟨aloneBuffer, 0, 17, 0⟩ header :=
      messageReaderReadHeaderEx_congr hbuffer hoffset header
    have hread : messageReaderReadHeaderEx ⟨aloneBuffer, 0, 17, 0⟩ header = .ok _ := rfl
    rw [hcongr, hread]
    nofun
  header := by
    refine ⟨_, rfl, rfl, Or.inr rfl, rfl, ?_⟩
    have hentries : WfEntries aloneBuffer 4 1 12 (12 + (5 : UInt32).toNat) := by
      refine WfEntries.cons ⟨⟨13, rfl⟩, fun header => ?_, rfl⟩ (WfElements.nil 17)
        (WfEntries.nil _)
      have hread : messageEntryReaderReadHeaderEx (entryAt aloneBuffer 4 12) header = .ok _ := rfl
      rw [hread]
      nofun
    exact hentries

/-- With one byte in front, the first entry is looked for one byte too far. -/
theorem behindOneByte_dependent :
    WfMessage aloneBuffer 4 1 ∧ behindOneByte.bytes = [0] ++ aloneBuffer.bytes ++ [] ∧
      ¬ PositionIndependent aloneBuffer behindOneByte 1 := by
  refine ⟨aloneBuffer_wf, rfl, fun h => ?_⟩
  have hbegin := @PositionIndependent.beginReadEntries SizeT.lp64 aloneBuffer behindOneByte
    [0] [] 4 1 h aloneBuffer_wf rfl
  have halone : (messageReaderBeginReadEntries ⟨aloneBuffer, 0, 17, 4⟩).map
      (fun r => ReadOutput.window r.bufferOffset r.bufferCount) = .ok (.window 12 5) := rfl
  have hbehind : (messageReaderBeginReadEntries ⟨behindOneByte, 1, 17, 4⟩).map
      (fun r => ReadOutput.window r.bufferOffset r.bufferCount) = .error .protocol := rfl
  have hshift : ShiftedBy 1 (.ok (.window 12 5)) (.error .protocol) := by
    rw [← halone, ← hbehind]
    exact hbegin
  cases hshift

/-- With one byte behind, the message is read as if it were alone. -/
theorem beforeOneByte_independent : PositionIndependent aloneBuffer beforeOneByte 0 :=
  (@positionIndependent_iff SizeT.lp64 aloneBuffer beforeOneByte [] [0] 4 1 rfl rfl
    (by decide +kernel) aloneBuffer_wf).mpr (Or.inl ⟨by decide, rfl⟩)

end

end RobotRaconteurLite

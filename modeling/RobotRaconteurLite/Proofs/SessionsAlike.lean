import RobotRaconteurLite.Proofs.ReadsAlike
import RobotRaconteurLite.Message.Session

/-!
# The same session over another buffer

Where two buffers read alike at the same offsets, a session over the first is
followed by the same session over the second: each call answers the same and
leaves the same readers, the buffer they point at apart. Two calls are left to
the caller. `message_reader_init` looks at the length of the buffer, and a copy
of no elements at how the buffer is cut.
-/

namespace RobotRaconteurLite

open OffsetReader

section

variable [SizeT]

/-! ## Changing the buffer -/

def MessageReader.onBuffer (r : MessageReader) (v : BufferVec) : MessageReader :=
  { r with buffer := v }

def MessageEntryReader.onBuffer (r : MessageEntryReader) (v : BufferVec) :
    MessageEntryReader :=
  { r with buffer := v }

def MessageElementReader.onBuffer (r : MessageElementReader) (v : BufferVec) :
    MessageElementReader :=
  { r with buffer := v }

def ReadSession.onBuffer (s : ReadSession) (v : BufferVec) : ReadSession where
  buffer := v
  message := s.message.map (·.onBuffer v)
  entry := s.entry.map (·.onBuffer v)
  element := fun i => (s.element i).map (·.onBuffer v)

/-- Every reader points at the session's own buffer. -/
structure ReadSession.OneBuffer (s : ReadSession) : Prop where
  message : ∀ r, s.message = some r → r.buffer = s.buffer
  entry : ∀ r, s.entry = some r → r.buffer = s.buffer
  element : ∀ i r, s.element i = some r → r.buffer = s.buffer

theorem ReadSession.start_oneBuffer (v : BufferVec) : (ReadSession.start v).OneBuffer :=
  ⟨nofun, nofun, nofun⟩

variable {excused : Status → Prop} {v w : BufferVec}

/-! ## Reader calls -/

/-- What a call that opens or moves a reader does. -/
def OpensAlike {ρ : Type} (excused : Status → Prop) (onBuffer : ρ → ρ) (buffer : ρ → BufferVec)
    (v : BufferVec) (x y : Result ρ) : Prop :=
  ResultRel excused (fun a b => b = onBuffer a ∧ buffer a = v) x y

theorem ReadsAlike.init {τ : Nat → Nat} (h : ReadsAlike excused τ v w)
    (r r' : MessageReader) {offset offset' count : Nat} (ho : offset' = τ offset)
    (hlen : bufferVecLen w.toBuffers < addSz offset' count ↔
      bufferVecLen v.toBuffers < addSz offset count) :
    ResultRel excused
      (fun a b => a = { r with buffer := v, bufferOffset := offset, bufferCount := count } ∧
        b = { r' with buffer := w, bufferOffset := offset', bufferCount := count })
      (messageReaderInit r v offset count) (messageReaderInit r' w offset' count) := by
  have hmod := SizeT.le_modulus
  subst ho
  rw [h.addSz_eq] at hlen
  simp only [messageReaderInit, failIf, hlen, h.addSz_eq]
  refine ResultRel.bind_refl fun _ => ?_
  refine ResultRel.bind_refl fun _ => ?_
  have haddr : 2 * (List.replicate 4 (0 : UInt8)).length < SizeT.modulus := by
    rw [List.length_replicate]
    omega
  refine (h.copyToBytes haddr (by decide : 0 < 4) (by simp) offset).bind ?_
  rintro magic _ rfl
  refine ResultRel.bind_refl fun _ => ?_
  have hsize : ResultRel excused Eq (bufferVecCopyToUint32 v (addSz offset 4))
      (bufferVecCopyToUint32 w (τ (addSz offset 4))) :=
    (h.copyToUInt (by decide) (by decide) _).map fun _ _ heq => congrArg _ heq
  refine hsize.bind ?_
  rintro size _ rfl
  refine ResultRel.bind_refl fun _ => ?_
  exact ⟨rfl, rfl⟩

theorem ReadsAlike.readHeader (h : ReadsAlike excused id v w) {r : MessageReader}
    (hr : r.buffer = v) (header : MessageHeader) :
    ResultRel excused (fun p q => q = (p.1, p.2.onBuffer w) ∧ p.2.buffer = v)
      (messageReaderReadHeader r header) (messageReaderReadHeader (r.onBuffer w) header) := by
  refine (h.readHeaderEx hr (show (r.onBuffer w).buffer = w from rfl) rfl header).bind ?_
  rintro ⟨a, info⟩ ⟨b, info'⟩ ⟨hab, -⟩
  dsimp only at hab
  subst hab
  exact ⟨rfl, hr⟩

theorem ReadsAlike.beginReadEntries (h : ReadsAlike excused id v w) {r : MessageReader}
    (hr : r.buffer = v) :
    OpensAlike excused (·.onBuffer w) (·.buffer) v (messageReaderBeginReadEntries r)
      (messageReaderBeginReadEntries (r.onBuffer w)) := by
  refine (h.readHeaderEx hr (show (r.onBuffer w).buffer = w from rfl) rfl _).bind ?_
  rintro ⟨a, info⟩ ⟨b, info'⟩ ⟨hab, hinfo⟩
  dsimp only at hab hinfo
  subst hab hr
  refine (h.readCount r.messageVersion (addSz r.bufferOffset b.headerSize.toNat)).bind ?_
  rintro ⟨size, o⟩ ⟨_, _⟩ ⟨rfl, -⟩
  refine ResultRel.bind_refl fun _ => ?_
  have hcount : info'.entryCountOffset = info.entryCountOffset := by
    rcases hinfo.entryCountOffset_eq with ⟨ha, hb⟩ | hab
    · rw [ha, hb]
    · exact hab
  refine ⟨?_, rfl⟩
  dsimp only [MessageEntryReader.onBuffer, MessageReader.onBuffer]
  rw [hcount]

theorem ReadsAlike.entryMoveNext (h : ReadsAlike excused id v w) {r : MessageEntryReader}
    (hr : r.buffer = v) :
    OpensAlike excused (·.onBuffer w) (·.buffer) v (messageEntryReaderMoveNext r)
      (messageEntryReaderMoveNext (r.onBuffer w)) := by
  subst hr
  refine ResultRel.bind_refl fun _ => ?_
  refine (h.readCount2 r.messageVersion r.entryCountOffset).bind ?_
  rintro ⟨total, o⟩ ⟨_, _⟩ ⟨rfl, -⟩
  refine ResultRel.bind_refl fun _ => ?_
  refine (h.readCount r.messageVersion (addSz r.bufferOffset r.bufferCount)).bind ?_
  rintro ⟨size, o'⟩ ⟨_, _⟩ ⟨rfl, -⟩
  refine ResultRel.bind_refl fun _ => ?_
  exact ⟨rfl, rfl⟩

theorem ReadsAlike.entryReadHeader (h : ReadsAlike excused id v w) {r : MessageEntryReader}
    (hr : r.buffer = v) (header : MessageEntryHeader) :
    ResultRel excused Eq (messageEntryReaderReadHeader r header)
      (messageEntryReaderReadHeader (r.onBuffer w) header) :=
  (h.entryReadHeaderEx hr (show (r.onBuffer w).buffer = w from rfl) rfl rfl header).map
    fun _ _ hpq => hpq.1.symm

/-- The same reader of elements, in the other buffer. -/
def MessageElementReader.moved (r : MessageElementReader) (τ : Nat → Nat) (w : BufferVec) :
    MessageElementReader :=
  { r with buffer := w, bufferOffset := τ r.bufferOffset }

def MessageEntryReader.moved (r : MessageEntryReader) (τ : Nat → Nat) (w : BufferVec) :
    MessageEntryReader :=
  { r with buffer := w, bufferOffset := τ r.bufferOffset }

theorem ReadsAlike.beginReadElements_moved {τ : Nat → Nat} (h : ReadsAlike excused τ v w)
    {r : MessageEntryReader} (hr : r.buffer = v) :
    OpensAlike excused (·.moved τ w) (·.buffer) v (messageEntryReaderBeginReadElements r)
      (messageEntryReaderBeginReadElements (r.moved τ w)) := by
  refine (h.entryReadHeaderEx hr (show (r.moved τ w).buffer = w from rfl) rfl rfl _).bind ?_
  rintro ⟨a, info⟩ ⟨b, info'⟩ ⟨hab, hsize, hstart⟩
  dsimp only at hab hsize hstart
  subst hab hr
  refine ResultRel.bind_refl fun _ => ?_
  rw [hstart, hsize]
  refine (h.readCount r.messageVersion info.elementStartOffset).bind ?_
  rintro ⟨size, o⟩ ⟨_, _⟩ ⟨rfl, -⟩
  simp only [MessageEntryReader.moved, h.subSz_eq]
  refine ResultRel.bind_refl fun _ => ?_
  exact ⟨rfl, rfl⟩

theorem ReadsAlike.elementMoveNext_moved {τ : Nat → Nat} (h : ReadsAlike excused τ v w)
    {r : MessageElementReader} (hr : r.buffer = v) :
    OpensAlike excused (·.moved τ w) (·.buffer) v (messageElementReaderMoveNext r)
      (messageElementReaderMoveNext (r.moved τ w)) := by
  subst hr
  refine ResultRel.bind_refl fun _ => ?_
  dsimp only [MessageElementReader.moved]
  rw [h.addSz_eq]
  refine (h.readCount r.messageVersion (addSz r.bufferOffset r.bufferCount)).bind ?_
  rintro ⟨size, o⟩ ⟨_, _⟩ ⟨rfl, -⟩
  refine ResultRel.bind_refl fun _ => ?_
  exact ⟨rfl, rfl⟩

theorem ReadsAlike.beginReadElements (h : ReadsAlike excused id v w)
    {r : MessageEntryReader} (hr : r.buffer = v) :
    OpensAlike excused (·.onBuffer w) (·.buffer) v (messageEntryReaderBeginReadElements r)
      (messageEntryReaderBeginReadElements (r.onBuffer w)) :=
  h.beginReadElements_moved hr

theorem ReadsAlike.elementMoveNext (h : ReadsAlike excused id v w) {r : MessageElementReader}
    (hr : r.buffer = v) :
    OpensAlike excused (·.onBuffer w) (·.buffer) v (messageElementReaderMoveNext r)
      (messageElementReaderMoveNext (r.onBuffer w)) :=
  h.elementMoveNext_moved hr

theorem ReadsAlike.elementReadHeader (h : ReadsAlike excused id v w)
    {r : MessageElementReader} (hr : r.buffer = v) (header : MessageElementHeader) :
    ResultRel excused Eq (messageElementReaderReadHeader r header)
      (messageElementReaderReadHeader (r.onBuffer w) header) :=
  (h.elementReadHeaderEx hr (show (r.onBuffer w).buffer = w from rfl) rfl rfl header).map
    fun _ _ hpq => hpq.1.symm

theorem ReadsAlike.beginReadNestedElements (h : ReadsAlike excused id v w)
    {r : MessageElementReader} (hr : r.buffer = v) :
    OpensAlike excused (·.onBuffer w) (·.buffer) v
      (messageElementReaderBeginReadNestedElements r)
      (messageElementReaderBeginReadNestedElements (r.onBuffer w)) := by
  refine (h.elementReadHeaderEx hr (show (r.onBuffer w).buffer = w from rfl) rfl rfl _).bind ?_
  rintro ⟨a, info⟩ ⟨b, info'⟩ ⟨hab, hsize, hstart⟩
  dsimp only [id] at hab hsize hstart
  subst hab hr
  refine ResultRel.bind_refl fun _ => ?_
  refine ResultRel.bind_refl fun _ => ?_
  rw [hstart, hsize]
  refine (h.readCount r.messageVersion info.dataStartOffset).bind ?_
  rintro ⟨size, o⟩ ⟨_, _⟩ ⟨rfl, -⟩
  refine ResultRel.bind_refl fun _ => ?_
  exact ⟨rfl, rfl⟩

theorem ReadsAlike.getDataInfo (h : ReadsAlike excused id v w) {r : MessageElementReader}
    (hr : r.buffer = v) (dataType : UInt16) (elemSize : Nat) :
    ResultRel excused Eq (messageElementReaderGetDataInfo r dataType elemSize)
      (messageElementReaderGetDataInfo (r.onBuffer w) dataType elemSize) := by
  refine (h.elementReadHeaderEx hr (show (r.onBuffer w).buffer = w from rfl) rfl rfl _).bind ?_
  rintro ⟨a, info⟩ ⟨b, info'⟩ ⟨hab, hsize, hstart⟩
  dsimp only [id] at hab hsize hstart
  subst hab
  dsimp only
  rw [hstart, hsize]
  exact ResultRel.refl _

/-- A copy of some elements, or of none where both buffers agree on it. -/
theorem ReadsAlike.copyToMem (h : ReadsAlike excused id v w) (pos : Nat) (dest : CArray)
    {n : Nat} (hn : n < SizeT.modulus)
    (hzero : n = 0 → ResultRel excused Eq
      (bufferVecCopyToMem v pos dest.data dest.len 0 dest.elemSize 0)
      (bufferVecCopyToMem w pos dest.data dest.len 0 dest.elemSize 0)) :
    ResultRel excused Eq (bufferVecCopyToMem v pos dest.data dest.len 0 dest.elemSize n)
      (bufferVecCopyToMem w pos dest.data dest.len 0 dest.elemSize n) := by
  rcases Nat.eq_zero_or_pos n with rfl | hpos
  · exact hzero rfl
  · rw [bufferVecCopyToMem_eq v pos dest hpos hn, bufferVecCopyToMem_eq w pos dest hpos hn]
    split
    · exact (h.fetch_rel pos _ (Nat.mul_pos hpos dest.elemSize_pos)).map
        fun _ _ heq => congrArg _ heq
    · exact Or.inr rfl

/-- What copying no element to `dest` gives is the same from both buffers. -/
def ZeroCopyAlike (excused : Status → Prop) (v w : BufferVec) (dest : CArray) (pos : Nat) :
    Prop :=
  ResultRel excused Eq (bufferVecCopyToMem v pos dest.data dest.len 0 dest.elemSize 0)
    (bufferVecCopyToMem w pos dest.data dest.len 0 dest.elemSize 0)

theorem ReadsAlike.readData (h : ReadsAlike excused id v w) {r : MessageElementReader}
    (hr : r.buffer = v) (dest : CArray) (dataType : UInt16)
    (hzero : ∀ pos size, messageElementReaderGetDataInfo r dataType dest.elemSize =
      .ok (pos, size, 0) → ZeroCopyAlike excused v w dest pos) :
    ResultRel excused Eq
      (messageElementReaderReadDataEx r dest.data dest.len dataType dest.elemSize)
      (messageElementReaderReadDataEx (r.onBuffer w) dest.data dest.len dataType
        dest.elemSize) := by
  refine (h.getDataInfo hr dataType dest.elemSize).bind_of_ok ?_
  rintro ⟨pos, size, count⟩ _ hinfo rfl
  have hcount := count.toNat_lt
  have hmod := SizeT.le_modulus
  have hcopy := h.copyToMem pos dest (show count.toNat < SizeT.modulus by omega) fun h0 => by
    obtain rfl : count = 0 := UInt32.toNat_inj.mp h0
    exact hzero pos size hinfo
  rw [← hr] at hcopy
  exact hcopy.bind fun _ _ heq => by subst heq; exact ResultRel.refl _

theorem ReadsAlike.readDataScalar (h : ReadsAlike excused id v w)
    {r : MessageElementReader} (hr : r.buffer = v) (dest : CArray) (hlen : dest.len = 1)
    (dataType : UInt16) :
    ResultRel excused Eq
      (messageElementReaderReadDataScalarEx r dest.data dataType dest.elemSize)
      (messageElementReaderReadDataScalarEx (r.onBuffer w) dest.data dataType
        dest.elemSize) := by
  have hmod := SizeT.le_modulus
  have hone : mulSz 1 dest.elemSize = dest.elemSize := by
    have hdata := dest.length_data
    have haddr := dest.addressable
    rw [hlen, Nat.one_mul] at hdata
    rw [mulSz_eq (by omega), Nat.one_mul]
  refine (h.getDataInfo hr dataType dest.elemSize).bind ?_
  rintro ⟨pos, size, count⟩ _ rfl
  refine ResultRel.bind_refl fun _ => ?_
  have hcopy := h.copyToMem pos dest (show 1 < SizeT.modulus by omega) fun h0 => by cases h0
  rw [← hr, bufferVecCopyToMem, bufferVecCopyToMem, hone, hlen] at hcopy
  exact hcopy

/-! ## Sessions -/

/-- The session and its counterpart answered the same and are still the same over
their own buffers, or the first failed with an excused error. -/
structure StepAlike (excused : Status → Prop) (v w : BufferVec)
    (p q : Result ReadOutput × ReadSession) : Prop where
  oneBuffer : p.2.OneBuffer
  buffer_eq : p.2.buffer = v
  alike : (∃ e, excused e ∧ p.1 = .error e) ∨ q = (p.1, p.2.onBuffer w)

theorem ReadSession.on_some {s : ReadSession} {ρ α : Type} (r : ρ) (call : ρ → Result α)
    (next : α → ReadOutput × ReadSession) :
    (s.on (some r) call next).1 = (call r).map fun a => (next a).1 := by
  rw [ReadSession.on]
  cases call r <;> rfl

theorem ReadSession.on_alike {s : ReadSession} (hs : s.OneBuffer) (hv : s.buffer = v)
    {ρ α : Type} {reader : Option ρ} {f : ρ → ρ} {call call' : ρ → Result α}
    {next next' : α → ReadOutput × ReadSession}
    (hcall : ∀ r, reader = some r → ResultRel excused
      (fun a b => next' b = ((next a).1, (next a).2.onBuffer w) ∧ (next a).2.OneBuffer ∧
        (next a).2.buffer = v) (call r) (call' (f r))) :
    StepAlike excused v w (s.on reader call next)
      ((s.onBuffer w).on (reader.map f) call' next') := by
  cases reader with
  | none => exact ⟨hs, hv, Or.inr rfl⟩
  | some r =>
      have hr := hcall r rfl
      simp only [ReadSession.on, Option.map_some]
      cases hx : call r with
      | error e =>
          rw [hx] at hr
          rcases hr with he | heq
          · exact ⟨hs, hv, Or.inl ⟨e, he, rfl⟩⟩
          · rw [heq]
            exact ⟨hs, hv, Or.inr rfl⟩
      | ok a =>
          cases hy : call' (f r) with
          | error e =>
              rw [hx, hy] at hr
              exact hr.elim
          | ok b =>
              rw [hx, hy] at hr
              obtain ⟨hnext, hone, hbuf⟩ := hr
              refine ⟨hone, hbuf, Or.inr ?_⟩
              dsimp only
              rw [hnext]

/-- Storing a reader, in a session and in its counterpart. -/
theorem ReadSession.setEntry_alike {s : ReadSession} (hs : s.OneBuffer) (hv : s.buffer = v)
    {r : MessageEntryReader} (hr : r.buffer = v) :
    (s.onBuffer w).setEntry (r.onBuffer w) =
        ((s.setEntry r).1, (s.setEntry r).2.onBuffer w) ∧
      (s.setEntry r).2.OneBuffer ∧ (s.setEntry r).2.buffer = v := by
  refine ⟨rfl, ⟨hs.message, ?_, hs.element⟩, hv⟩
  intro r' h
  injection h with h
  rw [← h, hr]
  exact hv.symm

theorem ReadSession.setElement_alike {s : ReadSession} (hs : s.OneBuffer)
    (hv : s.buffer = v) (slot : Nat) {r : MessageElementReader} (hr : r.buffer = v) :
    (s.onBuffer w).setElement slot (r.onBuffer w) =
        ((s.setElement slot r).1, (s.setElement slot r).2.onBuffer w) ∧
      (s.setElement slot r).2.OneBuffer ∧ (s.setElement slot r).2.buffer = v := by
  refine ⟨?_, ⟨hs.message, hs.entry, ?_⟩, hv⟩
  · refine Prod.ext rfl ?_
    simp only [ReadSession.setElement, ReadSession.onBuffer, ReadSession.mk.injEq, true_and]
    funext i
    split
    · rfl
    · rfl
  · intro i r' h
    dsimp only [ReadSession.setElement] at h
    split at h
    · injection h with h
      rw [← h, hr]
      exact hv.symm
    · exact hs.element i r' h

theorem ReadSession.setMessage_alike {s : ReadSession} (hs : s.OneBuffer)
    (hv : s.buffer = v) (out : ReadOutput) {r : MessageReader} (hr : r.buffer = v) :
    ((out, { s.onBuffer w with message := some (r.onBuffer w) }) :
        ReadOutput × ReadSession) =
        (out, { s with message := some r }.onBuffer w) ∧
      { s with message := some r }.OneBuffer ∧ s.buffer = v := by
  refine ⟨rfl, ⟨?_, hs.entry, hs.element⟩, hv⟩
  intro r' h
  injection h with h
  rw [← h, hr]
  exact hv.symm

def ReadCall.IsInit : ReadCall → Prop
  | .init .. => True
  | _ => False

/-- The data reads of no element that a call makes go the same on both buffers. -/
def ReadCall.ZeroCopiesAlike (excused : Status → Prop) (v w : BufferVec) (s : ReadSession) :
    ReadCall → Prop
  | .readData slot dest dataType => ∀ r pos size, s.element slot = some r →
      messageElementReaderGetDataInfo r dataType dest.elemSize = .ok (pos, size, 0) →
      ZeroCopyAlike excused v w dest pos
  | _ => True

theorem ReadsAlike.step (h : ReadsAlike excused id v w) {s : ReadSession} (hs : s.OneBuffer)
    (hv : s.buffer = v) {c : ReadCall} (hinit : ¬ c.IsInit)
    (hzero : c.ZeroCopiesAlike excused v w s) :
    StepAlike excused v w (s.step c) ((s.onBuffer w).step c) := by
  have hmessage : ∀ r, s.message = some r → r.buffer = v := by
    rw [← hv]
    exact hs.message
  have hentry : ∀ r, s.entry = some r → r.buffer = v := by
    rw [← hv]
    exact hs.entry
  have helement : ∀ i r, s.element i = some r → r.buffer = v := by
    rw [← hv]
    exact hs.element
  cases c with
  | init offset count => exact absurd trivial hinit
  | readHeader header =>
      refine ReadSession.on_alike hs hv fun r hr => ?_
      refine (h.readHeader (hmessage r hr) header).mono ?_
      rintro ⟨a, r'⟩ _ ⟨rfl, hbuf⟩
      exact ReadSession.setMessage_alike hs hv _ hbuf
  | beginReadEntries =>
      refine ReadSession.on_alike hs hv fun r hr => ?_
      refine (h.beginReadEntries (hmessage r hr)).mono ?_
      rintro a _ ⟨rfl, hbuf⟩
      exact ReadSession.setEntry_alike hs hv hbuf
  | entryMoveNext =>
      refine ReadSession.on_alike hs hv fun r hr => ?_
      refine (h.entryMoveNext (hentry r hr)).mono ?_
      rintro a _ ⟨rfl, hbuf⟩
      exact ReadSession.setEntry_alike hs hv hbuf
  | entryReadHeader header =>
      refine ReadSession.on_alike hs hv fun r hr => ?_
      refine (h.entryReadHeader (hentry r hr) header).mono ?_
      rintro a _ rfl
      exact ⟨rfl, hs, hv⟩
  | beginReadElements slot =>
      refine ReadSession.on_alike hs hv fun r hr => ?_
      refine (h.beginReadElements (hentry r hr)).mono ?_
      rintro a _ ⟨rfl, hbuf⟩
      exact ReadSession.setElement_alike hs hv slot hbuf
  | elementMoveNext slot =>
      refine ReadSession.on_alike hs hv fun r hr => ?_
      refine (h.elementMoveNext (helement slot r hr)).mono ?_
      rintro a _ ⟨rfl, hbuf⟩
      exact ReadSession.setElement_alike hs hv slot hbuf
  | elementReadHeader slot header =>
      refine ReadSession.on_alike hs hv fun r hr => ?_
      refine (h.elementReadHeader (helement slot r hr) header).mono ?_
      rintro a _ rfl
      exact ⟨rfl, hs, hv⟩
  | beginReadNestedElements slot nested =>
      refine ReadSession.on_alike hs hv fun r hr => ?_
      refine (h.beginReadNestedElements (helement slot r hr)).mono ?_
      rintro a _ ⟨rfl, hbuf⟩
      exact ReadSession.setElement_alike hs hv nested hbuf
  | readData slot dest dataType =>
      refine ReadSession.on_alike hs hv fun r hr => ?_
      refine (h.readData (helement slot r hr) dest dataType
        fun pos size => hzero r pos size hr).mono ?_
      rintro a _ rfl
      exact ⟨rfl, hs, hv⟩
  | readDataScalar slot dest hlen dataType =>
      refine ReadSession.on_alike hs hv fun r hr => ?_
      refine (h.readDataScalar (helement slot r hr) dest hlen dataType).mono ?_
      rintro a _ rfl
      exact ⟨rfl, hs, hv⟩

end

end RobotRaconteurLite

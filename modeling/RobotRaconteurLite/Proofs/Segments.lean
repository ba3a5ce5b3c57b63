import RobotRaconteurLite.Lib.CallSequence
import RobotRaconteurLite.Lib.OffsetWriter
import RobotRaconteurLite.Proofs.SessionsAlike

/-!
# How the buffer is cut does not matter

The same bytes can be one segment or many. Reads and writes of at least one byte
come down to `fetch` and `store` on the concatenation, so they do not see the
cuts.

A copy of nothing does. The copy of one segment to another returns at once when
there is nothing to do, while the loop over segments first checks that both
positions are inside their vectors. An empty payload therefore cannot be written
to a cut buffer at all, and can be read from one only in front of its end and
into an array that has room.
-/

namespace RobotRaconteurLite

open OffsetReader OffsetWriter CallSequence ScatterGather Splice

section

variable [SizeT]

/-! ## Reading -/

theorem readsAlike_of_bytes {excused : Status → Prop} {v w : BufferVec}
    (h : v.bytes = w.bytes) : ReadsAlike excused id v w where
  fetch_rel pos n _ := by
    rw [h]
    exact ResultRel.refl _
  addSz_eq _ _ := rfl
  subSz_eq _ _ := rfl

variable {v w : BufferVec}

/-- Nothing is excused: the two buffers hold the same bytes. -/
def noStatus (_e : Status) : Prop := False

theorem messageReaderInit_segments (hb : v.bytes = w.bytes) (r : MessageReader)
    (offset count : Nat) :
    OpensAlike noStatus (·.onBuffer w) (·.buffer) v (messageReaderInit r v offset count)
      (messageReaderInit (r.onBuffer w) w offset count) := by
  have h : ReadsAlike noStatus id v w := readsAlike_of_bytes hb
  refine (h.init r (r.onBuffer w) rfl ?_).mono ?_
  · rw [bufferVecLen_toBuffers, bufferVecLen_toBuffers, hb, id]
  · rintro _ _ ⟨rfl, rfl⟩
    exact ⟨rfl, rfl⟩

/-- A data read of no element is made in front of the buffer's end and into an
array that has room. -/
def ReadCall.ZeroReadInside (s : ReadSession) : ReadCall → Prop
  | .readData slot dest dataType => ∀ r pos size, s.element slot = some r →
      messageElementReaderGetDataInfo r dataType dest.elemSize = .ok (pos, size, 0) →
      pos < s.buffer.bytes.length ∧ 0 < dest.len
  | _ => True

theorem zeroCopyAlike_iff (hb : v.bytes = w.bytes) (hw : w.segments.length = 1)
    (dest : CArray) (pos : Nat) :
    ZeroCopyAlike noStatus v w dest pos ↔
      v.segments.length = 1 ∨ pos < w.bytes.length ∧ 0 < dest.len := by
  rw [ZeroCopyAlike, bufferVecCopyToMem_zero, bufferVecCopyToMem_zero, hb,
    if_pos (Or.inl hw)]
  split
  · next h => exact iff_of_true rfl h
  · next h =>
      refine iff_of_false ?_ h
      rintro (he | heq)
      · exact he
      · cases heq

theorem ReadSession.step_segments (hb : v.bytes = w.bytes) {s : ReadSession}
    (hs : s.OneBuffer) (hv : s.buffer = v) {c : ReadCall}
    (hzero : c.ZeroCopiesAlike noStatus v w s) :
    (s.onBuffer w).step c = ((s.step c).1, (s.step c).2.onBuffer w) ∧
      (s.step c).2.OneBuffer ∧ (s.step c).2.buffer = v := by
  have halike : StepAlike noStatus v w (s.step c) ((s.onBuffer w).step c) := by
    cases c with
    | init offset count =>
        have hget : some ((s.onBuffer w).message.getD ⟨(s.onBuffer w).buffer, 0, 0, 0⟩) =
            (some (s.message.getD ⟨s.buffer, 0, 0, 0⟩)).map (·.onBuffer w) := by
          rw [ReadSession.onBuffer]
          cases s.message <;> rfl
        rw [ReadSession.step, ReadSession.step, hget]
        refine ReadSession.on_alike hs hv fun r _ => ?_
        rw [hv]
        refine (messageReaderInit_segments hb r offset count).mono ?_
        rintro a _ ⟨rfl, hbuf⟩
        exact ReadSession.setMessage_alike hs hv _ hbuf
    | _ => exact (readsAlike_of_bytes hb).step hs hv (fun h => h) hzero
  obtain ⟨hone, hbuf, ⟨e, he, -⟩ | heq⟩ := halike
  · exact he.elim
  · exact ⟨heq, hone, hbuf⟩

/-- A data read that finds no element to copy. -/
theorem messageElementReaderReadDataEx_zero {r : MessageElementReader} {dest : CArray}
    {dataType : UInt16} {pos size : Nat}
    (h : messageElementReaderGetDataInfo r dataType dest.elemSize = .ok (pos, size, 0)) :
    messageElementReaderReadDataEx r dest.data dest.len dataType dest.elemSize =
      (bufferVecCopyToMem r.buffer pos dest.data dest.len 0 dest.elemSize 0).map
        fun data => (data, 0) := by
  rw [messageElementReaderReadDataEx, h]
  change Except.bind (bufferVecCopyToMem r.buffer pos dest.data dest.len 0 dest.elemSize 0)
    (fun data => .ok (data, 0)) = _
  cases bufferVecCopyToMem r.buffer pos dest.data dest.len 0 dest.elemSize 0 <;> rfl

theorem zeroCopiesAlike_of_inside (hb : v.bytes = w.bytes) (hw : w.segments.length = 1)
    {s : ReadSession} (hv : s.buffer = v) {c : ReadCall}
    (hp : v.segments.length = 1 ∨ c.ZeroReadInside s) :
    c.ZeroCopiesAlike noStatus v w s := by
  cases c with
  | readData slot dest dataType =>
      intro r pos size hr hinfo
      rw [zeroCopyAlike_iff hb hw]
      refine hp.imp id fun hin => ?_
      rw [← hb, ← hv]
      exact hin r pos size hr hinfo
  | _ => trivial

theorem ReadSession.step_segments_iff (hb : v.bytes = w.bytes) (hw : w.segments.length = 1)
    {s : ReadSession} (hs : s.OneBuffer) (hv : s.buffer = v) (c : ReadCall) :
    ((s.onBuffer w).step c).1 = (s.step c).1 ↔
      v.segments.length = 1 ∨ c.ZeroReadInside s := by
  constructor
  · intro heq
    rcases Decidable.em (v.segments.length = 1) with hone | hcut
    · exact Or.inl hone
    · right
      cases c with
      | readData slot dest dataType =>
          intro r pos size hr hinfo
          have hbuf : r.buffer = v := by
            rw [← hv]
            exact hs.element slot r hr
          have hinfo' : messageElementReaderGetDataInfo (r.onBuffer w) dataType
              dest.elemSize = .ok (pos, size, 0) := by
            rw [← hinfo]
            exact ((readsAlike_of_bytes hb).getDataInfo hbuf dataType dest.elemSize :
              ResultRel noStatus Eq _ _).eq.symm
          have hr' : (s.onBuffer w).element slot = some (r.onBuffer w) := by
            rw [ReadSession.onBuffer]
            dsimp only
            rw [hr]
            rfl
          rw [ReadSession.step, ReadSession.step, hr, hr', ReadSession.on_some,
            ReadSession.on_some, messageElementReaderReadDataEx_zero hinfo,
            messageElementReaderReadDataEx_zero hinfo', hbuf, bufferVecCopyToMem_zero,
            bufferVecCopyToMem_zero, MessageElementReader.onBuffer, if_pos (Or.inl hw)] at heq
          split at heq
          · next hin => rw [hv]; exact hin.resolve_left hcut
          · cases heq
      | _ => trivial
  · intro hp
    rw [(ReadSession.step_segments hb hs hv (zeroCopiesAlike_of_inside hb hw hv hp)).1]

/-- A session over `v`, and the same session over `w`. -/
def Counterpart (v w : BufferVec) (t s : ReadSession) : Prop :=
  t = s.onBuffer w ∧ s.OneBuffer ∧ s.buffer = v

theorem readSession_segments_iff (hb : v.bytes = w.bytes) (hw : w.segments.length = 1)
    (cs : List ReadCall) :
    outputs ReadSession.step (ReadSession.start w) cs =
        outputs ReadSession.step (ReadSession.start v) cs ↔
      EveryCall ReadSession.step
        (fun s c => v.segments.length = 1 ∨ c.ZeroReadInside s) (ReadSession.start v) cs := by
  have hstart : Counterpart v w (ReadSession.start w) (ReadSession.start v) :=
    ⟨rfl, ReadSession.start_oneBuffer v, rfl⟩
  refine outputs_eq_iff ?_ ?_ hstart cs
  · rintro _ s c ⟨rfl, hs, hv⟩
    exact ReadSession.step_segments_iff hb hw hs hv c
  · rintro _ s c ⟨rfl, hs, hv⟩ hp
    obtain ⟨heq, hone, hbuf⟩ :=
      ReadSession.step_segments hb hs hv (zeroCopiesAlike_of_inside hb hw hv hp)
    exact ⟨by rw [heq], hone, hbuf⟩

/-! ## Writing -/

/-- The same bytes in `n` segments and in `k`. -/
def SameBytes (n k : Nat) (v w : BufferVec) : Prop :=
  v.bytes = w.bytes ∧ v.segments.length = n ∧ w.segments.length = k

/-- Two related buffers take the same stores, and are related after each. -/
class StoresAlike (R : BufferVec → BufferVec → Prop) : Prop where
  store : ∀ {v w : BufferVec}, R v w → ∀ (pos : Nat) (bs : List UInt8),
    (∃ e, v.store pos bs = .error e ∧ w.store pos bs = .error e) ∨
      ∃ v' w', v.store pos bs = .ok v' ∧ w.store pos bs = .ok w' ∧ R v' w'

/-- Whether a store succeeds is a matter of how many bytes there are. -/
theorem BufferVec.store_alike {v w : BufferVec} (h : v.bytes.length = w.bytes.length) (pos : Nat)
    (bs : List UInt8) :
    (∃ e, v.store pos bs = .error e ∧ w.store pos bs = .error e) ∨
      ∃ v' w', v.store pos bs = .ok v' ∧ w.store pos bs = .ok w' ∧
        v'.segments.length = v.segments.length ∧ w'.segments.length = w.segments.length := by
  rw [BufferVec.store, BufferVec.store]
  by_cases hin : pos < w.bytes.length ∧ pos + bs.length ≤ w.bytes.length
  · have hin' : pos < v.bytes.length ∧ pos + bs.length ≤ v.bytes.length := by rwa [h]
    have hlen (u : BufferVec) (hu : pos + bs.length ≤ u.bytes.length) :
        (reshape u.segments (overwrite u.bytes pos bs)).length = u.segments.length := by
      have hmap := congrArg List.length (map_length_reshape
        (length_overwrite hu : (overwrite u.bytes pos bs).length = u.segments.flatten.length))
      rwa [List.length_map, List.length_map] at hmap
    exact Or.inr ⟨_, _, dif_pos hin', dif_pos hin, hlen v hin'.2, hlen w hin.2⟩
  · exact Or.inl ⟨_, dif_neg (by rwa [h]), dif_neg hin⟩

instance sameBytes_storesAlike (n k : Nat) : StoresAlike (SameBytes n k) where
  store := by
    intro v w h pos bs
    obtain ⟨hb, hn, hk⟩ := h
    rcases BufferVec.store_alike (congrArg List.length hb) pos bs with herror |
      ⟨v', w', hv, hw, hv', hw'⟩
    · exact Or.inl herror
    · have hsame : v'.bytes = w'.bytes := by
        rw [(BufferVec.bytes_of_store hv).2, (BufferVec.bytes_of_store hw).2, hb]
      exact Or.inr ⟨v', w', hv, hw, hsame, hv'.trans hn, hw'.trans hk⟩

variable {R : BufferVec → BufferVec → Prop} {n k : Nat}

/-! ### Steps -/

theorem failIf_lockstep {c : Prop} [Decidable c] (e : Status) :
    Lockstep R (failIf c e : BufferM Unit) :=
  Lockstep.ite (Lockstep.throw e) (Lockstep.pure ())

theorem failIf_lockstepFrom {c : Prop} [Decidable c] (e : Status) :
    LockstepFrom R (failIf c e : Writing Unit) :=
  LockstepFrom.ite (LockstepFrom.throw e) (LockstepFrom.pure ())

theorem writeIf_lockstep {present : Bool} {write : Writing Unit}
    (h : LockstepFrom R write) :
    LockstepFrom R (writeIf present write) :=
  LockstepFrom.ite h (LockstepFrom.pure ())

theorem liftResult_lockstep {α : Type} (r : Result α) :
    LockstepFrom R (liftResult r) := by
  intro o
  cases r with
  | ok a => exact Lockstep.pure (a, o)
  | error e => exact Lockstep.throw e

/-- A write that asks for the version first. -/
theorem byVersion_lockstep {α : Type} {ver : UInt16} {write2 write4 : Writing α}
    (h2 : LockstepFrom R write2) (h4 : LockstepFrom R write4)
    (o : Nat) :
    Lockstep R (StateT.run' (if ver = 2 then write2
      else if ver = 4 then write4 else throw .protocol) o) :=
  (LockstepFrom.ite h2 (LockstepFrom.ite h4 (LockstepFrom.throw _))).run' o

/-- A size and a count written back at their offsets, and what follows. -/
theorem writeBack_lockstep {α : Type} {ver : UInt16} {write2 write2' : Writing Unit}
    {write4 write4' : BufferM Unit} {o o' : Nat} {next : Unit → BufferM α}
    (h2 : LockstepFrom R write2) (h2' : LockstepFrom R write2')
    (h4 : Lockstep R write4) (h4' : Lockstep R write4')
    (hnext : ∀ u, Lockstep R (next u)) :
    Lockstep R (if ver = 2 then do
        StateT.run' write2 o
        let u ← StateT.run' write2' o'
        next u
      else if ver = 4 then do
        write4
        let u ← write4'
        next u
      else do
        let u ← throw .protocol
        next u) :=
  Lockstep.ite ((h2.run' _).bind fun _ => (h2'.run' _).bind hnext)
    (Lockstep.ite (h4.bind fun _ => h4'.bind hnext) ((Lockstep.throw _).bind hnext))

variable [StoresAlike R]

theorem bufferUpdate_lockstep {copy : BufferVec → Result BufferVec} {pos : Nat}
    {bs : List UInt8} (hcopy : ∀ v, copy v = v.store pos bs) :
    Lockstep R (bufferUpdate copy) := by
  intro v w h
  simp only [bufferUpdate, ExceptT.mk, hcopy]
  obtain ⟨e, hv, hw⟩ | ⟨v', w', hv, hw, h'⟩ := StoresAlike.store h pos bs
  · rw [hv, hw]
    exact ⟨rfl, h⟩
  · rw [hv, hw]
    exact ⟨rfl, h'⟩

/-! ### Fields -/

theorem messageWriteVal_lockstep {α : Type} {copy : BufferVec → Nat → α → Result BufferVec}
    {size : Nat} {val : α} {bs : List UInt8}
    (hcopy : ∀ v pos, copy v pos val = v.store pos bs) :
    LockstepFrom R (messageWriteVal copy size val) := fun _ =>
  (bufferUpdate_lockstep fun v => hcopy v _).bind fun _ => Lockstep.pure _

theorem messageWriteUint32_lockstep (val : UInt32) :
    LockstepFrom R (messageWriteUint32 val) :=
  messageWriteVal_lockstep fun v pos => bufferVecCopyFromUInt_eq v pos _ (by decide) (by decide)

theorem messageWriteUint16_lockstep (val : UInt16) :
    LockstepFrom R (messageWriteUint16 val) :=
  messageWriteVal_lockstep fun v pos => bufferVecCopyFromUInt_eq v pos _ (by decide) (by decide)

theorem messageWriteUint8_lockstep (val : UInt8) :
    LockstepFrom R (messageWriteUint8 val) :=
  messageWriteVal_lockstep fun v pos => bufferVecCopyFromUInt_eq v pos _ (by decide) (by decide)

theorem messageWriteUintX_lockstep (val : UInt32) :
    LockstepFrom R (messageWriteUintX val) := by
  refine LockstepFrom.ite (messageWriteUint8_lockstep _) (LockstepFrom.ite ?_ ?_)
  · exact (messageWriteUint8_lockstep _).bind fun _ => messageWriteUint16_lockstep _
  · exact (messageWriteUint8_lockstep _).bind fun _ => messageWriteUint32_lockstep _

theorem messageWriteIntX_lockstep (val : Int32) :
    LockstepFrom R (messageWriteIntX val) := by
  have h8 (val : Int8) : LockstepFrom R (messageWriteInt8 val) :=
    messageWriteVal_lockstep fun v pos =>
      bufferVecCopyFromUInt_eq v pos _ (by decide) (by decide)
  refine LockstepFrom.ite (h8 _) (LockstepFrom.ite ?_ ?_)
  · exact (h8 _).bind fun _ => messageWriteVal_lockstep fun v pos =>
      bufferVecCopyFromUInt_eq v pos _ (by decide) (by decide)
  · exact (h8 _).bind fun _ => messageWriteVal_lockstep fun v pos =>
      bufferVecCopyFromUInt_eq v pos _ (by decide) (by decide)

theorem messageWritePaddedUintX_lockstep (count : UInt32) :
    LockstepFrom R (messageWritePaddedUintX count) :=
  (messageWriteUint8_lockstep _).bind fun _ => LockstepFrom.get.bind fun _ =>
    (messageWriteUint32_lockstep _).bind fun _ => LockstepFrom.pure _

theorem messageWritePaddedUintXVal_lockstep (countOffset : Nat) (count : UInt32) :
    Lockstep R (messageWritePaddedUintXVal countOffset count) :=
  bufferUpdate_lockstep fun v =>
    bufferVecCopyFromUInt_eq v countOffset _ (by decide) (by decide)

theorem messageWriteHeaderString_lockstep {writeLen : Writing Unit} {str : ConstString}
    (hlen : LockstepFrom R writeLen) :
    LockstepFrom R (messageWriteHeaderString writeLen str) := by
  refine (failIf_lockstepFrom _).bind fun _ => hlen.bind fun _ => ?_
  by_cases h0 : str.len > 0
  · simp only [if_pos h0]
    exact messageWriteVal_lockstep fun v pos =>
      bufferVecCopyFromBytes_eq v pos str.addressable (List.length_pos_iff.mp h0)
  · simp only [if_neg h0]
    exact LockstepFrom.pure ()

theorem messageWriteHeaderStringWithLenPrefix2_lockstep (str : ConstString) :
    LockstepFrom R (messageWriteHeaderStringWithLenPrefix2 str) :=
  messageWriteHeaderString_lockstep (messageWriteUint16_lockstep _)

theorem messageWriteHeaderStringWithLenPrefix4_lockstep (str : ConstString) :
    LockstepFrom R (messageWriteHeaderStringWithLenPrefix4 str) :=
  messageWriteHeaderString_lockstep (messageWriteUintX_lockstep _)

theorem messageWriteMagic_lockstep : LockstepFrom R messageWriteMagic := by
  have hmod := SizeT.le_modulus
  have haddr : 2 * ([0x52, 0x52, 0x41, 0x43] : List UInt8).length < SizeT.modulus := by
    simp only [List.length_cons, List.length_nil]
    omega
  exact messageWriteVal_lockstep fun v pos => bufferVecCopyFromBytes_eq v pos haddr (by decide)

theorem messageWriteNodeid_lockstep (id : NodeId) :
    LockstepFrom R (messageWriteNodeid id) := by
  have hmod := SizeT.le_modulus
  have hlen := id.length_data
  have hcopy (v : BufferVec) (pos : Nat) :
      bufferVecCopyFromUint8Array v pos id.data 0 16 = v.store pos id.data := by
    rw [← bufferVecCopyFromBytes_eq v pos (by omega) (List.ne_nil_of_length_pos (by omega)),
      bufferVecCopyFromUint8Array, hlen]
  exact messageWriteVal_lockstep hcopy

/-! ### Headers -/

theorem messageWriterWriteHeader2Ex_lockstep (header : MessageConstHeader) :
    LockstepFrom R (messageWriterWriteHeader2Ex header) := by
  refine (failIf_lockstepFrom _).bind fun _ => ?_
  refine LockstepFrom.get.bind fun _ => ?_
  refine messageWriteMagic_lockstep.bind fun _ => ?_
  refine (messageWriteUint32_lockstep _).bind fun _ => ?_
  refine (messageWriteUint16_lockstep _).bind fun _ => ?_
  refine (messageWriteUint16_lockstep _).bind fun _ => ?_
  refine (messageWriteNodeid_lockstep _).bind fun _ => ?_
  refine (messageWriteNodeid_lockstep _).bind fun _ => ?_
  refine (messageWriteUint32_lockstep _).bind fun _ => ?_
  refine (messageWriteUint32_lockstep _).bind fun _ => ?_
  refine (messageWriteHeaderStringWithLenPrefix2_lockstep _).bind fun _ => ?_
  refine (messageWriteHeaderStringWithLenPrefix2_lockstep _).bind fun _ => ?_
  refine (messageWriteHeaderStringWithLenPrefix2_lockstep _).bind fun _ => ?_
  refine LockstepFrom.get.bind fun _ => ?_
  refine (failIf_lockstepFrom _).bind fun _ => ?_
  refine (messageWriteUint16_lockstep _).bind fun _ => ?_
  refine (messageWriteUint16_lockstep _).bind fun _ => ?_
  refine (messageWriteUint16_lockstep _).bind fun _ => ?_
  exact LockstepFrom.get.bind fun _ => LockstepFrom.pure _

theorem messageWriterWriteHeader4Ex_lockstep (header : MessageConstHeader)
    (messageFlagsMask : BitVec 8) :
    LockstepFrom R (messageWriterWriteHeader4Ex header messageFlagsMask) := by
  refine (liftResult_lockstep _).bind fun _ => ?_
  refine (failIf_lockstepFrom _).bind fun _ => ?_
  refine (liftResult_lockstep _).bind fun _ => ?_
  refine (failIf_lockstepFrom _).bind fun _ => ?_
  refine LockstepFrom.get.bind fun _ => ?_
  refine messageWriteMagic_lockstep.bind fun _ => ?_
  refine (messageWriteUint32_lockstep _).bind fun _ => ?_
  refine (messageWriteUint16_lockstep _).bind fun _ => ?_
  refine (messageWriteUintX_lockstep _).bind fun _ => ?_
  refine (messageWriteUint8_lockstep _).bind fun _ => ?_
  refine (writeIf_lockstep (messageWriteNodeid_lockstep _)).bind fun _ => ?_
  refine (writeIf_lockstep (messageWriteNodeid_lockstep _)).bind fun _ => ?_
  refine (writeIf_lockstep (messageWriteHeaderStringWithLenPrefix4_lockstep _)).bind
    fun _ => ?_
  refine (writeIf_lockstep (messageWriteHeaderStringWithLenPrefix4_lockstep _)).bind
    fun _ => ?_
  refine (writeIf_lockstep (messageWriteUintX_lockstep _)).bind fun _ => ?_
  refine (writeIf_lockstep (messageWriteUintX_lockstep _)).bind fun _ => ?_
  refine (writeIf_lockstep (messageWriteUint16_lockstep _)).bind fun _ => ?_
  refine (writeIf_lockstep (messageWriteHeaderStringWithLenPrefix4_lockstep _)).bind
    fun _ => ?_
  refine (writeIf_lockstep (messageWriteUint16_lockstep _)).bind fun _ => ?_
  refine (writeIf_lockstep (messageWriteUint16_lockstep _)).bind fun _ => ?_
  refine LockstepFrom.ite ((messageWritePaddedUintX_lockstep _).bind fun _ => ?_)
    ((LockstepFrom.pure _).bind fun _ => ?_)
  · exact LockstepFrom.get.bind fun _ => (failIf_lockstepFrom _).bind fun _ =>
      LockstepFrom.pure _
  · exact LockstepFrom.get.bind fun _ => (failIf_lockstepFrom _).bind fun _ =>
      LockstepFrom.pure _

theorem messageEntryWriterWriteHeader2Ex_lockstep (entryWriter : MessageEntryWriter)
    (header : MessageEntryConstHeader) :
    LockstepFrom R (messageEntryWriterWriteHeader2Ex entryWriter header) := by
  refine LockstepFrom.get.bind fun _ => ?_
  refine (messageWriteUint32_lockstep _).bind fun _ => ?_
  refine (messageWriteUint16_lockstep _).bind fun _ => ?_
  refine (messageWriteUint16_lockstep _).bind fun _ => ?_
  refine (messageWriteHeaderStringWithLenPrefix2_lockstep _).bind fun _ => ?_
  refine (messageWriteHeaderStringWithLenPrefix2_lockstep _).bind fun _ => ?_
  refine (messageWriteUint32_lockstep _).bind fun _ => ?_
  refine (messageWriteUint16_lockstep _).bind fun _ => ?_
  refine (messageWriteHeaderStringWithLenPrefix2_lockstep _).bind fun _ => ?_
  refine LockstepFrom.get.bind fun _ => ?_
  refine (messageWriteUint16_lockstep _).bind fun _ => ?_
  exact LockstepFrom.get.bind fun _ => LockstepFrom.pure _

theorem messageEntryWriterWriteHeader4Ex_lockstep (entryWriter : MessageEntryWriter)
    (header : MessageEntryConstHeader) :
    LockstepFrom R (messageEntryWriterWriteHeader4Ex entryWriter header) := by
  refine LockstepFrom.get.bind fun _ => ?_
  refine (messageWritePaddedUintX_lockstep _).bind fun _ => ?_
  refine (messageWriteUint8_lockstep _).bind fun _ => ?_
  refine (messageWriteUint16_lockstep _).bind fun _ => ?_
  refine (writeIf_lockstep (messageWriteHeaderStringWithLenPrefix4_lockstep _)).bind
    fun _ => ?_
  refine (writeIf_lockstep (messageWriteUintX_lockstep _)).bind fun _ => ?_
  refine (writeIf_lockstep (messageWriteHeaderStringWithLenPrefix4_lockstep _)).bind
    fun _ => ?_
  refine (writeIf_lockstep (messageWriteUintX_lockstep _)).bind fun _ => ?_
  refine (writeIf_lockstep (messageWriteUintX_lockstep _)).bind fun _ => ?_
  refine (writeIf_lockstep (messageWriteUint16_lockstep _)).bind fun _ => ?_
  refine (writeIf_lockstep (messageWriteHeaderStringWithLenPrefix4_lockstep _)).bind
    fun _ => ?_
  refine (messageWritePaddedUintX_lockstep _).bind fun _ => ?_
  exact LockstepFrom.get.bind fun _ => LockstepFrom.pure _

theorem messageElementWriterWriteHeader2Ex_lockstep (elementWriter : MessageElementWriter)
    (header : MessageElementConstHeader) :
    LockstepFrom R
      (messageElementWriterWriteHeader2Ex elementWriter header) := by
  refine LockstepFrom.get.bind fun _ => ?_
  refine (messageWriteUint32_lockstep _).bind fun _ => ?_
  refine LockstepFrom.get.bind fun _ => ?_
  refine (messageWriteHeaderStringWithLenPrefix2_lockstep _).bind fun _ => ?_
  refine (messageWriteUint16_lockstep _).bind fun _ => ?_
  refine (messageWriteHeaderStringWithLenPrefix2_lockstep _).bind fun _ => ?_
  refine (messageWriteHeaderStringWithLenPrefix2_lockstep _).bind fun _ => ?_
  refine LockstepFrom.get.bind fun _ => ?_
  refine (messageWriteUint32_lockstep _).bind fun _ => ?_
  exact LockstepFrom.get.bind fun _ => LockstepFrom.pure _

theorem messageElementWriterWriteHeader4Ex_lockstep (elementWriter : MessageElementWriter)
    (header : MessageElementConstHeader) :
    LockstepFrom R
      (messageElementWriterWriteHeader4Ex elementWriter header) := by
  refine LockstepFrom.get.bind fun _ => ?_
  refine (messageWritePaddedUintX_lockstep _).bind fun _ => ?_
  refine (messageWriteUint8_lockstep _).bind fun _ => ?_
  refine LockstepFrom.get.bind fun _ => ?_
  refine (writeIf_lockstep (messageWriteHeaderStringWithLenPrefix4_lockstep _)).bind
    fun _ => ?_
  refine (writeIf_lockstep (messageWriteUintX_lockstep _)).bind fun _ => ?_
  refine (writeIf_lockstep (messageWriteIntX_lockstep _)).bind fun _ => ?_
  refine (messageWriteUint16_lockstep _).bind fun _ => ?_
  refine (writeIf_lockstep (messageWriteHeaderStringWithLenPrefix4_lockstep _)).bind
    fun _ => ?_
  refine (writeIf_lockstep (messageWriteUintX_lockstep _)).bind fun _ => ?_
  refine (writeIf_lockstep (messageWriteHeaderStringWithLenPrefix4_lockstep _)).bind
    fun _ => ?_
  refine (messageWritePaddedUintX_lockstep _).bind fun _ => ?_
  exact LockstepFrom.get.bind fun _ => LockstepFrom.pure _

theorem messageElementWriterWriteDataHeader2Ex_lockstep (elementName : ConstString)
    (dataLen : Nat) (dataType : UInt16) (dataElemSize : Nat) :
    LockstepFrom R
      (messageElementWriterWriteDataHeader2Ex elementName dataLen dataType dataElemSize) := by
  refine (failIf_lockstepFrom _).bind fun _ => ?_
  refine (failIf_lockstepFrom _).bind fun _ => ?_
  refine LockstepFrom.get.bind fun _ => ?_
  refine (messageWriteUint32_lockstep _).bind fun _ => ?_
  refine LockstepFrom.get.bind fun _ => ?_
  refine (messageWriteHeaderStringWithLenPrefix2_lockstep _).bind fun _ => ?_
  refine (messageWriteUint16_lockstep _).bind fun _ => ?_
  refine (messageWriteUint16_lockstep _).bind fun _ => ?_
  refine (messageWriteUint16_lockstep _).bind fun _ => ?_
  refine (failIf_lockstepFrom _).bind fun _ => ?_
  refine LockstepFrom.get.bind fun _ => ?_
  refine (messageWriteUint32_lockstep _).bind fun _ => ?_
  exact LockstepFrom.get.bind fun _ => LockstepFrom.pure _

theorem messageElementWriterWriteDataHeader4Ex_lockstep (elementName : ConstString)
    (dataLen : Nat) (dataType : UInt16) (dataElemSize : Nat) :
    LockstepFrom R
      (messageElementWriterWriteDataHeader4Ex elementName dataLen dataType dataElemSize) := by
  refine (liftResult_lockstep _).bind fun _ => ?_
  refine (failIf_lockstepFrom _).bind fun _ => ?_
  refine (liftResult_lockstep _).bind fun _ => ?_
  refine (failIf_lockstepFrom _).bind fun _ => ?_
  refine LockstepFrom.get.bind fun _ => ?_
  refine (messageWriteUintX_lockstep _).bind fun _ => ?_
  refine (messageWriteUint8_lockstep _).bind fun _ => ?_
  refine (writeIf_lockstep (messageWriteHeaderStringWithLenPrefix4_lockstep _)).bind
    fun _ => ?_
  refine (messageWriteUint16_lockstep _).bind fun _ => ?_
  refine (messageWriteUintX_lockstep _).bind fun _ => ?_
  exact LockstepFrom.get.bind fun _ => LockstepFrom.pure _

/-! ### Calls -/

theorem messageWriterInit_lockstep (writer : MessageWriter) (offset count : Nat)
    (messageVersion : UInt16) :
    Lockstep (SameBytes n k) (messageWriterInit writer offset count messageVersion) := by
  intro v w h
  have hinit (u : BufferVec) : messageWriterInit writer offset count messageVersion u =
      (do
        failIf (u.bytes.length < addSz offset count) .outOfRange
        pure { writer with
          bufferOffset := offset, bufferCount := count, messageVersion } :
        BufferM MessageWriter) u := by
    rw [← bufferVecLen_toBuffers]
    rfl
  rw [hinit, hinit, ← h.1]
  exact (failIf_lockstep _).bind (fun _ => Lockstep.pure _) v w h

theorem messageWriterBeginMessageEx_lockstep (writer : MessageWriter)
    (header : MessageConstHeader) (entryWriter : MessageEntryWriter)
    (messageFlagsMask : BitVec 8) :
    Lockstep R
      (messageWriterBeginMessageEx writer header entryWriter messageFlagsMask) :=
  (byVersion_lockstep (messageWriterWriteHeader2Ex_lockstep header)
    (messageWriterWriteHeader4Ex_lockstep header messageFlagsMask) _).bind
    fun _ => Lockstep.pure _

theorem messageWriterEndMessage_lockstep (writer : MessageWriter)
    (header : MessageConstHeader) (entryWriter : MessageEntryWriter) :
    Lockstep R (messageWriterEndMessage writer header entryWriter) := by
  refine (failIf_lockstep _).bind fun _ => ?_
  refine (bufferUpdate_lockstep fun v =>
    bufferVecCopyFromUInt_eq v _ _ (by decide) (by decide)).bind fun _ => ?_
  refine Lockstep.ite (Lockstep.ite ?_ (Lockstep.ite ?_ ?_)) ?_
  · exact ((messageWriteUint16_lockstep _).run' _).bind fun _ => Lockstep.pure _
  · exact (messageWritePaddedUintXVal_lockstep _ _).bind fun _ => Lockstep.pure _
  · exact (Lockstep.throw _).bind fun _ => Lockstep.pure _
  · exact (failIf_lockstep _).bind fun _ => Lockstep.pure _

theorem messageEntryWriterBeginEntry_lockstep (entryWriter : MessageEntryWriter)
    (header : MessageEntryConstHeader) (elementWriter : MessageElementWriter) :
    Lockstep R (messageEntryWriterBeginEntry entryWriter header elementWriter) :=
  (failIf_lockstep _).bind fun _ =>
    (byVersion_lockstep (messageEntryWriterWriteHeader2Ex_lockstep entryWriter header)
      (messageEntryWriterWriteHeader4Ex_lockstep entryWriter header) _).bind
      fun _ => Lockstep.pure _

theorem messageEntryWriterEndEntry_lockstep (entryWriter : MessageEntryWriter)
    (elementWriter : MessageElementWriter) :
    Lockstep R (messageEntryWriterEndEntry entryWriter elementWriter) :=
  writeBack_lockstep (messageWriteUint32_lockstep _) (messageWriteUint16_lockstep _)
    (messageWritePaddedUintXVal_lockstep _ _) (messageWritePaddedUintXVal_lockstep _ _)
    fun _ => Lockstep.pure _

theorem messageElementWriterBeginNestedElement_lockstep (elementWriter : MessageElementWriter)
    (header : MessageElementConstHeader) (nestedElementWriter : MessageElementWriter) :
    Lockstep R
      (messageElementWriterBeginNestedElement elementWriter header nestedElementWriter) :=
  (failIf_lockstep _).bind fun _ =>
    (byVersion_lockstep (messageElementWriterWriteHeader2Ex_lockstep elementWriter header)
      (messageElementWriterWriteHeader4Ex_lockstep elementWriter header) _).bind
      fun _ => Lockstep.pure _

theorem messageElementWriterEndNestedElement_lockstep
    (elementWriter nestedElementWriter : MessageElementWriter) :
    Lockstep R
      (messageElementWriterEndNestedElement elementWriter nestedElementWriter) :=
  (failIf_lockstep _).bind fun _ =>
    writeBack_lockstep (messageWriteUint32_lockstep _) (messageWriteUint32_lockstep _)
      (messageWritePaddedUintXVal_lockstep _ _) (messageWritePaddedUintXVal_lockstep _ _)
      fun _ => Lockstep.pure _

/-- What `write_raw` does before it copies the payload. -/
def messageElementWriterWriteRawHeader (elementWriter : MessageElementWriter)
    (elementName : ConstString) (dataLen : Nat) (dataType : UInt16) (dataElemSize : Nat) :
    BufferM (MessageElementBufferInfo × Nat) := do
  failIf (¬ elementWriter.elementsWrittenCount < UINT32_MAX) .protocol
  StateT.run' (if elementWriter.messageVersion = 2 then
      messageElementWriterWriteDataHeader2Ex elementName dataLen dataType dataElemSize
    else if elementWriter.messageVersion = 4 then
      messageElementWriterWriteDataHeader4Ex elementName dataLen dataType dataElemSize
    else throw .protocol) elementWriter.bufferOffset

theorem messageElementWriterWriteRaw_eq (elementWriter : MessageElementWriter)
    (elementName : ConstString) (dataBuf : List UInt8) (dataLen : Nat) (dataType : UInt16)
    (dataElemSize : Nat) :
    messageElementWriterWriteRaw elementWriter elementName dataBuf dataLen dataType
        dataElemSize =
      messageElementWriterWriteRawHeader elementWriter elementName dataLen dataType
        dataElemSize >>= fun p =>
      (bufferUpdate fun buffer => bufferVecCopyFromMem buffer p.1.dataStartOffset dataBuf
        dataLen 0 dataElemSize dataLen) >>= fun _ => pure (elementWriter.advance p.2) := by
  rw [messageElementWriterWriteRaw, messageElementWriterWriteRawHeader, bind_assoc]

theorem messageElementWriterWriteRawHeader_lockstep (elementWriter : MessageElementWriter)
    (elementName : ConstString) (dataLen : Nat) (dataType : UInt16) (dataElemSize : Nat) :
    Lockstep R (messageElementWriterWriteRawHeader elementWriter elementName
      dataLen dataType dataElemSize) :=
  (failIf_lockstep _).bind fun _ =>
    byVersion_lockstep (messageElementWriterWriteDataHeader2Ex_lockstep _ _ _ _)
      (messageElementWriterWriteDataHeader4Ex_lockstep _ _ _ _) _

/-- A payload without items is written where there is one segment. -/
theorem messageElementWriterWriteRaw_lockstep (elementWriter : MessageElementWriter)
    (elementName : ConstString) (data : CArray) (dataType : UInt16)
    (hzero : data.len = 0 → ∀ v w, R v w → (v.segments.length = 1 ↔ w.segments.length = 1)) :
    Lockstep R (messageElementWriterWriteRaw elementWriter elementName data.data
      data.len dataType data.elemSize) := by
  rw [messageElementWriterWriteRaw_eq]
  refine (messageElementWriterWriteRawHeader_lockstep _ _ _ _ _).bind fun p => ?_
  refine Lockstep.bind ?_ fun _ => Lockstep.pure _
  rcases Nat.eq_zero_or_pos data.len with h0 | hpos
  · intro v w hvw
    simp only [bufferUpdate, ExceptT.mk, bufferVecCopyFromMem_zero _ _ data h0]
    have hone := hzero h0 v w hvw
    by_cases hv : v.segments.length = 1
    · rw [if_pos hv, if_pos (hone.mp hv)]
      exact ⟨rfl, hvw⟩
    · rw [if_neg hv, if_neg (fun hw => hv (hone.mpr hw))]
      exact ⟨rfl, hvw⟩
  · exact bufferUpdate_lockstep fun v => bufferVecCopyFromMem_eq v _ data hpos

/-- Past its header, an empty payload is written to one segment only. -/
theorem messageElementWriterWriteRaw_empty {elementWriter : MessageElementWriter}
    {elementName : ConstString} {data : CArray} {dataType : UInt16} (h0 : data.len = 0)
    {v v' : BufferVec} {p : MessageElementBufferInfo × Nat}
    (h : messageElementWriterWriteRawHeader elementWriter elementName data.len dataType
      data.elemSize v = (.ok p, v')) :
    (messageElementWriterWriteRaw elementWriter elementName data.data data.len dataType
        data.elemSize v).1 =
      if v'.segments.length = 1 then .ok (elementWriter.advance p.2)
      else .error .outOfRange := by
  rw [messageElementWriterWriteRaw_eq, buffered_bind_apply, h]
  dsimp only
  rw [buffered_bind_apply, bufferUpdate, ExceptT.mk, bufferVecCopyFromMem_zero _ _ data h0]
  by_cases hone : v'.segments.length = 1
  · rw [if_pos hone, if_pos hone]
    rfl
  · rw [if_neg hone, if_neg hone]

/-- A call that stops in the header. -/
theorem messageElementWriterWriteRaw_error {elementWriter : MessageElementWriter}
    {elementName : ConstString} {data : CArray} {dataType : UInt16} {v v' : BufferVec}
    {e : Status}
    (h : messageElementWriterWriteRawHeader elementWriter elementName data.len dataType
      data.elemSize v = (.error e, v')) :
    messageElementWriterWriteRaw elementWriter elementName data.data data.len dataType
      data.elemSize v = (.error e, v') := by
  rw [messageElementWriterWriteRaw_eq, buffered_bind_apply, h]

/-! ### Sessions -/

/-- A session over `w` that is `s` but for the buffer. -/
def WriteCounterpart (n : Nat) (t s : WriteSession) : Prop :=
  SameBytes n 1 s.buffer t.buffer ∧ t = { s with buffer := t.buffer }

/-- An empty payload is copied: the call writes an element of no data, and gets
past its header. -/
def WriteCall.CopiesNothing (s : WriteSession) : WriteCall → Prop
  | .writeRaw slot elementName data dataType => data.len = 0 ∧
      ∃ p v', messageElementWriterWriteRawHeader (s.element slot) elementName data.len
        dataType data.elemSize s.buffer = (.ok p, v')
  | _ => False

theorem WriteSession.on_status (s : WriteSession) {α : Type} (call : BufferM α)
    (next : α → WriteSession) :
    (s.on call next).1.1 = (call s.buffer).1.map fun _ => () := by
  rw [WriteSession.on]
  cases call s.buffer with
  | mk x v => cases x <;> rfl

theorem WriteSession.on_counterpart {s : WriteSession} {w : BufferVec} {α : Type}
    {call : BufferM α} {next next' : α → WriteSession}
    (hcall : (call s.buffer).1 = (call w).1 ∧
      SameBytes n 1 (call s.buffer).2 (call w).2)
    (hnext : ∀ a u, { next' a with buffer := u } = { next a with buffer := u }) :
    ({ s with buffer := w }.on call next').1 = (s.on call next).1 ∧
      WriteCounterpart n ({ s with buffer := w }.on call next').2 (s.on call next).2 := by
  obtain ⟨heq, hleft⟩ := hcall
  rw [WriteSession.on, WriteSession.on]
  cases hv : call s.buffer with
  | mk x v' =>
      cases hw : call w with
      | mk y w' =>
          rw [hv, hw] at heq hleft
          dsimp only at heq hleft
          subst heq
          cases x with
          | ok a => exact ⟨congrArg (Prod.mk _) hleft.1.symm, hleft, hnext a w'⟩
          | error e => exact ⟨congrArg (Prod.mk _) hleft.1.symm, hleft, rfl⟩

theorem WriteSession.step_counterpart {s : WriteSession} {w : BufferVec}
    (h : SameBytes n 1 s.buffer w) {c : WriteCall} (hc : n = 1 ∨ ¬ c.CopiesNothing s) :
    ({ s with buffer := w }.step c).1 = (s.step c).1 ∧
      WriteCounterpart n ({ s with buffer := w }.step c).2 (s.step c).2 := by
  cases c with
  | init offset count messageVersion =>
      exact WriteSession.on_counterpart (messageWriterInit_lockstep _ _ _ _ _ _ h)
        fun _ _ => rfl
  | beginMessage header messageFlagsMask =>
      exact WriteSession.on_counterpart (messageWriterBeginMessageEx_lockstep _ _ _ _ _ _ h)
        fun _ _ => rfl
  | beginEntry header slot =>
      exact WriteSession.on_counterpart (messageEntryWriterBeginEntry_lockstep _ _ _ _ _ h)
        fun _ _ => rfl
  | writeRaw slot elementName data dataType =>
      refine WriteSession.on_counterpart ?_ fun _ _ => rfl
      rcases Decidable.em (n = 1 ∧ 1 = 1 ∨ 0 < data.len) with hcopy | hempty
      · refine messageElementWriterWriteRaw_lockstep _ _ _ _ (fun h0 v w hvw => ?_) _ _ h
        rw [hvw.2.1, hvw.2.2, (hcopy.resolve_right (by omega)).1]
      · have hheader := messageElementWriterWriteRawHeader_lockstep (s.element slot)
          elementName data.len dataType data.elemSize _ _ h
        cases hv : messageElementWriterWriteRawHeader (s.element slot) elementName data.len
            dataType data.elemSize s.buffer with
        | mk x v' =>
            cases x with
            | ok p => exact absurd ⟨by omega, p, v', hv⟩ (hc.resolve_left (by omega))
            | error e =>
                cases hw : messageElementWriterWriteRawHeader (s.element slot) elementName
                    data.len dataType data.elemSize w with
                | mk y w' =>
                    rw [hv, hw] at hheader
                    obtain ⟨heq, hleft⟩ := hheader
                    dsimp only at heq hleft
                    subst heq
                    rw [messageElementWriterWriteRaw_error hv,
                      messageElementWriterWriteRaw_error hw]
                    exact ⟨rfl, hleft⟩
  | beginNestedElement slot header nested =>
      exact WriteSession.on_counterpart
        (messageElementWriterBeginNestedElement_lockstep _ _ _ _ _ h) fun _ _ => rfl
  | endNestedElement slot nested =>
      exact WriteSession.on_counterpart
        (messageElementWriterEndNestedElement_lockstep _ _ _ _ h) fun _ _ => rfl
  | endEntry slot =>
      exact WriteSession.on_counterpart (messageEntryWriterEndEntry_lockstep _ _ _ _ h)
        fun _ _ => rfl
  | endMessage =>
      exact WriteSession.on_counterpart (messageWriterEndMessage_lockstep _ _ _ _ _ h)
        fun _ _ => rfl

theorem WriteSession.step_counterpart_iff {s : WriteSession} {w : BufferVec}
    (h : SameBytes n 1 s.buffer w) (c : WriteCall) :
    ({ s with buffer := w }.step c).1 = (s.step c).1 ↔ n = 1 ∨ ¬ c.CopiesNothing s := by
  refine ⟨fun heq => ?_, fun hc => (WriteSession.step_counterpart h hc).1⟩
  rcases Decidable.em (n = 1) with hone | hcut
  · exact Or.inl hone
  · right
    intro hnothing
    cases c with
    | writeRaw slot elementName data dataType =>
        obtain ⟨h0, p, v', hv⟩ := hnothing
        have hheader := messageElementWriterWriteRawHeader_lockstep (s.element slot)
          elementName data.len dataType data.elemSize _ _ h
        cases hw : messageElementWriterWriteRawHeader (s.element slot) elementName data.len
            dataType data.elemSize w with
        | mk y w' =>
            rw [hv, hw] at hheader
            obtain ⟨hpy, -, hv', hw'⟩ := hheader
            dsimp only at hpy hv' hw'
            subst hpy
            have hrawv := messageElementWriterWriteRaw_empty h0 hv
            have hraww := messageElementWriterWriteRaw_empty h0 hw
            rw [if_neg (by rw [hv']; exact hcut)] at hrawv
            rw [if_pos hw'] at hraww
            have hstatus := congrArg Prod.fst heq
            rw [WriteSession.step, WriteSession.step, WriteSession.on_status,
              WriteSession.on_status, hrawv, hraww] at hstatus
            cases hstatus
    | _ => exact hnothing

theorem writeSession_segments_iff {s : WriteSession} (hb : s.buffer.bytes = w.bytes)
    (hw : w.segments.length = 1) (cs : List WriteCall) :
    outputs WriteSession.step { s with buffer := w } cs = outputs WriteSession.step s cs ↔
      EveryCall WriteSession.step
        (fun s' c => s.buffer.segments.length = 1 ∨ ¬ c.CopiesNothing s') s cs := by
  have hstart : WriteCounterpart s.buffer.segments.length { s with buffer := w } s :=
    ⟨⟨hb, rfl, hw⟩, rfl⟩
  refine outputs_eq_iff ?_ ?_ hstart cs
  · rintro t s' c ⟨hsame, ht⟩
    rw [ht]
    exact WriteSession.step_counterpart_iff hsame c
  · rintro t s' c ⟨hsame, ht⟩ hc
    rw [ht]
    exact (WriteSession.step_counterpart hsame hc).2

/-- A buffer cut into segments is written and read like the same bytes in one
segment, exactly when it is one segment too or no call copies nothing where the
loop over segments would not let it. -/
theorem segments_transparent_iff (v w : BufferVec) (hb : v.bytes = w.bytes)
    (hw : w.segments.length = 1) :
    (∀ (s : WriteSession) (cs : List WriteCall), s.buffer = v →
      (outputs WriteSession.step { s with buffer := w } cs = outputs WriteSession.step s cs ↔
        EveryCall WriteSession.step
          (fun s' c => v.segments.length = 1 ∨ ¬ c.CopiesNothing s') s cs)) ∧
    ∀ cs : List ReadCall,
      (outputs ReadSession.step (ReadSession.start w) cs =
          outputs ReadSession.step (ReadSession.start v) cs ↔
        EveryCall ReadSession.step
          (fun s c => v.segments.length = 1 ∨ c.ZeroReadInside s)
          (ReadSession.start v) cs) := by
  refine ⟨?_, readSession_segments_iff hb hw⟩
  rintro s cs rfl
  exact writeSession_segments_iff hb hw cs

end

section

open Lp64

/-- Sixty bytes in two segments. -/
def cutBuffer : BufferVec := ⟨[List.replicate 30 0, List.replicate 30 0], by decide⟩

/-- The same bytes in one. -/
def wholeBuffer : BufferVec := ⟨[List.replicate 60 0], by decide⟩

/-- An application that is about to write its first message. -/
def freshWriteSession : WriteSession where
  buffer := cutBuffer
  message := ⟨0, 0, 0, 0, 0⟩
  header := MessageHeaderOf.zero ⟨[], by decide⟩
  entry := ⟨0, 0, 0, 0, 0, 0, 0, 0⟩
  element := fun _ => ⟨0, 0, 0, 0, 0, 0, 0, 0⟩

/-- A version 4 message of one entry with one unnamed byte array in it. -/
def writeByteArray (data : CArray) : List WriteCall :=
  [.init 0 60 4, .beginMessage (MessageHeaderOf.zero ⟨[], by decide⟩) 0,
    .beginEntry (MessageEntryHeaderOf.zero ⟨[], by decide⟩) 0,
    .writeRaw 0 ⟨[], by decide⟩ data 4, .endEntry 0, .endMessage]

/-- An empty array can be written to the whole buffer and not to the cut one. -/
theorem writeByteArray_empty_differs :
    cutBuffer.bytes = wholeBuffer.bytes ∧
      outputs WriteSession.step { freshWriteSession with buffer := wholeBuffer }
          (writeByteArray (CArray.ofBytes [] (by decide))) ≠
        outputs WriteSession.step freshWriteSession
          (writeByteArray (CArray.ofBytes [] (by decide))) := by
  decide +kernel

/-- An array of one byte comes out the same. -/
theorem writeByteArray_one_agrees :
    outputs WriteSession.step { freshWriteSession with buffer := wholeBuffer }
        (writeByteArray (CArray.ofBytes [7] (by decide))) =
      outputs WriteSession.step freshWriteSession
        (writeByteArray (CArray.ofBytes [7] (by decide))) := by
  refine ((segments_transparent_iff cutBuffer wholeBuffer (by decide) rfl).1
    freshWriteSession _ rfl).mpr ?_
  refine ⟨Or.inr id, Or.inr id, Or.inr id, Or.inr ?_, Or.inr id, Or.inr id, trivial⟩
  rintro ⟨h, -⟩
  cases h

end

end RobotRaconteurLite

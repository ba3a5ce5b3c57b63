import RobotRaconteurLite.Message.Reader
import RobotRaconteurLite.Lib.OffsetReader

/-!
# How far a header read moves

A header read that succeeds stops at or behind the offset it started at, and
the last field it read lies inside the buffer. Neither is obvious in C: a
header adds lengths the sender chose to an offset, and on a 32-bit target that
sum can wrap. With a 64-bit `size_t` it cannot, because the offset is inside the
buffer before each such addition and the length has 32 bits at most.

`InBuffer` holds after every read, and `NearBuffer` after a length was skipped
but nothing behind it was read yet.
-/

namespace RobotRaconteurLite

open OffsetReader Splice LittleEndian

theorem failIf_eq_ok {c : Prop} [Decidable c] {e : Status} {u : Unit} :
    (failIf c e : Result Unit) = .ok u ↔ ¬ c := by
  rw [failIf]
  split
  · next h => simp [h, throw, throwThe, MonadExceptOf.throw]
  · next h => simp [h, pure, Except.pure]

theorem fetch_eq_ok {bytes bs : List UInt8} {pos n : Nat} (h : fetch bytes pos n = .ok bs) :
    pos < bytes.length ∧ pos + n ≤ bytes.length ∧ bs = slice bytes pos n := by
  rw [fetch] at h
  split at h
  · next hin =>
      injection h with h
      exact ⟨hin.1, hin.2, h.symm⟩
  · cases h

theorem readIf_moves {α : Type} {P : Nat → Prop} {Q : α → Nat → Prop} {present : Bool}
    {read : Cursor α} {a : α} (h : Moves P read Q) (hpq : ∀ o, P o → Q a o) :
    Moves P (readIf present read a) Q :=
  Moves.ite h (Moves.pure hpq)

section

variable [SizeT]

theorem bufferVecCopyToUInt_le {v : BufferVec} {pos size n : Nat} (h0 : 0 < size)
    (h16 : size ≤ 16) (h : bufferVecCopyToUInt v pos size = .ok n) :
    pos + size ≤ v.bytes.length := by
  rw [bufferVecCopyToUInt_eq v pos h0 h16, map_eq_ok] at h
  obtain ⟨bs, hbs, -⟩ := h
  exact (fetch_eq_ok hbs).2.1

def InBuffer (v : BufferVec) (o : Nat) : Prop := o ≤ v.bytes.length

def NearBuffer (v : BufferVec) (o : Nat) : Prop := o ≤ v.bytes.length + 2 ^ 32

/-! ## Fields -/

section

variable {v : BufferVec} {P : Nat → Prop}

theorem copyToUInt_map_le {α : Type} {size : Nat} {f : Nat → α} (h0 : 0 < size)
    (h16 : size ≤ 16) {o : Nat} {a : α} (h : f <$> bufferVecCopyToUInt v o size = .ok a) :
    o + size ≤ v.bytes.length := by
  obtain ⟨n, hn, -⟩ := map_eq_ok.mp (show (bufferVecCopyToUInt v o size).map f = _ from h)
  exact bufferVecCopyToUInt_le h0 h16 hn

theorem messageReadVal_moves {α : Type} {copy : BufferVec → Nat → Result α} {size : Nat}
    (h : ∀ o a, copy v o = .ok a → o + size ≤ v.bytes.length) :
    Moves P (messageReadVal copy size v) fun _ => InBuffer v := by
  intro o a o' _ hread
  have hv := v.length_bytes
  simp only [messageReadVal, bind, bind_eq_ok, pure, Except.pure] at hread
  obtain ⟨b, hb, heq⟩ := hread
  have := h o b hb
  rw [addSz_eq (by omega)] at heq
  injection heq with heq
  obtain ⟨rfl, rfl⟩ := Prod.mk.inj heq
  exact ⟨Nat.le_add_right _ _, this⟩

theorem messageReadUint32_moves : Moves P (messageReadUint32 v) fun _ => InBuffer v :=
  messageReadVal_moves fun _ _ => copyToUInt_map_le (by decide) (by decide)

theorem messageReadUint16_moves : Moves P (messageReadUint16 v) fun _ => InBuffer v :=
  messageReadVal_moves fun _ _ => copyToUInt_map_le (by decide) (by decide)

theorem messageReadUint8_moves : Moves P (messageReadUint8 v) fun _ => InBuffer v :=
  messageReadVal_moves fun _ _ => copyToUInt_map_le (by decide) (by decide)

theorem messageReadUintX_moves : Moves P (messageReadUintX v) fun _ => InBuffer v := by
  apply Moves.bind messageReadUint8_moves
  intro b
  refine Moves.ite (Moves.pure fun _ h => h) ?_
  refine Moves.ite (Moves.bind messageReadUint16_moves fun _ => Moves.pure fun _ h => h) ?_
  exact Moves.ite messageReadUint32_moves (Moves.throw _)

/-- A signed integer is read as the unsigned one with the same bytes. -/
theorem messageReadSigned_moves {α β : Type} {size : Nat} {f : Nat → α} {g : α → β}
    (h0 : 0 < size) (h16 : size ≤ 16) :
    Moves P (messageReadVal (fun v o => g <$> f <$> bufferVecCopyToUInt v o size) size v)
      fun _ => InBuffer v := by
  apply messageReadVal_moves
  intro o a h
  obtain ⟨b, hb, -⟩ := map_eq_ok.mp
    (show (f <$> bufferVecCopyToUInt v o size).map g = _ from h)
  exact copyToUInt_map_le h0 h16 hb

theorem messageReadIntX_moves : Moves P (messageReadIntX v) fun _ => InBuffer v := by
  apply Moves.bind (messageReadSigned_moves (by decide) (by decide))
  intro b
  refine Moves.ite (Moves.pure fun _ h => h) (Moves.ite ?_ ?_)
  · exact Moves.bind (messageReadSigned_moves (by decide) (by decide))
      fun _ => Moves.pure fun _ h => h
  · exact Moves.ite (messageReadSigned_moves (by decide) (by decide)) (Moves.throw _)

theorem messageReadCount_moves {ver : UInt16} :
    Moves P (messageReadCount v ver) fun _ => InBuffer v := by
  apply Moves.ite messageReadUint32_moves
  exact Moves.ite messageReadUintX_moves (Moves.throw _)

theorem InBuffer.near {o : Nat} (h : InBuffer v o) : NearBuffer v o := by
  rw [InBuffer] at h
  rw [NearBuffer]
  omega

/-- A length of at most 32 bits, skipped from inside the buffer. -/
theorem messageSkip_moves (h64 : SizeT.modulus = 2 ^ 64) {n : Nat} (hn : n ≤ 2 ^ 32) :
    Moves (InBuffer v) (messageSkip n) fun _ => NearBuffer v := by
  intro o a o' ho h
  have hv := v.length_bytes
  rw [InBuffer] at ho
  injection h with h
  obtain ⟨-, h⟩ := Prod.mk.inj h
  rw [addSz_eq (by omega)] at h
  subst h
  exact ⟨Nat.le_add_right _ _, by simp only [NearBuffer]; omega⟩

theorem messageSkipBlock_moves (h64 : SizeT.modulus = 2 ^ 64) :
    Moves P (messageSkipBlock v) fun _ => NearBuffer v := by
  apply Moves.bind messageReadUintX_moves
  intro size
  exact messageSkip_moves h64 (Nat.le_of_lt size.toNat_lt)

theorem messageReadHeaderStringInfo_moves (h64 : SizeT.modulus = 2 ^ 64)
    {readLen : Cursor Nat}
    (hlen : Moves P readLen fun n o => n ≤ 2 ^ 32 ∧ InBuffer v o) :
    Moves P (messageReadHeaderStringInfo readLen) fun _ => NearBuffer v := by
  apply Moves.bind hlen
  intro n
  apply Moves.bind Moves.get
  intro offset
  apply Moves.of_pre (fun _ h => h.2.1)
  intro hn
  refine Moves.bind ?_ fun _ => Moves.pure fun _ h => h
  exact (messageSkip_moves h64 hn).mono (fun _ h => h.2.2) fun _ _ h => h

theorem messageReadHeaderStringWithLenPrefix2_1_moves (h64 : SizeT.modulus = 2 ^ 64) :
    Moves P (messageReadHeaderStringWithLenPrefix2_1 v) fun _ => NearBuffer v := by
  apply messageReadHeaderStringInfo_moves h64
  apply Moves.map
  apply messageReadUint16_moves.mono (fun _ h => h)
  intro n o h
  have := n.toNat_lt
  exact ⟨by omega, h⟩

theorem messageReadHeaderStringWithLenPrefix4_1_moves (h64 : SizeT.modulus = 2 ^ 64) :
    Moves P (messageReadHeaderStringWithLenPrefix4_1 v) fun _ => NearBuffer v := by
  apply messageReadHeaderStringInfo_moves h64
  apply Moves.map
  apply messageReadUintX_moves.mono (fun _ h => h)
  intro n o h
  have := n.toNat_lt
  exact ⟨by omega, h⟩

/-- Copying a string out of the header does not move the offset. -/
theorem messageReadHeaderStringWithLenPrefix_2_moves {info : ReadHeaderStringInfo}
    {str : StringBuf} :
    Moves P (messageReadHeaderStringWithLenPrefix_2 v info str) fun _ => P := by
  intro o a o' ho h
  simp only [messageReadHeaderStringWithLenPrefix_2, bind, bind_eq_ok, pure,
    Except.pure] at h
  obtain ⟨s, -, heq⟩ := h
  injection heq with heq
  obtain ⟨-, rfl⟩ := Prod.mk.inj heq
  exact ⟨Nat.le_refl _, ho⟩

end

/-! ## Headers -/

/-- What the offsets of a header say: where it stops, and that it is the bytes up
to there. -/
structure HeaderEnds (v : BufferVec) (start headerSize stop : Nat) : Prop where
  start_le : start ≤ stop
  stop_le : InBuffer v stop
  headerSize_eq : headerSize = subSz stop start

theorem messageEntryReaderReadHeader2Ex_moves (h64 : SizeT.modulus = 2 ^ 64)
    {r : MessageEntryReader} {header : MessageEntryHeader}
    {p : MessageEntryHeader × MessageEntryBufferInfo}
    (h : messageEntryReaderReadHeader2Ex r header = .ok p) :
    HeaderEnds r.buffer r.bufferOffset p.2.headerSize p.2.elementStartOffset := by
  rw [messageEntryReaderReadHeader2Ex] at h
  obtain ⟨o', hle, heq, hsize, hin⟩ := Moves.run' h trivial
    (show Moves (fun _ => True) _ (fun p o' => p.2.elementStartOffset = o' ∧
      p.2.headerSize = subSz o' r.bufferOffset ∧ InBuffer r.buffer o') from by
      refine Moves.bind messageReadUint32_moves fun _ => ?_
      refine Moves.bind messageReadUint16_moves fun _ => ?_
      refine Moves.bind (messageSkip_moves h64 (by decide)) fun _ => ?_
      refine Moves.bind (messageReadHeaderStringWithLenPrefix2_1_moves h64) fun _ => ?_
      refine Moves.bind (messageReadHeaderStringWithLenPrefix2_1_moves h64) fun _ => ?_
      refine Moves.bind messageReadUint32_moves fun _ => ?_
      refine Moves.bind messageReadUint16_moves fun _ => ?_
      refine Moves.bind (messageReadHeaderStringWithLenPrefix2_1_moves h64) fun _ => ?_
      refine Moves.bind Moves.get fun _ => ?_
      refine Moves.bind messageReadUint16_moves fun _ => ?_
      refine Moves.bind messageReadHeaderStringWithLenPrefix_2_moves fun _ => ?_
      refine Moves.bind messageReadHeaderStringWithLenPrefix_2_moves fun _ => ?_
      refine Moves.bind messageReadHeaderStringWithLenPrefix_2_moves fun _ => ?_
      refine Moves.bind Moves.get fun o => Moves.pure ?_
      rintro o' ⟨rfl, hin⟩
      exact ⟨rfl, rfl, hin⟩)
  subst heq
  exact ⟨hle, hin, hsize⟩

theorem messageEntryReaderReadHeader4Ex_moves (h64 : SizeT.modulus = 2 ^ 64)
    {r : MessageEntryReader} {header : MessageEntryHeader}
    {p : MessageEntryHeader × MessageEntryBufferInfo}
    (h : messageEntryReaderReadHeader4Ex r header = .ok p) :
    HeaderEnds r.buffer r.bufferOffset p.2.headerSize p.2.elementStartOffset := by
  rw [messageEntryReaderReadHeader4Ex] at h
  have hstr : ∀ {present : Bool}, Moves (NearBuffer r.buffer) (readIf present
      (messageReadHeaderStringWithLenPrefix4_1 r.buffer) ⟨0, 0⟩)
      fun _ => NearBuffer r.buffer :=
    readIf_moves (messageReadHeaderStringWithLenPrefix4_1_moves h64) fun _ h => h
  have huint : ∀ {present : Bool}, Moves (NearBuffer r.buffer) (readIf present
      (messageReadUintX r.buffer) 0) fun _ => NearBuffer r.buffer :=
    readIf_moves (messageReadUintX_moves.mono (fun _ h => h) fun _ _ => InBuffer.near)
      fun _ h => h
  have hout : ∀ {present : Bool} {info : ReadHeaderStringInfo} {str : StringBuf},
      Moves (InBuffer r.buffer) (readIf present
        (messageReadHeaderStringWithLenPrefix_2 r.buffer info str) (.null 0))
        fun _ => InBuffer r.buffer :=
    readIf_moves messageReadHeaderStringWithLenPrefix_2_moves fun _ h => h
  obtain ⟨o', hle, heq, hsize, hin⟩ := Moves.run' h trivial
    (show Moves (fun _ => True) _ (fun p o' => p.2.elementStartOffset = o' ∧
      p.2.headerSize = subSz o' r.bufferOffset ∧ InBuffer r.buffer o') from by
      refine Moves.bind messageReadUintX_moves fun _ => ?_
      refine Moves.bind messageReadUint8_moves fun _ => ?_
      refine Moves.bind messageReadUint16_moves fun _ => ?_
      refine Moves.bind (hstr.mono (fun _ => InBuffer.near) fun _ _ h => h) fun _ => ?_
      refine Moves.bind huint fun _ => ?_
      refine Moves.bind hstr fun _ => ?_
      refine Moves.bind huint fun _ => ?_
      refine Moves.bind huint fun _ => ?_
      refine Moves.bind (readIf_moves (messageReadUint16_moves.mono (fun _ h => h)
        fun _ _ => InBuffer.near) fun _ h => h) fun _ => ?_
      refine Moves.bind hstr fun _ => ?_
      refine Moves.bind (readIf_moves (messageSkipBlock_moves h64) fun _ h => h) fun _ => ?_
      refine Moves.bind Moves.get fun _ => ?_
      refine Moves.bind messageReadUintX_moves fun _ => ?_
      refine Moves.bind hout fun _ => ?_
      refine Moves.bind hout fun _ => ?_
      refine Moves.bind hout fun _ => ?_
      refine Moves.bind Moves.get fun o => Moves.pure ?_
      rintro o' ⟨rfl, hin⟩
      exact ⟨rfl, rfl, hin⟩)
  subst heq
  exact ⟨hle, hin, hsize⟩

theorem messageEntryReaderReadHeaderEx_moves (h64 : SizeT.modulus = 2 ^ 64)
    {r : MessageEntryReader} {header : MessageEntryHeader}
    {p : MessageEntryHeader × MessageEntryBufferInfo}
    (h : messageEntryReaderReadHeaderEx r header = .ok p) :
    HeaderEnds r.buffer r.bufferOffset p.2.headerSize p.2.elementStartOffset := by
  rw [messageEntryReaderReadHeaderEx] at h
  split at h
  · exact messageEntryReaderReadHeader2Ex_moves h64 h
  · split at h
    · exact messageEntryReaderReadHeader4Ex_moves h64 h
    · cases h

theorem messageElementReaderReadHeader2Ex_moves (h64 : SizeT.modulus = 2 ^ 64)
    {r : MessageElementReader} {header : MessageElementHeader}
    {p : MessageElementHeader × MessageElementBufferInfo}
    (h : messageElementReaderReadHeader2Ex r header = .ok p) :
    HeaderEnds r.buffer r.bufferOffset p.2.headerSize p.2.dataStartOffset := by
  rw [messageElementReaderReadHeader2Ex] at h
  obtain ⟨o', hle, heq, hsize, hin⟩ := Moves.run' h trivial
    (show Moves (fun _ => True) _ (fun p o' => p.2.dataStartOffset = o' ∧
      p.2.headerSize = subSz o' r.bufferOffset ∧ InBuffer r.buffer o') from by
      refine Moves.bind messageReadUint32_moves fun _ => ?_
      refine Moves.bind (messageReadHeaderStringWithLenPrefix2_1_moves h64) fun _ => ?_
      refine Moves.bind messageReadUint16_moves fun _ => ?_
      refine Moves.bind (messageReadHeaderStringWithLenPrefix2_1_moves h64) fun _ => ?_
      refine Moves.bind (messageReadHeaderStringWithLenPrefix2_1_moves h64) fun _ => ?_
      refine Moves.bind Moves.get fun _ => ?_
      refine Moves.bind messageReadUint32_moves fun _ => ?_
      refine Moves.bind messageReadHeaderStringWithLenPrefix_2_moves fun _ => ?_
      refine Moves.bind messageReadHeaderStringWithLenPrefix_2_moves fun _ => ?_
      refine Moves.bind messageReadHeaderStringWithLenPrefix_2_moves fun _ => ?_
      refine Moves.bind Moves.get fun o => Moves.pure ?_
      rintro o' ⟨rfl, hin⟩
      exact ⟨rfl, rfl, hin⟩)
  subst heq
  exact ⟨hle, hin, hsize⟩

theorem messageElementReaderReadHeader4Ex_moves (h64 : SizeT.modulus = 2 ^ 64)
    {r : MessageElementReader} {header : MessageElementHeader}
    {p : MessageElementHeader × MessageElementBufferInfo}
    (h : messageElementReaderReadHeader4Ex r header = .ok p) :
    HeaderEnds r.buffer r.bufferOffset p.2.headerSize p.2.dataStartOffset := by
  rw [messageElementReaderReadHeader4Ex] at h
  have hstr : ∀ {present : Bool}, Moves (NearBuffer r.buffer) (readIf present
      (messageReadHeaderStringWithLenPrefix4_1 r.buffer) ⟨0, 0⟩)
      fun _ => NearBuffer r.buffer :=
    readIf_moves (messageReadHeaderStringWithLenPrefix4_1_moves h64) fun _ h => h
  have huint : ∀ {present : Bool}, Moves (NearBuffer r.buffer) (readIf present
      (messageReadUintX r.buffer) 0) fun _ => NearBuffer r.buffer :=
    readIf_moves (messageReadUintX_moves.mono (fun _ h => h) fun _ _ => InBuffer.near)
      fun _ h => h
  have hout : ∀ {present : Bool} {info : ReadHeaderStringInfo} {str : StringBuf},
      Moves (InBuffer r.buffer) (readIf present
        (messageReadHeaderStringWithLenPrefix_2 r.buffer info str) (.null 0))
        fun _ => InBuffer r.buffer :=
    readIf_moves messageReadHeaderStringWithLenPrefix_2_moves fun _ h => h
  obtain ⟨o', hle, heq, hsize, hin⟩ := Moves.run' h trivial
    (show Moves (fun _ => True) _ (fun p o' => p.2.dataStartOffset = o' ∧
      p.2.headerSize = subSz o' r.bufferOffset ∧ InBuffer r.buffer o') from by
      refine Moves.bind messageReadUintX_moves fun _ => ?_
      refine Moves.bind messageReadUint8_moves fun _ => ?_
      refine Moves.bind (hstr.mono (fun _ => InBuffer.near) fun _ _ h => h) fun _ => ?_
      refine Moves.bind huint fun _ => ?_
      refine Moves.bind (readIf_moves (messageReadIntX_moves.mono (fun _ h => h)
        fun _ _ => InBuffer.near) fun _ h => h) fun _ => ?_
      refine Moves.bind messageReadUint16_moves fun _ => ?_
      refine Moves.bind (hstr.mono (fun _ => InBuffer.near) fun _ _ h => h) fun _ => ?_
      refine Moves.bind huint fun _ => ?_
      refine Moves.bind hstr fun _ => ?_
      refine Moves.bind (readIf_moves (messageSkipBlock_moves h64) fun _ h => h) fun _ => ?_
      refine Moves.bind Moves.get fun _ => ?_
      refine Moves.bind messageReadUintX_moves fun _ => ?_
      refine Moves.bind hout fun _ => ?_
      refine Moves.bind hout fun _ => ?_
      refine Moves.bind hout fun _ => ?_
      refine Moves.bind Moves.get fun o => Moves.pure ?_
      rintro o' ⟨rfl, hin⟩
      exact ⟨rfl, rfl, hin⟩)
  subst heq
  exact ⟨hle, hin, hsize⟩

theorem messageElementReaderReadHeaderEx_moves (h64 : SizeT.modulus = 2 ^ 64)
    {r : MessageElementReader} {header : MessageElementHeader}
    {p : MessageElementHeader × MessageElementBufferInfo}
    (h : messageElementReaderReadHeaderEx r header = .ok p) :
    HeaderEnds r.buffer r.bufferOffset p.2.headerSize p.2.dataStartOffset := by
  rw [messageElementReaderReadHeaderEx] at h
  split at h
  · exact messageElementReaderReadHeader2Ex_moves h64 h
  · split at h
    · exact messageElementReaderReadHeader4Ex_moves h64 h
    · cases h

end

end RobotRaconteurLite

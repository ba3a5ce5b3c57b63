import RobotRaconteurLite.Proofs.HeaderMoves

/-!
# Reading the same bytes elsewhere

Two buffers read alike when every read of the first, at any offset, gives what
the second has at a corresponding one. Cutting the same bytes into other
segments is one case, and a message embedded in a longer buffer is another; in
the second the offsets differ by a constant and a read that runs off the end of
the shorter buffer is excused.

All arithmetic a header read does on offsets is to add a length or to subtract
the start of the window, and both respect a constant shift even where they
wrap. So each header read of the first buffer is followed by the same header
read of the second.
-/

namespace RobotRaconteurLite

open OffsetReader Splice LittleEndian

section

variable {excused : Status → Prop} {τ : Nat → Nat}

theorem follows_failIf {c c' : Prop} [Decidable c] [Decidable c'] (e : Status)
    (h : c' ↔ c) :
    Follows excused τ Eq (failIf c e : Cursor Unit) (failIf c' e) := by
  simp only [failIf, h]
  exact Follows.ite (Follows.throw _) (Follows.pure rfl)

theorem follows_readIf {α : Type} {c d : Cursor α} {present : Bool} {a : α}
    (hcd : present = true → Follows excused τ Eq c d) :
    Follows excused τ Eq (readIf present c a) (readIf present d a) := by
  cases present with
  | false => exact Follows.pure rfl
  | true => exact hcd rfl

/-- A field that is not there leaves a place nothing reads. -/
theorem follows_readIf_rel {α : Type} {R : α → α → Prop} {c d : Cursor α} {present : Bool}
    {a : α} (hcd : Follows excused τ R c d) :
    Follows excused τ (fun x y => present = true → R x y) (readIf present c a)
      (readIf present d a) := by
  cases present with
  | false => exact Follows.pure fun h => absurd h (by decide)
  | true => exact fun o => (hcd o).mono fun _ _ hpq => ⟨fun _ => hpq.1, hpq.2⟩

end

section

variable [SizeT]

/-- Offset `o` of `v` corresponds to offset `τ o` of `w`. -/
structure ReadsAlike (excused : Status → Prop) (τ : Nat → Nat) (v w : BufferVec) : Prop where
  fetch_rel : ∀ pos n, 0 < n →
    ResultRel excused Eq (fetch v.bytes pos n) (fetch w.bytes (τ pos) n)
  addSz_eq : ∀ o n, addSz (τ o) n = τ (addSz o n)
  subSz_eq : ∀ a b, subSz (τ a) (τ b) = subSz a b

variable {excused : Status → Prop} {τ : Nat → Nat} {v w : BufferVec}

/-! ## Fields -/

theorem ReadsAlike.copyToUInt (h : ReadsAlike excused τ v w) {size : Nat} (h0 : 0 < size)
    (h16 : size ≤ 16) (o : Nat) :
    ResultRel excused Eq (bufferVecCopyToUInt v o size) (bufferVecCopyToUInt w (τ o) size) := by
  rw [bufferVecCopyToUInt_eq v o h0 h16, bufferVecCopyToUInt_eq w (τ o) h0 h16]
  exact (h.fetch_rel o size h0).map fun _ _ heq => congrArg leNat heq

theorem ReadsAlike.copyToBytes (h : ReadsAlike excused τ v w) {dest : List UInt8} {n : Nat}
    (hdest : 2 * dest.length < SizeT.modulus) (hn : 0 < n) (hle : n ≤ dest.length) (o : Nat) :
    ResultRel excused Eq (bufferVecCopyToString v o dest 0 n)
      (bufferVecCopyToString w (τ o) dest 0 n) := by
  rw [bufferVecCopyToString_eq v o hdest hn hle, bufferVecCopyToString_eq w (τ o) hdest hn hle]
  exact (h.fetch_rel o n hn).map fun _ _ heq => congrArg _ heq

theorem ReadsAlike.readVal (h : ReadsAlike excused τ v w) {α : Type}
    {copy : BufferVec → Nat → Result α} {size : Nat}
    (hcopy : ∀ o, ResultRel excused Eq (copy v o) (copy w (τ o))) :
    Follows excused τ Eq (messageReadVal copy size v) (messageReadVal copy size w) := by
  intro o
  refine (hcopy o).bind fun a b hab => ?_
  exact ⟨hab, h.addSz_eq o size⟩

theorem ReadsAlike.readUInt (h : ReadsAlike excused τ v w) {α : Type} {f : Nat → α}
    {size : Nat} (h0 : 0 < size) (h16 : size ≤ 16) :
    Follows excused τ Eq
      (messageReadVal (fun v o => f <$> bufferVecCopyToUInt v o size) size v)
      (messageReadVal (fun v o => f <$> bufferVecCopyToUInt v o size) size w) :=
  h.readVal fun o => (h.copyToUInt h0 h16 o).map fun _ _ heq => congrArg f heq

theorem ReadsAlike.readUint32 (h : ReadsAlike excused τ v w) :
    Follows excused τ Eq (messageReadUint32 v) (messageReadUint32 w) :=
  h.readUInt (by decide) (by decide)

theorem ReadsAlike.readUint16 (h : ReadsAlike excused τ v w) :
    Follows excused τ Eq (messageReadUint16 v) (messageReadUint16 w) :=
  h.readUInt (by decide) (by decide)

theorem ReadsAlike.readUint8 (h : ReadsAlike excused τ v w) :
    Follows excused τ Eq (messageReadUint8 v) (messageReadUint8 w) :=
  h.readUInt (by decide) (by decide)

theorem ReadsAlike.readSigned (h : ReadsAlike excused τ v w) {α β : Type} {f : Nat → α}
    {g : α → β} {size : Nat} (h0 : 0 < size) (h16 : size ≤ 16) :
    Follows excused τ Eq
      (messageReadVal (fun v o => g <$> f <$> bufferVecCopyToUInt v o size) size v)
      (messageReadVal (fun v o => g <$> f <$> bufferVecCopyToUInt v o size) size w) :=
  h.readVal fun o => ((h.copyToUInt h0 h16 o).map fun _ _ heq => congrArg f heq).map
    fun _ _ heq => congrArg g heq

theorem ReadsAlike.readUintX (h : ReadsAlike excused τ v w) :
    Follows excused τ Eq (messageReadUintX v) (messageReadUintX w) := by
  refine h.readUint8.bind_eq fun b => Follows.ite (Follows.pure rfl) (Follows.ite ?_ ?_)
  · exact h.readUint16.bind_eq fun _ => Follows.pure rfl
  · exact Follows.ite h.readUint32 (Follows.throw _)

theorem ReadsAlike.readIntX (h : ReadsAlike excused τ v w) :
    Follows excused τ Eq (messageReadIntX v) (messageReadIntX w) := by
  refine (h.readSigned (by decide) (by decide)).bind_eq fun b =>
    Follows.ite (Follows.pure rfl) (Follows.ite ?_ ?_)
  · exact (h.readSigned (by decide) (by decide)).bind_eq fun _ => Follows.pure rfl
  · exact Follows.ite (h.readSigned (by decide) (by decide)) (Follows.throw _)

theorem ReadsAlike.readCount (h : ReadsAlike excused τ v w) (ver : UInt16) :
    Follows excused τ Eq (messageReadCount v ver) (messageReadCount w ver) :=
  Follows.ite h.readUint32 (Follows.ite h.readUintX (Follows.throw _))

theorem ReadsAlike.readCount2 (h : ReadsAlike excused τ v w) (ver : UInt16) :
    Follows excused τ Eq (messageReadCount2 v ver) (messageReadCount2 w ver) :=
  Follows.ite (h.readUint16.bind_eq fun _ => Follows.pure rfl)
    (Follows.ite h.readUintX (Follows.throw _))

theorem ReadsAlike.skip (h : ReadsAlike excused τ v w) (n : Nat) :
    Follows excused τ Eq (messageSkip n) (messageSkip n) :=
  fun o => ⟨rfl, h.addSz_eq o n⟩

theorem ReadsAlike.skipBlock (h : ReadsAlike excused τ v w) :
    Follows excused τ Eq (messageSkipBlock v) (messageSkipBlock w) :=
  h.readUintX.bind_eq fun size => h.skip size.toNat

theorem ReadsAlike.readNodeid (h : ReadsAlike excused τ v w) :
    Follows excused τ Eq (messageReadNodeid v) (messageReadNodeid w) := by
  intro o
  have hmod := SizeT.le_modulus
  have hdest : 2 * (List.replicate 16 (0 : UInt8)).length < SizeT.modulus := by
    rw [List.length_replicate]
    omega
  refine (h.copyToBytes hdest (by decide : 0 < 16) (by simp) o).bind ?_
  rintro data _ rfl
  split
  · exact ⟨rfl, h.addSz_eq o 16⟩
  · exact Or.inr rfl

/-! ## Strings -/

/-- The same string, each offset in its own buffer. -/
def StringInfoRel (τ : Nat → Nat) (a b : ReadHeaderStringInfo) : Prop :=
  b.offset = τ a.offset ∧ b.strLen = a.strLen

theorem ReadsAlike.readStringInfo (h : ReadsAlike excused τ v w) {read read' : Cursor Nat}
    (hread : Follows excused τ Eq read read') :
    Follows excused τ (StringInfoRel τ) (messageReadHeaderStringInfo read)
      (messageReadHeaderStringInfo read') := by
  refine hread.bind_eq fun n => Follows.get.bind fun a b hab => ?_
  exact (h.skip n).bind_eq fun _ => Follows.pure ⟨hab, rfl⟩

theorem ReadsAlike.readString2_1 (h : ReadsAlike excused τ v w) :
    Follows excused τ (StringInfoRel τ) (messageReadHeaderStringWithLenPrefix2_1 v)
      (messageReadHeaderStringWithLenPrefix2_1 w) :=
  h.readStringInfo (h.readUint16.map fun _ _ heq => congrArg _ heq)

theorem ReadsAlike.readString4_1 (h : ReadsAlike excused τ v w) :
    Follows excused τ (StringInfoRel τ) (messageReadHeaderStringWithLenPrefix4_1 v)
      (messageReadHeaderStringWithLenPrefix4_1 w) :=
  h.readStringInfo (h.readUintX.map fun _ _ heq => congrArg _ heq)

theorem ReadsAlike.readHeaderString (h : ReadsAlike excused τ v w) (o strLen : Nat)
    (str : StringBuf) :
    ResultRel excused Eq (messageReadHeaderString v o strLen str)
      (messageReadHeaderString w (τ o) strLen str) := by
  cases str with
  | null len => exact ResultRel.refl _
  | storage bytes haddr =>
      rw [messageReadHeaderString, messageReadHeaderString]
      split
      · exact rfl
      · split
        · exact Or.inr rfl
        · refine (h.copyToBytes haddr (by omega) (by omega) o).bind ?_
          rintro copied _ rfl
          exact ResultRel.refl _

theorem ReadsAlike.readString_2 (h : ReadsAlike excused τ v w)
    {info info' : ReadHeaderStringInfo} (hinfo : StringInfoRel τ info info')
    (str : StringBuf) :
    Follows excused τ Eq (messageReadHeaderStringWithLenPrefix_2 v info str)
      (messageReadHeaderStringWithLenPrefix_2 w info' str) := by
  intro o
  rw [messageReadHeaderStringWithLenPrefix_2, messageReadHeaderStringWithLenPrefix_2,
    hinfo.1, hinfo.2]
  refine (h.readHeaderString info.offset info.strLen str).bind ?_
  rintro s _ rfl
  exact ⟨rfl, rfl⟩

/-! ## Headers -/

/-- Where the parts of a message header lie. A message without an entry count has
no offset for it in either buffer. -/
structure MessageInfoRel (τ : Nat → Nat) (a b : MessageBufferInfo) : Prop where
  headerSize_eq : b.headerSize = a.headerSize
  entryStartOffset_eq : b.entryStartOffset = τ a.entryStartOffset
  entryCountOffset_eq : a.entryCountOffset = sizeTMax ∧ b.entryCountOffset = sizeTMax ∨
    b.entryCountOffset = τ a.entryCountOffset

theorem ReadsAlike.readHeader2Ex (h : ReadsAlike excused τ v w) {r r' : MessageReader}
    (hv : r.buffer = v) (hw : r'.buffer = w) (ho : r'.bufferOffset = τ r.bufferOffset)
    (header : MessageHeader) :
    ResultRel excused (fun p q => q.1 = p.1 ∧ MessageInfoRel τ p.2 q.2)
      (messageReaderReadHeader2Ex r header) (messageReaderReadHeader2Ex r' header) := by
  subst hv hw
  rw [messageReaderReadHeader2Ex, messageReaderReadHeader2Ex, ho]
  apply Follows.run'
  refine (h.skip 4).bind_eq fun _ => ?_
  refine h.readUint32.bind_eq fun _ => ?_
  refine h.readUint16.bind_eq fun _ => ?_
  refine h.readUint16.bind_eq fun _ => ?_
  refine h.readNodeid.bind_eq fun _ => ?_
  refine h.readNodeid.bind_eq fun _ => ?_
  refine h.readUint32.bind_eq fun _ => ?_
  refine h.readUint32.bind_eq fun _ => ?_
  refine h.readString2_1.bind fun sender sender' hsender => ?_
  refine h.readString2_1.bind fun receiver receiver' hreceiver => ?_
  refine h.readString2_1.bind fun metaInfo metaInfo' hmeta => ?_
  refine Follows.get.bind fun count count' hcount => ?_
  refine h.readUint16.bind_eq fun _ => ?_
  refine h.readUint16.bind_eq fun _ => ?_
  refine h.readUint16.bind_eq fun _ => ?_
  refine Follows.get.bind fun stop stop' hstop => ?_
  refine (follows_failIf _ (by rw [hstop, h.subSz_eq])).bind_eq fun _ => ?_
  refine (h.readString_2 hsender _).bind_eq fun _ => ?_
  refine (h.readString_2 hreceiver _).bind_eq fun _ => ?_
  refine (h.readString_2 hmeta _).bind_eq fun _ => ?_
  exact Follows.pure ⟨rfl, rfl, hstop, Or.inr hcount⟩

theorem ReadsAlike.readHeader4Ex (h : ReadsAlike excused τ v w) {r r' : MessageReader}
    (hv : r.buffer = v) (hw : r'.buffer = w) (ho : r'.bufferOffset = τ r.bufferOffset)
    (header : MessageHeader) :
    ResultRel excused (fun p q => q.1 = p.1 ∧ MessageInfoRel τ p.2 q.2)
      (messageReaderReadHeader4Ex r header) (messageReaderReadHeader4Ex r' header) := by
  subst hv hw
  rw [messageReaderReadHeader4Ex, messageReaderReadHeader4Ex, ho]
  apply Follows.run'
  refine (h.skip 4).bind_eq fun _ => ?_
  refine h.readUint32.bind_eq fun _ => ?_
  refine h.readUint16.bind_eq fun _ => ?_
  refine (follows_failIf _ Iff.rfl).bind_eq fun _ => ?_
  refine h.readUintX.bind_eq fun _ => ?_
  refine h.readUint8.bind_eq fun _ => ?_
  refine (follows_readIf fun _ => h.readNodeid).bind_eq fun _ => ?_
  refine (follows_readIf fun _ => h.readNodeid).bind_eq fun _ => ?_
  refine (follows_readIf_rel h.readString4_1).bind fun sender sender' hsender => ?_
  refine (follows_readIf_rel h.readString4_1).bind fun receiver receiver' hreceiver => ?_
  refine (follows_readIf fun _ => h.readUintX).bind_eq fun _ => ?_
  refine (follows_readIf fun _ => h.readUintX).bind_eq fun _ => ?_
  refine (follows_readIf fun _ => h.readUint16).bind_eq fun _ => ?_
  refine (follows_readIf_rel h.readString4_1).bind fun metaInfo metaInfo' hmeta => ?_
  refine (follows_readIf fun _ => h.readUint16).bind_eq fun _ => ?_
  refine (follows_readIf fun _ => h.readUint16).bind_eq fun _ => ?_
  refine (follows_readIf fun _ => h.skipBlock).bind_eq fun _ => ?_
  refine Follows.get.bind fun count count' hcount => ?_
  refine (follows_readIf fun _ => h.readUintX).bind_eq fun _ => ?_
  refine (follows_readIf fun _ => h.skipBlock).bind_eq fun _ => ?_
  refine Follows.get.bind fun stop stop' hstop => ?_
  refine (follows_failIf _ (by rw [hstop, h.subSz_eq])).bind_eq fun _ => ?_
  refine (follows_readIf fun hp => h.readString_2 (hsender hp) _).bind_eq fun _ => ?_
  refine (follows_readIf fun hp => h.readString_2 (hreceiver hp) _).bind_eq fun _ => ?_
  refine (follows_readIf fun hp => h.readString_2 (hmeta hp) _).bind_eq fun _ => ?_
  refine Follows.pure ⟨rfl, rfl, hstop, ?_⟩
  dsimp only
  split
  · exact Or.inr hcount
  · exact Or.inl ⟨rfl, rfl⟩

theorem ReadsAlike.readHeaderEx (h : ReadsAlike excused τ v w) {r r' : MessageReader}
    (hv : r.buffer = v) (hw : r'.buffer = w) (ho : r'.bufferOffset = τ r.bufferOffset)
    (header : MessageHeader) :
    ResultRel excused (fun p q => q.1 = p.1 ∧ MessageInfoRel τ p.2 q.2)
      (messageReaderReadHeaderEx r header) (messageReaderReadHeaderEx r' header) := by
  rw [messageReaderReadHeaderEx, messageReaderReadHeaderEx, hv, hw, ho, h.addSz_eq]
  have hver : ResultRel excused Eq
      (bufferVecCopyToUint16 v (addSz r.bufferOffset 8))
      (bufferVecCopyToUint16 w (τ (addSz r.bufferOffset 8))) :=
    (h.copyToUInt (by decide) (by decide) _).map fun _ _ heq => congrArg _ heq
  refine hver.bind ?_
  rintro ver _ rfl
  split
  · exact h.readHeader2Ex hv hw ho header
  · split
    · exact h.readHeader4Ex hv hw ho header
    · exact Or.inr rfl

/-- Where the parts of an entry header lie. -/
structure EntryInfoRel (τ : Nat → Nat) (a b : MessageEntryBufferInfo) : Prop where
  headerSize_eq : b.headerSize = a.headerSize
  elementStartOffset_eq : b.elementStartOffset = τ a.elementStartOffset

theorem ReadsAlike.entryReadHeader2Ex (h : ReadsAlike excused τ v w)
    {r r' : MessageEntryReader} (hv : r.buffer = v) (hw : r'.buffer = w)
    (ho : r'.bufferOffset = τ r.bufferOffset) (header : MessageEntryHeader) :
    ResultRel excused (fun p q => q.1 = p.1 ∧ EntryInfoRel τ p.2 q.2)
      (messageEntryReaderReadHeader2Ex r header)
      (messageEntryReaderReadHeader2Ex r' header) := by
  subst hv hw
  rw [messageEntryReaderReadHeader2Ex, messageEntryReaderReadHeader2Ex, ho]
  apply Follows.run'
  refine h.readUint32.bind_eq fun _ => ?_
  refine h.readUint16.bind_eq fun _ => ?_
  refine (h.skip 2).bind_eq fun _ => ?_
  refine h.readString2_1.bind fun path path' hpath => ?_
  refine h.readString2_1.bind fun member member' hmember => ?_
  refine h.readUint32.bind_eq fun _ => ?_
  refine h.readUint16.bind_eq fun _ => ?_
  refine h.readString2_1.bind fun metaInfo metaInfo' hmeta => ?_
  refine Follows.get.bind fun count count' hcount => ?_
  refine h.readUint16.bind_eq fun _ => ?_
  refine (h.readString_2 hpath _).bind_eq fun _ => ?_
  refine (h.readString_2 hmember _).bind_eq fun _ => ?_
  refine (h.readString_2 hmeta _).bind_eq fun _ => ?_
  refine Follows.get.bind fun stop stop' hstop => Follows.pure ⟨rfl, ?_, hstop⟩
  rw [hstop, h.subSz_eq]

theorem ReadsAlike.entryReadHeader4Ex (h : ReadsAlike excused τ v w)
    {r r' : MessageEntryReader} (hv : r.buffer = v) (hw : r'.buffer = w)
    (ho : r'.bufferOffset = τ r.bufferOffset) (header : MessageEntryHeader) :
    ResultRel excused (fun p q => q.1 = p.1 ∧ EntryInfoRel τ p.2 q.2)
      (messageEntryReaderReadHeader4Ex r header)
      (messageEntryReaderReadHeader4Ex r' header) := by
  subst hv hw
  rw [messageEntryReaderReadHeader4Ex, messageEntryReaderReadHeader4Ex, ho]
  apply Follows.run'
  refine h.readUintX.bind_eq fun _ => ?_
  refine h.readUint8.bind_eq fun _ => ?_
  refine h.readUint16.bind_eq fun _ => ?_
  refine (follows_readIf_rel h.readString4_1).bind fun path path' hpath => ?_
  refine (follows_readIf fun _ => h.readUintX).bind_eq fun _ => ?_
  refine (follows_readIf_rel h.readString4_1).bind fun member member' hmember => ?_
  refine (follows_readIf fun _ => h.readUintX).bind_eq fun _ => ?_
  refine (follows_readIf fun _ => h.readUintX).bind_eq fun _ => ?_
  refine (follows_readIf fun _ => h.readUint16).bind_eq fun _ => ?_
  refine (follows_readIf_rel h.readString4_1).bind fun metaInfo metaInfo' hmeta => ?_
  refine (follows_readIf fun _ => h.skipBlock).bind_eq fun _ => ?_
  refine Follows.get.bind fun count count' hcount => ?_
  refine h.readUintX.bind_eq fun _ => ?_
  refine (follows_readIf fun hp => h.readString_2 (hpath hp) _).bind_eq fun _ => ?_
  refine (follows_readIf fun hp => h.readString_2 (hmember hp) _).bind_eq fun _ => ?_
  refine (follows_readIf fun hp => h.readString_2 (hmeta hp) _).bind_eq fun _ => ?_
  refine Follows.get.bind fun stop stop' hstop => Follows.pure ⟨rfl, ?_, hstop⟩
  rw [hstop, h.subSz_eq]

theorem ReadsAlike.entryReadHeaderEx (h : ReadsAlike excused τ v w)
    {r r' : MessageEntryReader} (hv : r.buffer = v) (hw : r'.buffer = w)
    (ho : r'.bufferOffset = τ r.bufferOffset) (hver : r'.messageVersion = r.messageVersion)
    (header : MessageEntryHeader) :
    ResultRel excused (fun p q => q.1 = p.1 ∧ EntryInfoRel τ p.2 q.2)
      (messageEntryReaderReadHeaderEx r header)
      (messageEntryReaderReadHeaderEx r' header) := by
  rw [messageEntryReaderReadHeaderEx, messageEntryReaderReadHeaderEx, hver]
  split
  · exact h.entryReadHeader2Ex hv hw ho header
  · split
    · exact h.entryReadHeader4Ex hv hw ho header
    · exact Or.inr rfl

/-- Where the parts of an element header lie. -/
structure ElementInfoRel (τ : Nat → Nat) (a b : MessageElementBufferInfo) : Prop where
  headerSize_eq : b.headerSize = a.headerSize
  dataStartOffset_eq : b.dataStartOffset = τ a.dataStartOffset

/-- Where the name lies, if there is one. -/
def NameOffsetRel (τ : Nat → Nat) (a b : MessageElementBufferInfo) : Prop :=
  b.elementNameStrOffset = τ a.elementNameStrOffset ∨
    a.elementNameStrOffset = sizeTMax ∧ b.elementNameStrOffset = sizeTMax

theorem ReadsAlike.elementReadHeader2Ex_named (h : ReadsAlike excused τ v w)
    {r r' : MessageElementReader} (hv : r.buffer = v) (hw : r'.buffer = w)
    (ho : r'.bufferOffset = τ r.bufferOffset) (header : MessageElementHeader) :
    ResultRel excused (fun p q => (q.1 = p.1 ∧ ElementInfoRel τ p.2 q.2) ∧ NameOffsetRel τ p.2 q.2)
      (messageElementReaderReadHeader2Ex r header)
      (messageElementReaderReadHeader2Ex r' header) := by
  subst hv hw
  rw [messageElementReaderReadHeader2Ex, messageElementReaderReadHeader2Ex, ho]
  apply Follows.run'
  refine h.readUint32.bind_eq fun _ => ?_
  refine h.readString2_1.bind fun name name' hname => ?_
  refine h.readUint16.bind_eq fun _ => ?_
  refine h.readString2_1.bind fun typeName typeName' htypeName => ?_
  refine h.readString2_1.bind fun metaInfo metaInfo' hmeta => ?_
  refine Follows.get.bind fun count count' hcount => ?_
  refine h.readUint32.bind_eq fun _ => ?_
  refine (h.readString_2 hname _).bind_eq fun _ => ?_
  refine (h.readString_2 htypeName _).bind_eq fun _ => ?_
  refine (h.readString_2 hmeta _).bind_eq fun _ => ?_
  refine Follows.get.bind fun stop stop' hstop => ?_
  refine Follows.pure ⟨⟨rfl, ?_, hstop⟩, Or.inl hname.1⟩
  rw [hstop, h.subSz_eq]

theorem ReadsAlike.elementReadHeader4Ex_named (h : ReadsAlike excused τ v w)
    {r r' : MessageElementReader} (hv : r.buffer = v) (hw : r'.buffer = w)
    (ho : r'.bufferOffset = τ r.bufferOffset) (header : MessageElementHeader) :
    ResultRel excused (fun p q => (q.1 = p.1 ∧ ElementInfoRel τ p.2 q.2) ∧ NameOffsetRel τ p.2 q.2)
      (messageElementReaderReadHeader4Ex r header)
      (messageElementReaderReadHeader4Ex r' header) := by
  subst hv hw
  rw [messageElementReaderReadHeader4Ex, messageElementReaderReadHeader4Ex, ho]
  apply Follows.run'
  refine h.readUintX.bind_eq fun _ => ?_
  refine h.readUint8.bind_eq fun _ => ?_
  refine (follows_readIf_rel h.readString4_1).bind fun name name' hname => ?_
  refine (follows_readIf fun _ => h.readUintX).bind_eq fun _ => ?_
  refine (follows_readIf fun _ => h.readIntX).bind_eq fun _ => ?_
  refine h.readUint16.bind_eq fun _ => ?_
  refine (follows_readIf_rel h.readString4_1).bind fun typeName typeName' htypeName => ?_
  refine (follows_readIf fun _ => h.readUintX).bind_eq fun _ => ?_
  refine (follows_readIf_rel h.readString4_1).bind fun metaInfo metaInfo' hmeta => ?_
  refine (follows_readIf fun _ => h.skipBlock).bind_eq fun _ => ?_
  refine Follows.get.bind fun count count' hcount => ?_
  refine h.readUintX.bind_eq fun _ => ?_
  refine (follows_readIf fun hp => h.readString_2 (hname hp) _).bind_eq fun _ => ?_
  refine (follows_readIf fun hp => h.readString_2 (htypeName hp) _).bind_eq fun _ => ?_
  refine (follows_readIf fun hp => h.readString_2 (hmeta hp) _).bind_eq fun _ => ?_
  refine Follows.get.bind fun stop stop' hstop => ?_
  refine Follows.pure ⟨⟨rfl, ?_, hstop⟩, ?_⟩
  · rw [hstop, h.subSz_eq]
  · unfold NameOffsetRel
    dsimp only
    split
    · next hp => exact Or.inl (hname hp).1
    · exact Or.inr ⟨rfl, rfl⟩

theorem ReadsAlike.elementReadHeaderEx_named (h : ReadsAlike excused τ v w)
    {r r' : MessageElementReader} (hv : r.buffer = v) (hw : r'.buffer = w)
    (ho : r'.bufferOffset = τ r.bufferOffset) (hver : r'.messageVersion = r.messageVersion)
    (header : MessageElementHeader) :
    ResultRel excused (fun p q => (q.1 = p.1 ∧ ElementInfoRel τ p.2 q.2) ∧ NameOffsetRel τ p.2 q.2)
      (messageElementReaderReadHeaderEx r header)
      (messageElementReaderReadHeaderEx r' header) := by
  rw [messageElementReaderReadHeaderEx, messageElementReaderReadHeaderEx, hver]
  split
  · exact h.elementReadHeader2Ex_named hv hw ho header
  · split
    · exact h.elementReadHeader4Ex_named hv hw ho header
    · exact Or.inr rfl

theorem ReadsAlike.elementReadHeaderEx (h : ReadsAlike excused τ v w)
    {r r' : MessageElementReader} (hv : r.buffer = v) (hw : r'.buffer = w)
    (ho : r'.bufferOffset = τ r.bufferOffset) (hver : r'.messageVersion = r.messageVersion)
    (header : MessageElementHeader) :
    ResultRel excused (fun p q => q.1 = p.1 ∧ ElementInfoRel τ p.2 q.2)
      (messageElementReaderReadHeaderEx r header)
      (messageElementReaderReadHeaderEx r' header) :=
  (h.elementReadHeaderEx_named hv hw ho hver header).mono fun _ _ hpq => hpq.1

end

end RobotRaconteurLite

import RobotRaconteurLite.Proofs.Windows

/-!
# How long a header is

A header is a row of fields, some of fixed width and some as wide as the bytes
they start with say. In version 4 the flags say which of them are there. So the
bytes alone tell how long a header is, whatever size the entry or the element
declares, and the reader reports that length without a look at the declared size.
-/

namespace RobotRaconteurLite

open OffsetReader Splice LittleEndian

/-- The fields of a header, by how their width is told. -/
inductive HeaderField
  | fixed (width : Nat)
  | uintX
  | intX
  /-- Behind a length of two bytes. -/
  | string2
  /-- Behind a length of variable width, as is a block. -/
  | string4

def optional (present : Bool) (field : HeaderField) : List HeaderField :=
  if present then [field] else []

def entryFields2 : List HeaderField :=
  [.fixed 4, .fixed 2, .fixed 2, .string2, .string2, .fixed 4, .fixed 2, .string2, .fixed 2]

def entryFields4 (flags : BitVec 8) : List HeaderField :=
  [.uintX, .fixed 1, .fixed 2] ++
    optional (flagsCheck flags MESSAGEENTRY_FLAGS_SERVICE_PATH_STR) .string4 ++
    optional (flagsCheck flags MESSAGEENTRY_FLAGS_SERVICE_PATH_CODE) .uintX ++
    optional (flagsCheck flags MESSAGEENTRY_FLAGS_MEMBER_NAME_STR) .string4 ++
    optional (flagsCheck flags MESSAGEENTRY_FLAGS_MEMBER_NAME_CODE) .uintX ++
    optional (flagsCheck flags MESSAGEENTRY_FLAGS_REQUEST_ID) .uintX ++
    optional (flagsCheck flags MESSAGEENTRY_FLAGS_ERROR) (.fixed 2) ++
    optional (flagsCheck flags MESSAGEENTRY_FLAGS_META_INFO) .string4 ++
    optional (flagsCheck flags MESSAGEENTRY_FLAGS_EXTENDED) .string4 ++ [.uintX]

def elementFields2 : List HeaderField :=
  [.fixed 4, .string2, .fixed 2, .string2, .string2, .fixed 4]

def elementFields4 (flags : BitVec 8) : List HeaderField :=
  [.uintX, .fixed 1] ++
    optional (flagsCheck flags MESSAGEELEMENT_FLAGS_ELEMENT_NAME_STR) .string4 ++
    optional (flagsCheck flags MESSAGEELEMENT_FLAGS_ELEMENT_NAME_CODE) .uintX ++
    optional (flagsCheck flags MESSAGEELEMENT_FLAGS_ELEMENT_NUMBER) .intX ++ [.fixed 2] ++
    optional (flagsCheck flags MESSAGEELEMENT_FLAGS_ELEMENT_TYPE_NAME_STR) .string4 ++
    optional (flagsCheck flags MESSAGEELEMENT_FLAGS_ELEMENT_TYPE_NAME_CODE) .uintX ++
    optional (flagsCheck flags MESSAGEELEMENT_FLAGS_META_INFO) .string4 ++
    optional (flagsCheck flags MESSAGEELEMENT_FLAGS_EXTENDED) .string4 ++ [.uintX]

section

variable [SizeT]

/-! ## The length of a header -/

/-- The byte at an offset. -/
def byteAt (v : BufferVec) (o : Nat) : UInt8 := v.bytes.getD o 0

def uintXWidth (v : BufferVec) (o : Nat) : Nat :=
  if byteAt v o ≤ 252 then 1 else if byteAt v o = 253 then 3 else 5

def intXWidth (v : BufferVec) (o : Nat) : Nat :=
  if (byteAt v o).toInt8 ≤ 124 then 1 else if (byteAt v o).toInt8 = 125 then 3 else 5

def uintXValue (v : BufferVec) (o : Nat) : Nat :=
  if byteAt v o ≤ 252 then (byteAt v o).toNat
  else if byteAt v o = 253 then leNat (slice v.bytes (o + 1) 2)
  else leNat (slice v.bytes (o + 1) 4)

def HeaderField.width (v : BufferVec) (o : Nat) : HeaderField → Nat
  | .fixed width => width
  | .uintX => uintXWidth v o
  | .intX => intXWidth v o
  | .string2 => 2 + leNat (slice v.bytes o 2)
  | .string4 => uintXWidth v o + uintXValue v o

/-- Where the fields end. -/
def headerEnd (v : BufferVec) (fields : List HeaderField) (o : Nat) : Nat :=
  fields.foldl (fun o field => addSz o (field.width v o)) o

/-- The widths of the fields, each of them where the one before it ends. -/
def headerLength (v : BufferVec) : List HeaderField → Nat → Nat
  | [], _ => 0
  | field :: fields, o => field.width v o + headerLength v fields (addSz o (field.width v o))

/-- The flags of a version 4 header, which stand behind its size. -/
def headerFlags (v : BufferVec) (o : Nat) : BitVec 8 := (byteAt v (headerEnd v [.uintX] o)).toBitVec

def MessageEntryReader.headerLength (r : MessageEntryReader) : Nat :=
  RobotRaconteurLite.headerLength r.buffer
    (if r.messageVersion = 2 then entryFields2 else entryFields4 (headerFlags r.buffer r.bufferOffset))
    r.bufferOffset

def MessageElementReader.headerLength (r : MessageElementReader) : Nat :=
  RobotRaconteurLite.headerLength r.buffer
    (if r.messageVersion = 2 then elementFields2
      else elementFields4 (headerFlags r.buffer r.bufferOffset))
    r.bufferOffset

theorem headerEnd_append (v : BufferVec) (fields fields' : List HeaderField) (o : Nat) :
    headerEnd v fields' (headerEnd v fields o) = headerEnd v (fields ++ fields') o := by
  rw [headerEnd, headerEnd, headerEnd, List.foldl_append]

theorem addSz_addSz (a b c : Nat) : addSz (addSz a b) c = addSz a (b + c) := by
  rw [addSz, addSz, addSz, Nat.mod_add_mod, Nat.add_assoc]

theorem headerEnd_mod (v : BufferVec) (fields : List HeaderField) (o : Nat) :
    headerEnd v fields o % SizeT.modulus = (o + headerLength v fields o) % SizeT.modulus := by
  induction fields generalizing o with
  | nil => rfl
  | cons field fields ih =>
      have hrest := ih (addSz o (field.width v o))
      rw [addSz, Nat.mod_add_mod, Nat.add_assoc] at hrest
      exact hrest

/-- The offset a header ends at, less the offset it starts at. -/
theorem subSz_headerEnd (v : BufferVec) (fields : List HeaderField) (o : Nat) :
    subSz (headerEnd v fields o) o = headerLength v fields o % SizeT.modulus := by
  have hpos := modulus_pos
  have hlt := Nat.mod_lt o hpos
  rw [subSz, Nat.add_mod, headerEnd_mod, ← Nat.add_mod]
  have hsum : o + headerLength v fields o + (SizeT.modulus - o % SizeT.modulus) =
      headerLength v fields o + SizeT.modulus * (o / SizeT.modulus + 1) := by
    have := Nat.div_add_mod o SizeT.modulus
    rw [Nat.mul_add]
    omega
  rw [hsum, Nat.add_mul_mod_self_left]

/-! ## Fields -/

section

variable {v : BufferVec} {o : Nat}

theorem readIf_ends {α : Type} {present : Bool} {read : Cursor α} {a : α} {field : HeaderField}
    {Q : α → Prop} (h : Ends o read (headerEnd v [field] o) Q) :
    Ends o (readIf present read a) (headerEnd v (optional present field) o) fun _ => True := by
  cases present with
  | true => exact h.mono fun _ _ => trivial
  | false => exact Ends.pure trivial

theorem messageReadVal_ends {α : Type} (copy : BufferVec → Nat → Result α) (size : Nat) :
    Ends o (messageReadVal copy size v) (headerEnd v [.fixed size] o) fun a => copy v o = .ok a := by
  intro a p h
  simp only [messageReadVal, bind, bind_eq_ok, pure, Except.pure] at h
  obtain ⟨b, hb, heq⟩ := h
  injection heq with heq
  obtain ⟨rfl, rfl⟩ := Prod.mk.inj heq
  exact ⟨rfl, hb⟩

theorem messageSkip_ends (n : Nat) : Ends o (messageSkip n) (addSz o n) fun _ => True := by
  intro a p h
  injection h with h
  obtain ⟨-, rfl⟩ := Prod.mk.inj h
  exact ⟨rfl, trivial⟩

theorem messageSkip_fixed_ends (v : BufferVec) {n : Nat} :
    Ends o (messageSkip n) (headerEnd v [.fixed n] o) fun _ => True :=
  messageSkip_ends n

/-- An integer that was read lies in the buffer. -/
structure ReadsAt (v : BufferVec) (o size n : Nat) : Prop where
  offset : addSz o size = o + size
  inside : o + size ≤ v.bytes.length
  val : n = leNat (slice v.bytes o size)
  lt : n < 256 ^ size

theorem messageReadUInt_ends {α : Type} {copy : BufferVec → Nat → Result α} {g : Nat → α}
    {size : Nat} (h0 : 0 < size) (h16 : size ≤ 16)
    (hcopy : copy v o = (bufferVecCopyToUInt v o size).map g) :
    Ends o (messageReadVal copy size v) (headerEnd v [.fixed size] o) fun a =>
      ∃ n, a = g n ∧ ReadsAt v o size n := by
  refine (messageReadVal_ends copy size).mono fun a ha => ?_
  rw [hcopy, map_eq_ok] at ha
  obtain ⟨n, hn, rfl⟩ := ha
  rw [bufferVecCopyToUInt_eq v o h0 h16, map_eq_ok] at hn
  obtain ⟨bs, hbs, rfl⟩ := hn
  obtain ⟨-, hle, rfl⟩ := fetch_eq_ok hbs
  have hv := v.length_bytes
  have hlt := leNat_lt (slice v.bytes o size)
  rw [length_slice hle] at hlt
  exact ⟨_, rfl, addSz_eq (by omega), hle, rfl, hlt⟩

theorem ReadsAt.byte {n : Nat} (h : ReadsAt v o 1 n) : UInt8.ofNat n = byteAt v o := by
  have hlt : o < v.bytes.length := h.inside
  have hslice : slice v.bytes o 1 = [v.bytes[o]] := by
    rw [slice, List.drop_eq_getElem_cons hlt, List.take_succ_cons, List.take_zero]
  rw [h.val, hslice, byteAt, List.getD_eq_getElem?_getD, List.getElem?_eq_getElem hlt]
  simp [leNat]

theorem messageReadUint8_ends : Ends o (messageReadUint8 v) (headerEnd v [.fixed 1] o) fun a =>
    a = byteAt v o ∧ addSz o 1 = o + 1 := by
  refine (messageReadUInt_ends (by decide) (by decide) rfl).mono fun a ha => ?_
  obtain ⟨n, rfl, hn⟩ := ha
  exact ⟨hn.byte, hn.offset⟩

theorem messageReadUint16_ends : Ends o (messageReadUint16 v) (headerEnd v [.fixed 2] o) fun a =>
    a.toNat = leNat (slice v.bytes o 2) := by
  refine (messageReadUInt_ends (by decide) (by decide) rfl).mono fun a ha => ?_
  obtain ⟨n, rfl, hn⟩ := ha
  rw [← hn.val]
  exact UInt16.toNat_ofNat_of_lt' hn.lt

theorem messageReadUint32_ends : Ends o (messageReadUint32 v) (headerEnd v [.fixed 4] o) fun a =>
    a.toNat = leNat (slice v.bytes o 4) := by
  refine (messageReadUInt_ends (by decide) (by decide) rfl).mono fun a ha => ?_
  obtain ⟨n, rfl, hn⟩ := ha
  rw [← hn.val]
  exact UInt32.toNat_ofNat_of_lt' hn.lt

theorem headerEnd_uintX (width : Nat) (h : uintXWidth v o = 1 + width) :
    headerEnd v [.fixed width] (headerEnd v [.fixed 1] o) = headerEnd v [.uintX] o := by
  rw [headerEnd_append]
  simp only [headerEnd, List.singleton_append, List.foldl_cons, List.foldl_nil, HeaderField.width,
    addSz_addSz, h]

theorem messageReadUintX_ends : Ends o (messageReadUintX v) (headerEnd v [.uintX] o) fun a =>
    a.toNat = uintXValue v o := by
  refine messageReadUint8_ends.bind fun b hb => ?_
  obtain ⟨rfl, hoff⟩ := hb
  have hend : headerEnd v [.fixed 1] o = o + 1 := hoff
  by_cases h252 : byteAt v o ≤ 252
  · rw [if_pos h252]
    have hwidth : headerEnd v [.uintX] o = headerEnd v [.fixed 1] o := by
      simp [headerEnd, HeaderField.width, uintXWidth, h252]
    rw [hwidth]
    refine Ends.pure ?_
    rw [uintXValue, if_pos h252]
    rfl
  · rw [if_neg h252]
    by_cases h253 : byteAt v o = 253
    · rw [if_pos h253, ← headerEnd_uintX 2 (by rw [uintXWidth, if_neg h252, if_pos h253])]
      refine messageReadUint16_ends.bind fun val16 hval => Ends.pure ?_
      rw [uintXValue, if_neg h252, if_pos h253, ← hend]
      exact hval
    · rw [if_neg h253]
      by_cases h254 : byteAt v o = 254
      · rw [if_pos h254, ← headerEnd_uintX 4 (by rw [uintXWidth, if_neg h252, if_neg h253])]
        refine messageReadUint32_ends.mono fun val hval => ?_
        rw [uintXValue, if_neg h252, if_neg h253, ← hend]
        exact hval
      · rw [if_neg h254]
        exact Ends.throw _

/-- A signed integer is read as the unsigned one with the same bytes. -/
theorem messageReadSigned_ends {α β : Type} {size : Nat} {f : Nat → α} {g : α → β} (h0 : 0 < size)
    (h16 : size ≤ 16) :
    Ends o (messageReadVal (fun v o => g <$> f <$> bufferVecCopyToUInt v o size) size v)
      (headerEnd v [.fixed size] o) fun a => ∃ n, a = g (f n) ∧ ReadsAt v o size n := by
  refine messageReadUInt_ends (g := fun n => g (f n)) h0 h16 ?_
  cases bufferVecCopyToUInt v o size <;> rfl

theorem headerEnd_intX (width : Nat) (h : intXWidth v o = 1 + width) :
    headerEnd v [.fixed width] (headerEnd v [.fixed 1] o) = headerEnd v [.intX] o := by
  rw [headerEnd_append]
  simp only [headerEnd, List.singleton_append, List.foldl_cons, List.foldl_nil, HeaderField.width,
    addSz_addSz, h]

theorem messageReadIntX_ends :
    Ends o (messageReadIntX v) (headerEnd v [.intX] o) fun _ => True := by
  refine (messageReadSigned_ends (by decide) (by decide)).bind fun b hb => ?_
  obtain ⟨n, rfl, hn⟩ := hb
  rw [hn.byte]
  by_cases h124 : (byteAt v o).toInt8 ≤ 124
  · rw [if_pos h124]
    have hwidth : headerEnd v [.intX] o = headerEnd v [.fixed 1] o := by
      simp [headerEnd, HeaderField.width, intXWidth, h124]
    rw [hwidth]
    exact Ends.pure trivial
  · rw [if_neg h124]
    by_cases h125 : (byteAt v o).toInt8 = 125
    · rw [if_pos h125, ← headerEnd_intX 2 (by rw [intXWidth, if_neg h124, if_pos h125])]
      exact (messageReadSigned_ends (by decide) (by decide)).bind fun _ _ => Ends.pure trivial
    · rw [if_neg h125]
      by_cases h126 : (byteAt v o).toInt8 = 126
      · rw [if_pos h126, ← headerEnd_intX 4 (by rw [intXWidth, if_neg h124, if_neg h125])]
        exact (messageReadSigned_ends (by decide) (by decide)).mono fun _ _ => trivial
      · rw [if_neg h126]
        exact Ends.throw _

/-- A string is passed over behind its length. -/
theorem messageReadHeaderStringInfo_ends {readLen : Cursor Nat} (len : HeaderField) {n : Nat}
    (h : Ends o readLen (headerEnd v [len] o) (· = n)) :
    Ends o (messageReadHeaderStringInfo readLen) (addSz o (len.width v o + n)) fun _ => True := by
  refine h.bind fun strLen hlen => Ends.get.bind fun _ _ => ?_
  subst hlen
  rw [← addSz_addSz]
  exact (messageSkip_ends strLen).bind fun _ _ => Ends.pure trivial

theorem messageReadHeaderStringWithLenPrefix2_1_ends :
    Ends o (messageReadHeaderStringWithLenPrefix2_1 v) (headerEnd v [.string2] o) fun _ => True :=
  messageReadHeaderStringInfo_ends (.fixed 2) (messageReadUint16_ends.map fun _ ha => ha)

theorem messageReadHeaderStringWithLenPrefix4_1_ends :
    Ends o (messageReadHeaderStringWithLenPrefix4_1 v) (headerEnd v [.string4] o) fun _ => True :=
  messageReadHeaderStringInfo_ends .uintX (messageReadUintX_ends.map fun _ ha => ha)

theorem messageSkipBlock_ends :
    Ends o (messageSkipBlock v) (headerEnd v [.string4] o) fun _ => True := by
  refine messageReadUintX_ends.bind fun size hsize => ?_
  have hend : headerEnd v [.string4] o = addSz (headerEnd v [.uintX] o) size.toNat := by
    rw [hsize]
    exact (addSz_addSz o (uintXWidth v o) (uintXValue v o)).symm
  rw [hend]
  exact messageSkip_ends size.toNat

theorem messageReadHeaderStringWithLenPrefix_2_ends (info : ReadHeaderStringInfo) (str : StringBuf) :
    Ends o (messageReadHeaderStringWithLenPrefix_2 v info str) o fun _ => True := by
  intro a p h
  simp only [messageReadHeaderStringWithLenPrefix_2, bind, bind_eq_ok, pure, Except.pure] at h
  obtain ⟨b, -, heq⟩ := h
  injection heq with heq
  obtain ⟨-, rfl⟩ := Prod.mk.inj heq
  exact ⟨rfl, trivial⟩

theorem readIf_string_ends {present : Bool} (info : ReadHeaderStringInfo) (str : StringBuf) :
    Ends o (readIf present (messageReadHeaderStringWithLenPrefix_2 v info str) (.null 0)) o
      fun _ => True := by
  cases present with
  | true => exact messageReadHeaderStringWithLenPrefix_2_ends info str
  | false => exact Ends.pure trivial

end

/-! ## Headers -/

theorem messageEntryReaderReadHeader2Ex_headerSize {r : MessageEntryReader}
    {header : MessageEntryHeader} {p : MessageEntryHeader × MessageEntryBufferInfo}
    (h : messageEntryReaderReadHeader2Ex r header = .ok p) :
    p.2.headerSize = headerLength r.buffer entryFields2 r.bufferOffset % SizeT.modulus := by
  refine Ends.run' ?stop (fun p => p.2.headerSize = _) ?reads h
  case reads =>
    refine messageReadUint32_ends.bind fun _ _ => ?_
    refine messageReadUint16_ends.bind fun _ _ => ?_
    refine (messageSkip_fixed_ends r.buffer).bind fun _ _ => ?_
    refine messageReadHeaderStringWithLenPrefix2_1_ends.bind fun _ _ => ?_
    refine messageReadHeaderStringWithLenPrefix2_1_ends.bind fun _ _ => ?_
    refine messageReadUint32_ends.bind fun _ _ => ?_
    refine messageReadUint16_ends.bind fun _ _ => ?_
    refine messageReadHeaderStringWithLenPrefix2_1_ends.bind fun _ _ => Ends.get.bind fun _ _ => ?_
    refine messageReadUint16_ends.bind fun _ _ => ?_
    refine (messageReadHeaderStringWithLenPrefix_2_ends _ _).bind fun _ _ => ?_
    refine (messageReadHeaderStringWithLenPrefix_2_ends _ _).bind fun _ _ => ?_
    refine (messageReadHeaderStringWithLenPrefix_2_ends _ _).bind fun _ _ => Ends.get.bind fun o ho => ?_
    subst ho
    refine Ends.pure ?_
    rw [← subSz_headerEnd]
    simp only [headerEnd_append, List.cons_append, List.nil_append]
    rfl

theorem messageEntryReaderReadHeader4Ex_headerSize {r : MessageEntryReader}
    {header : MessageEntryHeader} {p : MessageEntryHeader × MessageEntryBufferInfo}
    (h : messageEntryReaderReadHeader4Ex r header = .ok p) :
    p.2.headerSize = headerLength r.buffer
      (entryFields4 (headerFlags r.buffer r.bufferOffset)) r.bufferOffset % SizeT.modulus := by
  refine Ends.run' ?stop (fun p => p.2.headerSize = _) ?reads h
  case reads =>
    refine messageReadUintX_ends.bind fun _ _ => messageReadUint8_ends.bind fun flags8 hflags => ?_
    obtain ⟨rfl, -⟩ := hflags
    refine messageReadUint16_ends.bind fun _ _ => ?_
    refine (readIf_ends messageReadHeaderStringWithLenPrefix4_1_ends).bind fun _ _ => ?_
    refine (readIf_ends messageReadUintX_ends).bind fun _ _ => ?_
    refine (readIf_ends messageReadHeaderStringWithLenPrefix4_1_ends).bind fun _ _ => ?_
    refine (readIf_ends messageReadUintX_ends).bind fun _ _ => ?_
    refine (readIf_ends messageReadUintX_ends).bind fun _ _ => ?_
    refine (readIf_ends messageReadUint16_ends).bind fun _ _ => ?_
    refine (readIf_ends messageReadHeaderStringWithLenPrefix4_1_ends).bind fun _ _ => ?_
    refine (readIf_ends messageSkipBlock_ends).bind fun _ _ => Ends.get.bind fun _ _ => ?_
    refine messageReadUintX_ends.bind fun _ _ => ?_
    refine (readIf_string_ends _ _).bind fun _ _ => (readIf_string_ends _ _).bind fun _ _ => ?_
    refine (readIf_string_ends _ _).bind fun _ _ => Ends.get.bind fun o ho => ?_
    subst ho
    refine Ends.pure ?_
    rw [← subSz_headerEnd, entryFields4]
    simp only [← headerEnd_append]
    rfl

theorem messageElementReaderReadHeader2Ex_headerSize {r : MessageElementReader}
    {header : MessageElementHeader} {p : MessageElementHeader × MessageElementBufferInfo}
    (h : messageElementReaderReadHeader2Ex r header = .ok p) :
    p.2.headerSize = headerLength r.buffer elementFields2 r.bufferOffset % SizeT.modulus := by
  refine Ends.run' ?stop (fun p => p.2.headerSize = _) ?reads h
  case reads =>
    refine messageReadUint32_ends.bind fun _ _ => ?_
    refine messageReadHeaderStringWithLenPrefix2_1_ends.bind fun _ _ => ?_
    refine messageReadUint16_ends.bind fun _ _ => ?_
    refine messageReadHeaderStringWithLenPrefix2_1_ends.bind fun _ _ => ?_
    refine messageReadHeaderStringWithLenPrefix2_1_ends.bind fun _ _ => Ends.get.bind fun _ _ => ?_
    refine messageReadUint32_ends.bind fun _ _ => ?_
    refine (messageReadHeaderStringWithLenPrefix_2_ends _ _).bind fun _ _ => ?_
    refine (messageReadHeaderStringWithLenPrefix_2_ends _ _).bind fun _ _ => ?_
    refine (messageReadHeaderStringWithLenPrefix_2_ends _ _).bind fun _ _ => Ends.get.bind fun o ho => ?_
    subst ho
    refine Ends.pure ?_
    rw [← subSz_headerEnd]
    simp only [headerEnd_append, List.cons_append, List.nil_append]
    rfl

theorem messageElementReaderReadHeader4Ex_headerSize {r : MessageElementReader}
    {header : MessageElementHeader} {p : MessageElementHeader × MessageElementBufferInfo}
    (h : messageElementReaderReadHeader4Ex r header = .ok p) :
    p.2.headerSize = headerLength r.buffer
      (elementFields4 (headerFlags r.buffer r.bufferOffset)) r.bufferOffset % SizeT.modulus := by
  refine Ends.run' ?stop (fun p => p.2.headerSize = _) ?reads h
  case reads =>
    refine messageReadUintX_ends.bind fun _ _ => messageReadUint8_ends.bind fun flags8 hflags => ?_
    obtain ⟨rfl, -⟩ := hflags
    refine (readIf_ends messageReadHeaderStringWithLenPrefix4_1_ends).bind fun _ _ => ?_
    refine (readIf_ends messageReadUintX_ends).bind fun _ _ => ?_
    refine (readIf_ends messageReadIntX_ends).bind fun _ _ => ?_
    refine messageReadUint16_ends.bind fun _ _ => ?_
    refine (readIf_ends messageReadHeaderStringWithLenPrefix4_1_ends).bind fun _ _ => ?_
    refine (readIf_ends messageReadUintX_ends).bind fun _ _ => ?_
    refine (readIf_ends messageReadHeaderStringWithLenPrefix4_1_ends).bind fun _ _ => ?_
    refine (readIf_ends messageSkipBlock_ends).bind fun _ _ => Ends.get.bind fun _ _ => ?_
    refine messageReadUintX_ends.bind fun _ _ => ?_
    refine (readIf_string_ends _ _).bind fun _ _ => (readIf_string_ends _ _).bind fun _ _ => ?_
    refine (readIf_string_ends _ _).bind fun _ _ => Ends.get.bind fun o ho => ?_
    subst ho
    refine Ends.pure ?_
    rw [← subSz_headerEnd, elementFields4]
    simp only [← headerEnd_append]
    rfl

theorem messageEntryReaderReadHeaderEx_headerSize {r : MessageEntryReader}
    {header : MessageEntryHeader} {p : MessageEntryHeader × MessageEntryBufferInfo}
    (h : messageEntryReaderReadHeaderEx r header = .ok p) :
    p.2.headerSize = r.headerLength % SizeT.modulus := by
  rw [messageEntryReaderReadHeaderEx] at h
  rw [MessageEntryReader.headerLength]
  split at h
  · next h2 =>
      rw [if_pos h2]
      exact messageEntryReaderReadHeader2Ex_headerSize h
  · next h2 =>
      rw [if_neg h2]
      split at h
      · exact messageEntryReaderReadHeader4Ex_headerSize h
      · cases h

theorem messageElementReaderReadHeaderEx_headerSize {r : MessageElementReader}
    {header : MessageElementHeader} {p : MessageElementHeader × MessageElementBufferInfo}
    (h : messageElementReaderReadHeaderEx r header = .ok p) :
    p.2.headerSize = r.headerLength % SizeT.modulus := by
  rw [messageElementReaderReadHeaderEx] at h
  rw [MessageElementReader.headerLength]
  split at h
  · next h2 =>
      rw [if_pos h2]
      exact messageElementReaderReadHeader2Ex_headerSize h
  · next h2 =>
      rw [if_neg h2]
      split at h
      · exact messageElementReaderReadHeader4Ex_headerSize h
      · cases h

/-- A header that was read fits its entry or element exactly when the size declared there is
no smaller than the length of the header. -/
theorem headerSize_le_bufferCount_iff :
    (∀ (r : MessageEntryReader) (header : MessageEntryHeader)
      (p : MessageEntryHeader × MessageEntryBufferInfo),
      messageEntryReaderReadHeaderEx r header = .ok p →
        (p.2.headerSize ≤ r.bufferCount ↔ r.headerLength % SizeT.modulus ≤ r.bufferCount)) ∧
    ∀ (r : MessageElementReader) (header : MessageElementHeader)
      (p : MessageElementHeader × MessageElementBufferInfo),
      messageElementReaderReadHeaderEx r header = .ok p →
        (p.2.headerSize ≤ r.bufferCount ↔ r.headerLength % SizeT.modulus ≤ r.bufferCount) := by
  constructor
  · intro r header p h
    rw [messageEntryReaderReadHeaderEx_headerSize h]
  · intro r header p h
    rw [messageElementReaderReadHeaderEx_headerSize h]

end

section

open Lp64

/-- The first element of an entry declares ten bytes, and its header has sixteen. -/
theorem shortElement_headerCrosses :
    ¬ ∀ (er : MessageEntryReader) (r : MessageElementReader) (header : MessageElementHeader)
      (p : MessageElementHeader × MessageElementBufferInfo),
      messageEntryReaderBeginReadElements er = .ok r →
        messageElementReaderReadHeaderEx r header = .ok p → p.2.headerSize ≤ r.bufferCount := by
  intro h
  have hopen : messageEntryReaderBeginReadElements ⟨shortElementEntry, 0, 42, 0, 0, 0, 2⟩ =
      .ok ⟨shortElementEntry, 22, 10, 10, 0, 1, 2⟩ := by decide +kernel
  have hsize : (messageElementReaderReadHeaderEx ⟨shortElementEntry, 22, 10, 10, 0, 1, 2⟩
      (MessageElementHeaderOf.zero (.null 0))).map (fun p => p.2.headerSize) = .ok 16 := by
    decide +kernel
  obtain ⟨p, hp, hsize⟩ := map_eq_ok.mp hsize
  have hle := h _ _ _ p hopen hp
  rw [hsize] at hle
  revert hle
  decide

/-- The header of the entry itself has twenty-two bytes, of the forty-two it declares. -/
theorem shortElementEntry_headerFits : ∃ p : MessageEntryHeader × MessageEntryBufferInfo,
    messageEntryReaderReadHeaderEx ⟨shortElementEntry, 0, 42, 0, 0, 0, 2⟩
      (MessageEntryHeaderOf.zero (.null 0)) = .ok p ∧ p.2.headerSize ≤ 42 := by
  have hsize : (messageEntryReaderReadHeaderEx ⟨shortElementEntry, 0, 42, 0, 0, 0, 2⟩
      (MessageEntryHeaderOf.zero (.null 0))).map (fun p => p.2.headerSize) = .ok 22 := by
    decide +kernel
  obtain ⟨p, hp, -⟩ := map_eq_ok.mp hsize
  have hlength : (⟨shortElementEntry, 0, 42, 0, 0, 0, 2⟩ : MessageEntryReader).headerLength = 22 := by
    decide +kernel
  refine ⟨p, hp, (headerSize_le_bufferCount_iff.1 ⟨shortElementEntry, 0, 42, 0, 0, 0, 2⟩ _ p hp).mpr ?_⟩
  rw [hlength]
  decide

end

end RobotRaconteurLite

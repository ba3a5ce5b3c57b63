import RobotRaconteurLite.Node.Messages
import RobotRaconteurLite.Proofs.SearchesAlike

/-!
# Capabilities

The capabilities of a peer are an array of words in an element. The element says
how many there are, and the loop over them believes it: nothing relates the
number to the bytes that the element has. So a number that is too large reads
what lies behind the element, up to the end of the buffer, and one that is wrong
in either direction is not ignored.

Whatever is read of the entry before, its headers and the name of the element, is
the same in every buffer that has the bytes of the entry, as long as the search
does not run off the end of the entry itself.
-/

namespace RobotRaconteurLite

open OffsetReader Splice LittleEndian

/-- What a parser answers wherever it starts. -/
theorem Moves.answers {ε α : Type} {c : Reader ε α} {Q : α → Prop}
    (hc : Moves (fun _ => True) c fun a _ => Q a) : Answers Q c :=
  fun o a o' h => (hc o a o' trivial h).2

/-! ## What a word adds -/

/-- A word that sets a flag. -/
def IsCapability (c : UInt32) : Prop :=
  (c &&& TRANSPORT_CAPABILITY_CODE_PAGE_MASK = TRANSPORT_CAPABILITY_CODE_MESSAGE2_BASIC_PAGE ∧
    c &&& TRANSPORT_CAPABILITY_CODE_MESSAGE2_BASIC_ENABLE ≠ 0) ∨
  (c &&& TRANSPORT_CAPABILITY_CODE_PAGE_MASK = TRANSPORT_CAPABILITY_CODE_MESSAGE4_BASIC_PAGE ∧
    c &&& TRANSPORT_CAPABILITY_CODE_MESSAGE4_BASIC_ENABLE ≠ 0)

instance (c : UInt32) : Decidable (IsCapability c) :=
  inferInstanceAs (Decidable (_ ∨ _))

/-- No flag is ever taken back. -/
theorem parseCapability_eq_zero_iff (c : UInt32) (flags : BitVec 32) :
    parseCapability c flags = 0 ↔ flags = 0 ∧ ¬ IsCapability c := by
  have h2 : ∀ x : BitVec 32, flagsSet x CONNECTION_PARSE_CAPABILITY_MESSAGE2 ≠ 0 := by
    intro x hx
    exact absurd (BitVec.or_eq_zero_iff.mp hx).2 (by decide)
  have h4 : ∀ x : BitVec 32, flagsSet x CONNECTION_PARSE_CAPABILITY_MESSAGE4 ≠ 0 := by
    intro x hx
    exact absurd (BitVec.or_eq_zero_iff.mp hx).2 (by decide)
  rw [parseCapability, IsCapability, not_or]
  split
  · next hset =>
      simp only [h4, false_iff]
      exact fun hclear => hclear.2.2 hset
  · next hclear4 =>
      split
      · next hset =>
          simp only [h2, false_iff]
          exact fun hclear => hclear.2.1 hset
      · next hclear2 => simp only [hclear2, hclear4, not_false_eq_true, and_true]

section

variable [SizeT]

theorem bufferVecCopyToUint32_eq (v : BufferVec) (pos : Nat) :
    bufferVecCopyToUint32 v pos = if pos + 4 ≤ v.bytes.length then
      .ok (utilReadUint32 v.bytes pos) else .error .outOfRange := by
  rw [bufferVecCopyToUint32, bufferVecCopyToUInt_eq v pos (by decide) (by decide), fetch]
  by_cases hin : pos + 4 ≤ v.bytes.length
  · rw [if_pos hin, if_pos ⟨by omega, hin⟩]
    rfl
  · rw [if_neg hin, if_neg fun h => hin h.2]
    rfl

/-! ## The loop -/

/-- Where the words lie that the loop looks at, from word `i` on with `n` more to go. -/
def examinedWords (buffer : BufferVec) (dataStartOffset : Nat) : Nat → Nat → List Nat
  | _, 0 => []
  | i, n + 1 =>
      match bufferVecCopyToUint32 buffer (addSz dataStartOffset (mulSz i 4)) with
      | .error _ => []
      | .ok _ => addSz dataStartOffset (mulSz i 4) :: examinedWords buffer dataStartOffset (i + 1) n

variable {v w : BufferVec} {start count : Nat}

theorem wordOffset_eq (hstart : start ≤ v.bytes.length) {i : Nat} (hi : i < 1024) :
    addSz start (mulSz i 4) = start + 4 * i := by
  have hv := v.length_bytes
  have hmod := SizeT.le_modulus
  rw [mulSz_eq (by omega), addSz_eq (by omega), Nat.mul_comm]

theorem examinedWords_succ (hstart : start ≤ v.bytes.length) {i n : Nat} (hi : i < 1024) :
    examinedWords v start i (n + 1) = if start + 4 * i + 4 ≤ v.bytes.length then
      (start + 4 * i) :: examinedWords v start (i + 1) n else [] := by
  rw [examinedWords, wordOffset_eq hstart hi, bufferVecCopyToUint32_eq]
  by_cases hin : start + 4 * i + 4 ≤ v.bytes.length
  · rw [if_pos hin, if_pos hin]
  · rw [if_neg hin, if_neg hin]

theorem parseCapabilitiesLoop_succ (hstart : start ≤ v.bytes.length) {i n : Nat} (hi : i < 1024)
    (flags : BitVec 32) :
    parseCapabilitiesLoop v start i (n + 1) flags = if start + 4 * i + 4 ≤ v.bytes.length then
      parseCapabilitiesLoop v start (i + 1) n
        (parseCapability (utilReadUint32 v.bytes (start + 4 * i)) flags) else flags := by
  rw [parseCapabilitiesLoop, wordOffset_eq hstart hi, bufferVecCopyToUint32_eq]
  by_cases hin : start + 4 * i + 4 ≤ v.bytes.length
  · rw [if_pos hin, if_pos hin]
  · rw [if_neg hin, if_neg hin]

/-- The loop looks at every word that is declared and that the buffer has. -/
theorem mem_examinedWords (hstart : start ≤ v.bytes.length) {pos i n : Nat} (hn : i + n ≤ 1024) :
    pos ∈ examinedWords v start i n ↔
      ∃ j, i ≤ j ∧ j < i + n ∧ pos = start + 4 * j ∧ start + 4 * j + 4 ≤ v.bytes.length := by
  induction n generalizing i with
  | zero =>
      constructor
      · intro h
        cases h
      · rintro ⟨j, hle, hlt, -, -⟩
        omega
  | succ n ih =>
      rw [examinedWords_succ hstart (by omega)]
      by_cases hin : start + 4 * i + 4 ≤ v.bytes.length
      · rw [if_pos hin, List.mem_cons, ih (by omega)]
        constructor
        · rintro (rfl | ⟨j, hle, hlt, hpos, hj⟩)
          · exact ⟨i, Nat.le_refl i, by omega, rfl, hin⟩
          · exact ⟨j, by omega, by omega, hpos, hj⟩
        · rintro ⟨j, hle, hlt, hpos, hj⟩
          rcases Nat.eq_or_lt_of_le hle with rfl | hlater
          · exact Or.inl hpos
          · exact Or.inr ⟨j, hlater, by omega, hpos, hj⟩
      · rw [if_neg hin]
        constructor
        · intro h
          cases h
        · rintro ⟨j, hle, -, -, hj⟩
          omega

/-- The loop finds nothing where no word that it looks at is a capability. -/
theorem parseCapabilitiesLoop_eq_zero_iff (hstart : start ≤ v.bytes.length) {i n : Nat}
    (hn : i + n ≤ 1024) (flags : BitVec 32) :
    parseCapabilitiesLoop v start i n flags = 0 ↔
      flags = 0 ∧ ∀ pos ∈ examinedWords v start i n,
        ¬ IsCapability (utilReadUint32 v.bytes pos) := by
  induction n generalizing i flags with
  | zero =>
      rw [parseCapabilitiesLoop, examinedWords]
      simp
  | succ n ih =>
      rw [parseCapabilitiesLoop_succ hstart (by omega), examinedWords_succ hstart (by omega)]
      by_cases hin : start + 4 * i + 4 ≤ v.bytes.length
      · rw [if_pos hin, if_pos hin, ih (by omega), parseCapability_eq_zero_iff, and_assoc]
        simp only [List.forall_mem_cons]
      · rw [if_neg hin, if_neg hin]
        simp

/-- The loop does the same on buffers that have the same words. -/
theorem parseCapabilitiesLoop_congr (hv : start ≤ v.bytes.length) (hw : start ≤ w.bytes.length)
    {i n : Nat} (hn : i + n ≤ 1024) (flags : BitVec 32)
    (hvin : start + 4 * (i + n) ≤ v.bytes.length) (hwin : start + 4 * (i + n) ≤ w.bytes.length)
    (hsame : ∀ j, i ≤ j → j < i + n → slice w.bytes (start + 4 * j) 4 =
      slice v.bytes (start + 4 * j) 4) :
    parseCapabilitiesLoop w start i n flags = parseCapabilitiesLoop v start i n flags := by
  induction n generalizing i flags with
  | zero => rfl
  | succ n ih =>
      rw [parseCapabilitiesLoop_succ hv (by omega), parseCapabilitiesLoop_succ hw (by omega),
        if_pos (by omega), if_pos (by omega), utilReadUint32, utilReadUint32,
        hsame i (Nat.le_refl i) (by omega)]
      exact ih (by omega) _ (by omega) (by omega) fun j hle hlt => hsame j (by omega) (by omega)

/-! ## Where the words start -/

theorem messageElementReaderReadHeader2Ex_dataStart_le {r : MessageElementReader}
    {header : MessageElementHeader} {p : MessageElementHeader × MessageElementBufferInfo}
    (h : messageElementReaderReadHeader2Ex r header = .ok p) :
    p.2.dataStartOffset ≤ r.buffer.bytes.length := by
  rw [messageElementReaderReadHeader2Ex] at h
  obtain ⟨o', h⟩ := run'_eq_ok.mp h
  refine (show Answers (fun p => p.2.dataStartOffset ≤ r.buffer.bytes.length) _ from ?_) _ _ _ h
  refine Answers.bind fun _ => Answers.bind fun _ => Answers.bind fun _ => ?_
  refine Answers.bind fun _ => Answers.bind fun _ => Answers.bind fun _ => Moves.answers ?_
  refine Moves.bind messageReadUint32_moves fun _ => ?_
  refine Moves.bind messageReadHeaderStringWithLenPrefix_2_moves fun _ => ?_
  refine Moves.bind messageReadHeaderStringWithLenPrefix_2_moves fun _ => ?_
  refine Moves.bind messageReadHeaderStringWithLenPrefix_2_moves fun _ => ?_
  refine Moves.bind Moves.get fun o => Moves.pure ?_
  rintro o' ⟨rfl, hin⟩
  exact hin

theorem messageElementReaderReadHeader4Ex_dataStart_le {r : MessageElementReader}
    {header : MessageElementHeader} {p : MessageElementHeader × MessageElementBufferInfo}
    (h : messageElementReaderReadHeader4Ex r header = .ok p) :
    p.2.dataStartOffset ≤ r.buffer.bytes.length := by
  have hout : ∀ {present : Bool} {info : ReadHeaderStringInfo} {str : StringBuf},
      Moves (InBuffer r.buffer) (readIf present
        (messageReadHeaderStringWithLenPrefix_2 r.buffer info str) (.null 0))
        fun _ => InBuffer r.buffer :=
    readIf_moves messageReadHeaderStringWithLenPrefix_2_moves fun _ h => h
  rw [messageElementReaderReadHeader4Ex] at h
  obtain ⟨o', h⟩ := run'_eq_ok.mp h
  refine (show Answers (fun p => p.2.dataStartOffset ≤ r.buffer.bytes.length) _ from ?_) _ _ _ h
  refine Answers.bind fun _ => Answers.bind fun _ => Answers.bind fun _ => ?_
  refine Answers.bind fun _ => Answers.bind fun _ => Answers.bind fun _ => ?_
  refine Answers.bind fun _ => Answers.bind fun _ => Answers.bind fun _ => ?_
  refine Answers.bind fun _ => Answers.bind fun _ => Moves.answers ?_
  refine Moves.bind messageReadUintX_moves fun _ => ?_
  refine Moves.bind hout fun _ => Moves.bind hout fun _ => Moves.bind hout fun _ => ?_
  refine Moves.bind Moves.get fun o => Moves.pure ?_
  rintro o' ⟨rfl, hin⟩
  exact hin

theorem messageElementReaderReadHeaderEx_dataStart_le {r : MessageElementReader}
    {header : MessageElementHeader} {p : MessageElementHeader × MessageElementBufferInfo}
    (h : messageElementReaderReadHeaderEx r header = .ok p) :
    p.2.dataStartOffset ≤ r.buffer.bytes.length := by
  rw [messageElementReaderReadHeaderEx] at h
  split at h
  · exact messageElementReaderReadHeader2Ex_dataStart_le h
  · split at h
    · exact messageElementReaderReadHeader4Ex_dataStart_le h
    · cases h

/-! ## The array of capabilities -/

/-- The words of the capabilities element: where they start and how many are declared. -/
structure CapabilityArray where
  element : MessageElementReader
  start : Nat
  count : Nat
  deriving DecidableEq

/-- What `parse_capabilities` finds. -/
def capabilityArray (entryReader : MessageEntryReader) : Result CapabilityArray := do
  let element ← messageEntryReaderFindElementVerifyArray entryReader (.constant CAPABILITIES)
    DATATYPE_UINT32 1024
  let (header, info) ←
    messageElementReaderReadHeaderEx element (MessageElementHeaderOf.zero (.null 0))
  pure ⟨element, info.dataStartOffset, header.dataCount.toNat⟩

namespace CapabilityArray

/-- Where the words lie that are examined. -/
def examined (a : CapabilityArray) : List Nat :=
  examinedWords a.element.buffer a.start 0 a.count

/-- A word of the element's own. -/
def InWindow (a : CapabilityArray) (pos : Nat) : Prop :=
  a.element.bufferOffset ≤ pos ∧ pos + 4 ≤ a.element.bufferOffset + a.element.bufferCount

/-- The declared words are the bytes of the element behind its header. -/
def FillsElement (a : CapabilityArray) : Prop :=
  a.element.bufferOffset ≤ a.start ∧
    a.start + 4 * a.count = a.element.bufferOffset + a.element.bufferCount

instance (a : CapabilityArray) (pos : Nat) : Decidable (a.InWindow pos) :=
  inferInstanceAs (Decidable (_ ∧ _))

instance (a : CapabilityArray) : Decidable a.FillsElement :=
  inferInstanceAs (Decidable (_ ∧ _))

end CapabilityArray

theorem nodeTransportParseCapabilities_eq (r : MessageEntryReader) :
    nodeTransportParseCapabilities r = match capabilityArray r with
      | .error _ => 0
      | .ok a => parseCapabilitiesLoop a.element.buffer a.start 0 a.count 0 := by
  rw [nodeTransportParseCapabilities, capabilityArray]
  cases messageEntryReaderFindElementVerifyArray r (.constant CAPABILITIES) DATATYPE_UINT32 1024 with
  | error e => rfl
  | ok element =>
      simp only [bind, Except.bind]
      cases messageElementReaderReadHeaderEx element (MessageElementHeaderOf.zero (.null 0)) with
      | error e => rfl
      | ok p => rfl

/-- The header is read three times, and is the same each time. -/
theorem capabilityArray_eq (r : MessageEntryReader) :
    capabilityArray r = (messageEntryReaderFindElement r (.constant CAPABILITIES)).bind
      fun element =>
        (messageElementReaderReadHeaderEx element (MessageElementHeaderOf.zero (.null 0))).bind
          fun p =>
            if p.1.elementType ≠ DATATYPE_UINT32 then .error .messageElementTypeMismatch
            else if p.1.dataCount > 1024 then .error .outOfRange
            else .ok ⟨element, p.2.dataStartOffset, p.1.dataCount.toNat⟩ := by
  rw [capabilityArray, messageEntryReaderFindElementVerifyArray]
  cases messageEntryReaderFindElement r (.constant CAPABILITIES) with
  | error e => rfl
  | ok element =>
      simp only [bind, Except.bind, messageElementReaderReadHeader, Functor.map, Except.map]
      cases hread : messageElementReaderReadHeaderEx element
          (MessageElementHeaderOf.zero (.null 0)) with
      | error e => rfl
      | ok p =>
          dsimp only
          by_cases htype : p.1.elementType ≠ DATATYPE_UINT32
          · rw [if_pos htype, failIf, if_pos htype]
            rfl
          · rw [if_neg htype, failIf, if_neg htype, failIf]
            by_cases hcount : p.1.dataCount > 1024
            · rw [if_pos hcount, if_pos hcount]
              rfl
            · rw [if_neg hcount, if_neg hcount]
              simp only [pure, Except.pure, hread]

theorem capabilityArray_bounds {r : MessageEntryReader} {a : CapabilityArray}
    (h : capabilityArray r = .ok a) :
    a.start ≤ a.element.buffer.bytes.length ∧ 0 + a.count ≤ 1024 := by
  simp only [capabilityArray_eq, bind_eq_ok] at h
  obtain ⟨element, -, p, hp, h⟩ := h
  split at h
  · cases h
  · split at h
    · cases h
    · next hcount =>
        injection h with h
        subst h
        refine ⟨messageElementReaderReadHeaderEx_dataStart_le hp, ?_⟩
        rw [Nat.zero_add]
        exact UInt32.not_lt.mp hcount

/-! ## Words of its own -/

/-- Every word that is examined is one of the element's own, and an element whose words are
not its bytes has no capability. -/
def CapabilitiesConfined (r : MessageEntryReader) : Prop :=
  ∀ a, capabilityArray r = .ok a →
    (∀ pos ∈ a.examined, a.InWindow pos) ∧
    (¬ a.FillsElement → nodeTransportParseCapabilities r = 0)

/-- The declared words are the element's bytes, or those that the buffer has are the element's
and no capabilities. -/
def CapabilitiesFit (r : MessageEntryReader) : Prop :=
  ∀ a, capabilityArray r = .ok a → a.FillsElement ∨
    ∀ i < a.count, a.start + 4 * i + 4 ≤ a.element.buffer.bytes.length →
      a.InWindow (a.start + 4 * i) ∧
        ¬ IsCapability (utilReadUint32 a.element.buffer.bytes (a.start + 4 * i))

theorem CapabilityArray.mem_examined {r : MessageEntryReader} {a : CapabilityArray}
    (h : capabilityArray r = .ok a) {pos : Nat} :
    pos ∈ a.examined ↔ ∃ i < a.count, pos = a.start + 4 * i ∧
      a.start + 4 * i + 4 ≤ a.element.buffer.bytes.length := by
  obtain ⟨hstart, hcount⟩ := capabilityArray_bounds h
  rw [examined, mem_examinedWords hstart hcount]
  simp

theorem capabilities_eq_zero_iff {r : MessageEntryReader} {a : CapabilityArray}
    (h : capabilityArray r = .ok a) :
    nodeTransportParseCapabilities r = 0 ↔ ∀ pos ∈ a.examined,
      ¬ IsCapability (utilReadUint32 a.element.buffer.bytes pos) := by
  obtain ⟨hstart, hcount⟩ := capabilityArray_bounds h
  simp only [nodeTransportParseCapabilities_eq, h]
  rw [parseCapabilitiesLoop_eq_zero_iff hstart hcount]
  simp only [true_and]
  rfl

theorem capabilitiesConfined_iff (r : MessageEntryReader) :
    CapabilitiesConfined r ↔ CapabilitiesFit r := by
  refine forall₂_congr fun a h => ?_
  rw [capabilities_eq_zero_iff h]
  simp only [CapabilityArray.mem_examined h]
  constructor
  · rintro ⟨hwindow, hnone⟩
    by_cases hfills : a.FillsElement
    · exact Or.inl hfills
    · refine Or.inr fun i hi hin => ?_
      exact ⟨hwindow _ ⟨i, hi, rfl, hin⟩, hnone hfills _ ⟨i, hi, rfl, hin⟩⟩
  · rintro (hfills | hwords)
    · refine ⟨?_, fun hnot => absurd hfills hnot⟩
      rintro _ ⟨i, hi, rfl, -⟩
      obtain ⟨hle, hend⟩ := hfills
      exact ⟨by omega, by omega⟩
    · constructor
      · rintro _ ⟨i, hi, rfl, hin⟩
        exact (hwords i hi hin).1
      · rintro - _ ⟨i, hi, rfl, hin⟩
        exact (hwords i hi hin).2

/-! ## The bytes of the entry alone -/

theorem slice_addressable (v : BufferVec) (pos n : Nat) :
    2 * [slice v.bytes pos n].flatten.length < SizeT.modulus := by
  have hlen := v.length_bytes
  rw [List.flatten_singleton, slice, List.length_take, List.length_drop]
  omega

/-- The entry in a buffer that has nothing else. -/
def MessageEntryReader.alone (r : MessageEntryReader) : MessageEntryReader :=
  { r with
    buffer := ⟨[slice r.buffer.bytes r.bufferOffset r.bufferCount], slice_addressable _ _ _⟩
    bufferOffset := 0 }

theorem MessageEntryReader.alone_bytes (r : MessageEntryReader) :
    r.alone.buffer.bytes = slice r.buffer.bytes r.bufferOffset r.bufferCount :=
  List.flatten_singleton

/-- The search for the capabilities stays inside the entry: run on the bytes of the entry alone
it does not come to their end, nor to an element that ends behind them. -/
def SearchInside (r : MessageEntryReader) : Prop :=
  match messageEntryReaderFindElement r.alone (.constant CAPABILITIES) with
  | .error e => e ≠ .outOfRange
  | .ok element => element.bufferOffset + element.bufferCount ≤ r.bufferCount

def CapabilityArray.moved (a : CapabilityArray) (τ : Nat → Nat) (w : BufferVec) :
    CapabilityArray :=
  ⟨a.element.moved τ w, τ a.start, a.count⟩

/-- The entry lies in the buffer. -/
def MessageEntryReader.InRange (r : MessageEntryReader) : Prop :=
  r.bufferOffset + r.bufferCount ≤ r.buffer.bytes.length

instance (r : MessageEntryReader) : Decidable r.InRange :=
  inferInstanceAs (Decidable (_ ≤ _))

theorem MessageEntryReader.alone_readsAlike {r : MessageEntryReader} (hin : r.InRange) :
    ReadsAlike outOfRangeOnly (addSz r.bufferOffset) r.alone.buffer r.buffer := by
  have hsplit : r.buffer.bytes = r.buffer.bytes.take r.bufferOffset ++ r.alone.buffer.bytes ++
      r.buffer.bytes.drop (r.bufferOffset + r.bufferCount) := by
    rw [r.alone_bytes, slice, List.append_assoc, ← List.drop_drop, List.take_append_drop,
      List.take_append_drop]
  have h := readsAlike_shifted hsplit
  rw [MessageEntryReader.InRange] at hin
  rwa [List.length_take, min_eq_left (by omega)] at h

theorem MessageEntryReader.alone_moved {r : MessageEntryReader} (hin : r.InRange) :
    r.alone.moved (addSz r.bufferOffset) r.buffer = r := by
  have hlen := r.buffer.length_bytes
  rw [MessageEntryReader.InRange] at hin
  have hoffset : addSz r.bufferOffset 0 = r.bufferOffset := addSz_eq (by omega)
  rw [MessageEntryReader.moved, MessageEntryReader.alone, hoffset]

/-- What is found in the entry alone is found in the buffer, in its place. -/
theorem capabilityArray_alone {r : MessageEntryReader} (hin : r.InRange) (hsearch : SearchInside r) :
    capabilityArray r =
      (capabilityArray r.alone).map (·.moved (addSz r.bufferOffset) r.buffer) := by
  have hname : (ConstString.constant CAPABILITIES).data ≠ [] :=
    show CAPABILITIES ≠ [] by decide
  have halike := r.alone_readsAlike hin
  have hfind := halike.findElement hname (r := r.alone) rfl
  rw [MessageEntryReader.alone_moved hin, OpensAlike] at hfind
  rw [SearchInside] at hsearch
  rw [capabilityArray_eq, capabilityArray_eq]
  cases hx : messageEntryReaderFindElement r.alone (.constant CAPABILITIES) with
  | error e =>
      rw [hx] at hfind hsearch
      rw [hfind.resolve_left hsearch]
      rfl
  | ok element =>
      rw [hx] at hfind
      cases hy : messageEntryReaderFindElement r (.constant CAPABILITIES) with
      | error e =>
          rw [hy] at hfind
          exact hfind.elim
      | ok element' =>
          rw [hy] at hfind
          obtain ⟨rfl, hbuffer⟩ := hfind
          obtain ⟨p, hp⟩ := messageEntryReaderFindElement_header hx
          have hread := halike.elementReadHeaderEx hbuffer
            (show (element.moved (addSz r.bufferOffset) r.buffer).buffer = r.buffer from rfl) rfl rfl
            (MessageElementHeaderOf.zero (.null 0))
          rw [hp] at hread
          dsimp only [Except.bind]
          cases hq : messageElementReaderReadHeaderEx
              (element.moved (addSz r.bufferOffset) r.buffer)
              (MessageElementHeaderOf.zero (.null 0)) with
          | error e =>
              rw [hq] at hread
              exact hread.elim
          | ok q =>
              rw [hq] at hread
              obtain ⟨hheader, hinfo⟩ := hread
              rw [hp]
              dsimp only
              rw [hheader, hinfo.dataStartOffset_eq]
              split
              · rfl
              · split <;> rfl

theorem alone_onBuffer {r : MessageEntryReader} {w : BufferVec}
    (hsame : slice w.bytes r.bufferOffset r.bufferCount =
      slice r.buffer.bytes r.bufferOffset r.bufferCount) : (r.onBuffer w).alone = r.alone := by
  simp only [MessageEntryReader.alone, MessageEntryReader.onBuffer, hsame]

/-- The element that is found ends inside the entry. -/
theorem SearchInside.element_le {r : MessageEntryReader} {a : CapabilityArray}
    (hsearch : SearchInside r) (ha : capabilityArray r.alone = .ok a) :
    a.element.bufferOffset + a.element.bufferCount ≤ r.bufferCount := by
  simp only [capabilityArray_eq, bind_eq_ok] at ha
  obtain ⟨element, hfind, p, -, ha⟩ := ha
  rw [SearchInside, hfind] at hsearch
  split at ha
  · cases ha
  · split at ha
    · cases ha
    · injection ha with ha
      subst ha
      exact hsearch

/-- Of an entry whose capabilities fit, nothing but its own bytes matters. -/
theorem capabilities_onBuffer {r : MessageEntryReader} {w : BufferVec} (hr : r.InRange)
    (hw : (r.onBuffer w).InRange)
    (hsame : slice w.bytes r.bufferOffset r.bufferCount =
      slice r.buffer.bytes r.bufferOffset r.bufferCount) (hsearch : SearchInside r)
    (hfit : CapabilitiesFit r) (hfit' : CapabilitiesFit (r.onBuffer w)) :
    nodeTransportParseCapabilities (r.onBuffer w) = nodeTransportParseCapabilities r := by
  have halone := alone_onBuffer hsame
  have hsearch' : SearchInside (r.onBuffer w) := by
    rw [SearchInside, halone]
    exact hsearch
  have harray := capabilityArray_alone hr hsearch
  have harray' := capabilityArray_alone hw hsearch'
  rw [halone] at harray'
  cases ha : capabilityArray r.alone with
  | error e =>
      rw [ha] at harray harray'
      rw [nodeTransportParseCapabilities_eq, nodeTransportParseCapabilities_eq, harray, harray']
      rfl
  | ok a =>
      rw [ha] at harray harray'
      by_cases hfills : (a.moved (addSz r.bufferOffset) r.buffer).FillsElement
      · -- The words are bytes of the entry, which are the same.
        have hend := hsearch.element_le ha
        obtain ⟨hstart, hcount⟩ := capabilityArray_bounds harray
        obtain ⟨hstart', -⟩ := capabilityArray_bounds harray'
        have hlen := r.buffer.length_bytes
        rw [MessageEntryReader.InRange] at hr hw
        have hoffset : addSz r.bufferOffset a.element.bufferOffset =
            r.bufferOffset + a.element.bufferOffset := addSz_eq (by omega)
        obtain ⟨hle, hfill⟩ := hfills
        dsimp only [CapabilityArray.moved, MessageElementReader.moved] at hle hfill hstart hstart' hcount
        dsimp only [MessageEntryReader.onBuffer] at hw hstart'
        rw [hoffset] at hle hfill
        rw [nodeTransportParseCapabilities_eq, nodeTransportParseCapabilities_eq, harray, harray']
        refine parseCapabilitiesLoop_congr hstart hstart' hcount 0 ?_ ?_ fun j _ hj => ?_
        · omega
        · omega
        · have h := congrArg (fun bytes =>
            slice bytes (addSz r.bufferOffset a.start + 4 * j - r.bufferOffset) 4) hsame
          rw [slice_slice (by omega), slice_slice (by omega), Nat.add_sub_cancel' (by omega)] at h
          exact h
      · rw [((capabilitiesConfined_iff r).mpr hfit _ harray).2 hfills,
          ((capabilitiesConfined_iff _).mpr hfit' _ harray').2 hfills]

/-- What the capabilities of one entry are in two buffers that have it. -/
structure CapabilitiesOfEntry (r : MessageEntryReader) (w : BufferVec) : Prop where
  confined : CapabilitiesConfined r
  confined' : CapabilitiesConfined (r.onBuffer w)
  same : nodeTransportParseCapabilities (r.onBuffer w) = nodeTransportParseCapabilities r

/-- The loop keeps to the element exactly where the declared words are its bytes, or none of
the words it comes to is a capability or lies outside. Two buffers that agree on an entry
agree on what it can do exactly then, as long as the search for the element stays in the
entry. -/
theorem capabilitiesOfEntry_iff :
    (∀ r : MessageEntryReader, CapabilitiesConfined r ↔ CapabilitiesFit r) ∧
    ∀ (r : MessageEntryReader) (w : BufferVec), r.InRange → (r.onBuffer w).InRange →
      slice w.bytes r.bufferOffset r.bufferCount =
        slice r.buffer.bytes r.bufferOffset r.bufferCount →
      SearchInside r →
      (CapabilitiesOfEntry r w ↔ CapabilitiesFit r ∧ CapabilitiesFit (r.onBuffer w)) := by
  refine ⟨capabilitiesConfined_iff, ?_⟩
  intro r w hr hw hsame hsearch
  constructor
  · intro h
    exact ⟨(capabilitiesConfined_iff r).mp h.confined, (capabilitiesConfined_iff _).mp h.confined'⟩
  · rintro ⟨hfit, hfit'⟩
    exact ⟨(capabilitiesConfined_iff r).mpr hfit, (capabilitiesConfined_iff _).mpr hfit',
      capabilities_onBuffer hr hw hsame hsearch hfit hfit'⟩

end

section

open Lp64

/-- A version 2 entry of one element, `capabilities`, that declares one word. Behind its header
the element has `data`, and behind the entry lies `next`. -/
def capabilitiesBuffer (entrySize elementSize : UInt8) (data next : List UInt8) :
    List UInt8 :=
  [entrySize, 0, 0, 0, 0, 0, 0, 0, 0, 0, 0, 0, 0, 0, 0, 0, 0, 0, 0, 0, 1, 0,
    elementSize, 0, 0, 0, 12, 0] ++ CAPABILITIES ++ [8, 0, 0, 0, 0, 0, 1, 0, 0, 0] ++ data ++ next

/-- The element has no byte for its word, and a capability lies behind the entry. -/
def noWordBuffer : BufferVec := ⟨[capabilitiesBuffer 50 28 [] [1, 0, 0, 4]], by decide⟩

/-- The same entry, before a word that is none. -/
def noWordBuffer' : BufferVec := ⟨[capabilitiesBuffer 50 28 [] [0, 0, 0, 0]], by decide⟩

/-- The word that is examined is not the element's, an element that has no words has a
capability, and the flags are not the same for the same entry. -/
theorem noWord_outside :
    (⟨noWordBuffer, 0, 50, 0, 0, 0, 2⟩ : MessageEntryReader).InRange ∧
    (⟨noWordBuffer', 0, 50, 0, 0, 0, 2⟩ : MessageEntryReader).InRange ∧
    slice noWordBuffer'.bytes 0 50 = slice noWordBuffer.bytes 0 50 ∧
    (∃ a, capabilityArray ⟨noWordBuffer, 0, 50, 0, 0, 0, 2⟩ = .ok a ∧
      (∃ pos ∈ a.examined, ¬ a.InWindow pos) ∧ ¬ a.FillsElement) ∧
    nodeTransportParseCapabilities ⟨noWordBuffer, 0, 50, 0, 0, 0, 2⟩ =
      CONNECTION_PARSE_CAPABILITY_MESSAGE4 ∧
    nodeTransportParseCapabilities ⟨noWordBuffer', 0, 50, 0, 0, 0, 2⟩ = 0 := by
  refine ⟨by decide +kernel, by decide +kernel, by decide +kernel, ?_, by decide +kernel,
    by decide +kernel⟩
  refine ⟨⟨⟨noWordBuffer, 22, 28, 0, 0, 1, 2⟩, 50, 1⟩, by decide +kernel, ⟨50, ?_, ?_⟩, ?_⟩
  · decide +kernel
  · decide
  · decide

/-- With four bytes for its word the element keeps to itself, whatever lies behind the entry. -/
def oneWordBuffer : BufferVec := ⟨[capabilitiesBuffer 54 32 [1, 0, 0, 4] []], by decide⟩

def oneWordBuffer' : BufferVec := ⟨[capabilitiesBuffer 54 32 [1, 0, 0, 4] [1, 0, 0, 2]], by decide⟩

theorem oneWord_ofEntry :
    CapabilitiesOfEntry ⟨oneWordBuffer, 0, 54, 0, 0, 0, 2⟩ oneWordBuffer' := by
  have harray : ∀ v, capabilityArray ⟨v, 0, 54, 0, 0, 0, 2⟩ =
      .ok ⟨⟨v, 22, 32, 0, 0, 1, 2⟩, 50, 1⟩ → CapabilitiesFit ⟨v, 0, 54, 0, 0, 0, 2⟩ := by
    intro v hv a ha
    rw [hv] at ha
    injection ha with ha
    subst ha
    exact Or.inl ⟨show 22 ≤ 50 by decide, rfl⟩
  have hsearch : SearchInside ⟨oneWordBuffer, 0, 54, 0, 0, 0, 2⟩ := by
    have hfind : messageEntryReaderFindElement
        (MessageEntryReader.alone ⟨oneWordBuffer, 0, 54, 0, 0, 0, 2⟩) (.constant CAPABILITIES) =
        .ok ⟨oneWordBuffer, 22, 32, 0, 0, 1, 2⟩ := by decide +kernel
    rw [SearchInside, hfind]
    decide
  refine (capabilitiesOfEntry_iff.2 ⟨oneWordBuffer, 0, 54, 0, 0, 0, 2⟩ oneWordBuffer'
    (by decide +kernel) (by decide +kernel) (by decide +kernel) hsearch).mpr ⟨?_, ?_⟩
  · exact harray oneWordBuffer (by decide +kernel)
  · exact harray oneWordBuffer' (by decide +kernel)

end

end RobotRaconteurLite

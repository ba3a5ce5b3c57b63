import RobotRaconteurLite.Proofs.TreeReads

/-!
# Looking for an element finds the first one

Every element of an entry that was written tells a reader how long its name is and
where it lies, and its size is the way to the next one. So the loop looks at the
elements in their order, each under its own name, until one has the name it looks
for, and the sixteen bytes it compares at a time add up to the whole name.
-/

namespace RobotRaconteurLite

open OffsetReader OffsetWriter LittleEndian Splice

section

variable [SizeT]

/-! ## Names -/

def ElementTree.name : ElementTree → ConstString
  | .data elementName _ _ => elementName
  | .nested header _ => header.elementName

theorem ElementTree.header_name (element : ElementTree) :
    element.header.elementName = element.name := by
  cases element <;> rfl

theorem bufferVecCopyToString_zero {v : BufferVec} (hone : v.segments.length = 1) (pos : Nat)
    {dest : List UInt8} (hdest : 2 * dest.length < SizeT.modulus) :
    bufferVecCopyToString v pos dest 0 0 = .ok dest := by
  have heq := bufferVecCopyToMem_zero v pos (CArray.ofBytes dest hdest)
  rw [if_pos (Or.inl hone)] at heq
  exact heq

/-- A name without bytes is nowhere in the buffer. -/
theorem elementNameMatches_eq {v : BufferVec} (hone : v.segments.length = 1) {fuel offset : Nat}
    {data name : List UInt8} (hlen : data.length = name.length)
    (hat : 0 < data.length → At v.bytes offset data) (hfuel : name.length < fuel) :
    elementNameMatches v fuel offset name = .ok (decide (data = name)) := by
  induction fuel generalizing offset data name with
  | zero => omega
  | succ fuel ih =>
      have hmod := SizeT.le_modulus
      have hroom : 2 * (List.replicate 16 (0 : UInt8)).length < SizeT.modulus := by
        rw [List.length_replicate]
        omega
      rw [elementNameMatches]
      rcases Nat.eq_zero_or_pos name.length with h0 | hpos
      · have hname : name = [] := List.eq_nil_of_length_eq_zero h0
        have hdata : data = [] := List.eq_nil_of_length_eq_zero (hlen.trans h0)
        subst hname hdata
        simp only [List.length_nil, Nat.zero_min, bufferVecCopyToString_zero hone offset hroom]
        rfl
      · have hat := hat (by omega)
        have hsmall := v.length_bytes
        have hend := hat.2
        obtain ⟨n, hn⟩ : ∃ n, n = min name.length 16 := ⟨_, rfl⟩
        have hsplit : data.take n ++ data.drop n = data := List.take_append_drop n data
        have hchunk : (data.take n).length = n := by
          rw [List.length_take]
          omega
        rw [← hsplit, at_append, hchunk] at hat
        have hcopy : bufferVecCopyToString v offset (List.replicate 16 0) 0 n =
            .ok (overwrite (List.replicate 16 0) 0 (data.take n)) := by
          have hfetch := fetch_of_at (by omega) hat.1
          rw [hchunk] at hfetch
          rw [bufferVecCopyToString_eq v offset hroom (by omega)
            (by rw [List.length_replicate]; omega), hfetch]
          rfl
        have hread : (overwrite (List.replicate 16 0) 0 (data.take n)).take n = data.take n := by
          rw [overwrite, List.take_zero, List.nil_append, List.take_append_of_le_length (by omega),
            List.take_of_length_le (by omega)]
        rw [← hn, hcopy]
        simp only [bind, Except.bind, hread]
        by_cases hsame : data.take n = name.take n
        · rw [if_neg (not_not.mpr hsame)]
          by_cases hle : name.length ≤ 16
          · rw [if_pos hle]
            have hall : data = name := by
              rwa [List.take_of_length_le (by omega), List.take_of_length_le (by omega)] at hsame
            simp [hall, pure, Except.pure]
          · have hrest : (data.drop n).length = (name.drop n).length := by simp [hlen]
            rw [if_neg hle, addSz_eq (by omega), ih hrest (fun _ => hat.2) (by simp; omega)]
            congr 1
            rw [decide_eq_decide]
            constructor
            · intro hrest
              rw [← hsplit, hsame, hrest, List.take_append_drop]
            · intro hall
              rw [hall]
        · rw [if_pos hsame]
          have hdiffer : data ≠ name := fun hall => hsame (by rw [hall])
          simp [hdiffer, pure, Except.pure]

/-! ## Searches -/

section

variable {buffer : BufferVec} {messageVersion : UInt16} {start : Nat}
  {before after : List ElementTree} {element : ElementTree} {target : ConstString}

theorem LieAt.elementHasName_eq (h : LieAt buffer messageVersion start (before ++ element :: after)) :
    elementHasName target (readerAt buffer messageVersion start before element after) =
      .ok (decide (element.name.data = target.data)) := by
  obtain ⟨p, hread, hseen⟩ := h.header_seen (MessageElementHeaderOf.accepts_null _)
  have hnameLen := hseen.nameLen_eq
  have hnameAt := hseen.name_at
  rw [element.header_name] at hnameLen hnameAt
  rw [elementHasName, hread]
  simp only [bind, Except.bind, hnameLen]
  by_cases hlen : element.name.len = target.len
  · rw [if_pos hlen]
    exact elementNameMatches_eq h.one hlen hnameAt (Nat.lt_succ_self _)
  · rw [if_neg hlen]
    have hdiffer : element.name.data ≠ target.data := fun hsame => hlen (congrArg List.length hsame)
    simp [hdiffer, pure, Except.pure]

/-- What a search comes to, from the element it is at: the first one from there on that has
the name, or none. -/
theorem LieAt.findElementLoop_cases {fuel : Nat}
    (h : LieAt buffer messageVersion start (before ++ element :: after))
    (hfuel : after.length < fuel) (hpassed : ∀ other ∈ before, other.name.data ≠ target.data) :
    (∃ before' found after', before ++ element :: after = before' ++ found :: after' ∧
      (∀ other ∈ before', other.name.data ≠ target.data) ∧ found.name.data = target.data ∧
      findElementLoop target fuel (readerAt buffer messageVersion start before element after) =
        .ok (readerAt buffer messageVersion start before' found after')) ∨
    ((∀ other ∈ before ++ element :: after, other.name.data ≠ target.data) ∧
      findElementLoop target fuel (readerAt buffer messageVersion start before element after) =
        .error .messageElementNotFound) := by
  induction after generalizing before element fuel with
  | nil =>
      obtain ⟨fuel, rfl⟩ := Nat.exists_eq_succ_of_ne_zero (Nat.ne_zero_of_lt hfuel)
      rw [findElementLoop_succ, h.elementHasName_eq]
      by_cases hname : element.name.data = target.data
      · rw [decide_eq_true hname]
        exact Or.inl ⟨before, element, [], rfl, hpassed, hname, rfl⟩
      · rw [decide_eq_false hname]
        refine Or.inr ⟨?_, by rw [moveNext_readerAt_last h]⟩
        intro other hother
        rcases List.mem_append.mp hother with hmem | hmem
        · exact hpassed other hmem
        · rw [List.mem_singleton.mp hmem]
          exact hname
  | cons next after ih =>
      obtain ⟨fuel, rfl⟩ := Nat.exists_eq_succ_of_ne_zero (Nat.ne_zero_of_lt hfuel)
      rw [findElementLoop_succ, h.elementHasName_eq]
      by_cases hname : element.name.data = target.data
      · rw [decide_eq_true hname]
        exact Or.inl ⟨before, element, next :: after, rfl, hpassed, hname, rfl⟩
      · rw [decide_eq_false hname]
        simp only [h.moveNext]
        have hsplit : before ++ element :: next :: after = (before ++ [element]) ++ next :: after := by
          simp
        rw [hsplit] at h ⊢
        refine ih h (Nat.lt_of_succ_lt_succ hfuel) ?_
        intro other hother
        rcases List.mem_append.mp hother with hmem | hmem
        · exact hpassed other hmem
        · rw [List.mem_singleton.mp hmem]
          exact hname

end

/-- What a search among elements that start at `start` comes to. -/
structure FindsFirst (found : Result MessageElementReader) (buffer : BufferVec)
    (messageVersion : UInt16) (start : Nat) (elements : List ElementTree) (target : ConstString) :
    Prop where
  succeeds_iff : (∃ r, found = .ok r) ↔ ∃ element ∈ elements, element.name.data = target.data
  at_first : ∀ r, found = .ok r → ∃ before element after, elements = before ++ element :: after ∧
    (∀ other ∈ before, other.name.data ≠ target.data) ∧ element.name.data = target.data ∧
    r = readerAt buffer messageVersion start before element after
  not_found : ∀ e, found = .error e → e = .messageElementNotFound

theorem FindsFirst.nil {buffer : BufferVec} {messageVersion : UInt16} {start : Nat}
    {target : ConstString} :
    FindsFirst (.error .messageElementNotFound) buffer messageVersion start [] target where
  succeeds_iff := by simp
  at_first := fun _ h => by cases h
  not_found := fun _ h => by cases h; rfl

theorem FindsFirst.error_of_none {found : Result MessageElementReader} {buffer : BufferVec}
    {messageVersion : UInt16} {start : Nat} {elements : List ElementTree} {target : ConstString}
    (h : FindsFirst found buffer messageVersion start elements target)
    (hnone : ∀ element ∈ elements, element.name.data ≠ target.data) :
    found = .error .messageElementNotFound := by
  cases hfound : found with
  | error e => rw [h.not_found e hfound]
  | ok r =>
      obtain ⟨element, hmem, hname⟩ := h.succeeds_iff.mp ⟨r, hfound⟩
      exact absurd hname (hnone element hmem)

theorem first_split_unique {target : ConstString} {element element' : ElementTree}
    {before after before' after' : List ElementTree}
    (hsplit : before ++ element :: after = before' ++ element' :: after')
    (hpassed : ∀ other ∈ before, other.name.data ≠ target.data)
    (hpassed' : ∀ other ∈ before', other.name.data ≠ target.data)
    (hname : element.name.data = target.data) (hname' : element'.name.data = target.data) :
    before = before' ∧ element = element' ∧ after = after' := by
  induction before generalizing before' with
  | nil =>
      cases before' with
      | nil => exact ⟨rfl, List.cons.inj hsplit⟩
      | cons other before' =>
          obtain ⟨rfl, -⟩ := List.cons.inj hsplit
          exact absurd hname (hpassed' element List.mem_cons_self)
  | cons other before ih =>
      cases before' with
      | nil =>
          obtain ⟨rfl, -⟩ := List.cons.inj hsplit
          exact absurd hname' (hpassed other List.mem_cons_self)
      | cons other' before' =>
          obtain ⟨rfl, htail⟩ := List.cons.inj hsplit
          obtain ⟨rfl, hrest⟩ := ih htail (fun o ho => hpassed o (List.mem_cons_of_mem _ ho))
            fun o ho => hpassed' o (List.mem_cons_of_mem _ ho)
          exact ⟨rfl, hrest⟩

theorem FindsFirst.ok_of_first {found : Result MessageElementReader} {buffer : BufferVec}
    {messageVersion : UInt16} {start : Nat} {before after : List ElementTree} {element : ElementTree}
    {target : ConstString}
    (h : FindsFirst found buffer messageVersion start (before ++ element :: after) target)
    (hpassed : ∀ other ∈ before, other.name.data ≠ target.data)
    (hname : element.name.data = target.data) :
    found = .ok (readerAt buffer messageVersion start before element after) := by
  obtain ⟨r, hfound⟩ := h.succeeds_iff.mpr ⟨element, by simp, hname⟩
  obtain ⟨before', element', after', hsplit, hpassed', hname', rfl⟩ := h.at_first r hfound
  obtain ⟨rfl, rfl, rfl⟩ := first_split_unique hsplit hpassed hpassed' hname hname'
  exact hfound

theorem LieAt.findsFirst {buffer : BufferVec} {messageVersion : UInt16} {start : Nat}
    {element : ElementTree} {elements : List ElementTree} {target : ConstString}
    (h : LieAt buffer messageVersion start (element :: elements)) :
    FindsFirst
      (findElementLoop target (readerAt buffer messageVersion start [] element elements).totalElements
        (readerAt buffer messageVersion start [] element elements))
      buffer messageVersion start (element :: elements) target := by
  have hpassed : ∀ other ∈ ([] : List ElementTree), other.name.data ≠ target.data :=
    fun _ hother => absurd hother List.not_mem_nil
  rcases LieAt.findElementLoop_cases h (Nat.lt_succ_self _) hpassed with
    ⟨before, first, after, hsplit, hpassed, hname, hfound⟩ | ⟨hnone, hfound⟩
  · rw [List.nil_append] at hsplit
    have hmem : first ∈ element :: elements := by simp [hsplit]
    refine ⟨iff_of_true ⟨_, hfound⟩ ⟨first, hmem, hname⟩, fun r hr => ?_, fun e he => ?_⟩
    · cases hfound.symm.trans hr
      exact ⟨before, first, after, hsplit, hpassed, hname, rfl⟩
    · cases hfound.symm.trans he
  · refine ⟨iff_of_false ?_ ?_, fun r hr => ?_, fun e he => ?_⟩
    · rintro ⟨r, hr⟩
      cases hfound.symm.trans hr
    · rintro ⟨other, hother, hname⟩
      exact hnone other hother hname
    · cases hfound.symm.trans hr
    · cases hfound.symm.trans he
      rfl

/-- The reader is at an entry, all of it in its window. -/
structure MessageEntryReader.AtEntry (reader : MessageEntryReader) (buffer : BufferVec)
    (messageVersion : UInt16) (offset : Nat) (entry : EntryTree) : Prop where
  buffer_eq : reader.buffer = buffer
  version_eq : reader.messageVersion = messageVersion
  offset_eq : reader.bufferOffset = offset
  count_eq : reader.bufferCount = (entryBytes messageVersion entry).length

structure MessageElementReader.AtElement (reader : MessageElementReader) (buffer : BufferVec)
    (messageVersion : UInt16) (offset : Nat) (element : ElementTree) : Prop where
  buffer_eq : reader.buffer = buffer
  version_eq : reader.messageVersion = messageVersion
  offset_eq : reader.bufferOffset = offset
  count_eq : reader.bufferCount = (elementBytes messageVersion element).length

/-- An entry lies in the reader's window, all of it, in one piece of memory. -/
structure MessageEntryReader.Holds (reader : MessageEntryReader) (messageVersion : UInt16)
    (entry : EntryTree) : Prop where
  written : entry.Written messageVersion
  legible : messageVersion = 2 → entry.Legible
  one : reader.buffer.segments.length = 1
  version_eq : reader.messageVersion = messageVersion
  count_eq : reader.bufferCount = (entryBytes messageVersion entry).length
  there : At reader.buffer.bytes reader.bufferOffset (entryBytes messageVersion entry)

namespace MessageEntryReader.Holds

variable {reader : MessageEntryReader} {messageVersion : UInt16} {entry : EntryTree}

theorem findsFirst (h : reader.Holds messageVersion entry) (target : ConstString) :
    FindsFirst (messageEntryReaderFindElement reader target) reader.buffer messageVersion
      (reader.bufferOffset + (messageEntryHeaderBytes messageVersion entry.header 0 0).length)
      entry.elements target := by
  rw [messageEntryReaderFindElement]
  rcases beginReadElements_readerAt h.written h.legible reader h.one h.version_eq h.count_eq h.there
    rfl with ⟨hnil, hbegin⟩ | ⟨element, elements, hlist, hlie, hbegin⟩
  · rw [hbegin, hnil]
    exact FindsFirst.nil
  · rw [hbegin, hlist]
    exact hlie.findsFirst

/-- Its elements lie behind its header. -/
theorem lieAt (h : reader.Holds messageVersion entry) (hsome : entry.elements ≠ []) :
    LieAt reader.buffer messageVersion
      (reader.bufferOffset + (messageEntryHeaderBytes messageVersion entry.header 0 0).length)
      entry.elements := by
  rcases beginReadElements_readerAt h.written h.legible reader h.one h.version_eq h.count_eq h.there
    rfl with ⟨hnil, -⟩ | ⟨element, elements, hlist, hlie, -⟩
  · exact absurd hnil hsome
  · rwa [hlist]

end MessageEntryReader.Holds

/-- In an entry, or a composite element, that was written to one piece of memory and that in
version 2 states the lengths of its strings and the number of its elements, a search succeeds
if and only if an element has the name, and then answers the first such element. -/
theorem findElement_findsFirst (unset : MessageElementWriter) (target : ConstString) :
    (∀ (entryWriter w : MessageEntryWriter) (entry : EntryTree) (v v' : BufferVec)
      (reader : MessageEntryReader),
      writeEntry unset entryWriter entry v = (.ok w, v') → v'.segments.length = 1 →
      (entryWriter.messageVersion = 2 → entry.Narrow) →
      reader.AtEntry v' entryWriter.messageVersion entryWriter.bufferOffset entry →
      FindsFirst (messageEntryReaderFindElement reader target) v' entryWriter.messageVersion
        (entryWriter.bufferOffset +
          (messageEntryHeaderBytes entryWriter.messageVersion entry.header 0 0).length)
        entry.elements target) ∧
    ∀ (elementWriter w : MessageElementWriter) (header : MessageElementConstHeader)
      (children : List ElementTree) (v v' : BufferVec) (reader : MessageElementReader),
      writeElement unset elementWriter (.nested header children) v = (.ok w, v') →
      v'.segments.length = 1 → header.elementType ∈ nestedElementTypes →
      (elementWriter.messageVersion = 2 → (ElementTree.nested header children).NarrowStrings) →
      reader.AtElement v' elementWriter.messageVersion elementWriter.bufferOffset
        (.nested header children) →
      FindsFirst (messageElementReaderFindNestedElement reader target) v'
        elementWriter.messageVersion
        (elementWriter.bufferOffset +
          (messageElementHeaderBytes elementWriter.messageVersion header 0 0).length)
        children target := by
  constructor
  · intro entryWriter w entry v v' reader hwrite hone hnarrow hreader
    obtain ⟨rfl, hversion, hoffset, hcount⟩ := hreader
    have hput := writeEntry_puts unset entryWriter entry
    obtain ⟨hwritten, -⟩ := answer_of_putsAt hput hwrite
    have hlong := messageEntryHeaderBytes_length hwritten.known entry.header 0 0
    have hat := at_of_putsAt hput hwrite (by rw [entryBytes_length hwritten.known]; omega)
    rw [← hoffset] at hat ⊢
    have hholds : reader.Holds entryWriter.messageVersion entry :=
      ⟨hwritten, fun h => (hnarrow h).legible, hone, hversion, hcount, hat⟩
    exact hholds.findsFirst target
  · intro elementWriter w header children v v' reader hwrite hone hcomposite hnarrow hreader
    obtain ⟨rfl, hversion, hoffset, hcount⟩ := hreader
    have hput := writeElement_puts unset elementWriter (.nested header children)
    obtain ⟨hver, hwritten, -⟩ := answer_of_putsAt hput hwrite
    have hlong := messageElementHeaderBytes_length hver header 0 0
    have hat := at_of_putsAt hput hwrite
      (by rw [elementBytes_nested_length hver]; omega)
    rw [← hoffset] at hat ⊢
    rw [messageElementReaderFindNestedElement]
    rcases beginReadNestedElements_readerAt hver hwritten hnarrow hcomposite reader hone hversion
      hcount hat rfl with ⟨rfl, hbegin⟩ | ⟨element, elements, rfl, hlie, hbegin⟩
    · rw [hbegin]
      exact FindsFirst.nil
    · rw [hbegin]
      exact hlie.findsFirst

end

section

open Lp64

/-- An element without a name, and two with the same one. -/
def sameNames : List ElementTree :=
  [.data (.constant []) 4 (.constant [7]), .data (.constant [0x64, 0x65]) 4 (.constant [8]),
    .data (.constant [0x64, 0x65]) 4 (.constant [9])]

def sameNamesEntry : EntryTree := ⟨MessageEntryHeaderOf.zero (.constant []), sameNames⟩

def listHeader : MessageElementConstHeader :=
  { MessageElementHeaderOf.zero (.constant []) with elementType := DATATYPE_LIST }

def sameNamesEntryBuffer : BufferVec :=
  (writeEntry ⟨0, 0, 0, 0, 0, 0, 0, 0⟩ ⟨10, 90, 0, 0, 0, 0, 0, 4⟩ sameNamesEntry hundredBytes).2

def sameNamesListBuffer : BufferVec :=
  (writeElement ⟨0, 0, 0, 0, 0, 0, 0, 0⟩ ⟨10, 90, 0, 0, 0, 0, 0, 2⟩ (.nested listHeader sameNames)
    hundredBytes).2

theorem sameNames_findsFirst :
    FindsFirst (messageEntryReaderFindElement ⟨sameNamesEntryBuffer, 10, 37, 0, 0, 0, 4⟩
        (.constant [0x64, 0x65])) sameNamesEntryBuffer 4 23 sameNames (.constant [0x64, 0x65]) ∧
      FindsFirst (messageElementReaderFindNestedElement ⟨sameNamesListBuffer, 10, 71, 0, 0, 0, 2⟩
        (.constant [0x64, 0x65])) sameNamesListBuffer 2 26 sameNames (.constant [0x64, 0x65]) := by
  have hentry : writeEntry ⟨0, 0, 0, 0, 0, 0, 0, 0⟩ ⟨10, 90, 0, 0, 0, 0, 0, 4⟩ sameNamesEntry
      hundredBytes = (.ok ⟨47, 53, 1, 37, 11, 19, 13, 4⟩, sameNamesEntryBuffer) :=
    Prod.ext (by decide +kernel) (by rw [sameNamesEntryBuffer])
  have hlist : writeElement ⟨0, 0, 0, 0, 0, 0, 0, 0⟩ ⟨10, 90, 0, 0, 0, 0, 0, 2⟩
      (.nested listHeader sameNames) hundredBytes =
      (.ok ⟨81, 19, 1, 71, 10, 22, 16, 2⟩, sameNamesListBuffer) :=
    Prod.ext (by decide +kernel) (by rw [sameNamesListBuffer])
  have hstrings : listHeader.StringsWithin UINT16_MAX :=
    ⟨Nat.zero_le _, Nat.zero_le _, Nat.zero_le _⟩
  have hentryHeader : (messageEntryHeaderBytes 4 sameNamesEntry.header 0 0).length = 13 := by
    decide +kernel
  have hlistHeader : (messageElementHeaderBytes 2 listHeader 0 0).length = 16 := by decide +kernel
  have hentryAt : (⟨sameNamesEntryBuffer, 10, 37, 0, 0, 0, 4⟩ : MessageEntryReader).AtEntry
      sameNamesEntryBuffer 4 10 sameNamesEntry :=
    ⟨by dsimp only, rfl, rfl, by decide +kernel⟩
  have hlistAt : (⟨sameNamesListBuffer, 10, 71, 0, 0, 0, 2⟩ : MessageElementReader).AtElement
      sameNamesListBuffer 2 10 (.nested listHeader sameNames) :=
    ⟨by dsimp only, rfl, rfl, by decide +kernel⟩
  constructor
  · have hfound := (findElement_findsFirst ⟨0, 0, 0, 0, 0, 0, 0, 0⟩ (.constant [0x64, 0x65])).1
      _ _ _ _ _ _ hentry (by decide +kernel) (fun h => absurd h (by decide)) hentryAt
    rw [hentryHeader] at hfound
    exact hfound
  · have hfound := (findElement_findsFirst ⟨0, 0, 0, 0, 0, 0, 0, 0⟩ (.constant [0x64, 0x65])).2
      _ _ _ _ _ _ _ hlist (by decide +kernel) (by decide)
      (fun _ => ⟨hstrings, trivial, trivial, trivial, trivial⟩) hlistAt
    rw [hlistHeader] at hfound
    exact hfound

/-- Of the two elements with this name it is the first that is found. -/
example : (messageEntryReaderFindElement ⟨sameNamesEntryBuffer, 10, 37, 0, 0, 0, 4⟩
    (.constant [0x64, 0x65])).map (fun r => (r.bufferOffset, r.currentElement)) = .ok (29, 1) := by
  decide +kernel

end

end RobotRaconteurLite

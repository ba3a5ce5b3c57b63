import RobotRaconteurLite.Node.Handshake
import RobotRaconteurLite.Proofs.Narrowing
import RobotRaconteurLite.Proofs.RoomToSend
import RobotRaconteurLite.Proofs.StringLists

/-!
# The type of an object, asked for and verified

The reply to `OBJECTTYPENAME` has the type of the object and then, where the
object implements types, a list with one element for each of them. The client
looks for the same two names and walks the list, so it compares the types that
the object was given, in their order.
-/

namespace RobotRaconteurLite

open OffsetReader OffsetWriter LittleEndian Splice

/-- A segment of a list is no longer than the list. -/
theorem length_le_of_mem_listSegmentsLoop {segment rest piece : List UInt8}
    (h : piece ∈ listSegmentsLoop segment rest) : piece.length ≤ segment.length + rest.length := by
  induction rest generalizing segment with
  | nil =>
      rw [listSegmentsLoop] at h
      split at h
      · rw [List.mem_singleton.mp h]
        exact Nat.le_refl _
      · cases h
  | cons b rest ih =>
      rw [List.length_cons]
      rw [listSegmentsLoop] at h
      split at h
      · split at h
        · rcases List.mem_cons.mp h with rfl | hmem
          · exact Nat.le_add_right _ _
          · have hrest := ih hmem
            rw [List.length_nil] at hrest
            omega
        · have hrest := ih h
          rw [List.length_nil] at hrest
          omega
      · have hrest := ih h
        rw [List.length_append, List.length_singleton] at hrest
        omega

section

variable [SizeT]

/-! ## The strings of a request -/

/-- What is read into storage of `n` bytes, or left out, has no more than those. -/
def StringBuf.Short (n : Nat) (str : StringBuf) : Prop := str.shallowCopy.len ≤ n

theorem messageReadHeaderString_short {buffer : BufferVec} {offset strLen n : Nat}
    {str str' : StringBuf} (hstr : str.Short n)
    (h : messageReadHeaderString buffer offset strLen str = .ok str') : str'.Short n := by
  cases str with
  | null len =>
      rw [messageReadHeaderString] at h
      split at h
      · cases h
        exact Nat.zero_le _
      · split at h
        · cases h
          exact Nat.zero_le _
        · cases h
  | storage bytes haddr =>
      rw [messageReadHeaderString] at h
      split at h
      · cases h
        exact Nat.zero_le _
      · split at h
        · cases h
        · simp only [bind, bind_eq_ok] at h
          obtain ⟨copied, -, h⟩ := h
          split at h
          · next hle =>
              cases h
              exact Nat.le_trans hle hstr
          · cases h

theorem readString_short {buffer : BufferVec} {strInfo : ReadHeaderStringInfo} {n : Nat}
    {str : StringBuf} (hstr : str.Short n) :
    Answers (StringBuf.Short n) (messageReadHeaderStringWithLenPrefix_2 buffer strInfo str) := by
  intro o str' o' h
  simp only [messageReadHeaderStringWithLenPrefix_2, bind, bind_eq_ok] at h
  obtain ⟨copied, hread, h⟩ := h
  cases h
  exact messageReadHeaderString_short hstr hread

theorem readIf_short {present : Bool} {read : Cursor StringBuf} {n : Nat}
    (h : Answers (StringBuf.Short n) read) :
    Answers (StringBuf.Short n) (readIf present read (.null 0)) := by
  cases present with
  | true => exact h
  | false => exact Answers.pure (Nat.zero_le _)

/-- The header of an entry, read into storage of `n` bytes for each string. -/
theorem messageEntryReaderReadHeaderEx_short {entryReader : MessageEntryReader}
    {header : MessageEntryHeader} {p : MessageEntryHeader × MessageEntryBufferInfo} {n : Nat}
    (hpath : header.servicePath.Short n) (hmember : header.memberName.Short n)
    (hmeta : header.metadata.Short n)
    (h : messageEntryReaderReadHeaderEx entryReader header = .ok p) :
    (p.1.map StringBuf.shallowCopy).StringsWithin n := by
  obtain ⟨Q, hQ⟩ : ∃ Q : MessageEntryHeader × MessageEntryBufferInfo → Prop,
    Q = fun p => (p.1.map StringBuf.shallowCopy).StringsWithin n := ⟨_, rfl⟩
  suffices hq : Q p by rwa [hQ] at hq
  -- What is read in front of the strings is no matter.
  unfold messageEntryReaderReadHeaderEx at h
  split at h
  · obtain ⟨o', h⟩ := run'_eq_ok.mp h
    refine (?_ : Answers Q _) _ _ _ h
    iterate 10 refine Answers.bind fun _ => ?_
    refine Answers.bind_of (readString_short hpath) fun _ hpath => ?_
    refine Answers.bind_of (readString_short hmember) fun _ hmember => ?_
    refine Answers.bind_of (readString_short hmeta) fun _ hmeta => ?_
    refine Answers.bind fun _ => Answers.pure ?_
    rw [hQ]
    exact ⟨hpath, hmember, hmeta⟩
  · split at h
    · obtain ⟨o', h⟩ := run'_eq_ok.mp h
      refine (?_ : Answers Q _) _ _ _ h
      iterate 13 refine Answers.bind fun _ => ?_
      refine Answers.bind_of (readIf_short (readString_short hpath)) fun _ hpath => ?_
      refine Answers.bind_of (readIf_short (readString_short hmember)) fun _ hmember => ?_
      refine Answers.bind_of (readIf_short (readString_short hmeta)) fun _ hmeta => ?_
      refine Answers.bind fun _ => Answers.pure ?_
      rw [hQ]
      exact ⟨hpath, hmember, hmeta⟩
    · cases h

/-- So the strings of every request are within the storage the node has for them. -/
theorem nodeReceiveMessageentry_within (c : Connection) :
    (nodeReceiveMessageentry c).1.receivedMessageEntryHeader.StringsWithin MESSAGE_STR_MAX_SIZE := by
  have hzero : ReceivedMessage.zero.receivedMessageEntryHeader.StringsWithin MESSAGE_STR_MAX_SIZE :=
    ⟨Nat.zero_le _, Nat.zero_le _, Nat.zero_le _⟩
  have hstorage : (StringBuf.cleared MESSAGE_STR_MAX_SIZE).Short MESSAGE_STR_MAX_SIZE := by
    rw [StringBuf.Short]
    exact List.length_take_le 128 _
  unfold nodeReceiveMessageentry
  split
  · exact hzero
  · split
    · exact hzero
    · dsimp only
      split
      · exact hzero
      · split
        · exact hzero
        · next hheader =>
            rw [messageEntryReaderReadHeader] at hheader
            obtain ⟨p, hp, rfl⟩ := map_eq_ok.mp hheader
            exact messageEntryReaderReadHeaderEx_short hstorage hstorage hstorage hp

/-! ## Strings in elements -/

/-- The element holds this string. -/
def ElementTree.HoldsString (element : ElementTree) (value : List UInt8) : Prop :=
  ∃ elementName data, element = .data elementName DATATYPE_STRING data ∧ data.elemSize = 1 ∧
    data.data = value

theorem stringElement_holdsString (elementName : List UInt8) (value : ConstString) :
    (stringElement elementName value).HoldsString value.data :=
  ⟨_, _, rfl, rfl, rfl⟩

section

variable {buffer : BufferVec} {messageVersion : UInt16} {start : Nat}
  {before after : List ElementTree} {element : ElementTree} {value : List UInt8}

theorem readDataString_of_lieAt
    (h : LieAt buffer messageVersion start (before ++ element :: after))
    (hholds : element.HoldsString value) {len : Nat} (hroom : 2 * len < SizeT.modulus)
    (hshort : value.length ≤ len) :
    messageElementReaderReadDataString (readerAt buffer messageVersion start before element after)
      len = .ok value := by
  obtain ⟨elementName, data, rfl, hsize, rfl⟩ := hholds
  have hmem : ElementTree.data elementName DATATYPE_STRING data ∈
    before ++ .data elementName DATATYPE_STRING data :: after := by simp
  have hwritten := elementsWritten_iff.mp h.written _ hmem
  have hat := h.there
  rw [elementsBytes_append, elementsBytes, at_append, at_append] at hat
  have hlength := data.length_data
  rw [hsize, Nat.mul_one] at hlength
  obtain ⟨dest, hdest⟩ : ∃ dest : CArray, dest.data = List.replicate len 0 ∧ dest.len = len ∧
      dest.elemSize = 1 :=
    ⟨CArray.ofBytes (List.replicate len 0) (by rwa [List.length_replicate]), rfl,
      List.length_replicate, rfl⟩
  obtain ⟨hbytes, hlen, hone⟩ := hdest
  have hread : messageElementReaderReadDataEx (readerAt buffer messageVersion start before
      (.data elementName DATATYPE_STRING data) after) dest.data dest.len DATATYPE_STRING
        dest.elemSize = .ok (overwrite dest.data 0 data.data, data.len) :=
    readDataEx_of_at h.known hwritten h.one rfl hat.2.1 (hone.trans hsize.symm) (by omega)
  rw [hbytes, hlen, hone] at hread
  rw [messageElementReaderReadDataString, hread]
  simp only [bind, Except.bind, pure, Except.pure]
  rw [overwrite, List.take_zero, List.nil_append, ← hlength, List.take_append_of_le_length
    (Nat.le_refl _), List.take_length]

/-- The loop compares what is left of the list, from the element it is at. -/
theorem verifyImplementedTypes_eq {expectedType : ConstString} {values : List (List UInt8)}
    {fuel : Nat} (h : LieAt buffer messageVersion start (before ++ element :: after))
    (hfuel : after.length < fuel) (hholds : element.HoldsString value)
    (hrest : List.Forall₂ ElementTree.HoldsString after values)
    (hshort : ∀ other ∈ value :: values, other.length ≤ MESSAGE_STR_MAX_SIZE) :
    verifyImplementedTypes expectedType fuel
        (readerAt buffer messageVersion start before element after) =
      .ok (decide (∃ other ∈ value :: values, other ∈ listSegments expectedType.data)) := by
  induction fuel generalizing before element after value values with
  | zero => omega
  | succ fuel ih =>
      have hmod := SizeT.le_modulus
      have hread := readDataString_of_lieAt h hholds
        (show 2 * MESSAGE_STR_MAX_SIZE < SizeT.modulus by rw [MESSAGE_STR_MAX_SIZE]; omega)
        (hshort value List.mem_cons_self)
      rw [verifyImplementedTypes, hread]
      simp only [bind, Except.bind, utilMatchStringInList_iff]
      by_cases hmatch : value ∈ listSegments expectedType.data
      · simp [hmatch, pure, Except.pure]
      · rw [if_neg hmatch]
        cases hrest with
        | nil =>
            rw [moveNext_readerAt_last h]
            simp [hmatch]
        | @cons next value' rest values' hnext hrest =>
            have hlie : LieAt buffer messageVersion start ((before ++ [element]) ++ next :: rest) := by
              rwa [List.append_assoc]
            rw [h.moveNext]
            dsimp only
            rw [ih hlie (Nat.lt_of_succ_lt_succ hfuel) hnext hrest fun other hother =>
              hshort other (List.mem_cons_of_mem _ hother)]
            simp [hmatch]

end

/-! ## The reply -/

/-- The list of the implemented types. Its elements are numbered. -/
def implementedElements (implemented : ConstString) : List ElementTree :=
  (listSegments implemented.data).mapIdx fun listI o =>
    stringElement ((Nat.toDigits 10 listI).map fun digit => digit.toNat.toUInt8) (implemented.part o)

/-- Every segment becomes an element of the list. -/
theorem implementedElements_holdStrings (implemented : ConstString) :
    List.Forall₂ ElementTree.HoldsString (implementedElements implemented)
      (listSegments implemented.data) := by
  rw [List.forall₂_iff_get]
  constructor
  · rw [implementedElements, List.length_mapIdx]
  · intro i hi hi'
    have hshort := length_le_of_mem_listSegmentsLoop (List.getElem_mem hi')
    rw [List.length_nil, Nat.zero_add] at hshort
    have hpart : (implemented.part (listSegments implemented.data)[i]).data =
      (listSegments implemented.data)[i] := List.take_of_length_le hshort
    have hholds := stringElement_holdsString
      ((Nat.toDigits 10 i).map fun digit => digit.toNat.toUInt8)
      (implemented.part (listSegments implemented.data)[i])
    rw [hpart] at hholds
    simpa [implementedElements] using hholds

/-- The header of that list. -/
def implementsHeader : MessageElementConstHeader :=
  { MessageElementHeaderOf.zero (.constant []) with
    elementName := .constant OBJECTIMPLEMENTS, elementType := DATATYPE_LIST }

/-- The elements behind the type of the object. -/
def implementsElements (implemented : ConstString) : List ElementTree :=
  if implemented.len > 0 then [.nested implementsHeader (implementedElements implemented)] else []

theorem objectTypeElements_eq (serviceObject : ServiceObjectRecord) :
    objectTypeElements serviceObject =
      stringElement OBJECTTYPE serviceObject.qualifiedType ::
        implementsElements serviceObject.implementedQualifiedTypes := rfl

/-- Whether an object of these types is among the expected ones. -/
def IsExpected (expectedType : ConstString) (serviceObject : ServiceObjectRecord) : Prop :=
  ∃ segment ∈ listSegments expectedType.data, segment = serviceObject.qualifiedType.data ∨
    segment ∈ listSegments serviceObject.implementedQualifiedTypes.data

instance (expectedType : ConstString) (serviceObject : ServiceObjectRecord) :
    Decidable (IsExpected expectedType serviceObject) :=
  inferInstanceAs (Decidable (∃ segment ∈ listSegments expectedType.data,
    segment = serviceObject.qualifiedType.data ∨
      segment ∈ listSegments serviceObject.implementedQualifiedTypes.data))

section

variable {reader : MessageEntryReader} {messageVersion : UInt16} {entry : EntryTree}
  {serviceObject : ServiceObjectRecord} {rest : List ElementTree}

/-- The client's first look: the type of the object itself. -/
theorem findObjecttype_ok (h : reader.Holds messageVersion entry)
    (helements : entry.elements = stringElement OBJECTTYPE serviceObject.qualifiedType :: rest)
    (hshort : serviceObject.qualifiedType.len ≤ MESSAGE_STR_MAX_SIZE) :
    ∃ elementReader, messageEntryReaderFindElementVerifyString reader (.constant OBJECTTYPE)
        (UInt32.ofNat MESSAGE_STR_MAX_SIZE) = .ok elementReader ∧
      messageElementReaderReadDataString elementReader MESSAGE_STR_MAX_SIZE =
        .ok serviceObject.qualifiedType.data := by
  have hmod := SizeT.le_modulus
  have hsearch := h.findsFirst (.constant OBJECTTYPE)
  have hlie := h.lieAt (by rw [helements]; exact List.cons_ne_nil _ _)
  rw [helements] at hsearch hlie
  obtain ⟨start, hstart⟩ : ∃ start, start = reader.bufferOffset +
    (messageEntryHeaderBytes messageVersion entry.header 0 0).length := ⟨_, rfl⟩
  rw [← hstart] at hsearch hlie
  have hfound : messageEntryReaderFindElement reader (.constant OBJECTTYPE) =
      .ok (readerAt reader.buffer messageVersion start []
        (stringElement OBJECTTYPE serviceObject.qualifiedType) rest) :=
    FindsFirst.ok_of_first hsearch (fun _ h => absurd h List.not_mem_nil) rfl
  rw [← List.nil_append (stringElement _ _ :: rest)] at hlie
  obtain ⟨p, hread, hseen⟩ := hlie.header_seen (MessageElementHeaderOf.accepts_null _)
  have htype : p.1.elementType = DATATYPE_STRING := hseen.type_eq
  have hcount : p.1.dataCount.toNat = serviceObject.qualifiedType.len := hseen.count_eq
  have hbound : ¬ p.1.dataCount > UInt32.ofNat MESSAGE_STR_MAX_SIZE := by
    rw [gt_iff_lt, UInt32.lt_iff_toNat_lt, hcount]
    exact Nat.not_lt.mpr hshort
  refine ⟨_, ?_, readDataString_of_lieAt hlie (stringElement_holdsString _ _)
    (by rw [MESSAGE_STR_MAX_SIZE]; omega) hshort⟩
  rw [messageEntryReaderFindElementVerifyString, messageEntryReaderFindElementVerifyArray, hfound]
  simp only [bind, Except.bind, messageElementReaderReadHeader, Functor.map, Except.map, hread, failIf,
    htype, ne_eq, not_true_eq_false, if_false, if_neg hbound, pure, Except.pure]

omit [SizeT] in
theorem objecttype_ne_objectimplements : OBJECTTYPE.take 128 ≠ OBJECTIMPLEMENTS.take 128 := by decide

/-- The client's second look, where the object implements nothing. -/
theorem findImplemented_none (h : reader.Holds messageVersion entry)
    (helements : entry.elements = [stringElement OBJECTTYPE serviceObject.qualifiedType]) :
    messageEntryReaderFindElement reader (.constant OBJECTIMPLEMENTS) =
      .error .messageElementNotFound := by
  refine (h.findsFirst _).error_of_none fun element hmem hname => ?_
  rw [helements, List.mem_singleton] at hmem
  subst hmem
  exact objecttype_ne_objectimplements hname

/-- The client's second look, at the list of the implemented types. -/
theorem findImplemented_list (h : reader.Holds messageVersion entry) {implemented : ConstString}
    (helements : entry.elements = [stringElement OBJECTTYPE serviceObject.qualifiedType,
      .nested implementsHeader (implementedElements implemented)])
    (hshort : ∀ segment ∈ listSegments implemented.data, segment.length ≤ MESSAGE_STR_MAX_SIZE)
    (expectedType : ConstString) :
    ∃ elementReader,
      messageEntryReaderFindElement reader (.constant OBJECTIMPLEMENTS) = .ok elementReader ∧
      ((listSegments implemented.data = [] ∧
          messageElementReaderBeginReadNestedElements elementReader = .error .noMore) ∨
        ∃ nestedElementReader,
          messageElementReaderBeginReadNestedElements elementReader = .ok nestedElementReader ∧
          verifyImplementedTypes expectedType nestedElementReader.totalElements
              nestedElementReader =
            .ok (decide (∃ other ∈ listSegments implemented.data,
              other ∈ listSegments expectedType.data))) := by
  have hsearch := h.findsFirst (.constant OBJECTIMPLEMENTS)
  have hlie := h.lieAt (by rw [helements]; exact List.cons_ne_nil _ _)
  obtain ⟨start, hstart⟩ : ∃ start, start = reader.bufferOffset +
    (messageEntryHeaderBytes messageVersion entry.header 0 0).length := ⟨_, rfl⟩
  obtain ⟨before, hbefore⟩ : ∃ before, before =
    [stringElement OBJECTTYPE serviceObject.qualifiedType] := ⟨_, rfl⟩
  have hsplit : entry.elements =
      before ++ .nested implementsHeader (implementedElements implemented) :: [] := by
    rw [helements, hbefore]
    rfl
  rw [← hstart, hsplit] at hsearch hlie
  have hpassed : ∀ other ∈ before, other.name.data ≠ (ConstString.constant OBJECTIMPLEMENTS).data := by
    intro other hmem
    rw [hbefore, List.mem_singleton] at hmem
    subst hmem
    exact objecttype_ne_objectimplements
  have hmem : ElementTree.nested implementsHeader (implementedElements implemented) ∈
      before ++ .nested implementsHeader (implementedElements implemented) :: [] := by simp
  have hat := hlie.there
  rw [elementsBytes_append, elementsBytes, at_append, at_append] at hat
  have hcomposite : implementsHeader.elementType ∈ nestedElementTypes :=
    show DATATYPE_LIST ∈ nestedElementTypes by decide
  have hholds := implementedElements_holdStrings implemented
  refine ⟨_, hsearch.ok_of_first hpassed rfl, ?_⟩
  rcases beginReadNestedElements_readerAt hlie.known (elementsWritten_iff.mp hlie.written _ hmem)
    (fun h2 => elementsNarrow_iff.mp (hlie.narrow h2) _ hmem) hcomposite
    (readerAt reader.buffer messageVersion start before
      (.nested implementsHeader (implementedElements implemented)) []) hlie.one rfl rfl hat.2.1 rfl
    with ⟨hnil, hbegin⟩ | ⟨element, elements, hlist, hnested, hbegin⟩
  · rw [hnil, List.forall₂_nil_left_iff] at hholds
    exact Or.inl ⟨hholds, hbegin⟩
  · rw [hlist] at hholds
    obtain ⟨value, values, hvalue, hvalues, hsegments⟩ := List.forall₂_cons_left_iff.mp hholds
    rw [hsegments] at hshort ⊢
    refine Or.inr ⟨_, hbegin, verifyImplementedTypes_eq hnested ?_ hvalue hvalues hshort⟩
    exact Nat.lt_succ_self _

/-- What the client says of a reply that its reader holds. -/
theorem clientVerifyObjecttypeResponse_eq (h : reader.Holds messageVersion entry)
    (helements : entry.elements = objectTypeElements serviceObject)
    (htype : serviceObject.qualifiedType.len ≤ MESSAGE_STR_MAX_SIZE)
    (hshort : ∀ segment ∈ listSegments serviceObject.implementedQualifiedTypes.data,
      segment.length ≤ MESSAGE_STR_MAX_SIZE) (expectedType : ConstString) :
    clientVerifyObjecttypeResponse reader expectedType =
      .ok (decide (IsExpected expectedType serviceObject)) := by
  rw [objectTypeElements_eq] at helements
  obtain ⟨elementReader, hfound, hread⟩ := findObjecttype_ok h helements htype
  rw [implementsElements] at helements
  rw [clientVerifyObjecttypeResponse, hfound]
  simp only [bind, Except.bind, hread, utilMatchStringInList_iff]
  by_cases hmatch : serviceObject.qualifiedType.data ∈ listSegments expectedType.data
  · have hexpected : IsExpected expectedType serviceObject := ⟨_, hmatch, Or.inl rfl⟩
    rw [if_pos hmatch]
    simp [hexpected, pure, Except.pure]
  · rw [if_neg hmatch]
    have hiff : IsExpected expectedType serviceObject ↔
        ∃ other ∈ listSegments serviceObject.implementedQualifiedTypes.data,
          other ∈ listSegments expectedType.data := by
      constructor
      · rintro ⟨segment, hsegment, rfl | himplemented⟩
        · exact absurd hsegment hmatch
        · exact ⟨segment, himplemented, hsegment⟩
      · rintro ⟨segment, himplemented, hsegment⟩
        exact ⟨segment, hsegment, Or.inr himplemented⟩
    have hsame : decide (IsExpected expectedType serviceObject) =
        decide (∃ other ∈ listSegments serviceObject.implementedQualifiedTypes.data,
          other ∈ listSegments expectedType.data) := decide_eq_decide.mpr hiff
    rw [hsame]
    by_cases hlen : serviceObject.implementedQualifiedTypes.len > 0
    · rw [if_pos hlen] at helements
      obtain ⟨elementReader, hfound, hlist⟩ := findImplemented_list h helements hshort expectedType
      rw [hfound]
      rcases hlist with ⟨hnil, hbegin⟩ | ⟨nestedElementReader, hbegin, hverify⟩
      · simp [hbegin, hnil]
      · simp only [hbegin, hverify]
    · have hnil : serviceObject.implementedQualifiedTypes.data = [] :=
        List.eq_nil_of_length_eq_zero (Nat.eq_zero_of_not_pos hlen)
      rw [if_neg hlen] at helements
      rw [findImplemented_none h helements]
      simp [hnil, listSegments, listSegmentsLoop]

end

/-- The reply to `OBJECTTYPENAME`, as an entry. -/
def objectTypeEntry (event : Event) (serviceObject : ServiceObjectRecord) : EntryTree :=
  ⟨responseHeader event.requestHeader, objectTypeElements serviceObject⟩

theorem implementedElements_narrow (implemented : ConstString) :
    ElementsNarrow (implementedElements implemented) := by
  rw [elementsNarrow_iff]
  intro element hmem
  rw [implementedElements, List.mem_mapIdx] at hmem
  obtain ⟨i, hi, rfl⟩ := hmem
  exact trivial

theorem objectTypeElements_narrow (serviceObject : ServiceObjectRecord) :
    ElementsNarrow (objectTypeElements serviceObject) := by
  have hname : (ConstString.constant OBJECTIMPLEMENTS).len ≤ UINT16_MAX :=
    Nat.le_trans (constant_len_le _) (by decide)
  rw [objectTypeElements_eq, implementsElements]
  split
  · exact ⟨trivial, ⟨⟨hname, Nat.zero_le _, Nat.zero_le _⟩, implementedElements_narrow _⟩, trivial⟩
  · exact ⟨trivial, trivial⟩

theorem implementsElements_few (implemented : ConstString) :
    (implementsElements implemented).length ≤ 1 := by
  rw [implementsElements]
  split
  · exact Nat.le_refl _
  · exact Nat.zero_le _

theorem objectTypeEntry_legible {event : Event} (serviceObject : ServiceObjectRecord)
    (hrequest : event.requestHeader.StringsWithin MESSAGE_STR_MAX_SIZE) :
    (objectTypeEntry event serviceObject).Legible where
  strings := by
    have hbound : MESSAGE_STR_MAX_SIZE ≤ UINT16_MAX := by decide
    obtain ⟨hpath, hmember, hmeta⟩ := hrequest
    exact ⟨Nat.le_trans hpath hbound, Nat.le_trans hmember hbound, Nat.le_trans hmeta hbound⟩
  count := by
    have hfew := implementsElements_few serviceObject.implementedQualifiedTypes
    rw [objectTypeEntry, objectTypeElements_eq, UINT16_MAX, List.length_cons]
    omega
  elements := objectTypeElements_narrow serviceObject

theorem implementsElements_size {messageVersion : UInt16} (hver : KnownVersion messageVersion)
    {implemented : ConstString}
    (hwritten : ElementsWritten messageVersion (implementsElements implemented)) :
    (elementsBytes messageVersion (implementsElements implemented)).length ≤ UINT32_MAX := by
  rw [implementsElements] at hwritten ⊢
  split at hwritten
  · next hlen =>
      obtain ⟨⟨-, -, hsize, -⟩, -⟩ := hwritten
      rw [if_pos hlen, elementsBytes, elementsBytes, List.append_nil,
        elementBytes_nested_length hver]
      exact hsize
  · next hlen =>
      rw [if_neg hlen]
      exact Nat.zero_le _

/-- Without room for its size, the entry states less than its first element has. -/
theorem objectTypeEntry_cut {messageVersion : UInt16} {event : Event}
    {serviceObject : ServiceObjectRecord}
    (hwritten : (objectTypeEntry event serviceObject).Written messageVersion)
    (hlong : UINT32_MAX < (entryBytes messageVersion (objectTypeEntry event serviceObject)).length) :
    (entryBytes messageVersion (objectTypeEntry event serviceObject)).length % 2 ^ 32 <
      (messageEntryHeaderBytes messageVersion (responseHeader event.requestHeader) 0 0).length +
        (elementBytes messageVersion
          (stringElement OBJECTTYPE serviceObject.qualifiedType)).length := by
  have hlength : (entryBytes messageVersion (objectTypeEntry event serviceObject)).length =
      (messageEntryHeaderBytes messageVersion (responseHeader event.requestHeader) 0 0).length +
        (elementsBytes messageVersion (objectTypeElements serviceObject)).length :=
    entryBytes_length hwritten.known _
  have hsize := implementsElements_size hwritten.known hwritten.elements.2
  rw [objectTypeElements_eq, elementsBytes, List.length_append] at hlength
  rw [UINT32_MAX] at hlong hsize
  omega

theorem clientVerifyObjecttypeResponse_cut {reader : MessageEntryReader} {expectedType : ConstString}
    (h : messageEntryReaderBeginReadElements reader = .error .protocol) :
    clientVerifyObjecttypeResponse reader expectedType = .error .protocol := by
  have hfind : messageEntryReaderFindElement reader (.constant OBJECTTYPE) = .error .protocol := by
    rw [messageEntryReaderFindElement, h]
  rw [clientVerifyObjecttypeResponse, messageEntryReaderFindElementVerifyString,
    messageEntryReaderFindElementVerifyArray, hfind]
  rfl

/-- Whoever reads what was sent and verifies it is told whether the types of the object are
expected. -/
def VerifiesReply (sent : List UInt8) (messageVersion : UInt16) (serviceObject : ServiceObjectRecord) :
    Prop :=
  ∀ reader : MessageReader, reader.Over messageVersion sent →
    ∃ entryReader, messageReaderBeginReadEntries reader = .ok entryReader ∧
      ∀ expectedType, clientVerifyObjecttypeResponse entryReader expectedType =
        .ok (decide (IsExpected expectedType serviceObject))

section

variable {node node' : Node} {event : Event} {serviceObjects : List ServiceObjectRecord}
  {serviceObject : ServiceObjectRecord}

/-- What the reply is, as a message. -/
theorem specialRequestObjectTypeName_sent
    (hfound : findServiceObjectForPath serviceObjects event.requestHeader.servicePath =
      some serviceObject)
    (hsent : specialRequestObjectTypeName node event serviceObjects = (.ok (), node')) :
    (node'.connection event.connection).SentEntry (node.connection event.connection).messageVersion
      (~~~(node.connection event.connection).messageFlagsInvMask) (senderMessageHeader node event)
      (objectTypeEntry event serviceObject) := by
  rw [specialRequestObjectTypeName, hfound] at hsent
  exact nodeSendResponseToSender_sent hsent

/-- One that looks into the send buffer itself cannot verify a reply that is cut. -/
theorem objectTypeReply_cut {messageVersion : UInt16} {messageFlagsMask : BitVec 8}
    {header : MessageConstHeader} {c : Connection}
    (hentry : c.SentEntry messageVersion messageFlagsMask header (objectTypeEntry event serviceObject))
    (hrequest : event.requestHeader.StringsWithin MESSAGE_STR_MAX_SIZE)
    (hlong : UINT32_MAX < (entryBytes messageVersion (objectTypeEntry event serviceObject)).length) :
    ¬ VerifiesReply c.sent messageVersion serviceObject := by
  intro hverifies
  obtain ⟨reader, hreader, entryReader, hbegin, hbuffer, hversion, hoffset, hcount, hthere⟩ :=
    hentry.cut
  obtain ⟨entryReader', hbegin', hverify⟩ := hverifies reader hreader
  cases hbegin.symm.trans hbegin'
  have hopens : messageEntryReaderBeginReadElements entryReader = .error .protocol := by
    refine beginReadElements_tooShort hentry.written
      (fun _ => objectTypeEntry_legible serviceObject hrequest) entryReader (hbuffer ▸ hreader.one)
      hversion ?_ (objectTypeElements_eq serviceObject) ?_
    · rw [hbuffer, hoffset]
      exact hthere
    · rw [hcount]
      exact objectTypeEntry_cut hentry.written hlong
  have hfails := hverify (.constant [])
  rw [clientVerifyObjecttypeResponse_cut hopens] at hfails
  cases hfails

/-- A reply that was sent is verified against the types of the object if and only if the size of
its entry has room in the size field. -/
theorem objectTypeReply_verifies_iff
    (hrequest : event.requestHeader.StringsWithin MESSAGE_STR_MAX_SIZE)
    (hfound : findServiceObjectForPath serviceObjects event.requestHeader.servicePath =
      some serviceObject)
    (htype : serviceObject.qualifiedType.len ≤ MESSAGE_STR_MAX_SIZE)
    (himplemented : ∀ segment ∈ listSegments serviceObject.implementedQualifiedTypes.data,
      segment.length ≤ MESSAGE_STR_MAX_SIZE)
    (hsent : specialRequestObjectTypeName node event serviceObjects = (.ok (), node')) :
    VerifiesReply (node'.connection event.connection).sent
        (node.connection event.connection).messageVersion serviceObject ↔
      (entryBytes (node.connection event.connection).messageVersion
        (objectTypeEntry event serviceObject)).length ≤ UINT32_MAX := by
  have hentry := specialRequestObjectTypeName_sent hfound hsent
  constructor
  · intro hverifies
    exact Nat.le_of_not_lt fun hlong => objectTypeReply_cut hentry hrequest hlong hverifies
  · intro hshort reader hreader
    obtain ⟨entryReader, hbegin, hholds⟩ :=
      hentry.opened hshort (fun _ => objectTypeEntry_legible serviceObject hrequest) hreader
    exact ⟨entryReader, hbegin, fun expectedType =>
      clientVerifyObjecttypeResponse_eq hholds rfl htype himplemented expectedType⟩

end

end

section

open Lp64

/-- A node with a connection that may send. -/
def askedNode (sendBuffer : List UInt8) : Node :=
  Node.init .any [] [] fun _ =>
    { connectionConstruct sendBuffer [] with connectionState := STATUS_FLAGS_CONNECTED }

/-- A request for the type of the object at the path `s`. -/
def objectTypeRequest : Event :=
  ⟨.messageReceived, 0, 0, { ReceivedMessage.zero with
    receivedMessageEntryHeader := { MessageEntryHeaderOf.zero (.constant []) with
      entryType := MESSAGEENTRYTYPE_OBJECTTYPENAME, servicePath := .constant [0x73] } }, .ok ()⟩

theorem objectTypeRequest_within :
    objectTypeRequest.requestHeader.StringsWithin MESSAGE_STR_MAX_SIZE :=
  ⟨constant_len_le _, Nat.zero_le _, Nat.zero_le _⟩

/-- An object of type `a` that implements `b` and `c`. -/
def plainObject : ServiceObjectRecord :=
  ⟨.constant [0x73], .constant [0x61], .constant [59, 0x62, 59, 59, 0x63], false⟩

/-- What is sent in reply. -/
def plainObjectReply : Node :=
  (specialRequestObjectTypeName (askedNode (List.replicate 512 0)) objectTypeRequest
    [plainObject]).2

theorem plainObject_verified :
    VerifiesReply (plainObjectReply.connection objectTypeRequest.connection).sent
      ((askedNode (List.replicate 512 0)).connection objectTypeRequest.connection).messageVersion
      plainObject := by
  have hsent : (specialRequestObjectTypeName (askedNode (List.replicate 512 0)) objectTypeRequest
      [plainObject]).1 = .ok () := by decide +kernel
  have hreply : specialRequestObjectTypeName (askedNode (List.replicate 512 0)) objectTypeRequest
      [plainObject] = (.ok (), plainObjectReply) := Prod.ext hsent (by rw [plainObjectReply])
  have hfound : findServiceObjectForPath [plainObject] objectTypeRequest.requestHeader.servicePath =
    some plainObject := by decide +kernel
  exact (objectTypeReply_verifies_iff objectTypeRequest_within hfound (by decide) (by decide +kernel)
    hreply).mpr (by decide +kernel)

/-! ## A reply that is cut -/

/-- The type `a`, implemented `n` times. -/
def typesList (n : Nat) : List UInt8 := (List.replicate n [0x61, 59]).flatten

theorem length_typesList (n : Nat) : (typesList n).length = n * 2 := by
  simp [typesList]

theorem listSegments_typesList (n : Nat) :
    listSegments (typesList n) = List.replicate n [0x61] := by
  induction n with
  | zero => rfl
  | succ n ih =>
      rw [List.replicate_succ, ← ih]
      rfl

/-- The name of an element of the list. -/
def numberName (listI : Nat) : List UInt8 :=
  (Nat.toDigits 10 listI).map fun digit => digit.toNat.toUInt8

/-- The size of the elements of the list. -/
def typesSize (n : Nat) : Nat :=
  ((List.range n).map fun listI => 17 + (ConstString.constant (numberName listI)).len).sum

theorem typesSize_succ (n : Nat) :
    typesSize (n + 1) = typesSize n + (17 + (ConstString.constant (numberName n)).len) := by
  rw [typesSize, typesSize, List.range_succ, List.map_append, List.sum_append, List.map_singleton,
    List.sum_singleton]

theorem typesSize_ge (n : Nat) : 17 * n ≤ typesSize n := by
  induction n with
  | zero => exact Nat.zero_le _
  | succ n ih =>
      rw [typesSize_succ]
      omega

/-- The last list whose size is no more than `bound`. -/
theorem exists_typesSize_le (bound : Nat) : ∃ n, typesSize n ≤ bound ∧ bound < typesSize (n + 1) := by
  have hlarge : ∃ n, bound < typesSize n := by
    refine ⟨bound + 1, ?_⟩
    have hge := typesSize_ge (bound + 1)
    omega
  cases hn : Nat.find hlarge with
  | zero =>
      have hfind := Nat.find_spec hlarge
      rw [hn] at hfind
      cases hfind
  | succ n =>
      have hfind := Nat.find_spec hlarge
      rw [hn] at hfind
      exact ⟨n, Nat.le_of_not_lt (Nat.find_min hlarge (by omega)), hfind⟩

theorem size2_stringElement (elementName : List UInt8) (value : ConstString) :
    (stringElement elementName value).size2 = 16 + (ConstString.constant elementName).len + value.len :=
  rfl

/-- The elements of a list are written wherever the list is. -/
theorem stringElement_written {elementName : List UInt8} {value : ConstString}
    (hshort : value.len ≤ MESSAGE_STR_MAX_SIZE) : (stringElement elementName value).Written 2 := by
  have hname := constant_len_le elementName
  have hlength := length_elementBytes2 (stringElement elementName value)
  rw [size2_stringElement, stringElement, elementBytes] at hlength
  rw [MESSAGE_STR_MAX_SIZE] at hshort hname
  have hmax : UINT32_MAX = 4294967295 := rfl
  have hmax16 : UINT16_MAX = 65535 := rfl
  refine ⟨?_, by omega, by omega, ?_, fun _ => by omega⟩
  · rw [hlength, messageElementDataSize, if_pos rfl, messageElementData2Size]
    show addSz (addSz 16 (ConstString.constant elementName).len) (mulSz value.len 1) = _
    have hmod := SizeT.le_modulus
    rw [mulSz_eq (by omega), Nat.mul_one, addSz_eq (by omega : 16 + _ < SizeT.modulus),
      addSz_eq (by omega)]
  · show value.len ≤ UINT32_MAX
    omega

theorem elementsSize2_eq_sum (elements : List ElementTree) :
    elementsSize2 elements = (elements.map ElementTree.size2).sum := by
  induction elements with
  | nil => rfl
  | cons element elements ih => rw [elementsSize2, ih, List.map_cons, List.sum_cons]

section

variable {implemented : ConstString} {n : Nat}

theorem implementedElements_typesList (h : implemented.data = typesList n) :
    implementedElements implemented =
      (List.range n).map fun listI => stringElement (numberName listI) (.constant [0x61]) := by
  have hlength := length_typesList n
  rw [implementedElements, h, listSegments_typesList]
  refine List.ext_getElem (by simp) fun i hi _ => ?_
  rw [List.length_mapIdx, List.length_replicate] at hi
  have hpart : implemented.part [0x61] = .constant [0x61] := by
    unfold ConstString.part ConstString.constant
    rw [ConstString.mk.injEq, h, hlength, List.take_of_length_le, List.take_of_length_le]
    · decide
    · rw [List.length_singleton]
      omega
  simp [hpart, numberName]

theorem implementedElements_size (h : implemented.data = typesList n) :
    elementsSize2 (implementedElements implemented) = typesSize n := by
  rw [elementsSize2_eq_sum, implementedElements_typesList h, List.map_map, typesSize]
  refine congrArg List.sum (List.map_congr_left fun listI _ => ?_)
  rw [Function.comp_apply, size2_stringElement]
  have hone : (ConstString.constant [0x61]).len = 1 := rfl
  omega

/-- The elements of the list, and the list where it fits its own size. -/
theorem implementsElements_written (h : implemented.data = typesList n)
    (hfits : 32 + typesSize n ≤ UINT32_MAX) :
    ElementsWritten 2 (implementsElements implemented) ∧
      ElementsFilled (implementsElements implemented) := by
  have hsize := implementedElements_size h
  have hge := typesSize_ge n
  have helements := implementedElements_typesList h
  have hheader : (messageElementHeaderBytes 2 implementsHeader 0 0).length = 32 := by
    rw [messageElementHeaderBytes, if_pos rfl, length_messageElementHeader2Bytes]
    rfl
  have hmany : (implementedElements implemented).length = n := by
    rw [helements, List.length_map, List.length_range]
  have hchildren : ElementsWritten 2 (implementedElements implemented) := by
    rw [elementsWritten_iff, helements]
    intro element hmem
    obtain ⟨listI, -, rfl⟩ := List.mem_map.mp hmem
    exact stringElement_written (by decide)
  have hfilled : ElementsFilled (implementedElements implemented) := by
    rw [elementsFilled_iff, helements]
    intro element hmem
    obtain ⟨listI, -, rfl⟩ := List.mem_map.mp hmem
    exact Nat.one_pos
  rw [implementsElements]
  split
  · refine ⟨⟨⟨⟨by decide, Nat.zero_le _, Nat.zero_le _⟩, ?_, ?_, hchildren⟩, trivial⟩,
      hfilled, trivial⟩
    · omega
    · rw [hheader, length_elementsBytes2, hsize]
      exact hfits
  · exact ⟨trivial, trivial⟩

/-- The size of the reply. -/
theorem objectTypeEntry_size (serviceObject : ServiceObjectRecord)
    (h : serviceObject.implementedQualifiedTypes.data = typesList n) (hn : 0 < n) :
    (entryBytes 2 (objectTypeEntry objectTypeRequest serviceObject)).length =
      81 + serviceObject.qualifiedType.len + typesSize n := by
  have hlength := length_typesList n
  have hlist : serviceObject.implementedQualifiedTypes.len > 0 := by
    rw [ConstString.len, h]
    omega
  have hheader : (messageEntryHeaderBytes 2
      (objectTypeEntry objectTypeRequest serviceObject).header 0 0).length = 23 := by
    rw [messageEntryHeaderBytes, if_pos rfl, length_messageEntryHeader2Bytes]
    rfl
  have hname : (ConstString.constant OBJECTTYPE).len = 10 := rfl
  have himplements : 16 + implementsHeader.elementName.len + implementsHeader.elementTypeName.len +
    implementsHeader.metadata.len = 32 := rfl
  rw [entryBytes_length (Or.inl rfl), hheader, length_elementsBytes2, objectTypeEntry,
    objectTypeElements_eq, implementsElements, if_pos hlist, elementsSize2, elementsSize2,
    elementsSize2, ElementTree.size2, size2_stringElement, implementedElements_size h, hname,
    himplements]
  omega

end

theorem askedNode_sendArea (sendBuffer : List UInt8) (i : Nat) :
    ((askedNode sendBuffer).connection i).sendArea = sendBuffer :=
  List.take_of_length_le (Nat.le_refl _)

theorem askedNode_opens {sendBuffer : List UInt8} (haddr : 2 * sendBuffer.length < SizeT.modulus)
    (i : Nat) :
    ∃ writer, connectionBeginSendMessage ((askedNode sendBuffer).connection i) ⟨0, 0, 0, 0, 0⟩ =
      .ok writer :=
  connectionBeginSendMessage_opens _
    (by decide : flagsCheck STATUS_FLAGS_CONNECTED (STATUS_FLAGS_ERROR ||| STATUS_FLAGS_CLOSED |||
      STATUS_FLAGS_CLOSE_REQUESTED ||| STATUS_FLAGS_IDLE) = false)
    (by decide : flagsCheck STATUS_FLAGS_CONNECTED STATUS_FLAGS_CONNECTED = true)
    (by decide : flagsCheck STATUS_FLAGS_CONNECTED (STATUS_FLAGS_SEND_REQUESTED |||
      STATUS_FLAGS_SENDING ||| STATUS_FLAGS_MESSAGE_SENT ||| STATUS_FLAGS_MESSAGE_SENT_CONSUMED |||
      STATUS_FLAGS_BLOCK_SEND) = false)
    (by rwa [askedNode_sendArea]) (Nat.zero_le _)

theorem askedNode_version (sendBuffer : List UInt8) (i : Nat) :
    ((askedNode sendBuffer).connection i).messageVersion = 2 :=
  (by decide : (if flagsCheck STATUS_FLAGS_CONNECTED STATUS_FLAGS_SEND_MESSAGE4 then (4 : UInt16)
    else 2) = 2)

/-- An object whose type has full length. -/
def longObject (implemented : ConstString) : ServiceObjectRecord :=
  ⟨.constant [0x73], .constant (List.replicate 128 0x61), implemented, false⟩

theorem longObject_type_len (implemented : ConstString) :
    (longObject implemented).qualifiedType.len = 128 := by
  show ((List.replicate 128 (0x61 : UInt8)).take 128).length = 128
  rw [List.length_take, List.length_replicate, Nat.min_self]

theorem longObject_found (implemented : ConstString) :
    findServiceObjectForPath [longObject implemented] objectTypeRequest.requestHeader.servicePath =
      some (longObject implemented) := by
  rw [findServiceObjectForPath, if_neg (by decide)]
  exact List.find?_cons_of_pos (by decide : (stringHash (ConstString.constant [0x73]).data ==
    stringHash (ConstString.constant [0x73]).data && stringCmp (ConstString.constant [0x73]).data
      (ConstString.constant [0x73]).data == 0) = true)

/-- The list of its types has its size, and the reply has no room left for it. -/
theorem askedNode_ready {sendBuffer : List UInt8} {implemented : ConstString} {n : Nat}
    (haddr : 2 * sendBuffer.length < SizeT.modulus) (hroom : 2 ^ 33 ≤ sendBuffer.length)
    (h : implemented.data = typesList n) (hn : 0 < n) (hfits : 32 + typesSize n ≤ UINT32_MAX)
    (hlong : UINT32_MAX < 209 + typesSize n) :
    ((askedNode sendBuffer).connection objectTypeRequest.connection).ReadyFor
      (senderMessageHeader (askedNode sendBuffer) objectTypeRequest)
      (objectTypeEntry objectTypeRequest (longObject implemented)) := by
  have hmax : UINT32_MAX = 4294967295 := rfl
  have hheader (messageFlagsMask : BitVec 8) : (messageHeaderBytes 2
      (senderMessageHeader (askedNode sendBuffer) objectTypeRequest) messageFlagsMask 0).length =
        64 := by
    rw [messageHeaderBytes, if_pos rfl, length_messageHeader2Bytes]
    rfl
  have hsize := objectTypeEntry_size (longObject implemented) h hn
  have htype := longObject_type_len implemented
  obtain ⟨himplements, hfilled⟩ := implementsElements_written h hfits
  have hfew : (objectTypeEntry objectTypeRequest (longObject implemented)).elements.length ≤
      UINT32_MAX := by
    have hcount := implementsElements_few (longObject implemented).implementedQualifiedTypes
    rw [objectTypeEntry, objectTypeElements_eq, List.length_cons]
    omega
  rw [htype] at hsize
  exact {
    opens := askedNode_opens haddr _
    version := askedNode_version sendBuffer _
    passes := ⟨(by decide : 64 ≤ UINT16_MAX), Nat.zero_le _⟩
    written := ⟨Or.inl rfl, ⟨(by decide : 1 ≤ UINT32_MAX), Nat.zero_le _, Nat.zero_le _⟩,
      ⟨stringElement_written (Nat.le_of_eq htype), himplements⟩, hfew⟩
    filled := ⟨Nat.lt_of_lt_of_eq (by decide) htype.symm, hfilled⟩
    addressable := by rwa [askedNode_sendArea]
    room := by
      rw [hheader, hsize, askedNode_sendArea]
      omega
    stated := by
      rw [hheader, hsize]
      omega }

/-- A node says what an object of type `aa…a` is and implements, and whoever verifies it is told
that the message is broken. -/
theorem longObject_unverified : ∃ (sendBuffer : List UInt8) (node' : Node)
    (serviceObject : ServiceObjectRecord),
      findServiceObjectForPath [serviceObject] objectTypeRequest.requestHeader.servicePath =
        some serviceObject ∧
      0 < serviceObject.qualifiedType.len ∧
      serviceObject.qualifiedType.len ≤ MESSAGE_STR_MAX_SIZE ∧
      (∀ segment ∈ listSegments serviceObject.implementedQualifiedTypes.data,
        segment.length ≤ MESSAGE_STR_MAX_SIZE) ∧
      specialRequestObjectTypeName (askedNode sendBuffer) objectTypeRequest [serviceObject] =
        (.ok (), node') ∧
      ¬ VerifiesReply (node'.connection objectTypeRequest.connection).sent
        ((askedNode sendBuffer).connection objectTypeRequest.connection).messageVersion
        serviceObject := by
  have hmax : UINT32_MAX = 4294967295 := rfl
  have hmod : SizeT.modulus = 18446744073709551616 := rfl
  obtain ⟨n, hfits, hlong⟩ := exists_typesSize_le (UINT32_MAX - 32)
  have hname := constant_len_le (numberName n)
  have hge := typesSize_ge n
  have hlength := length_typesList n
  rw [typesSize_succ] at hlong
  rw [MESSAGE_STR_MAX_SIZE] at hname
  have hn : 0 < n := by
    refine Nat.pos_of_ne_zero fun h0 => ?_
    subst h0
    have hzero : typesSize 0 = 0 := rfl
    omega
  obtain ⟨implemented, himplemented⟩ : ∃ implemented : ConstString,
    implemented.data = typesList n := ⟨⟨typesList n, by omega⟩, rfl⟩
  obtain ⟨sendBuffer, hbuffer⟩ : ∃ sendBuffer : List UInt8, sendBuffer.length = 2 ^ 33 :=
    ⟨List.replicate (2 ^ 33) 0, List.length_replicate⟩
  have haddr : 2 * sendBuffer.length < SizeT.modulus := by omega
  have hready := askedNode_ready haddr (Nat.le_of_eq hbuffer.symm) himplemented hn (by omega)
    (by omega)
  obtain ⟨node', hsent⟩ := nodeSendResponseToSender_succeeds hready
  have hfound := longObject_found implemented
  have hsent' : specialRequestObjectTypeName (askedNode sendBuffer) objectTypeRequest
      [longObject implemented] = (.ok (), node') := by
    rw [specialRequestObjectTypeName, hfound]
    exact hsent
  have htype := longObject_type_len implemented
  refine ⟨sendBuffer, node', longObject implemented, hfound, by omega, Nat.le_of_eq htype, ?_,
    hsent', ?_⟩
  · rw [longObject, himplemented, listSegments_typesList]
    intro segment hmem
    rw [List.eq_of_mem_replicate hmem]
    decide
  · have hentry := specialRequestObjectTypeName_sent hfound hsent'
    refine objectTypeReply_cut hentry objectTypeRequest_within ?_
    have hsize := objectTypeEntry_size (longObject implemented) himplemented hn
    rw [askedNode_version, hsize]
    omega

end

end RobotRaconteurLite

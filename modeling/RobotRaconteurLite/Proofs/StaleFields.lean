import RobotRaconteurLite.Proofs.Segments

/-!
# What a header keeps from before it was read

A reader fills in a header that the caller hands to it, and the caller may have
used it before. Two headers that were used differently, but have the same storage
for their strings, are read into side by side here. A message header comes out the
same. An entry header and an element header do not: no reader stores their flags,
and a reader of version 2 does not store the codes and the number, which only
version 4 has.
-/

namespace RobotRaconteurLite

open OffsetReader Splice

/-- Read into the other header, the fields come out the same. -/
def ComesOutSame {α β : Type} (fields : α → β) (a : α) (y : Result α) : Prop :=
  ∃ b, y = .ok b ∧ fields b = fields a

theorem comesOutSame_ok {α β : Type} {fields : α → β} {a b : α} :
    ComesOutSame fields a (.ok b) ↔ fields b = fields a := by
  constructor
  · rintro ⟨b', hb', heq⟩
    injection hb' with hb'
    exact hb' ▸ heq
  · intro heq
    exact ⟨b, rfl, heq⟩

theorem exists_related {α : Type} {R : α → α → Prop} {x y : Result α} {a : α}
    (hxy : ResultRel noStatus R x y) (hx : x = .ok a) : ∃ b, y = .ok b ∧ R a b := by
  subst hx
  cases y with
  | error e => exact hxy.elim
  | ok b => exact ⟨b, rfl, hxy⟩

section

variable [SizeT]

/-! ## Headers side by side -/

/-- The same storage: none in both, or as many bytes. -/
def StringBuf.SameStorage : StringBuf → StringBuf → Prop
  | .null m, .null n => m = n
  | .storage a _, .storage b _ => a.length = b.length
  | _, _ => False

def MessageHeaderOf.SameStorage (h h' : MessageHeader) : Prop :=
  h.senderNodename.SameStorage h'.senderNodename ∧
    h.receiverNodename.SameStorage h'.receiverNodename ∧ h.metadata.SameStorage h'.metadata

def MessageEntryHeaderOf.SameStorage (h h' : MessageEntryHeader) : Prop :=
  h.servicePath.SameStorage h'.servicePath ∧ h.memberName.SameStorage h'.memberName ∧
    h.metadata.SameStorage h'.metadata

def MessageElementHeaderOf.SameStorage (h h' : MessageElementHeader) : Prop :=
  h.elementName.SameStorage h'.elementName ∧ h.elementTypeName.SameStorage h'.elementTypeName ∧
    h.metadata.SameStorage h'.metadata

/-- The fields of a header, with the length of each string in its place. -/
def MessageHeaderOf.fields (h : MessageHeader) : MessageHeaderOf Nat where
  messageSize := h.messageSize
  messageVersion := h.messageVersion
  headerSize := h.headerSize
  messageFlags := h.messageFlags
  senderNodeid := h.senderNodeid
  receiverNodeid := h.receiverNodeid
  senderEndpoint := h.senderEndpoint
  receiverEndpoint := h.receiverEndpoint
  priority := h.priority
  senderNodename := h.senderNodename.len
  receiverNodename := h.receiverNodename.len
  metadata := h.metadata.len
  entryCount := h.entryCount
  messageId := h.messageId
  messageResId := h.messageResId

def MessageEntryHeaderOf.fields (h : MessageEntryHeader) : MessageEntryHeaderOf Nat where
  entrySize := h.entrySize
  entryFlags := h.entryFlags
  entryType := h.entryType
  servicePath := h.servicePath.len
  servicePathCode := h.servicePathCode
  memberName := h.memberName.len
  memberNameCode := h.memberNameCode
  requestId := h.requestId
  error := h.error
  metadata := h.metadata.len
  elementCount := h.elementCount

def MessageElementHeaderOf.fields (h : MessageElementHeader) : MessageElementHeaderOf Nat where
  elementSize := h.elementSize
  elementFlags := h.elementFlags
  elementName := h.elementName.len
  elementNameCode := h.elementNameCode
  elementNumber := h.elementNumber
  elementType := h.elementType
  elementTypeName := h.elementTypeName.len
  elementTypeNameCode := h.elementTypeNameCode
  metadata := h.metadata.len
  dataCount := h.dataCount

/-- Nothing that a reader of this version leaves alone differs. -/
def MessageEntryHeaderOf.AgreeUnread (ver : UInt16) (h h' : MessageEntryHeader) : Prop :=
  h'.entryFlags = h.entryFlags ∧
    (ver = 2 → h'.servicePathCode = h.servicePathCode ∧ h'.memberNameCode = h.memberNameCode)

def MessageElementHeaderOf.AgreeUnread (ver : UInt16) (h h' : MessageElementHeader) : Prop :=
  h'.elementFlags = h.elementFlags ∧
    (ver = 2 → h'.elementNameCode = h.elementNameCode ∧ h'.elementNumber = h.elementNumber ∧
      h'.elementTypeNameCode = h.elementTypeNameCode)

/-! ## Strings -/

variable {str str' : StringBuf} {v : BufferVec}

/-- The length a string has after it was read into storage says nothing of what was there. -/
theorem map_len_readHeaderString {bytes : List UInt8} (haddr : 2 * bytes.length < SizeT.modulus)
    (o strLen : Nat) :
    (messageReadHeaderString v o strLen (.storage bytes haddr)).map StringBuf.len =
      if strLen = 0 then .ok 0
      else if bytes.length < strLen then .error .invalidArgument
      else (fetch v.bytes o strLen).map fun _ => strLen := by
  rw [messageReadHeaderString]
  split
  · rfl
  · next hne =>
      split
      · rfl
      · next hroom =>
          have hpos : 0 < strLen := Nat.pos_of_ne_zero hne
          have hle : strLen ≤ bytes.length := Nat.le_of_not_lt hroom
          rw [bufferVecCopyToString_eq v o haddr hpos hle]
          cases hfetch : fetch v.bytes o strLen with
          | error e => rfl
          | ok bs =>
              obtain ⟨-, hend, hbs⟩ := fetch_eq_ok hfetch
              have hlen : bs.length = strLen := hbs ▸ length_slice hend
              have hcopied : ((overwrite bytes 0 bs).take strLen).length = strLen := by
                rw [List.length_take, length_overwrite (by omega)]
                omega
              simp only [Except.map, bind, Except.bind]
              rw [dif_pos (by omega)]
              simp only [pure, Except.pure, StringBuf.len, hcopied]

theorem StringBuf.SameStorage.readHeaderString (h : str.SameStorage str') (o strLen : Nat) :
    ResultRel noStatus (fun s s' => s'.len = s.len) (messageReadHeaderString v o strLen str)
      (messageReadHeaderString v o strLen str') := by
  apply ResultRel.of_map_eq
  cases str with
  | null m =>
      cases str' with
      | storage => exact h.elim
      | null n =>
          obtain rfl : m = n := h
          rfl
  | storage a ha =>
      cases str' with
      | null => exact h.elim
      | storage b hb =>
          have hlen : a.length = b.length := h
          rw [map_len_readHeaderString, map_len_readHeaderString, hlen]

theorem StringBuf.SameStorage.readString_2 (h : str.SameStorage str')
    (info : ReadHeaderStringInfo) :
    Follows noStatus id (fun s s' => s'.len = s.len)
      (messageReadHeaderStringWithLenPrefix_2 v info str)
      (messageReadHeaderStringWithLenPrefix_2 v info str') := by
  intro o
  rw [messageReadHeaderStringWithLenPrefix_2, messageReadHeaderStringWithLenPrefix_2]
  exact (h.readHeaderString info.offset info.strLen).bind fun s s' hs => ⟨hs, rfl⟩

/-- Where the string is not there both headers get none. -/
theorem StringBuf.SameStorage.readIf_2 (h : str.SameStorage str') (present : Bool)
    (info : ReadHeaderStringInfo) :
    Follows noStatus id (fun s s' => s'.len = s.len)
      (readIf present (messageReadHeaderStringWithLenPrefix_2 v info str) (.null 0))
      (readIf present (messageReadHeaderStringWithLenPrefix_2 v info str') (.null 0)) := by
  cases present with
  | false => exact Follows.pure rfl
  | true => exact h.readString_2 info

/-! ## Message headers -/

section

variable {h h' : MessageHeader}

theorem readHeader2Ex_fields (r : MessageReader) (hs : h.SameStorage h') :
    ResultRel noStatus (fun p q => q.1.fields = p.1.fields) (messageReaderReadHeader2Ex r h)
      (messageReaderReadHeader2Ex r h') := by
  obtain ⟨hsender, hreceiver, hmeta⟩ := hs
  rw [messageReaderReadHeader2Ex, messageReaderReadHeader2Ex]
  refine Follows.run' (τ := id) ?_ r.bufferOffset
  -- Up to the strings the reads are the same.
  repeat refine Follows.refl_bind fun _ => ?_
  refine (hsender.readString_2 _).bind fun _ _ hsender => ?_
  refine (hreceiver.readString_2 _).bind fun _ _ hreceiver => ?_
  refine (hmeta.readString_2 _).bind fun _ _ hmeta => ?_
  apply Follows.pure
  simp only [MessageHeaderOf.fields, hsender, hreceiver, hmeta]

theorem readHeader4Ex_fields (r : MessageReader) (hs : h.SameStorage h') :
    ResultRel noStatus (fun p q => q.1.fields = p.1.fields) (messageReaderReadHeader4Ex r h)
      (messageReaderReadHeader4Ex r h') := by
  obtain ⟨hsender, hreceiver, hmeta⟩ := hs
  rw [messageReaderReadHeader4Ex, messageReaderReadHeader4Ex]
  refine Follows.run' (τ := id) ?_ r.bufferOffset
  repeat refine Follows.refl_bind fun _ => ?_
  refine (hsender.readIf_2 _ _).bind fun _ _ hsender => ?_
  refine (hreceiver.readIf_2 _ _).bind fun _ _ hreceiver => ?_
  refine (hmeta.readIf_2 _ _).bind fun _ _ hmeta => ?_
  apply Follows.pure
  simp only [MessageHeaderOf.fields, hsender, hreceiver, hmeta]

theorem messageReaderReadHeader_fields (r : MessageReader) (hs : h.SameStorage h') :
    ResultRel noStatus (fun p q => q.1.fields = p.1.fields) (messageReaderReadHeader r h)
      (messageReaderReadHeader r h') := by
  have hex : ResultRel noStatus (fun p q => q.1.fields = p.1.fields)
      (messageReaderReadHeaderEx r h) (messageReaderReadHeaderEx r h') := by
    rw [messageReaderReadHeaderEx, messageReaderReadHeaderEx]
    refine ResultRel.bind_refl fun ver => ?_
    split
    · exact readHeader2Ex_fields r hs
    · split
      · exact readHeader4Ex_fields r hs
      · exact Or.inr rfl
  exact hex.bind fun _ _ hfields => hfields

end

/-! ## Entry headers -/

section

variable {h h' : MessageEntryHeader}

/-- What is read into two entry headers, but for what no reader of this version stores. -/
def EntryFieldsRead (ver : UInt16) (h h' : MessageEntryHeader)
    (p q : MessageEntryHeader × MessageEntryBufferInfo) : Prop :=
  p.1.entryFlags = h.entryFlags ∧ q.1.entryFlags = h'.entryFlags ∧
    (ver = 2 → p.1.servicePathCode = h.servicePathCode ∧ q.1.servicePathCode = h'.servicePathCode ∧
      p.1.memberNameCode = h.memberNameCode ∧ q.1.memberNameCode = h'.memberNameCode) ∧
    (h.AgreeUnread ver h' → q.1.fields = p.1.fields)

theorem entryReadHeader2Ex_fields (r : MessageEntryReader) (hs : h.SameStorage h') :
    ResultRel noStatus (EntryFieldsRead 2 h h') (messageEntryReaderReadHeader2Ex r h)
      (messageEntryReaderReadHeader2Ex r h') := by
  obtain ⟨hpath, hmember, hmeta⟩ := hs
  rw [messageEntryReaderReadHeader2Ex, messageEntryReaderReadHeader2Ex]
  refine Follows.run' (τ := id) ?_ r.bufferOffset
  repeat refine Follows.refl_bind fun _ => ?_
  refine (hpath.readString_2 _).bind fun _ _ hpath => ?_
  refine (hmember.readString_2 _).bind fun _ _ hmember => ?_
  refine (hmeta.readString_2 _).bind fun _ _ hmeta => ?_
  refine Follows.refl_bind fun _ => ?_
  refine Follows.pure ⟨rfl, rfl, fun _ => ⟨rfl, rfl, rfl, rfl⟩, ?_⟩
  rintro ⟨hflags, hcodes⟩
  obtain ⟨hpathCode, hmemberCode⟩ := hcodes rfl
  simp only [MessageEntryHeaderOf.fields, hpath, hmember, hmeta, hflags, hpathCode, hmemberCode]

theorem entryReadHeader4Ex_fields (r : MessageEntryReader) (hs : h.SameStorage h') :
    ResultRel noStatus (EntryFieldsRead 4 h h') (messageEntryReaderReadHeader4Ex r h)
      (messageEntryReaderReadHeader4Ex r h') := by
  obtain ⟨hpath, hmember, hmeta⟩ := hs
  rw [messageEntryReaderReadHeader4Ex, messageEntryReaderReadHeader4Ex]
  refine Follows.run' (τ := id) ?_ r.bufferOffset
  repeat refine Follows.refl_bind fun _ => ?_
  refine (hpath.readIf_2 _ _).bind fun _ _ hpath => ?_
  refine (hmember.readIf_2 _ _).bind fun _ _ hmember => ?_
  refine (hmeta.readIf_2 _ _).bind fun _ _ hmeta => ?_
  refine Follows.refl_bind fun _ => ?_
  refine Follows.pure ⟨rfl, rfl, fun hver => absurd hver (by decide), ?_⟩
  rintro ⟨hflags, -⟩
  simp only [MessageEntryHeaderOf.fields, hpath, hmember, hmeta, hflags]

theorem entryReadHeaderEx_fields (r : MessageEntryReader) (hs : h.SameStorage h') :
    ResultRel noStatus (EntryFieldsRead r.messageVersion h h')
      (messageEntryReaderReadHeaderEx r h) (messageEntryReaderReadHeaderEx r h') := by
  rw [messageEntryReaderReadHeaderEx, messageEntryReaderReadHeaderEx]
  split
  · next hver =>
      rw [hver]
      exact entryReadHeader2Ex_fields r hs
  · split
    · next hver =>
        rw [hver]
        exact entryReadHeader4Ex_fields r hs
    · exact Or.inr rfl

/-- The two come out the same exactly when they agreed on what is not read. -/
theorem EntryFieldsRead.fields_eq_iff {ver : UInt16}
    {p q : MessageEntryHeader × MessageEntryBufferInfo} (hread : EntryFieldsRead ver h h' p q) :
    q.1.fields = p.1.fields ↔ h.AgreeUnread ver h' := by
  obtain ⟨hflags, hflags', hcodes, hagree⟩ := hread
  refine ⟨fun heq => ⟨?_, fun hver => ?_⟩, hagree⟩
  · have hsame : q.1.fields.entryFlags = p.1.fields.entryFlags := by rw [heq]
    rw [← hflags, ← hflags']
    exact hsame
  · have hpathSame : q.1.fields.servicePathCode = p.1.fields.servicePathCode := by rw [heq]
    have hmemberSame : q.1.fields.memberNameCode = p.1.fields.memberNameCode := by rw [heq]
    obtain ⟨hpath, hpath', hmember, hmember'⟩ := hcodes hver
    rw [← hpath, ← hpath', ← hmember, ← hmember']
    exact ⟨hpathSame, hmemberSame⟩

end

/-! ## Element headers -/

section

variable {h h' : MessageElementHeader}

/-- What is read into two element headers, but for what no reader of this version stores. -/
def ElementFieldsRead (ver : UInt16) (h h' : MessageElementHeader)
    (p q : MessageElementHeader × MessageElementBufferInfo) : Prop :=
  p.1.elementFlags = h.elementFlags ∧ q.1.elementFlags = h'.elementFlags ∧
    (ver = 2 → p.1.elementNameCode = h.elementNameCode ∧
      q.1.elementNameCode = h'.elementNameCode ∧ p.1.elementNumber = h.elementNumber ∧
      q.1.elementNumber = h'.elementNumber ∧ p.1.elementTypeNameCode = h.elementTypeNameCode ∧
      q.1.elementTypeNameCode = h'.elementTypeNameCode) ∧
    (h.AgreeUnread ver h' → q.1.fields = p.1.fields)

theorem elementReadHeader2Ex_fields (r : MessageElementReader) (hs : h.SameStorage h') :
    ResultRel noStatus (ElementFieldsRead 2 h h') (messageElementReaderReadHeader2Ex r h)
      (messageElementReaderReadHeader2Ex r h') := by
  obtain ⟨hname, htypeName, hmeta⟩ := hs
  rw [messageElementReaderReadHeader2Ex, messageElementReaderReadHeader2Ex]
  refine Follows.run' (τ := id) ?_ r.bufferOffset
  repeat refine Follows.refl_bind fun _ => ?_
  refine (hname.readString_2 _).bind fun _ _ hname => ?_
  refine (htypeName.readString_2 _).bind fun _ _ htypeName => ?_
  refine (hmeta.readString_2 _).bind fun _ _ hmeta => ?_
  refine Follows.refl_bind fun _ => ?_
  refine Follows.pure ⟨rfl, rfl, fun _ => ⟨rfl, rfl, rfl, rfl, rfl, rfl⟩, ?_⟩
  rintro ⟨hflags, hcodes⟩
  obtain ⟨hnameCode, hnumber, htypeCode⟩ := hcodes rfl
  simp only [MessageElementHeaderOf.fields, hname, htypeName, hmeta, hflags, hnameCode, hnumber,
    htypeCode]

theorem elementReadHeader4Ex_fields (r : MessageElementReader) (hs : h.SameStorage h') :
    ResultRel noStatus (ElementFieldsRead 4 h h') (messageElementReaderReadHeader4Ex r h)
      (messageElementReaderReadHeader4Ex r h') := by
  obtain ⟨hname, htypeName, hmeta⟩ := hs
  rw [messageElementReaderReadHeader4Ex, messageElementReaderReadHeader4Ex]
  refine Follows.run' (τ := id) ?_ r.bufferOffset
  repeat refine Follows.refl_bind fun _ => ?_
  refine (hname.readIf_2 _ _).bind fun _ _ hname => ?_
  refine (htypeName.readIf_2 _ _).bind fun _ _ htypeName => ?_
  refine (hmeta.readIf_2 _ _).bind fun _ _ hmeta => ?_
  refine Follows.refl_bind fun _ => ?_
  refine Follows.pure ⟨rfl, rfl, fun hver => absurd hver (by decide), ?_⟩
  rintro ⟨hflags, -⟩
  simp only [MessageElementHeaderOf.fields, hname, htypeName, hmeta, hflags]

theorem elementReadHeaderEx_fields (r : MessageElementReader) (hs : h.SameStorage h') :
    ResultRel noStatus (ElementFieldsRead r.messageVersion h h')
      (messageElementReaderReadHeaderEx r h) (messageElementReaderReadHeaderEx r h') := by
  rw [messageElementReaderReadHeaderEx, messageElementReaderReadHeaderEx]
  split
  · next hver =>
      rw [hver]
      exact elementReadHeader2Ex_fields r hs
  · split
    · next hver =>
        rw [hver]
        exact elementReadHeader4Ex_fields r hs
    · exact Or.inr rfl

theorem ElementFieldsRead.fields_eq_iff {ver : UInt16}
    {p q : MessageElementHeader × MessageElementBufferInfo}
    (hread : ElementFieldsRead ver h h' p q) :
    q.1.fields = p.1.fields ↔ h.AgreeUnread ver h' := by
  obtain ⟨hflags, hflags', hcodes, hagree⟩ := hread
  refine ⟨fun heq => ⟨?_, fun hver => ?_⟩, hagree⟩
  · have hsame : q.1.fields.elementFlags = p.1.fields.elementFlags := by rw [heq]
    rw [← hflags, ← hflags']
    exact hsame
  · have hnameSame : q.1.fields.elementNameCode = p.1.fields.elementNameCode := by rw [heq]
    have hnumberSame : q.1.fields.elementNumber = p.1.fields.elementNumber := by rw [heq]
    have htypeSame : q.1.fields.elementTypeNameCode = p.1.fields.elementTypeNameCode := by rw [heq]
    obtain ⟨hname, hname', hnumber, hnumber', htype, htype'⟩ := hcodes hver
    rw [← hname, ← hname', ← hnumber, ← hnumber', ← htype, ← htype']
    exact ⟨hnameSame, hnumberSame, htypeSame⟩

end

/-! ## What is read depends on the bytes -/

/-- What a message header is read to depends on the bytes alone. For an entry header and an
element header it does exactly when the caller's two headers agree on what the version does
not read. -/
theorem header_fromBytes_iff :
    (∀ (r : MessageReader) (h h' : MessageHeader) (p : MessageHeader × MessageReader),
      h.SameStorage h' → messageReaderReadHeader r h = .ok p →
      ComesOutSame (fun p => p.1.fields) p (messageReaderReadHeader r h')) ∧
    (∀ (r : MessageEntryReader) (h h' p : MessageEntryHeader),
      h.SameStorage h' → messageEntryReaderReadHeader r h = .ok p →
      (ComesOutSame MessageEntryHeaderOf.fields p (messageEntryReaderReadHeader r h') ↔
        h.AgreeUnread r.messageVersion h')) ∧
    ∀ (r : MessageElementReader) (h h' p : MessageElementHeader),
      h.SameStorage h' → messageElementReaderReadHeader r h = .ok p →
      (ComesOutSame MessageElementHeaderOf.fields p (messageElementReaderReadHeader r h') ↔
        h.AgreeUnread r.messageVersion h') := by
  refine ⟨?_, ?_, ?_⟩
  · intro r h h' p hs hread
    obtain ⟨q, hq, hfields⟩ := exists_related (messageReaderReadHeader_fields r hs) hread
    exact ⟨q, hq, hfields⟩
  · intro r h h' p hs hread
    rw [messageEntryReaderReadHeader] at hread
    obtain ⟨p', hex, rfl⟩ := map_eq_ok.mp hread
    obtain ⟨q, hq, hfields⟩ := exists_related (entryReadHeaderEx_fields r hs) hex
    rw [← hfields.fields_eq_iff, messageEntryReaderReadHeader, hq]
    exact comesOutSame_ok
  · intro r h h' p hs hread
    rw [messageElementReaderReadHeader] at hread
    obtain ⟨p', hex, rfl⟩ := map_eq_ok.mp hread
    obtain ⟨q, hq, hfields⟩ := exists_related (elementReadHeaderEx_fields r hs) hex
    rw [← hfields.fields_eq_iff, messageElementReaderReadHeader, hq]
    exact comesOutSame_ok

end

section

open Lp64

/-- A version 2 message header with nothing behind it. -/
def bareMessage : BufferVec :=
  ⟨[[0x52, 0x52, 0x41, 0x43, 64, 0, 0, 0, 2, 0, 64, 0] ++ List.replicate 52 0], by decide⟩

/-- The header of an entry, or of an element, with every field zero. -/
def zeroBytes : BufferVec := ⟨[List.replicate 22 0], by decide⟩

/-- A header that was used for an entry with a path code. -/
def usedEntryHeader : MessageEntryHeader :=
  { MessageEntryHeaderOf.zero (.null 0) with servicePathCode := 7, requestId := 3 }

/-- A header that was used for an element with flags. -/
def usedElementHeader : MessageElementHeader :=
  { MessageElementHeaderOf.zero (.null 0) with elementFlags := 1, elementType := 8 }

theorem header_fromBytes :
    ComesOutSame (fun p => p.1.fields)
      ({ MessageHeaderOf.zero (.null 0) with
          messageSize := 64, messageVersion := 2, headerSize := 64
          messageFlags := MESSAGE_FLAGS_VERSION2COMPAT }, ⟨bareMessage, 0, 64, 2⟩)
      (messageReaderReadHeader ⟨bareMessage, 0, 64, 0⟩
        { MessageHeaderOf.zero (.null 0) with messageId := 5 }) ∧
    ComesOutSame MessageEntryHeaderOf.fields (MessageEntryHeaderOf.zero (.null 0))
      (messageEntryReaderReadHeader ⟨zeroBytes, 0, 22, 0, 0, 0, 4⟩ usedEntryHeader) ∧
    ComesOutSame MessageElementHeaderOf.fields (MessageElementHeaderOf.zero (.null 0))
      (messageElementReaderReadHeader ⟨zeroBytes, 0, 22, 0, 0, 1, 4⟩
        { usedElementHeader with elementFlags := 0 }) := by
  obtain ⟨hmessage, hentry, helement⟩ := header_fromBytes_iff
  refine ⟨?_, ?_, ?_⟩
  · exact hmessage ⟨bareMessage, 0, 64, 0⟩ (MessageHeaderOf.zero (.null 0)) _ _ ⟨rfl, rfl, rfl⟩
      (by decide +kernel)
  · have hagree : (MessageEntryHeaderOf.zero (.null 0)).AgreeUnread 4 usedEntryHeader :=
      ⟨rfl, fun h => absurd h (by decide)⟩
    exact (hentry ⟨zeroBytes, 0, 22, 0, 0, 0, 4⟩ (.zero (.null 0)) usedEntryHeader
      (.zero (.null 0)) ⟨rfl, rfl, rfl⟩ (by decide +kernel)).mpr hagree
  · have hagree : (MessageElementHeaderOf.zero (.null 0)).AgreeUnread 4
        { usedElementHeader with elementFlags := 0 } := ⟨rfl, fun h => absurd h (by decide)⟩
    exact (helement ⟨zeroBytes, 0, 22, 0, 0, 1, 4⟩ (.zero (.null 0))
      { usedElementHeader with elementFlags := 0 } (.zero (.null 0)) ⟨rfl, rfl, rfl⟩
      (by decide +kernel)).mpr hagree

/-- A version 2 entry without a path code shows the one that was there before, and an element
of either version shows flags it does not have. -/
theorem usedHeader_showsThrough :
    (messageEntryReaderReadHeader ⟨zeroBytes, 0, 22, 0, 0, 0, 2⟩ (MessageEntryHeaderOf.zero (.null 0)) =
        .ok (MessageEntryHeaderOf.zero (.null 0)) ∧
      ¬ ComesOutSame MessageEntryHeaderOf.fields (MessageEntryHeaderOf.zero (.null 0))
        (messageEntryReaderReadHeader ⟨zeroBytes, 0, 22, 0, 0, 0, 2⟩ usedEntryHeader)) ∧
    messageElementReaderReadHeader ⟨zeroBytes, 0, 22, 0, 0, 1, 4⟩
        (MessageElementHeaderOf.zero (.null 0)) = .ok (MessageElementHeaderOf.zero (.null 0)) ∧
      ¬ ComesOutSame MessageElementHeaderOf.fields (MessageElementHeaderOf.zero (.null 0))
        (messageElementReaderReadHeader ⟨zeroBytes, 0, 22, 0, 0, 1, 4⟩ usedElementHeader) := by
  refine ⟨⟨by decide +kernel, ?_⟩, by decide +kernel, ?_⟩
  · rintro ⟨h, hread, heq⟩
    have hcode : (messageEntryReaderReadHeader ⟨zeroBytes, 0, 22, 0, 0, 0, 2⟩
        usedEntryHeader).map (·.fields.servicePathCode) = .ok 7 := by decide +kernel
    rw [hread] at hcode
    injection hcode with hcode
    dsimp only at hcode
    rw [heq] at hcode
    exact absurd hcode (by decide)
  · rintro ⟨h, hread, heq⟩
    have hflags : (messageElementReaderReadHeader ⟨zeroBytes, 0, 22, 0, 0, 1, 4⟩
        usedElementHeader).map (·.fields.elementFlags) = .ok 1 := by decide +kernel
    rw [hread] at hflags
    injection hflags with hflags
    dsimp only at hflags
    rw [heq] at hflags
    exact absurd hflags (by decide)

end

end RobotRaconteurLite

import RobotRaconteurLite.Proofs.ObjectTypes
import RobotRaconteurLite.Proofs.Registry
import RobotRaconteurLite.Proofs.SpecialRequests
import Mathlib.Data.Nat.Find

/-!
# The service definition that is asked for

A request for a service definition names it in an element with one of two
spellings, or leaves it to the path. Both spellings are looked for, one after the
other, and only what the second look finds is read: a name in the first spelling
is overlooked, and the path decides.

Where the path decides, the root object of its service is read, which a service does
not have until it is set.

What was replied is in the send buffer, and with it the text of the definition. So
what lies there is not two replies with different texts.
-/

namespace RobotRaconteurLite

open OffsetWriter Splice

/-! ## The definitions -/

instance (str : List UInt8) (i : Nat) : Decidable (InnerPeriod str i) :=
  inferInstanceAs (Decidable (1 ≤ i ∧ i + 2 ≤ str.length ∧ str[i]? = some 46))

/-- Where the service type in a qualified type ends, if it has one. -/
def lastInnerPeriod (str : List UInt8) : Option Nat :=
  match Nat.findGreatest (InnerPeriod str) str.length with
  | 0 => none
  | i + 1 => some (i + 1)

theorem lastInnerPeriod_spec {str : List UInt8} {i : Nat} (h : lastInnerPeriod str = some i) :
    LastInnerPeriod str i := by
  rw [lastInnerPeriod] at h
  split at h
  · cases h
  · next k hk =>
      cases h
      refine ⟨Nat.findGreatest_of_ne_zero hk (Nat.succ_ne_zero k), fun j hj hinner => ?_⟩
      have hinside := hinner.2.1
      have hgreater : Nat.findGreatest (InnerPeriod str) str.length < j := by
        rw [hk]
        exact hj
      exact Nat.findGreatest_is_greatest hgreater (by omega) hinner

theorem lastInnerPeriod_none {str : List UInt8} (h : lastInnerPeriod str = none) (i : Nat) :
    ¬ InnerPeriod str i := by
  intro hinner
  obtain ⟨hfront, hinside, -⟩ := id hinner
  rw [lastInnerPeriod] at h
  split at h
  · next hzero => exact Nat.findGreatest_eq_zero_iff.mp hzero hfront (by omega) hinner
  · cases h

section

variable [SizeT]

/-- The definition that is registered under a name. None is under the empty one. -/
def definitionNamed (serviceDefs : List ServiceDefinition) (name : List UInt8) :
    Option ServiceDefinition :=
  serviceDefs.find? fun c => name ≠ [] ∧ c.qualifiedName.data = name

/-- The definition that a qualified type is from. -/
def definitionOfType (serviceDefs : List ServiceDefinition) (qualifiedType : List UInt8) :
    Option ServiceDefinition :=
  (lastInnerPeriod qualifiedType).bind fun i => definitionNamed serviceDefs (qualifiedType.take i)

/-- The definition of the root object of the service that a path belongs to. -/
def definitionOfPath (node : Node) (services : List Nat) (serviceDefs : List ServiceDefinition)
    (servicePath : ConstString) : Option ServiceDefinition :=
  (nodeFindServiceForPath node services servicePath).bind fun srv =>
    (node.service srv).rootServiceObject.bind fun rootServiceObject =>
      definitionOfType serviceDefs rootServiceObject.qualifiedType.data

theorem findServiceDefinition_named (serviceDefs : List ServiceDefinition) (name : List UInt8) :
    findServiceDefinition serviceDefs name = definitionNamed serviceDefs name := by
  by_cases hname : name = []
  · rw [findServiceDefinition, if_pos (List.length_eq_zero_iff.mpr hname), definitionNamed]
    exact (List.find?_eq_none.mpr fun c _ => by simp [hname]).symm
  · rw [findServiceDefinition_eq serviceDefs hname, definitionNamed]
    simp only [ne_eq, hname, not_false_eq_true, true_and]

theorem findServiceDefinitionForEntry_ofType (serviceDefs : List ServiceDefinition)
    (qualifiedType : List UInt8) :
    findServiceDefinitionForEntry serviceDefs qualifiedType =
      definitionOfType serviceDefs qualifiedType := by
  cases hi : lastInnerPeriod qualifiedType with
  | none =>
      rw [findServiceDefinitionForEntry_none (lastInnerPeriod_none hi), definitionOfType, hi,
        Option.bind_none]
  | some i =>
      have hlast := lastInnerPeriod_spec hi
      have hne : qualifiedType.take i ≠ [] := by
        have h1 := hlast.1.1
        have h2 := hlast.1.2.1
        rw [Ne, List.take_eq_nil_iff, not_or]
        exact ⟨by omega, List.ne_nil_of_length_pos (by omega)⟩
      rw [findServiceDefinitionForEntry_eq hlast, definitionOfType, hi, Option.bind_some,
        ← findServiceDefinition_named, findServiceDefinition_eq serviceDefs hne]

/-! ## The request -/

/-- The two spellings of the element that names a definition. -/
def servicetypeSpellings : List (List UInt8) := [SERVICETYPE_LOWER, SERVICETYPE]

/-- What a request asks for: the spelling and the text of the one element that names a
definition, or nothing but its path. -/
inductive AsksFor (elements : List ElementTree) : Option (List UInt8 × List UInt8) → Prop
  | servicetype {before after : List ElementTree} {element : ElementTree}
      {servicetype : List UInt8} (split : elements = before ++ element :: after)
      (spelled : element.name.data ∈ servicetypeSpellings)
      (holds : element.HoldsString servicetype)
      (short : servicetype.length ≤ MESSAGE_STR_MAX_SIZE)
      (only : ∀ other ∈ before ++ after, other.name.data ∉ servicetypeSpellings) :
      AsksFor elements (some (element.name.data, servicetype))
  | path (unnamed : ∀ other ∈ elements, other.name.data ∉ servicetypeSpellings) :
      AsksFor elements none

/-- The element that names a definition is in one of the two spellings. -/
theorem AsksFor.spelled {elements : List ElementTree} {asked : Option (List UInt8 × List UInt8)}
    (h : AsksFor elements asked) : asked = none ∨ ∃ servicetype,
      asked = some (SERVICETYPE_LOWER, servicetype) ∨ asked = some (SERVICETYPE, servicetype) := by
  cases h with
  | path unnamed => exact Or.inl rfl
  | @servicetype _ _ element servicetype _ spelled _ _ _ =>
      rw [servicetypeSpellings, List.mem_pair] at spelled
      rcases spelled with hname | hname
      · exact Or.inr ⟨servicetype, Or.inl (by rw [hname])⟩
      · exact Or.inr ⟨servicetype, Or.inr (by rw [hname])⟩

/-- The definition that is asked for. -/
def definitionAsked (node : Node) (services : List Nat) (serviceDefs : List ServiceDefinition)
    (servicePath : ConstString) : Option (List UInt8 × List UInt8) → Option ServiceDefinition
  | some (_, servicetype) => definitionNamed serviceDefs servicetype
  | none => definitionOfPath node services serviceDefs servicePath

/-- The entry of a reply: a response with the text of the definition and no attributes, or with the
error that the service is not found. -/
def replyEntry (event : Event) : Option ServiceDefinition → EntryTree
  | some serviceDef => ⟨responseHeader event.requestHeader,
      [stringElement SERVICEDEF serviceDef.serviceDefinition,
        .nested { MessageElementHeaderOf.zero (.constant []) with
          elementType := DATATYPE_MAP_STRING, elementName := .constant ATTRIBUTES } []]⟩
  | none => ⟨{ responseHeader event.requestHeader with error := MESSAGEERRORTYPE_SERVICENOTFOUND },
      [stringElement ERRORNAME (.constant SERVICE_NOT_FOUND),
        stringElement ERRORSTRING (.constant SERVICE_NOT_FOUND_MESSAGE)]⟩

/-- The header of the message that it is in. A definition goes to the endpoint that asked, an error
to the one of the connection. -/
def replyMessageHeader (node : Node) (event : Event) : Option ServiceDefinition → MessageConstHeader
  | some _ => senderMessageHeader node event
  | none => nodeMessageHeader node (node.connection event.connection)

/-- The reply is sent. -/
def sendReply (node : Node) (event : Event) (serviceDef : Option ServiceDefinition) :
    Result Unit × Node :=
  let entry := replyEntry event serviceDef
  match serviceDef with
  | some _ => nodeSendResponseToSender node event entry.elements
  | none => nodeSendMessageentry node event.connection entry.header entry.elements

/-- A call that replied with a definition, or that there is none: it queued one message, which lies
in the send buffer. -/
structure Replies (node : Node) (event : Event) (serviceDef : Option ServiceDefinition)
    (outcome : Result Unit × Node) : Prop where
  ok : outcome.1 = .ok ()
  queued : outcome.2.effects =
    node.effects ++ [.queued event.connection (replyEntry event serviceDef).header]
  sent : (outcome.2.connection event.connection).SentEntry
    (node.connection event.connection).messageVersion
    (~~~(node.connection event.connection).messageFlagsInvMask)
    (replyMessageHeader node event serviceDef) (replyEntry event serviceDef)

/-- The name in a request is read and the path has what it is asked for: the naming element is not
in the first spelling, or the path leads to the same text, and where the path decides, its service
has a root object. -/
structure AnsweredRight (node : Node) (services : List Nat) (serviceDefs : List ServiceDefinition)
    (servicePath : ConstString) (asked : Option (List UInt8 × List UInt8)) : Prop where
  spelling : (∀ servicetype, asked ≠ some (SERVICETYPE_LOWER, servicetype)) ∨
    (definitionAsked node services serviceDefs servicePath asked).map
        ServiceDefinition.serviceDefinition =
      (definitionOfPath node services serviceDefs servicePath).map
        ServiceDefinition.serviceDefinition
  rooted : (∀ servicetype, asked ≠ some (SERVICETYPE, servicetype)) →
    ∀ srv, nodeFindServiceForPath node services servicePath = some srv →
      (node.service srv).rootServiceObject ≠ none

section

variable {node : Node} {event : Event} {services : List Nat} {serviceDefs : List ServiceDefinition}

theorem replyServiceDef_send (node : Node) (event : Event) (serviceDef : ServiceDefinition) :
    replyServiceDef node event serviceDef.serviceDefinition = sendReply node event (some serviceDef) :=
  rfl

/-- A request is an odd entry type, so the error is sent. -/
theorem replyServiceNotFound_send (hodd : event.requestHeader.entryType &&& 1 ≠ 0) :
    replyServiceNotFound node event = sendReply node event none :=
  if_neg hodd

theorem replyServiceDefForPath_eq (hodd : event.requestHeader.entryType &&& 1 ≠ 0)
    (hrooted : ∀ srv, nodeFindServiceForPath node services event.requestHeader.servicePath = some srv →
      (node.service srv).rootServiceObject ≠ none) :
    replyServiceDefForPath node event services serviceDefs =
      sendReply node event
        (definitionOfPath node services serviceDefs event.requestHeader.servicePath) := by
  rw [replyServiceDefForPath, definitionOfPath]
  cases hfound : nodeFindServiceForPath node services event.requestHeader.servicePath with
  | none => exact replyServiceNotFound_send hodd
  | some srv =>
      obtain ⟨root, hroot⟩ := Option.ne_none_iff_exists'.mp (hrooted srv hfound)
      simp only [Option.bind_some, hroot, findServiceDefinitionForEntry_ofType]
      cases definitionOfType serviceDefs root.qualifiedType.data with
      | none => exact replyServiceNotFound_send hodd
      | some serviceDef => exact replyServiceDef_send node event serviceDef

/-- Without a root object there is no reply. -/
theorem replyServiceDefForPath_unrooted {srv : Nat}
    (hfound : nodeFindServiceForPath node services event.requestHeader.servicePath = some srv)
    (hroot : (node.service srv).rootServiceObject = none) :
    (replyServiceDefForPath node event services serviceDefs).1 = .error .undefined := by
  rw [replyServiceDefForPath, hfound]
  dsimp only
  rw [hroot]

variable {messageVersion : UInt16} {entry : EntryTree}

/-- Where the element is the one that is read, its text decides. -/
theorem replyByServicetype_holds {buffer : BufferVec} {start : Nat} {before after : List ElementTree}
    {element : ElementTree} {servicetype : List UInt8}
    (hodd : event.requestHeader.entryType &&& 1 ≠ 0)
    (h : LieAt buffer messageVersion start (before ++ element :: after))
    (hholds : element.HoldsString servicetype) (hshort : servicetype.length ≤ MESSAGE_STR_MAX_SIZE) :
    specialRequestServiceDefinition.replyByServicetype node event services serviceDefs
        (.ok (readerAt buffer messageVersion start before element after)) =
      sendReply node event (definitionNamed serviceDefs servicetype) := by
  have hmod := SizeT.le_modulus
  have hread := readDataString_of_lieAt h hholds
    (show 2 * MESSAGE_STR_MAX_SIZE < SizeT.modulus by rw [MESSAGE_STR_MAX_SIZE]; omega) hshort
  rw [specialRequestServiceDefinition.replyByServicetype, hread]
  dsimp only
  rw [findServiceDefinition_named]
  cases definitionNamed serviceDefs servicetype with
  | none => exact replyServiceNotFound_send hodd
  | some serviceDef => exact replyServiceDef_send node event serviceDef

/-- What the two looks find, in their order. -/
theorem specialRequestServiceDefinition_looks (hservices : node.servicesHead = some services)
    (hdefs : node.serviceDefsHead = some serviceDefs) {found found' : Result MessageElementReader}
    (hlower : messageEntryReaderFindElement event.receivedMessage.entryReader
      (.constant SERVICETYPE_LOWER) = found)
    (hupper : messageEntryReaderFindElement event.receivedMessage.entryReader
      (.constant SERVICETYPE) = found')
    (hfirst : found = .error .messageElementNotFound ∨ ∃ r, found = .ok r) :
    specialRequestServiceDefinition node event =
      specialRequestServiceDefinition.replyByServicetype node event services serviceDefs found' := by
  rw [specialRequestServiceDefinition, hservices, hdefs]
  dsimp only
  rw [hlower, hupper]
  rcases hfirst with rfl | ⟨r, rfl⟩
  · exact if_neg (not_not.mpr rfl)
  · rfl

/-- The request as the code answers it: a name in the first spelling is overlooked. -/
def heard : Option (List UInt8 × List UInt8) → Option (List UInt8 × List UInt8)
  | some (spelling, servicetype) =>
      if spelling = SERVICETYPE_LOWER then none else some (spelling, servicetype)
  | none => none

/-- What was heard decides: a name, or the path. -/
theorem specialRequestServiceDefinition_eq (hservices : node.servicesHead = some services)
    (hdefs : node.serviceDefsHead = some serviceDefs)
    (hodd : event.requestHeader.entryType &&& 1 ≠ 0)
    (hholds : event.receivedMessage.entryReader.Holds messageVersion entry)
    {asked : Option (List UInt8 × List UInt8)} (hasks : AsksFor entry.elements asked) :
    specialRequestServiceDefinition node event =
      match heard asked with
      | some (_, servicetype) => sendReply node event (definitionNamed serviceDefs servicetype)
      | none => replyServiceDefForPath node event services serviceDefs := by
  have hlower := hholds.findsFirst (.constant SERVICETYPE_LOWER)
  have hupper := hholds.findsFirst (.constant SERVICETYPE)
  have hlowerSpelling : SERVICETYPE_LOWER ∈ servicetypeSpellings := List.mem_cons_self
  have hupperSpelling : SERVICETYPE ∈ servicetypeSpellings := by decide
  have hdiffer : SERVICETYPE_LOWER ≠ SERVICETYPE := by decide
  have hbyPath : specialRequestServiceDefinition.replyByServicetype node event services serviceDefs
      (.error .messageElementNotFound) = replyServiceDefForPath node event services serviceDefs := by
    rw [specialRequestServiceDefinition.replyByServicetype]
    exact if_neg (not_not.mpr rfl)
  cases hasks with
  | path hunnamed =>
      have hnot {spelling : List UInt8} (hspelling : spelling ∈ servicetypeSpellings) :
          ∀ other ∈ entry.elements, other.name.data ≠ spelling :=
        fun other hmem heq => hunnamed other hmem (heq ▸ hspelling)
      rw [specialRequestServiceDefinition_looks hservices hdefs
        (hlower.error_of_none (hnot hlowerSpelling)) (hupper.error_of_none (hnot hupperSpelling))
        (Or.inl rfl), hbyPath]
      rfl
  | @servicetype before after element servicetype hsplit hspelled hstring hshort honly =>
      have hnot {spelling : List UInt8} (hspelling : spelling ∈ servicetypeSpellings) :
          ∀ other ∈ before ++ after, other.name.data ≠ spelling :=
        fun other hmem heq => honly other hmem (heq ▸ hspelling)
      have hlie := hholds.lieAt (by rw [hsplit]; simp)
      rw [hsplit] at hlower hupper hlie
      rw [servicetypeSpellings, List.mem_pair] at hspelled
      have hothers {spelling : List UInt8} (hspelling : spelling ∈ servicetypeSpellings)
          (hdiffers : element.name.data ≠ spelling) :
          ∀ other ∈ before ++ element :: after, other.name.data ≠ spelling := by
        obtain ⟨hbefore, hafter⟩ := List.forall_mem_append.mp (hnot hspelling)
        exact List.forall_mem_append.mpr ⟨hbefore, List.forall_mem_cons.mpr ⟨hdiffers, hafter⟩⟩
      rcases hspelled with hname | hname
      · have hfirst := hlower.ok_of_first
          (List.forall_mem_append.mp (hnot hlowerSpelling)).1 hname
        have hsecond := hupper.error_of_none
          (hothers hupperSpelling (hname.trans_ne hdiffer))
        rw [specialRequestServiceDefinition_looks hservices hdefs hfirst hsecond (Or.inr ⟨_, rfl⟩),
          hbyPath, heard, if_pos hname]
      · have hfirst := hlower.error_of_none
          (hothers hlowerSpelling (hname.trans_ne hdiffer.symm))
        have hsecond := hupper.ok_of_first
          (List.forall_mem_append.mp (hnot hupperSpelling)).1 hname
        rw [specialRequestServiceDefinition_looks hservices hdefs hfirst hsecond (Or.inl rfl),
          replyByServicetype_holds hodd hlie hstring hshort, heard,
          if_neg (hname.trans_ne hdiffer.symm)]

/-! ## What a reply tells -/

theorem nodeSendMessageentry_effects {node' : Node} {i : Nat} {header : MessageEntryConstHeader}
    {elements : List ElementTree}
    (h : nodeSendMessageentry node i header elements = (.ok (), node')) :
    node'.effects = node.effects ++ [.queued i header] := by
  rcases nodeSendMessageentry_cases node i header elements with ⟨e, b, hfails⟩ | ⟨b, len, hsends⟩
  · cases h.symm.trans hfails
  · cases h.symm.trans hsends
    rfl

theorem nodeSendResponseToSender_effects {node' : Node} {elements : List ElementTree}
    (h : nodeSendResponseToSender node event elements = (.ok (), node')) :
    node'.effects =
      node.effects ++ [.queued event.connection (responseHeader event.requestHeader)] := by
  rcases nodeSendResponseToSender_cases node event elements with ⟨e, b, hfails⟩ | ⟨b, len, hsends⟩
  · cases h.symm.trans hfails
  · cases h.symm.trans hsends
    rfl

/-- A reply that was sent. -/
theorem replies_of_sent {node' : Node} {serviceDef : Option ServiceDefinition}
    (h : sendReply node event serviceDef = (.ok (), node')) :
    Replies node event serviceDef (.ok (), node') := by
  cases serviceDef with
  | some serviceDef =>
      exact ⟨rfl, nodeSendResponseToSender_effects h, nodeSendResponseToSender_sent h⟩
  | none => exact ⟨rfl, nodeSendMessageentry_effects h, nodeSendMessageentry_sent h⟩

/-- A reply with a definition does not start with the name of an error. -/
theorem Replies.not_error {serviceDef : ServiceDefinition} {outcome : Result Unit × Node}
    (h : Replies node event (some serviceDef) outcome) : ¬ Replies node event none outcome := by
  intro hnone
  have hqueued := hnone.queued
  rw [h.queued] at hqueued
  have hheader := List.append_cancel_left hqueued
  injection hheader with hheader
  injection hheader with _ hheader
  have hsent := hnone.sent
  have hsplit : replyEntry event none = ⟨(replyEntry event none).header,
      (replyEntry event none).elements⟩ := rfl
  rw [hsplit, ← hheader] at hsent
  obtain ⟨hname, -⟩ := hsent.first_alike h.sent (fun _ => trivial) fun _ => trivial
  have hlen : (ConstString.constant ERRORNAME).len = 9 := rfl
  have hlen' : (ConstString.constant SERVICEDEF).len = 10 := rfl
  exact absurd (hlen.symm.trans (hname.trans hlen')) (by decide)

/-- So what was queued tells the text that it has, if any. -/
theorem Replies.tells {serviceDef serviceDef' : Option ServiceDefinition}
    {outcome : Result Unit × Node} (h : Replies node event serviceDef outcome)
    (h' : Replies node event serviceDef' outcome) :
    serviceDef.map ServiceDefinition.serviceDefinition =
      serviceDef'.map ServiceDefinition.serviceDefinition := by
  cases serviceDef with
  | none =>
      cases serviceDef' with
      | none => rfl
      | some serviceDef' => exact absurd h h'.not_error
  | some serviceDef =>
      cases serviceDef' with
      | none => exact absurd h' h.not_error
      | some serviceDef' =>
          obtain ⟨-, hpayload⟩ := h.sent.first_alike h'.sent (fun _ => trivial) fun _ => trivial
          obtain ⟨name, text, haddressable⟩ := serviceDef
          obtain ⟨name', text', haddressable'⟩ := serviceDef'
          cases hpayload
          rfl

theorem sendReply_congr {serviceDef serviceDef' : Option ServiceDefinition}
    (h : serviceDef.map ServiceDefinition.serviceDefinition =
      serviceDef'.map ServiceDefinition.serviceDefinition) :
    sendReply node event serviceDef = sendReply node event serviceDef' := by
  cases serviceDef with
  | none =>
      cases serviceDef' with
      | none => rfl
      | some serviceDef' => cases h
  | some serviceDef =>
      cases serviceDef' with
      | none => cases h
      | some serviceDef' =>
          injection h with h
          rw [← replyServiceDef_send, ← replyServiceDef_send, h]

theorem replies_of_ok {serviceDef : Option ServiceDefinition}
    (h : (sendReply node event serviceDef).1 = .ok ()) :
    Replies node event serviceDef (sendReply node event serviceDef) := by
  obtain ⟨node', hsent⟩ : ∃ node', sendReply node event serviceDef = (.ok (), node') :=
    ⟨_, Prod.ext h rfl⟩
  rw [hsent]
  exact replies_of_sent hsent

/-- Where the path decides, it answers right if the service has a root object and the text is the
one that is asked for. -/
theorem honours_byPath {asked : Option (List UInt8 × List UInt8)}
    (hodd : event.requestHeader.entryType &&& 1 ≠ 0)
    (hanswer : specialRequestServiceDefinition node event =
      replyServiceDefForPath node event services serviceDefs)
    (hpath : (∀ servicetype, asked ≠ some (SERVICETYPE_LOWER, servicetype)) →
      definitionAsked node services serviceDefs event.requestHeader.servicePath asked =
        definitionOfPath node services serviceDefs event.requestHeader.servicePath)
    (hnot : ∀ servicetype, asked ≠ some (SERVICETYPE, servicetype)) :
    (AnsweredRight node services serviceDefs event.requestHeader.servicePath asked →
      specialRequestServiceDefinition node event = sendReply node event
        (definitionAsked node services serviceDefs event.requestHeader.servicePath asked)) ∧
    (Replies node event
        (definitionAsked node services serviceDefs event.requestHeader.servicePath asked)
        (specialRequestServiceDefinition node event) →
      AnsweredRight node services serviceDefs event.requestHeader.servicePath asked) := by
  rw [hanswer]
  constructor
  · intro h
    rw [replyServiceDefForPath_eq hodd (h.rooted hnot)]
    refine sendReply_congr ?_
    rcases h.spelling with hlower | htexts
    · rw [hpath hlower]
    · exact htexts.symm
  · intro h
    have hrooted : ∀ srv,
        nodeFindServiceForPath node services event.requestHeader.servicePath = some srv →
          (node.service srv).rootServiceObject ≠ none := by
      intro srv hfound hroot
      cases (replyServiceDefForPath_unrooted hfound hroot).symm.trans h.ok
    rw [replyServiceDefForPath_eq hodd hrooted] at h
    exact ⟨Or.inr (h.tells (replies_of_ok h.ok)), fun _ => hrooted⟩

/-- A request that names no definition, or names it in the second spelling, is answered with what
it asks for. One that names it in the first spelling is answered so if and only if the definition
of the path has the same text. Where the path decides, its service has to have a root object. -/
theorem specialRequestServiceDefinition_honours_iff (hservices : node.servicesHead = some services)
    (hdefs : node.serviceDefsHead = some serviceDefs)
    (hType : event.requestHeader.entryType = MESSAGEENTRYTYPE_GETSERVICEDESC)
    (hholds : event.receivedMessage.entryReader.Holds messageVersion entry)
    {asked : Option (List UInt8 × List UInt8)} (hasks : AsksFor entry.elements asked) :
    (AnsweredRight node services serviceDefs event.requestHeader.servicePath asked →
      specialRequestServiceDefinition node event = sendReply node event
        (definitionAsked node services serviceDefs event.requestHeader.servicePath asked)) ∧
    ((sendReply node event
        (definitionAsked node services serviceDefs event.requestHeader.servicePath asked)).1 = .ok () →
      (Replies node event
          (definitionAsked node services serviceDefs event.requestHeader.servicePath asked)
          (specialRequestServiceDefinition node event) ↔
        AnsweredRight node services serviceDefs event.requestHeader.servicePath asked)) := by
  have hodd : event.requestHeader.entryType &&& 1 ≠ 0 := by
    rw [hType]
    decide
  have hdiffer : SERVICETYPE ≠ SERVICETYPE_LOWER := by decide
  have hanswer := specialRequestServiceDefinition_eq hservices hdefs hodd hholds hasks
  have hhonours : (AnsweredRight node services serviceDefs event.requestHeader.servicePath asked →
      specialRequestServiceDefinition node event = sendReply node event
        (definitionAsked node services serviceDefs event.requestHeader.servicePath asked)) ∧
      (Replies node event
          (definitionAsked node services serviceDefs event.requestHeader.servicePath asked)
          (specialRequestServiceDefinition node event) →
        AnsweredRight node services serviceDefs event.requestHeader.servicePath asked) := by
    rcases hasks.spelled with rfl | ⟨servicetype, rfl | rfl⟩
    · exact honours_byPath hodd hanswer (fun _ => rfl) fun _ h => by cases h
    · refine honours_byPath hodd (hanswer.trans ?_) (fun h => absurd rfl (h servicetype))
        fun other h => hdiffer (congrArg Prod.fst (Option.some.inj h)).symm
      rw [heard, if_pos rfl]
    · rw [heard, if_neg hdiffer] at hanswer
      exact ⟨fun _ => hanswer, fun _ =>
        ⟨Or.inl fun other h => hdiffer (congrArg Prod.fst (Option.some.inj h)),
          fun h => absurd rfl (h servicetype)⟩⟩
  refine ⟨hhonours.1, fun hok => ⟨hhonours.2, fun hright => ?_⟩⟩
  rw [hhonours.1 hright]
  exact replies_of_ok hok

end

end

section

open Lp64

/-- Two definitions, `a` and `b`. -/
def definingDefs : List ServiceDefinition :=
  [⟨.constant [0x61], .constant [1]⟩, ⟨.constant [0x62], .constant [2]⟩]

/-- The root object of a service, of the type `a.t`. -/
def definingRoot : ServiceObjectRecord :=
  ⟨.constant [0x73], .constant [0x61, 46, 0x74], .constant [], false⟩

/-- A service at `s` with that object. -/
def definingNode : Node :=
  { askedNode (List.replicate 512 0) with
    servicesHead := some [0]
    service := fun _ => ⟨.constant [0x73], [definingRoot], some definingRoot, false⟩
    serviceDefsHead := some definingDefs }

/-- The header of a request at `s`. -/
def definitionHeader : MessageEntryConstHeader :=
  { MessageEntryHeaderOf.zero (.constant []) with
    entryType := MESSAGEENTRYTYPE_GETSERVICEDESC, servicePath := .constant [0x73] }

/-- A request for the definition `b`, in one of the spellings. -/
def definitionEntry (spelling : List UInt8) : EntryTree :=
  ⟨definitionHeader, [stringElement spelling (.constant [0x62])]⟩

/-- That request, received. -/
def definitionRequest (spelling : List UInt8) : Event :=
  ⟨.messageReceived, 0, 0, { ReceivedMessage.zero with
    receivedMessageEntryHeader := definitionHeader
    entryReader :=
      ⟨⟨[(entryBytes 2 (definitionEntry spelling)).take 128], by
        rw [List.flatten_singleton]
        exact addressable_take _⟩, 0, (entryBytes 2 (definitionEntry spelling)).length, 0, 0, 0, 2⟩ },
    .ok ()⟩

theorem definitionRequest_holds {spelling : List UInt8}
    (hshort : (entryBytes 2 (definitionEntry spelling)).length ≤ 128) :
    (definitionRequest spelling).receivedMessage.entryReader.Holds 2 (definitionEntry spelling) := by
  have hstrings : definitionHeader.StringsWithin UINT16_MAX := ⟨by decide, by decide, by decide⟩
  have hwide : definitionHeader.StringsWithin UINT32_MAX := ⟨by decide, by decide, by decide⟩
  have hbytes : (⟨[(entryBytes 2 (definitionEntry spelling)).take 128], by
      rw [List.flatten_singleton]
      exact addressable_take _⟩ : BufferVec).bytes = entryBytes 2 (definitionEntry spelling) := by
    rw [BufferVec.bytes, List.flatten_singleton, List.take_of_length_le hshort]
  exact {
    written := ⟨Or.inl rfl, hwide, ⟨stringElement_written (by decide), trivial⟩,
      (by decide : 1 ≤ UINT32_MAX)⟩
    legible := fun _ => ⟨hstrings, (by decide : 1 ≤ UINT16_MAX), trivial, trivial⟩
    one := rfl
    version_eq := rfl
    count_eq := rfl
    there := at_zero_iff.mpr ⟨[], by rw [List.append_nil]; exact hbytes.symm⟩ }

theorem definitionRequest_asks {spelling : List UInt8}
    (hspelled : (ConstString.constant spelling).data = spelling)
    (hmem : spelling ∈ servicetypeSpellings) :
    AsksFor (definitionEntry spelling).elements (some (spelling, [0x62])) := by
  have hname : (stringElement spelling (.constant [0x62])).name.data = spelling := hspelled
  have hasks : AsksFor (definitionEntry spelling).elements
      (some ((stringElement spelling (.constant [0x62])).name.data, [0x62])) :=
    .servicetype (List.nil_append _).symm (by rwa [hname]) (stringElement_holdsString _ _)
      (by decide) fun _ hother => absurd hother List.not_mem_nil
  rwa [hname] at hasks

/-- The request in the second spelling is answered with `b`. -/
theorem definitionRequest_honoured :
    Replies definingNode (definitionRequest SERVICETYPE) (some ⟨.constant [0x62], .constant [2]⟩)
      (specialRequestServiceDefinition definingNode (definitionRequest SERVICETYPE)) := by
  have hservices : definingNode.servicesHead = some [0] := rfl
  have hdefs : definingNode.serviceDefsHead = some definingDefs := rfl
  have hType : (definitionRequest SERVICETYPE).requestHeader.entryType =
    MESSAGEENTRYTYPE_GETSERVICEDESC := rfl
  have hdiffer : SERVICETYPE ≠ SERVICETYPE_LOWER := by decide
  have hright : AnsweredRight definingNode [0] definingDefs
      (definitionRequest SERVICETYPE).requestHeader.servicePath (some (SERVICETYPE, [0x62])) :=
    ⟨Or.inl fun servicetype h => hdiffer (congrArg Prod.fst (Option.some.inj h)),
      fun h => absurd rfl (h [0x62])⟩
  have hasked : definitionAsked definingNode [0] definingDefs
      (definitionRequest SERVICETYPE).requestHeader.servicePath (some (SERVICETYPE, [0x62])) =
      some ⟨.constant [0x62], .constant [2]⟩ := by decide
  have hholds := definitionRequest_holds
    (by decide +kernel : (entryBytes 2 (definitionEntry SERVICETYPE)).length ≤ 128)
  have hasks := definitionRequest_asks (by decide : (ConstString.constant SERVICETYPE).data = _)
    (by decide)
  have hanswer := (specialRequestServiceDefinition_honours_iff hservices hdefs hType hholds hasks).2
  rw [hasked] at hanswer
  exact (hanswer (by decide +kernel)).mpr hright

/-- In the first spelling it is answered with the definition of the path. -/
theorem definitionRequest_overlooked :
    (definitionRequest SERVICETYPE_LOWER).receivedMessage.entryReader.Holds 2
        (definitionEntry SERVICETYPE_LOWER) ∧
      AsksFor (definitionEntry SERVICETYPE_LOWER).elements (some (SERVICETYPE_LOWER, [0x62])) ∧
      definitionNamed definingDefs [0x62] = some ⟨.constant [0x62], .constant [2]⟩ ∧
      (sendReply definingNode (definitionRequest SERVICETYPE_LOWER)
        (some ⟨.constant [0x62], .constant [2]⟩)).1 = .ok () ∧
      ¬ Replies definingNode (definitionRequest SERVICETYPE_LOWER)
          (some ⟨.constant [0x62], .constant [2]⟩)
          (specialRequestServiceDefinition definingNode (definitionRequest SERVICETYPE_LOWER)) := by
  refine ⟨definitionRequest_holds (by decide +kernel),
    definitionRequest_asks (by decide) (by decide), by decide, by decide +kernel, fun h => ?_⟩
  -- What it replied is the definition of the path.
  have hpath : Replies definingNode (definitionRequest SERVICETYPE_LOWER)
      (some ⟨.constant [0x61], .constant [1]⟩)
      (specialRequestServiceDefinition definingNode (definitionRequest SERVICETYPE_LOWER)) := by
    have hodd : (definitionRequest SERVICETYPE_LOWER).requestHeader.entryType &&& 1 ≠ 0 := by decide
    have hservices : definingNode.servicesHead = some [0] := rfl
    have hdefs : definingNode.serviceDefsHead = some definingDefs := rfl
    have hholds := definitionRequest_holds
      (by decide +kernel : (entryBytes 2 (definitionEntry SERVICETYPE_LOWER)).length ≤ 128)
    have hasks := definitionRequest_asks
      (by decide : (ConstString.constant SERVICETYPE_LOWER).data = _) (by decide)
    have hanswer := specialRequestServiceDefinition_eq hservices hdefs hodd hholds hasks
    rw [heard, if_pos rfl] at hanswer
    dsimp only at hanswer
    rw [hanswer, replyServiceDefForPath_eq hodd fun srv _ h => by cases h]
    exact replies_of_ok (by decide +kernel)
  exact absurd (h.tells hpath) (by decide)

/-- Before the service has its root object, the path leads to none. -/
example : (specialRequestServiceDefinition { definingNode with
    service := fun _ => ⟨.constant [0x73], [], none, false⟩ }
    (definitionRequest SERVICETYPE_LOWER)).1 = .error .undefined := by
  decide +kernel

end

end RobotRaconteurLite

import RobotRaconteurLite.Strings
import RobotRaconteurLite.Lib.LinkedList

/-!
# The objects of a service

A node keeps the objects of a service in a list whose links lie in the objects,
which the application owns. The first object of the list is the root object, and
a request finds its object by walking from it. The list's head is itself an
object, a part of the service.

An assertion that fails ends the program, and what a build without assertions
does there is modelled. A loop over the links ends only when they do, so it runs
on fuel, and a call that runs out of it has not returned.
-/

namespace RobotRaconteurLite

open LinkedList

/-! ## Service paths -/

/-- A path is the service's own name or goes on after it with a period. -/
def IsServicePathPrefix (pathPrefix servicePath : List UInt8) : Prop :=
  servicePath = pathPrefix ∨ ∃ rest, servicePath = pathPrefix ++ 46 :: rest

theorem IsServicePathPrefix.ne_nil {pathPrefix servicePath : List UInt8}
    (h : IsServicePathPrefix pathPrefix servicePath) (hne : pathPrefix ≠ []) : servicePath ≠ [] := by
  rcases h with rfl | ⟨rest, rfl⟩
  · exact hne
  · simp

def nodeIsServicePathPrefix (pathPrefix servicePath : List UInt8) : Bool :=
  if servicePath.length < pathPrefix.length then false
  else if servicePath.length = pathPrefix.length then
    memcmp pathPrefix.length servicePath pathPrefix = 0
  else
    memcmp pathPrefix.length servicePath pathPrefix = 0 && servicePath.getD pathPrefix.length 0 == 46

theorem nodeIsServicePathPrefix_iff {pathPrefix servicePath : List UInt8} :
    nodeIsServicePathPrefix pathPrefix servicePath = true ↔
      IsServicePathPrefix pathPrefix servicePath := by
  rw [nodeIsServicePathPrefix, IsServicePathPrefix]
  split
  case isTrue hlt =>
    refine iff_of_false (by simp) ?_
    rintro (rfl | ⟨rest, rfl⟩)
    · omega
    · simp at hlt
  case isFalse hlt =>
    have hlen : pathPrefix.length ≤ servicePath.length := by omega
    have hcmp := memcmp_eq_zero_iff hlen (Nat.le_refl pathPrefix.length)
    rw [List.take_length] at hcmp
    split
    case isTrue heq =>
      rw [decide_eq_true_iff, hcmp, ← heq, List.take_length]
      constructor
      · intro h
        exact Or.inl h
      · rintro (h | ⟨rest, h⟩)
        · exact h
        · have hlen := congrArg List.length h
          simp at hlen
          omega
    case isFalse hne =>
      rw [Bool.and_eq_true, decide_eq_true_iff, hcmp, beq_iff_eq]
      constructor
      · rintro ⟨htake, hperiod⟩
        refine Or.inr ⟨servicePath.drop (pathPrefix.length + 1), ?_⟩
        have hget : servicePath.drop pathPrefix.length =
            46 :: servicePath.drop (pathPrefix.length + 1) := by
          have hlen : pathPrefix.length < servicePath.length := by omega
          rw [List.drop_eq_getElem_cons hlen, ← hperiod]
          simp [List.getD, List.getElem?_eq_getElem hlen]
        rw [← hget]
        conv => rhs; lhs; rw [← htake]
        rw [List.take_append_drop]
      · rintro (h | ⟨rest, h⟩)
        · exact absurd (by rw [h]) hne
        · subst h
          simp

instance (pathPrefix servicePath : List UInt8) :
    Decidable (IsServicePathPrefix pathPrefix servicePath) :=
  decidable_of_iff _ nodeIsServicePathPrefix_iff

/-! ## The service and its objects -/

/-- Where a service object lies: within the service, as the head of its list, or in the
application. -/
inductive ServiceObjectRef
  | head
  | object (n : Nat)
  deriving DecidableEq, Repr

structure NodeServiceObject where
  servicePath : List UInt8
  servicePathHash : BitVec 32

def nodeServiceObjectConstruct (servicePath : List UInt8) : NodeServiceObject :=
  { servicePath, servicePathHash := stringHash servicePath }

/-- A service, with the application's objects and the links of all of them. -/
structure NodeService where
  serviceName : List UInt8
  rootServiceObject : Option ServiceObjectRef
  serviceObjects : Nat → NodeServiceObject
  links : Links ServiceObjectRef

namespace NodeService

/-- The path of a list element. The head of the list has none. -/
def servicePath (s : NodeService) : ServiceObjectRef → List UInt8
  | .head => []
  | .object n => (s.serviceObjects n).servicePath

def servicePathHash (s : NodeService) : ServiceObjectRef → BitVec 32
  | .head => 0#32
  | .object n => (s.serviceObjects n).servicePathHash

end NodeService

/-- A service and the objects the application has for it, all constructed. -/
def nodeServiceConstruct (serviceName : List UInt8) (servicePaths : Nat → List UInt8) : NodeService where
  serviceName := serviceName
  rootServiceObject := none
  serviceObjects := fun n => nodeServiceObjectConstruct (servicePaths n)
  links := ⟨fun _ => none, fun _ => none⟩

def nodeServiceSetRootObject (s : NodeService) (serviceObject : ServiceObjectRef) :
    Result Unit × NodeService :=
  if s.links.next .head ≠ none ∨ s.rootServiceObject ≠ none then (.error .invalidOperation, s)
  else if stringCmp s.serviceName (s.servicePath serviceObject) ≠ 0 then (.error .invalidArgument, s)
  else
    (.ok (), { s with
      links := (s.links.setNext .head (some serviceObject)).setPrev serviceObject (some .head)
      rootServiceObject := some serviceObject })

/-- The loop of `add_service_object` that looks for the path and for the end. -/
def addServiceObjectLoop (s : NodeService) (servicePath : List UInt8) :
    Nat → Option ServiceObjectRef → ServiceObjectRef → Option (Result ServiceObjectRef)
  | _, none, cLast => some (.ok cLast)
  | 0, some _, _ => none
  | fuel + 1, some c, _ =>
      if stringCmp servicePath (s.servicePath c) = 0 then some (.error .invalidArgument)
      else addServiceObjectLoop s servicePath fuel (s.links.next c) c

def nodeServiceAddServiceObject (fuel : Nat) (s : NodeService) (serviceObject : ServiceObjectRef) :
    Option (Result Unit × NodeService) :=
  match s.links.next .head, s.rootServiceObject with
  | some first, some _ =>
      if nodeIsServicePathPrefix s.serviceName (s.servicePath serviceObject) = false then
        some (.error .invalidArgument, s)
      else
        match addServiceObjectLoop s (s.servicePath serviceObject) fuel (some first) first with
        | none => none
        | some (.error e) => some (.error e, s)
        | some (.ok cLast) =>
            some (.ok (), { s with
              links := (s.links.setNext cLast (some serviceObject)).setPrev serviceObject (some cLast) })
  | _, _ => some (.error .invalidOperation, s)

/-- The loop of `remove_service_object`: whether the object is in the list. -/
def removeServiceObjectLoop (s : NodeService) (serviceObject : ServiceObjectRef) :
    Nat → ServiceObjectRef → Option Bool
  | 0, _ => none
  | fuel + 1, c =>
      if s.links.next c = some serviceObject then some true
      else
        match s.links.next c with
        | none => some false
        | some c' => removeServiceObjectLoop s serviceObject fuel c'

def nodeServiceRemoveServiceObject (fuel : Nat) (s : NodeService) (serviceObject : ServiceObjectRef) :
    Option (Result Unit × NodeService) :=
  if s.links.next .head = some serviceObject ∨ s.rootServiceObject = some serviceObject then
    some (.error .invalidOperation, s)
  else
    match removeServiceObjectLoop s serviceObject fuel .head with
    | none => none
    | some false => some (.error .invalidOperation, s)
    | some true => some (.ok (), { s with links := s.links.unlink serviceObject })

def nodeFindServiceObjectForPath (fuel : Nat) (s : NodeService) (servicePath : List UInt8) :
    Option (Option ServiceObjectRef) :=
  if servicePath.length = 0 then some none
  else
    walkFind s.links.next
      (fun c => s.servicePathHash c == stringHash servicePath &&
        stringCmp (s.servicePath c) servicePath == 0)
      fuel (s.links.next .head)

end RobotRaconteurLite

import RobotRaconteurLite.NodeServices
import RobotRaconteurLite.Lib.CallSequence

/-!
# The object list of a service over its calls

The links of an object are not cleared when it is removed. While every object
that joins the list points nowhere, the list is the objects that were registered,
in order, and the search for a path finds the one that has it. An object that
joins with a link it kept drags along whatever the link leads to, which is never
a list of registered objects.
-/

namespace RobotRaconteurLite

open LinkedList CallSequence

/-- A service and the objects its calls have registered with it, in order. -/
structure RegisteredService where
  service : NodeService
  registered : List Nat

inductive ServiceCall
  | setRootObject (n : Nat)
  | addServiceObject (n : Nat)
  | removeServiceObject (n : Nat)

namespace RegisteredService

def path (s : RegisteredService) (n : Nat) : List UInt8 := s.service.servicePath (.object n)

/-- What a call answers, and what is registered if that is a success. -/
def after (s : RegisteredService) (registered : List Nat) :
    Option (Result Unit × NodeService) → Option (Result Unit) × RegisteredService
  | none => (none, s)
  | some (.ok _, s') => (some (.ok ()), ⟨s', registered⟩)
  | some (.error e, s') => (some (.error e), ⟨s', s.registered⟩)

def call (fuel : Nat) (s : RegisteredService) : ServiceCall → Option (Result Unit) × RegisteredService
  | .setRootObject n =>
      s.after (s.registered ++ [n]) (some (nodeServiceSetRootObject s.service (.object n)))
  | .addServiceObject n =>
      s.after (s.registered ++ [n]) (nodeServiceAddServiceObject fuel s.service (.object n))
  | .removeServiceObject n =>
      s.after (s.registered.erase n) (nodeServiceRemoveServiceObject fuel s.service (.object n))

/-! ## What the list is for -/

/-- The list is `l`: linked both ways, with the root first, under distinct paths of the
service, and a search ends with the registered object that has the path, if one has it. -/
structure Lists (fuel : Nat) (s : RegisteredService) (l : List Nat) : Prop where
  linked : ∃ e, Segment s.service.links none (some .head) (.head :: l.map .object) e none
  rooted : s.service.rootServiceObject = l.head?.map .object
  distinct : (l.map s.path).Nodup
  prefixed : ∀ n ∈ l, IsServicePathPrefix s.service.serviceName (s.path n)
  found : ∀ path, ∃ r, nodeFindServiceObjectForPath fuel s.service path = some r ∧
    ∀ c, r = some c ↔ ∃ n ∈ s.registered, c = .object n ∧ s.path n = path

/-- A call returns and leaves such a list behind. -/
def ReturnsListed (fuel : Nat) (s : RegisteredService) (c : ServiceCall) : Prop :=
  (s.call fuel c).1.isSome = true ∧ ∃ l, Lists fuel (s.call fuel c).2 l

/-! ## When the list is kept -/

/-- The calls that the service turns down. -/
def Refused (s : RegisteredService) : ServiceCall → Prop
  | .setRootObject n => s.registered ≠ [] ∨ s.service.serviceName ≠ s.path n
  | .addServiceObject n => s.registered = [] ∨
      ¬ IsServicePathPrefix s.service.serviceName (s.path n) ∨ s.path n ∈ s.registered.map s.path
  | .removeServiceObject n => n ∉ s.registered.tail

/-- An object that joins points nowhere, and the root object's path is not empty. -/
def JoinsUnlinked (s : RegisteredService) : ServiceCall → Prop
  | .setRootObject n => s.Refused (.setRootObject n) ∨ s.path n ≠ []
  | .addServiceObject n =>
      s.Refused (.addServiceObject n) ∨ s.service.links.next (.object n) = none
  | .removeServiceObject _ => True

/-- What holds between calls: the list is what is registered. -/
structure Inv (s : RegisteredService) : Prop where
  linked : ∃ e, Segment s.service.links none (some .head) (.head :: s.registered.map .object) e none
  rooted : s.service.rootServiceObject = s.registered.head?.map .object
  distinct : (s.registered.map s.path).Nodup
  prefixed : ∀ n ∈ s.registered, IsServicePathPrefix s.service.serviceName (s.path n)
  named : s.registered ≠ [] → s.service.serviceName ≠ []
  unlinked : s.registered = [] → ∀ n, s.service.links.next (.object n) = none
  hashed : ∀ n, (s.service.serviceObjects n).servicePathHash = stringHash (s.path n)

end RegisteredService

open RegisteredService

/-! ## The loops over a list -/

section

variable {s : NodeService} {b p e : Option ServiceObjectRef} {l : List ServiceObjectRef}

theorem addServiceObjectLoop_eq (path : List UInt8) {fuel : Nat} (c : ServiceObjectRef)
    (h : Segment s.links b p l e none) (hfuel : l.length ≤ fuel) :
    addServiceObjectLoop s path fuel p c =
      if path ∈ l.map s.servicePath then some (.error .invalidArgument)
      else some (.ok (l.getLastD c)) := by
  induction l generalizing b p fuel c with
  | nil =>
      obtain ⟨rfl, -⟩ := h
      cases fuel <;> rfl
  | cons a l ih =>
      obtain ⟨rfl, -, hrest⟩ := h
      cases fuel with
      | zero => simp at hfuel
      | succ fuel =>
          simp only [addServiceObjectLoop, stringCmp_eq_zero_iff, List.map_cons, List.mem_cons]
          by_cases hpath : path = s.servicePath a
          · rw [if_pos hpath, if_pos (Or.inl hpath)]
          · rw [if_neg hpath, ih a hrest (by simpa using hfuel), List.getLastD_cons]
            simp only [hpath, false_or]

theorem removeServiceObjectLoop_eq {o c : ServiceObjectRef} {fuel : Nat}
    (h : Segment s.links b (some c) (c :: l) e none) (hfuel : l.length < fuel) :
    removeServiceObjectLoop s o fuel c = some (decide (o ∈ l)) := by
  induction l generalizing b c fuel with
  | nil =>
      have hnext : s.links.next c = none := h.2.2.1
      cases fuel with
      | zero => simp at hfuel
      | succ fuel => simp [removeServiceObjectLoop, hnext]
  | cons a l ih =>
      obtain ⟨-, -, hrest⟩ := h
      have hnext : s.links.next c = some a := hrest.1
      rw [hnext] at hrest
      cases fuel with
      | zero => simp at hfuel
      | succ fuel =>
          rw [removeServiceObjectLoop, hnext]
          by_cases hao : a = o
          · simp [hao]
          · rw [if_neg (by simpa using hao)]
            simp only []
            rw [ih hrest (by simpa using hfuel)]
            simp [Ne.symm hao]

end

/-! ## What one call does -/

namespace RegisteredService

variable {s : RegisteredService} {n fuel : Nat}

theorem Inv.next_head (hs : s.Inv) :
    s.service.links.next .head = s.registered.head?.map .object := by
  obtain ⟨e, -, -, hlist⟩ := hs.linked
  cases hreg : s.registered with
  | nil =>
      rw [hreg] at hlist
      exact hlist.1
  | cons a l =>
      rw [hreg] at hlist
      exact hlist.1

/-- Among objects, the test of the search is a comparison of paths. -/
theorem find?_object (hashed : ∀ n, (s.service.serviceObjects n).servicePathHash = stringHash (s.path n))
    (path : List UInt8) (l : List Nat) :
    (l.map ServiceObjectRef.object).find? (fun c => s.service.servicePathHash c == stringHash path &&
      stringCmp (s.service.servicePath c) path == 0) =
      (l.find? (s.path · == path)).map .object := by
  rw [List.find?_map]
  congr 2
  funext m
  have hhash := hashed m
  by_cases hm : s.path m = path
  · subst hm
    simp [NodeService.servicePathHash, hhash, stringCmp_eq_zero_iff, RegisteredService.path]
  · have hcmp : stringCmp (s.service.servicePath (.object m)) path ≠ 0 := fun h =>
      hm (stringCmp_eq_zero_iff.mp h)
    simp only [Function.comp_apply, beq_false_of_ne hcmp, beq_false_of_ne hm, Bool.and_false]

/-- A search ends with the first registered object that has the path. -/
theorem Inv.find (hs : s.Inv) (hfuel : s.registered.length ≤ fuel) {path : List UInt8}
    (hpath : path ≠ []) :
    nodeFindServiceObjectForPath fuel s.service path =
      some ((s.registered.find? (s.path · == path)).map .object) := by
  obtain ⟨e, -, -, hlist⟩ := hs.linked
  rw [nodeFindServiceObjectForPath, if_neg (by simpa using hpath),
    walkFind_eq _ hlist (by simpa using hfuel), find?_object hs.hashed]

theorem call_setRootObject (hs : s.Inv) :
    s.call fuel (.setRootObject n) =
      if s.registered ≠ [] then (some (.error .invalidOperation), s)
      else if s.service.serviceName ≠ s.path n then (some (.error .invalidArgument), s)
      else (some (.ok ()), ⟨{ s.service with
        links := (s.service.links.setNext .head (some (.object n))).setPrev (.object n) (some .head)
        rootServiceObject := some (.object n) }, [n]⟩) := by
  have hnext := hs.next_head
  have hroot := hs.rooted
  cases hreg : s.registered with
  | cons a l =>
      rw [hreg] at hroot
      have hguard : s.service.links.next .head ≠ none ∨ s.service.rootServiceObject ≠ none :=
        Or.inr (by simp [hroot])
      simp [call, nodeServiceSetRootObject, hguard, after]
  | nil =>
      rw [hreg] at hnext hroot
      have hcmp : stringCmp s.service.serviceName (s.service.servicePath (.object n)) = 0 ↔
          s.service.serviceName = s.path n := stringCmp_eq_zero_iff
      rw [call, nodeServiceSetRootObject, if_neg (by simp [hnext, hroot])]
      by_cases hname : s.service.serviceName = s.path n
      · rw [if_neg (not_not_intro (hcmp.mpr hname)), if_neg (not_not_intro rfl),
          if_neg (not_not_intro hname), hreg]
        rfl
      · rw [if_pos (mt hcmp.mp hname), if_neg (not_not_intro rfl), if_pos hname]
        rfl

theorem call_addServiceObject (hs : s.Inv) (hfuel : s.registered.length ≤ fuel) :
    s.call fuel (.addServiceObject n) =
      if s.registered = [] then (some (.error .invalidOperation), s)
      else if ¬ IsServicePathPrefix s.service.serviceName (s.path n) ∨
          s.path n ∈ s.registered.map s.path then (some (.error .invalidArgument), s)
      else (some (.ok ()), ⟨{ s.service with
        links := (s.service.links.setNext ((s.registered.map .object).getLastD .head)
          (some (.object n))).setPrev (.object n) (some ((s.registered.map .object).getLastD .head)) },
        s.registered ++ [n]⟩) := by
  have hnext := hs.next_head
  have hroot := hs.rooted
  obtain ⟨e, -, -, hlist⟩ := hs.linked
  cases hreg : s.registered with
  | nil =>
      rw [hreg] at hnext
      simp [call, nodeServiceAddServiceObject, hnext, after]
  | cons a l =>
      have hnext' : s.service.links.next .head = some (.object a) := by rw [hnext, hreg]; rfl
      have hroot' : s.service.rootServiceObject = some (.object a) := by rw [hroot, hreg]; rfl
      have hloop := addServiceObjectLoop_eq (s.service.servicePath (.object n)) (.object a) hlist
        (show (s.registered.map ServiceObjectRef.object).length ≤ fuel by simpa using hfuel)
      rw [hnext'] at hlist hloop
      rw [if_neg (by simp), ← hreg, call, nodeServiceAddServiceObject, hnext', hroot']
      have hmem : s.service.servicePath (.object n) ∈
          (s.registered.map ServiceObjectRef.object).map s.service.servicePath ↔
          s.path n ∈ s.registered.map s.path := by
        rw [List.map_map]
        rfl
      simp only [hmem] at hloop
      by_cases hunder : IsServicePathPrefix s.service.serviceName (s.path n)
      · have hguard : nodeIsServicePathPrefix s.service.serviceName (s.service.servicePath (.object n)) =
            true := nodeIsServicePathPrefix_iff.mpr hunder
        by_cases hdup : s.path n ∈ s.registered.map s.path
        · rw [if_pos hdup] at hloop
          simp only [hguard, hunder, hloop, if_pos hdup, after, not_true_eq_false, false_or,
            Bool.true_eq_false, if_false]
        · have hlast : (s.registered.map ServiceObjectRef.object).getLastD (.object a) =
              (s.registered.map .object).getLastD .head := by
            rw [hreg]
            rfl
          rw [if_neg hdup, hlast] at hloop
          simp only [hguard, hunder, hloop, if_neg hdup, hroot', after, not_true_eq_false, false_or,
            Bool.true_eq_false, if_false]
      · have hguard : nodeIsServicePathPrefix s.service.serviceName (s.service.servicePath (.object n)) =
            false := by
          rw [← Bool.not_eq_true, nodeIsServicePathPrefix_iff]
          exact hunder
        simp [hguard, hunder, after]

theorem call_removeServiceObject (hs : s.Inv) (hfuel : s.registered.length < fuel) :
    s.call fuel (.removeServiceObject n) =
      if n ∈ s.registered.tail then
        (some (.ok ()), ⟨{ s.service with links := s.service.links.unlink (.object n) },
          s.registered.erase n⟩)
      else (some (.error .invalidOperation), s) := by
  have hnext := hs.next_head
  have hroot := hs.rooted
  obtain ⟨e, hlist⟩ := hs.linked
  have hloop := removeServiceObjectLoop_eq (o := .object n) hlist
    (show (s.registered.map ServiceObjectRef.object).length < fuel by simpa using hfuel)
  have hmem : ServiceObjectRef.object n ∈ s.registered.map .object ↔ n ∈ s.registered := by simp
  simp only [hmem] at hloop
  rw [call, nodeServiceRemoveServiceObject, hloop]
  cases hreg : s.registered with
  | nil =>
      have hself : (⟨s.service, []⟩ : RegisteredService) = s := by rw [← hreg]
      simp [hnext, hroot, hreg, hself, after]
  | cons a l =>
      have hself : (⟨s.service, a :: l⟩ : RegisteredService) = s := by rw [← hreg]
      have hnodup : (a :: l).Nodup := hreg ▸ hs.distinct.of_map
      by_cases hna : n = a
      · have hout : n ∉ l := hna ▸ (List.nodup_cons.mp hnodup).1
        simp [hnext, hreg, hna ▸ hout, hna, hself, after]
      · by_cases hnl : n ∈ l
        · simp [hnext, hroot, hreg, Ne.symm hna, hnl, after]
        · simp [hnext, hroot, hreg, Ne.symm hna, hna, hnl, hself, after]

/-! ## What the calls keep -/

theorem inv_setRootObject (hs : s.Inv) (hreg : s.registered = [])
    (hname : s.service.serviceName = s.path n) (hpath : s.path n ≠ []) :
    (⟨{ s.service with
        links := (s.service.links.setNext .head (some (.object n))).setPrev (.object n) (some .head)
        rootServiceObject := some (.object n) }, [n]⟩ : RegisteredService).Inv where
  linked := by
    obtain ⟨e, hlist⟩ := hs.linked
    rw [hreg] at hlist
    exact ⟨_, Segment.append (l := []) hlist (by simp) (hs.unlinked hreg n)⟩
  rooted := rfl
  distinct := List.nodup_singleton _
  prefixed := by
    intro m hm
    rw [List.mem_singleton] at hm
    subst hm
    exact Or.inl hname.symm
  named := fun _ => by
    rw [show s.service.serviceName = s.path n from hname]
    exact hpath
  unlinked := fun h => by cases h
  hashed := hs.hashed

theorem inv_addServiceObject (hs : s.Inv) (hreg : s.registered ≠ [])
    (hunder : IsServicePathPrefix s.service.serviceName (s.path n))
    (hdup : s.path n ∉ s.registered.map s.path)
    (hnext : s.service.links.next (.object n) = none) :
    (⟨{ s.service with
        links := (s.service.links.setNext ((s.registered.map .object).getLastD .head)
          (some (.object n))).setPrev (.object n)
            (some ((s.registered.map .object).getLastD .head)) },
      s.registered ++ [n]⟩ : RegisteredService).Inv where
  linked := by
    obtain ⟨e, hlist⟩ := hs.linked
    have hn : n ∉ s.registered := fun h => hdup (List.mem_map_of_mem h)
    rw [List.map_append]
    exact ⟨_, hlist.append (by simpa using hn) hnext⟩
  rooted := by
    rw [List.head?_append_of_ne_nil _ hreg]
    exact hs.rooted
  distinct := by
    rw [List.map_append, List.nodup_append]
    refine ⟨hs.distinct, List.nodup_singleton _, ?_⟩
    rintro a ha c hc rfl
    rw [List.map_singleton, List.mem_singleton] at hc
    subst hc
    exact hdup ha
  prefixed := by
    intro m hm
    rw [List.mem_append, List.mem_singleton] at hm
    rcases hm with hm | rfl
    · exact hs.prefixed m hm
    · exact hunder
  named := fun _ => hs.named hreg
  unlinked := by simp
  hashed := hs.hashed

theorem inv_removeServiceObject (hs : s.Inv) (hn : n ∈ s.registered.tail) :
    (⟨{ s.service with links := s.service.links.unlink (.object n) },
      s.registered.erase n⟩ : RegisteredService).Inv := by
  have hnodup := hs.distinct.of_map
  obtain ⟨root, l, hreg⟩ : ∃ root l, s.registered = root :: l := by
    cases h : s.registered with
    | nil => simp [h] at hn
    | cons root l => exact ⟨root, l, rfl⟩
  rw [hreg, List.nodup_cons] at hnodup
  rw [hreg, List.tail_cons] at hn
  have hne : root ≠ n := fun h => hnodup.1 (h ▸ hn)
  have herase : s.registered.erase n = root :: l.erase n := by
    rw [hreg, List.erase_cons_tail (by simpa using hne)]
  have hsub : (root :: l.erase n).Sublist s.registered := herase ▸ List.erase_sublist
  rw [herase]
  constructor
  case linked =>
    obtain ⟨e, hlist⟩ := hs.linked
    obtain ⟨l₁, l₂, -, hsplit, hrest⟩ := List.exists_erase_eq hn
    rw [hreg, hsplit, ← List.cons_append, List.map_append, List.map_cons, ← List.cons_append] at hlist
    rw [hrest, ← List.cons_append, List.map_append, ← List.cons_append]
    exact hlist.unlink
  case rooted =>
    rw [hs.rooted, hreg]
    rfl
  case distinct => exact hs.distinct.sublist (hsub.map _)
  case prefixed => exact fun m hm => hs.prefixed m (hsub.subset hm)
  case named => exact fun _ => hs.named (by simp [hreg])
  case unlinked => simp
  case hashed => exact hs.hashed

/-- A call that is turned down changes nothing. -/
theorem call_of_refused (hs : s.Inv) (hfuel : s.registered.length < fuel) {c : ServiceCall}
    (h : s.Refused c) : ∃ e, s.call fuel c = (some (.error e), s) := by
  cases c with
  | setRootObject n =>
      rw [call_setRootObject hs]
      by_cases hreg : s.registered = []
      · have hname : s.service.serviceName ≠ s.path n := h.resolve_left (not_not_intro hreg)
        exact ⟨_, by rw [if_neg (not_not_intro hreg), if_pos hname]⟩
      · exact ⟨_, if_pos hreg⟩
  | addServiceObject n =>
      rw [call_addServiceObject hs (Nat.le_of_lt hfuel)]
      by_cases hreg : s.registered = []
      · exact ⟨_, if_pos hreg⟩
      · exact ⟨_, by rw [if_neg hreg, if_pos (h.resolve_left hreg)]⟩
  | removeServiceObject n =>
      rw [call_removeServiceObject hs hfuel]
      exact ⟨_, if_neg h⟩

/-- Where objects join unlinked, a call keeps the invariant. -/
theorem Inv.call (hs : s.Inv) (hfuel : s.registered.length < fuel) {c : ServiceCall}
    (hjoins : s.JoinsUnlinked c) : (s.call fuel c).1.isSome = true ∧ (s.call fuel c).2.Inv ∧
      (s.call fuel c).2.registered.length ≤ s.registered.length + 1 := by
  by_cases href : s.Refused c
  · obtain ⟨e, he⟩ := call_of_refused hs hfuel href
    rw [he]
    exact ⟨rfl, hs, Nat.le_succ _⟩
  · cases c with
    | setRootObject n =>
        simp only [Refused, not_or, not_not] at href
        obtain ⟨hreg, hname⟩ := href
        have hpath : s.path n ≠ [] :=
          hjoins.resolve_left (by simp [Refused, hreg, hname])
        rw [call_setRootObject hs, if_neg (not_not_intro hreg), if_neg (not_not_intro hname)]
        exact ⟨rfl, inv_setRootObject hs hreg hname hpath, by simp⟩
    | addServiceObject n =>
        have hnext := hjoins.resolve_left href
        simp only [Refused, not_or, not_not] at href
        obtain ⟨hreg, hunder, hdup⟩ := href
        rw [call_addServiceObject hs (Nat.le_of_lt hfuel), if_neg hreg, if_neg (by simp [hunder, hdup])]
        exact ⟨rfl, inv_addServiceObject hs hreg hunder hdup hnext, by simp⟩
    | removeServiceObject n =>
        have hn : n ∈ s.registered.tail := not_not.mp href
        rw [call_removeServiceObject hs hfuel, if_pos hn]
        exact ⟨rfl, inv_removeServiceObject hs hn, (List.length_erase_le ..).trans (Nat.le_succ _)⟩

/-! ## What the search finds -/

theorem find?_eq_some_iff_of_nodup {α κ : Type} [BEq κ] [LawfulBEq κ] {f : α → κ} {l : List α}
    (hd : (l.map f).Nodup) {k : κ} {a : α} :
    l.find? (f · == k) = some a ↔ a ∈ l ∧ f a = k := by
  constructor
  · intro h
    exact ⟨List.mem_of_find?_eq_some h, by simpa using List.find?_some h⟩
  · rintro ⟨ha, rfl⟩
    obtain ⟨c, hc⟩ := Option.isSome_iff_exists.mp
      (List.find?_isSome (p := fun c => f c == f a).mpr ⟨a, ha, by simp⟩)
    have heq : f c = f a := by simpa using List.find?_some hc
    rw [hc, List.inj_on_of_nodup_map hd (List.mem_of_find?_eq_some hc) ha heq]

/-- The list is what is registered. -/
theorem Inv.lists (hs : s.Inv) (hfuel : s.registered.length ≤ fuel) :
    Lists fuel s s.registered where
  linked := hs.linked
  rooted := hs.rooted
  distinct := hs.distinct
  prefixed := hs.prefixed
  found := by
    intro path
    by_cases hpath : path = []
    · refine ⟨none, by simp [nodeFindServiceObjectForPath, hpath], fun c => ?_⟩
      refine iff_of_false nofun ?_
      rintro ⟨n, hn, -, hempty⟩
      have hnamed := hs.named (List.ne_nil_of_mem hn)
      exact (hs.prefixed n hn).ne_nil hnamed (hempty.trans hpath)
    · refine ⟨_, hs.find hfuel hpath, fun c => ?_⟩
      rw [Option.map_eq_some_iff]
      have hfind := fun n => find?_eq_some_iff_of_nodup hs.distinct (k := path) (a := n)
      simp only [hfind]
      constructor
      · rintro ⟨n, ⟨hn, hpath⟩, rfl⟩
        exact ⟨n, hn, rfl, hpath⟩
      · rintro ⟨n, hn, rfl, hpath⟩
        exact ⟨n, ⟨hn, hpath⟩, rfl⟩

/-! ## What a kept link does -/

theorem not_lists_of_emptyPath (hs : s.Inv) (hreg : s.registered = [])
    (hname : s.service.serviceName = s.path n) (hpath : s.path n = []) :
    ¬ s.ReturnsListed fuel (.setRootObject n) := by
  rintro ⟨-, l, hl⟩
  rw [call_setRootObject hs, if_neg (not_not_intro hreg), if_neg (not_not_intro hname)] at hl
  obtain ⟨r, hr, hfound⟩ := hl.found []
  have hnone : r = none := (Option.some.inj hr).symm
  have hroot := (hfound (.object n)).mpr ⟨n, List.mem_singleton_self n, rfl, hpath⟩
  rw [hnone] at hroot
  cases hroot

/-- The object behind the one that joins is found under its path, and it is not one of
those that are registered. -/
theorem not_lists_of_linked (hs : s.Inv) (hfuel : s.registered.length ≤ fuel)
    (hreg : s.registered ≠ []) (hunder : IsServicePathPrefix s.service.serviceName (s.path n))
    (hdup : s.path n ∉ s.registered.map s.path) {y : ServiceObjectRef}
    (hnext : s.service.links.next (.object n) = some y) :
    ¬ s.ReturnsListed fuel (.addServiceObject n) := by
  rintro ⟨-, l, hl⟩
  rw [call_addServiceObject hs hfuel, if_neg hreg, if_neg (by simp [hunder, hdup])] at hl
  have hn : n ∉ s.registered := fun h => hdup (List.mem_map_of_mem h)
  obtain ⟨e, hlist⟩ := hs.linked
  obtain ⟨e', hlist'⟩ := hl.linked
  obtain ⟨m, hm, hbehind⟩ := hlist.of_append (by simpa using hn) hlist'
  obtain ⟨m, rfl⟩ := hbehind y hnext
  obtain ⟨k, l', rfl⟩ : ∃ k l', l = s.registered ++ n :: k :: l' := by
    rw [List.cons_append, List.cons.injEq] at hm
    obtain ⟨l₁, l₂, rfl, hl₁, hl₂⟩ := List.map_eq_append_iff.mp hm.2
    obtain ⟨n', l₂, rfl, hn', hl₂⟩ := List.map_eq_cons_iff.mp hl₂
    obtain ⟨k, l₂, rfl, -, -⟩ := List.map_eq_cons_iff.mp hl₂
    cases hn'
    have hinj : Function.Injective ServiceObjectRef.object := fun _ _ h => ServiceObjectRef.object.inj h
    rw [List.map_injective_iff.mpr hinj hl₁]
    exact ⟨k, l₂, rfl⟩
  have hnodup : (s.registered ++ n :: k :: l').Nodup := hl.distinct.of_map
  have hkpath : s.path k ≠ [] := (hl.prefixed k (by simp)).ne_nil (hs.named hreg)
  obtain ⟨r, hr, hfound⟩ := hl.found (s.path k)
  have hk : r = some (.object k) := by
    obtain ⟨-, -, hrest⟩ := hlist'
    rw [nodeFindServiceObjectForPath, if_neg (by simpa using hkpath)] at hr
    have hfirst := (find?_eq_some_iff_of_nodup hl.distinct (k := s.path k)).mpr
      ⟨by simp, rfl⟩
    have htest := find?_object hs.hashed (s.path k) (s.registered ++ n :: k :: l')
    exact (eq_find?_of_walkFind hrest hr).trans
      (htest.trans (congrArg (Option.map ServiceObjectRef.object) hfirst))
  obtain ⟨j, hj, hkj, -⟩ := (hfound (.object k)).mp hk
  cases hkj
  simp only [List.mem_append, List.mem_singleton] at hj
  grind

theorem returnsListed_iff (hs : s.Inv) (hfuel : s.registered.length + 1 < fuel) {c : ServiceCall} :
    s.ReturnsListed fuel c ↔ s.JoinsUnlinked c := by
  constructor
  · intro h
    cases c with
    | setRootObject n =>
        refine or_iff_not_imp_left.mpr fun href hpath => ?_
        simp only [Refused, not_or, not_not] at href
        exact not_lists_of_emptyPath hs href.1 href.2 hpath h
    | addServiceObject n =>
        refine or_iff_not_imp_left.mpr fun href => ?_
        simp only [Refused, not_or, not_not] at href
        obtain ⟨hreg, hunder, hdup⟩ := href
        cases hnext : s.service.links.next (.object n) with
        | none => rfl
        | some y => exact absurd h (not_lists_of_linked hs (by omega) hreg hunder hdup hnext)
    | removeServiceObject n => trivial
  · intro h
    obtain ⟨hreturns, hinv, hlen⟩ := hs.call (show s.registered.length < fuel by omega) h
    exact ⟨hreturns, _, hinv.lists (by omega)⟩

theorem inv_construct (serviceName : List UInt8) (servicePaths : Nat → List UInt8) :
    (⟨nodeServiceConstruct serviceName servicePaths, []⟩ : RegisteredService).Inv where
  linked := ⟨_, rfl, rfl, rfl, rfl⟩
  rooted := rfl
  distinct := List.nodup_nil
  prefixed := nofun
  named := fun h => absurd rfl h
  unlinked := fun _ _ => rfl
  hashed := fun _ => rfl

theorem everyCall_returnsListed_iff (hs : s.Inv) {cs : List ServiceCall}
    (hfuel : s.registered.length + cs.length < fuel) :
    EveryCall (RegisteredService.call fuel) (ReturnsListed fuel) s cs ↔
      EveryCall (RegisteredService.call fuel) JoinsUnlinked s cs := by
  refine everyCall_iff (D := fun _ _ => True)
    (I := fun k s => s.Inv ∧ s.registered.length + k < fuel) ?_ ?_ ⟨hs, hfuel⟩ (everyCall_true _ _)
  · intro k s c hs _
    exact returnsListed_iff hs.1 (by omega)
  · intro k s c hs _ hjoins
    obtain ⟨-, hinv, hlen⟩ := hs.1.call (show s.registered.length < fuel by omega) hjoins
    exact ⟨hinv, by omega⟩

end RegisteredService

/-- Along the calls on a service each one returns and leaves a list of the registered
objects behind, exactly when each object that joined pointed nowhere when it did and the
root object's path was not empty. -/
theorem serviceObjects_listed_iff (serviceName : List UInt8) (servicePaths : Nat → List UInt8)
    {fuel : Nat} {cs : List ServiceCall} (hfuel : cs.length < fuel) :
    EveryCall (RegisteredService.call fuel) (ReturnsListed fuel)
        ⟨nodeServiceConstruct serviceName servicePaths, []⟩ cs ↔
      EveryCall (RegisteredService.call fuel) JoinsUnlinked
        ⟨nodeServiceConstruct serviceName servicePaths, []⟩ cs :=
  everyCall_returnsListed_iff (inv_construct serviceName servicePaths) (by simpa using hfuel)

/-- The objects `s`, `s.a` and `s.b` of a service `s`. -/
def threePaths : Nat → List UInt8
  | 0 => [115]
  | 1 => [115, 46, 97]
  | _ => [115, 46, 98]

/-- The last object is removed and joins again. -/
theorem lastObject_rejoins :
    EveryCall (RegisteredService.call 6) (ReturnsListed 6)
      ⟨nodeServiceConstruct [115] threePaths, []⟩
      [.setRootObject 0, .addServiceObject 1, .addServiceObject 2, .removeServiceObject 2,
        .addServiceObject 2] := by
  refine (serviceObjects_listed_iff [115] threePaths (by decide)).mpr ⟨?_, ?_, ?_, trivial, ?_, trivial⟩
  · exact Or.inr (by decide)
  · exact Or.inr (by decide)
  · exact Or.inr (by decide)
  · exact Or.inr (by decide)

/-- An object that is removed from the middle and joins again points back into the list. -/
theorem middleObject_rejoins :
    ¬ ∀ (serviceName : List UInt8) (servicePaths : Nat → List UInt8) (fuel : Nat)
      (cs : List ServiceCall), cs.length < fuel →
      EveryCall (RegisteredService.call fuel) (ReturnsListed fuel)
        ⟨nodeServiceConstruct serviceName servicePaths, []⟩ cs := by
  intro h
  have hrun := h [115] threePaths 6 [.setRootObject 0, .addServiceObject 1, .addServiceObject 2,
    .removeServiceObject 1, .addServiceObject 1] (by decide)
  rw [everyCall_returnsListed_iff (inv_construct [115] threePaths) (by decide)] at hrun
  obtain ⟨-, -, -, -, hlast, -⟩ := hrun
  rcases hlast with (hreg | hunder | hdup) | hnext
  · revert hreg
    decide
  · revert hunder
    decide
  · revert hdup
    decide
  · revert hnext
    decide

end RobotRaconteurLite

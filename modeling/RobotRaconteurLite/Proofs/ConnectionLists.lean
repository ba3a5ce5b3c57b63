import RobotRaconteurLite.NodeConnections
import RobotRaconteurLite.Lib.CallSequence

/-!
# The connection list of a node over its calls

Three functions change the list and two of them know nothing of the node. The
list holds up as long as they are kept to what they maintain: nothing is appended
behind the node's back, a connection joins the list with no links of its own, and
nothing is removed that the node still points at.
-/

namespace RobotRaconteurLite

open LinkedList CallSequence

/-- A node's list and the objects that were added to it and not removed. -/
structure AttachedConnections where
  node : NodeConnections
  attached : List ConnectionObjectRef

inductive ConnectionListCall
  | construct (connection : ConnectionObjectRef)
  | listAppend (value : ConnectionObjectRef)
  | addConnection (connection : ConnectionObjectRef)
  | removeConnection (connection : ConnectionObjectRef)
  | listRemove (value : ConnectionObjectRef)
  | nextEvent (reports : ConnectionObjectRef → Bool)
  | consumeEvent (event : NodeEvent)

namespace AttachedConnections

def after (s : AttachedConnections) (attached : List ConnectionObjectRef) :
    Option NodeConnections → Bool × AttachedConnections
  | none => (false, s)
  | some node => (true, ⟨node, attached⟩)

/-- What a call leaves behind, and whether it returned. -/
def call (fuel : Nat) (s : AttachedConnections) : ConnectionListCall → Bool × AttachedConnections
  | .construct c =>
      s.after (if s.node.connectionsHead.isSome then s.attached ++ [c] else s.attached)
        ((connectionConstructLinks fuel s.node.links c s.node.connectionsHead).map fun links =>
          { s.node with links })
  | .listAppend v =>
      s.after (s.attached ++ [v])
        ((s.node.connectionsHead.bind fun head =>
          connectionListAppend fuel s.node.links head v).map fun links => { s.node with links })
  | .addConnection c => s.after (s.attached ++ [c]) (nodeAddConnection s.node c)
  | .removeConnection c => s.after (s.attached.erase c) (some (nodeRemoveConnection s.node c))
  | .listRemove v =>
      s.after (s.attached.erase v)
        (some { s.node with links := connectionListRemove s.node.links v })
  | .nextEvent reports => s.after s.attached ((nodeNextEvent fuel s.node reports).map (·.2))
  | .consumeEvent event => s.after s.attached (nodeConsumeEvent fuel s.node event)

/-- An object is added only while it is not in the list and removed only while it is, and
the list is appended to through a head that there is. -/
def Disciplined (s : AttachedConnections) : ConnectionListCall → Prop
  | .construct c => c ∉ s.attached
  | .listAppend v => v ∉ s.attached ∧ s.node.connectionsHead ≠ none
  | .addConnection c => c ∉ s.attached
  | .removeConnection c => c ∈ s.attached
  | .listRemove v => v ∈ s.attached
  | .nextEvent _ => True
  | .consumeEvent _ => True

/-- From the head the objects `l` are linked both ways, the last of them is the tail, they
are what was added and not removed, and the cursor is one of them. -/
structure Lists (s : AttachedConnections) (l : List ConnectionObjectRef) : Prop where
  linked : Segment s.node.links none s.node.connectionsHead l s.node.connectionsTail none
  members : ∀ c, c ∈ l ↔ c ∈ s.attached
  next : ∀ c, s.node.connectionsNext = some c → c ∈ l

/-- A call returns and leaves such a list behind. -/
def ReturnsListed (fuel : Nat) (s : AttachedConnections) (c : ConnectionListCall) : Prop :=
  (s.call fuel c).1 = true ∧ ∃ l, Lists (s.call fuel c).2 l

/-- Nothing is appended but by the node, an object joins with no links of its own that the
node does not overwrite, and no object is removed that the removing function leaves the
node pointing at. -/
def Maintained (s : AttachedConnections) : ConnectionListCall → Prop
  | .construct _ => s.node.connectionsHead = none
  | .listAppend _ => False
  | .addConnection c => s.node.links.next c = none ∧
      (s.node.connectionsHead = none → s.node.links.prev c = none)
  | .removeConnection c => s.node.connectionsNext ≠ some c
  | .listRemove v => s.node.connectionsHead ≠ some v ∧ s.node.connectionsTail ≠ some v ∧
      s.node.connectionsNext ≠ some v
  | .nextEvent _ => True
  | .consumeEvent _ => True

instance (s : AttachedConnections) : (k : ConnectionListCall) → Decidable (s.Disciplined k)
  | .construct c => inferInstanceAs (Decidable (c ∉ s.attached))
  | .listAppend v => inferInstanceAs (Decidable (v ∉ s.attached ∧ s.node.connectionsHead ≠ none))
  | .addConnection c => inferInstanceAs (Decidable (c ∉ s.attached))
  | .removeConnection c => inferInstanceAs (Decidable (c ∈ s.attached))
  | .listRemove v => inferInstanceAs (Decidable (v ∈ s.attached))
  | .nextEvent _ => .isTrue trivial
  | .consumeEvent _ => .isTrue trivial

instance (s : AttachedConnections) : (k : ConnectionListCall) → Decidable (s.Maintained k)
  | .construct _ => inferInstanceAs (Decidable (s.node.connectionsHead = none))
  | .listAppend _ => .isFalse id
  | .addConnection c => inferInstanceAs (Decidable (s.node.links.next c = none ∧
      (s.node.connectionsHead = none → s.node.links.prev c = none)))
  | .removeConnection c => inferInstanceAs (Decidable (s.node.connectionsNext ≠ some c))
  | .listRemove v => inferInstanceAs (Decidable (s.node.connectionsHead ≠ some v ∧
      s.node.connectionsTail ≠ some v ∧ s.node.connectionsNext ≠ some v))
  | .nextEvent _ => .isTrue trivial
  | .consumeEvent _ => .isTrue trivial

/-- Between calls the list is what was added and not removed, in order. -/
def Inv (s : AttachedConnections) : Prop := s.Lists s.attached

end AttachedConnections

open AttachedConnections

/-! ## The cursor -/

theorem connectionNext_mem {links : Links ConnectionObjectRef} {b e : Option ConnectionObjectRef}
    {c : ConnectionObjectRef} {l : List ConnectionObjectRef} {fuel : Nat}
    (h : Segment links b (some c) (c :: l) e none) (hfuel : l.length ≤ fuel) :
    connectionNext fuel links (some c) = some (l.find? ConnectionObjectRef.isConnection) :=
  walkFind_eq _ h.2.2 hfuel

theorem nodeNextEventLoop_mem {links : Links ConnectionObjectRef}
    (reports : ConnectionObjectRef → Bool) {b e : Option ConnectionObjectRef}
    {c : ConnectionObjectRef} {l : List ConnectionObjectRef} {fuel : Nat}
    (h : Segment links b (some c) (c :: l) e none) (hfuel : l.length < fuel) :
    ∃ event next, nodeNextEventLoop links reports fuel c = some (event, next) ∧
      ∀ d, next = some d → d ∈ l := by
  induction fuel generalizing b c l with
  | zero => omega
  | succ fuel ih =>
      rw [nodeNextEventLoop, connectionNext_mem h (by omega)]
      cases hreports : reports c with
      | true => exact ⟨_, _, rfl, fun d hd => List.mem_of_find?_eq_some hd⟩
      | false =>
          cases hfind : l.find? ConnectionObjectRef.isConnection with
          | none => exact ⟨_, _, rfl, nofun⟩
          | some d =>
              -- The walk goes on from a later object of the list.
              obtain ⟨-, l₁, l₂, rfl, -⟩ := List.find?_eq_some_iff_append.mp hfind
              obtain ⟨e', p', -, hd⟩ := segment_append_iff.mp h.2.2
              obtain ⟨event, next, heq, hnext⟩ := ih (hd.1 ▸ hd) (by simp at hfuel; omega)
              exact ⟨event, next, heq, fun x hx => by simp [hnext x hx]⟩

namespace AttachedConnections

variable {s : AttachedConnections} {c : ConnectionObjectRef} {fuel : Nat}

theorem Inv.nodup (hs : s.Inv) : s.attached.Nodup := hs.linked.nodup

/-- Moving the cursor to an object of the list keeps it. -/
theorem Inv.moveNext (hs : s.Inv) {next : Option ConnectionObjectRef}
    (hnext : ∀ c, next = some c → c ∈ s.attached) :
    (⟨{ s.node with connectionsNext := next }, s.attached⟩ : AttachedConnections).Inv where
  linked := hs.linked
  members := fun _ => Iff.rfl
  next := hnext

theorem Inv.nextEvent (hs : s.Inv) (hfuel : s.attached.length ≤ fuel)
    (reports : ConnectionObjectRef → Bool) :
    ∃ node, (s.call fuel (.nextEvent reports)) = (true, ⟨node, s.attached⟩) ∧
      (⟨node, s.attached⟩ : AttachedConnections).Inv := by
  cases hcursor : s.node.connectionsNext with
  | none => exact ⟨s.node, by simp [call, nodeNextEvent, hcursor, after], hs⟩
  | some c =>
      obtain ⟨l₁, l₂, hl⟩ := List.append_of_mem (hs.next c hcursor)
      have hlist := hs.linked
      have hlen := congrArg List.length hl
      rw [hl] at hlist
      obtain ⟨e', p', -, hc⟩ := segment_append_iff.mp hlist
      obtain ⟨event, next, hloop, hnext⟩ := nodeNextEventLoop_mem reports
        (hc.1 ▸ hc) (show l₂.length < fuel by simp at hlen; omega)
      refine ⟨_, by simp [call, nodeNextEvent, hcursor, hloop, after]; rfl, hs.moveNext ?_⟩
      intro d hd
      rw [hl]
      simp [hnext d hd]

theorem Inv.consumeEvent (hs : s.Inv) (hfuel : s.attached.length ≤ fuel) (event : NodeEvent) :
    ∃ node, (s.call fuel (.consumeEvent event)) = (true, ⟨node, s.attached⟩) ∧
      (⟨node, s.attached⟩ : AttachedConnections).Inv := by
  cases event with
  | some c => exact ⟨s.node, rfl, hs⟩
  | none =>
      cases hhead : s.node.connectionsHead with
      | none =>
          refine ⟨{ s.node with connectionsNext := none }, ?_, hs.moveNext (fun _ h => by cases h)⟩
          simp [call, nodeConsumeEvent, hhead, connectionNext, after]
      | some head =>
          have hlist := hs.linked
          rw [hhead] at hlist
          obtain ⟨l, hl⟩ := hlist.exists_cons
          rw [hl] at hlist hfuel
          have hnext := connectionNext_mem hlist (show l.length ≤ fuel by simp at hfuel; omega)
          refine ⟨{ s.node with connectionsNext := l.find? ConnectionObjectRef.isConnection }, ?_,
            hs.moveNext fun c hc => ?_⟩
          · simp [call, nodeConsumeEvent, hhead, hnext, after]
          · rw [hl]
            exact List.mem_cons_of_mem _ (List.mem_of_find?_eq_some hc)

/-! ## Joining the list -/

theorem Inv.attached_eq_nil (hs : s.Inv) (hhead : s.node.connectionsHead = none) : s.attached = [] := by
  have hlist := hs.linked
  rw [hhead] at hlist
  cases hl : s.attached with
  | nil => rfl
  | cons f r =>
      rw [hl] at hlist
      cases hlist.1

theorem Inv.attached_eq_cons (hs : s.Inv) {f : ConnectionObjectRef}
    (hhead : s.node.connectionsHead = some f) :
    ∃ r, s.attached = f :: r ∧ s.node.connectionsTail = some (r.getLastD f) := by
  have hlist := hs.linked
  rw [hhead] at hlist
  obtain ⟨r, hr⟩ := hlist.exists_cons
  refine ⟨r, hr, ?_⟩
  rw [hlist.last_eq, hr, Option.or_none, List.getLast?_eq_some_getLast (List.cons_ne_nil f r),
    List.getLast_eq_getLastD]

theorem Inv.addConnection (hs : s.Inv) (fuel : Nat) (hc : c ∉ s.attached)
    (hnext : s.node.links.next c = none)
    (hprev : s.node.connectionsHead = none → s.node.links.prev c = none) :
    ∃ node, s.call fuel (.addConnection c) = (true, ⟨node, s.attached ++ [c]⟩) ∧
      (⟨node, s.attached ++ [c]⟩ : AttachedConnections).Inv := by
  cases hhead : s.node.connectionsHead with
  | none =>
      have hnil := hs.attached_eq_nil hhead
      refine ⟨{ s.node with
        connectionsHead := some c
        connectionsTail := some c
        connectionsNext := some c }, by simp [call, nodeAddConnection, hhead, after], ?_, ?_, ?_⟩
      · rw [hnil]
        exact ⟨rfl, hprev hhead, hnext, rfl⟩
      · exact fun _ => Iff.rfl
      · intro d hd
        cases hd
        exact List.mem_append_right _ List.mem_cons_self
  | some f =>
      obtain ⟨r, hr, htail⟩ := hs.attached_eq_cons hhead
      refine ⟨{ s.node with
        links := (s.node.links.setNext (r.getLastD f) (some c)).setPrev c (some (r.getLastD f))
        connectionsTail := some c },
        by simp only [call, nodeAddConnection, hhead, htail, Option.map_some, after], ?_, ?_, ?_⟩
      · have hlist := hs.linked
        rw [hr] at hlist hc ⊢
        exact hlist.append hc hnext
      · exact fun _ => Iff.rfl
      · intro d hd
        exact List.mem_append_left _ (hs.next d hd)

/-- Where an object is put behind the list, the new last object is none of the old ones, and
it is that object only if that points nowhere. -/
theorem Inv.last_of_append (hs : s.Inv) {f : ConnectionObjectRef} {r : List ConnectionObjectRef}
    (hr : s.attached = f :: r) (hc : c ∉ s.attached) {v t : Option ConnectionObjectRef}
    {l : List ConnectionObjectRef}
    (hl : Segment ((s.node.links.setNext (r.getLastD f) (some c)).setPrev c v) none
      s.node.connectionsHead l t none) :
    ∃ d, t = some d ∧ d ∉ s.attached ∧ (d = c → s.node.links.next c = none) := by
  have hlist := hs.linked
  rw [hr] at hlist hc ⊢
  obtain ⟨m, rfl, hbehind⟩ := hlist.of_append hc hl
  have hnodup := List.nodup_append.mp hl.nodup
  have hne : c :: m ≠ [] := List.cons_ne_nil c m
  refine ⟨(c :: m).getLast hne, ?_, ?_, ?_⟩
  · rw [hl.last_eq, Option.or_none, List.getLast?_append_of_ne_nil _ hne,
      List.getLast?_eq_some_getLast hne]
  · intro hd
    exact hnodup.2.2 _ hd _ (List.getLast_mem hne) rfl
  · intro hd
    cases hnext : s.node.links.next c with
    | none => rfl
    | some y =>
        obtain ⟨m', rfl⟩ := hbehind y hnext
        rw [List.getLast_cons (List.cons_ne_nil y m')] at hd
        have hmem := List.getLast_mem (List.cons_ne_nil y m')
        rw [hd] at hmem
        exact absurd hmem (List.nodup_cons.mp hnodup.2.1).1

theorem maintained_addConnection (hs : s.Inv) (hc : c ∉ s.attached)
    (h : s.ReturnsListed fuel (.addConnection c)) : s.Maintained (.addConnection c) := by
  obtain ⟨-, l, hl⟩ := h
  cases hhead : s.node.connectionsHead with
  | none =>
      simp only [call, nodeAddConnection, hhead, after] at hl
      have hlist := hl.linked
      obtain ⟨m, rfl⟩ := hlist.exists_cons
      have hnodup := hlist.nodup
      obtain ⟨-, hprev, hrest⟩ := hlist
      refine ⟨?_, fun _ => hprev⟩
      cases m with
      | nil => exact hrest.1
      | cons y m =>
          have hlast := hrest.last_eq
          have hmem := List.getLast_mem (List.cons_ne_nil y m)
          rw [List.getLast?_eq_some_getLast (List.cons_ne_nil y m), Option.some_or] at hlast
          rw [← Option.some.inj hlast] at hmem
          exact absurd hmem (List.nodup_cons.mp hnodup).1
  | some f =>
      obtain ⟨r, hr, htail⟩ := hs.attached_eq_cons hhead
      simp only [call, nodeAddConnection, hhead, htail, Option.map_some, after] at hl
      obtain ⟨d, hd, -, hnext⟩ := hs.last_of_append hr hc (hhead ▸ hl.linked)
      cases hd
      exact ⟨hnext rfl, fun h => by cases hhead ▸ h⟩

/-- What is appended behind the node's back comes after its tail. -/
theorem not_returnsListed_listAppend (hs : s.Inv) (hfuel : s.attached.length ≤ fuel)
    (hc : c ∉ s.attached) (hhead : s.node.connectionsHead ≠ none) :
    ¬ s.ReturnsListed fuel (.listAppend c) := by
  rintro ⟨-, l, hl⟩
  obtain ⟨f, hf⟩ := Option.ne_none_iff_exists'.mp hhead
  obtain ⟨r, hr, htail⟩ := hs.attached_eq_cons hf
  have hlist := hs.linked
  rw [hr, hf] at hlist
  have hwalk := walkLast_eq hlist (show r.length < fuel by simp [hr] at hfuel; omega)
  simp only [call, hf, Option.bind_some, connectionListAppend, hwalk, htail, Option.map_some,
    after] at hl
  obtain ⟨d, hd, hout, -⟩ := hs.last_of_append hr hc (hf ▸ hl.linked)
  cases hd
  rw [hr, cons_eq_concat f r] at hout
  exact hout (List.mem_append_right _ List.mem_cons_self)

theorem Inv.constructed (hs : s.Inv) (hc : c ∉ s.attached) :
    (⟨{ s.node with links := (s.node.links.setNext c none).setPrev c none }, s.attached⟩ :
      AttachedConnections).Inv where
  linked := (hs.linked.setNext_of_notMem hc).setPrev_of_notMem hc
  members := fun _ => Iff.rfl
  next := hs.next

theorem Inv.construct (hs : s.Inv) (fuel : Nat) (hc : c ∉ s.attached)
    (hhead : s.node.connectionsHead = none) :
    ∃ node, s.call fuel (.construct c) = (true, ⟨node, s.attached⟩) ∧
      (⟨node, s.attached⟩ : AttachedConnections).Inv :=
  ⟨_, by simp [call, connectionConstructLinks, hhead, after], hs.constructed hc⟩

/-- A connection that is constructed into the list is appended behind the node's back. -/
theorem not_returnsListed_construct (hs : s.Inv) (hfuel : s.attached.length ≤ fuel)
    (hc : c ∉ s.attached) (hhead : s.node.connectionsHead ≠ none) :
    ¬ s.ReturnsListed fuel (.construct c) := by
  intro h
  refine not_returnsListed_listAppend (hs.constructed hc) hfuel hc hhead ?_
  obtain ⟨hreturned, hlists⟩ := h
  obtain ⟨f, hf⟩ := Option.ne_none_iff_exists'.mp hhead
  simp only [call, connectionConstructLinks, hf, Option.isSome_some, if_true] at hreturned hlists
  cases hlinks : connectionListAppend fuel ((s.node.links.setNext c none).setPrev c none) f c with
  | none => simp [hlinks, after] at hreturned
  | some links =>
      rw [hlinks] at hlists
      simp only [ReturnsListed, call, hf, Option.bind_some, hlinks, Option.map_some, after]
      exact ⟨trivial, hlists⟩

/-! ## Leaving the list -/

/-- The tail that the node keeps when it removes an object is the last of the others. -/
theorem Inv.tail_of_remove (hs : s.Inv) {l₁ l₂ : List ConnectionObjectRef}
    (hl : s.attached = l₁ ++ c :: l₂) :
    (nodeRemoveConnection s.node c).connectionsTail = (l₁ ++ l₂).getLast?.or none := by
  have hlist := hs.linked
  rw [hl] at hlist
  have htail := hlist.last_eq
  obtain ⟨e, p, hbefore, -, hprev, hbehind⟩ := segment_append_iff.mp hlist
  rw [Option.or_none] at htail ⊢
  cases l₂ with
  | nil =>
      have hnext : s.node.links.next c = none := hbehind.1
      have hlast := hbefore.last_eq
      rw [Option.or_none] at hlast
      simp [nodeRemoveConnection, hnext, hprev, hlast]
  | cons d l₂ =>
      have hnext : s.node.links.next c = some d := hbehind.1
      simp [nodeRemoveConnection, hnext, htail, List.getLast?_append]

theorem Inv.removeConnection (hs : s.Inv) (hc : c ∈ s.attached)
    (hcursor : s.node.connectionsNext ≠ some c) :
    (s.call fuel (.removeConnection c)).2.Inv := by
  obtain ⟨l₁, l₂, -, hl, herase⟩ := List.exists_erase_eq hc
  have htail := hs.tail_of_remove hl
  have hlist := hs.linked
  constructor
  case members => exact fun _ => Iff.rfl
  case next =>
    intro d hd
    have hdc : d ≠ c := fun h => hcursor (h ▸ hd)
    exact (List.mem_erase_of_ne hdc).mpr (hs.next d hd)
  case linked =>
    change Segment (s.node.links.unlink c) none (nodeRemoveConnection s.node c).connectionsHead
      (s.attached.erase c) (nodeRemoveConnection s.node c).connectionsTail none
    rw [htail, herase]
    rw [hl] at hlist
    cases l₁ with
    | nil =>
        obtain ⟨e, hrest⟩ := hlist.unlink_first
        have hhead : (nodeRemoveConnection s.node c).connectionsHead = s.node.links.next c :=
          if_pos hlist.2.1
        rw [hhead, List.nil_append, ← hrest.last_eq]
        exact hrest
    | cons f l₁ =>
        obtain ⟨e, hrest⟩ := hlist.unlink
        have hprev : s.node.links.prev c ≠ none := by
          obtain ⟨e', p', hbefore, -, hprev, -⟩ := segment_append_iff.mp hlist
          rw [hprev, hbefore.last_eq, List.getLast?_eq_some_getLast (List.cons_ne_nil f l₁)]
          exact nofun
        have hhead : (nodeRemoveConnection s.node c).connectionsHead = s.node.connectionsHead :=
          if_neg hprev
        rw [hhead, ← hrest.last_eq]
        exact hrest

theorem Inv.listRemove (hs : s.Inv) (hc : c ∈ s.attached) (hhead : s.node.connectionsHead ≠ some c)
    (htail : s.node.connectionsTail ≠ some c) (hcursor : s.node.connectionsNext ≠ some c) :
    (s.call fuel (.listRemove c)).2.Inv := by
  obtain ⟨l₁, l₂, hout, hl, herase⟩ := List.exists_erase_eq hc
  have hlist := hs.linked
  have hnodup := hs.nodup
  constructor
  case members => exact fun _ => Iff.rfl
  case next =>
    intro d hd
    have hdc : d ≠ c := fun h => hcursor (h ▸ hd)
    exact (List.mem_erase_of_ne hdc).mpr (hs.next d hd)
  case linked =>
    change Segment (connectionListRemove s.node.links c) none s.node.connectionsHead
      (s.attached.erase c) s.node.connectionsTail none
    have hgone : c ∉ s.attached.erase c := hnodup.not_mem_erase
    have hlast := hlist.last_eq
    rw [herase] at hgone ⊢
    rw [hl] at hlist hlast
    cases l₁ with
    | nil => exact absurd hlist.1 hhead
    | cons f l₁ =>
        cases l₂ with
        | nil =>
            rw [List.getLast?_concat, Option.some_or] at hlast
            exact absurd hlast htail
        | cons d l₂ =>
            obtain ⟨e, hrest⟩ := hlist.unlink
            have htail' : e = s.node.connectionsTail := by
              have hne := List.cons_ne_nil d l₂
              rw [hrest.last_eq, hlast, List.getLast?_append_of_ne_nil _ hne,
                List.getLast?_append_of_ne_nil _ (List.cons_ne_nil c _), List.getLast?_cons_cons]
            rw [htail'] at hrest
            exact (hrest.setNext_of_notMem hgone).setPrev_of_notMem hgone

/-! ## Over all calls -/

theorem Inv.call (hs : s.Inv) (hfuel : s.attached.length ≤ fuel) {k : ConnectionListCall}
    (hd : s.Disciplined k) (hm : s.Maintained k) : (s.call fuel k).1 = true ∧ (s.call fuel k).2.Inv ∧
      (s.call fuel k).2.attached.length ≤ s.attached.length + 1 := by
  cases k with
  | construct c =>
      obtain ⟨node, hcall, hinv⟩ := hs.construct fuel hd hm
      rw [hcall]
      exact ⟨rfl, hinv, Nat.le_succ _⟩
  | listAppend v => exact hm.elim
  | addConnection c =>
      obtain ⟨node, hcall, hinv⟩ := hs.addConnection fuel hd hm.1 hm.2
      rw [hcall]
      exact ⟨rfl, hinv, by simp⟩
  | removeConnection c =>
      exact ⟨rfl, hs.removeConnection hd hm, (List.length_erase_le ..).trans (Nat.le_succ _)⟩
  | listRemove v =>
      exact ⟨rfl, hs.listRemove hd hm.1 hm.2.1 hm.2.2, (List.length_erase_le ..).trans (Nat.le_succ _)⟩
  | nextEvent reports =>
      obtain ⟨node, hcall, hinv⟩ := hs.nextEvent hfuel reports
      rw [hcall]
      exact ⟨rfl, hinv, Nat.le_succ _⟩
  | consumeEvent event =>
      obtain ⟨node, hcall, hinv⟩ := hs.consumeEvent hfuel event
      rw [hcall]
      exact ⟨rfl, hinv, Nat.le_succ _⟩

theorem maintained_of_returnsListed (hs : s.Inv) (hfuel : s.attached.length ≤ fuel)
    {k : ConnectionListCall} (hd : s.Disciplined k) (h : s.ReturnsListed fuel k) :
    s.Maintained k := by
  cases k with
  | construct c => exact not_not.mp fun hhead => not_returnsListed_construct hs hfuel hd hhead h
  | listAppend v => exact not_returnsListed_listAppend hs hfuel hd.1 hd.2 h
  | addConnection c => exact maintained_addConnection hs hd h
  | removeConnection c =>
      obtain ⟨-, l, hl⟩ := h
      intro hcursor
      exact hs.nodup.not_mem_erase ((hl.members c).mp (hl.next c hcursor))
  | listRemove v =>
      obtain ⟨-, l, hl⟩ := h
      have hout : v ∉ l := fun hv => hs.nodup.not_mem_erase ((hl.members v).mp hv)
      refine ⟨fun hhead => ?_, fun htail => ?_, fun hcursor => hout (hl.next v hcursor)⟩
      · have hlist : Segment _ none s.node.connectionsHead l _ none := hl.linked
        rw [hhead] at hlist
        obtain ⟨m, rfl⟩ := hlist.exists_cons
        exact hout List.mem_cons_self
      · have hlast : s.node.connectionsTail = l.getLast?.or none := hl.linked.last_eq
        rw [htail, Option.or_none] at hlast
        exact hout (List.mem_of_getLast? hlast.symm)
  | nextEvent reports => trivial
  | consumeEvent event => trivial

theorem returnsListed_iff (hs : s.Inv) (hfuel : s.attached.length ≤ fuel) {k : ConnectionListCall}
    (hd : s.Disciplined k) : s.ReturnsListed fuel k ↔ s.Maintained k := by
  constructor
  · exact maintained_of_returnsListed hs hfuel hd
  · intro hm
    obtain ⟨hreturned, hinv, -⟩ := hs.call hfuel hd hm
    exact ⟨hreturned, _, hinv⟩

theorem everyCall_returnsListed_iff (hs : s.Inv) {ks : List ConnectionListCall}
    (hfuel : s.attached.length + ks.length ≤ fuel)
    (hd : EveryCall (AttachedConnections.call fuel) Disciplined s ks) :
    EveryCall (AttachedConnections.call fuel) (ReturnsListed fuel) s ks ↔
      EveryCall (AttachedConnections.call fuel) Maintained s ks := by
  refine everyCall_iff (I := fun k s => s.Inv ∧ s.attached.length + k ≤ fuel) ?_ ?_ ⟨hs, hfuel⟩ hd
  · intro k s c hs hd
    exact returnsListed_iff hs.1 (by omega) hd
  · intro k s c hs hd hm
    obtain ⟨-, hinv, hlen⟩ := hs.1.call (show s.attached.length ≤ fuel by omega) hd hm
    exact ⟨hinv, by omega⟩

/-- A node starts on any list that is linked both ways. -/
theorem exists_nodeInit {links : Links ConnectionObjectRef} {head e : Option ConnectionObjectRef}
    {l : List ConnectionObjectRef} (h : Segment links none head l e none) (hfuel : l.length ≤ fuel) :
    ∃ node, nodeInit fuel links head = some node ∧ (⟨node, l⟩ : AttachedConnections).Inv := by
  cases head with
  | none =>
      cases l with
      | nil =>
          obtain ⟨-, rfl⟩ := h
          exact ⟨_, rfl, ⟨rfl, rfl⟩, fun _ => Iff.rfl, nofun⟩
      | cons f r => cases h.1
  | some f =>
      obtain ⟨r, rfl⟩ := h.exists_cons
      have hlast := h.last_eq
      rw [List.getLast?_eq_some_getLast (List.cons_ne_nil f r), Option.some_or] at hlast
      have hwalk := walkLast_eq h (show r.length < fuel by simp at hfuel; omega)
      have hfirst := walkFind_eq ConnectionObjectRef.isConnection h hfuel
      rw [hlast] at hwalk h
      refine ⟨_, by simp only [nodeInit, hwalk, connectionFirst, hfirst]; rfl, h, fun _ => Iff.rfl, ?_⟩
      exact fun c hc => List.mem_of_find?_eq_some hc

end AttachedConnections

/-- A node starts on any well-formed list. Along its calls each one returns and leaves a
well-formed list of the attached objects behind, exactly when each call is kept to what
the functions maintain. -/
theorem connectionList_listed_iff {links : Links ConnectionObjectRef}
    {head e : Option ConnectionObjectRef} {l : List ConnectionObjectRef} (fuel : Nat)
    (ks : List ConnectionListCall) (h : Segment links none head l e none)
    (hfuel : l.length + ks.length ≤ fuel) :
    ∃ node, nodeInit fuel links head = some node ∧ (⟨node, l⟩ : AttachedConnections).Lists l ∧
      (EveryCall (AttachedConnections.call fuel) Disciplined ⟨node, l⟩ ks →
        (EveryCall (AttachedConnections.call fuel) (ReturnsListed fuel) ⟨node, l⟩ ks ↔
          EveryCall (AttachedConnections.call fuel) Maintained ⟨node, l⟩ ks)) := by
  obtain ⟨node, hinit, hinv⟩ := exists_nodeInit h (show l.length ≤ fuel by omega)
  exact ⟨node, hinit, hinv, everyCall_returnsListed_iff hinv hfuel⟩

/-- The links of objects that are in no list. -/
def noLinks : Links ConnectionObjectRef := ⟨fun _ => none, fun _ => none⟩

/-- A connection is added, visited and removed, and added again. -/
theorem connection_rejoins : ∃ node, nodeInit 6 noLinks (some (.listHead 0)) = some node ∧
    EveryCall (AttachedConnections.call 6) (ReturnsListed 6) ⟨node, [.listHead 0]⟩
      [.addConnection (.connection 0), .consumeEvent none, .nextEvent fun _ => true,
        .removeConnection (.connection 0), .addConnection (.connection 0)] := by
  have hlist : Segment noLinks none (some (.listHead 0)) [.listHead 0] (some (.listHead 0)) none :=
    ⟨rfl, rfl, rfl, rfl⟩
  obtain ⟨node, hinit, -, hrun⟩ := connectionList_listed_iff 6
    [.addConnection (.connection 0), .consumeEvent none, .nextEvent fun _ => true,
      .removeConnection (.connection 0), .addConnection (.connection 0)] hlist (by decide)
  cases hinit
  refine ⟨_, rfl, (hrun ⟨by decide, trivial, trivial, by decide, by decide, trivial⟩).mpr ?_⟩
  exact ⟨by decide, trivial, trivial, by decide, by decide, trivial⟩

/-- A connection that is constructed into the list of a node is not the node's tail. -/
theorem constructed_behind_tail :
    ¬ ∀ (links : Links ConnectionObjectRef) (head e : Option ConnectionObjectRef)
      (l : List ConnectionObjectRef) (fuel : Nat) (ks : List ConnectionListCall),
      Segment links none head l e none → l.length + ks.length ≤ fuel →
      ∀ node, nodeInit fuel links head = some node →
      EveryCall (AttachedConnections.call fuel) Disciplined ⟨node, l⟩ ks →
      EveryCall (AttachedConnections.call fuel) (ReturnsListed fuel) ⟨node, l⟩ ks := by
  intro h
  have hlist : Segment noLinks none (some (.listHead 0)) [.listHead 0] (some (.listHead 0)) none :=
    ⟨rfl, rfl, rfl, rfl⟩
  have hinv : (⟨⟨some (.listHead 0), some (.listHead 0), none, noLinks⟩, [.listHead 0]⟩ :
      AttachedConnections).Inv := ⟨hlist, fun _ => Iff.rfl, nofun⟩
  have hrun := h noLinks _ _ _ 2 [.construct (.connection 0)] hlist (by decide) _ rfl
    ⟨by decide, trivial⟩
  exact not_returnsListed_construct hinv (by decide) (by decide) (by decide) hrun.1

end RobotRaconteurLite

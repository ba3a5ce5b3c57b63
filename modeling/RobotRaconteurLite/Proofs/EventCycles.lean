import RobotRaconteurLite.Node.Events
import RobotRaconteurLite.Proofs.ConnectionLists

/-!
# The cycles of a node's events

The program asks for an event and consumes it, again and again, while the
connections go on changing. A cycle begins after the end of one is consumed, and
the cursor is then put on the first connection behind the head of the list. Every
cycle so begun examines the connections in their order and each of them once,
unless the head is itself a connection.
-/

namespace RobotRaconteurLite

open LinkedList AttachedConnections

/-! ## What is examined -/

/-- The loop of `next_event`, with the connections it examines. -/
def nodeExamineLoop (links : Links ConnectionObjectRef) (reports : ConnectionObjectRef → Bool) :
    Nat → ConnectionObjectRef →
      Option (List ConnectionObjectRef × NodeEvent × Option ConnectionObjectRef)
  | 0, _ => none
  | fuel + 1, c =>
      match connectionNext fuel links (some c) with
      | none => none
      | some next =>
          if reports c then some ([c], some c, next)
          else
            match next with
            | none => some ([c], none, none)
            | some c' => (nodeExamineLoop links reports fuel c').map fun (examined, out) =>
                (c :: examined, out)

def nodeExamine (fuel : Nat) (node : NodeConnections) (reports : ConnectionObjectRef → Bool) :
    Option (List ConnectionObjectRef × NodeEvent × NodeConnections) :=
  match node.connectionsNext with
  | none => some ([], none, node)
  | some c =>
      (nodeExamineLoop node.links reports fuel c).map fun (examined, event, next) =>
        (examined, event, { node with connectionsNext := next })

/-- The connections as a call for the next event finds them, and when it is made. -/
structure EventRound where
  connection : ConnectionObjectRef → Connection
  now : Int64

/-- A closed, error, connected, sent or received condition of a connection in use. -/
def connectionIsPending (c : Connection) : Bool :=
  !connectionIsIdle c && (connectionPendingEvent c).isSome

/-- Whether `next_event` reports an event of a connection. -/
def connectionReports (c : Connection) (now : Int64) : Bool :=
  !connectionIsIdle c && ((connectionPendingEvent c).isSome || (connectionHeartbeat c now).1.isSome)

def EventRound.reports (round : EventRound) (c : ConnectionObjectRef) : Bool :=
  connectionReports (round.connection c) round.now

/-- A round that has been made. -/
structure EventOutcome where
  round : EventRound
  examined : List ConnectionObjectRef
  event : NodeEvent

/-- The next event is asked for and consumed, once in each round. -/
def nodeRounds (fuel : Nat) : NodeConnections → List EventRound → Option (List EventOutcome)
  | _, [] => some []
  | node, round :: rounds => do
      let (examined, event, node) ← nodeExamine fuel node round.reports
      let node ← nodeConsumeEvent fuel node event
      let outcomes ← nodeRounds fuel node rounds
      return ⟨round, examined, event⟩ :: outcomes

theorem nodeExamineLoop_snd (links : Links ConnectionObjectRef)
    (reports : ConnectionObjectRef → Bool) (fuel : Nat) (c : ConnectionObjectRef) :
    (nodeExamineLoop links reports fuel c).map (·.2) = nodeNextEventLoop links reports fuel c := by
  induction fuel generalizing c with
  | zero => rfl
  | succ fuel ih =>
      rw [nodeExamineLoop, nodeNextEventLoop]
      cases connectionNext fuel links (some c) with
      | none => rfl
      | some next =>
          cases reports c with
          | true => rfl
          | false =>
              cases next with
              | none => rfl
              | some c' =>
                  simp only [Bool.false_eq_true, if_false, Option.map_map]
                  exact ih c'

/-- It is `next_event`. -/
theorem nodeExamine_snd (fuel : Nat) (node : NodeConnections)
    (reports : ConnectionObjectRef → Bool) :
    (nodeExamine fuel node reports).map (·.2) = nodeNextEvent fuel node reports := by
  rw [nodeExamine, nodeNextEvent]
  cases node.connectionsNext with
  | none => rfl
  | some c =>
      simp only [← nodeExamineLoop_snd, Option.map_map]
      rfl

/-- The node reports an event of the connection at its cursor exactly when that reports one. -/
theorem nextEventLoop_cons [SizeT] (connection : Nat → Connection) (now : Int64) (i : Nat)
    (rest : List Nat) :
    (connectionReports (connection i) now = true ∧
      ∃ event, (Node.nextEventLoop connection now (i :: rest)).1 = some event ∧
        event.connection = i) ∨
    (connectionReports (connection i) now = false ∧
      ∃ connection', Node.nextEventLoop connection now (i :: rest) =
        Node.nextEventLoop connection' now rest) := by
  rw [Node.nextEventLoop, connectionReports]
  cases connectionIsIdle (connection i) with
  | true => exact .inr ⟨rfl, connection, rfl⟩
  | false =>
      cases connectionPendingEvent (connection i) with
      | some eventType =>
          refine .inl ⟨rfl, _, rfl, ?_⟩
          cases eventType <;> rfl
      | none =>
          cases htimeout : (connectionHeartbeat (connection i) now).1 with
          | none => exact .inr ⟨rfl, _, by simp only [htimeout]; rfl⟩
          | some eventType => exact .inl ⟨rfl, _, by simp only [htimeout]; rfl, rfl⟩

/-! ## One round -/

/-- What a round examines and reports of the objects `before`, where those still to be
examined after it are the objects `after`. -/
structure ExaminedUpTo (reports : ConnectionObjectRef → Bool)
    (before after examined : List ConnectionObjectRef) (event : NodeEvent) : Prop where
  suffix : after <:+ before
  split : examined ++ after.filter ConnectionObjectRef.isConnection =
    before.filter ConnectionObjectRef.isConnection
  reported : ∀ c, event = some c → reports c = true
  pending : ∀ c ∈ examined, reports c = true → event = some c
  ended : event = none → after.filter ConnectionObjectRef.isConnection = []

section

variable {links : Links ConnectionObjectRef} {b p e : Option ConnectionObjectRef}
  {c : ConnectionObjectRef} {l l' : List ConnectionObjectRef}

theorem find?_isConnection_none (h : l.find? ConnectionObjectRef.isConnection = none) :
    l.filter ConnectionObjectRef.isConnection = [] :=
  List.filter_eq_nil_iff.mpr (List.find?_eq_none.mp h)

theorem exists_cons_of_find? (h : l.find? ConnectionObjectRef.isConnection = some c) :
    ∃ l₁ l₂, l = l₁ ++ c :: l₂ ∧ c.isConnection = true ∧
      l.filter ConnectionObjectRef.isConnection =
        c :: l₂.filter ConnectionObjectRef.isConnection := by
  obtain ⟨hc, l₁, l₂, rfl, hl₁⟩ := List.find?_eq_some_iff_append.mp h
  refine ⟨l₁, l₂, rfl, hc, ?_⟩
  rw [List.filter_append, List.filter_eq_nil_iff.mpr (by simpa using hl₁),
    List.filter_cons_of_pos hc, List.nil_append]

theorem nodeExamineLoop_upTo (reports : ConnectionObjectRef → Bool) {fuel : Nat}
    (h : Segment links b (some c) (c :: l) e none) (hc : c.isConnection = true)
    (hfuel : l.length < fuel) :
    ∃ examined event after, nodeExamineLoop links reports fuel c =
        some (examined, event, after.find? ConnectionObjectRef.isConnection) ∧
      ExaminedUpTo reports (c :: l) after examined event := by
  induction fuel generalizing b c l with
  | zero => omega
  | succ fuel ih =>
      rw [nodeExamineLoop, connectionNext_mem h (by omega)]
      cases hreports : reports c with
      | true =>
          refine ⟨[c], some c, l, rfl, List.suffix_cons c l, ?_, ?_, ?_, nofun⟩
          · rw [List.filter_cons_of_pos hc, List.singleton_append]
          · intro d hd
            cases hd
            exact hreports
          · intro d hd _
            rw [List.mem_singleton.mp hd]
      | false =>
          cases hfind : l.find? ConnectionObjectRef.isConnection with
          | none =>
              refine ⟨[c], none, [], rfl, List.nil_suffix, ?_, nofun, ?_, fun _ => rfl⟩
              · rw [List.filter_cons_of_pos hc, find?_isConnection_none hfind]
                rfl
              · intro d hd hreported
                rw [List.mem_singleton.mp hd, hreports] at hreported
                cases hreported
          | some d =>
              obtain ⟨l₁, l₂, rfl, hd, hfilter⟩ := exists_cons_of_find? hfind
              obtain ⟨e', p', -, htail⟩ := segment_append_iff.mp h.2.2
              obtain ⟨examined, event, after, heq, hupTo⟩ :=
                ih (htail.1 ▸ htail) hd (by simp at hfuel; omega)
              have hsplit := hupTo.split
              rw [List.filter_cons_of_pos hd, ← hfilter] at hsplit
              have hsuffix : after <:+ c :: (l₁ ++ d :: l₂) :=
                hupTo.suffix.trans ((List.suffix_append l₁ _).trans (List.suffix_cons c _))
              refine ⟨c :: examined, event, after, by simp [heq], hsuffix, ?_, hupTo.reported, ?_,
                hupTo.ended⟩
              · rw [List.cons_append, hsplit, List.filter_cons_of_pos hc]
              · intro x hx hreported
                rcases List.mem_cons.mp hx with rfl | hx
                · rw [hreports] at hreported
                  cases hreported
                · exact hupTo.pending x hx hreported

/-- The objects `l` are the list of the node. -/
def NodeConnections.Lists (node : NodeConnections) (l : List ConnectionObjectRef) : Prop :=
  Segment node.links none node.connectionsHead l node.connectionsTail none

variable {node : NodeConnections} {fuel : Nat}

/-- Wherever the cursor is. -/
theorem NodeConnections.Lists.move (h : node.Lists l) (next : Option ConnectionObjectRef) :
    ({ node with connectionsNext := next } : NodeConnections).Lists l := h

theorem nodeExamine_upTo (reports : ConnectionObjectRef → Bool) (h : node.Lists l)
    (hsuffix : l' <:+ l) (hcursor : node.connectionsNext = l'.find? ConnectionObjectRef.isConnection)
    (hfuel : l.length ≤ fuel) :
    ∃ examined event after, nodeExamine fuel node reports = some (examined, event,
        { node with connectionsNext := after.find? ConnectionObjectRef.isConnection }) ∧
      ExaminedUpTo reports l' after examined event := by
  cases hfind : l'.find? ConnectionObjectRef.isConnection with
  | none =>
      rw [hfind] at hcursor
      refine ⟨[], none, l', ?_, List.suffix_rfl, rfl, nofun, fun c hc _ => ?_,
        fun _ => find?_isConnection_none hfind⟩
      · have hself : node = { node with connectionsNext := none } := by rw [← hcursor]
        rw [nodeExamine, hcursor, hfind]
        exact congrArg (fun n => some ([], none, n)) hself
      · cases hc
  | some c =>
      rw [hfind] at hcursor
      obtain ⟨l₀, rfl⟩ := hsuffix
      obtain ⟨l₁, l₂, rfl, hc, hfilter⟩ := exists_cons_of_find? hfind
      rw [NodeConnections.Lists, ← List.append_assoc] at h
      obtain ⟨e', p', -, htail⟩ := segment_append_iff.mp h
      have hlen : l₂.length < fuel := by simp at hfuel; omega
      obtain ⟨examined, event, after, heq, hupTo⟩ :=
        nodeExamineLoop_upTo reports (htail.1 ▸ htail) hc hlen
      have hsplit := hupTo.split
      rw [List.filter_cons_of_pos hc, ← hfilter] at hsplit
      refine ⟨examined, event, after, by simp [nodeExamine, hcursor, heq],
        hupTo.suffix.trans (List.suffix_append l₁ _), hsplit, hupTo.reported, hupTo.pending, hupTo.ended⟩

/-- The end of a cycle is consumed: the cursor is put behind the head. -/
theorem nodeConsumeEvent_nextCycle (h : node.Lists l) (hfuel : l.length ≤ fuel) :
    nodeConsumeEvent fuel node none =
      some { node with connectionsNext := l.tail.find? ConnectionObjectRef.isConnection } := by
  rw [NodeConnections.Lists] at h
  cases l with
  | nil =>
      rw [nodeConsumeEvent, h.1]
      rfl
  | cons c l =>
      have hhead := h.1
      rw [hhead] at h
      rw [nodeConsumeEvent, hhead, connectionNext_mem h (by simp at hfuel; omega)]
      rfl

end

/-! ## The cycles of a run -/

/-- The rounds of a cycle examine the connections in their order, each of them once, and one
that is pending in all of them produces an event. -/
def CycleVisits (connections : List ConnectionObjectRef) (cycle : List EventOutcome) : Prop :=
  cycle.flatMap (·.examined) = connections ∧
    ∀ c ∈ connections, (∀ o ∈ cycle, connectionIsPending (o.round.connection c) = true) →
      ∃ o ∈ cycle, o.event = some c

/-- So do the rounds up to the first end of a cycle. -/
def FirstCycleVisits (connections : List ConnectionObjectRef) (outcomes : List EventOutcome) :
    Prop :=
  ∀ cycle y post, outcomes = cycle ++ y :: post → (∀ o ∈ cycle, o.event ≠ none) → y.event = none →
    CycleVisits connections (cycle ++ [y])

/-- So do the rounds from the end of any cycle to the end of the next. -/
def LaterCyclesVisit (connections : List ConnectionObjectRef) (outcomes : List EventOutcome) :
    Prop :=
  ∀ pre x rest, outcomes = pre ++ x :: rest → x.event = none → FirstCycleVisits connections rest

/-- Every round of a run returns, and so every cycle but the first visits the connections. -/
def EventCyclesVisit (fuel : Nat) (node : NodeConnections) (l : List ConnectionObjectRef)
    (rounds : List EventRound) : Prop :=
  ∃ outcomes, nodeRounds fuel node rounds = some outcomes ∧
    LaterCyclesVisit (l.filter ConnectionObjectRef.isConnection) outcomes

theorem connectionReports_of_isPending {c : Connection} (now : Int64)
    (h : connectionIsPending c = true) : connectionReports c now = true := by
  rw [connectionIsPending, Bool.and_eq_true] at h
  simp [connectionReports, h.1, h.2]

theorem cycleVisits_cons {connections rest : List ConnectionObjectRef} {o : EventOutcome}
    {cycle : List EventOutcome} (hsplit : o.examined ++ rest = connections)
    (hpending : ∀ c ∈ o.examined, o.round.reports c = true → o.event = some c)
    (h : CycleVisits rest cycle) : CycleVisits connections (o :: cycle) := by
  subst hsplit
  refine ⟨by rw [List.flatMap_cons, h.1], fun c hc hall => ?_⟩
  rcases List.mem_append.mp hc with hc | hc
  · have hreports := connectionReports_of_isPending o.round.now (hall o List.mem_cons_self)
    exact ⟨o, List.mem_cons_self, hpending c hc hreports⟩
  · obtain ⟨o', ho', hevent⟩ := h.2 c hc fun o' ho' => hall o' (List.mem_cons_of_mem o ho')
    exact ⟨o', List.mem_cons_of_mem o ho', hevent⟩

theorem cycleVisits_nil : CycleVisits [] [] := ⟨rfl, fun _ hc => by cases hc⟩

section

variable {connections rest : List ConnectionObjectRef} {o : EventOutcome}
  {outcomes : List EventOutcome}

theorem firstCycleVisits_of_event (hsplit : o.examined ++ rest = connections)
    (hpending : ∀ c ∈ o.examined, o.round.reports c = true → o.event = some c)
    (hevent : o.event ≠ none) (h : FirstCycleVisits rest outcomes) :
    FirstCycleVisits connections (o :: outcomes) := by
  intro cycle y post heq hcycle hy
  cases cycle with
  | nil =>
      injection heq with hoy
      exact absurd (hoy ▸ hy) hevent
  | cons x cycle =>
      injection heq with hox heq
      subst hox
      have hrest := h cycle y post heq (fun o' ho' => hcycle o' (List.mem_cons_of_mem o ho')) hy
      exact cycleVisits_cons hsplit hpending hrest

theorem firstCycleVisits_of_end (hexamined : o.examined = connections)
    (hpending : ∀ c ∈ o.examined, o.round.reports c = true → o.event = some c)
    (hevent : o.event = none) : FirstCycleVisits connections (o :: outcomes) := by
  intro cycle y post heq hcycle hy
  cases cycle with
  | nil =>
      injection heq with hoy
      subst hoy
      exact cycleVisits_cons (by simpa using hexamined) hpending cycleVisits_nil
  | cons x cycle =>
      injection heq with hox heq
      subst hox
      exact absurd hevent (hcycle o List.mem_cons_self)

theorem laterCyclesVisit_cons (hfirst : o.event = none → FirstCycleVisits connections outcomes)
    (h : LaterCyclesVisit connections outcomes) : LaterCyclesVisit connections (o :: outcomes) := by
  intro pre x rest heq hx
  cases pre with
  | nil =>
      injection heq with hox heq
      subst hox heq
      exact hfirst hx
  | cons o' pre =>
      injection heq with hoo heq
      exact h pre x rest heq hx

end

/-- Behind a head that is no connection, the cycles visit every connection. -/
theorem nodeRounds_visits {node : NodeConnections} {l l' : List ConnectionObjectRef} {fuel : Nat}
    (h : node.Lists l) (hhead : ∀ c, node.connectionsHead = some c → c.isConnection = false)
    (hsuffix : l' <:+ l) (hcursor : node.connectionsNext = l'.find? ConnectionObjectRef.isConnection)
    (hfuel : l.length ≤ fuel) (rounds : List EventRound) :
    ∃ outcomes, nodeRounds fuel node rounds = some outcomes ∧
      FirstCycleVisits (l'.filter ConnectionObjectRef.isConnection) outcomes ∧
      LaterCyclesVisit (l.filter ConnectionObjectRef.isConnection) outcomes := by
  induction rounds generalizing node l' with
  | nil =>
      refine ⟨[], rfl, fun cycle y post heq => ?_, fun pre x rest heq => ?_⟩
      · simp at heq
      · simp at heq
  | cons round rounds ih =>
      obtain ⟨examined, event, after, hexamine, hupTo⟩ :=
        nodeExamine_upTo round.reports h hsuffix hcursor hfuel
      cases event with
      | some c =>
          obtain ⟨outcomes, hrun, hfirst, hlater⟩ :=
            ih (h.move (after.find? ConnectionObjectRef.isConnection)) hhead
              (hupTo.suffix.trans hsuffix) rfl
          refine ⟨⟨round, examined, some c⟩ :: outcomes, ?_, ?_, ?_⟩
          · simp [nodeRounds, hexamine, nodeConsumeEvent, hrun]
          · exact firstCycleVisits_of_event hupTo.split hupTo.pending (by simp) hfirst
          · exact laterCyclesVisit_cons (fun h => by cases h) hlater
      | none =>
          obtain ⟨outcomes, hrun, hfirst, hlater⟩ :=
            ih (h.move (l.tail.find? ConnectionObjectRef.isConnection)) hhead (List.tail_suffix l) rfl
          have htail : l.tail.filter ConnectionObjectRef.isConnection =
              l.filter ConnectionObjectRef.isConnection := by
            cases l with
            | nil => rfl
            | cons c l => rw [List.tail_cons, List.filter_cons_of_neg (by simp [hhead c h.1])]
          rw [htail] at hfirst
          have hexamined := hupTo.split
          rw [hupTo.ended rfl, List.append_nil] at hexamined
          have hconsume := nodeConsumeEvent_nextCycle
            (h.move (after.find? ConnectionObjectRef.isConnection)) hfuel
          refine ⟨⟨round, examined, none⟩ :: outcomes, ?_, ?_, ?_⟩
          · simp [nodeRounds, hexamine, hconsume, hrun]
          · exact firstCycleVisits_of_end hexamined hupTo.pending rfl
          · exact laterCyclesVisit_cons (fun _ => hfirst) hlater

/-! ## Every run -/

/-- A node as it is built: its list is linked both ways and its cursor is a connection of it. -/
structure NodeConnections.Built (node : NodeConnections) (l : List ConnectionObjectRef) : Prop where
  lists : node.Lists l
  cursor : ∃ l', l' <:+ l ∧ node.connectionsNext = l'.find? ConnectionObjectRef.isConnection

theorem built_of_nodeInit {links : Links ConnectionObjectRef} {head e : Option ConnectionObjectRef}
    {l : List ConnectionObjectRef} {fuel : Nat} {node : NodeConnections}
    (h : Segment links none head l e none) (hfuel : l.length ≤ fuel)
    (hinit : nodeInit fuel links head = some node) : node.Built l := by
  obtain ⟨node', hinit', hinv⟩ := exists_nodeInit h hfuel
  rw [hinit] at hinit'
  cases hinit'
  refine ⟨hinv.linked, l, List.suffix_rfl, ?_⟩
  have hfirst := walkFind_eq ConnectionObjectRef.isConnection h hfuel
  cases head with
  | none =>
      cases hinit
      cases l with
      | nil => rfl
      | cons c l => cases h.1
  | some f =>
      simp only [nodeInit, connectionFirst, hfirst] at hinit
      cases hwalk : walkLast links.next fuel f with
      | none =>
          rw [hwalk] at hinit
          cases hinit
      | some c =>
          rw [hwalk] at hinit
          cases hinit
          rfl

/-- A connection with no links of its own is added. -/
theorem NodeConnections.Built.addConnection {node node' : NodeConnections}
    {l : List ConnectionObjectRef} {c : ConnectionObjectRef} (h : node.Built l) (hc : c ∉ l)
    (hconnection : c.isConnection = true) (hnext : node.links.next c = none)
    (hprev : node.links.prev c = none) (hadd : nodeAddConnection node c = some node') :
    node'.Built (l ++ [c]) := by
  have hlists := h.lists
  rw [NodeConnections.Lists] at hlists
  cases hhead : node.connectionsHead with
  | none =>
      rw [hhead] at hlists
      cases l with
      | cons f r => cases hlists.1
      | nil =>
          simp only [nodeAddConnection, hhead] at hadd
          cases hadd
          exact ⟨⟨rfl, hprev, hnext, rfl⟩, [c], List.suffix_rfl, by simp [hconnection]⟩
  | some f =>
      rw [hhead] at hlists
      obtain ⟨r, rfl⟩ := hlists.exists_cons
      have hlast := hlists.last_eq
      rw [List.getLast?_eq_some_getLast (List.cons_ne_nil f r), Option.some_or,
        List.getLast_eq_getLastD] at hlast
      simp only [nodeAddConnection, hhead, hlast, Option.map_some] at hadd
      cases hadd
      obtain ⟨l', hsuffix, hcursor⟩ := h.cursor
      refine ⟨hlists.append hc hnext, ?_⟩
      cases hfind : l'.find? ConnectionObjectRef.isConnection with
      | none => exact ⟨[], List.nil_suffix, by rw [hcursor, hfind]; rfl⟩
      | some d =>
          obtain ⟨l₀, hl₀⟩ := hsuffix
          refine ⟨l' ++ [c], ⟨l₀, by rw [← List.append_assoc, hl₀]⟩, ?_⟩
          rw [hcursor, List.find?_append, hfind, Option.some_or]

/-- A round in which every connection is idle. -/
def idleRound : EventRound := ⟨fun _ => connectionInit (connectionConstruct [] []), 0⟩

theorem idleRound_reports (c : ConnectionObjectRef) : idleRound.reports c = false := by
  rw [EventRound.reports, connectionReports]
  simp only [Bool.and_eq_false_imp, Bool.not_eq_true']
  intro hidle
  cases (show connectionIsIdle (connectionInit (connectionConstruct [] [])) = false from hidle)

/-- A round in which nothing is reported ends the cycle. -/
theorem nodeExamine_idle {node : NodeConnections} {l l' : List ConnectionObjectRef} {fuel : Nat}
    (h : node.Lists l) (hsuffix : l' <:+ l)
    (hcursor : node.connectionsNext = l'.find? ConnectionObjectRef.isConnection)
    (hfuel : l.length ≤ fuel) :
    ∃ after : List ConnectionObjectRef, nodeExamine fuel node idleRound.reports =
      some (l'.filter ConnectionObjectRef.isConnection, none,
        { node with connectionsNext := after.find? ConnectionObjectRef.isConnection }) := by
  obtain ⟨examined, event, after, hexamine, hupTo⟩ :=
    nodeExamine_upTo idleRound.reports h hsuffix hcursor hfuel
  have hevent : event = none := by
    cases event with
    | none => rfl
    | some c =>
        have hreports := hupTo.reported c rfl
        rw [idleRound_reports] at hreports
        cases hreports
  subst hevent
  have hexamined := hupTo.split
  rw [hupTo.ended rfl, List.append_nil] at hexamined
  exact ⟨after, hexamined ▸ hexamine⟩

/-- In every run every cycle but the first visits the connections, exactly when the list does
not start with a connection. -/
theorem eventCyclesVisit_iff {node : NodeConnections} {l : List ConnectionObjectRef} (fuel : Nat)
    (h : node.Built l) (hfuel : l.length ≤ fuel) :
    (∀ rounds, EventCyclesVisit fuel node l rounds) ↔
      ∀ c, node.connectionsHead = some c → c.isConnection = false := by
  obtain ⟨hlists, l', hsuffix, hcursor⟩ := h
  constructor
  · intro hvisit c hhead
    by_contra hc
    rw [Bool.not_eq_false] at hc
    -- Two rounds with nothing to report: the second leaves the head out.
    obtain ⟨outcomes, hrun, hlater⟩ := hvisit [idleRound, idleRound]
    obtain ⟨after, hexamine⟩ := nodeExamine_idle hlists hsuffix hcursor hfuel
    obtain ⟨after', hexamine'⟩ := nodeExamine_idle
      (hlists.move (l.tail.find? ConnectionObjectRef.isConnection)) (List.tail_suffix l) rfl hfuel
    have hconsume := nodeConsumeEvent_nextCycle
      (hlists.move (after.find? ConnectionObjectRef.isConnection)) hfuel
    have hconsume' := nodeConsumeEvent_nextCycle
      (hlists.move (after'.find? ConnectionObjectRef.isConnection)) hfuel
    simp only [nodeRounds, hexamine, hconsume, hexamine', hconsume', Option.bind_eq_bind,
      Option.bind_some, Option.pure_def] at hrun
    cases hrun
    have hvisits := hlater [] _ _ rfl rfl [] _ [] rfl (by simp) rfl
    obtain ⟨r, rfl⟩ : ∃ r, l = c :: r := by
      have hlinked := hlists
      rw [NodeConnections.Lists, hhead] at hlinked
      exact hlinked.exists_cons
    have hlength := congrArg List.length hvisits.1
    simp [hc] at hlength
  · intro hhead rounds
    obtain ⟨outcomes, hrun, -, hlater⟩ :=
      nodeRounds_visits hlists hhead hsuffix hcursor hfuel rounds
    exact ⟨outcomes, hrun, hlater⟩

/-- A list head and a connection. -/
def headAndConnection : Links ConnectionObjectRef where
  next
    | .listHead _ => some (.connection 0)
    | _ => none
  prev
    | .connection _ => some (.listHead 0)
    | _ => none

theorem headAndConnection_visited : ∃ node,
    nodeInit 2 headAndConnection (some (.listHead 0)) = some node ∧
      ∀ rounds, EventCyclesVisit 2 node [.listHead 0, .connection 0] rounds := by
  have hlinked : Segment headAndConnection none (some (.listHead 0))
      [.listHead 0, .connection 0] (some (.connection 0)) none := ⟨rfl, rfl, rfl, rfl, rfl, rfl⟩
  refine ⟨_, rfl, (eventCyclesVisit_iff 2 (built_of_nodeInit hlinked (show 2 ≤ 2 by decide) rfl)
    (by decide)).mpr ?_⟩
  intro c hc
  cases hc
  rfl

/-- A node without a list, to which one connection is added. -/
theorem firstConnection_leftOut : ¬ ∀ (node : NodeConnections) (c : ConnectionObjectRef)
    (rounds : List EventRound), c.isConnection = true →
      (nodeInit 1 noLinks none).bind (fun node => nodeAddConnection node c) = some node →
        EventCyclesVisit 1 node [c] rounds := by
  intro h
  obtain ⟨outcomes, hrun, hlater⟩ := h _ (.connection 0) [idleRound, idleRound] rfl rfl
  cases hrun
  have hvisits := hlater [] _ _ rfl rfl [] _ [] rfl (by simp) rfl
  have hlength := congrArg List.length hvisits.1
  revert hlength
  decide

end RobotRaconteurLite

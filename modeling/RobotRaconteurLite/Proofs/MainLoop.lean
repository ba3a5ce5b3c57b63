import RobotRaconteurLite.Node.Polling
import RobotRaconteurLite.Proofs.Listening
import RobotRaconteurLite.Proofs.NodeCycles
import RobotRaconteurLite.Proofs.RequestsEnd
import RobotRaconteurLite.Proofs.Wakes

/-!
# The main loop never sleeps deaf

When the main loop waits, nothing is left that the node could do at once. Every
connection with an open socket is then among those that the wait is for: the
sockets that ask for bytes are polled for bytes, and those with something to send
are polled until they take it. The wait ends before anything else is due.

This rests on an invariant of the connections that every step of the program
keeps, in whatever order the steps come.
-/

namespace RobotRaconteurLite

open CallSequence

/-- The connection that an object of the list is. -/
def ConnectionObject.index : ConnectionObject → Option Nat
  | .connection i => some i
  | _ => none

section

variable [SizeT]

/-! ## What every step keeps -/

/-- A node after a step: it has the same list, and every connection that was attended to is. -/
structure PolledNode.Attends (p p' : PolledNode) : Prop where
  objects : p'.objects = p.objects
  connections : p'.node.connections = p.node.connections
  attended : ∀ i, (p.node.connection i).Attended → (p'.node.connection i).Attended

namespace PolledNode.Attends

variable {p p' p'' : PolledNode}

theorem refl (p : PolledNode) : p.Attends p := ⟨rfl, rfl, fun _ => id⟩

theorem trans (h : p.Attends p') (h' : p'.Attends p'') : p.Attends p'' :=
  ⟨h'.objects.trans h.objects, h'.connections.trans h.connections,
    fun i hi => h'.attended i (h.attended i hi)⟩

theorem setConnection (p : PolledNode) (i : Nat) {c : Connection}
    (h : (p.node.connection i).Attended → c.Attended) : p.Attends (p.setConnection i c) := by
  refine ⟨rfl, rfl, fun j hj => ?_⟩
  rcases eq_or_ne j i with rfl | hne
  · rw [PolledNode.setConnection, Node.setConnection_connection]
    exact h hj
  · rw [PolledNode.setConnection, Node.setConnection_connection_ne p.node c hne]
    exact hj

theorem setAcceptor (p : PolledNode) (a : Nat) (acceptor : TcpAcceptor) :
    p.Attends (p.setAcceptor a acceptor) := ⟨rfl, rfl, fun _ => id⟩

theorem withOps (h : p.Attends p') (hasOps : Nat → Bool) : p.Attends { p' with hasOps } :=
  ⟨h.objects, h.connections, h.attended⟩

/-- A node that was asked for something. -/
theorem asked (p : PolledNode) {node : Node} (h : p.node.Asked node) :
    p.Attends { p with node } :=
  ⟨rfl, h.round.1.connections, fun i hi => hi.asked (h.connection i)⟩

/-! ### The transport -/

/-- A pass over the list of objects. -/
theorem foldl_communicateObject {connection : Connection → Connection}
    {acceptor : PolledNode → Nat → PolledNode}
    (hconnection : ∀ c : Connection, c.Attended → (connection c).Attended)
    (hacceptor : ∀ p a, PolledNode.Attends p (acceptor p a)) (objects : List ConnectionObject)
    (p : PolledNode) : p.Attends (objects.foldl (PolledNode.communicateObject connection acceptor) p) := by
  induction objects generalizing p with
  | nil => exact refl p
  | cons object objects ih =>
      have hstep : p.Attends (p.communicateObject connection acceptor object) := by
        cases object with
        | listHead => exact refl p
        | acceptor a => exact hacceptor p a
        | connection i =>
            unfold PolledNode.communicateObject
            dsimp only
            split
            · exact setConnection p i (hconnection _)
            · exact refl p
      exact hstep.trans (ih _)

theorem acceptorCommunicate (p : PolledNode) (a : Nat) (now : Int64) :
    p.Attends (tcpAcceptorCommunicateOp p a now) := by
  unfold tcpAcceptorCommunicateOp
  split
  · exact refl p
  · split
    · exact refl p
    · dsimp only
      split
      · exact setAcceptor p a _
      · refine withOps ((setAcceptor p a _).trans (setConnection _ _ ?_)) _
        exact fun _ => .accept2 _ now TCP_TRANSPORT _

end PolledNode.Attends

theorem tcpConnectionCommunicateSteps_attended (digest : TcpDigest) (now : Int64) {c : Connection}
    (h : c.Attended) : (tcpConnectionCommunicateSteps digest now c).Attended := by
  have hcontrol := h.processControl digest
  unfold tcpConnectionCommunicateSteps
  split
  · next hrun => rwa [hrun] at hcontrol
  · next hrun =>
      rw [hrun] at hcontrol
      have hrecv := hcontrol.communicateRecv now
      split
      · next hrun => rwa [hrun] at hrecv
      · next hrun =>
          rw [hrun] at hrecv
          exact hrecv.communicateSend now

theorem connectionsCommunicate_attends (digest : TcpDigest) (p : PolledNode) (now : Int64) :
    p.Attends (connectionsCommunicate digest p now) :=
  .foldl_communicateObject (fun _ => tcpConnectionCommunicateSteps_attended digest now)
    (fun p a => .acceptorCommunicate p a now) _ _

theorem connectionsCommunicateSend_attends (p : PolledNode) (now : Int64) :
    p.Attends (connectionsCommunicateSend p now) :=
  .foldl_communicateObject (fun _ h => h.communicateSend now) (fun p _ => .refl p) _ _

theorem connectionsCommunicateRecv_attends (p : PolledNode) (now : Int64) :
    p.Attends (connectionsCommunicateRecv p now) :=
  .foldl_communicateObject (fun _ h => h.communicateRecv now) (fun p _ => .refl p) _ _

theorem connectionsCommunicateProcessControl_attends (digest : TcpDigest) (p : PolledNode)
    (now : Int64) : p.Attends (connectionsCommunicateProcessControl digest p now) :=
  .foldl_communicateObject (fun _ h => h.processControl digest)
    (fun p a => .acceptorCommunicate p a now) _ _

omit [SizeT] in
theorem flagsCheck_want {flag other : BitVec 16} (h : flag &&& other = 0#16) (sock : Socket)
    (wanted : Bool) : flagsCheck (sock.want flag wanted).flags other = flagsCheck sock.flags other := by
  cases wanted with
  | true => exact flagsCheck_set_of_disjoint h
  | false => exact flagsCheck_clear_of_disjoint h

omit [SizeT] in
theorem connectionImplPrepareWait_attended {c : Connection} (h : c.Attended) :
    (connectionImplPrepareWait c).Attended := by
  unfold connectionImplPrepareWait
  split
  · exact h
  · intro hactive
    refine h ?_
    rw [← hactive, Connection.isActive, Connection.isActive, flagsCheck_want (by decide),
      flagsCheck_want (by decide)]

theorem connectionsPrepareWait_attends (p : PolledNode) : p.Attends (connectionsPrepareWait p) :=
  .foldl_communicateObject (fun _ => connectionImplPrepareWait_attended)
    (fun p a => .setAcceptor p a _) _ _

theorem hear_attends (p : PolledNode) (meanwhile : Meanwhile) : p.Attends (p.hear meanwhile) :=
  ⟨rfl, rfl, fun _ => id⟩

/-! ### The node -/

theorem nodeRunNextEvent2_connections (node : Node) (now : Int64) :
    (nodeRunNextEvent2 node now).2.connections = node.connections := by
  unfold nodeRunNextEvent2
  by_cases hcycle : (node.nextEvent now).1.eventType = .nextCycle
  · exact (nodeRunEvent_nextCycle _ hcycle now).1.connections.trans
      (nextEvent_round node now).connections
  · exact (nodeRunEvent_moves _ hcycle now).cycle.1.trans (nextEvent_round node now).connections

theorem nodeRunNextEvent2_attends (p : PolledNode) (now : Int64) :
    p.Attends { p with node := (nodeRunNextEvent2 p.node now).2 } := by
  refine ⟨rfl, nodeRunNextEvent2_connections p.node now, fun i hi => ?_⟩
  obtain ⟨eventType, c, hrechecked, hworked, hreported⟩ := nodeRunNextEvent2_worked p.node now i
  refine (hi.rechecked hrechecked).worked hworked fun hevent => ?_
  obtain ⟨t, rfl⟩ := hrechecked
  exact Connection.exposed_of_reported hreported hevent

theorem runCycle_attends (eventErrorReturned : Option (Event → List AppCall)) (p : PolledNode)
    (now : Int64) (maxEvents : Nat) : p.Attends (p.runCycle eventErrorReturned now maxEvents) := by
  have hround (node : Node) : ({ p with node } : PolledNode).Attends
      { p with node := (nodeRunCycleRound eventErrorReturned now node).2 } :=
    (nodeRunNextEvent2_attends { p with node } now).trans
      (.asked _ (nodeEventErrorReturned_asked eventErrorReturned _ _ _))
  have hloop (left : Nat) (node : Node) : ({ p with node } : PolledNode).Attends
      { p with node := (nodeRunNextEventCycleLoop eventErrorReturned now left node).2 } := by
    induction left generalizing node with
    | zero =>
        unfold nodeRunNextEventCycleLoop
        dsimp only
        split <;> exact hround node
    | succ left ih =>
        unfold nodeRunNextEventCycleLoop
        dsimp only
        split
        · exact hround node
        · exact (hround node).trans (ih _)
  exact hloop (maxEvents - 1) p.node

theorem nodeRunEventsDrainLoop_attends (eventErrorReturned : Option (Event → List AppCall))
    (now : Int64) (maxEventsPerCycle maxCycles rounds cycles : Nat) (p : PolledNode) :
    p.Attends (nodeRunEventsDrainLoop eventErrorReturned now maxEventsPerCycle maxCycles rounds
      cycles p).2 := by
  have hround (p : PolledNode) : p.Attends (nodeEventsDrainPending
      ((connectionsCommunicateDrain p now).runCycle eventErrorReturned now maxEventsPerCycle)).2 :=
    ((connectionsCommunicateSend_attends p now).trans (runCycle_attends _ _ _ _)).trans
      (connectionsPrepareWait_attends _)
  induction rounds generalizing cycles p with
  | zero =>
      unfold nodeRunEventsDrainLoop
      dsimp only
      split <;> exact hround p
  | succ rounds ih =>
      unfold nodeRunEventsDrainLoop
      dsimp only
      split
      · exact (hround p).trans (ih _ _)
      · exact hround p

theorem nodeRunEventsAvailableLoop_attends (digest : TcpDigest)
    (eventErrorReturned : Option (Event → List AppCall)) (now : Int64)
    (maxEventsPerCycle maxCycles rounds cycles : Nat) (p : PolledNode) :
    p.Attends (nodeRunEventsAvailableLoop digest eventErrorReturned now maxEventsPerCycle maxCycles
      rounds cycles p) := by
  have hround (cycles : Nat) (p : PolledNode) : p.Attends (nodeEventsAvailable
      (nodeRunEventsDrainLoop eventErrorReturned now maxEventsPerCycle maxCycles maxCycles cycles
        (connectionsCommunicate digest p now)).2).2 :=
    ((connectionsCommunicate_attends digest p now).trans
      (nodeRunEventsDrainLoop_attends _ _ _ _ _ _ _)).trans (connectionsPrepareWait_attends _)
  induction rounds generalizing cycles p with
  | zero =>
      unfold nodeRunEventsAvailableLoop
      dsimp only
      split <;> exact hround cycles p
  | succ rounds ih =>
      unfold nodeRunEventsAvailableLoop
      dsimp only
      split
      · exact (hround cycles p).trans (ih _ _)
      · exact hround cycles p

theorem connect_attends (digest : TcpDigest) (p : PolledNode) (client : Nat) (addr : Addr)
    (now : Int64) (connected : Result Socket) :
    p.Attends (p.connect digest client addr now connected).2 := by
  unfold PolledNode.connect
  split
  · exact .refl p
  · next i _ =>
      split
      · exact .refl p
      · next sock =>
          have hconnect := Connection.Attended.connect2 (p.node.connection i) now addr sock
          split
          · next hrun =>
              rw [hrun] at hconnect
              exact .setConnection p i fun _ => hconnect
          · next c hrun =>
              rw [hrun] at hconnect
              have hclient : ({ c with client := some client } : Connection).Attended := hconnect
              have hset := PolledNode.Attends.setConnection p i
                fun _ => hclient.serviceStart digest addr
              exact ⟨hset.objects, hset.connections, hset.attended⟩

theorem nodeShutdown_attends (p : PolledNode) : p.Attends { p with node := nodeShutdown p.node } := by
  have hclosed (connections : List Nat) (node : Node) : node.Asked
      (connections.foldl (fun node i => node.modifyConnection i connectionClose) node) := by
    induction connections generalizing node with
    | nil => exact .refl node
    | cons i connections ih =>
        exact (Node.Asked.modifyConnection node i connectionClose_asked).trans (ih _)
  exact .asked p (hclosed p.node.connections p.node)

theorem clientBeginRequest_attends (p : PolledNode) (i : Nat) (entryType : UInt16)
    (membername servicepath : Option ConstString) (request : Option Nat) :
    p.Attends { p with
      node := (clientBeginRequest p.node i entryType membername servicepath request).2 } := by
  have hsend (p' : PolledNode) (h : p.Attends p') (header : MessageEntryConstHeader) :
      p.Attends { p' with node := (nodeBeginSendMessageentry p'.node i header).2 } := by
    obtain ⟨b, hb⟩ := nodeBeginSendMessageentry_sendBuffer p'.node i header
    rw [hb]
    exact h.trans (.asked p' (withSendBuffer_asked p'.node i b))
  have hcounted : p.Attends (p.setConnection i { p.node.connection i with
      lastRequestId := (p.node.connection i).lastRequestId + 1 }) := .setConnection p i id
  unfold clientBeginRequest
  cases request with
  | none => exact hsend _ hcounted _
  | some r =>
      exact hsend { p with node := (p.node.setConnection i { p.node.connection i with
        lastRequestId := (p.node.connection i).lastRequestId + 1 }).setRequest r _ }
        ⟨hcounted.objects, hcounted.connections, hcounted.attended⟩ _

theorem clientSendRequest_attends (p : PolledNode) (i : Nat) (sendData : SendMessageentryData)
    (request : Option Nat) :
    p.Attends { p with node := (clientSendRequest p.node i sendData request).2 } := by
  have hasked : p.Attends { p with node := (nodeEndSendMessageentry p.node i sendData).2 } :=
    .asked p (nodeEndSendMessageentry_asked p.node i sendData)
  unfold clientSendRequest
  split
  · next hrun =>
      rw [hrun] at hasked
      exact ⟨hasked.objects, hasked.connections, hasked.attended⟩
  · exact hasked

/-! ## Getting ready to wait -/

/-- What `poll` is asked for a socket. -/
def pollEvents (sockFlags : BitVec 16) : BitVec 16 :=
  (if flagsCheck sockFlags SOCKET_FLAGS_WANT_SEND then POLLOUT else 0) |||
    (if flagsCheck sockFlags SOCKET_FLAGS_WANT_RECEIVE then POLLIN else 0)

omit [SizeT] in
theorem pollEvents_out (sockFlags : BitVec 16) :
    flagsCheck (pollEvents sockFlags) POLLOUT = flagsCheck sockFlags SOCKET_FLAGS_WANT_SEND := by
  unfold pollEvents
  cases flagsCheck sockFlags SOCKET_FLAGS_WANT_SEND <;>
    cases flagsCheck sockFlags SOCKET_FLAGS_WANT_RECEIVE <;> rfl

omit [SizeT] in
theorem pollEvents_in (sockFlags : BitVec 16) :
    flagsCheck (pollEvents sockFlags) POLLIN = flagsCheck sockFlags SOCKET_FLAGS_WANT_RECEIVE := by
  unfold pollEvents
  cases flagsCheck sockFlags SOCKET_FLAGS_WANT_SEND <;>
    cases flagsCheck sockFlags SOCKET_FLAGS_WANT_RECEIVE <;> rfl

/-- What stands for a socket in the call of `poll`: an open one that is not a fake. -/
def Socket.pollfd (sock : Socket) : Option Pollfd :=
  if flagsCheck sock.flags SOCKET_FLAGS_ACTIVE = true ∧
      flagsCheck sock.flags SOCKET_FLAGS_FAKE_SOCKET = false ∧ sock.sock ≠ 0 then
    some ⟨sock.sock, pollEvents sock.flags⟩
  else none

omit [SizeT] in
theorem pollPollfdsAddSocket_ok {sock : Socket} {maxPollfds : Nat} {pollfds pollfds' : List Pollfd}
    (h : pollPollfdsAddSocket sock maxPollfds pollfds = .ok pollfds') :
    pollfds' = pollfds ++ sock.pollfd.toList := by
  unfold pollPollfdsAddSocket at h
  unfold Socket.pollfd
  split at h
  · next hskip =>
      cases h
      rw [if_neg, Option.toList_none, List.append_nil]
      rintro ⟨hactive, hfake, -⟩
      rw [hactive, hfake] at hskip
      exact hskip.elim (· rfl) Bool.false_ne_true
  · next hopen =>
      obtain ⟨hactive, hfake⟩ := not_or.mp hopen
      rw [not_not] at hactive
      split at h
      · next hnone =>
          cases h
          rw [if_neg fun hall => hall.2.2 hnone, Option.toList_none, List.append_nil]
      · next hsock =>
          rw [if_pos ⟨hactive, Bool.eq_false_of_not_eq_true hfake, hsock⟩]
          unfold pollImplAddFd at h
          rw [if_neg (not_or.mpr ⟨not_not_intro hactive, hsock⟩)] at h
          dsimp only at h
          split at h
          · cases h
          · cases h
            rfl

/-- Every object that has an open socket is polled for, each in its place. -/
theorem pollfds_eq {p : PolledNode} {maxPollfds : Nat} {pollfds : List Pollfd}
    (h : p.pollfds maxPollfds = .ok pollfds) :
    pollfds = p.objects.filterMap fun object => (p.sockOf object).bind Socket.pollfd := by
  have hloop (objects : List ConnectionObject) (before : List Pollfd)
      (h : objects.foldlM (fun pollfds object =>
        pollPollfdsAddSockets maxPollfds pollfds (p.sockOf object)) before = .ok pollfds) :
      pollfds = before ++ objects.filterMap fun object => (p.sockOf object).bind Socket.pollfd := by
    induction objects generalizing before with
    | nil =>
        cases h
        simp
    | cons object objects ih =>
        rw [List.foldlM_cons] at h
        obtain ⟨between, hobject, hrest⟩ : ∃ between,
            pollPollfdsAddSockets maxPollfds before (p.sockOf object) = .ok between ∧
              objects.foldlM (fun pollfds object =>
                pollPollfdsAddSockets maxPollfds pollfds (p.sockOf object)) between = .ok pollfds := by
          cases hobject : pollPollfdsAddSockets maxPollfds before (p.sockOf object) with
          | error e =>
              rw [hobject] at h
              cases h
          | ok between =>
              rw [hobject] at h
              exact ⟨between, rfl, h⟩
        have hadded : between = before ++ ((p.sockOf object).bind Socket.pollfd).toList := by
          unfold pollPollfdsAddSockets at hobject
          cases hsock : p.sockOf object with
          | none =>
              rw [hsock] at hobject
              cases hobject
              simp
          | some sock =>
              rw [hsock] at hobject
              exact pollPollfdsAddSocket_ok hobject
        rw [ih between hrest, hadded, List.filterMap_cons]
        cases (p.sockOf object).bind Socket.pollfd <;> simp
  simpa using hloop p.objects [] h

/-- What is asked for a connection says what it waits for. -/
def Connection.Asks (c : Connection) : Prop :=
  ∀ fd, c.sock.pollfd = some fd →
    flagsCheck fd.events POLLOUT = c.checkState (STATUS_FLAGS_SEND_REQUESTED |||
      STATUS_FLAGS_SENDING ||| STATUS_FLAGS_CONNECTING) ∧
    flagsCheck fd.events POLLIN =
      c.checkState (STATUS_FLAGS_RECEIVE_REQUESTED ||| STATUS_FLAGS_RECEIVING)

/-- The same connection, with a socket that something else may be asked for. -/
def Connection.SameButSocket (c c' : Connection) : Prop := ∃ sock, c' = { c with sock }

omit [SizeT] in
theorem Connection.SameButSocket.trans {c c' c'' : Connection} (h : c.SameButSocket c')
    (h' : c'.SameButSocket c'') : c.SameButSocket c'' := by
  obtain ⟨sock, rfl⟩ := h
  obtain ⟨sock', rfl⟩ := h'
  exact ⟨sock', rfl⟩

omit [SizeT] in
theorem connectionImplPrepareWait_sameButSocket (c : Connection) :
    c.SameButSocket (connectionImplPrepareWait c) := by
  unfold connectionImplPrepareWait
  split
  · exact ⟨c.sock, rfl⟩
  · exact ⟨_, rfl⟩

omit [SizeT] in
theorem flagsCheck_want_self {flag : BitVec 16} (hset : flag ≠ 0#16) (sock : Socket) (wanted : Bool) :
    flagsCheck (sock.want flag wanted).flags flag = wanted := by
  cases wanted with
  | true => exact flagsCheck_set_of_overlap (by rwa [BitVec.and_self])
  | false => exact flagsCheck_clear_of_subset (BitVec.not_and_self flag)

omit [SizeT] in
theorem connectionImplPrepareWait_asks (c : Connection) : (connectionImplPrepareWait c).Asks := by
  intro fd hfd
  unfold connectionImplPrepareWait at hfd ⊢
  split at hfd
  · next hclosed =>
      unfold Socket.pollfd at hfd
      rw [if_neg] at hfd
      · cases hfd
      · rintro ⟨hactive, -, hsock⟩
        exact hclosed.elim (· hactive) hsock
  · next hopen =>
      rw [if_neg hopen]
      unfold Socket.pollfd at hfd
      split at hfd
      · cases hfd
        rw [pollEvents_out, pollEvents_in, flagsCheck_want_self (by decide),
          flagsCheck_want (by decide), flagsCheck_want_self (by decide)]
        exact ⟨rfl, rfl⟩
      · cases hfd

/-- A node after it got ready to wait for some objects: nothing but sockets changed, and every
connection with operations asks for what it waits for. -/
structure PolledNode.ReadyFor (objects : List ConnectionObject) (p p' : PolledNode) : Prop where
  hasOps : p'.hasOps = p.hasOps
  rest : p'.node = { p.node with connection := p'.node.connection }
  same : ∀ i, (p.node.connection i).SameButSocket (p'.node.connection i)
  asks : ∀ i, p.hasOps i = true → .connection i ∈ objects ∨ (p.node.connection i).Asks →
    (p'.node.connection i).Asks

namespace PolledNode.ReadyFor

variable {p p' p'' : PolledNode} {objects : List ConnectionObject}

/-- Nothing is done. -/
theorem of_connection (hops : p'.hasOps = p.hasOps) (hnode : p'.node = p.node)
    (hnone : ∀ i, p.hasOps i = true → .connection i ∉ objects) : p.ReadyFor objects p' where
  hasOps := hops
  rest := by rw [hnode]
  same i := ⟨_, by rw [hnode]⟩
  asks i hi hmem := by
    rw [hnode]
    exact hmem.resolve_left (hnone i hi)

theorem cons {object : ConnectionObject} (h : p.ReadyFor [object] p')
    (h' : p'.ReadyFor objects p'') : p.ReadyFor (object :: objects) p'' where
  hasOps := h'.hasOps.trans h.hasOps
  rest := by rw [h'.rest, h.rest]
  same i := (h.same i).trans (h'.same i)
  asks i hi hmem := by
    refine h'.asks i (by rw [h.hasOps, hi]) ?_
    rcases hmem with hmem | hasks
    · rcases List.mem_cons.mp hmem with hfirst | hrest
      · exact Or.inr (h.asks i hi (Or.inl (hfirst ▸ List.mem_singleton_self _)))
      · exact Or.inl hrest
    · exact Or.inr (h.asks i hi (Or.inr hasks))

theorem connection (p : PolledNode) (i : Nat) :
    p.ReadyFor [.connection i] (p.setConnection i (connectionImplPrepareWait (p.node.connection i))) where
  hasOps := rfl
  rest := rfl
  same j := by
    unfold PolledNode.setConnection
    rcases eq_or_ne j i with rfl | hne
    · rw [Node.setConnection_connection]
      exact connectionImplPrepareWait_sameButSocket _
    · rw [Node.setConnection_connection_ne p.node _ hne]
      exact ⟨_, rfl⟩
  asks j _ hmem := by
    unfold PolledNode.setConnection
    rcases eq_or_ne j i with rfl | hne
    · rw [Node.setConnection_connection]
      exact connectionImplPrepareWait_asks _
    · rw [Node.setConnection_connection_ne p.node _ hne]
      refine hmem.resolve_left fun hin => hne ?_
      exact ConnectionObject.connection.inj (List.mem_singleton.mp hin)

end PolledNode.ReadyFor

theorem connectionsPrepareWait_ready (p : PolledNode) :
    p.ReadyFor p.objects (connectionsPrepareWait p) := by
  have hloop (objects : List ConnectionObject) (p : PolledNode) : p.ReadyFor objects (objects.foldl
      (PolledNode.communicateObject connectionImplPrepareWait tcpAcceptorPrepareWaitOp) p) := by
    induction objects generalizing p with
    | nil => exact .of_connection rfl rfl fun _ _ => List.not_mem_nil
    | cons object objects ih =>
        refine .cons ?_ (ih _)
        cases object with
        | listHead => exact .of_connection rfl rfl fun i _ => by simp
        | acceptor a => exact .of_connection rfl rfl fun i _ => by simp
        | connection i =>
            unfold PolledNode.communicateObject
            dsimp only
            split
            · exact .connection p i
            · next hnone =>
                refine .of_connection rfl rfl fun j hj hin => hnone ?_
                rwa [← ConnectionObject.connection.inj (List.mem_singleton.mp hin)]
  exact hloop p.objects p

omit [SizeT] in
theorem Connection.SameButSocket.dueBy {c c' : Connection} (h : c.SameButSocket c') (time : Int64) :
    c'.DueBy time ↔ c.DueBy time := by
  obtain ⟨sock, rfl⟩ := h
  rfl

/-- Getting ready to wait makes nothing due and no event pending. -/
theorem PolledNode.ReadyFor.dueBy {p p' : PolledNode} {objects : List ConnectionObject}
    (h : p.ReadyFor objects p') (now wakeTime time : Int64) :
    p'.node.DueBy now wakeTime time ↔ p.node.DueBy now wakeTime time := by
  unfold Node.DueBy Node.requests
  simp only [(h.same _).dueBy]
  rw [h.rest]

theorem PolledNode.ReadyFor.eventsPending {p p' : PolledNode} {objects : List ConnectionObject}
    (h : p.ReadyFor objects p') : p'.node.eventsPending = p.node.eventsPending := by
  have hsame (i : Nat) : connectionEventsPending (p'.node.connection i) =
      connectionEventsPending (p.node.connection i) := by
    obtain ⟨sock, hsock⟩ := h.same i
    rw [hsock]
    rfl
  unfold Node.eventsPending
  simp only [hsame]
  rw [h.rest]

/-! ## The wait -/

/-- What is known of a call of `poll` that the main loop makes at a time. -/
structure PollCall.Attentive (poll : PollCall) (now wakeTime : Int64) : Prop where
  pollfds : poll.pollfds =
    poll.node.objects.filterMap fun object => (poll.node.sockOf object).bind Socket.pollfd
  quiet : poll.node.node.eventsPending = 0 ∧ ¬ poll.node.node.DueBy now 0 now
  heard : ∀ i, .connection i ∈ poll.node.objects → poll.node.hasOps i = true →
    ∀ fd, (poll.node.node.connection i).sock.pollfd = some fd → fd ∈ poll.pollfds ∧
      ((poll.node.node.connection i).checkState STATUS_FLAGS_CONNECTING = false →
        flagsCheck fd.events POLLIN = true) ∧
      ((poll.node.node.connection i).checkState (STATUS_FLAGS_SEND_REQUESTED |||
          STATUS_FLAGS_SENDING ||| STATUS_FLAGS_CONNECTING) = true →
        flagsCheck fd.events POLLOUT = true)
  inTime : 0 ≤ poll.timeout ∧ ∀ time, now ≤ time →
    poll.node.node.DueBy now 0 time ∨ wakeTime ≤ time →
      poll.now.toInt + 1000 * poll.timeout.toInt ≤ time.toInt

omit [SizeT] in
/-- The wait is over before the time to wake, where the clock is not before zero. -/
theorem pollTimeout_inTime {now wakeTime timeout : Int64} (hnow : 0 ≤ now)
    (h : pollTimeout now wakeTime = some timeout) :
    0 ≤ timeout ∧ now.toInt + 1000 * timeout.toInt ≤ wakeTime.toInt := by
  unfold pollTimeout at h
  split at h
  · cases h
  · next hnot =>
      have hle : now ≤ wakeTime := Int64.not_lt.mp hnot
      have hspan : (wakeTime - now).toInt = wakeTime.toInt - now.toInt :=
        Int64.toInt_sub_of_le wakeTime now hnow hle
      have hms : ((wakeTime - now) / 1000).toInt = (wakeTime.toInt - now.toInt) / 1000 := by
        rw [Int64.toInt_div_of_ne_right _ _ (by decide), hspan]
        rw [Int64.le_iff_toInt_le] at hle
        exact Int.tdiv_eq_ediv_of_nonneg (by omega)
      have hthousand : (2147483647 : Int64).toInt = 2147483647 := by decide
      have hzero : (0 : Int64).toInt = 0 := by decide
      rw [Int64.le_iff_toInt_le] at hle
      dsimp only at h
      split at h
      · next hlong =>
          cases h
          rw [gt_iff_lt, Int64.lt_iff_toInt_lt, hms, hthousand] at hlong
          rw [Int64.le_iff_toInt_le, hthousand, hzero]
          omega
      · cases h
        rw [Int64.le_iff_toInt_le, hms, hzero]
        omega

/-- What `poll_connections_run` does before it calls `poll`. -/
theorem pollConnectionsRun_poll {digest : TcpDigest} {p : PolledNode} {maxPollfds : Nat}
    {wakeTime : Int64} {scene : PollScene} {poll : PollCall}
    (h : (pollConnectionsRun digest p maxPollfds wakeTime scene).poll = some poll) :
    ∃ now wake, scene.now = .ok now ∧ scene.nowPolling = .ok poll.now ∧
      (connectionsCommunicate digest p now).node.eventsPending = 0 ∧ now < wake ∧
      (∀ time, wake ≤ time ↔
        (connectionsCommunicate digest p now).node.nextWake now 0 ≤ time ∨ wakeTime ≤ time) ∧
      poll.node = connectionsPrepareWait (connectionsCommunicate digest p now) ∧
      poll.node.pollfds maxPollfds = .ok poll.pollfds ∧
      pollTimeout poll.now wake = some poll.timeout := by
  have hawake (p : PolledNode) (nowAfter : Result Int64) (made : Option PollCall) :
      (pollConnectionsAwake digest p nowAfter made).poll = made := by
    unfold pollConnectionsAwake
    split <;> rfl
  unfold pollConnectionsRun at h
  split at h
  · cases h
  · next now hnow =>
      dsimp only at h
      split at h
      · cases h
      · next hquiet =>
          generalize hwake : (if wakeTime < (connectionsCommunicate digest p now).node.nextWake now 0
            then wakeTime else (connectionsCommunicate digest p now).node.nextWake now 0) = wake at h
          have hleast (time : Int64) : wake ≤ time ↔
              (connectionsCommunicate digest p now).node.nextWake now 0 ≤ time ∨ wakeTime ≤ time := by
            have hiff := @ite_lt_le_iff time
              ((connectionsCommunicate digest p now).node.nextWake now 0) wakeTime True _
            simp only [true_and] at hiff
            rwa [hwake] at hiff
          split at h
          · next hlater =>
              refine ⟨now, wake, hnow, ?_⟩
              unfold pollConnectionsWait at h
              split at h
              · cases h
              · next pollfds hpollfds =>
                  split at h
                  · cases h
                  · next nowPolling hpolling =>
                      split at h
                      · rw [hawake] at h
                        cases h
                      · next timeout htimeout =>
                          have hmade : poll = ⟨connectionsPrepareWait (connectionsCommunicate digest p
                              now), pollfds, nowPolling, timeout⟩ := by
                            dsimp only at h
                            split at h
                            · exact (Option.some.inj h).symm
                            · rw [hawake] at h
                              exact (Option.some.inj h).symm
                          rw [hmade]
                          exact ⟨hpolling, Nat.eq_zero_of_not_pos hquiet, hlater, hleast, rfl, hpollfds,
                            htimeout⟩
          · cases h

/-! ## Runs -/

/-- What a program does with its node: it runs events, cycles and the loops over cycles, polls, lets
the transports work, connects, sends requests and shuts down, in any order. In between bytes and
sockets come in, and handlers get new answers. -/
inductive MainCall
  | event (now : Int64)
  | cycle (eventErrorReturned : Option (Event → List AppCall)) (now : Int64) (maxEvents : Nat)
  | drain (eventErrorReturned : Option (Event → List AppCall)) (now : Int64)
      (maxEventsPerCycle maxCycles : Nat)
  | available (digest : TcpDigest) (eventErrorReturned : Option (Event → List AppCall)) (now : Int64)
      (maxEventsPerCycle maxCycles : Nat)
  | poll (digest : TcpDigest) (maxPollfds : Nat) (wakeTime : Int64) (scene : PollScene)
  | communicate (digest : TcpDigest) (now : Int64)
  | communicateRecv (now : Int64)
  | communicateSend (now : Int64)
  | processControl (digest : TcpDigest) (now : Int64)
  | connect (digest : TcpDigest) (client : Nat) (addr : Addr) (now : Int64) (connected : Result Socket)
  | beginRequest (i : Nat) (entryType : UInt16) (membername servicepath : Option ConstString)
      (request : Option Nat)
  | sendRequest (i : Nat) (sendData : SendMessageentryData) (request : Option Nat)
  | app (call : AppCall)
  | shutdown
  | answer (answers : List HandlerAnswer)
  | meanwhile (meanwhile : Meanwhile)

def PolledNode.run (p : PolledNode) : MainCall → PolledNode
  | .event now => { p with node := (nodeRunNextEvent2 p.node now).2 }
  | .cycle eventErrorReturned now maxEvents => p.runCycle eventErrorReturned now maxEvents
  | .drain eventErrorReturned now maxEventsPerCycle maxCycles =>
      nodeRunEventsDrain eventErrorReturned p now maxEventsPerCycle maxCycles
  | .available digest eventErrorReturned now maxEventsPerCycle maxCycles =>
      nodeRunEventsAvailable digest eventErrorReturned p now maxEventsPerCycle maxCycles
  | .poll digest maxPollfds wakeTime scene =>
      (pollConnectionsRun digest p maxPollfds wakeTime scene).node
  | .communicate digest now => connectionsCommunicate digest p now
  | .communicateRecv now => connectionsCommunicateRecv p now
  | .communicateSend now => connectionsCommunicateSend p now
  | .processControl digest now => connectionsCommunicateProcessControl digest p now
  | .connect digest client addr now connected => (p.connect digest client addr now connected).2
  | .beginRequest i entryType membername servicepath request => { p with
      node := (clientBeginRequest p.node i entryType membername servicepath request).2 }
  | .sendRequest i sendData request => { p with
      node := (clientSendRequest p.node i sendData request).2 }
  | .app call => { p with node := nodeAppCall p.node call }
  | .shutdown => { p with node := nodeShutdown p.node }
  | .answer answers => { p with node := { p.node with answers } }
  | .meanwhile meanwhile => p.hear meanwhile

theorem pollConnectionsRun_attends (digest : TcpDigest) (p : PolledNode) (maxPollfds : Nat)
    (wakeTime : Int64) (scene : PollScene) :
    p.Attends (pollConnectionsRun digest p maxPollfds wakeTime scene).node := by
  have hawake (p : PolledNode) (poll : Option PollCall) :
      p.Attends (pollConnectionsAwake digest p scene.nowAfter poll).node := by
    unfold pollConnectionsAwake
    split
    · exact .refl p
    · exact connectionsCommunicate_attends digest p _
  have hwait (p : PolledNode) (nextWake : Int64) :
      p.Attends (pollConnectionsWait digest p maxPollfds nextWake scene).node := by
    unfold pollConnectionsWait
    split
    · exact .refl p
    · split
      · exact .refl p
      · split
        · exact hawake p none
        · dsimp only
          split
          · exact hear_attends p scene.meanwhile
          · exact (hear_attends p scene.meanwhile).trans (hawake _ _)
  unfold pollConnectionsRun
  split
  · exact .refl p
  · next now _ =>
      have hfirst := connectionsCommunicate_attends digest p now
      dsimp only
      split
      · exact hfirst
      · generalize (if wakeTime < (connectionsCommunicate digest p now).node.nextWake now 0
          then wakeTime else (connectionsCommunicate digest p now).node.nextWake now 0) = wake
        split
        · exact (hfirst.trans (connectionsPrepareWait_attends _)).trans (hwait _ _)
        · exact hfirst

theorem run_attends (p : PolledNode) (call : MainCall) : p.Attends (p.run call) := by
  cases call with
  | event now => exact nodeRunNextEvent2_attends p now
  | cycle eventErrorReturned now maxEvents => exact runCycle_attends _ p now maxEvents
  | drain eventErrorReturned now maxEventsPerCycle maxCycles =>
      exact nodeRunEventsDrainLoop_attends _ now maxEventsPerCycle maxCycles maxCycles 0 p
  | available digest eventErrorReturned now maxEventsPerCycle maxCycles =>
      exact nodeRunEventsAvailableLoop_attends digest _ now maxEventsPerCycle maxCycles maxCycles 0 p
  | poll digest maxPollfds wakeTime scene =>
      exact pollConnectionsRun_attends digest p maxPollfds wakeTime scene
  | communicate digest now => exact connectionsCommunicate_attends digest p now
  | communicateRecv now => exact connectionsCommunicateRecv_attends p now
  | communicateSend now => exact connectionsCommunicateSend_attends p now
  | processControl digest now => exact connectionsCommunicateProcessControl_attends digest p now
  | connect digest client addr now connected =>
      exact connect_attends digest p client addr now connected
  | beginRequest i entryType membername servicepath request =>
      exact clientBeginRequest_attends p i entryType membername servicepath request
  | sendRequest i sendData request => exact clientSendRequest_attends p i sendData request
  | app call => exact .asked p (nodeAppCall_asked p.node call)
  | shutdown => exact nodeShutdown_attends p
  | answer answers => exact ⟨rfl, rfl, fun _ => id⟩
  | meanwhile meanwhile => exact hear_attends p meanwhile

omit [SizeT] in
theorem active_of_pollfd {sock : Socket} {fd : Pollfd} (h : sock.pollfd = some fd) :
    flagsCheck sock.flags SOCKET_FLAGS_ACTIVE = true := by
  unfold Socket.pollfd at h
  split at h
  · next hopen => exact hopen.1
  · cases h

omit [SizeT] in
/-- A connection with an open socket and nothing to do at once asks for bytes, once it is
connected. -/
theorem Connection.Attended.requested {c : Connection} (h : c.Attended) (hactive : c.isActive = true)
    {now : Int64} (hdue : ¬ c.DueBy now) (hconnected : c.checkState STATUS_FLAGS_CONNECTING = false) :
    c.checkState STATUS_FLAGS_RECEIVE_REQUESTED = true := by
  obtain ⟨hused, hflag⟩ := h hactive
  have hlater : c.checkState STATUS_FLAGS_AT_ONCE = false :=
    Bool.eq_false_of_not_eq_true fun hnow => hdue ⟨hused, Or.inl hnow⟩
  rw [STATUS_FLAGS_AT_ONCE, checkState_or, checkState_or, checkState_or, Bool.or_eq_false_iff,
    Bool.or_eq_false_iff, Bool.or_eq_false_iff] at hlater
  obtain ⟨⟨⟨-, herror⟩, -⟩, hreceived⟩ := hlater
  rw [STATUS_FLAGS_LISTENING, checkState_or, checkState_or, checkState_or, hconnected, herror,
    hreceived] at hflag
  simpa using hflag

/-- Before it waits, a node whose connections are attended to hears of everything. -/
theorem attentive_of_attended {digest : TcpDigest} {p : PolledNode}
    (hlisted : p.node.connections = p.objects.filterMap ConnectionObject.index)
    (hattended : ∀ i, (p.node.connection i).Attended) {maxPollfds : Nat} {wakeTime : Int64}
    {scene : PollScene} {poll : PollCall} (hclock : 0 ≤ poll.now)
    (h : (pollConnectionsRun digest p maxPollfds wakeTime scene).poll = some poll) :
    ∃ now, scene.now = .ok now ∧ poll.Attentive now wakeTime := by
  obtain ⟨now, wake, hnow, -, hpending, hlater, hwake, hnode, hpollfds, htimeout⟩ :=
    pollConnectionsRun_poll h
  have hready := connectionsPrepareWait_ready (connectionsCommunicate digest p now)
  have hattends := (connectionsCommunicate_attends digest p now).trans
    (connectionsPrepareWait_attends _)
  rw [← hnode] at hready hattends
  have hdue (time : Int64) (hle : now ≤ time) :
      wake ≤ time ↔ poll.node.node.DueBy now 0 time ∨ wakeTime ≤ time := by
    rw [hwake, nodeNextWake_le_iff _ hle, hready.dueBy]
  have hnothing : ¬ (poll.node.node.DueBy now 0 now ∨ wakeTime ≤ now) := by
    rw [← hdue now (Int64.le_refl now)]
    exact Int64.not_le.mpr hlater
  obtain ⟨hlong, hintime⟩ := pollTimeout_inTime hclock htimeout
  have heq := pollfds_eq hpollfds
  refine ⟨now, hnow, heq, ⟨hready.eventsPending.trans hpending, fun h => hnothing (Or.inl h)⟩, ?_,
    hlong, fun time hle htime => ?_⟩
  · intro i hi hops fd hfd
    have hobject : ConnectionObject.connection i ∈ (connectionsCommunicate digest p now).objects := by
      rwa [(connectionsCommunicate_attends digest p now).objects, ← hattends.objects]
    have hasks := hready.asks i (by rw [← hready.hasOps, hops]) (Or.inl hobject)
    obtain ⟨hout, hin⟩ := hasks fd hfd
    refine ⟨?_, fun hconnected => ?_, hout.trans⟩
    · rw [heq]
      exact List.mem_filterMap.mpr ⟨_, hi, hfd⟩
    · have hmem : i ∈ poll.node.node.connections := by
        rw [hattends.connections, hlisted, ← hattends.objects]
        exact List.mem_filterMap.mpr ⟨_, hi, rfl⟩
      have hrequested := (hattends.attended i (hattended i)).requested (active_of_pollfd hfd)
        (fun h => hnothing (Or.inl (Or.inr (Or.inl ⟨i, hmem, h⟩)))) hconnected
      rw [hin, checkState_or, hrequested, Bool.true_or]
  · have := Int64.le_iff_toInt_le.mp ((hdue time hle).mpr htime)
    omega

/-- Whatever the program did since no socket of the node was open yet: where it waits, nothing is left
to be done, every connection with an open socket is polled for what it waits for, and the wait is
over before anything else is due. -/
theorem mainLoop_attentive {p : PolledNode}
    (hlisted : p.node.connections = p.objects.filterMap ConnectionObject.index)
    (hclosed : ∀ i, (p.node.connection i).isActive = false) (calls : List MainCall)
    {digest : TcpDigest} {maxPollfds : Nat} {wakeTime : Int64} {scene : PollScene} {poll : PollCall}
    (hclock : 0 ≤ poll.now)
    (h : (pollConnectionsRun digest (calls.foldl PolledNode.run p) maxPollfds wakeTime scene).poll =
      some poll) : ∃ now, scene.now = .ok now ∧ poll.Attentive now wakeTime := by
  have hrun (calls : List MainCall) (p : PolledNode) : p.Attends (calls.foldl PolledNode.run p) := by
    induction calls generalizing p with
    | nil => exact .refl p
    | cons call calls ih => exact (run_attends p call).trans (ih _)
  have hattends := hrun calls p
  refine attentive_of_attended ?_ (fun i => hattends.attended i (.of_inactive (hclosed i))) hclock h
  rw [hattends.connections, hattends.objects, hlisted]

end

section

open Lp64

/-- A node with an acceptor and one connection, where a socket is there to be accepted. -/
def listeningNode : PolledNode where
  node := Node.init .any [] [0] fun _ =>
    connectionInit (connectionConstruct (List.replicate 64 0) (List.replicate 128 0))
  objects := [.listHead, .acceptor 0, .connection 0]
  acceptor := fun _ => ⟨⟨⟨SOCKET_FLAGS_ACTIVE, [], [], [], [], [], 3, []⟩⟩,
    [.ok ⟨0, rracMagic, [.ready 3], [], [], [], 7, []⟩]⟩
  hasOps := fun _ => false

/-- A scene in which nothing happens while the program waits. -/
def quietScene : PollScene where
  now := .ok 5000
  nowPolling := .ok 5100
  nowAfter := .ok 7200
  polled := .ok ()
  meanwhile := ⟨fun _ => ⟨[], [], [], []⟩, fun _ => []⟩

/-- The socket is accepted and shown to the node. Then the program waits for bytes of it, and the
acceptor waits for nothing, as no connection is left. -/
theorem acceptedSocket_polled :
    ∃ poll, (pollConnectionsRun noDigest ([.communicate noDigest 1000, .event 2000].foldl
        PolledNode.run listeningNode) 8 100000 quietScene).poll = some poll ∧
      poll.pollfds = [⟨3, 0⟩, ⟨7, POLLIN⟩] ∧ poll.timeout = 4 ∧
      ∃ now, quietScene.now = .ok now ∧ poll.Attentive now 100000 := by
  have hrun : (pollConnectionsRun noDigest ([.communicate noDigest 1000, .event 2000].foldl
      PolledNode.run listeningNode) 8 100000 quietScene).poll.map
        (fun poll => (poll.pollfds, poll.timeout, poll.now)) =
      some ([⟨3, 0⟩, ⟨7, POLLIN⟩], 4, 5100) := by decide +kernel
  obtain ⟨poll, hpoll, heq⟩ := Option.map_eq_some_iff.mp hrun
  simp only [Prod.mk.injEq] at heq
  obtain ⟨hpollfds, htimeout, hnow⟩ := heq
  have hclosed (i : Nat) : (listeningNode.node.connection i).isActive = false :=
    (by decide : flagsCheck (0#16) SOCKET_FLAGS_ACTIVE = false)
  have hclock : 0 ≤ poll.now := by
    rw [hnow]
    decide
  exact ⟨poll, hpoll, hpollfds, htimeout, mainLoop_attentive rfl hclosed _ hclock hpoll⟩

end

end RobotRaconteurLite

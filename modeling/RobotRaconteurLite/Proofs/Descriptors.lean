import RobotRaconteurLite.Lib.CallSequence
import RobotRaconteurLite.TcpConnections
import RobotRaconteurLite.Proofs.Kept

/-!
# Who closes a descriptor

A descriptor belongs to the slot it was accepted or connected into until that
slot closes it. Which slot owns which descriptor is not in the program, so it is
kept beside the connections. Numbers come back: a descriptor may be handed out
that another slot had, or still has.

As long as the sockets are closed by a close request, each once, or by the
shutdown, a slot owns its descriptor exactly while its socket is active. The
other ways to close leave the handle or the flag behind, and what comes after
closes a second time.
-/

namespace RobotRaconteurLite

open CallSequence

def Connection.isActive (c : Connection) : Bool := flagsCheck c.sock.flags SOCKET_FLAGS_ACTIVE

/-! ## What a slot owns -/

/-- A slot is done with its socket. -/
def Connection.isSettled (c : Connection) : Bool :=
  c.checkState (STATUS_FLAGS_IDLE ||| STATUS_FLAGS_CLOSED ||| STATUS_FLAGS_CLOSED_CONSUMED)

/-- A slot owns the handle of an active socket, and nothing else. A slot that is done with
its socket has none that is active. -/
structure Owns (owned : Option Nat) (c : Connection) : Prop where
  owned_eq : owned = if c.isActive then some c.sock.sock else none
  settled : c.isSettled = true → c.isActive = false

section

variable {owned : Option Nat} {c d : Connection}

theorem Owns.congr (h : Owns owned c) (hactive : d.isActive = c.isActive)
    (hsock : d.sock.sock = c.sock.sock) (hsettled : d.isSettled = c.isSettled) : Owns owned d :=
  ⟨by rw [hactive, hsock]; exact h.owned_eq, by rw [hactive, hsettled]; exact h.settled⟩

theorem Owns.none_of_inactive (h : Owns owned c) (hc : c.isActive = false) : owned = none := by
  rw [h.owned_eq, if_neg (by rw [hc]; nofun)]

theorem Owns.of_inactive (hc : c.isActive = false) : Owns none c :=
  ⟨by rw [if_neg (by rw [hc]; nofun)], fun _ => hc⟩

theorem Owns.of_active (hc : c.isActive = true) (hsettled : c.isSettled = false) :
    Owns (some c.sock.sock) c :=
  ⟨by rw [if_pos hc], by rw [hsettled]; nofun⟩

theorem Owns.none_of_idle (h : Owns owned c) (hc : c.checkState STATUS_FLAGS_IDLE = true) :
    owned = none :=
  h.none_of_inactive (h.settled (flagsCheck_of_subset (by decide) hc))

theorem checkState_of_lifecycle {m : BitVec 32}
    (h : d.connectionState &&& LIFECYCLE = c.connectionState &&& LIFECYCLE)
    (hm : LIFECYCLE &&& m = m) : d.checkState m = c.checkState m := by
  unfold Connection.checkState
  rw [← flagsCheck_and hm, h, flagsCheck_and hm]

theorem checkState_of_kept {m : BitVec 32} (hk : d.kept = c.kept) (hm : LIFECYCLE &&& m = m) :
    d.checkState m = c.checkState m :=
  checkState_of_lifecycle (congrArg Kept.lifecycle hk) hm

theorem Owns.of_kept (h : Owns owned c) (hk : d.kept = c.kept) : Owns owned d :=
  h.congr (congrArg Kept.active hk) (congrArg Kept.sock hk) (checkState_of_kept hk (by decide))

/-- What one call may do to a slot: close nothing, or the one handle it owns. -/
def Moves (owned : Option Nat) (c d : Connection) : Prop :=
  (d.sock.closed = c.sock.closed ∧ Owns owned d) ∨
  ∃ handle, owned = some handle ∧ d.sock.closed = c.sock.closed ++ [handle] ∧ Owns none d

theorem Owns.moves_of_kept (h : Owns owned c) (hk : d.kept = c.kept) : Moves owned c d :=
  Or.inl ⟨congrArg Kept.closed hk, h.of_kept hk⟩

/-- The handle of an active socket is closed. -/
theorem Owns.moves_close (h : Owns owned c) (hc : c.isActive = true)
    (hclosed : d.sock.closed = c.sock.closed ++ [c.sock.sock]) (hd : d.isActive = false) :
    Moves owned c d := by
  refine Or.inr ⟨c.sock.sock, ?_, hclosed, Owns.of_inactive hd⟩
  rw [h.owned_eq, if_pos hc]

theorem isActive_close (c : Connection) (state : BitVec 32) :
    ({ c with sock := tcpSocketClose c.sock, connectionState := state } : Connection).isActive =
      false :=
  flagsCheck_clear_of_subset (by decide)

theorem Owns.moves_tcpConnectionClose (h : Owns owned c)
    (hc : c.transportType = TCP_TRANSPORT → c.sock.sock ≠ 0 → c.isActive = true) :
    Moves owned c (tcpConnectionClose c) := by
  unfold tcpConnectionClose
  by_cases htype : c.transportType = TCP_TRANSPORT
  · rw [if_neg (not_not_intro htype)]
    by_cases hsock : c.sock.sock = 0
    · rw [if_neg (not_not_intro hsock)]
      exact h.moves_of_kept rfl
    · rw [if_pos hsock]
      exact h.moves_close (hc htype hsock) rfl (isActive_close c c.connectionState)
  · rw [if_pos htype]
    exact h.moves_of_kept rfl

theorem Owns.moves_close_op (h : Owns owned c) : Moves owned c (connectionClose c) := by
  unfold connectionClose
  split
  · exact h.moves_of_kept rfl
  · exact Or.inl ⟨rfl, h.congr rfl rfl (Connection.checkState_setState (by decide))⟩

/-- Only a closed slot reports the event, and it is done with its socket. -/
theorem Owns.moves_consumeClosed (h : Owns owned c) (hevent : connectionIsClosedEvent c = true) :
    Moves owned c (connectionConsumeClosed c) := by
  have hclosed : c.checkState STATUS_FLAGS_CLOSED = true := (Bool.and_eq_true_iff.mp hevent).1
  have hinactive : c.isActive = false := h.settled (flagsCheck_of_subset (by decide) hclosed)
  refine Or.inl ⟨rfl, ?_⟩
  rw [h.none_of_inactive hinactive]
  exact Owns.of_inactive hinactive

/-- The reset takes the handle of a slot that owns nothing. -/
theorem Owns.moves_reset (h : Owns owned c)
    (hc : c.checkState STATUS_FLAGS_CLOSED_CONSUMED = true) : Moves owned c (connectionReset c) := by
  have hinactive : c.isActive = false := h.settled (flagsCheck_of_subset (by decide) hc)
  refine Or.inl ⟨rfl, ?_⟩
  rw [h.none_of_inactive hinactive]
  exact Owns.of_inactive (show flagsCheck 0 SOCKET_FLAGS_ACTIVE = false by decide)

/-- The completion check closes nothing unless it fails. -/
theorem Owns.moves_checkConnected (h : Owns owned c)
    (hpoll : flagsCheck c.configFlags CONFIG_FLAGS_ISSERVER = false →
      c.checkState STATUS_FLAGS_CLIENT_SOCKET_CONNECTED = false →
      ¬ (c.sock.pollPlan.head? = some .failed ∨ c.sock.pollPlan.head? = some .error)) :
    Moves owned c (tcpConnectionCheckConnected c).2 := by
  unfold tcpConnectionCheckConnected
  split
  · next hask =>
      have hplan := hpoll (Bool.eq_false_of_not_eq_true hask.1) (Bool.eq_false_of_not_eq_true hask.2)
      unfold tcpSocketIsConnectionComplete
      cases hp : c.sock.pollPlan with
      | nil => exact Or.inl ⟨rfl, h.congr rfl rfl rfl⟩
      | cons outcome plan =>
          rw [hp, List.head?_cons] at hplan
          cases outcome with
          | failed => exact absurd (Or.inl rfl) hplan
          | timeout => exact Or.inl ⟨rfl, h.congr rfl rfl rfl⟩
          | writable =>
              exact Or.inl ⟨rfl, h.congr rfl rfl (Connection.checkState_setState (by decide))⟩
          | error => exact absurd (Or.inr rfl) hplan
          | other => exact Or.inl ⟨rfl, h.congr rfl rfl rfl⟩
  · exact h.moves_of_kept rfl

end

/-- A slot that was set up to connect has the socket, active, and is not done with it. -/
theorem connectionImplConnect2_owns (c : Connection) (now : Int64) (addr : Addr) (sock : Socket) :
    ∃ rv d, connectionImplConnect2 c now TCP_TRANSPORT addr sock = (rv, d) ∧
      d.sock.sock = sock.sock ∧ d.isActive = true ∧ d.isSettled = false := by
  have hactive : flagsCheck SOCKET_FLAGS_ACTIVE SOCKET_FLAGS_ACTIVE = true := by decide
  have hsettled : flagsCheck STATUS_FLAGS_CONNECTING
      (STATUS_FLAGS_IDLE ||| STATUS_FLAGS_CLOSED ||| STATUS_FLAGS_CLOSED_CONSUMED) = false := by decide
  unfold connectionImplConnect2
  dsimp only
  split
  · exact ⟨_, _, rfl, rfl, hactive, hsettled⟩
  · split
    · exact ⟨_, _, rfl, rfl, hactive, hsettled⟩
    · exact ⟨_, _, rfl, rfl, hactive, hsettled⟩

theorem kept_sendWebsocketHttpHeader (digest : TcpDigest) (addr : Addr) (c : Connection) :
    (tcpConnectServiceSendWebsocketHttpHeader digest addr c).2.kept = c.kept := by
  unfold tcpConnectServiceSendWebsocketHttpHeader
  dsimp only
  split
  · rfl
  · split
    · rfl
    · split
      · rfl
      · split <;> rfl

theorem kept_serviceStart (digest : TcpDigest) (addr : Addr) (c : Connection) :
    (tcpConnectServiceStart digest addr c).2.kept = c.kept := by
  unfold tcpConnectServiceStart
  split
  · exact (kept_sendWebsocketHttpHeader digest addr _).trans (kept_setState c (by decide))
  · split
    · rfl
    · split <;> rfl

/-- The control step gets past the checks for another transport, for a connection that was
closed and for one that is idle. -/
def Connection.IsOpen (c : Connection) : Prop :=
  c.transportType = TCP_TRANSPORT ∧ c.checkState STATUS_FLAGS_CLOSED_CONSUMED = false ∧
    c.checkState (STATUS_FLAGS_CLOSED ||| STATUS_FLAGS_IDLE) = false

instance (c : Connection) : Decidable c.IsOpen :=
  inferInstanceAs (Decidable (c.transportType = TCP_TRANSPORT ∧
    c.checkState STATUS_FLAGS_CLOSED_CONSUMED = false ∧
    c.checkState (STATUS_FLAGS_CLOSED ||| STATUS_FLAGS_IDLE) = false))

/-- The control step starts by asking whether there is anything to do. -/
theorem implProcessControl_cases (c : Connection) :
    (connectionImplCommunicateProcessControl c TCP_TRANSPORT = (.error .consumed, c)) ∨
    (c.checkState STATUS_FLAGS_CLOSED_CONSUMED = true ∧
      connectionImplCommunicateProcessControl c TCP_TRANSPORT =
        (.error .consumed, connectionReset c)) ∨
    (c.IsOpen ∧ connectionImplCommunicateProcessControl c TCP_TRANSPORT =
      (.ok (c.checkState (STATUS_FLAGS_CLOSE_REQUESTED ||| STATUS_FLAGS_CLOSING)), c)) := by
  unfold connectionImplCommunicateProcessControl
  by_cases htype : c.transportType = TCP_TRANSPORT
  · rw [if_neg (not_not_intro htype)]
    by_cases hconsumed : c.checkState STATUS_FLAGS_CLOSED_CONSUMED = true
    · have hidle : (connectionReset c).checkState (STATUS_FLAGS_CLOSED ||| STATUS_FLAGS_IDLE) = true :=
        show flagsCheck STATUS_FLAGS_IDLE (STATUS_FLAGS_CLOSED ||| STATUS_FLAGS_IDLE) = true by decide
      rw [if_pos hconsumed]
      dsimp only
      rw [if_pos hidle]
      exact Or.inr (Or.inl ⟨hconsumed, rfl⟩)
    · rw [if_neg hconsumed]
      dsimp only
      by_cases hclosed : c.checkState (STATUS_FLAGS_CLOSED ||| STATUS_FLAGS_IDLE) = true
      · rw [if_pos hclosed]
        exact Or.inl rfl
      · rw [if_neg hclosed]
        exact Or.inr (Or.inr ⟨⟨htype, Bool.eq_false_of_not_eq_true hconsumed,
          Bool.eq_false_of_not_eq_true hclosed⟩, rfl⟩)
  · rw [if_pos htype]
    exact Or.inl rfl

/-! ## The calls -/

/-- What happens to one slot. `environment` says what arrives for its socket and what the
system calls on it will answer. `session` stands for every write of the node and the
application that does not open or close. -/
inductive SlotOp
  | environment (arrived : List UInt8) (recvPlan sendPlan : List IoOutcome)
      (pollPlan : List PollOutcome)
  | processControl (digest : TcpDigest)
  | communicateRecv (now : Int64)
  | communicateSend (now : Int64)
  | close
  | consumeClosed
  | session (d : Connection)

/-- What happens to a list of connections. -/
inductive ListCall
  | connect (digest : TcpDigest) (client : NodeClient) (now : Int64) (connected : Result Socket)
  | accept (now : Int64) (accepted : Result Socket)
  | slot (i : Nat) (op : SlotOp)
  | connectionsClose

/-- The connections, and the descriptor each slot owns. -/
structure World where
  connections : List Connection
  owned : Nat → Option Nat

/-- A list that was constructed and initialised. -/
def World.start (connections : List Connection) : World :=
  ⟨connections.map connectionInit, fun _ => none⟩

/-- Each slot owns what its socket says. -/
def World.Owned (w : World) : Prop := ∀ i c, w.connections[i]? = some c → Owns (w.owned i) c

theorem start_owned (connections : List Connection) : (World.start connections).Owned := by
  intro i c hc
  obtain ⟨d, -, rfl⟩ := List.mem_map.mp (List.mem_of_getElem? hc)
  exact Owns.of_inactive (show flagsCheck 0 SOCKET_FLAGS_ACTIVE = false by decide)

theorem World.Owned.none_of_idle {w : World} (hw : w.Owned) {i : Nat} {c : Connection}
    (hi : w.connections[i]? = some c) (hc : c.checkState STATUS_FLAGS_IDLE = true) :
    w.owned i = none :=
  (hw i c hi).none_of_idle hc

section

variable [SizeT]

def SlotOp.run (c : Connection) : SlotOp → Connection
  | .environment arrived recvPlan sendPlan pollPlan => { c with sock := { c.sock with
      inbox := c.sock.inbox ++ arrived
      recvPlan := recvPlan
      sendPlan := sendPlan
      pollPlan := pollPlan } }
  | .processControl digest => (tcpConnectionCommunicateProcessControl digest c).2
  | .communicateRecv now => (tcpConnectionCommunicateRecv c now).2
  | .communicateSend now => (tcpConnectionCommunicateSend c now).2
  | .close => connectionClose c
  -- The node consumes the event when it is reported.
  | .consumeClosed => if connectionIsClosedEvent c then connectionConsumeClosed c else c
  | .session d => { d with
      transportType := c.transportType
      configFlags := c.configFlags
      sock := c.sock
      connectionState := (d.connectionState &&& ~~~LIFECYCLE) ||| (c.connectionState &&& LIFECYCLE) }

def ListCall.run (connections : List Connection) : ListCall → List Connection
  | .connect digest client now connected =>
      (tcpConnectService digest connections client now connected).2.1
  | .accept now accepted => (tcpAcceptorCommunicate connections now accepted).2
  | .slot i op => connections.modify i fun c => op.run c
  | .connectionsClose => tcpConnectionsClose connections

/-- The slot that gets a descriptor, and the descriptor. -/
def ListCall.obtains (connections : List Connection) : ListCall → Option (Nat × Nat)
  | .connect _ _ _ (.ok sock) => (connectionFindIdle connections).map fun (_, i) => (i, sock.sock)
  | .accept _ (.ok sock) => (connectionFindIdle connections).map fun (_, i) => (i, sock.sock)
  | _ => none

/-- The handles that `close` was called on for a slot between two states of it. -/
def closedBetween (before after : Option Connection) : List Nat :=
  match before, after with
  | some c, some d => d.sock.closed.drop c.sock.closed.length
  | _, _ => []

/-- A call answers what it closed, for each slot. A slot that gets a descriptor closes
nothing in that call. -/
def World.step (w : World) (call : ListCall) : (Nat → List Nat) × World :=
  let connections := call.run w.connections
  match call.obtains w.connections with
  | some (i, handle) =>
      (fun _ => [], ⟨connections, fun j => if j = i then some handle else w.owned j⟩)
  | none =>
      let closes := fun j => closedBetween w.connections[j]? connections[j]?
      (closes, ⟨connections, fun j => if closes j = [] then w.owned j else none⟩)

/-- A call closes nothing but what the slot owns, once, and no idle slot owns anything
after it. -/
def ClosesOwned (w : World) (call : ListCall) : Prop :=
  (∀ i, (w.step call).1 i = [] ∨ ∃ handle, w.owned i = some handle ∧ (w.step call).1 i = [handle]) ∧
  ∀ i c, (w.step call).2.connections[i]? = some c → c.checkState STATUS_FLAGS_IDLE = true →
    (w.step call).2.owned i = none

/-! ## The condition -/

/-- A client whose socket was not connected yet gets to ask and is told that it failed. -/
def Connection.FailsToComplete (digest : TcpDigest) (c : Connection) : Prop :=
  flagsCheck c.configFlags CONFIG_FLAGS_ISSERVER = false ∧
    c.checkState STATUS_FLAGS_CLIENT_SOCKET_CONNECTED = false ∧
    (tcpConnectionHandshake digest c).1 = .ok () ∧
    (c.sock.pollPlan.head? = some .failed ∨ c.sock.pollPlan.head? = some .error)

instance (digest : TcpDigest) (c : Connection) : Decidable (c.FailsToComplete digest) :=
  inferInstanceAs (Decidable (flagsCheck c.configFlags CONFIG_FLAGS_ISSERVER = false ∧
    c.checkState STATUS_FLAGS_CLIENT_SOCKET_CONNECTED = false ∧
    (tcpConnectionHandshake digest c).1 = .ok () ∧
    (c.sock.pollPlan.head? = some .failed ∨ c.sock.pollPlan.head? = some .error)))

/-- A control step that is asked to close finds the socket active, and else the connection
does not fail to complete. -/
def SlotOp.Sound (c : Connection) : SlotOp → Prop
  | .processControl digest => c.IsOpen →
      if c.checkState (STATUS_FLAGS_CLOSE_REQUESTED ||| STATUS_FLAGS_CLOSING) then c.isActive = true
      else ¬ c.FailsToComplete digest
  | _ => True

instance SlotOp.Sound.decidable (c : Connection) : (op : SlotOp) → Decidable (op.Sound c)
  | .processControl digest => inferInstanceAs (Decidable (c.IsOpen →
      if c.checkState (STATUS_FLAGS_CLOSE_REQUESTED ||| STATUS_FLAGS_CLOSING) then c.isActive = true
      else ¬ c.FailsToComplete digest))
  | .environment .. | .communicateRecv _ | .communicateSend _ | .close | .consumeClosed
  | .session _ => isTrue trivial

/-- The shutdown finds every socket that has a handle active. -/
def ListCall.Sound (w : World) : ListCall → Prop
  | .slot i op => ∀ c ∈ w.connections[i]?, op.Sound c
  | .connectionsClose => ∀ c ∈ w.connections, c.transportType = TCP_TRANSPORT → c.sock.sock ≠ 0 →
      c.isActive = true
  | _ => True

instance ListCall.Sound.decidable (w : World) : (call : ListCall) → Decidable (call.Sound w)
  | .slot i op => inferInstanceAs (Decidable (∀ c ∈ w.connections[i]?, op.Sound c))
  | .connectionsClose => inferInstanceAs (Decidable (∀ c ∈ w.connections,
      c.transportType = TCP_TRANSPORT → c.sock.sock ≠ 0 → c.isActive = true))
  | .connect .. | .accept .. => isTrue trivial

/-! ## One slot -/

section

variable {owned : Option Nat} {c : Connection}

theorem Owns.moves_processControl {digest : TcpDigest} (h : Owns owned c)
    (hc : SlotOp.Sound c (.processControl digest)) :
    Moves owned c (tcpConnectionCommunicateProcessControl digest c).2 := by
  unfold tcpConnectionCommunicateProcessControl
  rcases implProcessControl_cases c with himpl | ⟨hconsumed, himpl⟩ | ⟨hopen, himpl⟩
  · rw [himpl]
    exact h.moves_of_kept rfl
  · rw [himpl]
    exact h.moves_reset hconsumed
  · rw [himpl]
    have hsound := hc hopen
    dsimp only
    split
    · next hrequested =>
        rw [if_pos hrequested] at hsound
        exact h.moves_close hsound rfl (isActive_close c STATUS_FLAGS_CLOSED)
    · next hrequested =>
        rw [if_neg hrequested] at hsound
        have hkept := kept_handshake digest c
        split
        · next d hd =>
            rw [hd] at hkept
            exact h.moves_of_kept hkept
        · next d hd =>
            rw [hd] at hkept
            have hcheck : Moves owned d (tcpConnectionCheckConnected d).2 := by
              refine (h.of_kept hkept).moves_checkConnected fun hserver hconnected hfails => ?_
              rw [show d.configFlags = c.configFlags from congrArg Kept.configFlags hkept] at hserver
              rw [checkState_of_kept hkept (by decide)] at hconnected
              rw [show d.sock.pollPlan = c.sock.pollPlan from congrArg Kept.pollPlan hkept] at hfails
              exact hsound ⟨hserver, hconnected, by rw [hd], hfails⟩
            unfold Moves at hcheck ⊢
            rw [← show d.sock.closed = c.sock.closed from congrArg Kept.closed hkept]
            exact hcheck

theorem Owns.moves_op {op : SlotOp} (h : Owns owned c) (hc : op.Sound c) :
    Moves owned c (op.run c) := by
  cases op with
  | environment arrived recvPlan sendPlan pollPlan => exact Or.inl ⟨rfl, h.congr rfl rfl rfl⟩
  | processControl digest => exact h.moves_processControl hc
  | communicateRecv now => exact h.moves_of_kept (kept_communicateRecv c now)
  | communicateSend now => exact h.moves_of_kept (kept_communicateSend c now)
  | close => exact h.moves_close_op
  | consumeClosed =>
      show Moves owned c (if connectionIsClosedEvent c then connectionConsumeClosed c else c)
      split
      · next hevent => exact h.moves_consumeClosed hevent
      · exact h.moves_of_kept rfl
  | session d =>
      exact Or.inl ⟨rfl, h.congr rfl rfl
        (checkState_of_lifecycle (flagsMerge_and _ _ _) (by decide))⟩

end

/-! ## The list -/

/-- Each slot the call leaves was there before, and moved by what it owns. -/
theorem step_of_moves {w : World} {call : ListCall} (hobtains : call.obtains w.connections = none)
    (h : ∀ (i : Nat) d, (call.run w.connections)[i]? = some d →
      ∃ c, w.connections[i]? = some c ∧ Moves (w.owned i) c d) :
    ClosesOwned w call ∧ (w.step call).2.Owned := by
  have hcloses : ∀ i, closedBetween w.connections[i]? (call.run w.connections)[i]? = [] ∨
      ∃ handle, w.owned i = some handle ∧
        closedBetween w.connections[i]? (call.run w.connections)[i]? = [handle] := by
    intro i
    cases hd : (call.run w.connections)[i]? with
    | none =>
        left
        cases w.connections[i]? <;> rfl
    | some d =>
        obtain ⟨c, hc, ⟨hclosed, -⟩ | ⟨handle, howned, hclosed, -⟩⟩ := h i d hd
        · left
          rw [hc, closedBetween, hclosed, List.drop_length]
        · right
          exact ⟨handle, howned, by rw [hc, closedBetween, hclosed, List.drop_left]⟩
  have hnext : (w.step call).2.Owned := by
    unfold World.step
    rw [hobtains]
    intro i d hd
    dsimp only at hd ⊢
    obtain ⟨c, hc, ⟨hclosed, howns⟩ | ⟨handle, howned, hclosed, howns⟩⟩ := h i d hd
    · have hnone : closedBetween w.connections[i]? (call.run w.connections)[i]? = [] := by
        rw [hc, hd, closedBetween, hclosed, List.drop_length]
      rw [if_pos hnone]
      exact howns
    · have hone : closedBetween w.connections[i]? (call.run w.connections)[i]? = [handle] := by
        rw [hc, hd, closedBetween, hclosed, List.drop_left]
      rw [if_neg (by rw [hone]; nofun)]
      exact howns
  refine ⟨⟨?_, fun i c hi hc => hnext.none_of_idle hi hc⟩, hnext⟩
  unfold World.step
  rw [hobtains]
  exact hcloses

/-- A slot gets a descriptor, and the other slots stay as they are. -/
theorem step_of_obtains {w : World} {call : ListCall} {i : Nat} {d : Connection} (hw : w.Owned)
    (hobtains : call.obtains w.connections = some (i, d.sock.sock))
    (hrun : call.run w.connections = w.connections.set i d) (hactive : d.isActive = true)
    (hsettled : d.isSettled = false) :
    ClosesOwned w call ∧ (w.step call).2.Owned := by
  have hnext : (w.step call).2.Owned := by
    unfold World.step
    rw [hobtains]
    intro j e he
    dsimp only at he ⊢
    rw [hrun] at he
    by_cases hj : j = i
    · rw [hj] at he
      have hlt : i < w.connections.length := by
        have := (List.getElem?_eq_some_iff.mp he).1
        rwa [List.length_set] at this
      rw [List.getElem?_set_self hlt, Option.some.injEq] at he
      rw [if_pos hj, ← he]
      exact Owns.of_active hactive hsettled
    · rw [List.getElem?_set_ne (Ne.symm hj)] at he
      rw [if_neg hj]
      exact hw j e he
  refine ⟨⟨fun j => Or.inl ?_, fun j c hj hc => hnext.none_of_idle hj hc⟩, hnext⟩
  unfold World.step
  rw [hobtains]

/-- A call that leaves the list as it is. -/
theorem step_of_unchanged {w : World} {call : ListCall} (hw : w.Owned)
    (hobtains : call.obtains w.connections = none) (hrun : call.run w.connections = w.connections) :
    ClosesOwned w call ∧ (w.step call).2.Owned := by
  refine step_of_moves hobtains fun i d hd => ?_
  rw [hrun] at hd
  exact ⟨d, hd, (hw i d hd).moves_of_kept rfl⟩

theorem step_accept {w : World} (hw : w.Owned) (now : Int64) (accepted : Result Socket) :
    ClosesOwned w (.accept now accepted) ∧ (w.step (.accept now accepted)).2.Owned := by
  cases hidle : connectionFindIdle w.connections with
  | none =>
      refine step_of_unchanged hw ?_ ?_
      · cases accepted with
        | error e => rfl
        | ok sock => rw [ListCall.obtains, hidle, Option.map_none]
      · rw [ListCall.run, tcpAcceptorCommunicate, hidle]
  | some slot =>
      obtain ⟨c, i⟩ := slot
      cases accepted with
      | error e =>
          refine step_of_unchanged hw rfl ?_
          rw [ListCall.run, tcpAcceptorCommunicate, hidle]
          cases e <;> rfl
      | ok sock =>
          refine step_of_obtains (i := i) (d := connectionImplAccept2 c now TCP_TRANSPORT sock) hw ?_ ?_
            ?_ ?_
          · rw [ListCall.obtains, hidle, Option.map_some]
            rfl
          · rw [ListCall.run, tcpAcceptorCommunicate, hidle]
          · exact show flagsCheck SOCKET_FLAGS_ACTIVE SOCKET_FLAGS_ACTIVE = true by decide
          · exact show flagsCheck STATUS_FLAGS_CONNECTING
              (STATUS_FLAGS_IDLE ||| STATUS_FLAGS_CLOSED ||| STATUS_FLAGS_CLOSED_CONSUMED) = false by
                decide

theorem step_connect {w : World} (hw : w.Owned) (digest : TcpDigest) (client : NodeClient)
    (now : Int64) (connected : Result Socket) :
    ClosesOwned w (.connect digest client now connected) ∧
      (w.step (.connect digest client now connected)).2.Owned := by
  cases hidle : connectionFindIdle w.connections with
  | none =>
      refine step_of_unchanged hw ?_ ?_
      · cases connected with
        | error e => rfl
        | ok sock => rw [ListCall.obtains, hidle, Option.map_none]
      · rw [ListCall.run, tcpConnectService, hidle]
  | some slot =>
      obtain ⟨c, i⟩ := slot
      cases connected with
      | error e =>
          refine step_of_unchanged hw rfl ?_
          rw [ListCall.run, tcpConnectService, hidle]
      | ok sock =>
          obtain ⟨rv, d, himpl, hsock, hactive, hsettled⟩ :=
            connectionImplConnect2_owns c now client.serviceAddress sock
          have hobtains : (ListCall.connect digest client now (.ok sock)).obtains w.connections =
              some (i, sock.sock) := by
            rw [ListCall.obtains, hidle, Option.map_some]
          cases rv with
          | error e =>
              refine step_of_obtains hw (hsock ▸ hobtains) ?_ hactive hsettled
              rw [ListCall.run, tcpConnectService, hidle]
              dsimp only
              rw [himpl]
          | ok _ =>
              have hkept := kept_serviceStart digest client.serviceAddress
                { d with client := some client.client }
              have hstart : (tcpConnectServiceStart digest client.serviceAddress
                  { d with client := some client.client }).2.sock.sock = sock.sock :=
                (congrArg Kept.sock hkept).trans hsock
              refine step_of_obtains hw (hstart ▸ hobtains) ?_ ((congrArg Kept.active hkept).trans hactive)
                ((checkState_of_kept hkept (by decide)).trans hsettled)
              rw [ListCall.run, tcpConnectService, hidle]
              dsimp only
              rw [himpl]

theorem step_sound {w : World} {call : ListCall} (hw : w.Owned) (hc : call.Sound w) :
    ClosesOwned w call ∧ (w.step call).2.Owned := by
  cases call with
  | connect digest client now connected => exact step_connect hw digest client now connected
  | accept now accepted => exact step_accept hw now accepted
  | slot i op =>
      refine step_of_moves rfl fun j d hd => ?_
      rw [ListCall.run, List.getElem?_modify] at hd
      cases hj : w.connections[j]? with
      | none =>
          rw [hj] at hd
          cases hd
      | some c =>
          rw [hj, Option.map_eq_map, Option.map_some, Option.some.injEq] at hd
          refine ⟨c, rfl, ?_⟩
          by_cases hij : i = j
          · rw [if_pos hij] at hd
            rw [← hd]
            exact (hw j c hj).moves_op (hc c (by rw [hij]; exact hj))
          · rw [if_neg hij] at hd
            rw [← hd]
            exact (hw j c hj).moves_of_kept rfl
  | connectionsClose =>
      refine step_of_moves rfl fun i d hd => ?_
      rw [ListCall.run, tcpConnectionsClose, List.getElem?_map, Option.map_eq_some_iff] at hd
      obtain ⟨c, hi, rfl⟩ := hd
      exact ⟨c, hi, (hw i c hi).moves_tcpConnectionClose (hc c (List.mem_of_getElem? hi))⟩

/-- In every run that meets the condition at each call, each descriptor is closed once, by
the slot that owns it, and before the slot is idle. -/
theorem descriptors_closedOnce (connections : List Connection) {calls : List ListCall}
    (h : EveryCall World.step (fun w call => call.Sound w) (World.start connections) calls) :
    EveryCall World.step ClosesOwned (World.start connections) calls :=
  (EveryCall.invariant (I := World.Owned) (fun _ _ hw hc => (step_sound hw hc).2)
    (fun _ _ hw hc => (step_sound hw hc).1) (start_owned connections) h).2

end

section

open Lp64

/-- A socket with this handle that has nothing to receive. -/
def openedSocket (handle : Nat) : Socket := ⟨0, [], [], [], [], [], handle, []⟩

def twoSlots : List Connection := [connectionConstruct [] [], connectionConstruct [] []]

/-- A client comes to the slot, is told to go and its closing is noticed. -/
def visitSlot (i handle : Nat) : List ListCall :=
  [.accept 0 (.ok (openedSocket handle)), .slot i .close, .slot i (.processControl noDigest),
    .slot i .consumeClosed, .slot i (.processControl noDigest)]

/-- The descriptor comes back for the next client, and the shutdown closes it again. -/
theorem visitSlot_twice_closedOnce :
    EveryCall World.step ClosesOwned (World.start twoSlots)
      (visitSlot 0 5 ++ visitSlot 0 5 ++ [.accept 0 (.ok (openedSocket 5)), .connectionsClose]) := by
  refine descriptors_closedOnce twoSlots ?_
  decide +kernel

/-- The shutdown comes before the closing is noticed. The first slot closes the descriptor
that the second one was given. -/
theorem shutdown_closes_other :
    ¬ EveryCall World.step ClosesOwned (World.start twoSlots)
      [.accept 0 (.ok (openedSocket 5)), .slot 0 .close, .slot 0 (.processControl noDigest),
        .accept 0 (.ok (openedSocket 5)), .connectionsClose] := by
  rintro ⟨-, -, -, -, ⟨hcloses, -⟩, -⟩
  rcases hcloses 0 with hnone | ⟨handle, howned, hone⟩
  · revert hnone
    decide +kernel
  · have hsome := Option.isSome_iff_exists.mpr ⟨handle, howned⟩
    revert hsome
    decide +kernel

end

end RobotRaconteurLite

import RobotRaconteurLite.Proofs.Kept
import RobotRaconteurLite.Proofs.Latched
import RobotRaconteurLite.Proofs.Sending

/-!
# What a recycled slot carries over

A connection that was closed is reset and used again. The reset and the accept
that follows initialise most of its fields, but not all: eight are written by
nobody but the node, the connector and the application, and stay as the last
peer left them. No step of the transport touches them either, so what they hold
is told by the calls that write them.
-/

namespace RobotRaconteurLite

open CallSequence

/-- What a connection has in them that was constructed and initialised. -/
def Carried.fresh : Carried := ⟨5000, 0, [], [], 0, ⟨0, none⟩, 0, none, none⟩

/-- Nothing is left in them, whatever the period is. -/
def Carried.Clean (k : Carried) : Prop :=
  k = { Carried.fresh with heartbeatPeriodMs := k.heartbeatPeriodMs }

/-! ## A slot as good as new -/

/-- A slot as it is constructed and initialised, with the application's buffers. -/
def newSlot (sendBuffer recvBuffer : List UInt8) : Connection :=
  connectionInit (connectionConstruct sendBuffer recvBuffer)

/-- Two connections are the same but for the buffers, the heartbeat settings and the
random numbers to come. -/
def SameSlot (c d : Connection) : Prop :=
  { c with
    sendBuffer := d.sendBuffer
    recvBuffer := d.recvBuffer
    sendBufferLen := d.sendBufferLen
    recvBufferLen := d.recvBufferLen
    heartbeatPeriodMs := d.heartbeatPeriodMs
    heartbeatTimeoutMs := d.heartbeatTimeoutMs
    randPlan := d.randPlan } = d

theorem sameSlot_accept_iff (c : Connection) (sendBuffer recvBuffer : List UInt8) (now : Int64)
    (sock : Socket) :
    SameSlot (connectionImplAccept2 (connectionReset c) now TCP_TRANSPORT sock)
      (connectionImplAccept2 (newSlot sendBuffer recvBuffer) now TCP_TRANSPORT sock) ↔
    c.carried.Clean := by
  constructor
  · intro h
    have hcarried : { c.carried with heartbeatPeriodMs := 5000 } = Carried.fresh :=
      congrArg Connection.carried h
    have hback : c.carried = { ({ c.carried with heartbeatPeriodMs := 5000 } : Carried) with
        heartbeatPeriodMs := c.carried.heartbeatPeriodMs } := rfl
    rw [hcarried] at hback
    exact hback
  · intro h
    simp only [Carried.Clean, Connection.carried, Carried.fresh, Carried.mk.injEq, true_and] at h
    obtain ⟨hcheck, hnodename, hservicename, hrequest, huser, hwake, hservice, hclient⟩ := h
    simp only [SameSlot, connectionImplAccept2, connectionReset, newSlot, connectionInit,
      connectionConstruct, hcheck, hnodename, hservicename, hrequest, huser, hwake, hservice,
      hclient]

/-! ## No transport step writes them -/

theorem carried_of_eq {α : Type} {x : Result α × Connection} {rv : Result α} {c : Connection}
    (h : x = (rv, c)) : c.carried = x.2.carried := by
  rw [h]

theorem carried_checkConnected (c : Connection) :
    (tcpConnectionCheckConnected c).2.carried = c.carried := by
  unfold tcpConnectionCheckConnected
  split
  · dsimp only
    split <;> rfl
  · rfl

section

variable [SizeT]

theorem carried_communicateRecv (c : Connection) (now : Int64) :
    (tcpConnectionCommunicateRecv c now).2.carried = c.carried :=
  congrArg Kept.carried (kept_communicateRecv c now)

theorem carried_communicateSend (c : Connection) (now : Int64) :
    (tcpConnectionCommunicateSend c now).2.carried = c.carried :=
  congrArg Kept.carried (kept_communicateSend c now)

theorem carried_handshake (digest : TcpDigest) (c : Connection) :
    (tcpConnectionHandshake digest c).2.carried = c.carried :=
  congrArg Kept.carried (kept_handshake digest c)

theorem carried_processControl (digest : TcpDigest) (c : Connection) :
    (tcpConnectionCommunicateProcessControl digest c).2.carried = c.carried := by
  have himpl : (connectionImplCommunicateProcessControl c TCP_TRANSPORT).2.carried =
      c.carried := by
    unfold connectionImplCommunicateProcessControl
    split
    · rfl
    · dsimp only
      split
      · split <;> rfl
      · split <;> rfl
  unfold tcpConnectionCommunicateProcessControl
  split
  · next h => exact (carried_of_eq h).trans himpl
  · next h =>
      have hopen := (carried_of_eq h).trans himpl
      split
      · exact hopen
      · split
        · next h => exact ((carried_of_eq h).trans (carried_handshake digest _)).trans hopen
        · next h =>
            rw [carried_checkConnected]
            exact ((carried_of_eq h).trans (carried_handshake digest _)).trans hopen

/-! ## Runs -/

/-- What happens to a slot: the transport's calls, the accept and the connect, and the
writes of the node and of the application. `session` is any write to fields that the
reset covers. -/
inductive SlotCall
  | processControl (digest : TcpDigest)
  | communicateRecv (arrived : List UInt8) (plan : List IoOutcome) (now : Int64)
  | communicateSend (plan : List IoOutcome) (now : Int64)
  | accept (now : Int64) (sock : Socket)
  | connect (now : Int64) (addr : Addr) (sock : Socket) (client : Nat)
  | heartbeatCheck (now : Int64)
  | setService (service : Option Nat)
  | startRequestIds (id : UInt32)
  | nextRequestId
  | setUserStorage (userStorage : UserStorage)
  | setHeartbeat (periodMs timeoutMs : Int32)
  | session (state : BitVec 32) (localEndpoint remoteEndpoint : UInt32) (remoteNodeid : NodeId)
      (messageFlagsInvMask : BitVec 8) (sendBuffer : List UInt8) (sendMessageLen : UInt32)

def SlotCall.step (c : Connection) : SlotCall → Result Unit × Connection
  | .processControl digest => tcpConnectionCommunicateProcessControl digest c
  | .communicateRecv arrived plan now => tcpConnectionCommunicateRecv (c.arrive arrived plan) now
  | .communicateSend plan now => tcpConnectionCommunicateSend (c.planSend plan) now
  | .accept now sock => (.ok (), connectionImplAccept2 c now TCP_TRANSPORT sock)
  | .connect now addr sock client =>
      match connectionImplConnect2 c now TCP_TRANSPORT addr sock with
      | (.error e, c) => (.error e, c)
      | (.ok (), c) => (.ok (), { c with client := some client })
  | .heartbeatCheck now =>
      (.ok (), if c.heartbeatNextCheckUs < now then { c with
        heartbeatNextCheckUs := now + c.heartbeatPeriodMs.toInt64 * 1000 } else c)
  | .setService service => (.ok (), { c with service := service })
  | .startRequestIds id => (.ok (), { c with lastRequestId := id })
  | .nextRequestId => (.ok (), { c with lastRequestId := c.lastRequestId + 1 })
  | .setUserStorage userStorage => (.ok (), { c with userStorage := userStorage })
  | .setHeartbeat periodMs timeoutMs =>
      (.ok (), { c with heartbeatPeriodMs := periodMs, heartbeatTimeoutMs := timeoutMs })
  | .session state localEndpoint remoteEndpoint remoteNodeid mask sendBuffer sendMessageLen =>
      (.ok (), { c with
        connectionState := state
        localEndpoint := localEndpoint
        remoteEndpoint := remoteEndpoint
        remoteNodeid := remoteNodeid
        messageFlagsInvMask := mask
        sendBuffer := sendBuffer
        sendMessageLen := sendMessageLen })

/-- What a call writes into the carried fields. -/
def SlotCall.write (k : Carried) : SlotCall → Carried
  | .connect _ addr _ client =>
      if addr.nodename.length > MESSAGE_STR_MAX_SIZE then k
      else if addr.serviceName.length > MESSAGE_STR_MAX_SIZE then
        { k with remoteNodename := addr.nodename }
      else { k with
        remoteNodename := addr.nodename
        remoteServiceName := addr.serviceName
        client := some client }
  | .heartbeatCheck now =>
      if k.heartbeatNextCheckUs < now then
        { k with heartbeatNextCheckUs := now + k.heartbeatPeriodMs.toInt64 * 1000 }
      else k
  | .setService service => { k with service := service }
  | .startRequestIds id => { k with lastRequestId := id }
  | .nextRequestId => { k with lastRequestId := k.lastRequestId + 1 }
  | .setUserStorage userStorage => { k with userStorage := userStorage }
  | .setHeartbeat periodMs _ => { k with heartbeatPeriodMs := periodMs }
  | _ => k

theorem carried_step (c : Connection) (call : SlotCall) :
    (call.step c).2.carried = call.write c.carried := by
  cases call with
  | processControl digest => exact carried_processControl digest c
  | communicateRecv arrived plan now => exact carried_communicateRecv _ now
  | communicateSend plan now => exact carried_communicateSend _ now
  | connect now addr sock client =>
      unfold SlotCall.step SlotCall.write connectionImplConnect2 stringCopyToBufferStorage
      dsimp only
      by_cases hname : addr.nodename.length > MESSAGE_STR_MAX_SIZE
      · rw [if_pos hname, if_pos hname]
        rfl
      · rw [if_neg hname, if_neg hname]
        by_cases hservice : addr.serviceName.length > MESSAGE_STR_MAX_SIZE
        · rw [if_pos hservice, if_pos hservice]
          rfl
        · rw [if_neg hservice, if_neg hservice]
          rfl
  | heartbeatCheck now =>
      unfold SlotCall.step SlotCall.write
      dsimp only
      split
      · next h => exact (if_pos h).symm
      · next h => exact (if_neg h).symm
  | _ => rfl

theorem carried_final (c : Connection) (cs : List SlotCall) :
    (final SlotCall.step c cs).carried = cs.foldl SlotCall.write c.carried := by
  induction cs generalizing c with
  | nil => rfl
  | cons call cs ih =>
      rw [final, ih, carried_step]
      rfl

/-! ## Recycling -/

/-- The control step of a connection whose closing was noticed resets it. -/
theorem processControl_reset (digest : TcpDigest) {c : Connection}
    (htype : c.transportType = TCP_TRANSPORT)
    (hconsumed : c.checkState STATUS_FLAGS_CLOSED_CONSUMED = true) :
    (tcpConnectionCommunicateProcessControl digest c).2 = connectionReset c := by
  have hidle : (connectionReset c).checkState (STATUS_FLAGS_CLOSED ||| STATUS_FLAGS_IDLE) = true :=
    show flagsCheck STATUS_FLAGS_IDLE (STATUS_FLAGS_CLOSED ||| STATUS_FLAGS_IDLE) = true by decide
  have himpl : connectionImplCommunicateProcessControl c TCP_TRANSPORT =
      (.error .consumed, connectionReset c) := by
    rw [connectionImplCommunicateProcessControl, if_neg (not_not_intro htype), if_pos hconsumed]
    dsimp only
    rw [if_pos hidle]
  unfold tcpConnectionCommunicateProcessControl
  rw [himpl]

/-- A recycled slot is as good as new exactly when the writes of its life so far,
in their order, left the carried fields as they are constructed. -/
theorem recycledSlot_fresh_iff {sendBuffer recvBuffer : List UInt8} {cs : List SlotCall}
    (htype : (final SlotCall.step (newSlot sendBuffer recvBuffer) cs).transportType =
      TCP_TRANSPORT)
    (hconsumed : (final SlotCall.step (newSlot sendBuffer recvBuffer) cs).checkState
      STATUS_FLAGS_CLOSED_CONSUMED = true) (digest : TcpDigest) (now : Int64) (sock : Socket) :
    SameSlot
      (connectionImplAccept2 (tcpConnectionCommunicateProcessControl digest
        (final SlotCall.step (newSlot sendBuffer recvBuffer) cs)).2 now TCP_TRANSPORT sock)
      (connectionImplAccept2 (newSlot sendBuffer recvBuffer) now TCP_TRANSPORT sock) ↔
    (cs.foldl SlotCall.write Carried.fresh).Clean := by
  rw [processControl_reset digest htype hconsumed, sameSlot_accept_iff, carried_final]
  rfl

end

section

open Lp64

def idleSocket : Socket := ⟨0, [], [], [], [], [], 3, []⟩

/-- The node and the application are done with a connection in state `state`. -/
def sessionEnds (state : BitVec 32) : SlotCall := .session state 0 0 NodeId.any 0 [] 0

/-- A client comes, asks for `service`, and goes. -/
def visit (service : Option Nat) : List SlotCall :=
  [.accept 0 idleSocket, .setService service, sessionEnds STATUS_FLAGS_CLOSE_REQUESTED,
    .processControl noDigest, sessionEnds (STATUS_FLAGS_CLOSED ||| STATUS_FLAGS_CLOSED_CONSUMED)]

/-- The next peer finds the service of the last one. -/
theorem visit_leaves_service :
    (final SlotCall.step (newSlot [] []) (visit (some 7))).transportType =
        TCP_TRANSPORT ∧
      (final SlotCall.step (newSlot [] []) (visit (some 7))).checkState
        STATUS_FLAGS_CLOSED_CONSUMED = true ∧
      ¬ SameSlot
        (connectionImplAccept2 (tcpConnectionCommunicateProcessControl noDigest
          (final SlotCall.step (newSlot [] []) (visit (some 7)))).2 1 TCP_TRANSPORT
          idleSocket)
        (connectionImplAccept2 (newSlot [] []) 1 TCP_TRANSPORT idleSocket) := by
  refine ⟨by decide +kernel, by decide +kernel, ?_⟩
  intro h
  cases congrArg Connection.service h

/-- A visitor without a service leaves nothing. -/
theorem visit_leaves_nothing :
    SameSlot
      (connectionImplAccept2 (tcpConnectionCommunicateProcessControl noDigest
        (final SlotCall.step (newSlot [] []) (visit none))).2 1 TCP_TRANSPORT
        idleSocket)
      (connectionImplAccept2 (newSlot [] []) 1 TCP_TRANSPORT idleSocket) :=
  (recycledSlot_fresh_iff (by decide +kernel) (by decide +kernel) noDigest 1 idleSocket).mpr rfl

end

end RobotRaconteurLite

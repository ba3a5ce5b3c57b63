import RobotRaconteurLite.Acceptors
import RobotRaconteurLite.Node.EventLoops
import RobotRaconteurLite.Node.Wake
import RobotRaconteurLite.TcpConnections

/-!
# The main loop (`poll.c`, `connection.c`, `node.c`)

Between its events a program lets the transports work on their objects, and when
nothing is left to do it waits until a socket is ready or it is time for
something. Every object of a list, be it a connection or an acceptor, has a table
of the operations that its transport has for it, or none yet. There is one
transport, so the table of an acceptor is always there, and all that can be
asked of a connection is whether it has its own.

What the sockets do while a program waits is given, and so is what the clock
says each time it is read.
-/

namespace RobotRaconteurLite

def STATUS_FLAGS_RECEIVING : BitVec 32 := 0x80

def SOCKET_FLAGS_WANT_SEND : BitVec 16 := 0x4

def SOCKET_FLAGS_FAKE_SOCKET : BitVec 16 := 0x8000

/-- An acceptor, and what the coming calls of `accept` answer. -/
structure TcpAcceptor extends ConnectionAcceptor where
  accepts : List (Result Socket)

/-- What a link of the list of a node points to. -/
inductive ConnectionObject
  | listHead
  | acceptor (a : Nat)
  | connection (i : Nat)
  deriving DecidableEq

section

variable [SizeT]

/-- A node with the objects of its list, head first. -/
structure PolledNode where
  node : Node
  objects : List ConnectionObject
  acceptor : Nat → TcpAcceptor
  hasOps : Nat → Bool

namespace PolledNode

def setConnection (p : PolledNode) (i : Nat) (c : Connection) : PolledNode :=
  { p with node := p.node.setConnection i c }

def setAcceptor (p : PolledNode) (a : Nat) (acceptor : TcpAcceptor) : PolledNode :=
  { p with acceptor := Function.update p.acceptor a acceptor }

/-- Whether an object is an idle connection. -/
def isIdle (p : PolledNode) : ConnectionObject → Bool
  | .connection i => (p.node.connection i).checkState STATUS_FLAGS_IDLE
  | _ => false

/-- `robotraconteurlite_connection_find_idle`. -/
def findIdle (p : PolledNode) : Option Nat :=
  p.objects.findSome? fun
    | .connection i => if p.isIdle (.connection i) then some i else none
    | _ => none

end PolledNode

/-! ## Communicating -/

/-- `robotraconteurlite_tcp_acceptor_communicate_process_control_op`. -/
def tcpAcceptorCommunicateOp (p : PolledNode) (a : Nat) (now : Int64) : PolledNode :=
  match p.findIdle with
  | none => p
  | some i =>
      match (p.acceptor a).accepts with
      | [] => p
      | accepted :: accepts =>
          let p := p.setAcceptor a { p.acceptor a with accepts }
          match accepted with
          | .error _ => p
          | .ok sock =>
              { p.setConnection i (connectionImplAccept2 (p.node.connection i) now TCP_TRANSPORT sock)
                with hasOps := Function.update p.hasOps i true }

/-- What `connections_communicate` does with one connection. A step that fails ends it. -/
def tcpConnectionCommunicateSteps (digest : TcpDigest) (now : Int64) (c : Connection) : Connection :=
  match tcpConnectionCommunicateProcessControl digest c with
  | (.error _, c) => c
  | (.ok (), c) =>
      match tcpConnectionCommunicateRecv c now with
      | (.error _, c) => c
      | (.ok (), c) => (tcpConnectionCommunicateSend c now).2

/-- A step on every connection that has its operations, and one on every acceptor. -/
def PolledNode.communicateObject (connection : Connection → Connection)
    (acceptor : PolledNode → Nat → PolledNode) (p : PolledNode) : ConnectionObject → PolledNode
  | .listHead => p
  | .acceptor a => acceptor p a
  | .connection i =>
      if p.hasOps i then p.setConnection i (connection (p.node.connection i)) else p

/-- `robotraconteurlite_connections_communicate`, which cannot fail. -/
def connectionsCommunicate (digest : TcpDigest) (p : PolledNode) (now : Int64) : PolledNode :=
  p.objects.foldl (PolledNode.communicateObject (tcpConnectionCommunicateSteps digest now)
    fun p a => tcpAcceptorCommunicateOp p a now) p

/-- `robotraconteurlite_connections_communicate_recv`. -/
def connectionsCommunicateRecv (p : PolledNode) (now : Int64) : PolledNode :=
  p.objects.foldl (PolledNode.communicateObject (fun c => (tcpConnectionCommunicateRecv c now).2)
    fun p _ => p) p

/-- `robotraconteurlite_connections_communicate_send`. -/
def connectionsCommunicateSend (p : PolledNode) (now : Int64) : PolledNode :=
  p.objects.foldl (PolledNode.communicateObject (fun c => (tcpConnectionCommunicateSend c now).2)
    fun p _ => p) p

/-- `robotraconteurlite_connections_communicate_process_control`. -/
def connectionsCommunicateProcessControl (digest : TcpDigest) (p : PolledNode) (now : Int64) :
    PolledNode :=
  p.objects.foldl (PolledNode.communicateObject
    (fun c => (tcpConnectionCommunicateProcessControl digest c).2)
    fun p a => tcpAcceptorCommunicateOp p a now) p

/-- `robotraconteurlite_connections_communicate_drain`. -/
def connectionsCommunicateDrain (p : PolledNode) (now : Int64) : PolledNode :=
  connectionsCommunicateSend p now

/-! ## Getting ready to wait -/

/-- A flag of a socket is set or cleared. -/
def Socket.want (sock : Socket) (flag : BitVec 16) (wanted : Bool) : Socket :=
  { sock with flags := if wanted then flagsSet sock.flags flag else flagsClear sock.flags flag }

/-- `robotraconteurlite_connection_impl_prepare_wait`. -/
def connectionImplPrepareWait (c : Connection) : Connection :=
  if ¬ flagsCheck c.sock.flags SOCKET_FLAGS_ACTIVE ∨ c.sock.sock = 0 then c
  else
    let sock := c.sock.want SOCKET_FLAGS_WANT_SEND
      (c.checkState (STATUS_FLAGS_SEND_REQUESTED ||| STATUS_FLAGS_SENDING ||| STATUS_FLAGS_CONNECTING))
    let sock := sock.want SOCKET_FLAGS_WANT_RECEIVE
      (c.checkState (STATUS_FLAGS_RECEIVE_REQUESTED ||| STATUS_FLAGS_RECEIVING))
    { c with sock }

/-- The loop of `acceptor_impl_prepare_wait`: whether it comes across an idle connection. After a
connection the search goes on behind the next object. -/
def PolledNode.acceptorWants (p : PolledNode) : List ConnectionObject → Bool
  | [] => false
  | [.connection i] => p.isIdle (.connection i)
  | .connection i :: _ :: rest => p.isIdle (.connection i) || p.acceptorWants rest
  | _ :: rest => p.acceptorWants rest

/-- `robotraconteurlite_connection_acceptor_impl_prepare_wait`. -/
def tcpAcceptorPrepareWaitOp (p : PolledNode) (a : Nat) : PolledNode :=
  let acceptor := p.acceptor a
  p.setAcceptor a { acceptor with
    sock := acceptor.sock.want SOCKET_FLAGS_WANT_RECEIVE (p.acceptorWants p.objects) }

/-- `robotraconteurlite_connections_prepare_wait`, which cannot fail. -/
def connectionsPrepareWait (p : PolledNode) : PolledNode :=
  p.objects.foldl (PolledNode.communicateObject connectionImplPrepareWait tcpAcceptorPrepareWaitOp) p

/-- The connections of the list behind its head for which a condition on the socket holds. -/
def PolledNode.countSockets (p : PolledNode) (condition : BitVec 16 → Bool) : Nat :=
  p.objects.tail.countP fun
    | .connection i => condition (p.node.connection i).sock.flags
    | _ => false

/-- The socket can send something that is there to be sent. -/
def socketDrains (flags : BitVec 16) : Bool :=
  flagsCheck flags SOCKET_FLAGS_ACTIVE && flagsCheck flags SOCKET_FLAGS_WANT_SEND &&
    !flagsCheck flags SOCKET_FLAGS_SEND_WOULD_BLOCK

/-- `robotraconteurlite_connections_communicate_drain_pending`. -/
def connectionsCommunicateDrainPending (p : PolledNode) : Nat × PolledNode :=
  let p := connectionsPrepareWait p
  (p.countSockets socketDrains, p)

/-- `robotraconteurlite_connections_communicate_available`. -/
def connectionsCommunicateAvailable (p : PolledNode) : Nat × PolledNode :=
  let p := connectionsPrepareWait p
  (p.countSockets fun flags => socketDrains flags && flagsCheck flags SOCKET_FLAGS_WANT_RECEIVE &&
    !flagsCheck flags SOCKET_FLAGS_RECEIVE_WOULD_BLOCK, p)

/-! ## Polling -/

def POLLIN : BitVec 16 := 0x1

def POLLOUT : BitVec 16 := 0x4

/-- `struct robotraconteurlite_pollfd`, before the call of `poll`. -/
structure Pollfd where
  fd : Nat
  events : BitVec 16
  deriving DecidableEq

/-- `robotraconteurlite_poll_impl_add_fd`. -/
def pollImplAddFd (sock : Nat) (sockFlags : BitVec 16) (maxPollfds : Nat) (pollfds : List Pollfd) :
    Result (List Pollfd) :=
  if ¬ flagsCheck sockFlags SOCKET_FLAGS_ACTIVE ∨ sock = 0 then .ok pollfds
  else
    let events := (if flagsCheck sockFlags SOCKET_FLAGS_WANT_SEND then POLLOUT else 0) |||
      (if flagsCheck sockFlags SOCKET_FLAGS_WANT_RECEIVE then POLLIN else 0)
    -- The numbers are compared as signed ones.
    if Int32.ofNat pollfds.length ≥ Int32.ofNat maxPollfds then .error .invalidParameter
    else .ok (pollfds ++ [⟨sock, events⟩])

/-- `robotraconteurlite_poll_pollfds_add_socket`. -/
def pollPollfdsAddSocket (sock : Socket) (maxPollfds : Nat) (pollfds : List Pollfd) :
    Result (List Pollfd) :=
  if ¬ flagsCheck sock.flags SOCKET_FLAGS_ACTIVE ∨ flagsCheck sock.flags SOCKET_FLAGS_FAKE_SOCKET then
    .ok pollfds
  else if sock.sock = 0 then .ok pollfds
  else pollImplAddFd sock.sock sock.flags maxPollfds pollfds

/-- The socket of an object. That of a list head is never active. -/
def PolledNode.sockOf (p : PolledNode) : ConnectionObject → Option Socket
  | .listHead => none
  | .acceptor a => some (p.acceptor a).sock
  | .connection i => some (p.node.connection i).sock

/-- `robotraconteurlite_poll_pollfds_add_sockets`. No socket is linked to another. -/
def pollPollfdsAddSockets (maxPollfds : Nat) (pollfds : List Pollfd) (sock : Option Socket) :
    Result (List Pollfd) :=
  match sock with
  | none => .ok pollfds
  | some sock => pollPollfdsAddSocket sock maxPollfds pollfds

/-- The loop of `poll_connections_next_wake`. -/
def PolledNode.pollfds (p : PolledNode) (maxPollfds : Nat) : Result (List Pollfd) :=
  p.objects.foldlM (fun pollfds object => pollPollfdsAddSockets maxPollfds pollfds (p.sockOf object)) []

/-- The time that `poll_pollfds_next_wake` waits at most, in milliseconds, where it waits. -/
def pollTimeout (now wakeTime : Int64) : Option Int64 :=
  if wakeTime < now then none
  else
    let timeout := (wakeTime - now) / 1000
    if timeout > 2147483647 then some 2147483647 else some timeout

/-- What happens to a socket while the program does something else: bytes that arrive, and what the
coming calls will do. -/
structure SocketNews where
  arrived : List UInt8
  recvPlan : List IoOutcome
  sendPlan : List IoOutcome
  pollPlan : List PollOutcome

def Socket.hear (sock : Socket) (news : SocketNews) : Socket :=
  { sock with
    inbox := sock.inbox ++ news.arrived
    recvPlan := news.recvPlan
    sendPlan := news.sendPlan
    pollPlan := news.pollPlan }

/-- What happens outside of the program for a while. -/
structure Meanwhile where
  news : Nat → SocketNews
  accepts : Nat → List (Result Socket)

def PolledNode.hear (p : PolledNode) (meanwhile : Meanwhile) : PolledNode :=
  { p with
    node := { p.node with
      connection := fun i =>
        { p.node.connection i with sock := (p.node.connection i).sock.hear (meanwhile.news i) } }
    acceptor := fun a => { p.acceptor a with accepts := meanwhile.accepts a } }

/-- What `poll` is called with, and the node that it is called for. -/
structure PollCall where
  node : PolledNode
  pollfds : List Pollfd
  now : Int64
  timeout : Int64

/-- What `poll_connections_run` leaves behind, with its call of `poll` for an observer. -/
structure PollRun where
  status : Result Unit
  node : PolledNode
  poll : Option PollCall

/-- What a run of the main loop meets: what the clock says the first, the second and the third time,
what `poll` answers, and what happens outside while it waits. -/
structure PollScene where
  now : Result Int64
  nowPolling : Result Int64
  nowAfter : Result Int64
  polled : Result Unit
  meanwhile : Meanwhile

/-- The part of `poll_connections_run` behind the wait. -/
def pollConnectionsAwake (digest : TcpDigest) (p : PolledNode) (nowAfter : Result Int64)
    (poll : Option PollCall) : PollRun :=
  match nowAfter with
  | .error e => ⟨.error e, p, poll⟩
  | .ok now => ⟨.ok (), connectionsCommunicate digest p now, poll⟩

/-- The part of `poll_connections_run` that waits: `poll_connections_next_wake` and what follows. -/
def pollConnectionsWait (digest : TcpDigest) (p : PolledNode) (maxPollfds : Nat) (nextWake : Int64)
    (scene : PollScene) : PollRun :=
  match p.pollfds maxPollfds with
  | .error e => ⟨.error e, p, none⟩
  | .ok pollfds =>
      match scene.nowPolling with
      | .error e => ⟨.error e, p, none⟩
      | .ok now =>
          match pollTimeout now nextWake with
          | none => pollConnectionsAwake digest p scene.nowAfter none
          | some timeout =>
              let poll : PollCall := ⟨p, pollfds, now, timeout⟩
              let p := p.hear scene.meanwhile
              match scene.polled with
              | .error _ => ⟨.error .systemError, p, some poll⟩
              | .ok () => pollConnectionsAwake digest p scene.nowAfter (some poll)

/-- `robotraconteurlite_poll_connections_run`. -/
def pollConnectionsRun (digest : TcpDigest) (p : PolledNode) (maxPollfds : Nat) (wakeTime : Int64)
    (scene : PollScene) : PollRun :=
  match scene.now with
  | .error e => ⟨.error e, p, none⟩
  | .ok now =>
      -- Communicate with all connections
      let p := connectionsCommunicate digest p now
      if p.node.eventsPending > 0 then ⟨.ok (), p, none⟩
      else
        let nextWake := p.node.nextWake now 0
        let nextWake := if wakeTime < nextWake then wakeTime else nextWake
        if nextWake > now then
          pollConnectionsWait digest (connectionsPrepareWait p) maxPollfds nextWake scene
        else ⟨.ok (), p, none⟩

/-! ## Running events until nothing is left -/

/-- `robotraconteurlite_node_run_next_event_cycle`. -/
def PolledNode.runCycle (eventErrorReturned : Option (Event → List AppCall)) (p : PolledNode)
    (now : Int64) (maxEvents : Nat) : PolledNode :=
  { p with node := (nodeRunNextEventCycle eventErrorReturned p.node now maxEvents).2 }

/-- `robotraconteurlite_node_events_drain_pending`. -/
def nodeEventsDrainPending (p : PolledNode) : Nat × PolledNode :=
  let (pending, p') := connectionsCommunicateDrainPending p
  (addSz p.node.eventsPending pending, p')

/-- `robotraconteurlite_node_events_available`. -/
def nodeEventsAvailable (p : PolledNode) : Nat × PolledNode :=
  let (available, p') := connectionsCommunicateAvailable p
  (addSz p.node.eventsPending available, p')

/-- The loop that sends and runs events until nothing is left to drain, with so many cycles behind
it. The cycles that are counted are at most `maxCycles`, so that many rounds are enough. -/
def nodeRunEventsDrainLoop (eventErrorReturned : Option (Event → List AppCall)) (now : Int64)
    (maxEventsPerCycle maxCycles : Nat) : Nat → Nat → PolledNode → Nat × PolledNode
  | rounds, cycles, p =>
      let p := connectionsCommunicateDrain p now
      let p := p.runCycle eventErrorReturned now maxEventsPerCycle
      let (drainPending, p) := nodeEventsDrainPending p
      let cycles := cycles + 1
      if drainPending > 0 ∧ cycles < maxCycles then
        match rounds with
        | 0 => (cycles, p)
        | rounds + 1 =>
            nodeRunEventsDrainLoop eventErrorReturned now maxEventsPerCycle maxCycles rounds cycles p
      else (cycles, p)

/-- `robotraconteurlite_node_run_events_drain`, which cannot fail. -/
def nodeRunEventsDrain (eventErrorReturned : Option (Event → List AppCall)) (p : PolledNode)
    (now : Int64) (maxEventsPerCycle maxCycles : Nat) : PolledNode :=
  (nodeRunEventsDrainLoop eventErrorReturned now maxEventsPerCycle maxCycles maxCycles 0 p).2

/-- The outer loop of `run_events_available`. -/
def nodeRunEventsAvailableLoop (digest : TcpDigest)
    (eventErrorReturned : Option (Event → List AppCall)) (now : Int64)
    (maxEventsPerCycle maxCycles : Nat) : Nat → Nat → PolledNode → PolledNode
  | rounds, cycles, p =>
      let p := connectionsCommunicate digest p now
      let (cycles, p) := nodeRunEventsDrainLoop eventErrorReturned now maxEventsPerCycle maxCycles
        maxCycles cycles p
      let cycles := cycles + 1
      let (nodeAvailable, p) := nodeEventsAvailable p
      if nodeAvailable > 0 ∧ cycles < maxCycles then
        match rounds with
        | 0 => p
        | rounds + 1 => nodeRunEventsAvailableLoop digest eventErrorReturned now maxEventsPerCycle
            maxCycles rounds cycles p
      else p

/-- `robotraconteurlite_node_run_events_available`, which cannot fail. -/
def nodeRunEventsAvailable (digest : TcpDigest)
    (eventErrorReturned : Option (Event → List AppCall)) (p : PolledNode) (now : Int64)
    (maxEventsPerCycle maxCycles : Nat) : PolledNode :=
  nodeRunEventsAvailableLoop digest eventErrorReturned now maxEventsPerCycle maxCycles maxCycles 0 p

/-! ## Starting and stopping -/

/-- `robotraconteurlite_tcp_connect_service`, on the list of a node. A connection whose names could
not be copied has no operations. -/
def PolledNode.connect (digest : TcpDigest) (p : PolledNode) (client : Nat) (addr : Addr)
    (now : Int64) (connected : Result Socket) : Result Unit × PolledNode :=
  match p.findIdle with
  | none => (.error .connectionError, p)
  | some i =>
      match connected with
      | .error e => (.error e, p)
      | .ok sock =>
          match connectionImplConnect2 (p.node.connection i) now TCP_TRANSPORT addr sock with
          | (.error e, c) => (.error e, p.setConnection i c)
          | (.ok (), c) =>
              let (rv, c) := tcpConnectServiceStart digest addr { c with client := some client }
              (rv, { p.setConnection i c with
                node := (p.node.setConnection i c).setClient client
                  { p.node.client client with clientConnection := i }
                hasOps := Function.update p.hasOps i true })

/-- `robotraconteurlite_node_shutdown`. -/
def nodeShutdown (node : Node) : Node :=
  node.connections.foldl (fun node i => node.modifyConnection i connectionClose) node

end

end RobotRaconteurLite

import RobotRaconteurLite.Proofs.Sockets

/-!
# What the transport leaves alone

A receive, a send and a handshake move bytes, positions and the flags of the
traffic. They do not touch what the node and the application write, nor what
says whose socket it is and how far its life has come: the type of the transport
and the role, the handle, what was closed, and the flags of opening and closing.
-/

namespace RobotRaconteurLite

/-- The fields that neither the reset nor the accept initialises, and the heartbeat
period that the application sets. -/
structure Carried where
  heartbeatPeriodMs : Int32
  heartbeatNextCheckUs : Int64
  remoteNodename : List UInt8
  remoteServiceName : List UInt8
  lastRequestId : UInt32
  userStorage : UserStorage
  transportNextWake : Int64
  service : Option Nat
  client : Option Nat
  deriving DecidableEq

def Connection.carried (c : Connection) : Carried :=
  ⟨c.heartbeatPeriodMs, c.heartbeatNextCheckUs, c.remoteNodename, c.remoteServiceName, c.lastRequestId,
    c.userStorage, c.transportNextWake, c.service, c.client⟩

/-- The flags that say how far the life of a connection has come. -/
def LIFECYCLE : BitVec 32 :=
  STATUS_FLAGS_IDLE ||| STATUS_FLAGS_CLOSING ||| STATUS_FLAGS_CLOSED ||| STATUS_FLAGS_CLOSE_REQUESTED |||
    STATUS_FLAGS_CLOSED_CONSUMED ||| STATUS_FLAGS_CLIENT_SOCKET_CONNECTED

/-- What no receive, send or handshake touches. -/
structure Kept where
  carried : Carried
  transportType : UInt32
  configFlags : BitVec 32
  sock : Nat
  closed : List Nat
  pollPlan : List PollOutcome
  active : Bool
  lifecycle : BitVec 32

def Connection.kept (c : Connection) : Kept :=
  ⟨c.carried, c.transportType, c.configFlags, c.sock.sock, c.sock.closed, c.sock.pollPlan,
    flagsCheck c.sock.flags SOCKET_FLAGS_ACTIVE, c.connectionState &&& LIFECYCLE⟩

/-! ## Sockets -/

/-- What a socket keeps when bytes go through it. -/
def Socket.kept (sock : Socket) : Nat × List Nat × List PollOutcome × Bool :=
  (sock.sock, sock.closed, sock.pollPlan, flagsCheck sock.flags SOCKET_FLAGS_ACTIVE)

theorem Socket.kept_flagsSet (sock : Socket) {m : BitVec 16} (h : m &&& SOCKET_FLAGS_ACTIVE = 0#16) :
    ({ sock with flags := flagsSet sock.flags m } : Socket).kept = sock.kept := by
  rw [Socket.kept, Socket.kept, flagsCheck_set_of_disjoint h]

theorem Socket.kept_flagsClear (sock : Socket) {m : BitVec 16}
    (h : m &&& SOCKET_FLAGS_ACTIVE = 0#16) :
    ({ sock with flags := flagsClear sock.flags m } : Socket).kept = sock.kept := by
  rw [Socket.kept, Socket.kept, flagsCheck_clear_of_disjoint h]

theorem kept_recvLoop (pos1 len : Nat) (sock : Socket) (plan : List IoOutcome)
    (inbox buffer : List UInt8) (pos : Nat) :
    (tcpSocketRecvLoop pos1 len sock plan inbox buffer pos).sock.kept = sock.kept := by
  have hblock : SOCKET_FLAGS_RECEIVE_WOULD_BLOCK &&& SOCKET_FLAGS_ACTIVE = 0#16 := by decide
  induction plan generalizing sock inbox buffer pos with
  | nil =>
      unfold tcpSocketRecvLoop
      dsimp only
      split
      · rfl
      · exact Socket.kept_flagsSet _ hblock
  | cons outcome plan ih =>
      unfold tcpSocketRecvLoop
      dsimp only
      split
      · rfl
      · split
        · split
          · exact Socket.kept_flagsSet _ hblock
          · exact ih _ _ _ _
        · exact Socket.kept_flagsSet _ hblock
        · rfl
        · split <;> rfl

theorem kept_sendLoop (buffer : List UInt8) (pos1 len : Nat) (sock : Socket)
    (plan : List IoOutcome) (sent : List UInt8) (pos : Nat) :
    (tcpSocketSendLoop buffer pos1 len sock plan sent pos).sock.kept = sock.kept := by
  have hblock : SOCKET_FLAGS_SEND_WOULD_BLOCK &&& SOCKET_FLAGS_ACTIVE = 0#16 := by decide
  induction plan generalizing sock sent pos with
  | nil =>
      unfold tcpSocketSendLoop
      dsimp only
      split
      · rfl
      · exact Socket.kept_flagsSet _ hblock
  | cons outcome plan ih =>
      unfold tcpSocketSendLoop
      dsimp only
      split
      · rfl
      · split
        · exact ih _ _ _
        · exact Socket.kept_flagsSet _ hblock
        · rfl
        · split <;> rfl

@[simp] theorem kept_recvNonblocking (sock : Socket) (buffer : List UInt8) (pos len : Nat) :
    (tcpSocketRecvNonblocking sock buffer pos len).sock.kept = sock.kept :=
  (kept_recvLoop _ _ _ _ _ _ _).trans (Socket.kept_flagsClear _ (by decide))

@[simp] theorem kept_sendNonblocking (sock : Socket) (buffer : List UInt8) (pos len : Nat) :
    (tcpSocketSendNonblocking sock buffer pos len).sock.kept = sock.kept :=
  (kept_sendLoop _ _ _ _ _ _ _).trans (Socket.kept_flagsClear _ (by decide))

/-! ## Receiving and sending -/

theorem kept_of_eq {α : Type} {x : Result α × Connection} {rv : Result α} {c : Connection}
    (h : x = (rv, c)) : c.kept = x.2.kept := by
  rw [h]

theorem kept_of_sock {c d : Connection} (h : d.sock.kept = c.sock.kept)
    (hd : ({ d with sock := c.sock } : Connection).kept = c.kept) : d.kept = c.kept := by
  simp only [Connection.kept, Kept.mk.injEq, Socket.kept, Prod.mk.injEq] at h hd ⊢
  exact ⟨hd.1, hd.2.1, hd.2.2.1, h.1, h.2.1, h.2.2.1, h.2.2.2, hd.2.2.2.2.2.2.2⟩

theorem kept_setState (c : Connection) {m : BitVec 32} (h : m &&& LIFECYCLE = 0#32) :
    (c.setState m).kept = c.kept :=
  congrArg (Kept.mk _ _ _ _ _ _ _) (flagsSet_and_of_disjoint h)

theorem kept_clearState (c : Connection) {m : BitVec 32} (h : m &&& LIFECYCLE = 0#32) :
    (c.clearState m).kept = c.kept :=
  congrArg (Kept.mk _ _ _ _ _ _ _) (flagsClear_and_of_disjoint h)

@[simp] theorem kept_withStorage (c : Connection) (s : TcpTransportStorage) :
    (c.withStorage s).kept = c.kept := rfl

@[simp] theorem kept_recv (c : Connection) (len : Nat) :
    (tcpConnectionRecv c len).2.kept = c.kept :=
  kept_of_sock (kept_recvNonblocking ..) rfl

@[simp] theorem kept_send (c : Connection) (len : Nat) :
    (tcpConnectionSend c len).2.kept = c.kept :=
  kept_of_sock (kept_sendNonblocking ..) rfl

theorem kept_setState_error (c : Connection) : (c.setState STATUS_FLAGS_ERROR).kept = c.kept :=
  kept_setState c (by decide)

@[simp] theorem kept_failReceive (c : Connection) : c.failReceive.kept = c.kept :=
  (kept_clearState _ (by decide)).trans (kept_setState_error c)

@[simp] theorem kept_connectedWebsocket (c : Connection) :
    c.connectedWebsocket.kept = c.kept :=
  (kept_clearState (c.setState (STATUS_FLAGS_CONNECTED ||| STATUS_FLAGS_RECEIVE_REQUESTED))
    (by decide)).trans (kept_setState c (by decide))

@[simp] theorem kept_verifyPreamble (c : Connection) :
    (connectionVerifyPreamble c).2.kept = c.kept := by
  unfold connectionVerifyPreamble
  split
  · split
    · exact kept_failReceive c
    · dsimp only
      split
      · exact kept_failReceive c
      · rfl
  · rfl

@[simp] theorem kept_recv2 (c : Connection) (now : Int64) (rv : Result Unit) :
    (connectionImplCommunicateRecv2 c now rv).2.kept = c.kept := by
  unfold connectionImplCommunicateRecv2
  split
  · exact kept_failReceive c
  · split
    · next c' h =>
        exact (kept_failReceive c').trans ((kept_of_eq h).trans (kept_verifyPreamble c))
    · next c' h =>
        have hverify := (kept_of_eq h).trans (kept_verifyPreamble c)
        split
        · exact ((kept_setState _ (by decide)).trans (kept_clearState c' (by decide))).trans hverify
        · exact hverify

@[simp] theorem kept_send2 (c : Connection) (now : Int64) (rv : Result Unit) :
    (connectionImplCommunicateSend2 c now rv).2.kept = c.kept := by
  unfold connectionImplCommunicateSend2
  split
  · exact kept_setState_error c
  · split
    · exact kept_setState c (by decide)
    · exact (kept_setState (c.clearState STATUS_FLAGS_SENDING) (by decide)).trans
        (kept_clearState c (by decide))

@[simp] theorem kept_recvHeader (c : Connection) (size : Nat) :
    (tcpConnectionRecvHeader c size).2.kept = c.kept := by
  unfold tcpConnectionRecvHeader
  dsimp only
  split
  · split
    · exact (kept_setState_error _).trans (kept_of_sock (kept_recvNonblocking ..) rfl)
    · exact kept_of_sock (kept_recvNonblocking ..) rfl
  · rfl

@[simp] theorem kept_sendHeader (c : Connection) :
    (tcpConnectionSendHeader c).2.kept = c.kept := by
  unfold tcpConnectionSendHeader
  dsimp only
  split
  · split
    · exact kept_of_sock (kept_sendNonblocking ..) rfl
    · exact kept_of_sock (kept_sendNonblocking ..) rfl
  · rfl

@[simp] theorem kept_recvHeaderLoop (fuel : Nat) (c : Connection) :
    (tcpConnectionHandshakeHttpRecvHeaderLoop fuel c).2.kept = c.kept := by
  induction fuel generalizing c with
  | zero => rfl
  | succ fuel ih =>
      rw [tcpConnectionHandshakeHttpRecvHeaderLoop]
      split
      · rfl
      · dsimp only
        split
        · next c' h =>
            exact (kept_setState_error c').trans ((kept_of_eq h).trans (kept_recv c _))
        · next h =>
            have hrecv := (kept_of_eq h).trans (kept_recv c _)
            split
            · exact hrecv
            · split
              · exact hrecv
              · rw [ih]
                exact hrecv

@[simp] theorem kept_clientReply (c : Connection) :
    (tcpConnectionHandshakeClientReply c).2.kept = c.kept := by
  have hsending : (c.clearState STATUS_FLAGS_SENDING).kept = c.kept := kept_clearState c (by decide)
  unfold tcpConnectionHandshakeClientReply tcpConnectionHandshakeHttpRecvHeader
  split
  · next h => exact ((kept_of_eq h).trans (kept_recvHeaderLoop _ _)).trans hsending
  · next h => exact ((kept_of_eq h).trans (kept_recvHeaderLoop _ _)).trans hsending
  · next h =>
      exact (kept_setState_error _).trans
        (((kept_of_eq h).trans (kept_recvHeaderLoop _ _)).trans hsending)
  · next c' h =>
      have hheader := ((kept_of_eq h).trans (kept_recvHeaderLoop _ _)).trans hsending
      split
      · exact hheader
      · exact (kept_connectedWebsocket c').trans hheader

section

variable [SizeT]

@[simp] theorem kept_compact (c : Connection) : (connectionCompact c).kept = c.kept := by
  unfold connectionCompact
  split
  · exact (kept_setState _ (by decide)).trans (kept_clearState _ (by decide))
  · rfl

@[simp] theorem kept_recvPayload (c : Connection) (len : Nat) :
    (tcpConnectionRecvPayload c len).2.kept = c.kept := by
  unfold tcpConnectionRecvPayload
  split
  · next c' h => exact (kept_setState_error c').trans ((kept_of_eq h).trans (kept_recv c _))
  · next h => exact (kept_of_eq h).trans (kept_recv c _)

@[simp] theorem kept_openFrame (c : Connection) :
    (tcpConnectionOpenFrame c).2.kept = c.kept := by
  unfold tcpConnectionOpenFrame
  dsimp only
  split
  · rfl
  · split
    · next h => exact (kept_of_eq h).trans (kept_recvHeader _ _)
    · next h => exact (kept_of_eq h).trans (kept_recvHeader _ _)
    · next h =>
        have hfirst := (kept_of_eq h).trans (kept_recvHeader _ _)
        split
        · next h => exact ((kept_of_eq h).trans (kept_recvHeader _ _)).trans hfirst
        · next h => exact ((kept_of_eq h).trans (kept_recvHeader _ _)).trans hfirst
        · next h => exact ((kept_of_eq h).trans (kept_recvHeader _ _)).trans hfirst

@[simp] theorem kept_bufferRecv (c : Connection) (len : Nat) :
    (tcpConnectionBufferRecv c len).2.kept = c.kept := by
  unfold tcpConnectionBufferRecv
  split
  · unfold tcpConnectionBufferRecvWebsocket
    split
    · next h => exact (kept_of_eq h).trans (kept_openFrame c)
    · next h => exact (kept_of_eq h).trans (kept_openFrame c)
    · next h =>
        rw [kept_recvPayload]
        exact (kept_of_eq h).trans (kept_openFrame c)
  · exact kept_recv c len

theorem kept_communicateRecv (c : Connection) (now : Int64) :
    (tcpConnectionCommunicateRecv c now).2.kept = c.kept := by
  unfold tcpConnectionCommunicateRecv connectionImplCommunicateRecv1
  split
  · next h =>
      split at h
      · cases h; rfl
      · cases h
  · next h =>
      split at h
      · cases h
      · cases h
        split
        · exact kept_compact c
        · dsimp only
          rw [kept_recv2, kept_bufferRecv, kept_compact]

@[simp] theorem kept_sendPayload (c : Connection) (len : Nat) :
    (tcpConnectionSendPayload c len).2.kept = c.kept := by
  unfold tcpConnectionSendPayload
  dsimp only
  split
  · rfl
  · split
    · exact kept_of_sock (kept_sendNonblocking ..) rfl
    · split
      · exact kept_of_sock (kept_sendNonblocking ..) rfl
      · exact kept_of_sock (kept_sendNonblocking ..) rfl

@[simp] theorem kept_bufferSend (c : Connection) (len : Nat) :
    (tcpConnectionBufferSend c len).2.kept = c.kept := by
  unfold tcpConnectionBufferSend
  split
  · unfold tcpConnectionBufferSendWebsocket
    dsimp only
    have hframe : (if c.transportStorage.sendWebsocketFrameLen = 0 ∧ len > 0 then
        tcpConnectionPrepareFrame c len else c).kept = c.kept := by
      split <;> rfl
    split
    · next h => exact ((kept_of_eq h).trans (kept_sendHeader _)).trans hframe
    · next h => exact ((kept_of_eq h).trans (kept_sendHeader _)).trans hframe
    · next h =>
        rw [kept_sendPayload]
        exact ((kept_of_eq h).trans (kept_sendHeader _)).trans hframe
  · exact kept_send c len

@[simp] theorem kept_send1 (c : Connection) :
    (connectionImplCommunicateSend1 c).2.kept = c.kept := by
  unfold connectionImplCommunicateSend1
  split
  · rfl
  · split
    · exact kept_clearState c (by decide)
    · split
      · exact kept_clearState c (by decide)
      · split <;> rfl

theorem kept_communicateSend (c : Connection) (now : Int64) :
    (tcpConnectionCommunicateSend c now).2.kept = c.kept := by
  unfold tcpConnectionCommunicateSend
  split
  · next h => exact (kept_of_eq h).trans (kept_send1 c)
  · next h =>
      have hsend1 := (kept_of_eq h).trans (kept_send1 c)
      split
      · exact hsend1
      · dsimp only
        rw [kept_send2, kept_bufferSend]
        exact hsend1

/-! ## The handshake -/

@[simp] theorem kept_httpHandshake (digest : TcpDigest) (c : Connection) :
    (tcpConnectionHandshakeHttpHandshake digest c).2.kept = c.kept := by
  unfold tcpConnectionHandshakeHttpHandshake
  split
  · rfl
  · dsimp only
    split
    · rfl
    · exact kept_send _ _

@[simp] theorem kept_serverHttp (digest : TcpDigest) (c : Connection) :
    (tcpConnectionHandshakeServerHttp digest c).2.kept = c.kept := by
  have hsending : ∀ d : Connection, (d.setState STATUS_FLAGS_SENDING).kept = d.kept :=
    fun d => kept_setState d (by decide)
  unfold tcpConnectionHandshakeServerHttp tcpConnectionHandshakeHttpRecvHeader
  split
  · next h => exact (kept_of_eq h).trans (kept_recvHeaderLoop _ c)
  · next h => exact (kept_setState_error _).trans ((kept_of_eq h).trans (kept_recvHeaderLoop _ c))
  · next h =>
      have hheader := (kept_of_eq h).trans (kept_recvHeaderLoop _ c)
      split
      · next h =>
          exact (kept_setState_error _).trans
            (((kept_of_eq h).trans (kept_httpHandshake digest _)).trans hheader)
      · next h =>
          have hreply := ((kept_of_eq h).trans (kept_httpHandshake digest _)).trans hheader
          dsimp only
          split
          · exact (kept_connectedWebsocket _).trans ((hsending _).trans hreply)
          · exact (hsending _).trans hreply

@[simp] theorem kept_serverFirst (digest : TcpDigest) (c : Connection) :
    (tcpConnectionHandshakeServerFirst digest c).2.kept = c.kept := by
  unfold tcpConnectionHandshakeServerFirst
  split
  · exact (kept_clearState _ (by decide)).trans (kept_setState _ (by decide))
  · split
    · rw [kept_serverHttp, kept_withStorage]
    · rfl

@[simp] theorem kept_server (digest : TcpDigest) (c : Connection) :
    (tcpConnectionHandshakeServer digest c).2.kept = c.kept := by
  unfold tcpConnectionHandshakeServer
  split
  · rfl
  · split
    · split
      · next h => exact (kept_of_eq h).trans (kept_send c _)
      · next h => exact (kept_setState_error _).trans ((kept_of_eq h).trans (kept_send c _))
      · next h =>
          have hsend := (kept_of_eq h).trans (kept_send c _)
          split
          · exact hsend
          · exact (kept_connectedWebsocket _).trans hsend
    · split
      · split
        · next h => exact (kept_setState_error _).trans ((kept_of_eq h).trans (kept_recv c _))
        · next h =>
            have hrecv := (kept_of_eq h).trans (kept_recv c _)
            split
            · exact hrecv
            · rw [kept_serverFirst]
              exact hrecv
      · exact kept_serverFirst digest c

theorem kept_handshake (digest : TcpDigest) (c : Connection) :
    (tcpConnectionHandshake digest c).2.kept = c.kept := by
  unfold tcpConnectionHandshake
  split
  · rfl
  · split
    · exact kept_server digest c
    · unfold tcpConnectionHandshakeClient
      split
      · rfl
      · split
        · rfl
        · split
          · split
            · next h => exact (kept_setState_error _).trans ((kept_of_eq h).trans (kept_send c _))
            · next h =>
                have hsend := (kept_of_eq h).trans (kept_send c _)
                split
                · exact (kept_setState _ (by decide)).trans hsend
                · rw [kept_clientReply]
                  exact hsend
          · exact kept_clientReply c

end

end RobotRaconteurLite

import RobotRaconteurLite.Proofs.Sockets

/-!
# Hard failures are latched

The connection lists throw the status of a transport call away, so a connection
that failed for good has to say so in its own flags. Every exit of the receive
and the send path does. Of the control path three do not: a server whose peer
starts with neither `RRAC` nor `GET `, a client whose answer is not `HTTP/1.1
101`, and a client whose connect failed, where the flag goes into the word of
configuration flags.
-/

namespace RobotRaconteurLite

open Splice

/-- A failure other than `RETRY` and `CONSUMED` leaves the connection in error. -/
def Latched {α : Type} : Result α × Connection → Prop
  | (.ok _, _) => True
  | (.error e, c) => e = .retry ∨ e = .consumed ∨ c.checkState STATUS_FLAGS_ERROR = true

theorem Latched.of_error {α : Type} {x : Result α × Connection}
    (h : x.2.checkState STATUS_FLAGS_ERROR = true) : Latched x := by
  obtain ⟨rv, c⟩ := x
  cases rv with
  | ok a => trivial
  | error e => exact Or.inr (Or.inr h)

theorem latched_error_iff {α : Type} {e : Status} {c : Connection} (hr : e ≠ .retry)
    (hc : e ≠ .consumed) :
    Latched ((.error e, c) : Result α × Connection) ↔
      c.checkState STATUS_FLAGS_ERROR = true := by
  constructor
  · rintro (h | h | h)
    · exact absurd h hr
    · exact absurd h hc
    · exact h
  · exact fun h => Or.inr (Or.inr h)

theorem setState_error (c : Connection) :
    (c.setState STATUS_FLAGS_ERROR).checkState STATUS_FLAGS_ERROR = true :=
  Connection.checkState_setState_of_overlap (by decide)

theorem failReceive_error (c : Connection) :
    c.failReceive.checkState STATUS_FLAGS_ERROR = true := by
  rw [Connection.failReceive, Connection.checkState_clearState (by decide)]
  exact setState_error c

/-! ## What the control path leaves alone -/

/-- The connection was accepted, not opened. -/
def Connection.isServer (c : Connection) : Bool :=
  flagsCheck c.configFlags CONFIG_FLAGS_ISSERVER

/-- A step that leaves what the end of the control path looks at. -/
structure KeepsControl (c c' : Connection) : Prop where
  configFlags : c'.configFlags = c.configFlags
  pollPlan : c'.sock.pollPlan = c.sock.pollPlan
  error : c'.checkState STATUS_FLAGS_ERROR = c.checkState STATUS_FLAGS_ERROR
  connected : c'.checkState STATUS_FLAGS_CLIENT_SOCKET_CONNECTED =
    c.checkState STATUS_FLAGS_CLIENT_SOCKET_CONNECTED

theorem KeepsControl.refl (c : Connection) : KeepsControl c c := ⟨rfl, rfl, rfl, rfl⟩

theorem KeepsControl.trans {c c' c'' : Connection} (h : KeepsControl c c')
    (h' : KeepsControl c' c'') : KeepsControl c c'' :=
  ⟨h'.1.trans h.1, h'.2.trans h.2, h'.3.trans h.3, h'.4.trans h.4⟩

theorem KeepsControl.isServer {c c' : Connection} (h : KeepsControl c c') :
    c'.isServer = c.isServer := by
  rw [Connection.isServer, Connection.isServer, h.configFlags]

theorem KeepsControl.recv (c : Connection) (len : Nat) :
    KeepsControl c (tcpConnectionRecv c len).2 := by
  obtain ⟨sock, hspec, heq⟩ := tcpConnectionRecv_spec c len
  rw [heq]
  exact ⟨rfl, hspec.pollPlan_eq, rfl, rfl⟩

theorem KeepsControl.send (c : Connection) (len : Nat) :
    KeepsControl c (tcpConnectionSend c len).2 := by
  obtain ⟨sock, hspec, heq⟩ := tcpConnectionSend_spec c len
  rw [heq]
  exact ⟨rfl, hspec.pollPlan_eq, rfl, rfl⟩

/-- A step that only clears flags the end does not look at. -/
theorem KeepsControl.clearState (c : Connection) {m : BitVec 32}
    (he : m &&& STATUS_FLAGS_ERROR = 0#32)
    (hc : m &&& STATUS_FLAGS_CLIENT_SOCKET_CONNECTED = 0#32) :
    KeepsControl c (c.clearState m) :=
  ⟨rfl, rfl, Connection.checkState_clearState he, Connection.checkState_clearState hc⟩

theorem KeepsControl.setState (c : Connection) {m : BitVec 32}
    (he : m &&& STATUS_FLAGS_ERROR = 0#32)
    (hc : m &&& STATUS_FLAGS_CLIENT_SOCKET_CONNECTED = 0#32) :
    KeepsControl c (c.setState m) :=
  ⟨rfl, rfl, Connection.checkState_setState he, Connection.checkState_setState hc⟩

theorem KeepsControl.connectedWebsocket (c : Connection) :
    KeepsControl c c.connectedWebsocket := by
  have hset := KeepsControl.setState c
    (m := STATUS_FLAGS_CONNECTED ||| STATUS_FLAGS_RECEIVE_REQUESTED) (by decide) (by decide)
  have hclear := KeepsControl.clearState
    (c.setState (STATUS_FLAGS_CONNECTED ||| STATUS_FLAGS_RECEIVE_REQUESTED))
    (m := STATUS_FLAGS_CONNECTING ||| STATUS_FLAGS_BLOCK_SEND ||| STATUS_FLAGS_SENDING |||
      STATUS_FLAGS_SEND_REQUESTED) (by decide) (by decide)
  obtain ⟨h1, h2, h3, h4⟩ := hset.trans hclear
  exact ⟨h1, h2, h3, h4⟩

/-- A server receives the first bytes of its peer. -/
def tcpConnectionFirstBytes (c : Connection) : Result Unit × Connection :=
  if c.recvBufferPos < 4 then tcpConnectionRecv c 4 else (.ok (), c)

theorem KeepsControl.firstBytes (c : Connection) :
    KeepsControl c (tcpConnectionFirstBytes c).2 := by
  unfold tcpConnectionFirstBytes
  split
  · exact KeepsControl.recv c 4
  · exact KeepsControl.refl c

/-- A complete header leaves the flags as they were. -/
theorem KeepsControl.recvHeaderLoop {fuel : Nat} {c c' : Connection}
    (h : tcpConnectionHandshakeHttpRecvHeaderLoop fuel c = (.ok (), c')) :
    KeepsControl c c' := by
  induction fuel generalizing c with
  | zero =>
      rw [tcpConnectionHandshakeHttpRecvHeaderLoop] at h
      cases h
  | succ fuel ih =>
      have hrecv := KeepsControl.recv c (c.recvBufferPos + 1)
      rw [tcpConnectionHandshakeHttpRecvHeaderLoop] at h
      split at h
      · cases h
      · dsimp only at h
        revert h hrecv
        cases tcpConnectionRecv c (c.recvBufferPos + 1) with
        | mk rv c₁ =>
            intro hrecv h
            cases rv with
            | error e => cases h
            | ok u =>
                dsimp only at h
                split at h
                · cases h
                · split at h
                  · obtain ⟨-, rfl⟩ := Prod.mk.inj h
                    exact hrecv
                  · exact hrecv.trans (ih h)

theorem recvHeader_config (fuel : Nat) (c : Connection) :
    (tcpConnectionHandshakeHttpRecvHeaderLoop fuel c).2.configFlags = c.configFlags := by
  induction fuel generalizing c with
  | zero => rfl
  | succ fuel ih =>
      have hrecv := (KeepsControl.recv c (c.recvBufferPos + 1)).configFlags
      rw [tcpConnectionHandshakeHttpRecvHeaderLoop]
      split
      · rfl
      · dsimp only
        revert hrecv
        cases tcpConnectionRecv c (c.recvBufferPos + 1) with
        | mk rv c₁ =>
            intro hrecv
            cases rv with
            | error e => exact hrecv
            | ok u =>
                dsimp only
                split
                · exact hrecv
                · split
                  · exact hrecv
                  · exact (ih c₁).trans hrecv

/-! ## The answer to a client -/

/-- The check at the end of the control path. -/
theorem tcpConnectionCheckConnected_latched_iff (c : Connection) :
    Latched (tcpConnectionCheckConnected c) ↔
      (c.isServer = false ∧ c.checkState STATUS_FLAGS_CLIENT_SOCKET_CONNECTED = false ∧
        c.sock.pollPlan.head? ∈ [some .failed, some .error, some .other]) →
      c.checkState STATUS_FLAGS_ERROR = true := by
  unfold tcpConnectionCheckConnected
  by_cases hwait : ¬ flagsCheck c.configFlags CONFIG_FLAGS_ISSERVER = true ∧
      ¬ c.checkState STATUS_FLAGS_CLIENT_SOCKET_CONNECTED = true
  · rw [if_pos hwait]
    have hclient : c.isServer = false := by simpa [Connection.isServer] using hwait.1
    have hnot : c.checkState STATUS_FLAGS_CLIENT_SOCKET_CONNECTED = false := by
      simpa using hwait.2
    simp only [hclient, hnot, true_and]
    unfold tcpSocketIsConnectionComplete
    cases hplan : c.sock.pollPlan with
    | nil => exact iff_of_true (Or.inl rfl) fun h => absurd h (by decide)
    | cons outcome plan =>
        cases outcome with
        | timeout => exact iff_of_true (Or.inl rfl) fun h => absurd h (by simp)
        | writable => exact iff_of_true trivial fun h => absurd h (by simp)
        | failed =>
            exact (latched_error_iff (by decide) (by decide)).trans
              ⟨fun h _ => h, fun h => h (by simp)⟩
        | error =>
            exact (latched_error_iff (by decide) (by decide)).trans
              ⟨fun h _ => h, fun h => h (by simp)⟩
        | other =>
            exact (latched_error_iff (by decide) (by decide)).trans
              ⟨fun h _ => h, fun h => h (by simp)⟩
  · rw [if_neg hwait]
    refine iff_of_true trivial ?_
    rintro ⟨hclient, hnot, -⟩
    refine absurd ⟨?_, ?_⟩ hwait
    · simpa [Connection.isServer] using hclient
    · simpa using hnot

/-! ## Receiving and sending -/

theorem connectionImplCommunicateRecv2_latched (c : Connection) (now : Int64)
    (recvOpRv : Result Unit) : Latched (connectionImplCommunicateRecv2 c now recvOpRv) := by
  unfold connectionImplCommunicateRecv2
  split
  · exact Latched.of_error (failReceive_error c)
  · split
    · next c' _ => exact Latched.of_error (failReceive_error c')
    · dsimp only
      split <;> trivial

theorem connectionImplCommunicateSend2_latched (c : Connection) (now : Int64)
    (sendOpRv : Result Unit) : Latched (connectionImplCommunicateSend2 c now sendOpRv) := by
  unfold connectionImplCommunicateSend2
  split
  · exact Latched.of_error (setState_error c)
  · split <;> trivial

section

variable [SizeT]

theorem tcpConnectionCommunicateRecv_latched (c : Connection) (now : Int64) :
    Latched (tcpConnectionCommunicateRecv c now) := by
  unfold tcpConnectionCommunicateRecv connectionImplCommunicateRecv1
  by_cases herror : c.checkState STATUS_FLAGS_ERROR = true
  · rw [if_pos herror]
    exact Latched.of_error herror
  · rw [if_neg herror]
    dsimp only
    split
    · trivial
    · exact connectionImplCommunicateRecv2_latched _ now _

theorem tcpConnectionCommunicateSend_latched (c : Connection) (now : Int64) :
    Latched (tcpConnectionCommunicateSend c now) := by
  unfold tcpConnectionCommunicateSend
  cases hsend : connectionImplCommunicateSend1 c with
  | mk rv c' =>
      cases rv with
      | error e =>
          unfold connectionImplCommunicateSend1 at hsend
          split at hsend
          · next herror =>
              obtain ⟨-, rfl⟩ := Prod.mk.inj hsend
              exact Latched.of_error herror
          · split at hsend
            · cases hsend
            · split at hsend
              · cases hsend
              · split at hsend <;> cases hsend
      | ok sendOpLen =>
          dsimp only
          split
          · trivial
          · exact connectionImplCommunicateSend2_latched _ now _

/-! ## The three exits -/

/-- The control call has a connection to look after: it is of this transport,
neither closed nor idle, and nobody asked to close it. -/
structure Connection.Handled (c : Connection) : Prop where
  transport : c.transportType = TCP_TRANSPORT
  notConsumed : c.checkState STATUS_FLAGS_CLOSED_CONSUMED = false
  notClosed : c.checkState (STATUS_FLAGS_CLOSED ||| STATUS_FLAGS_IDLE) = false
  notClosing : c.checkState (STATUS_FLAGS_CLOSE_REQUESTED ||| STATUS_FLAGS_CLOSING) = false

/-- A server that waits for its peer has four bytes and knows no protocol that
starts like that. -/
structure UnknownProtocol (c c' : Connection) : Prop where
  server : c.isServer = true
  connecting : c.checkState STATUS_FLAGS_CONNECTING = true
  nothingQueued : c.sendMessageLen = 0
  received : tcpConnectionFirstBytes c = (.ok (), c')
  four : 4 ≤ c'.recvBufferPos
  notMessage : slice c'.recvBuffer 0 4 ≠ rracMagic
  notRequest : slice c'.recvBuffer 0 4 ≠ HTTP_GET

/-- A client sends what is left of its request. -/
def tcpConnectionRequestOut (c : Connection) : Result Unit × Connection :=
  if c.sendMessageLen > 0 then
    tcpConnectionSend c (subSz c.sendMessageLen.toNat c.sendBufferPos)
  else (.ok (), c)

/-- A client's request is out and the header of the answer is in. -/
structure Answered (c c' : Connection) : Prop where
  client : c.isServer = false
  connecting : c.checkState STATUS_FLAGS_CONNECTING = true
  websocket : c.transportStorage.checkState TCP_TRANSPORT_STATE_IS_WEBSOCKET = true
  received : ∃ c₁, tcpConnectionRequestOut c = (.ok (), c₁) ∧
    (c₁.sendMessageLen > 0 → c₁.sendMessageLen.toNat ≤ c₁.sendBufferPos) ∧
    tcpConnectionHandshakeHttpRecvHeader (c₁.clearState STATUS_FLAGS_SENDING) = (.ok (), c')

/-- The handshake is over, or there is none. -/
def HandshakeOver (c : Connection) : Prop :=
  c.checkState STATUS_FLAGS_CONNECTING = false ∨
    c.transportStorage.checkState TCP_TRANSPORT_STATE_IS_WEBSOCKET = false ∨
    ∃ c', Answered c c' ∧ slice c'.recvBuffer 0 12 = HTTP_UPGRADED

/-- A client that asks whether its socket is connected learns that it is not. -/
structure ConnectFailed (c : Connection) : Prop where
  client : c.isServer = false
  notConnected : c.checkState STATUS_FLAGS_CLIENT_SOCKET_CONNECTED = false
  handshakeOver : HandshakeOver c
  failed : c.sock.pollPlan.head? ∈ [some .failed, some .error, some .other]

/-- The exits of the control path that flag nothing. -/
inductive UnflaggedExit (c : Connection) : Prop
  | unknownProtocol {c' : Connection} (h : UnknownProtocol c c')
  | notUpgraded {c' : Connection} (h : Answered c c')
      (refused : slice c'.recvBuffer 0 12 ≠ HTTP_UPGRADED)
  | connectFailed (h : ConnectFailed c)

/-! ## The control path -/

theorem processControl_handled (digest : TcpDigest) {c : Connection} (h : c.Handled) :
    tcpConnectionCommunicateProcessControl digest c =
      match tcpConnectionHandshake digest c with
      | (.error e, c) => (.error e, c)
      | (.ok (), c) => tcpConnectionCheckConnected c := by
  have hresult : connectionImplCommunicateProcessControl c TCP_TRANSPORT = (.ok false, c) := by
    rw [connectionImplCommunicateProcessControl, if_neg (not_not_intro h.transport)]
    simp only [h.notConsumed, h.notClosed, h.notClosing, Bool.false_eq_true, if_false]
  rewrite [tcpConnectionCommunicateProcessControl, hresult]
  rfl

theorem processControl_not_handled (digest : TcpDigest) {c : Connection} (h : ¬ c.Handled) :
    Latched (tcpConnectionCommunicateProcessControl digest c) := by
  unfold tcpConnectionCommunicateProcessControl connectionImplCommunicateProcessControl
  by_cases htransport : c.transportType = TCP_TRANSPORT
  · rw [if_neg (not_not_intro htransport)]
    dsimp only
    by_cases hreset : c.checkState STATUS_FLAGS_CLOSED_CONSUMED = true
    · rw [if_pos hreset]
      have hidle : (connectionReset c).checkState
          (STATUS_FLAGS_CLOSED ||| STATUS_FLAGS_IDLE) = true := by
        show flagsCheck STATUS_FLAGS_IDLE (STATUS_FLAGS_CLOSED ||| STATUS_FLAGS_IDLE) = true
        decide
      rw [if_pos hidle]
      exact Or.inr (Or.inl rfl)
    · rw [if_neg hreset]
      by_cases hclosed : c.checkState (STATUS_FLAGS_CLOSED ||| STATUS_FLAGS_IDLE) = true
      · rw [if_pos hclosed]
        exact Or.inr (Or.inl rfl)
      · rw [if_neg hclosed]
        have hclosing : c.checkState (STATUS_FLAGS_CLOSE_REQUESTED ||| STATUS_FLAGS_CLOSING) =
            true := by
          by_contra hne
          exact h ⟨htransport, by simpa using hreset, by simpa using hclosed, by simpa using hne⟩
        dsimp only
        rw [if_pos hclosing]
        trivial
  · rw [if_pos htransport]
    exact Or.inr (Or.inl rfl)

theorem KeepsControl.requestOut (c : Connection) :
    KeepsControl c (tcpConnectionRequestOut c).2 := by
  unfold tcpConnectionRequestOut
  split
  · exact KeepsControl.send c _
  · exact KeepsControl.refl c

/-! ## The server -/

theorem tcpConnectionHandshakeServerHttp_latched (digest : TcpDigest) (c : Connection) :
    Latched (tcpConnectionHandshakeServerHttp digest c) := by
  unfold tcpConnectionHandshakeServerHttp
  split
  · exact Or.inl rfl
  · exact Latched.of_error (setState_error _)
  · split
    · exact Latched.of_error (setState_error _)
    · dsimp only
      split
      · trivial
      · exact Or.inr (Or.inl rfl)

theorem tcpConnectionHandshakeServer_eq (digest : TcpDigest) {c : Connection}
    (hc : c.checkState STATUS_FLAGS_CONNECTING = true) (hsend : c.sendMessageLen = 0) :
    tcpConnectionHandshakeServer digest c =
      match tcpConnectionFirstBytes c with
      | (.error e, c) => (.error e, c.setState STATUS_FLAGS_ERROR)
      | (.ok (), c) =>
          if c.recvBufferPos < 4 then (.error .consumed, c)
          else tcpConnectionHandshakeServerFirst digest c := by
  rw [tcpConnectionHandshakeServer, if_neg (not_not_intro hc), if_neg (by rw [hsend]; decide),
    tcpConnectionFirstBytes]
  by_cases hfour : c.recvBufferPos < 4
  · rewrite [if_pos hfour, if_pos hfour]
    rfl
  · rewrite [if_neg hfour, if_neg hfour]
    dsimp only
    rewrite [if_neg hfour]
    rfl

theorem tcpConnectionHandshakeServer_latched_iff (digest : TcpDigest) {c : Connection}
    (hs : c.isServer = true) (hc : c.checkState STATUS_FLAGS_CONNECTING = true) :
    Latched (tcpConnectionHandshakeServer digest c) ↔
      (∃ c', UnknownProtocol c c') → c.checkState STATUS_FLAGS_ERROR = true := by
  by_cases hsend : c.sendMessageLen = 0
  · rw [tcpConnectionHandshakeServer_eq digest hc hsend]
    have hkeeps := KeepsControl.firstBytes c
    cases hfirst : tcpConnectionFirstBytes c with
    | mk rv c' =>
        rw [hfirst] at hkeeps
        cases rv with
        | error e =>
            refine iff_of_true (Latched.of_error (setState_error c')) ?_
            rintro ⟨c'', h⟩
            have hok := hfirst.symm.trans h.received
            cases hok
        | ok u =>
            dsimp only
            split
            · next hfour =>
                refine iff_of_true (Or.inr (Or.inl rfl)) ?_
                rintro ⟨c'', h⟩
                have hok := hfirst.symm.trans h.received
                obtain ⟨-, rfl⟩ := Prod.mk.inj hok
                have := h.four
                omega
            · next hfour =>
                unfold tcpConnectionHandshakeServerFirst
                by_cases hrrac : slice c'.recvBuffer 0 4 = rracMagic
                · rw [if_pos hrrac]
                  refine iff_of_true trivial ?_
                  rintro ⟨c'', h⟩
                  have hok := hfirst.symm.trans h.received
                  obtain ⟨-, rfl⟩ := Prod.mk.inj hok
                  exact absurd hrrac h.notMessage
                · rw [if_neg hrrac]
                  by_cases hget : slice c'.recvBuffer 0 4 = HTTP_GET
                  · rw [if_pos hget]
                    refine iff_of_true (tcpConnectionHandshakeServerHttp_latched digest _) ?_
                    rintro ⟨c'', h⟩
                    have hok := hfirst.symm.trans h.received
                    obtain ⟨-, rfl⟩ := Prod.mk.inj hok
                    exact absurd hget h.notRequest
                  · rw [if_neg hget]
                    have hunknown : UnknownProtocol c c' :=
                      ⟨hs, hc, hsend, hfirst, by omega, hrrac, hget⟩
                    rw [latched_error_iff (by decide) (by decide), hkeeps.error]
                    exact ⟨fun h _ => h, fun h => h ⟨c', hunknown⟩⟩
  · refine iff_of_true ?_ fun ⟨c', h⟩ => absurd h.nothingQueued hsend
    have hpos : c.sendMessageLen > 0 := by
      rw [gt_iff_lt, UInt32.lt_iff_toNat_lt]
      have : c.sendMessageLen.toNat ≠ 0 := fun h => hsend (UInt32.toNat_inj.mp h)
      exact Nat.pos_of_ne_zero this
    rw [tcpConnectionHandshakeServer, if_neg (not_not_intro hc), if_pos hpos]
    split
    · exact Or.inl rfl
    · exact Latched.of_error (setState_error _)
    · split
      · exact Or.inr (Or.inl rfl)
      · trivial

theorem tcpConnectionHandshakeHttpHandshake_config (digest : TcpDigest) (c : Connection) :
    (tcpConnectionHandshakeHttpHandshake digest c).2.configFlags = c.configFlags := by
  unfold tcpConnectionHandshakeHttpHandshake
  split
  · rfl
  · dsimp only
    split
    · rfl
    · rw [(KeepsControl.send _ _).configFlags]

theorem tcpConnectionHandshakeServerHttp_config (digest : TcpDigest) (c : Connection) :
    (tcpConnectionHandshakeServerHttp digest c).2.configFlags = c.configFlags := by
  have hheader := recvHeader_config (c.recvBufferLen - c.recvBufferPos + 1) c
  unfold tcpConnectionHandshakeServerHttp tcpConnectionHandshakeHttpRecvHeader
  revert hheader
  cases tcpConnectionHandshakeHttpRecvHeaderLoop (c.recvBufferLen - c.recvBufferPos + 1) c with
  | mk rv c₁ =>
      intro hheader
      split
      · next h => cases h; exact hheader
      · next h => cases h; exact hheader
      · next h =>
          cases h
          have hhttp := tcpConnectionHandshakeHttpHandshake_config digest c₁
          revert hhttp
          cases tcpConnectionHandshakeHttpHandshake digest c₁ with
          | mk rv c₂ =>
              intro hhttp
              cases rv with
              | error e => exact hhttp.trans hheader
              | ok u =>
                  dsimp only
                  split <;> exact hhttp.trans hheader

theorem tcpConnectionHandshakeServerFirst_config (digest : TcpDigest) (c : Connection) :
    (tcpConnectionHandshakeServerFirst digest c).2.configFlags = c.configFlags := by
  unfold tcpConnectionHandshakeServerFirst
  split
  · rfl
  · split
    · rw [tcpConnectionHandshakeServerHttp_config]
      rfl
    · rfl

theorem tcpConnectionHandshakeServer_config (digest : TcpDigest) (c : Connection) :
    (tcpConnectionHandshakeServer digest c).2.configFlags = c.configFlags := by
  unfold tcpConnectionHandshakeServer
  split
  · rfl
  · split
    · have hsend := (KeepsControl.send c
        (subSz c.sendMessageLen.toNat c.sendBufferPos)).configFlags
      revert hsend
      cases tcpConnectionSend c (subSz c.sendMessageLen.toNat c.sendBufferPos) with
      | mk rv c₁ =>
          intro hsend
          split
          · next h => cases h; exact hsend
          · next h => cases h; exact hsend
          · next h =>
              cases h
              split <;> exact hsend
    · split
      · have hrecv := (KeepsControl.recv c 4).configFlags
        revert hrecv
        cases tcpConnectionRecv c 4 with
        | mk rv c₁ =>
            intro hrecv
            cases rv with
            | error e => exact hrecv
            | ok u =>
                dsimp only
                split
                · exact hrecv
                · exact (tcpConnectionHandshakeServerFirst_config digest c₁).trans hrecv
      · exact tcpConnectionHandshakeServerFirst_config digest c

/-! ## The client -/

theorem tcpConnectionHandshakeClient_eq {c : Connection}
    (hc : c.checkState STATUS_FLAGS_CONNECTING = true)
    (hw : c.transportStorage.checkState TCP_TRANSPORT_STATE_IS_WEBSOCKET = true) :
    tcpConnectionHandshakeClient c =
      match tcpConnectionRequestOut c with
      | (.error e, c) => (.error e, c.setState STATUS_FLAGS_ERROR)
      | (.ok (), c) =>
          if c.sendMessageLen > 0 ∧ c.sendBufferPos < c.sendMessageLen.toNat then
            (.error .consumed, c.setState STATUS_FLAGS_SENDING)
          else tcpConnectionHandshakeClientReply c := by
  rw [tcpConnectionHandshakeClient, if_neg (not_not_intro hc), if_neg (not_not_intro hw),
    tcpConnectionRequestOut]
  by_cases hsend : c.sendMessageLen > 0
  · rw [if_pos hsend, if_pos hsend]
    obtain ⟨sock, -, heq⟩ := tcpConnectionSend_spec c
      (subSz c.sendMessageLen.toNat c.sendBufferPos)
    revert heq
    cases tcpConnectionSend c (subSz c.sendMessageLen.toNat c.sendBufferPos) with
    | mk rv c₁ =>
        intro heq
        have hlen : c₁.sendMessageLen = c.sendMessageLen := by
          have := congrArg Connection.sendMessageLen heq
          exact this
        cases rv with
        | error e => rfl
        | ok u =>
            dsimp only
            rw [hlen]
            simp only [hsend, true_and]
  · rw [if_neg hsend, if_neg hsend]
    dsimp only
    rw [if_neg (fun h => hsend h.1)]

/-- The client's end of the control path, once its handshake is over. -/
theorem checkConnected_latched_iff {c c' : Connection} (hkeeps : KeepsControl c c')
    (hover : HandshakeOver c) :
    Latched (tcpConnectionCheckConnected c') ↔
      (ConnectFailed c → c.checkState STATUS_FLAGS_ERROR = true) := by
  rw [tcpConnectionCheckConnected_latched_iff, hkeeps.isServer, hkeeps.connected,
    hkeeps.pollPlan, hkeeps.error]
  constructor
  · exact fun h hf => h ⟨hf.client, hf.notConnected, hf.failed⟩
  · exact fun h ⟨hclient, hnot, hpoll⟩ => h ⟨hclient, hnot, hover, hpoll⟩

/-- The control path after a handshake. -/
def controlAfter : Result Unit × Connection → Result Unit × Connection
  | (.error e, c) => (.error e, c)
  | (.ok (), c) => tcpConnectionCheckConnected c

theorem clientControl_latched_iff {c : Connection} (hs : c.isServer = false)
    (hc : c.checkState STATUS_FLAGS_CONNECTING = true)
    (hw : c.transportStorage.checkState TCP_TRANSPORT_STATE_IS_WEBSOCKET = true) :
    Latched (controlAfter (tcpConnectionHandshakeClient c)) ↔
      ((∃ c', Answered c c' ∧ slice c'.recvBuffer 0 12 ≠ HTTP_UPGRADED) ∨ ConnectFailed c →
        c.checkState STATUS_FLAGS_ERROR = true) := by
  rw [tcpConnectionHandshakeClient_eq hc hw]
  have hkeeps := KeepsControl.requestOut c
  -- Without an answer neither exit is open.
  have hclosed (hnone : ∀ c', ¬ Answered c c') :
      ¬ ((∃ c', Answered c c' ∧ slice c'.recvBuffer 0 12 ≠ HTTP_UPGRADED) ∨
        ConnectFailed c) := by
    rintro (⟨c', h, -⟩ | h)
    · exact hnone c' h
    · obtain hnot | hnot | ⟨c', h, -⟩ := h.handshakeOver
      · rw [hc] at hnot
        cases hnot
      · rw [hw] at hnot
        cases hnot
      · exact hnone c' h
  cases hout : tcpConnectionRequestOut c with
  | mk rv c₁ =>
      rw [hout] at hkeeps
      cases rv with
      | error e =>
          refine iff_of_true (Latched.of_error (setState_error c₁)) fun h => absurd h (hclosed ?_)
          rintro c' ⟨-, -, -, c₂, hok, -⟩
          cases hout.symm.trans hok
      | ok u =>
          dsimp only
          by_cases hunsent : c₁.sendMessageLen > 0 ∧ c₁.sendBufferPos < c₁.sendMessageLen.toNat
          · rw [if_pos hunsent]
            refine iff_of_true (Or.inr (Or.inl rfl)) fun h => absurd h (hclosed ?_)
            rintro c' ⟨-, -, -, c₂, hok, hsent, -⟩
            obtain ⟨-, rfl⟩ := Prod.mk.inj (hout.symm.trans hok)
            have := hsent hunsent.1
            omega
          · rw [if_neg hunsent]
            have hsent : c₁.sendMessageLen > 0 → c₁.sendMessageLen.toNat ≤ c₁.sendBufferPos :=
              fun h => Nat.le_of_not_lt fun hlt => hunsent ⟨h, hlt⟩
            have hanswer (c' : Connection) : Answered c c' ↔
                tcpConnectionHandshakeHttpRecvHeader (c₁.clearState STATUS_FLAGS_SENDING) =
                  (.ok (), c') := by
              constructor
              · rintro ⟨-, -, -, c₂, hok, -, h⟩
                obtain ⟨-, rfl⟩ := Prod.mk.inj (hout.symm.trans hok)
                exact h
              · exact fun h => ⟨hs, hc, hw, c₁, hout, hsent, h⟩
            unfold tcpConnectionHandshakeClientReply
            cases hreply : tcpConnectionHandshakeHttpRecvHeader
              (c₁.clearState STATUS_FLAGS_SENDING) with
            | mk rv c₂ =>
                cases rv with
                | error e =>
                    refine iff_of_true ?_ fun h => absurd h (hclosed ?_)
                    · split
                      · exact Or.inl rfl
                      · exact Or.inr (Or.inl rfl)
                      · exact Latched.of_error (setState_error _)
                      · next h => cases h
                    · intro c' h
                      cases hreply.symm.trans ((hanswer c').mp h)
                | ok u =>
                    have hall : KeepsControl c c₂ :=
                      (hkeeps.trans (KeepsControl.clearState c₁ (by decide) (by decide))).trans
                        (KeepsControl.recvHeaderLoop hreply)
                    have hans : Answered c c₂ := (hanswer c₂).mpr hreply
                    have hunique {c' : Connection} (h : Answered c c') : c' = c₂ :=
                      (Prod.mk.inj (((hanswer c').mp h).symm.trans hreply)).2
                    dsimp only
                    by_cases hup : slice c₂.recvBuffer 0 12 = HTTP_UPGRADED
                    · rw [if_neg (not_not_intro hup)]
                      have hdone : HandshakeOver c := Or.inr (Or.inr ⟨c₂, hans, hup⟩)
                      obtain ⟨h1, h2, h3, h4⟩ := hall.trans (KeepsControl.connectedWebsocket c₂)
                      have hend : KeepsControl c { c₂.connectedWebsocket with
                          transportStorage := c₂.connectedWebsocket.transportStorage.clearState
                            TCP_TRANSPORT_STATE_IN_HTTP_HEADER
                          recvBufferPos := 0
                          recvMessageLen := 0 } := ⟨h1, h2, h3, h4⟩
                      refine (checkConnected_latched_iff hend hdone).trans ?_
                      constructor
                      · rintro h (⟨c', h', hne⟩ | hf)
                        · rw [hunique h'] at hne
                          exact absurd hup hne
                        · exact h hf
                      · exact fun h hf => h (Or.inr hf)
                    · rw [if_pos hup]
                      refine (latched_error_iff (by decide) (by decide)).trans ?_
                      rw [hall.error]
                      exact ⟨fun h _ => h, fun h => h (Or.inl ⟨c₂, hans, hup⟩)⟩

/-- A hard failure of the three transport calls goes unflagged exactly at the three
exits of the control path. -/
theorem hardFailures_latched_iff (digest : TcpDigest) (c : Connection) (now : Int64) :
    (Latched (tcpConnectionCommunicateProcessControl digest c) ∧
      Latched (tcpConnectionCommunicateRecv c now) ∧
      Latched (tcpConnectionCommunicateSend c now)) ↔
    (c.Handled → UnflaggedExit c → c.checkState STATUS_FLAGS_ERROR = true) := by
  refine (and_iff_left ⟨tcpConnectionCommunicateRecv_latched c now,
    tcpConnectionCommunicateSend_latched c now⟩).trans ?_
  by_cases hh : c.Handled
  · have hafter : tcpConnectionCommunicateProcessControl digest c =
        controlAfter (tcpConnectionHandshake digest c) := by
      rw [processControl_handled digest hh]
      rfl
    rw [hafter]
    refine Iff.trans ?_ ⟨fun h _ => h, fun h => h hh⟩
    unfold tcpConnectionHandshake
    by_cases hc : c.checkState STATUS_FLAGS_CONNECTING = true
    · rw [if_neg (not_not_intro hc)]
      by_cases hs : c.isServer = true
      · rw [if_pos (show flagsCheck c.configFlags CONFIG_FLAGS_ISSERVER = true from hs)]
        -- A server only has the first exit, and its end of the path never fails.
        have hserver : Latched (controlAfter (tcpConnectionHandshakeServer digest c)) ↔
            Latched (tcpConnectionHandshakeServer digest c) := by
          have hconfig := tcpConnectionHandshakeServer_config digest c
          revert hconfig
          cases tcpConnectionHandshakeServer digest c with
          | mk rv c' =>
              intro hconfig
              cases rv with
              | error e => rfl
              | ok u =>
                  refine iff_of_true ?_ trivial
                  refine (tcpConnectionCheckConnected_latched_iff c').mpr ?_
                  rintro ⟨hclient, -, -⟩
                  rw [Connection.isServer, hconfig] at hclient
                  cases hs.symm.trans hclient
        rw [hserver, tcpConnectionHandshakeServer_latched_iff digest hs hc]
        constructor
        · rintro h (h' | ⟨h', -⟩ | h')
          · exact h ⟨_, h'⟩
          · cases hs.symm.trans h'.client
          · cases hs.symm.trans h'.client
        · rintro h ⟨c', h'⟩
          exact h (.unknownProtocol h')
      · have hclient : c.isServer = false := by simpa using hs
        rw [if_neg (show ¬ flagsCheck c.configFlags CONFIG_FLAGS_ISSERVER = true from hs)]
        by_cases hw : c.transportStorage.checkState TCP_TRANSPORT_STATE_IS_WEBSOCKET = true
        · rw [clientControl_latched_iff hclient hc hw]
          constructor
          · rintro h (h' | ⟨h', hne⟩ | h')
            · cases hclient.symm.trans h'.server
            · exact h (Or.inl ⟨_, h', hne⟩)
            · exact h (Or.inr h')
          · rintro h (⟨c', h', hne⟩ | h')
            · exact h (.notUpgraded h' hne)
            · exact h (.connectFailed h')
        · have hraw : c.transportStorage.checkState TCP_TRANSPORT_STATE_IS_WEBSOCKET = false := by
            simpa using hw
          rw [tcpConnectionHandshakeClient, if_neg (not_not_intro hc), if_pos hw]
          refine (checkConnected_latched_iff (KeepsControl.refl c) (Or.inr (Or.inl hraw))).trans ?_
          constructor
          · rintro h (h' | ⟨h', -⟩ | h')
            · cases hclient.symm.trans h'.server
            · exact absurd h'.websocket hw
            · exact h h'
          · exact fun h h' => h (.connectFailed h')
    · have hdone : c.checkState STATUS_FLAGS_CONNECTING = false := by simpa using hc
      rw [if_pos hc]
      refine (checkConnected_latched_iff (KeepsControl.refl c) (Or.inl hdone)).trans ?_
      constructor
      · rintro h (h' | ⟨h', -⟩ | h')
        · exact absurd h'.connecting hc
        · exact absurd h'.connecting hc
        · exact h h'
      · exact fun h h' => h (.connectFailed h')
  · exact iff_of_true (processControl_not_handled digest hh) fun h => absurd h hh

end

section

open Lp64

/-- A connection that was just accepted, with the first bytes of its peer. -/
def acceptedConnection (inbox : List UInt8) : Connection :=
  connectionImplAccept2 (connectionInit (connectionConstruct (List.replicate 8 0)
    (List.replicate 8 0))) 0 TCP_TRANSPORT ⟨0, inbox, [.ready 3], [], [], [], 3, []⟩

/-- A peer that speaks another protocol makes the call fail and flags nothing. -/
theorem acceptedConnection_unflagged :
    (tcpConnectionCommunicateProcessControl noDigest (acceptedConnection [0, 1, 2, 3])).1 =
        .error .connectionError ∧
      ¬ Latched (tcpConnectionCommunicateProcessControl noDigest
        (acceptedConnection [0, 1, 2, 3])) := by
  have hfail : (tcpConnectionCommunicateProcessControl noDigest
      (acceptedConnection [0, 1, 2, 3])).1 = .error .connectionError := by decide +kernel
  have hflag : (tcpConnectionCommunicateProcessControl noDigest
      (acceptedConnection [0, 1, 2, 3])).2.checkState STATUS_FLAGS_ERROR = false := by
    decide +kernel
  refine ⟨hfail, ?_⟩
  revert hfail hflag
  cases tcpConnectionCommunicateProcessControl noDigest (acceptedConnection [0, 1, 2, 3]) with
  | mk rv c =>
      rintro rfl hflag
      rw [latched_error_iff (by decide) (by decide)]
      rw [hflag]
      decide

end

end RobotRaconteurLite

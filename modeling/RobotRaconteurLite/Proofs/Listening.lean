import RobotRaconteurLite.Proofs.Descriptors
import RobotRaconteurLite.Proofs.FailedConnect
import RobotRaconteurLite.Proofs.NodeReceives

/-!
# A socket that is open is listened to

A connection with an open socket is still connecting, or it asks for bytes, or it
has a message to show before it asks for more, or it is broken. The transport
takes one of these flags back only when it sets another one of them, and the node
takes back only the first, on the event of a message that is still there. So
none of the steps between leaves a connection that nobody would wake up for.
-/

namespace RobotRaconteurLite

/-- The flags of a connection with an open socket. -/
def STATUS_FLAGS_LISTENING : BitVec 32 :=
  STATUS_FLAGS_CONNECTING ||| STATUS_FLAGS_RECEIVE_REQUESTED ||| STATUS_FLAGS_MESSAGE_RECEIVED |||
    STATUS_FLAGS_ERROR

/-! ## The steps of the transport -/

/-- A step that leaves one of the flags there. -/
def KeepsListening (c c' : Connection) : Prop :=
  c.checkState STATUS_FLAGS_LISTENING = true → c'.checkState STATUS_FLAGS_LISTENING = true

namespace KeepsListening

variable {c c' c'' : Connection}

theorem refl (c : Connection) : KeepsListening c c := id

theorem trans (h : KeepsListening c c') (h' : KeepsListening c' c'') : KeepsListening c c'' :=
  h' ∘ h

theorem of_eq {α : Type} {x : Result α × Connection} {rv : Result α} (h : KeepsListening c x.2)
    (hx : x = (rv, c')) : KeepsListening c c' := by
  rw [hx] at h
  exact h

/-- A step that moves bytes. -/
theorem of_state (h : c'.connectionState = c.connectionState) : KeepsListening c c' := by
  intro hc
  rw [Connection.checkState, h]
  exact hc

/-- A step that ends with one of the flags. -/
theorem of_flag {m : BitVec 32} (hm : STATUS_FLAGS_LISTENING &&& m = m)
    (h : c'.checkState m = true) : KeepsListening c c' :=
  fun _ => flagsCheck_of_subset hm h

theorem setState (c : Connection) (m : BitVec 32) : KeepsListening c (c.setState m) :=
  fun hc => flagsCheck_set_of_flagsCheck hc

theorem clearState (c : Connection) {m : BitVec 32} (h : m &&& STATUS_FLAGS_LISTENING = 0#32) :
    KeepsListening c (c.clearState m) :=
  fun hc => (Connection.checkState_clearState h).trans hc

theorem failReceive (c : Connection) : KeepsListening c c.failReceive :=
  of_flag (m := STATUS_FLAGS_ERROR) (by decide)
    ((Connection.checkState_clearState (by decide)).trans
      (Connection.checkState_setState_of_overlap (by decide)))

/-- The handshake is over, and bytes are asked for. -/
theorem connectedWebsocket (c : Connection) : KeepsListening c c.connectedWebsocket :=
  of_flag (m := STATUS_FLAGS_RECEIVE_REQUESTED) (by decide)
    ((Connection.checkState_clearState
      (c := c.setState (STATUS_FLAGS_CONNECTED ||| STATUS_FLAGS_RECEIVE_REQUESTED))
      (m := STATUS_FLAGS_CONNECTING ||| STATUS_FLAGS_BLOCK_SEND ||| STATUS_FLAGS_SENDING |||
        STATUS_FLAGS_SEND_REQUESTED) (by decide)).trans
      (Connection.checkState_setState_of_overlap (by decide)))

theorem withStorage (c : Connection) (s : TcpTransportStorage) :
    KeepsListening c (c.withStorage s) := of_state rfl

theorem recv (c : Connection) (len : Nat) : KeepsListening c (tcpConnectionRecv c len).2 :=
  of_state rfl

theorem send (c : Connection) (len : Nat) : KeepsListening c (tcpConnectionSend c len).2 :=
  of_state rfl

/-! ### Receiving -/

theorem recvHeader (c : Connection) (size : Nat) :
    KeepsListening c (tcpConnectionRecvHeader c size).2 := by
  unfold tcpConnectionRecvHeader
  dsimp only
  split
  · split
    · exact (of_state rfl).trans (setState _ _)
    · exact of_state rfl
  · exact refl c

theorem verifyPreamble (c : Connection) : KeepsListening c (connectionVerifyPreamble c).2 := by
  unfold connectionVerifyPreamble
  dsimp only
  split_ifs
  · exact failReceive c
  · exact (of_state rfl).trans (failReceive _)
  · exact of_state rfl
  · exact refl c

theorem recv2 (c : Connection) (now : Int64) (rv : Result Unit) :
    KeepsListening c (connectionImplCommunicateRecv2 c now rv).2 := by
  unfold connectionImplCommunicateRecv2
  split
  · exact failReceive c
  · split
    · exact (verifyPreamble c).of_eq ‹_› |>.trans (failReceive _)
    · next h =>
        have hverify := (verifyPreamble c).of_eq h
        dsimp only
        split
        · exact of_flag (m := STATUS_FLAGS_MESSAGE_RECEIVED) (by decide)
            (Connection.checkState_setState_of_overlap (by decide))
        · exact hverify

theorem recvHeaderLoop (fuel : Nat) (c : Connection) :
    KeepsListening c (tcpConnectionHandshakeHttpRecvHeaderLoop fuel c).2 := by
  induction fuel generalizing c with
  | zero => exact refl c
  | succ fuel ih =>
      rw [tcpConnectionHandshakeHttpRecvHeaderLoop]
      split
      · exact refl c
      · dsimp only
        split
        · next h => exact ((recv c _).of_eq h).trans (setState _ _)
        · next h =>
            have hrecv := (recv c _).of_eq h
            split
            · exact hrecv
            · split
              · exact hrecv
              · exact hrecv.trans (ih _)

theorem clientReply (c : Connection) : KeepsListening c (tcpConnectionHandshakeClientReply c).2 := by
  have hheader {rv : Result Unit} {c' : Connection}
      (h : tcpConnectionHandshakeHttpRecvHeader (c.clearState STATUS_FLAGS_SENDING) = (rv, c')) :
      KeepsListening c c' :=
    (clearState c (by decide)).trans ((recvHeaderLoop _ _).of_eq h)
  unfold tcpConnectionHandshakeClientReply
  split
  · exact hheader ‹_›
  · exact hheader ‹_›
  · exact (hheader ‹_›).trans (setState _ _)
  · next h =>
      dsimp only
      split
      · exact hheader h
      · exact ((hheader h).trans (connectedWebsocket _)).trans (of_state rfl)

variable [SizeT]

theorem compact (c : Connection) : KeepsListening c (connectionCompact c) := by
  unfold connectionCompact
  split
  · exact of_flag (m := STATUS_FLAGS_RECEIVE_REQUESTED) (by decide)
      (Connection.checkState_setState_of_overlap (by decide))
  · exact refl c

theorem openFrame (c : Connection) : KeepsListening c (tcpConnectionOpenFrame c).2 := by
  have hreset : KeepsListening c (c.withStorage (tcpStorageResetFrame c.transportStorage)) :=
    withStorage c _
  unfold tcpConnectionOpenFrame
  dsimp only
  split
  · exact hreset
  · split
    · next h => exact hreset.trans ((recvHeader _ _).of_eq h)
    · next h => exact hreset.trans ((recvHeader _ _).of_eq h)
    · next h =>
        have hfirst := hreset.trans ((recvHeader _ _).of_eq h)
        split
        · next h => exact hfirst.trans ((recvHeader _ _).of_eq h)
        · next h => exact hfirst.trans ((recvHeader _ _).of_eq h)
        · next h => exact (hfirst.trans ((recvHeader _ _).of_eq h)).trans (of_state rfl)

theorem recvPayload (c : Connection) (len : Nat) :
    KeepsListening c (tcpConnectionRecvPayload c len).2 := by
  unfold tcpConnectionRecvPayload
  split
  · next h => exact ((recv c _).of_eq h).trans (setState _ _)
  · next h => exact ((recv c _).of_eq h).trans (of_state rfl)

theorem bufferRecv (c : Connection) (len : Nat) :
    KeepsListening c (tcpConnectionBufferRecv c len).2 := by
  unfold tcpConnectionBufferRecv tcpConnectionBufferRecvWebsocket
  split
  · split
    · next h => exact (openFrame c).of_eq h
    · next h => exact (openFrame c).of_eq h
    · next h => exact ((openFrame c).of_eq h).trans (recvPayload _ _)
  · exact recv c len

theorem communicateRecv (c : Connection) (now : Int64) :
    KeepsListening c (tcpConnectionCommunicateRecv c now).2 := by
  unfold tcpConnectionCommunicateRecv connectionImplCommunicateRecv1
  split
  · next h =>
      split at h
      · cases h
        exact refl _
      · cases h
  · next h =>
      split at h
      · cases h
      · cases h
        dsimp only
        split
        · exact compact c
        · exact ((compact c).trans (bufferRecv _ _)).trans (recv2 _ _ _)

/-! ### Sending -/

theorem bufferSend (c : Connection) (len : Nat) :
    KeepsListening c (tcpConnectionBufferSend c len).2 := by
  have hheader (c : Connection) : KeepsListening c (tcpConnectionSendHeader c).2 := by
    unfold tcpConnectionSendHeader
    dsimp only
    split
    · split
      · exact of_state rfl
      · exact of_state rfl
    · exact refl c
  have hpayload (c : Connection) : KeepsListening c (tcpConnectionSendPayload c len).2 := by
    unfold tcpConnectionSendPayload
    dsimp only
    split
    · exact refl c
    · split
      · exact of_state rfl
      · split
        · exact of_state rfl
        · exact of_state rfl
  have hframe : KeepsListening c (if c.transportStorage.sendWebsocketFrameLen = 0 ∧ len > 0 then
      tcpConnectionPrepareFrame c len else c) := by
    split
    · exact of_state rfl
    · exact refl c
  unfold tcpConnectionBufferSend tcpConnectionBufferSendWebsocket
  split
  · dsimp only
    split
    · next h => exact hframe.trans ((hheader _).of_eq h)
    · next h => exact hframe.trans ((hheader _).of_eq h)
    · next h => exact (hframe.trans ((hheader _).of_eq h)).trans (hpayload _)
  · exact send c len

theorem communicateSend (c : Connection) (now : Int64) :
    KeepsListening c (tcpConnectionCommunicateSend c now).2 := by
  have hsend1 : KeepsListening c (connectionImplCommunicateSend1 c).2 := by
    unfold connectionImplCommunicateSend1
    split_ifs
    · exact refl c
    · exact (clearState c (by decide)).trans (of_state rfl)
    · exact clearState c (by decide)
    · exact refl c
    · exact refl c
  have hsend2 (c : Connection) (rv : Result Unit) :
      KeepsListening c (connectionImplCommunicateSend2 c now rv).2 := by
    unfold connectionImplCommunicateSend2
    split
    · exact setState c _
    · split
      · exact setState c _
      · exact ((clearState c (by decide)).trans (setState _ _)).trans (of_state rfl)
  unfold tcpConnectionCommunicateSend
  split
  · next h => exact hsend1.of_eq h
  · next h =>
      split
      · exact hsend1.of_eq h
      · exact ((hsend1.of_eq h).trans (bufferSend _ _)).trans (hsend2 _ _)

/-! ### The handshake -/

theorem serverHttp (digest : TcpDigest) (c : Connection) :
    KeepsListening c (tcpConnectionHandshakeServerHttp digest c).2 := by
  have hreply (c : Connection) :
      KeepsListening c (tcpConnectionHandshakeHttpHandshake digest c).2 := by
    unfold tcpConnectionHandshakeHttpHandshake
    split
    · exact refl c
    · dsimp only
      split
      · exact refl c
      · exact of_state rfl
  unfold tcpConnectionHandshakeServerHttp
  split
  · next h => exact (recvHeaderLoop _ c).of_eq h
  · next h => exact ((recvHeaderLoop _ c).of_eq h).trans (setState _ _)
  · next h =>
      have hheader : KeepsListening c _ := (recvHeaderLoop _ c).of_eq h
      split
      · next h => exact (hheader.trans ((hreply _).of_eq h)).trans (setState _ _)
      · next h =>
          have hsent := (hheader.trans ((hreply _).of_eq h)).trans (setState _ STATUS_FLAGS_SENDING)
          dsimp only
          split
          · exact hsent.trans (connectedWebsocket _)
          · exact hsent

theorem serverFirst (digest : TcpDigest) (c : Connection) :
    KeepsListening c (tcpConnectionHandshakeServerFirst digest c).2 := by
  unfold tcpConnectionHandshakeServerFirst
  split
  · exact of_flag (m := STATUS_FLAGS_RECEIVE_REQUESTED) (by decide)
      ((Connection.checkState_clearState (by decide)).trans
        (Connection.checkState_setState_of_overlap (by decide)))
  · split
    · exact (withStorage c _).trans (serverHttp digest _)
    · exact refl c

theorem server (digest : TcpDigest) (c : Connection) :
    KeepsListening c (tcpConnectionHandshakeServer digest c).2 := by
  unfold tcpConnectionHandshakeServer
  split
  · exact refl c
  · split
    · split
      · next h => exact (send c _).of_eq h
      · next h => exact ((send c _).of_eq h).trans (setState _ _)
      · next h =>
          split
          · exact (send c _).of_eq h
          · exact ((send c _).of_eq h).trans (connectedWebsocket _)
    · split
      · split
        · next h => exact ((recv c _).of_eq h).trans (setState _ _)
        · next h =>
            split
            · exact (recv c _).of_eq h
            · exact ((recv c _).of_eq h).trans (serverFirst digest _)
      · exact serverFirst digest c

theorem client (c : Connection) : KeepsListening c (tcpConnectionHandshakeClient c).2 := by
  unfold tcpConnectionHandshakeClient
  split
  · exact refl c
  · split
    · exact refl c
    · split
      · split
        · next h => exact ((send c _).of_eq h).trans (setState _ _)
        · next h =>
            split
            · exact ((send c _).of_eq h).trans (setState _ _)
            · exact ((send c _).of_eq h).trans (clientReply _)
      · exact clientReply c

theorem handshake (digest : TcpDigest) (c : Connection) :
    KeepsListening c (tcpConnectionHandshake digest c).2 := by
  unfold tcpConnectionHandshake
  split
  · exact refl c
  · split
    · exact server digest c
    · exact client c

end KeepsListening

/-! ## What is kept -/

/-- A connection with an open socket is in use, and has one of the flags. -/
def Connection.Attended (c : Connection) : Prop :=
  c.isActive = true →
    c.checkState STATUS_FLAGS_IDLE = false ∧ c.checkState STATUS_FLAGS_LISTENING = true

namespace Connection.Attended

variable {c c' : Connection}

theorem of_inactive (h : c.isActive = false) : c.Attended :=
  fun hactive => absurd (h.symm.trans hactive) Bool.false_ne_true

theorem of_kept (h : c.Attended) (hkept : c'.kept = c.kept) (hkeeps : KeepsListening c c') :
    c'.Attended := by
  intro hactive
  obtain ⟨hused, hflag⟩ := h ((congrArg Kept.active hkept).symm.trans hactive)
  exact ⟨(checkState_of_kept hkept (by decide)).trans hused, hkeeps hflag⟩

/-- A connection that was just given a socket. -/
theorem of_connecting (h : c.connectionState = STATUS_FLAGS_CONNECTING) : c.Attended := by
  intro _
  rw [checkState, checkState, h]
  decide

/-- What the node does on an event that the connection reported, or on something else. -/
theorem worked [SizeT] {eventType : EventType} (h : c.Attended) (hworked : c.Worked eventType c')
    (hshown : eventType = .messageReceived → c.exposed.isSome = true) : c'.Attended := by
  intro hactive
  obtain ⟨hused, hflag⟩ := h (by rwa [hworked.rest] at hactive)
  have hunused := hworked.raised STATUS_FLAGS_IDLE (by decide) (by cases eventType <;> decide) hused
  refine ⟨hunused, ?_⟩
  by_cases hmessage : eventType = .messageReceived
  · -- The message is there until the transport takes it out.
    obtain ⟨bytes, hbytes⟩ := Option.isSome_iff_exists.mp (hshown hmessage)
    have hreceived : c.checkState STATUS_FLAGS_MESSAGE_RECEIVED = true := by
      unfold exposed at hbytes
      split at hbytes
      · next hf => exact hf.1
      · cases hbytes
    have hstill : c'.checkState STATUS_FLAGS_MESSAGE_RECEIVED = true :=
      hworked.keeps (by decide) hreceived
    exact flagsCheck_of_subset (by decide) hstill
  · refine hworked.stays STATUS_FLAGS_LISTENING ?_ hflag
    rw [EventType.clearedFlags, if_neg hmessage]
    decide

theorem rechecked (h : c.Attended) (hrechecked : c.Rechecked c') : c'.Attended := by
  obtain ⟨t, rfl⟩ := hrechecked
  exact h

theorem asked (h : c.Attended) (hasked : c.Asked c') : c'.Attended := by
  intro hactive
  have hsock : c'.isActive = c.isActive := by
    obtain ⟨sendBuffer, sendMessageLen, asked, rfl⟩ := hasked
    rfl
  obtain ⟨hused, hflag⟩ := h (hsock ▸ hactive)
  exact ⟨(hasked.checkState (by decide)).trans hused, hasked.checkState_of_checkState hflag⟩

/-- A closed socket needs nobody's attention. -/
theorem close (c : Connection) (state : BitVec 32) :
    ({ c with sock := tcpSocketClose c.sock, connectionState := state } : Connection).Attended :=
  of_inactive (isActive_close c state)

theorem reset (c : Connection) : (connectionReset c).Attended :=
  of_inactive (by decide : flagsCheck (0#16) SOCKET_FLAGS_ACTIVE = false)

theorem accept2 (c : Connection) (now : Int64) (transportType : UInt32) (sock : Socket) :
    (connectionImplAccept2 c now transportType sock).Attended := of_connecting rfl

theorem connect2 (c : Connection) (now : Int64) (addr : Addr) (sock : Socket) :
    (connectionImplConnect2 c now TCP_TRANSPORT addr sock).2.Attended := by
  obtain ⟨rv, d, hconnect, hstate, -⟩ := connectionImplConnect2_spec c now addr sock
  rw [hconnect]
  exact of_connecting hstate

theorem serviceStart (h : c.Attended) (digest : TcpDigest) (addr : Addr) :
    (tcpConnectServiceStart digest addr c).2.Attended := by
  refine h.of_kept (kept_serviceStart digest addr c) ?_
  unfold tcpConnectServiceStart
  split
  · obtain ⟨rv, d, hrequest, hstate, -⟩ := sendWebsocketHttpHeader_spec digest addr
      ((c.withStorage (c.transportStorage.setState (TCP_TRANSPORT_STATE_IS_WEBSOCKET |||
        TCP_TRANSPORT_STATE_IN_HTTP_HEADER))).setState STATUS_FLAGS_BLOCK_SEND)
    rw [hrequest]
    exact ((KeepsListening.withStorage c _).trans (.setState _ _)).trans (.of_state hstate)
  · split
    · exact .refl c
    · split
      · exact .refl c
      · exact .refl c

/-- A socket that turns out not to be connected is closed, or asked again. -/
theorem checkConnected (h : c.Attended) : (tcpConnectionCheckConnected c).2.Attended := by
  have hactive (sock : Socket) : flagsCheck (tcpSocketIsConnectionComplete sock).2.flags
      SOCKET_FLAGS_ACTIVE = flagsCheck sock.flags SOCKET_FLAGS_ACTIVE := by
    unfold tcpSocketIsConnectionComplete
    split
    · rfl
    · split <;> rfl
  have hmoved : ({ c with sock := (tcpSocketIsConnectionComplete c.sock).2 } : Connection).Attended :=
    fun hopen => h ((hactive c.sock).symm.trans hopen)
  unfold tcpConnectionCheckConnected
  split
  · dsimp only
    split
    · exact hmoved
    · exact hmoved
    · intro hopen
      obtain ⟨hused, hflag⟩ := hmoved hopen
      exact ⟨(checkState_setState (by decide)).trans hused, KeepsListening.setState _ _ hflag⟩
  · exact h

variable [SizeT]

theorem communicateRecv (h : c.Attended) (now : Int64) :
    (tcpConnectionCommunicateRecv c now).2.Attended :=
  h.of_kept (kept_communicateRecv c now) (.communicateRecv c now)

theorem communicateSend (h : c.Attended) (now : Int64) :
    (tcpConnectionCommunicateSend c now).2.Attended :=
  h.of_kept (kept_communicateSend c now) (.communicateSend c now)

theorem processControl (h : c.Attended) (digest : TcpDigest) :
    (tcpConnectionCommunicateProcessControl digest c).2.Attended := by
  unfold tcpConnectionCommunicateProcessControl
  obtain hskip | ⟨-, hreset⟩ | ⟨-, hopen⟩ := implProcessControl_cases c
  · rw [hskip]
    exact h
  · rw [hreset]
    exact reset c
  · rw [hopen]
    dsimp only
    split
    · exact close c STATUS_FLAGS_CLOSED
    · have hhandshake : (tcpConnectionHandshake digest c).2.Attended :=
        h.of_kept (kept_handshake digest c) (.handshake digest c)
      split
      · next hrun => rwa [hrun] at hhandshake
      · next hrun =>
          rw [hrun] at hhandshake
          exact hhandshake.checkConnected

end Connection.Attended

end RobotRaconteurLite

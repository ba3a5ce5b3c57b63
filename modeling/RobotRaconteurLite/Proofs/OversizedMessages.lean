import RobotRaconteurLite.Proofs.Descriptors

/-!
# Messages larger than the receive buffer

The length of a message is read out of its preamble once twelve bytes are there,
and from then on a receive asks for what is left of the receive buffer. Nothing
compares the length with that buffer. A message that does not fit fills the buffer
up, and the receive that comes next asks for no bytes, which counts as success.

A run here is any sequence of the transport's calls on one slot, its reuse by the
next peer included, between arrivals of bytes and writes of the node and of the
application.
-/

namespace RobotRaconteurLite

open CallSequence Splice

/-- The flags of receiving. -/
def RECEIVE_FLAGS : BitVec 32 :=
  STATUS_FLAGS_RECEIVE_REQUESTED ||| STATUS_FLAGS_MESSAGE_RECEIVED ||| STATUS_FLAGS_MESSAGE_CONSUMED

/-! ## What only a preamble changes -/

/-- A step that learns no length and takes no error back. -/
structure KeepsLength (c c' : Connection) : Prop where
  bufferLen : c'.recvBufferLen = c.recvBufferLen
  messageLen : c'.recvMessageLen = c.recvMessageLen ∨ c'.recvMessageLen = 0
  error : c.checkState STATUS_FLAGS_ERROR = true → c'.checkState STATUS_FLAGS_ERROR = true

theorem KeepsLength.refl (c : Connection) : KeepsLength c c := ⟨rfl, Or.inl rfl, id⟩

theorem KeepsLength.trans {c c' c'' : Connection} (h : KeepsLength c c')
    (h' : KeepsLength c' c'') : KeepsLength c c'' where
  bufferLen := h'.bufferLen.trans h.bufferLen
  messageLen := by
    obtain heq | hzero := h'.messageLen
    · rw [heq]
      exact h.messageLen
    · exact Or.inr hzero
  error he := h'.error (h.error he)

theorem KeepsLength.of_eq {α : Type} {x : Result α × Connection} {rv : Result α}
    {c c' : Connection} (h : KeepsLength c x.2) (hx : x = (rv, c')) : KeepsLength c c' := by
  rw [hx] at h
  exact h

theorem KeepsLength.setState (c : Connection) (m : BitVec 32) : KeepsLength c (c.setState m) where
  bufferLen := rfl
  messageLen := Or.inl rfl
  error he := by
    by_cases hm : m &&& STATUS_FLAGS_ERROR = 0#32
    · exact (Connection.checkState_setState hm).trans he
    · exact Connection.checkState_setState_of_overlap hm

theorem KeepsLength.clearState (c : Connection) {m : BitVec 32}
    (h : m &&& STATUS_FLAGS_ERROR = 0#32) : KeepsLength c (c.clearState m) :=
  ⟨rfl, Or.inl rfl, fun he => (Connection.checkState_clearState h).trans he⟩

theorem KeepsLength.withStorage (c : Connection) (s : TcpTransportStorage) :
    KeepsLength c (c.withStorage s) := ⟨rfl, Or.inl rfl, id⟩

theorem KeepsLength.recv (c : Connection) (len : Nat) : KeepsLength c (tcpConnectionRecv c len).2 :=
  ⟨rfl, Or.inl rfl, id⟩

theorem KeepsLength.send (c : Connection) (len : Nat) : KeepsLength c (tcpConnectionSend c len).2 :=
  ⟨rfl, Or.inl rfl, id⟩

theorem KeepsLength.connectedWebsocket (c : Connection) : KeepsLength c c.connectedWebsocket := by
  have h := (KeepsLength.setState c (STATUS_FLAGS_CONNECTED ||| STATUS_FLAGS_RECEIVE_REQUESTED)).trans
    (KeepsLength.clearState _ (m := STATUS_FLAGS_CONNECTING ||| STATUS_FLAGS_BLOCK_SEND |||
      STATUS_FLAGS_SENDING ||| STATUS_FLAGS_SEND_REQUESTED) (by decide))
  exact ⟨h.bufferLen, h.messageLen, h.error⟩

/-- A step that writes nothing of the receiving side. -/
structure KeepsReceiving (c c' : Connection) : Prop where
  length : KeepsLength c c'
  flags : c'.connectionState &&& RECEIVE_FLAGS = c.connectionState &&& RECEIVE_FLAGS

theorem KeepsReceiving.refl (c : Connection) : KeepsReceiving c c := ⟨KeepsLength.refl c, rfl⟩

theorem KeepsReceiving.trans {c c' c'' : Connection} (h : KeepsReceiving c c')
    (h' : KeepsReceiving c' c'') : KeepsReceiving c c'' :=
  ⟨h.length.trans h'.length, h'.flags.trans h.flags⟩

theorem KeepsReceiving.of_eq {α : Type} {x : Result α × Connection} {rv : Result α}
    {c c' : Connection} (h : KeepsReceiving c x.2) (hx : x = (rv, c')) : KeepsReceiving c c' := by
  rw [hx] at h
  exact h

/-- A step that moves bytes. -/
theorem KeepsReceiving.of_moves {c c' : Connection} (hlen : c'.recvBufferLen = c.recvBufferLen)
    (hmessage : c'.recvMessageLen = c.recvMessageLen)
    (hstate : c'.connectionState = c.connectionState) : KeepsReceiving c c' where
  length := ⟨hlen, Or.inl hmessage, fun he => by
    rw [Connection.checkState, hstate]
    exact he⟩
  flags := by rw [hstate]

theorem KeepsReceiving.setState (c : Connection) {m : BitVec 32} (h : m &&& RECEIVE_FLAGS = 0#32) :
    KeepsReceiving c (c.setState m) :=
  ⟨KeepsLength.setState c m, flagsSet_and_of_disjoint h⟩

theorem KeepsReceiving.clearState (c : Connection) {m : BitVec 32}
    (he : m &&& STATUS_FLAGS_ERROR = 0#32) (h : m &&& RECEIVE_FLAGS = 0#32) :
    KeepsReceiving c (c.clearState m) :=
  ⟨KeepsLength.clearState c he, flagsClear_and_of_disjoint h⟩

theorem KeepsReceiving.sendHeader (c : Connection) :
    KeepsReceiving c (tcpConnectionSendHeader c).2 := by
  unfold tcpConnectionSendHeader
  dsimp only
  split
  · split
    · exact KeepsReceiving.of_moves rfl rfl rfl
    · exact KeepsReceiving.of_moves rfl rfl rfl
  · exact KeepsReceiving.refl c

theorem KeepsReceiving.send2 (c : Connection) (now : Int64) (rv : Result Unit) :
    KeepsReceiving c (connectionImplCommunicateSend2 c now rv).2 := by
  unfold connectionImplCommunicateSend2
  split
  · exact KeepsReceiving.setState c (by decide)
  · split
    · exact KeepsReceiving.setState c (by decide)
    · have hsent := (KeepsReceiving.clearState c (m := STATUS_FLAGS_SENDING) (by decide)
        (by decide)).trans (KeepsReceiving.setState _ (m := STATUS_FLAGS_MESSAGE_SENT) (by decide))
      exact ⟨⟨hsent.length.bufferLen, hsent.length.messageLen, hsent.length.error⟩, hsent.flags⟩

/-! ## The handshake -/

theorem KeepsLength.recvHeaderLoop (fuel : Nat) (c : Connection) :
    KeepsLength c (tcpConnectionHandshakeHttpRecvHeaderLoop fuel c).2 := by
  induction fuel generalizing c with
  | zero => exact KeepsLength.refl c
  | succ fuel ih =>
      rw [tcpConnectionHandshakeHttpRecvHeaderLoop]
      split
      · exact KeepsLength.refl c
      · dsimp only
        split
        · next c' h => exact ((KeepsLength.recv c _).of_eq h).trans (KeepsLength.setState c' _)
        · next c' h =>
            have hrecv := (KeepsLength.recv c _).of_eq h
            split
            · exact hrecv
            · split
              · exact hrecv
              · exact hrecv.trans (ih c')

theorem KeepsLength.recvHeader (c : Connection) :
    KeepsLength c (tcpConnectionHandshakeHttpRecvHeader c).2 :=
  KeepsLength.recvHeaderLoop _ c

theorem KeepsLength.clientReply (c : Connection) :
    KeepsLength c (tcpConnectionHandshakeClientReply c).2 := by
  have hsending := KeepsLength.clearState c (m := STATUS_FLAGS_SENDING) (by decide)
  unfold tcpConnectionHandshakeClientReply
  split
  · next h => exact hsending.trans ((KeepsLength.recvHeader _).of_eq h)
  · next h => exact hsending.trans ((KeepsLength.recvHeader _).of_eq h)
  · next h =>
      exact (hsending.trans ((KeepsLength.recvHeader _).of_eq h)).trans (KeepsLength.setState _ _)
  · next c' h =>
      have hheader := hsending.trans ((KeepsLength.recvHeader _).of_eq h)
      split
      · exact hheader
      · have hup := hheader.trans (KeepsLength.connectedWebsocket c')
        exact ⟨hup.bufferLen, Or.inr rfl, hup.error⟩

theorem KeepsLength.checkConnected (c : Connection) :
    KeepsLength c (tcpConnectionCheckConnected c).2 := by
  unfold tcpConnectionCheckConnected
  split
  · dsimp only
    split
    · exact ⟨rfl, Or.inl rfl, id⟩
    · exact ⟨rfl, Or.inl rfl, id⟩
    · have h := KeepsLength.setState { c with sock := (tcpSocketIsConnectionComplete c.sock).2 }
        (STATUS_FLAGS_CLIENT_SOCKET_CONNECTED ||| STATUS_FLAGS_RECEIVE_REQUESTED)
      exact ⟨h.bufferLen, h.messageLen, h.error⟩
  · exact KeepsLength.refl c

theorem KeepsLength.recvFrameHeader (c : Connection) (size : Nat) :
    KeepsLength c (tcpConnectionRecvHeader c size).2 := by
  unfold tcpConnectionRecvHeader
  dsimp only
  split
  · split
    · have h := KeepsLength.setState c STATUS_FLAGS_ERROR
      exact ⟨h.bufferLen, h.messageLen, h.error⟩
    · exact ⟨rfl, Or.inl rfl, id⟩
  · exact KeepsLength.refl c

/-! ## The dead state -/

/-- A message has begun, more of it is asked for, and there is no room for any of it. -/
structure Connection.Wedged (c : Connection) : Prop where
  error : c.checkState STATUS_FLAGS_ERROR = false
  closing : c.checkState STATUS_FLAGS_CLOSE_REQUESTED = false
  requested : c.checkState STATUS_FLAGS_RECEIVE_REQUESTED = true
  begun : 0 < c.recvBufferPos
  incomplete : c.recvBufferPos < c.recvMessageLen.toNat
  full : c.recvBufferLen ≤ c.recvBufferPos

/-- The invariant of a run whose lengths fit. A length that does not fit is only ever seen in a
preamble that is refused, and stays behind it until the slot is reset. -/
structure ReceivesFitting (c : Connection) : Prop where
  idle : c.checkState STATUS_FLAGS_IDLE = true →
    c.connectionState &&& RECEIVE_FLAGS = 0#32 ∧ c.recvMessageLen.toNat ≤ c.recvBufferLen
  fits : c.recvMessageLen.toNat ≤ c.recvBufferLen ∨ c.checkState STATUS_FLAGS_ERROR = true ∨
    c.checkState STATUS_FLAGS_CLOSED = true ∧
      c.checkState STATUS_FLAGS_RECEIVE_REQUESTED = false

theorem ReceivesFitting.not_wedged {c : Connection} (h : ReceivesFitting c) : ¬ c.Wedged := by
  intro hw
  obtain hfits | herror | ⟨-, hrr⟩ := h.fits
  · have := hw.full
    have := hw.incomplete
    omega
  · rw [hw.error] at herror
    cases herror
  · rw [hw.requested] at hrr
    cases hrr

theorem KeepsReceiving.checkState {c c' : Connection} (h : KeepsReceiving c c') {m : BitVec 32}
    (hm : RECEIVE_FLAGS &&& m = m) : c'.checkState m = c.checkState m := by
  unfold Connection.checkState
  rw [← flagsCheck_and hm, h.flags, flagsCheck_and hm]

/-- A length that fits, or none, still fits. -/
theorem KeepsLength.fits {c c' : Connection} (h : KeepsLength c c')
    (hfits : c.recvMessageLen.toNat ≤ c.recvBufferLen) :
    c'.recvMessageLen.toNat ≤ c'.recvBufferLen := by
  rw [h.bufferLen]
  obtain heq | hzero := h.messageLen
  · rw [heq]
    exact hfits
  · rw [hzero]
    exact Nat.zero_le _

theorem ReceivesFitting.of_keepsReceiving {c c' : Connection} (h : ReceivesFitting c)
    (hk : KeepsReceiving c c') (hidle : c'.checkState STATUS_FLAGS_IDLE = c.checkState STATUS_FLAGS_IDLE)
    (hclosed : c'.checkState STATUS_FLAGS_CLOSED = c.checkState STATUS_FLAGS_CLOSED) :
    ReceivesFitting c' where
  idle hi := by
    obtain ⟨hflags, hfits⟩ := h.idle (hidle ▸ hi)
    exact ⟨hk.flags.trans hflags, hk.length.fits hfits⟩
  fits := by
    obtain hfits | herror | ⟨hcl, hrr⟩ := h.fits
    · exact Or.inl (hk.length.fits hfits)
    · exact Or.inr (Or.inl (hk.length.error herror))
    · exact Or.inr (Or.inr ⟨hclosed.trans hcl, (hk.checkState (by decide)).trans hrr⟩)

/-- An idle slot receives nothing. -/
theorem ReceivesFitting.unused {c : Connection} (h : ReceivesFitting c)
    (hi : c.checkState STATUS_FLAGS_IDLE = true) {m : BitVec 32} (hm : RECEIVE_FLAGS &&& m = m) :
    c.checkState m = false := by
  unfold Connection.checkState
  rw [← flagsCheck_and hm, (h.idle hi).1, flagsCheck, BitVec.zero_and]
  rfl

/-- The application gives a message back. -/
theorem ReceivesFitting.consume {c : Connection} (h : ReceivesFitting c) :
    ReceivesFitting (connectionMessageReceiveConsume c).2 := by
  unfold connectionMessageReceiveConsume
  split
  · exact h
  · next hr =>
      exact {
        idle := fun hi => by
          rw [Connection.checkState_setState (by decide)] at hi
          have hno := h.unused (m := STATUS_FLAGS_MESSAGE_RECEIVED) hi (by decide)
          exact absurd hno (fun hf => hr (by rw [hf]; decide))
        fits := by
          obtain hfits | herror | ⟨hcl, hrr⟩ := h.fits
          · exact Or.inl hfits
          · exact Or.inr (Or.inl ((KeepsLength.setState c _).error herror))
          · exact Or.inr (Or.inr ⟨(Connection.checkState_setState (by decide)).trans hcl,
              (Connection.checkState_setState (by decide)).trans hrr⟩) }

/-- A slot in use that the transport goes on with. -/
theorem ReceivesFitting.of_keepsLength {c c' : Connection} (h : ReceivesFitting c)
    (hk : KeepsLength c c') (hclosed : c.checkState STATUS_FLAGS_CLOSED = false)
    (hidle : c'.checkState STATUS_FLAGS_IDLE = false) : ReceivesFitting c' where
  idle hi := by
    rw [hidle] at hi
    cases hi
  fits := by
    obtain hfits | herror | ⟨hcl, -⟩ := h.fits
    · exact Or.inl (hk.fits hfits)
    · exact Or.inr (Or.inl (hk.error herror))
    · rw [hclosed] at hcl
      cases hcl

theorem ReceivesFitting.of_fits {c : Connection} (hidle : c.checkState STATUS_FLAGS_IDLE = false)
    (hfits : c.recvMessageLen.toNat ≤ c.recvBufferLen) : ReceivesFitting c where
  idle hi := by
    rw [hidle] at hi
    cases hi
  fits := Or.inl hfits

theorem ReceivesFitting.reset (c : Connection) : ReceivesFitting (connectionReset c) where
  idle _ := ⟨show STATUS_FLAGS_IDLE &&& RECEIVE_FLAGS = 0#32 by decide, Nat.zero_le _⟩
  fits := Or.inl (Nat.zero_le _)

theorem checkConnected_idle (c : Connection) :
    (tcpConnectionCheckConnected c).2.checkState STATUS_FLAGS_IDLE =
      c.checkState STATUS_FLAGS_IDLE := by
  unfold tcpConnectionCheckConnected
  split
  · dsimp only
    split
    · rfl
    · rfl
    · exact Connection.checkState_setState (by decide)
  · rfl

/-- A slot that was constructed and initialised. -/
def freshSlot (sendBuffer recvBuffer : List UInt8) : Connection :=
  connectionInit (connectionConstruct sendBuffer recvBuffer)

theorem freshSlot_fitting (sendBuffer recvBuffer : List UInt8) :
    ReceivesFitting (freshSlot sendBuffer recvBuffer) where
  idle _ := ⟨show STATUS_FLAGS_IDLE &&& RECEIVE_FLAGS = 0#32 by decide, Nat.zero_le _⟩
  fits := Or.inl (Nat.zero_le _)

/-! ## The look at a preamble -/

/-- A new message's length field is there, and the buffer is smaller. -/
def Connection.Oversized (c : Connection) : Prop :=
  12 ≤ c.recvBufferPos ∧ c.recvMessageLen = 0 ∧
    c.recvBufferLen < (utilReadUint32 c.recvBuffer 4).toNat

/-- The look at the preamble goes through. -/
def Connection.PreambleStands (c : Connection) : Prop :=
  slice c.recvBuffer 0 4 = rracMagic ∧
    (utilReadUint16 c.recvBuffer 8 = 2 ∨ utilReadUint16 c.recvBuffer 8 = 4)

/-- A preamble that does not stand is answered with an error. -/
theorem recv2_refused {d : Connection} (now : Int64)
    (hnew : d.recvBufferPos ≥ 12 ∧ d.recvMessageLen = 0) (h : ¬ d.PreambleStands) :
    (∃ e, (connectionImplCommunicateRecv2 d now (.ok ())).1 = .error e) ∧
      (connectionImplCommunicateRecv2 d now (.ok ())).2.checkState STATUS_FLAGS_ERROR = true := by
  have hverify : ∃ d', connectionVerifyPreamble d = (.error .connectionError, d') := by
    unfold connectionVerifyPreamble
    rw [if_pos hnew]
    by_cases hmagic : slice d.recvBuffer 0 4 = rracMagic
    · rw [if_neg (not_not_intro hmagic)]
      dsimp only
      rw [if_pos]
      · exact ⟨_, rfl⟩
      · by_contra hversion
        apply h
        refine ⟨hmagic, ?_⟩
        by_contra hne
        exact hversion (not_or.mp hne)
    · rw [if_pos hmagic]
      exact ⟨_, rfl⟩
  obtain ⟨d', hverify⟩ := hverify
  unfold connectionImplCommunicateRecv2
  rw [hverify]
  refine ⟨⟨_, rfl⟩, ?_⟩
  exact (Connection.checkState_clearState (by decide)).trans
    (Connection.checkState_setState_of_overlap (by decide))

theorem recv2_of_verify {d d' : Connection} (now : Int64)
    (hverify : connectionVerifyPreamble d = (.ok (), d')) :
    (connectionImplCommunicateRecv2 d now (.ok ())).1 = .ok () ∧
      (connectionImplCommunicateRecv2 d now (.ok ())).2.recvBufferLen = d'.recvBufferLen ∧
      (connectionImplCommunicateRecv2 d now (.ok ())).2.recvMessageLen = d'.recvMessageLen := by
  unfold connectionImplCommunicateRecv2
  rw [hverify]
  dsimp only
  split
  · exact ⟨rfl, rfl, rfl⟩
  · exact ⟨rfl, rfl, rfl⟩

/-- Any other receive goes through, and learns the length of a new message. -/
theorem recv2_stands {d : Connection} (now : Int64)
    (h : d.recvBufferPos ≥ 12 ∧ d.recvMessageLen = 0 → d.PreambleStands) :
    (connectionImplCommunicateRecv2 d now (.ok ())).1 = .ok () ∧
      (connectionImplCommunicateRecv2 d now (.ok ())).2.recvBufferLen = d.recvBufferLen ∧
      (connectionImplCommunicateRecv2 d now (.ok ())).2.recvMessageLen =
        if d.recvBufferPos ≥ 12 ∧ d.recvMessageLen = 0 then utilReadUint32 d.recvBuffer 4
        else d.recvMessageLen := by
  by_cases hnew : d.recvBufferPos ≥ 12 ∧ d.recvMessageLen = 0
  · obtain ⟨hmagic, hversion⟩ := h hnew
    rw [if_pos hnew]
    have hverify : connectionVerifyPreamble d =
        (.ok (), { d with recvMessageLen := utilReadUint32 d.recvBuffer 4 }) := by
      unfold connectionVerifyPreamble
      rw [if_pos hnew, if_neg (not_not_intro hmagic)]
      dsimp only
      rw [if_neg]
      rintro ⟨h2, h4⟩
      obtain heq | heq := hversion
      · exact h2 heq
      · exact h4 heq
    exact recv2_of_verify now hverify
  · rw [if_neg hnew]
    apply recv2_of_verify
    rw [connectionVerifyPreamble, if_neg hnew]

section

variable [SizeT]

theorem KeepsLength.client (c : Connection) :
    KeepsLength c (tcpConnectionHandshakeClient c).2 := by
  unfold tcpConnectionHandshakeClient
  split
  · exact KeepsLength.refl c
  · split
    · exact KeepsLength.refl c
    · split
      · split
        · next h => exact ((KeepsLength.send c _).of_eq h).trans (KeepsLength.setState _ _)
        · next c' h =>
            have hsend := (KeepsLength.send c _).of_eq h
            split
            · exact hsend.trans (KeepsLength.setState _ _)
            · exact hsend.trans (KeepsLength.clientReply c')
      · exact KeepsLength.clientReply c

theorem KeepsLength.httpHandshake (digest : TcpDigest) (c : Connection) :
    KeepsLength c (tcpConnectionHandshakeHttpHandshake digest c).2 := by
  unfold tcpConnectionHandshakeHttpHandshake
  split
  · exact KeepsLength.refl c
  · dsimp only
    split
    · exact KeepsLength.refl c
    · exact ⟨rfl, Or.inl rfl, id⟩

theorem KeepsLength.serverHttp (digest : TcpDigest) (c : Connection) :
    KeepsLength c (tcpConnectionHandshakeServerHttp digest c).2 := by
  unfold tcpConnectionHandshakeServerHttp
  split
  · next h => exact (KeepsLength.recvHeader c).of_eq h
  · next h => exact ((KeepsLength.recvHeader c).of_eq h).trans (KeepsLength.setState _ _)
  · next h =>
      have hheader := (KeepsLength.recvHeader c).of_eq h
      split
      · next h =>
          exact (hheader.trans ((KeepsLength.httpHandshake digest _).of_eq h)).trans
            (KeepsLength.setState _ _)
      · next c' h =>
          have hreply := (hheader.trans ((KeepsLength.httpHandshake digest _).of_eq h)).trans
            (KeepsLength.setState c' STATUS_FLAGS_SENDING)
          dsimp only
          split
          · exact hreply.trans (KeepsLength.connectedWebsocket _)
          · exact hreply

theorem KeepsLength.serverFirst (digest : TcpDigest) (c : Connection) :
    KeepsLength c (tcpConnectionHandshakeServerFirst digest c).2 := by
  unfold tcpConnectionHandshakeServerFirst
  split
  · exact ((KeepsLength.withStorage c _).trans (KeepsLength.setState _ _)).trans
      (KeepsLength.clearState _ (by decide))
  · split
    · exact (KeepsLength.withStorage c _).trans (KeepsLength.serverHttp digest _)
    · exact KeepsLength.refl c

theorem KeepsLength.server (digest : TcpDigest) (c : Connection) :
    KeepsLength c (tcpConnectionHandshakeServer digest c).2 := by
  unfold tcpConnectionHandshakeServer
  split
  · exact KeepsLength.refl c
  · split
    · split
      · next h => exact (KeepsLength.send c _).of_eq h
      · next h => exact ((KeepsLength.send c _).of_eq h).trans (KeepsLength.setState _ _)
      · next c' h =>
          have hsend := (KeepsLength.send c _).of_eq h
          split
          · exact hsend
          · exact hsend.trans (KeepsLength.connectedWebsocket c')
    · split
      · split
        · next h => exact ((KeepsLength.recv c _).of_eq h).trans (KeepsLength.setState _ _)
        · next c' h =>
            have hrecv := (KeepsLength.recv c _).of_eq h
            split
            · exact hrecv
            · exact hrecv.trans (KeepsLength.serverFirst digest c')
      · exact KeepsLength.serverFirst digest c

theorem KeepsLength.handshake (digest : TcpDigest) (c : Connection) :
    KeepsLength c (tcpConnectionHandshake digest c).2 := by
  unfold tcpConnectionHandshake
  split
  · exact KeepsLength.refl c
  · split
    · exact KeepsLength.server digest c
    · exact KeepsLength.client c

/-! ## Receiving and sending -/

theorem KeepsLength.openFrame (c : Connection) : KeepsLength c (tcpConnectionOpenFrame c).2 := by
  have hstorage := KeepsLength.withStorage c (tcpStorageResetFrame c.transportStorage)
  unfold tcpConnectionOpenFrame
  dsimp only
  split
  · exact hstorage
  · split
    · next h => exact hstorage.trans ((KeepsLength.recvFrameHeader _ _).of_eq h)
    · next h => exact hstorage.trans ((KeepsLength.recvFrameHeader _ _).of_eq h)
    · next h =>
        have hfirst := hstorage.trans ((KeepsLength.recvFrameHeader _ _).of_eq h)
        split
        · next h => exact hfirst.trans ((KeepsLength.recvFrameHeader _ _).of_eq h)
        · next h => exact hfirst.trans ((KeepsLength.recvFrameHeader _ _).of_eq h)
        · next h =>
            exact (hfirst.trans ((KeepsLength.recvFrameHeader _ _).of_eq h)).trans
              (KeepsLength.withStorage _ _)

theorem KeepsLength.recvPayload (c : Connection) (len : Nat) :
    KeepsLength c (tcpConnectionRecvPayload c len).2 := by
  unfold tcpConnectionRecvPayload
  split
  · next h => exact ((KeepsLength.recv c _).of_eq h).trans (KeepsLength.setState _ _)
  · next h =>
      have hrecv := (KeepsLength.recv c _).of_eq h
      exact ⟨hrecv.bufferLen, hrecv.messageLen, hrecv.error⟩

theorem KeepsLength.bufferRecv (c : Connection) (len : Nat) :
    KeepsLength c (tcpConnectionBufferRecv c len).2 := by
  unfold tcpConnectionBufferRecv
  split
  · unfold tcpConnectionBufferRecvWebsocket
    split
    · next h => exact (KeepsLength.openFrame c).of_eq h
    · next h => exact (KeepsLength.openFrame c).of_eq h
    · next h => exact ((KeepsLength.openFrame c).of_eq h).trans (KeepsLength.recvPayload _ _)
  · exact KeepsLength.recv c len

theorem KeepsReceiving.sendPayload (c : Connection) (len : Nat) :
    KeepsReceiving c (tcpConnectionSendPayload c len).2 := by
  unfold tcpConnectionSendPayload
  dsimp only
  split
  · exact KeepsReceiving.refl c
  · split
    · exact KeepsReceiving.of_moves rfl rfl rfl
    · split
      · exact KeepsReceiving.of_moves rfl rfl rfl
      · exact KeepsReceiving.of_moves rfl rfl rfl

theorem KeepsReceiving.bufferSend (c : Connection) (len : Nat) :
    KeepsReceiving c (tcpConnectionBufferSend c len).2 := by
  unfold tcpConnectionBufferSend
  split
  · unfold tcpConnectionBufferSendWebsocket
    dsimp only
    have hframe : KeepsReceiving c (if c.transportStorage.sendWebsocketFrameLen = 0 ∧ len > 0 then
        tcpConnectionPrepareFrame c len else c) := by
      split
      · exact KeepsReceiving.of_moves rfl rfl rfl
      · exact KeepsReceiving.refl c
    split
    · next h => exact hframe.trans ((KeepsReceiving.sendHeader _).of_eq h)
    · next h => exact hframe.trans ((KeepsReceiving.sendHeader _).of_eq h)
    · next h =>
        exact (hframe.trans ((KeepsReceiving.sendHeader _).of_eq h)).trans
          (KeepsReceiving.sendPayload _ _)
  · exact KeepsReceiving.of_moves rfl rfl rfl

theorem KeepsReceiving.communicateSend (c : Connection) (now : Int64) :
    KeepsReceiving c (tcpConnectionCommunicateSend c now).2 := by
  have hsend1 : KeepsReceiving c (connectionImplCommunicateSend1 c).2 := by
    unfold connectionImplCommunicateSend1
    split
    · exact KeepsReceiving.refl c
    · split
      · have hclear := KeepsReceiving.clearState c
          (m := STATUS_FLAGS_MESSAGE_SENT_CONSUMED ||| STATUS_FLAGS_MESSAGE_SENT) (by decide)
          (by decide)
        exact ⟨⟨hclear.length.bufferLen, hclear.length.messageLen, hclear.length.error⟩,
          hclear.flags⟩
      · split
        · exact KeepsReceiving.clearState c (by decide) (by decide)
        · split
          · exact KeepsReceiving.refl c
          · exact KeepsReceiving.refl c
  unfold tcpConnectionCommunicateSend
  split
  · next h => exact hsend1.of_eq h
  · next h =>
      have hopen := hsend1.of_eq h
      split
      · exact hopen
      · exact (hopen.trans (KeepsReceiving.bufferSend _ _)).trans (KeepsReceiving.send2 _ now _)

/-! ## Runs -/

/-- What happens to a slot of a TCP transport. A peer gets it, or it is opened, while it is
idle. `session` stands for every other write of the node and of the application; none of
them touches the receiving side or the flags of opening, closing and failing. -/
inductive TcpCall
  | environment (arrived : List UInt8) (recvPlan sendPlan : List IoOutcome)
      (pollPlan : List PollOutcome)
  | processControl (digest : TcpDigest)
  | communicateRecv (now : Int64)
  | communicateSend (now : Int64)
  | accept (now : Int64) (sock : Socket)
  | connect (now : Int64) (addr : Addr) (sock : Socket)
  | messageReceiveConsume
  | error
  | close
  | consumeClosed
  | session (d : Connection)

/-- The flags that only the transport writes, and those with a call of their own. -/
def TRANSPORT_FLAGS : BitVec 32 := RECEIVE_FLAGS ||| LIFECYCLE ||| STATUS_FLAGS_ERROR

def TcpCall.step (c : Connection) : TcpCall → Result Unit × Connection
  | .environment arrived recvPlan sendPlan pollPlan => (.ok (), { c with sock := { c.sock with
      inbox := c.sock.inbox ++ arrived
      recvPlan := recvPlan
      sendPlan := sendPlan
      pollPlan := pollPlan } })
  | .processControl digest => tcpConnectionCommunicateProcessControl digest c
  | .communicateRecv now => tcpConnectionCommunicateRecv c now
  | .communicateSend now => tcpConnectionCommunicateSend c now
  | .accept now sock =>
      (.ok (), if connectionIsIdle c then connectionImplAccept2 c now TCP_TRANSPORT sock else c)
  | .connect now addr sock =>
      if connectionIsIdle c then connectionImplConnect2 c now TCP_TRANSPORT addr sock
      else (.ok (), c)
  | .messageReceiveConsume => connectionMessageReceiveConsume c
  | .error => (.ok (), connectionError c)
  | .close => (.ok (), connectionClose c)
  | .consumeClosed => (.ok (), if connectionIsClosedEvent c then connectionConsumeClosed c else c)
  | .session d => (.ok (), { d with
      sock := c.sock
      recvBuffer := c.recvBuffer
      recvBufferLen := c.recvBufferLen
      recvBufferPos := c.recvBufferPos
      recvMessageLen := c.recvMessageLen
      connectionState := (d.connectionState &&& ~~~TRANSPORT_FLAGS) |||
        (c.connectionState &&& TRANSPORT_FLAGS) })

/-- The connection as a receive leaves it for the look at what came, if it comes to that. -/
def Connection.received (c : Connection) : Option Connection :=
  match connectionImplCommunicateRecv1 c with
  | (.error _, _) => none
  | (.ok recvOpLen, c) =>
      if recvOpLen = 0 then none
      else
        match tcpConnectionBufferRecv c recvOpLen with
        | (.error _, _) => none
        | (.ok (), c) => some c

/-- The call leaves a connection that can go on, and a length field larger than the buffer is
answered with an error. -/
structure NeverWedges (c : Connection) (call : TcpCall) : Prop where
  runs : ¬ (call.step c).2.Wedged
  answered : ∀ now d, call = .communicateRecv now → c.received = some d → d.Oversized →
    (∃ e, (call.step c).1 = .error e) ∧ (call.step c).2.checkState STATUS_FLAGS_ERROR = true

/-- The preambles that stand announce no more than the buffer holds. -/
def LengthFits (c : Connection) (call : TcpCall) : Prop :=
  ∀ now d, call = .communicateRecv now → c.received = some d → d.PreambleStands → ¬ d.Oversized

theorem ReceivesFitting.processControl {c : Connection} (h : ReceivesFitting c) (digest : TcpDigest) :
    ReceivesFitting (tcpConnectionCommunicateProcessControl digest c).2 := by
  unfold tcpConnectionCommunicateProcessControl
  rcases implProcessControl_cases c with himpl | ⟨-, himpl⟩ | ⟨hopen, himpl⟩
  · rw [himpl]
    exact h
  · rw [himpl]
    exact ReceivesFitting.reset c
  · rw [himpl]
    have hclosed : c.checkState STATUS_FLAGS_CLOSED = false := by
      by_contra hc
      have := flagsCheck_of_subset (n := STATUS_FLAGS_CLOSED ||| STATUS_FLAGS_IDLE) (by decide)
        (Bool.eq_true_of_not_eq_false hc)
      exact absurd hopen.2.2 (by rw [Connection.checkState, this]; decide)
    have hidle : c.checkState STATUS_FLAGS_IDLE = false := by
      by_contra hc
      have := flagsCheck_of_subset (n := STATUS_FLAGS_CLOSED ||| STATUS_FLAGS_IDLE) (by decide)
        (Bool.eq_true_of_not_eq_false hc)
      exact absurd hopen.2.2 (by rw [Connection.checkState, this]; decide)
    dsimp only
    split
    · exact {
        idle := fun hi => absurd hi (by decide : ¬ flagsCheck STATUS_FLAGS_CLOSED STATUS_FLAGS_IDLE = true)
        fits := Or.inr (Or.inr ⟨(by decide : flagsCheck STATUS_FLAGS_CLOSED STATUS_FLAGS_CLOSED = true),
          (by decide : flagsCheck STATUS_FLAGS_CLOSED STATUS_FLAGS_RECEIVE_REQUESTED = false)⟩) }
    · have hkept := kept_handshake digest c
      have hlength := KeepsLength.handshake digest c
      split
      · next d hd =>
          rw [hd] at hkept hlength
          exact h.of_keepsLength hlength hclosed ((checkState_of_kept hkept (by decide)).trans hidle)
      · next d hd =>
          rw [hd] at hkept hlength
          refine h.of_keepsLength (hlength.trans (KeepsLength.checkConnected d)) hclosed ?_
          rw [checkConnected_idle, checkState_of_kept hkept (by decide), hidle]

theorem ReceivesFitting.communicateSend {c : Connection} (h : ReceivesFitting c) (now : Int64) :
    ReceivesFitting (tcpConnectionCommunicateSend c now).2 :=
  h.of_keepsReceiving (KeepsReceiving.communicateSend c now)
    (checkState_of_kept (kept_communicateSend c now) (by decide))
    (checkState_of_kept (kept_communicateSend c now) (by decide))

/-! ## One receive -/

/-- How a receive ends: with the error it began with, with nothing asked for, with an error of
the socket, or with a look at what came. -/
theorem communicateRecv_cases (c : Connection) (now : Int64) :
    tcpConnectionCommunicateRecv c now = (.error .connectionError, c) ∧ c.received = none ∨
    c.checkState STATUS_FLAGS_ERROR = false ∧
      ((connectionRecvOpLen (connectionCompact c) = 0 ∧
        tcpConnectionCommunicateRecv c now = (.ok (), connectionCompact c) ∧ c.received = none) ∨
      (connectionRecvOpLen (connectionCompact c) ≠ 0 ∧ ∃ d, KeepsLength (connectionCompact c) d ∧
        ((∃ e, tcpConnectionCommunicateRecv c now = (.error e, d.failReceive) ∧ c.received = none) ∨
          (tcpConnectionCommunicateRecv c now = connectionImplCommunicateRecv2 d now (.ok ()) ∧
            c.received = some d)))) := by
  unfold tcpConnectionCommunicateRecv Connection.received connectionImplCommunicateRecv1
  cases herror : c.checkState STATUS_FLAGS_ERROR with
  | true => exact Or.inl ⟨rfl, rfl⟩
  | false =>
      refine Or.inr ⟨rfl, ?_⟩
      rw [if_neg Bool.false_ne_true]
      dsimp only
      by_cases hzero : connectionRecvOpLen (connectionCompact c) = 0
      · rw [if_pos hzero, if_pos hzero]
        exact Or.inl ⟨hzero, rfl, rfl⟩
      · rw [if_neg hzero, if_neg hzero]
        have hkeeps := KeepsLength.bufferRecv (connectionCompact c)
          (connectionRecvOpLen (connectionCompact c))
        revert hkeeps
        cases tcpConnectionBufferRecv (connectionCompact c)
            (connectionRecvOpLen (connectionCompact c)) with
        | mk rv d =>
            intro hkeeps
            refine Or.inr ⟨hzero, d, hkeeps, ?_⟩
            cases rv with
            | error e => exact Or.inl ⟨e, rfl, rfl⟩
            | ok u => exact Or.inr ⟨rfl, rfl⟩

theorem ReceivesFitting.communicateRecv {c : Connection} (h : ReceivesFitting c) (now : Int64)
    (hfits : ∀ d, c.received = some d → d.PreambleStands → ¬ d.Oversized) :
    ReceivesFitting (tcpConnectionCommunicateRecv c now).2 := by
  have hkept := kept_communicateRecv c now
  have hidle := checkState_of_kept (m := STATUS_FLAGS_IDLE) hkept (by decide)
  rcases communicateRecv_cases c now with ⟨heq, -⟩ | ⟨herror, hcases⟩
  · rw [heq]
    exact h
  · have hcompact : connectionCompact c = c ∨
        c.checkState STATUS_FLAGS_MESSAGE_CONSUMED = true ∧ (connectionCompact c).recvMessageLen = 0 := by
      unfold connectionCompact
      split
      · next hconsumed => exact Or.inr ⟨hconsumed, rfl⟩
      · exact Or.inl rfl
    rcases hcases with ⟨-, heq, -⟩ | ⟨hasks, d, hkeeps, hcases⟩
    · rw [heq] at hidle ⊢
      obtain hsame | ⟨hconsumed, hzero⟩ := hcompact
      · rw [hsame]
        exact h
      · apply ReceivesFitting.of_fits
        · rw [hidle]
          by_contra hi
          rw [h.unused (Bool.eq_true_of_not_eq_false hi) (by decide)] at hconsumed
          cases hconsumed
        · rw [hzero]
          exact Nat.zero_le _
    · -- Something is asked for, so the slot is in use and the length it knows fits.
      have hrequested : connectionCompact c = c → c.checkState STATUS_FLAGS_RECEIVE_REQUESTED = true := by
        intro hsame
        by_contra hrr
        apply hasks
        rw [hsame, connectionRecvOpLen, if_neg hrr]
      have hused : c.checkState STATUS_FLAGS_IDLE = false := by
        by_contra hi
        have hidle' := Bool.eq_true_of_not_eq_false hi
        obtain hsame | ⟨hconsumed, -⟩ := hcompact
        · have hr := h.unused (m := STATUS_FLAGS_RECEIVE_REQUESTED) hidle' (by decide)
          rw [hrequested hsame] at hr
          cases hr
        · have hc := h.unused (m := STATUS_FLAGS_MESSAGE_CONSUMED) hidle' (by decide)
          rw [hconsumed] at hc
          cases hc
      have hstart : (connectionCompact c).recvMessageLen.toNat ≤
          (connectionCompact c).recvBufferLen := by
        obtain hsame | ⟨-, hzero⟩ := hcompact
        · obtain hf | he | ⟨-, hr⟩ := h.fits
          · rw [hsame]
            exact hf
          · rw [herror] at he
            cases he
          · rw [hrequested hsame] at hr
            cases hr
        · rw [hzero]
          exact Nat.zero_le _
      have hd := hkeeps.fits hstart
      rw [hused] at hidle
      rcases hcases with ⟨e, heq, -⟩ | ⟨heq, hreceived⟩
      · rw [heq] at hidle ⊢
        exact ReceivesFitting.of_fits hidle hd
      · rw [heq] at hidle ⊢
        by_cases hbad : (d.recvBufferPos ≥ 12 ∧ d.recvMessageLen = 0) ∧ ¬ d.PreambleStands
        · exact {
            idle := fun hi => by
              rw [hidle] at hi
              cases hi
            fits := Or.inr (Or.inl (recv2_refused now hbad.1 hbad.2).2) }
        · have hgood : d.recvBufferPos ≥ 12 ∧ d.recvMessageLen = 0 → d.PreambleStands := by
            intro hnew
            by_contra hno
            exact hbad ⟨hnew, hno⟩
          obtain ⟨-, hlen, hmessage⟩ := recv2_stands now hgood
          apply ReceivesFitting.of_fits hidle
          rw [hlen, hmessage]
          split
          · next hnew =>
              have hnot := hfits d hreceived (hgood hnew)
              rw [Connection.Oversized] at hnot
              by_contra hlt
              exact hnot ⟨hnew.1, hnew.2, by omega⟩
          · exact hd

/-! ## One call -/

theorem ReceivesFitting.step {c : Connection} (h : ReceivesFitting c) {call : TcpCall}
    (hfits : LengthFits c call) : ReceivesFitting (call.step c).2 := by
  have hconnecting : flagsCheck STATUS_FLAGS_CONNECTING STATUS_FLAGS_IDLE = false := by decide
  cases call with
  | environment arrived recvPlan sendPlan pollPlan =>
      exact h.of_keepsReceiving (KeepsReceiving.of_moves rfl rfl rfl) rfl rfl
  | processControl digest => exact h.processControl digest
  | communicateRecv now => exact h.communicateRecv now fun d => hfits now d rfl
  | communicateSend now => exact h.communicateSend now
  | accept now sock =>
      unfold TcpCall.step
      dsimp only
      split
      · next hidle => exact ReceivesFitting.of_fits hconnecting (h.idle hidle).2
      · exact h
  | connect now addr sock =>
      unfold TcpCall.step
      dsimp only
      split
      · next hidle =>
          have hle := (h.idle hidle).2
          unfold connectionImplConnect2
          dsimp only
          split
          · exact ReceivesFitting.of_fits hconnecting hle
          · split
            · exact ReceivesFitting.of_fits hconnecting hle
            · exact ReceivesFitting.of_fits hconnecting hle
      · exact h
  | messageReceiveConsume => exact h.consume
  | error =>
      exact h.of_keepsReceiving (KeepsReceiving.setState c (by decide))
        (Connection.checkState_setState (by decide)) (Connection.checkState_setState (by decide))
  | close =>
      unfold TcpCall.step connectionClose
      dsimp only
      split
      · exact h
      · exact h.of_keepsReceiving (KeepsReceiving.setState c (by decide))
          (Connection.checkState_setState (by decide)) (Connection.checkState_setState (by decide))
  | consumeClosed =>
      unfold TcpCall.step connectionConsumeClosed
      dsimp only
      split
      · exact h.of_keepsReceiving (KeepsReceiving.setState c (by decide))
          (Connection.checkState_setState (by decide)) (Connection.checkState_setState (by decide))
      · exact h
  | session d =>
      have hstate : ((TcpCall.session d).step c).2.connectionState &&& TRANSPORT_FLAGS =
          c.connectionState &&& TRANSPORT_FLAGS := flagsMerge_and ..
      have hcheck : ∀ m : BitVec 32, TRANSPORT_FLAGS &&& m = m →
          ((TcpCall.session d).step c).2.checkState m = c.checkState m := by
        intro m hm
        unfold Connection.checkState
        rw [← flagsCheck_and hm, hstate, flagsCheck_and hm]
      have hreceive : TRANSPORT_FLAGS &&& RECEIVE_FLAGS = RECEIVE_FLAGS := by decide
      refine h.of_keepsReceiving ⟨⟨rfl, Or.inl rfl, ?_⟩, ?_⟩ (hcheck _ (by decide))
        (hcheck _ (by decide))
      · exact fun he => (hcheck _ (by decide)).trans he
      · rw [← hreceive, ← BitVec.and_assoc, hstate, BitVec.and_assoc]

/-- What one call does, under the invariant. -/
theorem ReceivesFitting.neverWedges_iff {c : Connection} (h : ReceivesFitting c) (call : TcpCall) :
    NeverWedges c call ↔ LengthFits c call := by
  constructor
  · rintro hcall now d rfl hreceived hstands hover
    obtain ⟨⟨e, he⟩, -⟩ := hcall.answered now d rfl hreceived hover
    rcases communicateRecv_cases c now with ⟨-, hnone⟩ | ⟨-, ⟨-, -, hnone⟩ | ⟨-, d', -, hcases⟩⟩
    · rw [hnone] at hreceived
      cases hreceived
    · rw [hnone] at hreceived
      cases hreceived
    · rcases hcases with ⟨-, -, hnone⟩ | ⟨heq, hsome⟩
      · rw [hnone] at hreceived
        cases hreceived
      · rw [hsome] at hreceived
        injection hreceived with hd
        subst hd
        rw [TcpCall.step, heq, (recv2_stands now fun _ => hstands).1] at he
        cases he
  · intro hfits
    refine ⟨(h.step hfits).not_wedged, ?_⟩
    rintro now d rfl hreceived hover
    have hno : ¬ d.PreambleStands := fun hstands => hfits now d rfl hreceived hstands hover
    rcases communicateRecv_cases c now with ⟨-, hnone⟩ | ⟨-, ⟨-, -, hnone⟩ | ⟨-, d', -, hcases⟩⟩
    · rw [hnone] at hreceived
      cases hreceived
    · rw [hnone] at hreceived
      cases hreceived
    · rcases hcases with ⟨-, -, hnone⟩ | ⟨heq, hsome⟩
      · rw [hnone] at hreceived
        cases hreceived
      · rw [hsome] at hreceived
        injection hreceived with hd
        subst hd
        rw [TcpCall.step, heq]
        exact recv2_refused now ⟨hover.1, hover.2.1⟩ hno

/-- On a slot with any receive buffer, no run of calls wedges the connection and each length
larger than the buffer is answered with an error, exactly as long as the preambles that stand
announce lengths that fit. -/
theorem connection_neverWedges_iff (sendBuffer recvBuffer : List UInt8) (calls : List TcpCall) :
    EveryCall TcpCall.step NeverWedges (freshSlot sendBuffer recvBuffer) calls ↔
      EveryCall TcpCall.step LengthFits (freshSlot sendBuffer recvBuffer) calls :=
  everyCall_iff (D := fun _ _ => True) (I := fun _ => ReceivesFitting)
    (fun _ _ call h _ => h.neverWedges_iff call) (fun _ _ _ h _ hfits => h.step hfits)
    (freshSlot_fitting sendBuffer recvBuffer) (everyCall_true _ _)

end

section

open Lp64

/-- Eighty bytes of a message that announces a hundred. -/
def eightyOfHundred : List UInt8 :=
  rracMagic ++ [100, 0, 0, 0] ++ [2, 0] ++ List.replicate 70 0

/-- A peer is accepted and sends them into a receive buffer of eighty bytes. -/
def sendsTooMuch : List TcpCall :=
  [.accept 0 ⟨0, [], [], [], [], [], 3, []⟩, .environment eightyOfHundred [.ready 3] [] [],
    .processControl noDigest, .environment [] [.ready 63] [] [], .communicateRecv 0,
    .environment [] [.ready 11] [] [], .communicateRecv 0]

def wedgedSlot : Connection :=
  final TcpCall.step (freshSlot [] (List.replicate 80 0)) sendsTooMuch

theorem wedgedSlot_wedged : wedgedSlot.Wedged where
  error := by decide +kernel
  closing := by decide +kernel
  requested := by decide +kernel
  begun := by decide +kernel
  incomplete := by decide +kernel
  full := by decide +kernel

/-- The connection is plain and stays where it is: every receive from now on asks for nothing
and answers success. -/
theorem wedgedSlot_stays :
    wedgedSlot.transportStorage.checkState TCP_TRANSPORT_STATE_IS_WEBSOCKET = false ∧
      wedgedSlot.Wedged ∧ wedgedSlot.recvMessageLen = 100 ∧
      tcpConnectionCommunicateRecv wedgedSlot 1 = (.ok (), wedgedSlot) ∧
      ¬ EveryCall TcpCall.step NeverWedges (freshSlot [] (List.replicate 80 0)) sendsTooMuch := by
  refine ⟨by decide +kernel, wedgedSlot_wedged, by decide +kernel, by decide +kernel, ?_⟩
  rintro ⟨-, -, -, -, -, -, ⟨hruns, -⟩, -⟩
  exact hruns wedgedSlot_wedged

end

end RobotRaconteurLite

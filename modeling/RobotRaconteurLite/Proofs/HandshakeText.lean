import RobotRaconteurLite.Lib.CallSequence
import RobotRaconteurLite.Lib.OffsetReader
import RobotRaconteurLite.Proofs.Descriptors
import RobotRaconteurLite.Proofs.FailedConnect

/-!
# The text of the HTTP handshake

A WebSocket connection starts with a text in its send buffer: a client's request, placed
there when it connects, or a server's response, placed there when the request is
complete. The control step sends the text as it is, in as many pieces as the socket
makes of it, and the connection is established when all of it is out
(`TextOnWay.processControl`).

While some of it is left the connection is marked as sending, as it is for a message,
and as one that uses frames. The send step cannot tell: made then, it puts the rest of
the text in a frame and masks it. A run whose send steps are not made then sends the
text and nothing else (`handshake_verbatim`).
-/

namespace RobotRaconteurLite

open Splice CallSequence

/-! ## Steps -/

/-- A step of a run before the connection is established, with what the socket does
during it. -/
inductive HandshakeCall
  | processControl (recvPlan sendPlan : List IoOutcome) (pollPlan : List PollOutcome)
  | communicateSend (sendPlan : List IoOutcome) (now : Int64)

def HandshakeCall.step [SizeT] (digest : TcpDigest) (c : Connection) :
    HandshakeCall → Result Unit × Connection
  | .processControl recvPlan sendPlan pollPlan =>
      tcpConnectionCommunicateProcessControl digest { c with
        sock := { c.sock with recvPlan := recvPlan, sendPlan := sendPlan, pollPlan := pollPlan } }
  | .communicateSend sendPlan now =>
      tcpConnectionCommunicateSend { c with sock := { c.sock with sendPlan := sendPlan } } now

/-- What the peer has sent since the receive buffer was last emptied. -/
def Connection.recvStream (c : Connection) : List UInt8 :=
  c.recvBuffer.take c.recvBufferPos ++ c.sock.inbox

/-- The bytes placed in the send buffer. -/
def Connection.placedText (c : Connection) : List UInt8 :=
  c.sendBuffer.take c.sendMessageLen.toNat

/-- The flags of a connection that messages are sent on. -/
def TRAFFIC_FLAGS : BitVec 32 :=
  STATUS_FLAGS_CONNECTED ||| STATUS_FLAGS_SEND_REQUESTED ||| STATUS_FLAGS_MESSAGE_SENT |||
    STATUS_FLAGS_MESSAGE_SENT_CONSUMED

/-- What stays while bytes are received and flags of the handshake change. -/
structure KeepsText (c c' : Connection) : Prop where
  sent : c'.sock.sent = c.sock.sent
  sendBuffer : c'.sendBuffer = c.sendBuffer
  sendBufferPos : c'.sendBufferPos = c.sendBufferPos
  sendMessageLen : c'.sendMessageLen = c.sendMessageLen
  frameLen : c'.transportStorage.sendWebsocketFrameLen = c.transportStorage.sendWebsocketFrameLen
  quiet : c'.checkState TRAFFIC_FLAGS = c.checkState TRAFFIC_FLAGS
  server : connectionIsServer c' = connectionIsServer c

theorem KeepsText.refl (c : Connection) : KeepsText c c := ⟨rfl, rfl, rfl, rfl, rfl, rfl, rfl⟩

theorem KeepsText.trans {c c' c'' : Connection} (h : KeepsText c c') (h' : KeepsText c' c'') :
    KeepsText c c'' :=
  ⟨h'.1.trans h.1, h'.2.trans h.2, h'.3.trans h.3, h'.4.trans h.4, h'.5.trans h.5,
    h'.6.trans h.6, h'.7.trans h.7⟩

theorem KeepsText.setState (c : Connection) {m : BitVec 32} (h : m &&& TRAFFIC_FLAGS = 0#32) :
    KeepsText c (c.setState m) :=
  ⟨rfl, rfl, rfl, rfl, rfl, Connection.checkState_setState h, rfl⟩

theorem KeepsText.clearState (c : Connection) {m : BitVec 32} (h : m &&& TRAFFIC_FLAGS = 0#32) :
    KeepsText c (c.clearState m) :=
  ⟨rfl, rfl, rfl, rfl, rfl, Connection.checkState_clearState h, rfl⟩

/-- A step that receives, besides. -/
structure ReceivesOn (c c' : Connection) : Prop extends KeepsText c c' where
  stream : c.recvBufferPos ≤ c.recvBuffer.length →
    c'.recvStream = c.recvStream ∧ c'.recvBufferPos ≤ c'.recvBuffer.length

theorem ReceivesOn.refl (c : Connection) : ReceivesOn c c :=
  ⟨KeepsText.refl c, fun hpos => ⟨rfl, hpos⟩⟩

theorem ReceivesOn.trans {c c' c'' : Connection} (h : ReceivesOn c c') (h' : ReceivesOn c' c'') :
    ReceivesOn c c'' := by
  refine ⟨h.toKeepsText.trans h'.toKeepsText, fun hpos => ?_⟩
  obtain ⟨hstream, hpos'⟩ := h.stream hpos
  obtain ⟨hstream', hpos''⟩ := h'.stream hpos'
  exact ⟨hstream'.trans hstream, hpos''⟩

theorem ReceivesOn.setState (c : Connection) {m : BitVec 32} (h : m &&& TRAFFIC_FLAGS = 0#32) :
    ReceivesOn c (c.setState m) :=
  ⟨KeepsText.setState c h, fun hpos => ⟨rfl, hpos⟩⟩

theorem ReceivesOn.recv (c : Connection) (len : Nat) :
    ReceivesOn c (tcpConnectionRecv c len).2 := by
  obtain ⟨sock, hspec, hrest⟩ := tcpConnectionRecv_spec c len
  have hmoved := ioMoved_le c.sock.recvPlan len c.sock.inbox.length
  generalize ioMoved _ _ _ = k at hspec hmoved
  generalize tcpConnectionRecv _ _ = run at hspec hrest ⊢
  obtain ⟨rv, c'⟩ := run
  dsimp only at hspec hrest ⊢
  have hlength : (c.sock.inbox.take k).length = k := List.length_take_of_le hmoved.2
  have hgot : c'.recvBufferPos = c.recvBufferPos + k := hspec.pos_eq
  have hbuffer : c'.recvBuffer = overwrite c.recvBuffer c.recvBufferPos (c.sock.inbox.take k) :=
    hspec.buffer_eq
  have hinbox : c'.sock.inbox = c.sock.inbox.drop k := by
    rw [hrest]
    exact hspec.inbox_eq
  refine ⟨?_, fun hpos => ⟨?_, ?_⟩⟩
  · rw [hrest]
    exact ⟨hspec.sent_eq, rfl, rfl, rfl, rfl, rfl, rfl⟩
  · have hkept : (overwrite c.recvBuffer c.recvBufferPos (c.sock.inbox.take k)).take
        (c.recvBufferPos + (c.sock.inbox.take k).length) =
          c.recvBuffer.take c.recvBufferPos ++ c.sock.inbox.take k := take_overwrite hpos
    rw [hlength] at hkept
    rw [Connection.recvStream, hgot, hbuffer, hkept, hinbox, List.append_assoc,
      List.take_append_drop]
    rfl
  · have hgrown : c.recvBufferPos + (c.sock.inbox.take k).length ≤
        (overwrite c.recvBuffer c.recvBufferPos (c.sock.inbox.take k)).length :=
      length_overwrite_ge hpos
    rw [hgot, hbuffer]
    rw [hlength] at hgrown
    exact hgrown

theorem ReceivesOn.recvHeaderLoop (fuel : Nat) (c : Connection) :
    ReceivesOn c (tcpConnectionHandshakeHttpRecvHeaderLoop fuel c).2 := by
  induction fuel generalizing c with
  | zero => exact ReceivesOn.refl c
  | succ fuel ih =>
      have hrecv := ReceivesOn.recv c (c.recvBufferPos + 1)
      rw [tcpConnectionHandshakeHttpRecvHeaderLoop]
      split
      · exact ReceivesOn.refl c
      · dsimp only
        generalize tcpConnectionRecv c (c.recvBufferPos + 1) = run at hrecv ⊢
        obtain ⟨rv, c'⟩ := run
        cases rv with
        | error e => exact hrecv.trans (ReceivesOn.setState c' (by decide))
        | ok _ =>
            dsimp only
            split
            · exact hrecv
            · split
              · exact hrecv
              · exact hrecv.trans (ih c')

theorem ReceivesOn.recvHeader (c : Connection) :
    ReceivesOn c (tcpConnectionHandshakeHttpRecvHeader c).2 :=
  ReceivesOn.recvHeaderLoop _ c

/-! ## The text on its way -/

/-- Not established, and the text goes out: what is sent is the text up to the position. -/
structure TextOnWay (text : List UInt8) (c : Connection) : Prop where
  quiet : c.checkState TRAFFIC_FLAGS = false
  noFrame : c.transportStorage.sendWebsocketFrameLen = 0
  length_eq : c.sendMessageLen.toNat = text.length
  placed : c.sendBuffer.take text.length = text
  pos_le : c.sendBufferPos ≤ text.length
  sent : c.sock.sent = text.take c.sendBufferPos
  some_of_server : connectionIsServer c = true → text ≠ []

/-- The connection was closed, with some of the text sent. -/
structure TextCutOff (text : List UInt8) (c : Connection) : Prop where
  quiet : c.checkState TRAFFIC_FLAGS = false
  noFrame : c.transportStorage.sendWebsocketFrameLen = 0
  closed : c.checkState (STATUS_FLAGS_CLOSED ||| STATUS_FLAGS_IDLE) = true
  sent : c.sock.sent <+: text
  placed : c.sendMessageLen = 0 ∨ c.placedText = text

/-- Established, with all of the text sent. -/
structure TextSent (text : List UInt8) (c : Connection) : Prop where
  connected : c.checkState STATUS_FLAGS_CONNECTED = true
  silent : c.checkState STATUS_FLAGS_MESSAGE_SENT = false
  noFrame : c.transportStorage.sendWebsocketFrameLen = 0
  sent : c.sock.sent = text
  some_of_server : connectionIsServer c = true → text ≠ []

inductive TextState (text : List UInt8) (c : Connection) : Prop
  | onWay (h : TextOnWay text c)
  | cutOff (h : TextCutOff text c)
  | sent (h : TextSent text c)

theorem TextOnWay.keeps {text : List UInt8} {c c' : Connection} (h : TextOnWay text c)
    (hk : KeepsText c c') : TextOnWay text c' where
  quiet := hk.quiet.trans h.quiet
  noFrame := hk.frameLen.trans h.noFrame
  length_eq := (congrArg UInt32.toNat hk.sendMessageLen).trans h.length_eq
  placed := by
    rw [hk.sendBuffer]
    exact h.placed
  pos_le := by
    rw [hk.sendBufferPos]
    exact h.pos_le
  sent := by
    rw [hk.sent, hk.sendBufferPos]
    exact h.sent
  some_of_server hs := h.some_of_server (hk.server.symm.trans hs)

theorem TextOnWay.placedText_eq {text : List UInt8} {c : Connection} (h : TextOnWay text c) :
    c.placedText = text := by
  rw [Connection.placedText, h.length_eq, h.placed]

/-- A flag of traffic is not set where none of them is. -/
theorem checkState_of_quiet {c : Connection} (h : c.checkState TRAFFIC_FLAGS = false)
    {m : BitVec 32} (hm : TRAFFIC_FLAGS &&& m = m) : c.checkState m = false := by
  cases hflag : c.checkState m with
  | false => rfl
  | true =>
      have hany : c.checkState TRAFFIC_FLAGS = true := flagsCheck_of_subset hm hflag
      rw [h] at hany
      cases hany

theorem TextOnWay.connectedWebsocket {text : List UInt8} {c : Connection} (h : TextOnWay text c)
    (hall : text.length ≤ c.sendBufferPos) : TextSent text c.connectedWebsocket where
  connected := (Connection.checkState_clearState (by decide)).trans
    (Connection.checkState_setState_of_overlap (by decide))
  silent := (Connection.checkState_clearState (by decide)).trans
    ((Connection.checkState_setState (by decide)).trans (checkState_of_quiet h.quiet (by decide)))
  noFrame := h.noFrame
  sent := h.sent.trans (List.take_of_length_le hall)
  some_of_server := h.some_of_server

theorem isConnectionComplete_sent (sock : Socket) :
    (tcpSocketIsConnectionComplete sock).2.sent = sock.sent := by
  unfold tcpSocketIsConnectionComplete
  cases sock.pollPlan with
  | nil => rfl
  | cons outcome plan => cases outcome <;> rfl

/-- The question whether the socket is connected is no matter of the text. -/
theorem checkConnected_keeps (c : Connection) :
    KeepsText c (tcpConnectionCheckConnected c).2 ∧
      ∀ m, (STATUS_FLAGS_CLIENT_SOCKET_CONNECTED ||| STATUS_FLAGS_RECEIVE_REQUESTED) &&& m = 0#32 →
        (tcpConnectionCheckConnected c).2.checkState m = c.checkState m := by
  have hsent := isConnectionComplete_sent c.sock
  unfold tcpConnectionCheckConnected
  split
  · dsimp only
    generalize tcpSocketIsConnectionComplete c.sock = run at hsent
    split
    · exact ⟨⟨hsent, rfl, rfl, rfl, rfl, rfl, rfl⟩, fun _ _ => rfl⟩
    · exact ⟨⟨hsent, rfl, rfl, rfl, rfl, rfl, flagsCheck_set_of_disjoint (by decide)⟩,
        fun _ _ => rfl⟩
    · exact ⟨⟨hsent, rfl, rfl, rfl, rfl, Connection.checkState_setState (by decide), rfl⟩,
        fun _ hm => Connection.checkState_setState hm⟩
  · exact ⟨KeepsText.refl c, fun _ _ => rfl⟩

theorem TextCutOff.checkConnected {text : List UInt8} {c : Connection} (h : TextCutOff text c) :
    TextCutOff text (tcpConnectionCheckConnected c).2 := by
  obtain ⟨hk, hflags⟩ := checkConnected_keeps c
  refine ⟨hk.quiet.trans h.quiet, hk.frameLen.trans h.noFrame,
    (hflags _ (by decide)).trans h.closed, ?_, ?_⟩
  · rw [hk.sent]
    exact h.sent
  · rw [Connection.placedText, hk.sendMessageLen, hk.sendBuffer]
    exact h.placed

/-- The end of the control step keeps where the text is. -/
theorem TextState.checkConnected {text : List UInt8} {c : Connection} (h : TextState text c) :
    TextState text (tcpConnectionCheckConnected c).2 := by
  obtain ⟨hk, hflags⟩ := checkConnected_keeps c
  cases h with
  | onWay h => exact .onWay (h.keeps hk)
  | cutOff h => exact .cutOff h.checkConnected
  | sent h =>
      exact .sent ⟨(hflags _ (by decide)).trans h.connected, (hflags _ (by decide)).trans h.silent,
        hk.frameLen.trans h.noFrame, hk.sent.trans h.sent,
        fun hs => h.some_of_server (hk.server.symm.trans hs)⟩

section

variable [SizeT]

/-- A send of the text goes on with it. -/
theorem TextOnWay.send {text : List UInt8} {c : Connection} (h : TextOnWay text c) :
    TextOnWay text (tcpConnectionSend c (subSz c.sendMessageLen.toNat c.sendBufferPos)).2 := by
  have hpos := h.pos_le
  have hleft : subSz c.sendMessageLen.toNat c.sendBufferPos = text.length - c.sendBufferPos := by
    have hlt := Nat.lt_of_lt_of_le (UInt32.toNat_lt c.sendMessageLen) SizeT.le_modulus
    rw [subSz_eq (by rw [h.length_eq]; exact hpos) hlt, h.length_eq]
  rw [hleft]
  obtain ⟨sock, hspec, hrest⟩ := tcpConnectionSend_spec c (text.length - c.sendBufferPos)
  have hmoved := (ioMoved_le c.sock.sendPlan (text.length - c.sendBufferPos)
    (text.length - c.sendBufferPos)).1
  generalize ioMoved _ _ _ = k at hspec hmoved
  have hgone := hspec.pos_eq
  dsimp only at hgone
  have hslice : slice c.sendBuffer c.sendBufferPos k = slice text c.sendBufferPos k := by
    rw [← slice_take (n := text.length) (show c.sendBufferPos + k ≤ text.length by omega), h.placed]
  rw [hrest, hgone]
  refine ⟨h.quiet, h.noFrame, h.length_eq, h.placed, ?_, ?_, h.some_of_server⟩
  · dsimp only
    omega
  · have hsent : sock.sent = c.sock.sent ++ slice c.sendBuffer c.sendBufferPos k := hspec.sent_eq
    dsimp only
    rw [hsent, hslice, h.sent, slice, List.take_add]

omit [SizeT] in
/-- A client that has sent its request waits for the answer. -/
theorem TextOnWay.clientReply {text : List UInt8} {c : Connection} (h : TextOnWay text c)
    (hall : text.length ≤ c.sendBufferPos) :
    TextState text (tcpConnectionHandshakeClientReply c).2 := by
  have hheader := (ReceivesOn.recvHeader (c.clearState STATUS_FLAGS_SENDING)).toKeepsText
  have hkept := (KeepsText.clearState c (m := STATUS_FLAGS_SENDING) (by decide)).trans hheader
  unfold tcpConnectionHandshakeClientReply
  generalize tcpConnectionHandshakeHttpRecvHeader (c.clearState STATUS_FLAGS_SENDING) = run
    at hkept ⊢
  obtain ⟨rv, c'⟩ := run
  have hwaits := h.keeps hkept
  split
  · next heq =>
      obtain ⟨-, rfl⟩ := Prod.mk.inj heq
      exact .onWay hwaits
  · next heq =>
      obtain ⟨-, rfl⟩ := Prod.mk.inj heq
      exact .onWay hwaits
  · next heq =>
      obtain ⟨-, rfl⟩ := Prod.mk.inj heq
      exact .onWay (hwaits.keeps (KeepsText.setState c' (by decide)))
  · next heq =>
      obtain ⟨-, rfl⟩ := Prod.mk.inj heq
      split
      · exact .onWay hwaits
      · have hup := hwaits.connectedWebsocket (by
          rw [hkept.sendBufferPos]
          exact hall)
        exact .sent ⟨hup.connected, hup.silent, hup.noFrame, hup.sent, hup.some_of_server⟩

/-- The handshake with the text in the buffer. -/
theorem TextOnWay.handshake (digest : TcpDigest) {text : List UInt8} {c : Connection}
    (h : TextOnWay text c) : TextState text (tcpConnectionHandshake digest c).2 := by
  have hsend := h.send
  unfold tcpConnectionHandshake
  split
  · exact .onWay h
  · split
    · next hserver =>
        have hsome := List.length_pos_iff.mpr (h.some_of_server hserver)
        unfold tcpConnectionHandshakeServer
        split
        · exact .onWay h
        · have hbegun : c.sendMessageLen > 0 := by
            rw [gt_iff_lt, UInt32.lt_iff_toNat_lt, h.length_eq]
            exact hsome
          rw [if_pos hbegun]
          generalize tcpConnectionSend c _ = run at hsend ⊢
          obtain ⟨rv, c'⟩ := run
          have hlength := hsend.length_eq
          split
          · next heq =>
              obtain ⟨-, rfl⟩ := Prod.mk.inj heq
              exact .onWay hsend
          · next heq =>
              obtain ⟨-, rfl⟩ := Prod.mk.inj heq
              exact .onWay (hsend.keeps (KeepsText.setState c' (by decide)))
          · next heq =>
              obtain ⟨-, rfl⟩ := Prod.mk.inj heq
              split
              · exact .onWay hsend
              · next hall =>
                  exact .sent (hsend.connectedWebsocket (hlength ▸ Nat.le_of_not_lt hall))
    · unfold tcpConnectionHandshakeClient
      split
      · exact .onWay h
      · split
        · exact .onWay h
        · split
          · generalize tcpConnectionSend c _ = run at hsend ⊢
            obtain ⟨rv, c'⟩ := run
            have hlength := hsend.length_eq
            split
            · next heq =>
                obtain ⟨-, rfl⟩ := Prod.mk.inj heq
                exact .onWay (hsend.keeps (KeepsText.setState c' (by decide)))
            · next heq =>
                obtain ⟨-, rfl⟩ := Prod.mk.inj heq
                split
                · exact .onWay (hsend.keeps (KeepsText.setState c' (by decide)))
                · next hall => exact hsend.clientReply (hlength ▸ Nat.le_of_not_lt hall)
          · next hnone =>
              have hzero : text.length = 0 := by
                rw [← h.length_eq]
                have hle : ¬ 0 < c.sendMessageLen.toNat := fun hlt =>
                  hnone (UInt32.lt_iff_toNat_lt.mpr hlt)
                omega
              exact h.clientReply (by rw [hzero]; exact Nat.zero_le _)

omit [SizeT] in
/-- A slot that is reset or closed has nothing more to send. -/
theorem textCutOff_reset {text : List UInt8} {c : Connection} (hsent : c.sock.sent <+: text)
    (hframe : c.transportStorage.sendWebsocketFrameLen = 0) :
    TextCutOff text (connectionReset c) where
  quiet := show flagsCheck STATUS_FLAGS_IDLE TRAFFIC_FLAGS = false by decide
  noFrame := hframe
  closed := show flagsCheck STATUS_FLAGS_IDLE (STATUS_FLAGS_CLOSED ||| STATUS_FLAGS_IDLE) = true by
    decide
  sent := hsent
  placed := Or.inl rfl

omit [SizeT] in
theorem textCutOff_closed {text : List UInt8} {c : Connection} (hsent : c.sock.sent <+: text)
    (hframe : c.transportStorage.sendWebsocketFrameLen = 0)
    (hplaced : c.sendMessageLen = 0 ∨ c.placedText = text) :
    TextCutOff text (connectionImplCommunicateAfterCloseRequested
      { c with sock := tcpSocketClose c.sock }).2 where
  quiet := show flagsCheck STATUS_FLAGS_CLOSED TRAFFIC_FLAGS = false by decide
  noFrame := hframe
  closed := show flagsCheck STATUS_FLAGS_CLOSED (STATUS_FLAGS_CLOSED ||| STATUS_FLAGS_IDLE) = true by
    decide
  sent := hsent
  placed := hplaced

/-- What the control step makes of a state is told by what the handshake makes of it. -/
theorem processControl_of_handshake {digest : TcpDigest} {c : Connection} {P : Connection → Prop}
    (hsame : P c) (hreset : P (connectionReset c))
    (hclosed : P (connectionImplCommunicateAfterCloseRequested
      { c with sock := tcpSocketClose c.sock }).2)
    (hfailed : c.IsOpen → ∀ e d, tcpConnectionHandshake digest c = (.error e, d) → P d)
    (hdone : c.IsOpen → ∀ d, tcpConnectionHandshake digest c = (.ok (), d) →
      P (tcpConnectionCheckConnected d).2) :
    P (tcpConnectionCommunicateProcessControl digest c).2 := by
  unfold tcpConnectionCommunicateProcessControl
  obtain himpl | ⟨-, himpl⟩ | ⟨hopen, himpl⟩ := implProcessControl_cases c
  · rw [himpl]
    exact hsame
  · rw [himpl]
    exact hreset
  · rw [himpl]
    dsimp only
    split
    · exact hclosed
    · split
      · next e d hrun => exact hfailed hopen e d hrun
      · next d hrun => exact hdone hopen d hrun

/-- A control step goes on with the text, or the connection is closed. -/
theorem TextOnWay.processControl (digest : TcpDigest) {text : List UInt8} {c : Connection}
    (h : TextOnWay text c) :
    TextState text (tcpConnectionCommunicateProcessControl digest c).2 := by
  have hsent : c.sock.sent <+: text := by
    rw [h.sent]
    exact List.take_prefix _ _
  have hrun := h.handshake digest
  apply processControl_of_handshake
  · exact .onWay h
  · exact .cutOff (textCutOff_reset hsent h.noFrame)
  · exact .cutOff (textCutOff_closed hsent h.noFrame (Or.inr h.placedText_eq))
  · intro _ e d heq
    rw [heq] at hrun
    exact hrun
  · intro _ d heq
    rw [heq] at hrun
    exact hrun.checkConnected

omit [SizeT] in
theorem TextCutOff.not_open {text : List UInt8} {c : Connection} (h : TextCutOff text c) :
    ¬ c.IsOpen := by
  intro hopen
  have hclosed := hopen.2.2
  rw [h.closed] at hclosed
  cases hclosed

theorem TextCutOff.processControl (digest : TcpDigest) {text : List UInt8} {c : Connection}
    (h : TextCutOff text c) :
    TextCutOff text (tcpConnectionCommunicateProcessControl digest c).2 := by
  apply processControl_of_handshake
  · exact h
  · exact textCutOff_reset h.sent h.noFrame
  · exact textCutOff_closed h.sent h.noFrame h.placed
  · exact fun hopen => absurd hopen h.not_open
  · exact fun hopen => absurd hopen h.not_open

/-! ## Before the response is placed -/

/-- A server that has received some of the request in `stream` and placed nothing. -/
structure AwaitsRequest (stream : List UInt8) (c : Connection) : Prop where
  quiet : c.checkState TRAFFIC_FLAGS = false
  noFrame : c.transportStorage.sendWebsocketFrameLen = 0
  server : connectionIsServer c = true
  nothing : c.sendMessageLen = 0
  unsent : c.sock.sent = []
  stream_eq : c.recvStream = stream
  pos_le : c.recvBufferPos ≤ c.recvBuffer.length

/-- The response to a request at the start of `stream`. -/
def IsResponse (digest : TcpDigest) (stream text : List UInt8) : Prop :=
  ∃ request key accept, request <+: stream ∧ tcpHttpClientKey request = .ok key ∧
    tcpHttpAcceptKey digest key = .ok accept ∧
    text = HTTP_RESPONSE_1 ++ accept ++ HTTP_RESPONSE_2

/-- What a step of a server that has placed nothing leads to. -/
inductive RequestAnswered (digest : TcpDigest) (stream : List UInt8) (c : Connection) : Prop
  | awaits (h : AwaitsRequest stream c)
  | cutOff (h : TextCutOff [] c)
  | placed {text : List UInt8} (his : IsResponse digest stream text) (h : TextState text c)

variable {digest : TcpDigest} {stream : List UInt8} {c : Connection}

omit [SizeT] in
theorem AwaitsRequest.receives {c' : Connection} (h : AwaitsRequest stream c)
    (hr : ReceivesOn c c') : AwaitsRequest stream c' := by
  obtain ⟨hstream, hpos⟩ := hr.stream h.pos_le
  exact ⟨hr.quiet.trans h.quiet, hr.frameLen.trans h.noFrame, hr.server.trans h.server,
    hr.sendMessageLen.trans h.nothing, hr.sent.trans h.unsent, hstream.trans h.stream_eq, hpos⟩

omit [SizeT] in
theorem length_acceptKey {key accept : List UInt8}
    (h : tcpHttpAcceptKey digest key = .ok accept) : accept.length = 28 := by
  unfold tcpHttpAcceptKey at h
  split at h
  · cases h
  · split at h
    · cases h
    · split at h
      · next hlen =>
          cases h
          exact hlen
      · cases h

/-- A text is placed in the send buffer, and the receive buffer emptied. -/
def Connection.placeText (c : Connection) (text : List UInt8) : Connection :=
  { c with
    recvBufferPos := 0
    sendBufferPos := 0
    sendBuffer := overwrite c.sendBuffer 0 text
    sendMessageLen := UInt32.ofNat text.length }

omit [SizeT] in
theorem AwaitsRequest.placeText (h : AwaitsRequest stream c) {text : List UInt8}
    (hlength : text.length = 215) : TextOnWay text (c.placeText text) := by
  refine ⟨h.quiet, h.noFrame, ?_, ?_, Nat.zero_le _, h.unsent, fun _ hnil => ?_⟩
  · rw [Connection.placeText, hlength]
    rfl
  · have htake : (overwrite c.sendBuffer 0 text).take (0 + text.length) =
        c.sendBuffer.take 0 ++ text := take_overwrite (Nat.zero_le _)
    rw [Nat.zero_add] at htake
    exact htake
  · rw [hnil] at hlength
    cases hlength

omit [SizeT] in
theorem length_response {key accept : List UInt8}
    (h : tcpHttpAcceptKey digest key = .ok accept) :
    (HTTP_RESPONSE_1 ++ accept ++ HTTP_RESPONSE_2).length = 215 := by
  rw [List.length_append, List.length_append, length_acceptKey h]
  decide +kernel

/-- The response is placed, and as much of it sent as the socket takes. -/
theorem AwaitsRequest.httpHandshake (h : AwaitsRequest stream c) (digest : TcpDigest) :
    ((tcpConnectionHandshakeHttpHandshake digest c).1 ≠ .ok () ∧
        AwaitsRequest stream (tcpConnectionHandshakeHttpHandshake digest c).2) ∨
      ∃ text, IsResponse digest stream text ∧
        TextOnWay text (tcpConnectionHandshakeHttpHandshake digest c).2 := by
  unfold tcpConnectionHandshakeHttpHandshake
  cases hkey : tcpHttpClientKey (c.recvBuffer.take c.recvBufferPos) >>= tcpHttpAcceptKey digest with
  | error e => exact Or.inl ⟨nofun, h⟩
  | ok accept =>
      obtain ⟨key, hclient, haccept⟩ := OffsetReader.bind_eq_ok.mp hkey
      dsimp only
      split
      · exact Or.inl ⟨nofun, h⟩
      · have hlength := length_response haccept
        generalize htext : HTTP_RESPONSE_1 ++ accept ++ HTTP_RESPONSE_2 = text at hlength ⊢
        have his : IsResponse digest stream text := by
          refine ⟨_, key, accept, ?_, hclient, haccept, htext.symm⟩
          rw [← h.stream_eq]
          exact List.prefix_append _ _
        exact Or.inr ⟨text, his, (h.placeText hlength).send⟩

/-- The request of a peer that speaks HTTP, and the response when the request is complete. -/
theorem AwaitsRequest.serverHttp (h : AwaitsRequest stream c) :
    RequestAnswered digest stream (tcpConnectionHandshakeServerHttp digest c).2 := by
  have hheader := h.receives (ReceivesOn.recvHeader c)
  unfold tcpConnectionHandshakeServerHttp
  generalize tcpConnectionHandshakeHttpRecvHeader c = run at hheader ⊢
  obtain ⟨rv, c'⟩ := run
  split
  · next heq =>
      obtain ⟨-, rfl⟩ := Prod.mk.inj heq
      exact .awaits hheader
  · next heq =>
      obtain ⟨-, rfl⟩ := Prod.mk.inj heq
      exact .awaits (hheader.receives (ReceivesOn.setState c' (by decide)))
  · next heq =>
      obtain ⟨-, rfl⟩ := Prod.mk.inj heq
      have hanswered := hheader.httpHandshake digest
      generalize tcpConnectionHandshakeHttpHandshake digest c' = run at hanswered ⊢
      obtain ⟨rv, c''⟩ := run
      cases rv with
      | error e =>
          obtain ⟨-, h⟩ | ⟨text, his, hway⟩ := hanswered
          · exact .awaits (h.receives (ReceivesOn.setState c'' (by decide)))
          · exact .placed his (.onWay (hway.keeps (KeepsText.setState c'' (by decide))))
      | ok _ =>
          obtain ⟨hne, -⟩ | ⟨text, his, hway⟩ := hanswered
          · exact absurd rfl hne
          · have hsending := hway.keeps
              (KeepsText.setState c'' (m := STATUS_FLAGS_SENDING) (by decide))
            dsimp only
            split
            · next hall =>
                refine .placed his (.sent (hsending.connectedWebsocket ?_))
                rw [← hsending.length_eq, ← hall.2]
            · exact .placed his (.onWay hsending)

omit [SizeT] in
/-- A peer that sent `GET ` is told by its first four bytes. -/
theorem AwaitsRequest.first_four (h : AwaitsRequest stream c) (hget : HTTP_GET <+: stream)
    (hpos : 4 ≤ c.recvBufferPos) : slice c.recvBuffer 0 4 = HTTP_GET := by
  have hle := h.pos_le
  have hfour : HTTP_GET.length = 4 := by decide +kernel
  have htake := List.prefix_iff_eq_take.mp hget
  rw [hfour, ← h.stream_eq, Connection.recvStream, List.take_append_of_le_length, List.take_take,
    Nat.min_eq_left hpos] at htake
  · rw [slice, List.drop_zero]
    exact htake.symm
  · rw [List.length_take_of_le hle]
    exact hpos

theorem AwaitsRequest.serverFirst (h : AwaitsRequest stream c) (hget : HTTP_GET <+: stream)
    (hpos : 4 ≤ c.recvBufferPos) :
    RequestAnswered digest stream (tcpConnectionHandshakeServerFirst digest c).2 := by
  have hfour := h.first_four hget hpos
  unfold tcpConnectionHandshakeServerFirst
  rw [hfour, if_neg (show ¬ HTTP_GET = rracMagic by decide +kernel), if_pos rfl]
  apply AwaitsRequest.serverHttp
  exact ⟨h.quiet, h.noFrame, h.server, h.nothing, h.unsent, h.stream_eq, h.pos_le⟩

/-- The handshake of a server that has placed nothing. -/
theorem AwaitsRequest.handshake (h : AwaitsRequest stream c) (digest : TcpDigest)
    (hget : HTTP_GET <+: stream) :
    RequestAnswered digest stream (tcpConnectionHandshake digest c).2 := by
  have hrecv := h.receives (ReceivesOn.recv c 4)
  have hserver : flagsCheck c.configFlags CONFIG_FLAGS_ISSERVER = true := h.server
  have hnothing : ¬ c.sendMessageLen > 0 := by
    rw [h.nothing]
    decide
  unfold tcpConnectionHandshake
  by_cases hconnecting : c.checkState STATUS_FLAGS_CONNECTING = true
  · rw [if_neg (not_not_intro hconnecting), if_pos hserver, tcpConnectionHandshakeServer,
      if_neg (not_not_intro hconnecting), if_neg hnothing]
    split
    · generalize tcpConnectionRecv c 4 = run at hrecv ⊢
      obtain ⟨rv, c'⟩ := run
      cases rv with
      | error e => exact .awaits (hrecv.receives (ReceivesOn.setState c' (by decide)))
      | ok _ =>
          dsimp only
          split
          · exact .awaits hrecv
          · next hfour => exact hrecv.serverFirst hget (Nat.le_of_not_lt hfour)
    · next hfour => exact h.serverFirst hget (Nat.le_of_not_lt hfour)
  · rw [if_pos hconnecting]
    exact .awaits h

omit [SizeT] in
theorem RequestAnswered.checkConnected (h : RequestAnswered digest stream c) :
    RequestAnswered digest stream (tcpConnectionCheckConnected c).2 := by
  cases h with
  | awaits h =>
      rw [tcpConnectionCheckConnected, if_neg fun hboth => hboth.1 h.server]
      exact .awaits h
  | cutOff h => exact .cutOff h.checkConnected
  | placed his h => exact .placed his h.checkConnected

/-- A control step of a server that has placed nothing. -/
theorem AwaitsRequest.processControl (h : AwaitsRequest stream c) (hget : HTTP_GET <+: stream) :
    RequestAnswered digest stream (tcpConnectionCommunicateProcessControl digest c).2 := by
  have hsent : c.sock.sent <+: [] := h.unsent ▸ List.prefix_refl _
  have hrun := h.handshake digest hget
  apply processControl_of_handshake
  · exact .awaits h
  · exact .cutOff (textCutOff_reset hsent h.noFrame)
  · exact .cutOff (textCutOff_closed hsent h.noFrame (Or.inl h.nothing))
  · intro _ e d heq
    rw [heq] at hrun
    exact hrun
  · intro _ d heq
    rw [heq] at hrun
    exact hrun.checkConnected

/-! ## Runs -/

/-- No send step is made while some of the text is left and the connection is marked as
sending. -/
def SendsAside (c : Connection) : HandshakeCall → Prop
  | .processControl _ _ _ => True
  | .communicateSend _ _ => c.checkState STATUS_FLAGS_CONNECTED = false →
      c.checkState STATUS_FLAGS_ERROR = false → c.checkState STATUS_FLAGS_SENDING = false

instance (c : Connection) : (call : HandshakeCall) → Decidable (SendsAside c call)
  | .processControl _ _ _ => isTrue trivial
  | .communicateSend _ _ => inferInstanceAs (Decidable (_ → _ → _))

omit [SizeT] in
/-- A new plan for the socket is no matter of the text. -/
theorem keepsText_plan (c : Connection) (recvPlan sendPlan : List IoOutcome)
    (pollPlan : List PollOutcome) : ReceivesOn c { c with
      sock := { c.sock with recvPlan := recvPlan, sendPlan := sendPlan, pollPlan := pollPlan } } :=
  ⟨⟨rfl, rfl, rfl, rfl, rfl, rfl, rfl⟩, fun hpos => ⟨rfl, hpos⟩⟩

/-- A send step finds nothing to do where nothing is marked as being sent. -/
theorem communicateSend_quiet {c : Connection} (now : Int64)
    (hquiet : c.checkState TRAFFIC_FLAGS = false)
    (hsending : c.checkState STATUS_FLAGS_ERROR = false →
      c.checkState STATUS_FLAGS_SENDING = false) :
    (tcpConnectionCommunicateSend c now).2 = c := by
  unfold tcpConnectionCommunicateSend connectionImplCommunicateSend1
  cases herror : c.checkState STATUS_FLAGS_ERROR with
  | true =>
      rw [if_pos rfl]
  | false =>
      rw [checkState_of_quiet hquiet (m := STATUS_FLAGS_MESSAGE_SENT_CONSUMED) (by decide),
        checkState_of_quiet hquiet (m := STATUS_FLAGS_SEND_REQUESTED) (by decide), hsending herror]
      rfl

omit [SizeT] in
theorem TextCutOff.withSock {text : List UInt8} (h : TextCutOff text c) (sock : Socket)
    (hsent : sock.sent = c.sock.sent) : TextCutOff text { c with sock := sock } :=
  ⟨h.quiet, h.noFrame, h.closed, by rw [hsent]; exact h.sent, h.placed⟩

/-- A step goes on with the text. -/
theorem TextState.step {text : List UInt8} (h : TextState text c) {call : HandshakeCall}
    (hopen : c.checkState STATUS_FLAGS_CONNECTED = false) (haside : SendsAside c call) :
    TextState text (call.step digest c).2 := by
  cases h with
  | sent h =>
      rw [h.connected] at hopen
      cases hopen
  | onWay h =>
      cases call with
      | processControl recvPlan sendPlan pollPlan =>
          have hplan := keepsText_plan c recvPlan sendPlan pollPlan
          exact (h.keeps hplan.toKeepsText).processControl digest
      | communicateSend sendPlan now =>
          have hplan := keepsText_plan c c.sock.recvPlan sendPlan c.sock.pollPlan
          have hnext := h.keeps hplan.toKeepsText
          have hsame := communicateSend_quiet now hnext.quiet (haside hopen)
          exact .onWay (hsame ▸ hnext)
  | cutOff h =>
      cases call with
      | processControl recvPlan sendPlan pollPlan =>
          have hnext := h.withSock
            { c.sock with recvPlan := recvPlan, sendPlan := sendPlan, pollPlan := pollPlan } rfl
          exact .cutOff (hnext.processControl digest)
      | communicateSend sendPlan now =>
          have hnext := h.withSock { c.sock with sendPlan := sendPlan } rfl
          have hsame := communicateSend_quiet now hnext.quiet (haside hopen)
          exact .cutOff (hsame ▸ hnext)

/-- The text goes out: it is what is placed, so much of it is sent, there is no frame and
no message is reported sent. -/
structure TextGoesOut (text : List UInt8) (c : Connection) : Prop where
  sent : c.sock.sent <+: text
  placed : c.sendMessageLen = 0 ∨ c.placedText = text
  noFrame : c.transportStorage.sendWebsocketFrameLen = 0
  silent : c.checkState STATUS_FLAGS_MESSAGE_SENT = false

/-- The text is out, all of it and nothing else. -/
structure TextIsOut (text : List UInt8) (c : Connection) : Prop where
  sent : c.sock.sent = text
  some_of_server : connectionIsServer c = true → text ≠ []
  noFrame : c.transportStorage.sendWebsocketFrameLen = 0
  silent : c.checkState STATUS_FLAGS_MESSAGE_SENT = false

omit [SizeT] in
theorem TextState.goesOut {text : List UInt8} (h : TextState text c)
    (hopen : c.checkState STATUS_FLAGS_CONNECTED = false) : TextGoesOut text c := by
  cases h with
  | sent h =>
      rw [h.connected] at hopen
      cases hopen
  | onWay h =>
      refine ⟨?_, Or.inr h.placedText_eq, h.noFrame, checkState_of_quiet h.quiet (by decide)⟩
      rw [h.sent]
      exact List.take_prefix _ _
  | cutOff h => exact ⟨h.sent, h.placed, h.noFrame, checkState_of_quiet h.quiet (by decide)⟩

omit [SizeT] in
theorem TextState.isOut {text : List UInt8} (h : TextState text c)
    (hdone : c.checkState STATUS_FLAGS_CONNECTED = true) : TextIsOut text c := by
  cases h with
  | sent h => exact ⟨h.sent, h.some_of_server, h.noFrame, h.silent⟩
  | onWay h =>
      rw [checkState_of_quiet h.quiet (by decide)] at hdone
      cases hdone
  | cutOff h =>
      rw [checkState_of_quiet h.quiet (by decide)] at hdone
      cases hdone

/-- The text goes out, and is out when the connection is established. -/
def SendsText (digest : TcpDigest) (text : List UInt8) : Connection → List HandshakeCall → Prop :=
  Until (HandshakeCall.step digest) (fun c => c.checkState STATUS_FLAGS_CONNECTED)
    (TextGoesOut text) (TextIsOut text)

theorem TextState.run {text : List UInt8} (h : TextState text c) {calls : List HandshakeCall}
    (haside : EveryCall (HandshakeCall.step digest) SendsAside c calls) :
    SendsText digest text c calls :=
  EveryCall.until (I := TextState text) (fun _ h hopen => h.goesOut hopen)
    (fun _ h hdone => h.isOut hdone) (fun _ _ h hopen hcall => h.step hopen hcall) h haside

omit [SizeT] in
theorem AwaitsRequest.goesOut (h : AwaitsRequest stream c) (text : List UInt8) :
    TextGoesOut text c := by
  refine ⟨?_, Or.inl h.nothing, h.noFrame, checkState_of_quiet h.quiet (by decide)⟩
  rw [h.unsent]
  exact List.nil_prefix

theorem AwaitsRequest.step (h : AwaitsRequest stream c) (digest : TcpDigest)
    (hget : HTTP_GET <+: stream) {call : HandshakeCall} (haside : SendsAside c call) :
    RequestAnswered digest stream (call.step digest c).2 := by
  have hopen := checkState_of_quiet h.quiet (m := STATUS_FLAGS_CONNECTED) (by decide)
  cases call with
  | processControl recvPlan sendPlan pollPlan =>
      exact (h.receives (keepsText_plan c recvPlan sendPlan pollPlan)).processControl hget
  | communicateSend sendPlan now =>
      have hnext := h.receives (keepsText_plan c c.sock.recvPlan sendPlan c.sock.pollPlan)
      have hsame := communicateSend_quiet now hnext.quiet (haside hopen)
      exact .awaits (hsame ▸ hnext)

/-- A server that has placed nothing places at most one response, and sends it. -/
theorem AwaitsRequest.run (h : AwaitsRequest stream c) (hget : HTTP_GET <+: stream)
    {calls : List HandshakeCall}
    (haside : EveryCall (HandshakeCall.step digest) SendsAside c calls) :
    ∃ text, (text = [] ∨ IsResponse digest stream text) ∧ SendsText digest text c calls := by
  have hopen := checkState_of_quiet h.quiet (m := STATUS_FLAGS_CONNECTED) (by decide)
  induction calls generalizing c with
  | nil =>
      refine ⟨[], Or.inl rfl, ?_⟩
      rw [SendsText, Until, hopen]
      exact h.goesOut []
  | cons call calls ih =>
      have hrest : ∀ text, SendsText digest text (call.step digest c).2 calls →
          SendsText digest text c (call :: calls) := by
        intro text hsends
        rw [SendsText, Until, hopen]
        exact ⟨h.goesOut text, hsends⟩
      obtain ⟨hcall, haside⟩ := haside
      cases h.step digest hget hcall with
      | awaits hnext =>
          obtain ⟨text, his, hsends⟩ := ih hnext haside
            (checkState_of_quiet hnext.quiet (by decide))
          exact ⟨text, his, hrest text hsends⟩
      | cutOff hnext => exact ⟨[], Or.inl rfl, hrest [] ((TextState.cutOff hnext).run haside)⟩
      | @placed text his hnext => exact ⟨text, Or.inr his, hrest text (hnext.run haside)⟩

/-! ## Where a handshake starts -/

/-- A WebSocket connection whose handshake starts: a client that `tcp_connect_service` has
set up, or a slot that was accepted, not in use before, whose peer sends `GET `. -/
inductive HandshakeStart (digest : TcpDigest) : Connection → Prop
  | client {connections connections' : List Connection} {client client' : NodeClient}
      {now : Int64} {sock : Socket} {i : Nat} {c : Connection}
      (buffers : ∀ d ∈ connections, d.sendBufferLen ≤ d.sendBuffer.length)
      (fresh : sock.sent = []) (scheme : stringCmp client.serviceAddress.scheme SCHEME_RR_WS = 0)
      (connected : tcpConnectService digest connections client now (.ok sock) =
        (.ok (), connections', client'))
      (slot : client'.clientConnection = some i) (taken : connections'[i]? = some c) :
      HandshakeStart digest c
  | server {d : Connection} {now : Int64} {sock : Socket} (unused : d.sendMessageLen = 0)
      (empty : d.recvBufferPos = 0) (fresh : sock.sent = []) (get : HTTP_GET <+: sock.inbox) :
      HandshakeStart digest (connectionImplAccept2 d now TCP_TRANSPORT sock)

/-- The text of a handshake: a client's request is there, and a server's response comes to
be there, if one does. -/
def HandshakeText (digest : TcpDigest) (c : Connection) (text : List UInt8) : Prop :=
  if connectionIsServer c then text = [] ∨ IsResponse digest c.recvStream text
  else text = c.placedText

omit [SizeT] in
/-- What a slot is after it was given a socket to connect with. -/
theorem connectionImplConnect2_fresh (c : Connection) (now : Int64) (addr : Addr) (sock : Socket) :
    ∃ rv d, connectionImplConnect2 c now TCP_TRANSPORT addr sock = (rv, d) ∧
      d.sock.sent = sock.sent ∧ d.sendBuffer = c.sendBuffer ∧ d.sendBufferLen = c.sendBufferLen ∧
      d.connectionState = STATUS_FLAGS_CONNECTING ∧
      d.transportStorage = TcpTransportStorage.zero ∧ connectionIsServer d = false := by
  have hserver : flagsCheck (flagsClear c.configFlags CONFIG_FLAGS_ISSERVER)
      CONFIG_FLAGS_ISSERVER = false := flagsCheck_clear_of_subset (by decide)
  unfold connectionImplConnect2
  dsimp only
  split
  · exact ⟨_, _, rfl, rfl, rfl, rfl, rfl, rfl, hserver⟩
  · split
    · exact ⟨_, _, rfl, rfl, rfl, rfl, rfl, rfl, hserver⟩
    · exact ⟨_, _, rfl, rfl, rfl, rfl, rfl, rfl, hserver⟩

omit [SizeT] in
/-- A request that was written is placed whole. -/
theorem sendWebsocketHttpHeader_places {addr : Addr} {c c' : Connection}
    (hbuffer : c.sendBufferLen ≤ c.sendBuffer.length) (hserver : connectionIsServer c = false)
    (hquiet : c.checkState TRAFFIC_FLAGS = false)
    (hframe : c.transportStorage.sendWebsocketFrameLen = 0) (hsent : c.sock.sent = [])
    (h : tcpConnectServiceSendWebsocketHttpHeader digest addr c = (.ok (), c')) :
    TextOnWay c'.placedText c' ∧ connectionIsServer c' = false := by
  unfold tcpConnectServiceSendWebsocketHttpHeader at h
  dsimp only at h
  by_cases hlong : (httpRequestLen addr).toNat > c.sendBufferLen
  · rw [if_pos hlong] at h
    cases h
  · rw [if_neg hlong] at h
    split at h
    · cases h
    · split at h
      · cases h
      · split at h
        · cases h
        · obtain ⟨-, rfl⟩ := Prod.mk.inj h
          refine ⟨?_, hserver⟩
          generalize hwritten : overwrite (overwrite (overwrite c.sendBuffer 0 _) _ _) _ _ = buffer
          have hgrown : c.sendBuffer.length ≤ buffer.length := by
            rw [← hwritten]
            exact ((length_le_overwrite _ _ _).trans (length_le_overwrite _ _ _)).trans
              (length_le_overwrite _ _ _)
          have hplaced : (buffer.take (httpRequestLen addr).toNat).length =
              (httpRequestLen addr).toNat := List.length_take_of_le (by omega)
          refine ⟨hquiet, hframe, hplaced.symm, ?_, Nat.zero_le _, hsent, fun hs => ?_⟩
          · show buffer.take (buffer.take (httpRequestLen addr).toNat).length = _
            rw [hplaced]
            rfl
          · exact absurd (hserver.symm.trans hs) Bool.false_ne_true

omit [SizeT] in
theorem tcpConnectService_places {connections connections' : List Connection}
    {client client' : NodeClient} {now : Int64} {sock : Socket} {i : Nat}
    (hbuffers : ∀ d ∈ connections, d.sendBufferLen ≤ d.sendBuffer.length) (hfresh : sock.sent = [])
    (hscheme : stringCmp client.serviceAddress.scheme SCHEME_RR_WS = 0)
    (h : tcpConnectService digest connections client now (.ok sock) =
      (.ok (), connections', client'))
    (hslot : client'.clientConnection = some i) (htaken : connections'[i]? = some c) :
    TextOnWay c.placedText c ∧ connectionIsServer c = false := by
  unfold tcpConnectService at h
  cases hfind : connectionFindIdle connections with
  | none =>
      rw [hfind] at h
      cases h
  | some found =>
      obtain ⟨d, j⟩ := found
      have hat := (findIdle_eq_some hfind).1
      have hlength := hbuffers d (List.mem_of_getElem? hat)
      obtain ⟨rv, d₁, hsetup, hsent, hbuffer, hbufferLen, hstate, hstorage, hserver⟩ :=
        connectionImplConnect2_fresh d now client.serviceAddress sock
      rw [hfind] at h
      dsimp only at h
      rw [hsetup] at h
      cases rv with
      | error e => cases h
      | ok _ =>
          dsimp only at h
          rw [tcpConnectServiceStart, if_pos hscheme] at h
          generalize hrun : tcpConnectServiceSendWebsocketHttpHeader digest _ _ = run at h
          obtain ⟨rv, d₂⟩ := run
          obtain ⟨rfl, hrest⟩ := Prod.mk.inj h
          obtain ⟨rfl, rfl⟩ := Prod.mk.inj hrest
          obtain rfl := Option.some.inj hslot
          obtain ⟨hin, -⟩ := List.getElem?_eq_some_iff.mp hat
          have hd₂ : d₂ = c := by
            rw [List.getElem?_set_self hin] at htaken
            exact Option.some.inj htaken
          subst hd₂
          refine sendWebsocketHttpHeader_places ?_ ?_ ?_ ?_ ?_ hrun
          · show d₁.sendBufferLen ≤ d₁.sendBuffer.length
            rw [hbuffer, hbufferLen]
            exact hlength
          · exact hserver
          · show flagsCheck (flagsSet d₁.connectionState _) _ = false
            rw [hstate]
            decide
          · show d₁.transportStorage.sendWebsocketFrameLen = 0
            rw [hstorage]
            rfl
          · exact hsent.trans hfresh

omit [SizeT] in
theorem accept_awaits {d : Connection} (now : Int64) {sock : Socket}
    (hunused : d.sendMessageLen = 0) (hempty : d.recvBufferPos = 0) (hfresh : sock.sent = []) :
    AwaitsRequest sock.inbox (connectionImplAccept2 d now TCP_TRANSPORT sock) where
  quiet := show flagsCheck STATUS_FLAGS_CONNECTING TRAFFIC_FLAGS = false by decide
  noFrame := rfl
  server := flagsCheck_set_of_overlap (by decide)
  nothing := hunused
  unsent := hfresh
  stream_eq := by
    show d.recvBuffer.take d.recvBufferPos ++ sock.inbox = sock.inbox
    rw [hempty, List.take_zero, List.nil_append]
  pos_le := by
    show d.recvBufferPos ≤ d.recvBuffer.length
    rw [hempty]
    exact Nat.zero_le _

/-- The text of a handshake goes out as it is, and is out when the connection is
established, where no send step is made while the connection is marked as sending. -/
theorem handshake_verbatim (digest : TcpDigest) {c : Connection} (h : HandshakeStart digest c)
    {calls : List HandshakeCall}
    (haside : EveryCall (HandshakeCall.step digest) SendsAside c calls) :
    ∃ text, HandshakeText digest c text ∧ SendsText digest text c calls := by
  cases h with
  | client buffers fresh scheme connected slot taken =>
      obtain ⟨hway, hserver⟩ :=
        tcpConnectService_places buffers fresh scheme connected slot taken
      refine ⟨c.placedText, ?_, (TextState.onWay hway).run haside⟩
      rw [HandshakeText, hserver]
      rfl
  | @server d now sock unused empty fresh get =>
      have hawaits := accept_awaits now unused empty fresh
      obtain ⟨text, his, hsends⟩ := hawaits.run get haside
      refine ⟨text, ?_, hsends⟩
      rw [HandshakeText, hawaits.server, hawaits.stream_eq]
      exact his

/-- A client that at the end of a run has sent something else than its request. -/
theorem not_sendsText {calls : List HandshakeCall} (hserver : connectionIsServer c = false)
    (hnever : EveryCall (HandshakeCall.step digest)
      (fun c _ => c.checkState STATUS_FLAGS_CONNECTED = false) c calls)
    (hlast : (final (HandshakeCall.step digest) c calls).checkState STATUS_FLAGS_CONNECTED = false)
    (hother : ¬ (final (HandshakeCall.step digest) c calls).sock.sent <+: c.placedText) :
    ¬ ∃ text, HandshakeText digest c text ∧ SendsText digest text c calls := by
  intro h
  obtain ⟨text, htext, hsends⟩ := h
  rw [HandshakeText, hserver, if_neg Bool.false_ne_true] at htext
  have hsent := (hsends.at_final hnever hlast).sent
  rw [htext] at hsent
  exact hother hsent

end

section

open Lp64

/-- A key of zeros in base64. -/
def zeroKeyDigest : TcpDigest := ⟨.ok, fun _ => .ok (List.replicate 24 0x41)⟩

def websocketAddr : Addr :=
  ⟨SCHEME_RR_WS, [], NodeId.any, [], [], 0, [0x68], []⟩

/-- A client asks one idle slot to connect; its peer will answer `HTTP/1.1 101`. -/
def websocketConnect : Result Unit × List Connection × NodeClient :=
  tcpConnectService zeroKeyDigest
    [connectionInit (connectionConstruct (List.replicate 256 0) (List.replicate 64 0))]
    ⟨0, websocketAddr, none⟩ 0
    (.ok ⟨0, HTTP_UPGRADED ++ [0x0D, 0x0A, 0x0D, 0x0A], [], [], [], [], 3, []⟩)

def websocketClient : Connection := websocketConnect.2.1.getD 0 (connectionConstruct [] [])

theorem websocketClient_start : HandshakeStart zeroKeyDigest websocketClient := by
  have hok : websocketConnect.1 = .ok () := by decide +kernel
  have hparts : ∀ run : Result Unit × List Connection × NodeClient, run.1 = .ok () →
      run = (.ok (), run.2.1, run.2.2) := by
    intro run h
    rw [← h]
  have hrun := hparts websocketConnect hok
  have hlength : 0 < websocketConnect.2.1.length := by decide +kernel
  have htaken : websocketConnect.2.1[0]? = some websocketClient := by
    rw [websocketClient, List.getD_eq_getElem?_getD, List.getElem?_eq_getElem hlength]
    rfl
  have hslot : websocketConnect.2.2.clientConnection = some 0 := by decide +kernel
  have hbuffers : ∀ d ∈ [connectionInit (connectionConstruct (List.replicate 256 0)
      (List.replicate 64 0))], d.sendBufferLen ≤ d.sendBuffer.length := by
    intro d hd
    rw [List.mem_singleton.mp hd]
    exact Nat.le_refl _
  have hscheme : stringCmp websocketAddr.scheme SCHEME_RR_WS = 0 := by decide +kernel
  exact .client hbuffers rfl hscheme hrun hslot htaken

/-- The request goes out in two pieces, then the answer comes. -/
def requestInPieces : List HandshakeCall :=
  [.processControl [] [.ready 0] [.writable], .processControl [] [.ready 255] [],
    .communicateSend [.ready 255] 0, .processControl (List.replicate 16 (.ready 15)) [] []]

theorem websocketClient_verbatim :
    ∃ text, HandshakeText zeroKeyDigest websocketClient text ∧
      SendsText zeroKeyDigest text websocketClient requestInPieces :=
  handshake_verbatim zeroKeyDigest websocketClient_start (by decide +kernel)

/-- A send step between the pieces puts the rest of the request in a frame. -/
def drainedBetween : List HandshakeCall :=
  [.processControl [] [.ready 0] [.writable], .communicateSend [.ready 255, .ready 255] 0]

theorem websocketClient_framed :
    HandshakeStart zeroKeyDigest websocketClient ∧
      ¬ ∃ text, HandshakeText zeroKeyDigest websocketClient text ∧
        SendsText zeroKeyDigest text websocketClient drainedBetween := by
  exact ⟨websocketClient_start, not_sendsText (by decide +kernel) (by decide +kernel)
    (by decide +kernel) (by decide +kernel)⟩

end

end RobotRaconteurLite

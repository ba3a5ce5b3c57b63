import RobotRaconteurLite.Proofs.HandshakeText
import RobotRaconteurLite.Proofs.Latched

/-!
# A request that comes in pieces

A server receives four bytes, sees that they start an HTTP request and receives the rest
of its header up to the blank line. When the whole request is there it is answered, the
same way however it came (`request_in_pieces`).

But the receive of the header does not wait. It asks for one byte more than there are in
the buffer, so it can run past the blank line, and when nothing comes it answers
`CONSUMED`, which a client waits on and a server takes for an error. A run is right where
each call that gets to the header gets all of it and nothing else.
-/

namespace RobotRaconteurLite

open Splice CallSequence

/-- A call of the control step, with what the socket does during it. -/
structure PieceCall where
  recvPlan : List IoOutcome
  sendPlan : List IoOutcome

def Connection.withPlans (c : Connection) (call : PieceCall) : Connection :=
  { c with sock := { c.sock with recvPlan := call.recvPlan, sendPlan := call.sendPlan } }

def PieceCall.step [SizeT] (digest : TcpDigest) (c : Connection) (call : PieceCall) :
    Result Unit × Connection :=
  tcpConnectionCommunicateProcessControl digest (c.withPlans call)

/-- The socket delivers or blocks, and takes or blocks. -/
def PieceCall.Delivers (call : PieceCall) : Prop :=
  ∀ o ∈ call.recvPlan ++ call.sendPlan, o ≠ .closed ∧ o ≠ .failed

instance (call : PieceCall) : Decidable call.Delivers :=
  inferInstanceAs (Decidable (∀ o ∈ call.recvPlan ++ call.sendPlan, o ≠ .closed ∧ o ≠ .failed))

/-- A request that ends with its first blank line, has a key and is answered with `response`. -/
structure UpgradeRequest (digest : TcpDigest) (request response : List UInt8) : Prop where
  get : HTTP_GET <+: request
  blank : httpHeaderEnds request request.length = true
  first : ∀ pos < request.length, httpHeaderEnds request pos = false
  answered : ∃ key accept, tcpHttpClientKey request = .ok key ∧
    tcpHttpAcceptKey digest key = .ok accept ∧
    response = HTTP_RESPONSE_1 ++ accept ++ HTTP_RESPONSE_2

/-- The receives of `recv_header` each get something, and together what is left of the
first `n` bytes and no more. -/
def ReachesBlankLine (n : Nat) : Nat → Connection → Prop
  | 0, _ => False
  | fuel + 1, c =>
      let c' := (tcpConnectionRecv c (c.recvBufferPos + 1)).2
      c.recvBufferPos < c'.recvBufferPos ∧ c'.recvBufferPos ≤ n ∧
        (c'.recvBufferPos = n ∨ ReachesBlankLine n fuel c')

instance ReachesBlankLine.decidable (n : Nat) :
    (fuel : Nat) → (c : Connection) → Decidable (ReachesBlankLine n fuel c)
  | 0, _ => isFalse id
  | fuel + 1, c =>
      have := ReachesBlankLine.decidable n fuel (tcpConnectionRecv c (c.recvBufferPos + 1)).2
      inferInstanceAs (Decidable (_ ∧ _ ∧ (_ ∨ _)))

/-- The state in which a server starts on the header. -/
def Connection.atHeader (c : Connection) : Connection :=
  let c := (tcpConnectionFirstBytes c).2
  c.withStorage (c.transportStorage.setState TCP_TRANSPORT_STATE_IS_WEBSOCKET)

/-- A call that comes to the header of a request of `n` bytes gets to its end. -/
def DeliversHeader (n : Nat) (c : Connection) (call : PieceCall) : Prop :=
  let d := (c.withPlans call).atHeader
  c.sendMessageLen = 0 → c.checkState STATUS_FLAGS_CONNECTED = false → 4 ≤ d.recvBufferPos →
    ReachesBlankLine n (d.recvBufferLen - d.recvBufferPos + 1) d

instance (n : Nat) (c : Connection) (call : PieceCall) : Decidable (DeliversHeader n c call) :=
  inferInstanceAs (Decidable (_ → _ → _ → _))

theorem scanWhile_le (p : UInt8 → Bool) (l : List UInt8) (i : Nat) :
    scanWhile p l i ≤ i + l.length := by
  induction l generalizing i with
  | nil => exact Nat.le_refl i
  | cons b l ih =>
      have hrest := ih (i + 1)
      rw [scanWhile, List.length_cons]
      split <;> omega

/-- A request with a key is longer than the key. -/
theorem length_of_clientKey {data key : List UInt8} (h : tcpHttpClientKey data = .ok key) :
    24 ≤ data.length := by
  unfold tcpHttpClientKey at h
  obtain ⟨firstLine, _, hrest⟩ := OffsetReader.bind_eq_ok.mp h
  obtain ⟨⟨iKey, keyLine⟩, _, hline⟩ := OffsetReader.bind_eq_ok.mp hrest
  obtain ⟨⟨iEnd, nextLine⟩, _, h⟩ := OffsetReader.bind_eq_ok.mp hline
  dsimp only at h
  generalize scanWhile isBlank _ iKey = start at h
  have hscan := scanWhile_le (fun b => !isBlank b) (slice data start (iEnd - start)) start
  have hslice : (slice data start (iEnd - start)).length ≤ data.length := by
    rw [slice, List.length_take, List.length_drop]
    omega
  split at h
  · cases h
  · next hlen => omega

theorem UpgradeRequest.long {digest : TcpDigest} {request response : List UInt8}
    (h : UpgradeRequest digest request response) : 24 ≤ request.length := by
  obtain ⟨key, accept, hkey, -⟩ := h.answered
  exact length_of_clientKey hkey

/-! ## Receiving the header -/

/-- A step that receives and does nothing else. -/
structure OnlyReceives (c c' : Connection) : Prop where
  rest : c' = { c with
    sock := c'.sock, recvBuffer := c'.recvBuffer, recvBufferPos := c'.recvBufferPos }
  sent : c'.sock.sent = c.sock.sent
  sendPlan : c'.sock.sendPlan = c.sock.sendPlan
  recvPlan : c'.sock.recvPlan ⊆ c.sock.recvPlan
  stream : c.recvBufferPos ≤ c.recvBuffer.length →
    c'.recvStream = c.recvStream ∧ c'.recvBufferPos ≤ c'.recvBuffer.length
  pos_le : c.recvBufferPos ≤ c'.recvBufferPos
  inside : c'.recvBufferPos ≤ c.recvBuffer.length → c'.recvBuffer.length = c.recvBuffer.length

theorem OnlyReceives.trans {c c' c'' : Connection} (h : OnlyReceives c c')
    (h' : OnlyReceives c' c'') : OnlyReceives c c'' where
  rest := by
    rw [h'.rest, h.rest]
  sent := h'.sent.trans h.sent
  sendPlan := h'.sendPlan.trans h.sendPlan
  recvPlan _ ho := h.recvPlan (h'.recvPlan ho)
  stream hpos := by
    obtain ⟨hstream, hpos'⟩ := h.stream hpos
    obtain ⟨hstream', hpos''⟩ := h'.stream hpos'
    exact ⟨hstream'.trans hstream, hpos''⟩
  pos_le := h.pos_le.trans h'.pos_le
  inside hend := by
    have hfirst := h.inside (h'.pos_le.trans hend)
    exact (h'.inside (hfirst ▸ hend)).trans hfirst

theorem OnlyReceives.recv (c : Connection) (len : Nat) :
    OnlyReceives c (tcpConnectionRecv c len).2 := by
  obtain ⟨sock, hspec, hrest⟩ := tcpConnectionRecv_spec c len
  have hsock : (tcpConnectionRecv c len).2.sock = sock := by
    rw [hrest]
  have hmoved := (ioMoved_le c.sock.recvPlan len c.sock.inbox.length).2
  have hend := hspec.pos_eq
  have hbuffer := hspec.buffer_eq
  dsimp only at hend hbuffer
  refine ⟨?_, ?_, ?_, ?_, (ReceivesOn.recv c len).stream, by omega, fun hinside => ?_⟩
  · rw [hrest]
  · rw [hsock]
    exact hspec.sent_eq
  · rw [hsock]
    exact hspec.sendPlan_eq
  · rw [hsock]
    exact hspec.recvPlan_subset
  · rw [hbuffer, length_overwrite]
    rw [List.length_take_of_le hmoved, ← hend]
    exact hinside

theorem tcpConnectionRecv_willing {c : Connection} (len : Nat) (hw : Willing c.sock.recvPlan) :
    (tcpConnectionRecv c len).1 = .ok () := by
  obtain ⟨sock, hspec, -⟩ := tcpConnectionRecv_spec c len
  exact hspec.willing hw

/-- Whether a header ends somewhere is told by the bytes up to there. -/
theorem httpHeaderEnds_congr {xs ys : List UInt8} {pos : Nat} (h : xs.take pos = ys.take pos) :
    httpHeaderEnds xs pos = httpHeaderEnds ys pos := by
  have hslice : ∀ n ≤ pos, slice xs (pos - n) n = slice ys (pos - n) n := by
    intro n hn
    have hsplit : pos - n + n ≤ pos := by
      omega
    rw [← slice_take hsplit, h, slice_take hsplit]
  unfold httpHeaderEnds
  by_cases h4 : 4 ≤ pos
  · rw [hslice 4 h4, hslice 2 (by omega)]
  · by_cases h2 : 2 ≤ pos
    · rw [hslice 2 h2]
      simp [h4]
    · simp [h4, h2]

/-- The receives that get to the blank line end the loop there. -/
theorem recvHeaderLoop_complete {digest : TcpDigest} {request response rest : List UInt8}
    (hreq : UpgradeRequest digest request response) {fuel : Nat} {c : Connection}
    (hstream : c.recvStream = request ++ rest) (hpos : c.recvBufferPos ≤ c.recvBuffer.length)
    (hroom : request.length < c.recvBufferLen) (hw : Willing c.sock.recvPlan)
    (hleft : c.recvBufferPos < request.length)
    (hreach : ReachesBlankLine request.length fuel c) :
    ∃ c', tcpConnectionHandshakeHttpRecvHeaderLoop fuel c = (.ok (), c') ∧ OnlyReceives c c' ∧
      c'.recvBufferPos = request.length := by
  induction fuel generalizing c with
  | zero => exact absurd hreach id
  | succ fuel ih =>
      obtain ⟨hmore, hle, hend⟩ := hreach
      have honly := OnlyReceives.recv c (c.recvBufferPos + 1)
      have hok := tcpConnectionRecv_willing (c.recvBufferPos + 1) hw
      rw [tcpConnectionHandshakeHttpRecvHeaderLoop, if_neg (not_not_intro (hleft.trans hroom))]
      generalize tcpConnectionRecv c (c.recvBufferPos + 1) = run at hmore hle hend honly hok ⊢
      obtain ⟨rv, c'⟩ := run
      dsimp only at hmore hle hend honly hok ⊢
      obtain ⟨hstream', hpos'⟩ := honly.stream hpos
      have htake : c'.recvBuffer.take c'.recvBufferPos = request.take c'.recvBufferPos := by
        have htaken := congrArg (List.take c'.recvBufferPos) (hstream'.trans hstream)
        rw [Connection.recvStream, List.take_append_of_le_length, List.take_take, Nat.min_self,
          List.take_append_of_le_length hle] at htaken
        · exact htaken
        · rw [List.length_take_of_le hpos']
      rw [hok]
      dsimp only
      rw [if_neg (Nat.ne_of_gt hmore), httpHeaderEnds_congr htake]
      by_cases hdone : c'.recvBufferPos = request.length
      · rw [hdone, hreq.blank, if_pos rfl]
        exact ⟨c', rfl, honly, hdone⟩
      · rw [hreq.first _ (by omega), if_neg Bool.false_ne_true]
        have hlen : c'.recvBufferLen = c.recvBufferLen := by
          rw [honly.rest]
        obtain ⟨c'', hrun, honly', hend'⟩ := ih (hstream'.trans hstream) hpos' (hlen ▸ hroom)
          (hw.mono honly.recvPlan) (by omega) (hend.resolve_left hdone)
        exact ⟨c'', hrun, honly.trans honly', hend'⟩

/-! ## Where a server is -/

/-- The flags of a connection that is over, or will be. -/
def ENDED_FLAGS : BitVec 32 :=
  STATUS_FLAGS_IDLE ||| STATUS_FLAGS_CLOSED ||| STATUS_FLAGS_CLOSED_CONSUMED |||
    STATUS_FLAGS_CLOSE_REQUESTED ||| STATUS_FLAGS_CLOSING ||| STATUS_FLAGS_ERROR

/-- A server's slot that is in use and not in error. -/
structure ServerLive (c : Connection) : Prop where
  transport : c.transportType = TCP_TRANSPORT
  running : c.checkState ENDED_FLAGS = false
  server : connectionIsServer c = true

/-- Nothing is placed, and there is room for the request and the response. -/
structure AwaitsPieces (request rest : List UInt8) (c : Connection) : Prop
    extends AwaitsRequest (request ++ rest) c where
  live : ServerLive c
  connecting : c.checkState STATUS_FLAGS_CONNECTING = true
  buffer : c.recvBuffer.length = c.recvBufferLen
  room : request.length < c.recvBufferLen
  sendRoom : 215 ≤ c.sendBufferLen

/-- The response is placed, and what comes after the request is not received. -/
structure Responds (rest response : List UInt8) (c : Connection) : Prop
    extends TextOnWay response c where
  live : ServerLive c
  connecting : c.checkState STATUS_FLAGS_CONNECTING = true
  inbox_eq : c.sock.inbox = rest
  empty : c.recvBufferPos = 0
  buffer : c.recvBuffer.length = c.recvBufferLen

/-- The connection is established. -/
structure Upgraded (rest response : List UInt8) (c : Connection) : Prop
    extends TextSent response c where
  live : ServerLive c
  done : c.checkState STATUS_FLAGS_CONNECTING = false
  inbox_eq : c.sock.inbox = rest
  empty : c.recvBufferPos = 0
  buffer : c.recvBuffer.length = c.recvBufferLen

inductive RequestState (request rest response : List UInt8) (c : Connection) : Prop
  | awaits (h : AwaitsPieces request rest c) (few : c.recvBufferPos < 4)
  | responds (h : Responds rest response c) (short : c.sendBufferPos < response.length)
  | upgraded (h : Upgraded rest response c)

variable {digest : TcpDigest} {request rest response : List UInt8} {c : Connection}

theorem checkState_of_ended {m : BitVec 32} (h : c.checkState ENDED_FLAGS = false)
    (hm : ENDED_FLAGS &&& m = m) : c.checkState m = false := by
  cases hflag : c.checkState m with
  | false => rfl
  | true =>
      have hany : c.checkState ENDED_FLAGS = true := flagsCheck_of_subset hm hflag
      rw [h] at hany
      cases hany

theorem ServerLive.setState (h : ServerLive c) {m : BitVec 32} (hm : m &&& ENDED_FLAGS = 0#32) :
    ServerLive (c.setState m) :=
  ⟨h.transport, (Connection.checkState_setState hm).trans h.running, h.server⟩

theorem ServerLive.clearState (h : ServerLive c) {m : BitVec 32} (hm : m &&& ENDED_FLAGS = 0#32) :
    ServerLive (c.clearState m) :=
  ⟨h.transport, (Connection.checkState_clearState hm).trans h.running, h.server⟩

theorem ServerLive.connectedWebsocket (h : ServerLive c) : ServerLive c.connectedWebsocket := by
  have hset := h.setState (m := STATUS_FLAGS_CONNECTED ||| STATUS_FLAGS_RECEIVE_REQUESTED)
    (by decide)
  have hclear := hset.clearState (m := STATUS_FLAGS_CONNECTING ||| STATUS_FLAGS_BLOCK_SEND |||
    STATUS_FLAGS_SENDING ||| STATUS_FLAGS_SEND_REQUESTED) (by decide)
  exact ⟨hclear.transport, hclear.running, hclear.server⟩

theorem Responds.connected (h : Responds rest response c)
    (hall : response.length ≤ c.sendBufferPos) : Upgraded rest response c.connectedWebsocket where
  toTextSent := h.toTextOnWay.connectedWebsocket hall
  live := h.live.connectedWebsocket
  done := Connection.checkState_clearState_of_subset (by decide)
  inbox_eq := h.inbox_eq
  empty := h.empty
  buffer := h.buffer

section

variable [SizeT]

/-- A send of the response by a socket that does not fail. -/
theorem Responds.send (h : Responds rest response c) (hw : Willing c.sock.sendPlan) :
    (tcpConnectionSend c (subSz c.sendMessageLen.toNat c.sendBufferPos)).1 = .ok () ∧
      Responds rest response
        (tcpConnectionSend c (subSz c.sendMessageLen.toNat c.sendBufferPos)).2 := by
  have hway := h.toTextOnWay.send
  obtain ⟨sock, hspec, hrest⟩ :=
    tcpConnectionSend_spec c (subSz c.sendMessageLen.toNat c.sendBufferPos)
  refine ⟨hspec.willing hw, hway, ?_, ?_, ?_, ?_, ?_⟩
  · rw [hrest]
    exact ⟨h.live.transport, h.live.running, h.live.server⟩
  · rw [hrest]
    exact h.connecting
  · rw [hrest]
    exact hspec.inbox_eq.trans h.inbox_eq
  · rw [hrest]
    exact h.empty
  · rw [hrest]
    exact h.buffer

/-- The control step of a server in use is its handshake. -/
theorem processControl_server (h : ServerLive c)
    (hserver : connectionIsServer (tcpConnectionHandshake digest c).2 = true) :
    (tcpConnectionCommunicateProcessControl digest c).2 = (tcpConnectionHandshake digest c).2 := by
  unfold tcpConnectionCommunicateProcessControl connectionImplCommunicateProcessControl
  rw [if_neg (not_not_intro h.transport),
    checkState_of_ended h.running (m := STATUS_FLAGS_CLOSED_CONSUMED) (by decide)]
  dsimp only
  rw [if_neg Bool.false_ne_true,
    checkState_of_ended h.running (m := STATUS_FLAGS_CLOSED ||| STATUS_FLAGS_IDLE) (by decide),
    checkState_of_ended h.running (m := STATUS_FLAGS_CLOSE_REQUESTED ||| STATUS_FLAGS_CLOSING)
      (by decide), if_neg Bool.false_ne_true]
  dsimp only
  rw [if_neg Bool.false_ne_true]
  generalize tcpConnectionHandshake digest c = run at hserver ⊢
  obtain ⟨rv, d⟩ := run
  cases rv with
  | error e => rfl
  | ok _ =>
      dsimp only
      rw [tcpConnectionCheckConnected, if_neg fun hboth => hboth.1 hserver]

/-- The rest of the response goes out, or stays for the next call. -/
theorem Responds.handshake (h : Responds rest response c) (digest : TcpDigest)
    (hw : Willing c.sock.sendPlan) :
    RequestState request rest response (tcpConnectionHandshake digest c).2 ∧
      connectionIsServer (tcpConnectionHandshake digest c).2 = true := by
  have hserver : flagsCheck c.configFlags CONFIG_FLAGS_ISSERVER = true := h.live.server
  have hsome := List.length_pos_iff.mpr (h.some_of_server h.live.server)
  have hbegun : c.sendMessageLen > 0 := by
    rw [gt_iff_lt, UInt32.lt_iff_toNat_lt, h.length_eq]
    exact hsome
  obtain ⟨hok, hsent⟩ := h.send hw
  rw [tcpConnectionHandshake, if_neg (not_not_intro h.connecting), if_pos hserver,
    tcpConnectionHandshakeServer, if_neg (not_not_intro h.connecting), if_pos hbegun]
  generalize tcpConnectionSend c _ = run at hok hsent ⊢
  obtain ⟨rv, c'⟩ := run
  dsimp only at hok hsent
  rw [hok]
  dsimp only
  rw [hsent.length_eq]
  by_cases hshort : c'.sendBufferPos < response.length
  · rw [if_pos hshort]
    exact ⟨.responds hsent hshort, hsent.live.server⟩
  · rw [if_neg hshort]
    have hup := hsent.connected (Nat.le_of_not_lt hshort)
    exact ⟨.upgraded hup, hup.live.server⟩

theorem Upgraded.handshake (h : Upgraded rest response c) (digest : TcpDigest) :
    tcpConnectionHandshake digest c = (.ok (), c) := by
  rw [tcpConnectionHandshake, h.done]
  rfl

omit [SizeT] in
theorem AwaitsPieces.of_onlyReceives {c' : Connection} (h : AwaitsPieces request rest c)
    (honly : OnlyReceives c c') (hinside : c'.recvBufferPos ≤ request.length) :
    AwaitsPieces request rest c' := by
  obtain ⟨hstream, hpos⟩ := honly.stream h.pos_le
  have hrest := honly.rest
  have hlen : c'.recvBufferLen = c.recvBufferLen := by
    rw [hrest]
  have hroom := h.room
  have hbuffer := h.buffer
  refine ⟨⟨?_, ?_, ?_, ?_, honly.sent.trans h.unsent, hstream.trans h.stream_eq, hpos⟩,
    ⟨?_, ?_, ?_⟩, ?_, ?_, ?_, ?_⟩
  · rw [hrest]
    exact h.quiet
  · rw [hrest]
    exact h.noFrame
  · rw [hrest]
    exact h.server
  · rw [hrest]
    exact h.nothing
  · rw [hrest]
    exact h.live.transport
  · rw [hrest]
    exact h.live.running
  · rw [hrest]
    exact h.server
  · rw [hrest]
    exact h.connecting
  · rw [hlen, honly.inside (by omega)]
    exact hbuffer
  · rw [hlen]
    exact hroom
  · rw [hrest]
    exact h.sendRoom

omit [SizeT] in
theorem Responds.setSending (h : Responds rest response c) :
    Responds rest response (c.setState STATUS_FLAGS_SENDING) where
  toTextOnWay := h.toTextOnWay.keeps (KeepsText.setState c (by decide))
  live := h.live.setState (by decide)
  connecting := (Connection.checkState_setState (by decide)).trans h.connecting
  inbox_eq := h.inbox_eq
  empty := h.empty
  buffer := h.buffer

/-- A request that is there, and nothing more, is answered. -/
theorem AwaitsPieces.httpHandshake (h : AwaitsPieces request rest c)
    (hreq : UpgradeRequest digest request response) (hpos : c.recvBufferPos = request.length)
    (hw : Willing c.sock.sendPlan) :
    ∃ c', tcpConnectionHandshakeHttpHandshake digest c = (.ok (), c') ∧
      Responds rest response c' := by
  obtain ⟨key, accept, hkey, haccept, hresponse⟩ := hreq.answered
  have hlength : response.length = 215 := by
    rw [hresponse]
    exact length_response haccept
  have hsplit : c.recvBuffer.take request.length ++ c.sock.inbox = request ++ rest := by
    rw [← hpos]
    exact h.stream_eq
  obtain ⟨htake, hinbox⟩ :=
    List.append_inj hsplit (List.length_take_of_le (hpos ▸ h.pos_le))
  have hbind : (tcpHttpClientKey request >>= tcpHttpAcceptKey digest) = .ok accept := by
    rw [hkey]
    exact haccept
  have hplaced : Responds rest response (c.placeText response) :=
    ⟨h.placeText hlength, ⟨h.live.transport, h.live.running, h.live.server⟩, h.connecting,
      hinbox, rfl, h.buffer⟩
  obtain ⟨hok, hsent⟩ := hplaced.send hw
  refine ⟨_, ?_, hsent⟩
  rw [tcpConnectionHandshakeHttpHandshake, hpos, htake, hbind]
  dsimp only
  have hroom := h.sendRoom
  rw [← hresponse, if_neg (by omega)]
  exact Prod.ext hok rfl

/-- A server that gets all of the header answers the request. -/
theorem AwaitsPieces.serverHttp (h : AwaitsPieces request rest c)
    (hreq : UpgradeRequest digest request response) (hrecv : Willing c.sock.recvPlan)
    (hsend : Willing c.sock.sendPlan) (hleft : c.recvBufferPos < request.length)
    (hreach : ReachesBlankLine request.length (c.recvBufferLen - c.recvBufferPos + 1) c) :
    RequestState request rest response (tcpConnectionHandshakeServerHttp digest c).2 ∧
      connectionIsServer (tcpConnectionHandshakeServerHttp digest c).2 = true := by
  obtain ⟨c₁, hheader, honly, hpos⟩ :=
    recvHeaderLoop_complete hreq h.stream_eq h.pos_le h.room hrecv hleft hreach
  have hwilling : Willing c₁.sock.sendPlan := by
    rw [honly.sendPlan]
    exact hsend
  obtain ⟨c₂, hrun, hresponds⟩ := 
    (h.of_onlyReceives honly (Nat.le_of_eq hpos)).httpHandshake hreq hpos hwilling
  have hsending := hresponds.setSending
  have hle := hsending.pos_le
  have hsome := List.length_pos_iff.mpr (hsending.some_of_server hsending.live.server)
  rw [tcpConnectionHandshakeServerHttp, tcpConnectionHandshakeHttpRecvHeader, hheader]
  dsimp only
  rw [hrun]
  dsimp only
  rw [hsending.length_eq]
  by_cases hall : (c₂.setState STATUS_FLAGS_SENDING).sendBufferPos = response.length
  · have hup := hsending.connected (Nat.le_of_eq hall.symm)
    rw [if_pos]
    · exact ⟨.upgraded hup, hup.live.server⟩
    · refine ⟨?_, hall⟩
      rw [gt_iff_lt, UInt32.lt_iff_toNat_lt, hsending.length_eq]
      exact hsome
  · rw [if_neg fun hboth => hall hboth.2]
    exact ⟨.responds hsending (Nat.lt_of_le_of_ne hle hall), hsending.live.server⟩

/-- A server that gets less than four bytes waits, and else gets the request and answers it. -/
theorem AwaitsPieces.handshake (h : AwaitsPieces request rest c) (hfew : c.recvBufferPos < 4)
    (hreq : UpgradeRequest digest request response) (hrecv : Willing c.sock.recvPlan)
    (hsend : Willing c.sock.sendPlan)
    (hreach : 4 ≤ c.atHeader.recvBufferPos → ReachesBlankLine request.length
      (c.atHeader.recvBufferLen - c.atHeader.recvBufferPos + 1) c.atHeader) :
    RequestState request rest response (tcpConnectionHandshake digest c).2 ∧
      connectionIsServer (tcpConnectionHandshake digest c).2 = true := by
  have hserver : flagsCheck c.configFlags CONFIG_FLAGS_ISSERVER = true := h.server
  have hnothing : ¬ c.sendMessageLen > 0 := by
    rw [h.nothing]
    decide
  have hlong := hreq.long
  have hok := tcpConnectionRecv_willing 4 hrecv
  have honly := OnlyReceives.recv c 4
  have hseven : (tcpConnectionRecv c 4).2.recvBufferPos ≤ c.recvBufferPos + 4 := by
    obtain ⟨sock, hspec, -⟩ := tcpConnectionRecv_spec c 4
    have hmoved := (ioMoved_le c.sock.recvPlan 4 c.sock.inbox.length).1
    have hpos := hspec.pos_eq
    dsimp only at hpos
    omega
  rw [Connection.atHeader, tcpConnectionFirstBytes, if_pos hfew] at hreach
  rw [tcpConnectionHandshake, if_neg (not_not_intro h.connecting), if_pos hserver,
    tcpConnectionHandshakeServer, if_neg (not_not_intro h.connecting), if_neg hnothing,
    if_pos hfew]
  generalize tcpConnectionRecv c 4 = run at hok honly hseven hreach ⊢
  obtain ⟨rv, c₁⟩ := run
  dsimp only at hok honly hseven hreach
  have hawaits := h.of_onlyReceives honly (by omega)
  rw [hok]
  dsimp only
  by_cases hshort : c₁.recvBufferPos < 4
  · rw [if_pos hshort]
    exact ⟨.awaits hawaits hshort, hawaits.server⟩
  · have hfour := hawaits.first_four (hreq.get.trans (List.prefix_append _ _))
      (Nat.le_of_not_lt hshort)
    have hwebsocket : AwaitsPieces request rest (c₁.withStorage
        (c₁.transportStorage.setState TCP_TRANSPORT_STATE_IS_WEBSOCKET)) :=
      ⟨⟨hawaits.quiet, hawaits.noFrame, hawaits.server, hawaits.nothing, hawaits.unsent,
        hawaits.stream_eq, hawaits.pos_le⟩, ⟨hawaits.live.transport, hawaits.live.running,
        hawaits.live.server⟩, hawaits.connecting, hawaits.buffer, hawaits.room, hawaits.sendRoom⟩
    have hsend₁ : Willing c₁.sock.sendPlan := by
      rw [honly.sendPlan]
      exact hsend
    rw [if_neg hshort, tcpConnectionHandshakeServerFirst, hfour,
      if_neg (show ¬ HTTP_GET = rracMagic by decide +kernel), if_pos rfl]
    exact hwebsocket.serverHttp hreq (hrecv.mono honly.recvPlan) hsend₁
      (show c₁.recvBufferPos < request.length by omega) (hreach (Nat.le_of_not_lt hshort))

omit [SizeT] in
theorem PieceCall.Delivers.willing {call : PieceCall} (h : call.Delivers) :
    Willing call.recvPlan ∧ Willing call.sendPlan := by
  exact ⟨willing_of_open fun o ho => h o (List.mem_append_left _ ho),
    willing_of_open fun o ho => h o (List.mem_append_right _ ho)⟩

/-- One call. -/
theorem RequestState.step (hreq : UpgradeRequest digest request response)
    (h : RequestState request rest response c) {call : PieceCall} (hcall : call.Delivers)
    (hheader : DeliversHeader request.length c call) :
    RequestState request rest response (call.step digest c).2 := by
  obtain ⟨hrecv, hsend⟩ := hcall.willing
  cases h with
  | awaits h few =>
      have hplans : AwaitsPieces request rest (c.withPlans call) :=
        ⟨⟨h.quiet, h.noFrame, h.server, h.nothing, h.unsent, h.stream_eq, h.pos_le⟩,
          ⟨h.live.transport, h.live.running, h.live.server⟩, h.connecting, h.buffer,
          h.room, h.sendRoom⟩
      obtain ⟨hstate, hserver⟩ := hplans.handshake few hreq hrecv hsend
        (hheader h.nothing (checkState_of_quiet h.quiet (by decide)))
      rw [PieceCall.step, processControl_server hplans.live hserver]
      exact hstate
  | responds h short =>
      have hplans : Responds rest response (c.withPlans call) :=
        ⟨⟨h.quiet, h.noFrame, h.length_eq, h.placed, h.pos_le, h.sent, h.some_of_server⟩,
          ⟨h.live.transport, h.live.running, h.live.server⟩, h.connecting, h.inbox_eq, h.empty,
          h.buffer⟩
      obtain ⟨hstate, hserver⟩ := hplans.handshake digest hsend
      rw [PieceCall.step, processControl_server hplans.live hserver]
      exact hstate
  | upgraded h =>
      have hplans : Upgraded rest response (c.withPlans call) :=
        ⟨⟨h.connected, h.silent, h.noFrame, h.sent, h.some_of_server⟩,
          ⟨h.live.transport, h.live.running, h.live.server⟩, h.done, h.inbox_eq, h.empty, h.buffer⟩
      have hsame := hplans.handshake digest
      rw [PieceCall.step, processControl_server hplans.live, hsame]
      · exact .upgraded hplans
      · rw [hsame]
        exact hplans.live.server

/-- The connection is not in error, has stored nothing past its receive buffer and has left
what follows the request alone; and when the request has come the response is placed, and
the connection is established as soon as all of it is sent. -/
structure AnswersRequest (rest response : List UInt8) (c : Connection) : Prop where
  running : c.checkState STATUS_FLAGS_ERROR = false
  inBounds : c.recvBufferPos ≤ c.recvBufferLen ∧ c.recvBuffer.length = c.recvBufferLen
  untouched : rest <:+ c.sock.inbox
  answered : c.sock.inbox = rest →
    c.sock.sent = response ∧ c.checkState STATUS_FLAGS_CONNECTED = true ∨
    c.placedText = response ∧ c.sendBufferPos < response.length ∧
      c.sock.sent = response.take c.sendBufferPos ∧
      c.checkState STATUS_FLAGS_CONNECTING = true

omit [SizeT] in
theorem RequestState.answers (hreq : UpgradeRequest digest request response)
    (h : RequestState request rest response c) : AnswersRequest rest response c := by
  cases h with
  | awaits h few =>
      have hlong := hreq.long
      have hroom := h.room
      have hstream := h.stream_eq
      have hshort : (c.recvBuffer.take c.recvBufferPos).length = c.recvBufferPos :=
        List.length_take_of_le h.pos_le
      rw [Connection.recvStream] at hstream
      refine ⟨checkState_of_ended h.live.running (by decide), ⟨by omega, h.buffer⟩, ?_, ?_⟩
      · have hle : (c.recvBuffer.take c.recvBufferPos).length ≤ request.length := by
          omega
        rw [List.append_eq_append_iff] at hstream
        obtain ⟨middle, hrequest, hinbox⟩ | ⟨middle, hbuffer, hrest⟩ := hstream
        · rw [hinbox]
          exact List.suffix_append _ _
        · have hlength := congrArg List.length hbuffer
          rw [List.length_append] at hlength
          omega
      · intro hinbox
        have hlength := congrArg List.length hstream
        rw [hinbox, List.length_append, List.length_append] at hlength
        omega
  | responds h short =>
      refine ⟨checkState_of_ended h.live.running (by decide), ⟨?_, h.buffer⟩, ?_, fun _ => ?_⟩
      · rw [h.empty]
        exact Nat.zero_le _
      · exact h.inbox_eq ▸ List.suffix_rfl
      · exact Or.inr ⟨h.placedText_eq, short, h.sent, h.connecting⟩
  | upgraded h =>
      refine ⟨checkState_of_ended h.live.running (by decide), ⟨?_, h.buffer⟩, ?_, fun _ => ?_⟩
      · rw [h.empty]
        exact Nat.zero_le _
      · exact h.inbox_eq ▸ List.suffix_rfl
      · exact Or.inl ⟨h.sent, h.connected⟩

theorem RequestState.run (hreq : UpgradeRequest digest request response)
    (h : RequestState request rest response c) {calls : List PieceCall}
    (hcalls : ∀ call ∈ calls, call.Delivers)
    (hheader : EveryCall (PieceCall.step digest) (DeliversHeader request.length) c calls) :
    RequestState request rest response (final (PieceCall.step digest) c calls) := by
  induction calls generalizing c with
  | nil => exact h
  | cons call calls ih =>
      obtain ⟨hcall, hcalls⟩ := List.forall_mem_cons.mp hcalls
      exact ih (h.step hreq hcall hheader.1) hcalls hheader.2

/-- A slot that was not in use, with buffers for a request and its response, takes the
connection of a peer that sends the request and then `rest`. -/
inductive PeerRequests (request rest : List UInt8) : Connection → Prop
  | accepted {d : Connection} {now : Int64} {sock : Socket}
      (unused : d.sendMessageLen = 0) (empty : d.recvBufferPos = 0)
      (buffer : d.recvBuffer.length = d.recvBufferLen)
      (room : request.length < d.recvBufferLen) (sendRoom : 215 ≤ d.sendBufferLen)
      (fresh : sock.sent = []) (inbox : sock.inbox = request ++ rest) :
      PeerRequests request rest (connectionImplAccept2 d now TCP_TRANSPORT sock)

/-- However a request comes, it is answered the same way, where each call that comes to its
header gets to the end of it and no further. -/
theorem request_in_pieces (hreq : UpgradeRequest digest request response)
    (h : PeerRequests request rest c) {calls : List PieceCall}
    (hcalls : ∀ call ∈ calls, call.Delivers)
    (hheader : EveryCall (PieceCall.step digest) (DeliversHeader request.length) c calls) :
    AnswersRequest rest response (final (PieceCall.step digest) c calls) := by
  refine (RequestState.run hreq ?_ hcalls hheader).answers hreq
  cases h with
  | @accepted d now sock unused empty buffer room sendRoom fresh inbox =>
      have hawaits := accept_awaits now unused empty fresh
      rw [inbox] at hawaits
      have hlive : flagsCheck STATUS_FLAGS_CONNECTING ENDED_FLAGS = false := by decide
      refine .awaits ⟨hawaits, ⟨rfl, hlive, hawaits.server⟩, ?_, buffer, room, sendRoom⟩ ?_
      · show flagsCheck STATUS_FLAGS_CONNECTING STATUS_FLAGS_CONNECTING = true
        decide
      · show d.recvBufferPos < 4
        rw [empty]
        decide

end

section

open Lp64

/-- The nonce `the sample nonce` and the SHA-1 of its key, in base64 and before. -/
def sampleKey : List UInt8 := "dGhlIHNhbXBsZSBub25jZQ==".toUTF8.toList

def sampleAccept : List UInt8 := "s3pPLMBiTxaQ9kYGzzhZRbK+xOo=".toUTF8.toList

def sampleDigest : TcpDigest where
  sha1 _ := .ok [0xb3, 0x7a, 0x4f, 0x2c, 0xc0, 0x62, 0x4f, 0x16, 0x90, 0xf6, 0x46, 0x06, 0xcf,
    0x38, 0x59, 0x45, 0xb2, 0xbe, 0xc4, 0xea]
  base64Encode _ := .ok sampleAccept

def sampleRequest : List UInt8 :=
  "GET / HTTP/1.1\r\n".toUTF8.toList ++ HTTP_SEC_WEBSOCKET_KEY ++ " ".toUTF8.toList ++ sampleKey ++
    "\r\n\r\n".toUTF8.toList

def sampleResponse : List UInt8 := HTTP_RESPONSE_1 ++ sampleAccept ++ HTTP_RESPONSE_2

theorem sampleRequest_upgrades : UpgradeRequest sampleDigest sampleRequest sampleResponse where
  get := by decide +kernel
  blank := by decide +kernel
  first := by decide +kernel
  answered := ⟨sampleKey, sampleAccept, by decide +kernel, by decide +kernel, rfl⟩

/-- A server whose peer sends the request and then `rest`. -/
def sampleServer (rest : List UInt8) : Connection :=
  connectionImplAccept2
    (connectionInit (connectionConstruct (List.replicate 256 0) (List.replicate 128 0))) 0
    TCP_TRANSPORT ⟨0, sampleRequest ++ rest, [], [], [], [], 3, []⟩

theorem sampleServer_requests (rest : List UInt8) :
    PeerRequests sampleRequest rest (sampleServer rest) :=
  .accepted rfl rfl rfl (by decide +kernel) (by decide +kernel) rfl rfl

/-- One byte, two bytes, the rest; and the response in two pieces. -/
def threePieces : List PieceCall :=
  [⟨[.ready 0], []⟩, ⟨[.ready 1, .wouldBlock], []⟩, ⟨List.replicate 4 (.ready 99), [.ready 99]⟩,
    ⟨[], [.ready 255]⟩]

theorem threePieces_answered :
    AnswersRequest [0x82, 0x85] sampleResponse
      (final (PieceCall.step sampleDigest) (sampleServer [0x82, 0x85]) threePieces) :=
  request_in_pieces sampleRequest_upgrades (sampleServer_requests _) (by decide +kernel)
    (by decide +kernel)

/-- A request that comes in two pieces leaves the connection in error, and of one with a
byte behind it that byte is received too. -/
theorem twoPieces_refused :
    (UpgradeRequest sampleDigest sampleRequest sampleResponse ∧
      PeerRequests sampleRequest [] (sampleServer []) ∧
      (final (PieceCall.step sampleDigest) (sampleServer [])
        [⟨List.replicate 5 (.ready 99), [.ready 255]⟩]).connectionState =
          STATUS_FLAGS_CONNECTED ||| STATUS_FLAGS_RECEIVE_REQUESTED ∧
      (final (PieceCall.step sampleDigest) (sampleServer [])
        [⟨List.replicate 2 (.ready 99), []⟩,
          ⟨List.replicate 5 (.ready 99), [.ready 255]⟩]).checkState STATUS_FLAGS_ERROR = true) ∧
    PeerRequests sampleRequest [0x82] (sampleServer [0x82]) ∧
      (final (PieceCall.step sampleDigest) (sampleServer [0x82])
        [⟨List.replicate 5 (.ready 99), [.ready 255]⟩]).sock.inbox = [] :=
  ⟨⟨sampleRequest_upgrades, sampleServer_requests _, by decide +kernel, by decide +kernel⟩,
    sampleServer_requests _, by decide +kernel⟩

end

end RobotRaconteurLite

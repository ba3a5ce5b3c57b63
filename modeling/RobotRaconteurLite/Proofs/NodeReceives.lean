import RobotRaconteurLite.Proofs.EndToEnd
import RobotRaconteurLite.Proofs.NodeMoves
import RobotRaconteurLite.Proofs.OversizedMessages

/-!
# A node gives its messages back in order

What a connection receives is shown to the node as an event, and the node has the
message until it consumes that event, for whatever reason it does. In between the
handlers of other events run, messages are sent, sockets break, and connections
are closed. None of this loses a message of a connection, shows one twice or
changes their order, until its slot is used again.

The node sets one flag of the receiving side, and that only on an event of the
same connection. So the whole of its work is one step of the receiver: the
message is given back, or nothing happens to it.
-/

namespace RobotRaconteurLite

open Splice CallSequence

/-! ## The receiving side -/

/-- The second connection has received what the first has, and asks for no more than that one. -/
structure Connection.SameReceive (c c' : Connection) : Prop where
  storage : c'.transportStorage = c.transportStorage
  inbox : c'.sock.inbox = c.sock.inbox
  buffer : c'.recvBuffer = c.recvBuffer
  bufferLen : c'.recvBufferLen = c.recvBufferLen
  pos : c'.recvBufferPos = c.recvBufferPos
  messageLen : c'.recvMessageLen = c.recvMessageLen
  received : c'.checkState STATUS_FLAGS_MESSAGE_RECEIVED =
    c.checkState STATUS_FLAGS_MESSAGE_RECEIVED
  requested : c.checkState STATUS_FLAGS_RECEIVE_REQUESTED = false →
    c'.checkState STATUS_FLAGS_RECEIVE_REQUESTED = false

namespace Connection.SameReceive

variable {c c' c'' : Connection}

theorem trans (h : c.SameReceive c') (h' : c'.SameReceive c'') : c.SameReceive c'' where
  storage := h'.storage.trans h.storage
  inbox := h'.inbox.trans h.inbox
  buffer := h'.buffer.trans h.buffer
  bufferLen := h'.bufferLen.trans h.bufferLen
  pos := h'.pos.trans h.pos
  messageLen := h'.messageLen.trans h.messageLen
  received := h'.received.trans h.received
  requested hr := h'.requested (h.requested hr)

end Connection.SameReceive

/-- The node leaves the receiving side alone, but for what it consumed. -/
theorem Connection.Worked.sameReceive [SizeT] {eventType : EventType} {c c' : Connection}
    (h : c.Worked eventType c') : c.SameReceive c' where
  storage := by rw [h.rest]
  inbox := by rw [h.rest]
  buffer := by rw [h.rest]
  bufferLen := by rw [h.rest]
  pos := by rw [h.rest]
  messageLen := by rw [h.rest]
  received := h.same (by decide) (by decide) (by cases eventType <;> decide)
  requested hr := h.raised _ (by decide) (by cases eventType <;> decide) hr

/-- A failed receive asks for nothing more. -/
theorem Connection.sameReceive_failReceive (c : Connection) : c.SameReceive c.failReceive where
  storage := rfl
  inbox := rfl
  buffer := rfl
  bufferLen := rfl
  pos := rfl
  messageLen := rfl
  received := (Connection.checkState_clearState (by decide)).trans
    (Connection.checkState_setState (by decide))
  requested _ := Connection.checkState_clearState_of_subset (by decide)

section

variable {c c' : Connection} {pending : List WireMessage} {future : List UInt8}

/-- An error hides nothing that was received. -/
def Connection.withoutError (c : Connection) : Connection := c.clearState STATUS_FLAGS_ERROR

theorem Connection.withoutError_of_noError (h : c.checkState STATUS_FLAGS_ERROR = false) :
    c.withoutError = c := by
  have hstate : flagsClear c.connectionState STATUS_FLAGS_ERROR = c.connectionState := by
    simp only [Connection.checkState, flagsCheck, bne_eq_false_iff_eq] at h
    have hsplit := BitVec.and_or_distrib_left
      (x := c.connectionState) (y := STATUS_FLAGS_ERROR) (z := ~~~STATUS_FLAGS_ERROR)
    rw [BitVec.or_not_self, BitVec.and_allOnes, h, BitVec.zero_or] at hsplit
    exact hsplit.symm
  rw [Connection.withoutError, Connection.clearState, hstate]

@[simp] theorem Connection.withoutError_toCompact (c : Connection) :
    c.withoutError.toCompact = c.toCompact := by
  rw [Connection.toCompact, Connection.withoutError, Connection.checkState_clearState (by decide),
    Connection.toCompact]

theorem Connection.withoutError_exposed (c : Connection) : c.withoutError.exposed = c.exposed := by
  unfold Connection.exposed Connection.withoutError
  rw [Connection.checkState_clearState (by decide), Connection.checkState_clearState (by decide)]
  rfl

/-- What is held is held by a connection that received the same. -/
theorem Delivering.congr (h : Delivering c.withoutError pending future) (hsame : c.SameReceive c')
    (hconsumed : c'.checkState STATUS_FLAGS_MESSAGE_CONSUMED = true →
      c'.checkState STATUS_FLAGS_MESSAGE_RECEIVED = true) :
    Delivering c'.withoutError pending future := by
  have hreceived : c'.withoutError.checkState STATUS_FLAGS_MESSAGE_RECEIVED =
      c.withoutError.checkState STATUS_FLAGS_MESSAGE_RECEIVED := by
    rw [Connection.withoutError, Connection.withoutError,
      Connection.checkState_clearState (by decide), Connection.checkState_clearState (by decide)]
    exact hsame.received
  refine ⟨?_, Connection.checkState_clearState_of_subset (by decide), ?_, ?_, ?_, ?_, ?_⟩
  · have hplain := h.plain
    change c'.transportStorage.checkState _ = false
    rw [hsame.storage]
    exact hplain
  · change c'.recvBufferPos ≤ c'.recvBuffer.length
    rw [hsame.pos, hsame.buffer]
    exact h.pos_le
  · change c'.recvBuffer.take c'.recvBufferPos ++ c'.sock.inbox ++ future = wireStream pending
    rw [hsame.pos, hsame.buffer, hsame.inbox]
    exact h.stream
  · change c'.recvMessageLen = 0 ∨ ∃ m rest, pending = m :: rest ∧
      c'.recvMessageLen.toNat = m.bytes.length
    rw [hsame.messageLen]
    exact h.length
  · intro hr
    rw [hreceived] at hr
    obtain ⟨hnew, hle, hidle⟩ := h.received hr
    rw [Connection.withoutError, Connection.checkState_clearState (by decide)] at hidle
    refine ⟨?_, ?_, ?_⟩
    · change 0 < c'.recvMessageLen
      rw [hsame.messageLen]
      exact hnew
    · change c'.recvMessageLen.toNat ≤ c'.recvBufferPos
      rw [hsame.messageLen, hsame.pos]
      exact hle
    · rw [Connection.withoutError, Connection.checkState_clearState (by decide)]
      exact hsame.requested hidle
  · intro hc
    rw [Connection.withoutError, Connection.checkState_clearState (by decide)] at hc ⊢
    exact hconsumed hc

/-- Bytes arrive at the socket. -/
theorem Delivering.arrive {arrived : List UInt8} (h : Delivering c pending (arrived ++ future))
    (plan : List IoOutcome) : Delivering (c.arrive arrived plan) pending future where
  plain := h.plain
  noError := h.noError
  pos_le := h.pos_le
  stream := by
    rw [← h.stream]
    simp only [Connection.arrive, List.append_assoc]
  length := h.length
  received := h.received
  consumed := h.consumed

/-- A receive keeps what it got, however it ends. -/
theorem Delivering.receive (h : Delivering c pending future) (len : Nat) :
    Delivering (tcpConnectionRecv c len).2 pending future := by
  obtain ⟨sock, hspec, heq⟩ := tcpConnectionRecv_spec c len
  have hk := (ioMoved_le c.sock.recvPlan len c.sock.inbox.length).2
  generalize ioMoved c.sock.recvPlan len c.sock.inbox.length = k at hspec hk
  have htake : (c.sock.inbox.take k).length = k := List.length_take_of_le hk
  have hpos := hspec.pos_eq
  have hbuffer := hspec.buffer_eq
  have hinbox := hspec.inbox_eq
  dsimp only at hpos hbuffer hinbox
  have hge : c.recvBufferPos + (c.sock.inbox.take k).length ≤
      (overwrite c.recvBuffer c.recvBufferPos (c.sock.inbox.take k)).length :=
    length_overwrite_ge h.pos_le
  have hmore : (overwrite c.recvBuffer c.recvBufferPos (c.sock.inbox.take k)).take
      (c.recvBufferPos + (c.sock.inbox.take k).length) =
      c.recvBuffer.take c.recvBufferPos ++ c.sock.inbox.take k := take_overwrite h.pos_le
  rw [htake] at hge hmore
  rw [heq, hpos, hbuffer]
  refine ⟨h.plain, h.noError, hge, ?_, h.length, fun hr => ?_, h.consumed⟩
  · dsimp only
    rw [hinbox, ← h.stream, hmore, List.append_assoc (c.recvBuffer.take _),
      List.take_append_drop]
  · obtain ⟨hnew, hle, hidle⟩ := h.received hr
    exact ⟨hnew, Nat.le_trans hle (Nat.le_add_right _ _), hidle⟩

end

section

variable [SizeT] {c c' : Connection} {messages : List WireMessage} {n : Nat}
  {future : List UInt8}

/-- The message that was given back is the one compaction takes out. -/
theorem DeliveredUpTo.compact (h : DeliveredUpTo messages n c future) (hin : c.WithinBuffer) :
    Delivering (connectionCompact c) (messages.drop n) future := by
  obtain ⟨gone, hd, rfl⟩ := h
  have hcompact := hd.compact hin.1 hin.2
  rw [Connection.toCompact]
  cases hc : c.checkState STATUS_FLAGS_MESSAGE_CONSUMED with
  | true =>
      rw [hc, if_pos rfl, List.tail_drop] at hcompact
      exact hcompact
  | false =>
      rw [hc, if_neg Bool.false_ne_true] at hcompact
      exact hcompact

/-- `n` messages were given back by a connection that may have failed since, and what it holds is
the next of them. -/
structure HeldUpTo (messages : List WireMessage) (n : Nat) (c : Connection)
    (future : List UInt8) : Prop where
  room : 75 ≤ c.recvBufferLen
  bounded : ReceiveBounded c
  settled : c.checkState STATUS_FLAGS_ERROR = false → Settled c
  delivered : DeliveredUpTo messages n c.withoutError future

/-- A connection that received the same holds the same, and one message less where it gave one
back. -/
theorem HeldUpTo.of_same (h : HeldUpTo messages n c future) (hsame : c.SameReceive c')
    (herror : c.checkState STATUS_FLAGS_ERROR = true → c'.checkState STATUS_FLAGS_ERROR = true)
    (hstays : c.checkState STATUS_FLAGS_MESSAGE_CONSUMED = true →
      c'.checkState STATUS_FLAGS_MESSAGE_CONSUMED = true)
    (hconsumed : c'.checkState STATUS_FLAGS_MESSAGE_CONSUMED = true →
      c'.checkState STATUS_FLAGS_MESSAGE_RECEIVED = true)
    {m : Nat} (hcount : m + c.toCompact = n + c'.toCompact) : HeldUpTo messages m c' future := by
  have hbounded : ReceiveBounded c' := by
    refine ⟨?_, ?_, ?_, ?_, hconsumed⟩
    · rw [Connection.Plain, hsame.storage]
      exact h.bounded.plain
    · rw [hsame.pos, hsame.bufferLen]
      exact h.bounded.pos_le
    · rw [hsame.bufferLen]
      exact h.bounded.len_lt
    · rw [hsame.received, hsame.messageLen, hsame.pos]
      exact h.bounded.received
  refine ⟨?_, hbounded, fun hno => ?_, ?_⟩
  · rw [hsame.bufferLen]
    exact h.room
  · have hsettled := h.settled (Bool.eq_false_iff.mpr fun he => by simp [herror he] at hno)
    refine ⟨hbounded, ?_, ?_⟩
    · rw [hsame.messageLen, hsame.pos]
      intro hzero hc
      exact hsettled.short hzero (Bool.eq_false_iff.mpr fun he => by simp [hstays he] at hc)
    · rw [hsame.messageLen, hsame.pos, hsame.received]
      exact hsettled.incomplete
  · obtain ⟨gone, hd, hgone⟩ := h.delivered
    refine ⟨gone, hd.congr hsame hconsumed, ?_⟩
    rw [Connection.withoutError_toCompact] at hgone ⊢
    omega

/-- The same, where nothing was given back. -/
theorem HeldUpTo.of_same_consumed (h : HeldUpTo messages n c future) (hsame : c.SameReceive c')
    (herror : c.checkState STATUS_FLAGS_ERROR = true → c'.checkState STATUS_FLAGS_ERROR = true)
    (hconsumed : c'.checkState STATUS_FLAGS_MESSAGE_CONSUMED =
      c.checkState STATUS_FLAGS_MESSAGE_CONSUMED) : HeldUpTo messages n c' future := by
  refine h.of_same hsame herror (fun hc => hconsumed.trans hc) (fun hc => ?_) ?_
  · rw [hsame.received]
    exact h.bounded.consumed (hconsumed.symm.trans hc)
  · rw [Connection.toCompact, Connection.toCompact, hconsumed]

/-- The message the node is shown is the next one. -/
theorem HeldUpTo.exposed (h : HeldUpTo messages n c future) {bytes : List UInt8}
    (he : c.exposed = some bytes) : (messages.map WireMessage.bytes)[n]? = some bytes :=
  h.delivered.exposed (c.withoutError_exposed.trans he)

/-- With the message that is shown, the messages given back are still the first ones. -/
theorem HeldUpTo.shown {taken : List (List UInt8)} (h : HeldUpTo messages taken.length c future)
    (htaken : taken <+: messages.map WireMessage.bytes) :
    taken ++ c.exposed.toList <+: messages.map WireMessage.bytes := by
  cases he : c.exposed with
  | none =>
      rw [Option.toList_none, List.append_nil]
      exact htaken
  | some bytes =>
      have htake : (messages.map WireMessage.bytes).take (taken.length + 1) = taken ++ [bytes] := by
        rw [List.take_add_one, h.exposed he, ← List.prefix_iff_eq_take.mp htaken]
        rfl
      rw [Option.toList_some, ← htake]
      exact List.take_prefix _ _

/-- What a connection that does not fail holds. -/
theorem HeldUpTo.of_settled (room : 75 ≤ c.recvBufferLen) (hsettled : Settled c)
    (hd : DeliveredUpTo messages n c future) : HeldUpTo messages n c future := by
  refine ⟨room, hsettled.bounded, fun _ => hsettled, ?_⟩
  rwa [Connection.withoutError_of_noError (hd.elim fun _ h => h.1.noError)]

/-! ## What the transport does -/

/-- One receive, however it ends. -/
theorem HeldUpTo.communicateRecv {arrived : List UInt8}
    (h : HeldUpTo messages n c (arrived ++ future)) (hlong : ∀ m ∈ messages, 64 ≤ m.bytes.length)
    (plan : List IoOutcome) (now : Int64) :
    HeldUpTo messages n (tcpConnectionCommunicateRecv (c.arrive arrived plan) now).2 future := by
  cases herror : c.checkState STATUS_FLAGS_ERROR with
  | true =>
      obtain ⟨gone, hd, hgone⟩ := h.delivered
      rw [tcpConnectionCommunicateRecv_error (c := c.arrive arrived plan) now herror]
      exact ⟨h.room, h.bounded.arrive arrived plan, fun hno => absurd (hno.symm.trans herror) nofun,
        gone, hd.arrive plan, hgone⟩
  | false =>
      have hsettled := h.settled herror
      have hdelivered := h.delivered
      rw [Connection.withoutError_of_noError herror] at hdelivered
      obtain ⟨gone, hd, hgone⟩ := hdelivered
      have hroom : RoomForPreamble c (.communicateRecv arrived plan now) :=
        hsettled.roomForPreamble hd (fun m hm => hlong m (List.mem_of_mem_drop hm)) h.room
      have hbounded := h.bounded.step hroom
      have hlen := recvBufferLen_step h.bounded.plain (.communicateRecv arrived plan now)
      have hcompact : Delivering (connectionCompact (c.arrive arrived plan)) (messages.drop n)
          future := DeliveredUpTo.compact ⟨gone, hd.arrive plan, hgone⟩
            ⟨h.bounded.pos_le, h.bounded.len_lt⟩
      have hnothing := connectionCompact_consumed (c.arrive arrived plan)
      -- What holds the messages from the `n`-th on has given back `n` of them.
      have hdone {c' : Connection} (hd' : Delivering c' (messages.drop n) future)
          (hc' : c'.checkState STATUS_FLAGS_MESSAGE_CONSUMED = false) :
          DeliveredUpTo messages n c' future := by
        refine ⟨n, hd', ?_⟩
        rw [Connection.toCompact, hc']
        rfl
      rw [ReceiveCall.step] at hbounded hlen
      rw [tcpConnectionCommunicateRecv_plain (c := c.arrive arrived plan) now h.bounded.plain
        herror] at hbounded hlen ⊢
      split at hbounded
      · next hnone =>
          rw [if_pos hnone] at hlen ⊢
          have hstay : connectionCompact (c.arrive arrived plan) = c.arrive arrived plan :=
            connectionCompact_of_idle hnone
          refine .of_settled (hlen ▸ h.room) ⟨hbounded, ?_, ?_⟩ (hdone hcompact hnothing)
          · rw [hstay]
            exact hsettled.short
          · rw [hstay]
            exact hsettled.incomplete
      · next hsome =>
          rw [if_neg hsome] at hlen ⊢
          have hrecv := hcompact.receive
            (connectionRecvOpLen (connectionCompact (c.arrive arrived plan)))
          obtain ⟨sock, -, hrest⟩ := tcpConnectionRecv_spec
            (connectionCompact (c.arrive arrived plan))
            (connectionRecvOpLen (connectionCompact (c.arrive arrived plan)))
          generalize hrun : tcpConnectionRecv (connectionCompact (c.arrive arrived plan))
            (connectionRecvOpLen (connectionCompact (c.arrive arrived plan))) = run
            at hrecv hbounded hlen hrest ⊢
          obtain ⟨rv, c₁⟩ := run
          have hconsumed : c₁.checkState STATUS_FLAGS_MESSAGE_CONSUMED = false := by
            change c₁ = _ at hrest
            rw [hrest]
            exact hnothing
          cases rv with
          | error e =>
              -- The bytes that came before the failure stay, and nothing more is received.
              have hfailed : c₁.failReceive.checkState STATUS_FLAGS_ERROR = true :=
                (Connection.checkState_clearState (by decide)).trans
                  (Connection.checkState_setState_of_overlap (by decide))
              have hnone : c₁.failReceive.checkState STATUS_FLAGS_MESSAGE_CONSUMED = false :=
                ((Connection.checkState_clearState (by decide)).trans
                  (Connection.checkState_setState (by decide))).trans hconsumed
              refine ⟨hlen ▸ h.room, hbounded, fun hno => absurd (hno.symm.trans hfailed) nofun, n,
                Delivering.congr (c := c₁) ?_ c₁.sameReceive_failReceive fun hc => ?_, ?_⟩
              · rwa [Connection.withoutError_of_noError hrecv.noError]
              · cases hnone.symm.trans hc
              · change n = n + c₁.failReceive.withoutError.toCompact
                rw [Connection.withoutError_toCompact, Connection.toCompact, hnone]
                rfl
          | ok _ =>
              obtain ⟨hend, hflag⟩ := hrecv.recv2 now
              exact .of_settled (hlen ▸ h.room) (hrecv.recv2_settled hbounded)
                (hdone hend (hflag.trans hconsumed))

/-- A send on a plain connection. -/
theorem communicateSend_sameReceive (hplain : c.Plain) (now : Int64) :
    c.SameReceive (tcpConnectionCommunicateSend c now).2 := by
  have hflags := KeepsReceiving.communicateSend c now
  have hsend1 : (connectionImplCommunicateSend1 c).2.sock = c.sock ∧
      (connectionImplCommunicateSend1 c).2.transportStorage = c.transportStorage ∧
      (connectionImplCommunicateSend1 c).2.recvBuffer = c.recvBuffer ∧
      (connectionImplCommunicateSend1 c).2.recvBufferPos = c.recvBufferPos ∧
      (connectionImplCommunicateSend1 c).2.recvMessageLen = c.recvMessageLen := by
    unfold connectionImplCommunicateSend1
    split_ifs
    all_goals exact ⟨rfl, rfl, rfl, rfl, rfl⟩
  have hsend2 (c₁ : Connection) (rv : Result Unit) :
      (connectionImplCommunicateSend2 c₁ now rv).2.sock = c₁.sock ∧
      (connectionImplCommunicateSend2 c₁ now rv).2.transportStorage = c₁.transportStorage ∧
      (connectionImplCommunicateSend2 c₁ now rv).2.recvBuffer = c₁.recvBuffer ∧
      (connectionImplCommunicateSend2 c₁ now rv).2.recvBufferPos = c₁.recvBufferPos ∧
      (connectionImplCommunicateSend2 c₁ now rv).2.recvMessageLen = c₁.recvMessageLen := by
    unfold connectionImplCommunicateSend2
    split
    · exact ⟨rfl, rfl, rfl, rfl, rfl⟩
    · split
      · exact ⟨rfl, rfl, rfl, rfl, rfl⟩
      · exact ⟨rfl, rfl, rfl, rfl, rfl⟩
  have hrest : (tcpConnectionCommunicateSend c now).2.sock.inbox = c.sock.inbox ∧
      (tcpConnectionCommunicateSend c now).2.transportStorage = c.transportStorage ∧
      (tcpConnectionCommunicateSend c now).2.recvBuffer = c.recvBuffer ∧
      (tcpConnectionCommunicateSend c now).2.recvBufferPos = c.recvBufferPos ∧
      (tcpConnectionCommunicateSend c now).2.recvMessageLen = c.recvMessageLen := by
    unfold tcpConnectionCommunicateSend
    split
    · next h =>
        rw [h] at hsend1
        obtain ⟨hsock, hsame⟩ := hsend1
        exact ⟨congrArg Socket.inbox hsock, hsame⟩
    · next sendOpLen c₁ h =>
        rw [h] at hsend1
        obtain ⟨hsock, hstorage, hbuffer, hpos, hlen⟩ := hsend1
        split
        · exact ⟨congrArg Socket.inbox hsock, hstorage, hbuffer, hpos, hlen⟩
        · have hplain₁ : c₁.Plain := by
            rw [Connection.Plain, hstorage]
            exact hplain
          obtain ⟨sock, hspec, heq⟩ := tcpConnectionSend_spec c₁ sendOpLen
          have hinbox := hspec.inbox_eq
          dsimp only at hinbox hsock hstorage hbuffer hpos hlen ⊢
          rw [tcpConnectionBufferSend_plain hplain₁]
          obtain ⟨hsock₂, hstorage₂, hbuffer₂, hpos₂, hlen₂⟩ :=
            hsend2 (tcpConnectionSend c₁ sendOpLen).2 (tcpConnectionSend c₁ sendOpLen).1
          rw [hsock₂, hstorage₂, hbuffer₂, hpos₂, hlen₂, heq]
          exact ⟨hinbox.trans (congrArg Socket.inbox hsock), hstorage, hbuffer, hpos, hlen⟩
  obtain ⟨hinbox, hstorage, hbuffer, hpos, hlen⟩ := hrest
  exact ⟨hstorage, hinbox, hbuffer, hflags.length.bufferLen, hpos, hlen, hflags.checkState (by decide),
    fun hr => (hflags.checkState (by decide)).trans hr⟩

/-- Past the handshake, the transport has nothing to control but a close. A client of a raw socket
has no handshake: it may still wait for the first reply. -/
structure Connection.Established (c : Connection) : Prop where
  connected : connectionIsServer c = true → c.checkState STATUS_FLAGS_CONNECTING = false
  socket : connectionIsServer c = true ∨
    c.checkState STATUS_FLAGS_CLIENT_SOCKET_CONNECTED = true

/-- A connection that was closed, or whose slot waits to be used again: it receives nothing and
shows nothing. -/
structure Connection.Silent (c : Connection) : Prop where
  plain : c.Plain
  gone : c.checkState (STATUS_FLAGS_CLOSED ||| STATUS_FLAGS_IDLE) = true
  received : c.checkState STATUS_FLAGS_MESSAGE_RECEIVED = false
  requested : c.checkState STATUS_FLAGS_RECEIVE_REQUESTED = false
  consumed : c.checkState STATUS_FLAGS_MESSAGE_CONSUMED = false
  pos_le : c.recvBufferPos ≤ c.recvBufferLen

omit [SizeT] in
theorem Connection.Silent.exposed (h : c.Silent) : c.exposed = none := by
  rw [Connection.exposed, h.received]
  exact if_neg fun hr => Bool.false_ne_true hr.1

omit [SizeT] in
theorem Connection.Silent.of_same (h : c.Silent) (hsame : c.SameReceive c')
    (hgone : c'.checkState (STATUS_FLAGS_CLOSED ||| STATUS_FLAGS_IDLE) = true)
    (hconsumed : c'.checkState STATUS_FLAGS_MESSAGE_CONSUMED = false) : c'.Silent where
  plain := by
    rw [Connection.Plain, hsame.storage]
    exact h.plain
  gone := hgone
  received := hsame.received.trans h.received
  requested := hsame.requested h.requested
  consumed := hconsumed
  pos_le := by
    rw [hsame.pos, hsame.bufferLen]
    exact h.pos_le

omit [SizeT] in
theorem connectionReset_silent (hplain : c.Plain) : (connectionReset c).Silent where
  plain := hplain
  gone := (by decide : flagsCheck STATUS_FLAGS_IDLE (STATUS_FLAGS_CLOSED ||| STATUS_FLAGS_IDLE) = true)
  received := (by decide : flagsCheck STATUS_FLAGS_IDLE STATUS_FLAGS_MESSAGE_RECEIVED = false)
  requested := (by decide : flagsCheck STATUS_FLAGS_IDLE STATUS_FLAGS_RECEIVE_REQUESTED = false)
  consumed := (by decide : flagsCheck STATUS_FLAGS_IDLE STATUS_FLAGS_MESSAGE_CONSUMED = false)
  pos_le := Nat.zero_le _

omit [SizeT] in
theorem silent_of_closed (hplain : c.Plain) (hpos : c.recvBufferPos ≤ c.recvBufferLen) :
    { c with connectionState := STATUS_FLAGS_CLOSED }.Silent where
  plain := hplain
  gone := (by decide : flagsCheck STATUS_FLAGS_CLOSED (STATUS_FLAGS_CLOSED ||| STATUS_FLAGS_IDLE) = true)
  received := (by decide : flagsCheck STATUS_FLAGS_CLOSED STATUS_FLAGS_MESSAGE_RECEIVED = false)
  requested := (by decide : flagsCheck STATUS_FLAGS_CLOSED STATUS_FLAGS_RECEIVE_REQUESTED = false)
  consumed := (by decide : flagsCheck STATUS_FLAGS_CLOSED STATUS_FLAGS_MESSAGE_CONSUMED = false)
  pos_le := hpos

/-- Nothing is asked for, so what arrives stays in the socket. -/
theorem Connection.Silent.communicateRecv (h : c.Silent) (arrived : List UInt8)
    (plan : List IoOutcome) (now : Int64) :
    (tcpConnectionCommunicateRecv (c.arrive arrived plan) now).2.Silent := by
  have harrive : (c.arrive arrived plan).Silent :=
    ⟨h.plain, h.gone, h.received, h.requested, h.consumed, h.pos_le⟩
  have hcompact : connectionCompact (c.arrive arrived plan) = c.arrive arrived plan :=
    if_neg (by rw [harrive.consumed]; exact Bool.false_ne_true)
  have hnone : connectionRecvOpLen (c.arrive arrived plan) = 0 :=
    if_neg (by rw [harrive.requested]; exact Bool.false_ne_true)
  cases herror : (c.arrive arrived plan).checkState STATUS_FLAGS_ERROR with
  | true =>
      rw [tcpConnectionCommunicateRecv_error now herror]
      exact harrive
  | false =>
      rw [tcpConnectionCommunicateRecv_plain now harrive.plain herror, hcompact, if_pos hnone]
      exact harrive

/-- The control path leaves a connection alone that has its handshake behind it, closes it, or makes
its slot free. -/
theorem Connection.Established.processControl_cases (h : c.Established) (hplain : c.Plain)
    (digest : TcpDigest) :
    (tcpConnectionCommunicateProcessControl digest c).2 = c ∨
      (tcpConnectionCommunicateProcessControl digest c).2 = connectionReset c ∨
      (tcpConnectionCommunicateProcessControl digest c).2 =
        { c with sock := tcpSocketClose c.sock, connectionState := STATUS_FLAGS_CLOSED } := by
  have hhandshake : tcpConnectionHandshake digest c = (.ok (), c) := by
    unfold tcpConnectionHandshake
    split
    · rfl
    · next hconnecting =>
        rw [if_neg fun hserver => hconnecting (by rw [h.connected hserver]; exact Bool.false_ne_true),
          tcpConnectionHandshakeClient, if_neg hconnecting,
          if_pos (by rw [hplain]; exact Bool.false_ne_true)]
  have hchecked : tcpConnectionCheckConnected c = (.ok (), c) := by
    refine if_neg fun hopen => ?_
    rcases h.socket with hserver | hsocket
    · exact hopen.1 hserver
    · exact hopen.2 hsocket
  unfold tcpConnectionCommunicateProcessControl connectionImplCommunicateProcessControl
  by_cases htype : c.transportType ≠ TCP_TRANSPORT
  · rw [if_pos htype]
    exact Or.inl rfl
  · rw [if_neg htype]
    dsimp only
    by_cases hconsumed : c.checkState STATUS_FLAGS_CLOSED_CONSUMED = true
    · rw [if_pos hconsumed, if_pos (connectionReset_silent hplain).gone]
      exact Or.inr (Or.inl rfl)
    · rw [if_neg hconsumed]
      by_cases hgone : c.checkState (STATUS_FLAGS_CLOSED ||| STATUS_FLAGS_IDLE) = true
      · rw [if_pos hgone]
        exact Or.inl rfl
      · rw [if_neg hgone]
        dsimp only
        split
        · exact Or.inr (Or.inr rfl)
        · rw [hhandshake]
          dsimp only
          rw [hchecked]
          exact Or.inl rfl

/-- So it receives what it did, or it is over. -/
theorem Connection.Established.processControl (h : c.Established) (hplain : c.Plain)
    (hpos : c.recvBufferPos ≤ c.recvBufferLen) (digest : TcpDigest) :
    (tcpConnectionCommunicateProcessControl digest c).2 = c ∨
      (tcpConnectionCommunicateProcessControl digest c).2.Silent := by
  obtain hsame | hreset | hclosed := h.processControl_cases hplain digest
  · exact Or.inl hsame
  · rw [hreset]
    exact Or.inr (connectionReset_silent hplain)
  · rw [hclosed]
    exact Or.inr (silent_of_closed (c := { c with sock := tcpSocketClose c.sock }) hplain hpos)

/-- Once it is over, it stays over. -/
theorem Connection.Silent.processControl (h : c.Silent) (digest : TcpDigest) :
    (tcpConnectionCommunicateProcessControl digest c).2.Silent := by
  unfold tcpConnectionCommunicateProcessControl connectionImplCommunicateProcessControl
  by_cases htype : c.transportType ≠ TCP_TRANSPORT
  · rw [if_pos htype]
    exact h
  · rw [if_neg htype]
    dsimp only
    by_cases hconsumed : c.checkState STATUS_FLAGS_CLOSED_CONSUMED = true
    · rw [if_pos hconsumed, if_pos (connectionReset_silent h.plain).gone]
      exact connectionReset_silent h.plain
    · rw [if_neg hconsumed, if_pos h.gone]
      exact h

/-- The flags that a receive sets and clears. -/
def STATUS_FLAGS_RECEIVE : BitVec 32 :=
  STATUS_FLAGS_ERROR ||| RECEIVE_FLAGS

omit [SizeT] in
/-- What shares nothing with a set shares nothing with a part of it. -/
theorem and_eq_zero_of_and {m all part : BitVec 32} (h : m &&& all = 0#32)
    (hpart : part &&& all = part) : m &&& part = 0#32 := by
  rw [BitVec.and_comm, and_eq_zero_of_subset hpart h]

omit [SizeT] in
/-- The end of a receive consumes nothing. -/
theorem checkState_recv2 (c : Connection) (now : Int64) (rv : Result Unit) {m : BitVec 32}
    (hm : m &&& (STATUS_FLAGS_ERROR ||| STATUS_FLAGS_RECEIVE_REQUESTED |||
      STATUS_FLAGS_MESSAGE_RECEIVED) = 0#32) :
    (connectionImplCommunicateRecv2 c now rv).2.checkState m = c.checkState m := by
  have hrequested : STATUS_FLAGS_RECEIVE_REQUESTED &&& m = 0#32 := and_eq_zero_of_subset (by decide) hm
  have hfailed (c : Connection) : c.failReceive.checkState m = c.checkState m :=
    (Connection.checkState_clearState hrequested).trans
      (Connection.checkState_setState (and_eq_zero_of_subset (by decide) hm))
  have hverify : (connectionVerifyPreamble c).2.checkState m = c.checkState m := by
    unfold connectionVerifyPreamble
    dsimp only
    split_ifs
    · exact hfailed c
    · exact hfailed { c with recvMessageLen := utilReadUint32 c.recvBuffer 4 }
    · rfl
    · rfl
  unfold connectionImplCommunicateRecv2
  split
  · exact hfailed c
  · split
    · next h =>
        rw [h] at hverify
        exact (hfailed _).trans hverify
    · next h =>
        rw [h] at hverify
        dsimp only
        split
        · exact ((Connection.checkState_setState (and_eq_zero_of_subset (by decide) hm)).trans
            (Connection.checkState_clearState hrequested)).trans hverify
        · exact hverify

theorem checkState_communicateRecv (hplain : c.Plain) (now : Int64) {m : BitVec 32}
    (hm : m &&& STATUS_FLAGS_RECEIVE = 0#32) :
    (tcpConnectionCommunicateRecv c now).2.checkState m = c.checkState m := by
  have hcompact : (connectionCompact c).checkState m = c.checkState m := by
    unfold connectionCompact
    split
    · exact (Connection.checkState_setState (and_eq_zero_of_subset (by decide) hm)).trans
        (Connection.checkState_clearState (and_eq_zero_of_subset (by decide) hm))
    · rfl
  cases herror : c.checkState STATUS_FLAGS_ERROR with
  | true => rw [tcpConnectionCommunicateRecv_error now herror]
  | false =>
      rw [tcpConnectionCommunicateRecv_plain now hplain herror]
      split
      · exact hcompact
      · rw [checkState_recv2 _ now _ (and_eq_zero_of_and hm (by decide))]
        exact hcompact

/-- A receive takes a consumed message out, or finds the connection broken. -/
theorem consumed_communicateRecv (hplain : c.Plain) (now : Int64) :
    (tcpConnectionCommunicateRecv c now).2.checkState STATUS_FLAGS_MESSAGE_CONSUMED = false ∨
      (tcpConnectionCommunicateRecv c now).2.checkState STATUS_FLAGS_MESSAGE_CONSUMED =
        c.checkState STATUS_FLAGS_MESSAGE_CONSUMED := by
  cases herror : c.checkState STATUS_FLAGS_ERROR with
  | true =>
      rw [tcpConnectionCommunicateRecv_error now herror]
      exact Or.inr rfl
  | false =>
      rw [tcpConnectionCommunicateRecv_plain now hplain herror]
      split
      · exact Or.inl (connectionCompact_consumed c)
      · rw [checkState_recv2 _ now _ (by decide)]
        exact Or.inl (connectionCompact_consumed c)

theorem checkState_communicateSend (hplain : c.Plain) (now : Int64) {m : BitVec 32}
    (hm : m &&& SENDING_MASK = 0#32) :
    (tcpConnectionCommunicateSend c now).2.checkState m = c.checkState m := by
  have hsend1 : (connectionImplCommunicateSend1 c).2.checkState m = c.checkState m ∧
      (connectionImplCommunicateSend1 c).2.Plain := by
    unfold connectionImplCommunicateSend1
    split_ifs
    · exact ⟨rfl, hplain⟩
    · exact ⟨Connection.checkState_clearState (and_eq_zero_of_subset (by decide) hm), hplain⟩
    · exact ⟨Connection.checkState_clearState (and_eq_zero_of_subset (by decide) hm), hplain⟩
    · exact ⟨rfl, hplain⟩
    · exact ⟨rfl, hplain⟩
  have hsend2 (c : Connection) (rv : Result Unit) :
      (connectionImplCommunicateSend2 c now rv).2.checkState m = c.checkState m := by
    unfold connectionImplCommunicateSend2
    split
    · exact Connection.checkState_setState (and_eq_zero_of_subset (by decide) hm)
    · split
      · exact Connection.checkState_setState (and_eq_zero_of_subset (by decide) hm)
      · exact (Connection.checkState_setState (and_eq_zero_of_subset (by decide) hm)).trans
          (Connection.checkState_clearState (and_eq_zero_of_subset (by decide) hm))
  unfold tcpConnectionCommunicateSend
  split
  · next h =>
      rw [h] at hsend1
      exact hsend1.1
  · next h =>
      rw [h] at hsend1
      split
      · exact hsend1.1
      · dsimp only
        rw [hsend2, tcpConnectionBufferSend_plain hsend1.2]
        exact hsend1.1

theorem Connection.Established.communicateRecv (h : c.Established) (hplain : c.Plain)
    (now : Int64) : (tcpConnectionCommunicateRecv c now).2.Established := by
  have hserver : connectionIsServer (tcpConnectionCommunicateRecv c now).2 = connectionIsServer c :=
    congrArg (flagsCheck · CONFIG_FLAGS_ISSERVER)
      (congrArg Kept.configFlags (kept_communicateRecv c now))
  refine ⟨fun hs => ?_, h.socket.imp (fun hs => ?_) fun hsocket => ?_⟩
  · exact (checkState_communicateRecv hplain now (by decide)).trans (h.connected (hserver ▸ hs))
  · rw [hserver]
    exact hs
  · exact (checkState_communicateRecv hplain now (by decide)).trans hsocket

theorem Connection.Established.communicateSend (h : c.Established) (hplain : c.Plain)
    (now : Int64) : (tcpConnectionCommunicateSend c now).2.Established := by
  have hserver : connectionIsServer (tcpConnectionCommunicateSend c now).2 = connectionIsServer c :=
    congrArg (flagsCheck · CONFIG_FLAGS_ISSERVER)
      (congrArg Kept.configFlags (kept_communicateSend c now))
  refine ⟨fun hs => ?_, h.socket.imp (fun hs => ?_) fun hsocket => ?_⟩
  · exact (checkState_communicateSend hplain now (by decide)).trans (h.connected (hserver ▸ hs))
  · rw [hserver]
    exact hs
  · exact (checkState_communicateSend hplain now (by decide)).trans hsocket

/-! ## What the node does -/

/-- The message that was given back between two states of a connection. -/
def Connection.givenBack (c c' : Connection) : List (List UInt8) :=
  if c'.checkState STATUS_FLAGS_MESSAGE_CONSUMED then c.exposed.toList else []

omit [SizeT] in
theorem Connection.givenBack_of_not_consumed
    (h : c'.checkState STATUS_FLAGS_MESSAGE_CONSUMED = false) : c.givenBack c' = [] :=
  if_neg (by rw [h]; exact Bool.false_ne_true)

omit [SizeT] in
/-- Work on a message that is shown gives it back or keeps it. -/
theorem Connection.givenBack_of_consumed (h : c.checkState STATUS_FLAGS_MESSAGE_CONSUMED = true) :
    c.givenBack c' = [] := by
  have hnone : c.exposed = none := if_neg fun hr => hr.2 h
  rw [givenBack, hnone, Option.toList_none, ite_self]

omit [SizeT] in
theorem Connection.givenBack_of_same (h : c'.checkState STATUS_FLAGS_MESSAGE_CONSUMED =
    c.checkState STATUS_FLAGS_MESSAGE_CONSUMED) : c.givenBack c' = [] := by
  cases hc : c.checkState STATUS_FLAGS_MESSAGE_CONSUMED with
  | true => exact Connection.givenBack_of_consumed hc
  | false => exact Connection.givenBack_of_not_consumed (h.trans hc)

/-- Work of the node on an event that the connection reported, or on something else. -/
theorem HeldUpTo.worked {eventType : EventType} (h : HeldUpTo messages n c future)
    (hworked : c.Worked eventType c')
    (hshown : eventType = .messageReceived → c.exposed.isSome = true) :
    HeldUpTo messages (n + (c.givenBack c').length) c' future := by
  have hsame := hworked.sameReceive
  have herror : c.checkState STATUS_FLAGS_ERROR = true → c'.checkState STATUS_FLAGS_ERROR = true :=
    hworked.keeps (by decide)
  cases hc : c.checkState STATUS_FLAGS_MESSAGE_CONSUMED with
  | true =>
      have hc' : c'.checkState STATUS_FLAGS_MESSAGE_CONSUMED = true :=
        hworked.keeps (by decide) hc
      rw [Connection.givenBack_of_consumed hc]
      exact h.of_same_consumed hsame herror (hc'.trans hc.symm)
  | false =>
      cases hc' : c'.checkState STATUS_FLAGS_MESSAGE_CONSUMED with
      | false =>
          rw [Connection.givenBack_of_not_consumed hc']
          exact h.of_same_consumed hsame herror (hc'.trans hc.symm)
      | true =>
          -- Only the event of a message that is shown sets the flag.
          have hevent : eventType = .messageReceived := by
            by_contra hne
            have hkept := hworked.raised STATUS_FLAGS_MESSAGE_CONSUMED (by decide)
              (by cases eventType <;> first | exact absurd rfl hne | decide) hc
            cases hkept.symm.trans hc'
          obtain ⟨bytes, he⟩ := Option.isSome_iff_exists.mp (hshown hevent)
          have hreceived : c.checkState STATUS_FLAGS_MESSAGE_RECEIVED = true := by
            unfold Connection.exposed at he
            split at he
            · next hf => exact hf.1
            · cases he
          rw [Connection.givenBack, if_pos hc', he]
          refine h.of_same hsame herror (fun _ => hc') (fun _ => hsame.received.trans hreceived) ?_
          rw [Connection.toCompact, Connection.toCompact, hc, hc']
          rfl

/-- Work of the node leaves a silent connection silent. -/
theorem Connection.Silent.worked {eventType : EventType} (h : c.Silent)
    (hworked : c.Worked eventType c')
    (hshown : eventType = .messageReceived → c.exposed.isSome = true) : c'.Silent := by
  have hevent : eventType ≠ .messageReceived := by
    intro hevent
    have hsome := hshown hevent
    rw [h.exposed] at hsome
    cases hsome
  refine h.of_same hworked.sameReceive (hworked.keeps (by decide) h.gone)
    (hworked.raised _ (by decide) ?_ h.consumed)
  cases eventType <;> first | exact absurd rfl hevent | decide

theorem Connection.Established.worked {eventType : EventType} (h : c.Established)
    (hworked : c.Worked eventType c') : c'.Established := by
  have hserver : connectionIsServer c' = connectionIsServer c := by
    rw [connectionIsServer, hworked.rest]
    rfl
  refine ⟨fun hs => ?_, h.socket.imp (fun hs => ?_) (hworked.keeps (by decide))⟩
  · exact hworked.raised _ (by decide) (by cases eventType <;> decide) (h.connected (hserver ▸ hs))
  · rw [hserver]
    exact hs

omit [SizeT] in
/-- The event of a message reports one that is shown. -/
theorem Connection.exposed_of_pending (h : connectionPendingEvent c = some .messageReceived) :
    c.exposed.isSome = true := by
  have hevent : connectionIsMessageReceivedEvent c = true := by
    unfold connectionPendingEvent at h
    by_contra hnot
    rw [Bool.not_eq_true] at hnot
    rw [hnot, if_neg Bool.false_ne_true] at h
    split_ifs at h
    all_goals cases h
  simp only [connectionIsMessageReceivedEvent, Bool.and_eq_true, Bool.not_eq_true'] at hevent
  rw [exposed, if_pos ⟨hevent.1, by rw [hevent.2]; exact Bool.false_ne_true⟩]
  rfl

omit [SizeT] in
theorem Connection.exposed_of_reported {eventType : EventType}
    (h : eventType.isTimed = true ∨ connectionPendingEvent c = some eventType)
    (htype : eventType = .messageReceived) : c.exposed.isSome = true := by
  subst htype
  exact exposed_of_pending (h.resolve_left Bool.false_ne_true)

/-! ## Runs -/

/-- A node, what the peer of one of its connections has still to send, and the messages of that
connection that the node has given back. -/
structure NodeReceiver where
  node : Node
  incoming : List UInt8
  taken : List (List UInt8)

/-- What happens to a node with a connection: it runs an event, the application sends and closes and
gives answers for the handlers to come, the transport moves bytes of the connection and controls
it, and anything happens to the other connections. -/
inductive NodeCall
  | event (now : Int64)
  | app (call : AppCall)
  | answer (answers : List HandlerAnswer)
  | communicateRecv (arriving : Nat) (plan : List IoOutcome) (now : Int64)
  | communicateSend (plan : List IoOutcome) (now : Int64)
  | processControl (digest : TcpDigest)
  | others (change : Nat → Connection → Connection)

/-- The node after a call, where `incoming` comes in on connection `i`. -/
def NodeCall.run (i : Nat) (node : Node) (incoming : List UInt8) : NodeCall → Node
  | .event now => (nodeRunNextEvent2 node now).2
  | .app call => nodeAppCall node call
  | .answer answers => { node with answers }
  | .communicateRecv arriving plan now => node.modifyConnection i fun c =>
      (tcpConnectionCommunicateRecv (c.arrive (incoming.take arriving) plan) now).2
  | .communicateSend plan now => node.modifyConnection i fun c =>
      (tcpConnectionCommunicateSend (c.planSend plan) now).2
  | .processControl digest => node.modifyConnection i fun c =>
      (tcpConnectionCommunicateProcessControl digest c).2
  | .others change => { node with
      connection := fun j => if j = i then node.connection i else change j (node.connection j) }

def NodeCall.arriving : NodeCall → Nat
  | .communicateRecv arriving _ _ => arriving
  | _ => 0

def NodeCall.step (i : Nat) (s : NodeReceiver) (call : NodeCall) : Result Unit × NodeReceiver :=
  let node := call.run i s.node s.incoming
  (.ok (), {
    node
    incoming := s.incoming.drop call.arriving
    taken := s.taken ++ (s.node.connection i).givenBack (node.connection i) })

/-- The messages that were given back are the first ones, and the connection holds the next ones, or
is over. -/
structure Receives (i : Nat) (messages : List WireMessage) (s : NodeReceiver) : Prop where
  taken : s.taken <+: messages.map WireMessage.bytes
  phase : HeldUpTo messages s.taken.length (s.node.connection i) s.incoming ∧
      (s.node.connection i).Established ∨
    (s.node.connection i).Silent

theorem Receives.plain {i : Nat} {s : NodeReceiver} (h : Receives i messages s) :
    (s.node.connection i).Plain := by
  obtain ⟨hheld, -⟩ | hsilent := h.phase
  · exact hheld.bounded.plain
  · exact hsilent.plain

/-- What the node does to its connection, on whatever event. -/
theorem Receives.worked {i : Nat} {s : NodeReceiver} (h : Receives i messages s) (node : Node)
    {eventType : EventType} {c : Connection} (hrechecked : (s.node.connection i).Rechecked c)
    (hworked : c.Worked eventType (node.connection i))
    (hshown : eventType = .messageReceived → (s.node.connection i).exposed.isSome = true) :
    Receives i messages { s with
      node, taken := s.taken ++ (s.node.connection i).givenBack (node.connection i) } := by
  -- When a connection is checked next has no part in this.
  have hgiven : (s.node.connection i).givenBack (node.connection i) =
      c.givenBack (node.connection i) := by
    obtain ⟨t, rfl⟩ := hrechecked
    rfl
  have hshown' : eventType = .messageReceived → c.exposed.isSome = true := by
    obtain ⟨t, rfl⟩ := hrechecked
    exact hshown
  obtain ⟨hheld, hestablished⟩ | hsilent := h.phase
  · have hheld' : HeldUpTo messages s.taken.length c s.incoming := by
      obtain ⟨t, rfl⟩ := hrechecked
      exact hheld.of_same_consumed ⟨rfl, rfl, rfl, rfl, rfl, rfl, rfl, id⟩ id rfl
    have hestablished' : c.Established := by
      obtain ⟨t, rfl⟩ := hrechecked
      exact ⟨hestablished.connected, hestablished.socket⟩
    have hafter := hheld'.worked hworked hshown'
    refine ⟨?_, Or.inl ⟨?_, hestablished'.worked hworked⟩⟩
    · rw [hgiven, Connection.givenBack]
      split
      · exact hheld'.shown h.taken
      · rw [List.append_nil]
        exact h.taken
    · dsimp only
      rw [hgiven, List.length_append]
      exact hafter
  · have hsilent' : c.Silent := by
      obtain ⟨t, rfl⟩ := hrechecked
      exact ⟨hsilent.plain, hsilent.gone, hsilent.received, hsilent.requested, hsilent.consumed,
        hsilent.pos_le⟩
    have hafter := hsilent'.worked hworked hshown'
    refine ⟨?_, Or.inr hafter⟩
    rw [Connection.givenBack_of_not_consumed hafter.consumed, List.append_nil]
    exact h.taken

/-- What the transport does gives no message back. -/
theorem Receives.moved {i : Nat} {s : NodeReceiver} (h : Receives i messages s) (node : Node)
    {incoming : List UInt8}
    (hheld : HeldUpTo messages s.taken.length (s.node.connection i) s.incoming →
      (s.node.connection i).Established →
      HeldUpTo messages s.taken.length (node.connection i) incoming ∧
          (node.connection i).Established ∨ (node.connection i).Silent)
    (hsilent : (s.node.connection i).Silent → (node.connection i).Silent)
    (hgiven : (s.node.connection i).givenBack (node.connection i) = []) :
    Receives i messages {
      node, incoming, taken := s.taken ++ (s.node.connection i).givenBack (node.connection i) } := by
  rw [hgiven, List.append_nil]
  refine ⟨h.taken, ?_⟩
  obtain ⟨hd, hestablished⟩ | hover := h.phase
  · exact hheld hd hestablished
  · exact Or.inr (hsilent hover)

/-- One step of a run. -/
theorem Receives.step {i : Nat} {s : NodeReceiver} (h : Receives i messages s)
    (hlong : ∀ m ∈ messages, 64 ≤ m.bytes.length) (call : NodeCall) :
    Receives i messages (call.step i s).2 := by
  cases call with
  | event now =>
      obtain ⟨eventType, c, hrechecked, hworked, hreported⟩ := nodeRunNextEvent2_worked s.node now i
      exact h.worked _ hrechecked hworked (Connection.exposed_of_reported hreported)
  | app call =>
      exact h.worked _ (.refl _) (((nodeAppCall_asked s.node call).connection i).worked
        (nodeAppCall_posts s.node call i) .noop) nofun
  | answer answers =>
      exact h.worked { s.node with answers } (.refl _) (.refl .noop _) nofun
  | others change =>
      have hsame : ((NodeCall.others change).run i s.node s.incoming).connection i =
          s.node.connection i := if_pos rfl
      have hworked : (s.node.connection i).Worked .noop
          (((NodeCall.others change).run i s.node s.incoming).connection i) := by
        rw [hsame]
        exact .refl .noop _
      exact h.worked _ (.refl _) hworked nofun
  | communicateRecv arriving plan now =>
      have hmodified := Node.modifyConnection_connection s.node i fun c =>
        (tcpConnectionCommunicateRecv (c.arrive (s.incoming.take arriving) plan) now).2
      refine h.moved ((NodeCall.communicateRecv arriving plan now).run i s.node s.incoming)
        (fun hheld hestablished => Or.inl ?_) (fun hsilent => ?_) ?_
      · rw [NodeCall.run, hmodified]
        rw [← List.take_append_drop arriving s.incoming] at hheld
        refine ⟨hheld.communicateRecv hlong plan now, ?_⟩
        exact Connection.Established.communicateRecv
          (c := (s.node.connection i).arrive (s.incoming.take arriving) plan)
          ⟨hestablished.connected, hestablished.socket⟩ hheld.bounded.plain now
      · rw [NodeCall.run, hmodified]
        exact hsilent.communicateRecv _ plan now
      · rw [NodeCall.run, hmodified]
        obtain hnone | hsame := consumed_communicateRecv
          (c := (s.node.connection i).arrive (s.incoming.take arriving) plan) h.plain now
        · exact Connection.givenBack_of_not_consumed hnone
        · exact Connection.givenBack_of_same hsame
  | communicateSend plan now =>
      have hmodified := Node.modifyConnection_connection s.node i fun c =>
        (tcpConnectionCommunicateSend (c.planSend plan) now).2
      have hplan : (s.node.connection i).SameReceive ((s.node.connection i).planSend plan) :=
        ⟨rfl, rfl, rfl, rfl, rfl, rfl, rfl, id⟩
      have hsame := hplan.trans
        (communicateSend_sameReceive (c := (s.node.connection i).planSend plan) h.plain now)
      have hkeeps := KeepsReceiving.communicateSend ((s.node.connection i).planSend plan) now
      have hconsumed : (tcpConnectionCommunicateSend ((s.node.connection i).planSend plan)
          now).2.checkState STATUS_FLAGS_MESSAGE_CONSUMED =
          (s.node.connection i).checkState STATUS_FLAGS_MESSAGE_CONSUMED :=
        hkeeps.checkState (by decide)
      refine h.moved ((NodeCall.communicateSend plan now).run i s.node s.incoming)
        (fun hheld hestablished => Or.inl ?_) (fun hsilent => ?_) ?_
      · rw [NodeCall.run, hmodified]
        refine ⟨hheld.of_same_consumed hsame hkeeps.length.error hconsumed, ?_⟩
        exact Connection.Established.communicateSend (c := (s.node.connection i).planSend plan)
          ⟨hestablished.connected, hestablished.socket⟩ hheld.bounded.plain now
      · rw [NodeCall.run, hmodified]
        refine hsilent.of_same hsame ?_ (hconsumed.trans hsilent.consumed)
        exact (checkState_communicateSend (c := (s.node.connection i).planSend plan) hsilent.plain
          now (by decide)).trans hsilent.gone
      · rw [NodeCall.run, hmodified]
        exact Connection.givenBack_of_same hconsumed
  | processControl digest =>
      have hmodified := Node.modifyConnection_connection s.node i fun c =>
        (tcpConnectionCommunicateProcessControl digest c).2
      refine h.moved ((NodeCall.processControl digest).run i s.node s.incoming)
        (fun hheld hestablished => ?_) (fun hsilent => ?_) ?_
      · rw [NodeCall.run, hmodified]
        obtain hsame | hsilent :=
          hestablished.processControl hheld.bounded.plain hheld.bounded.pos_le digest
        · rw [hsame]
          exact Or.inl ⟨hheld, hestablished⟩
        · exact Or.inr hsilent
      · rw [NodeCall.run, hmodified]
        exact hsilent.processControl digest
      · rw [NodeCall.run, hmodified]
        obtain ⟨hheld, hestablished⟩ | hsilent := h.phase
        · obtain hsame | hsilent :=
            hestablished.processControl hheld.bounded.plain hheld.bounded.pos_le digest
          · rw [hsame]
            exact Connection.givenBack_of_same rfl
          · exact Connection.givenBack_of_not_consumed hsilent.consumed
        · exact Connection.givenBack_of_not_consumed (hsilent.processControl digest).consumed

/-- An event that reports a message of the connection reports the one after those that were given
back. -/
def ShowsNext (i : Nat) (messages : List WireMessage) (s : NodeReceiver) : NodeCall → Prop
  | .event now => (s.node.nextEvent now).1.connection = i →
      (s.node.nextEvent now).1.eventType = .messageReceived →
        (s.node.connection i).exposed = (messages.map WireMessage.bytes)[s.taken.length]? ∧
          (s.node.connection i).exposed.isSome = true
  | _ => True

theorem Receives.showsNext {i : Nat} {s : NodeReceiver} (h : Receives i messages s)
    (call : NodeCall) : ShowsNext i messages s call := by
  cases call with
  | event now =>
      intro hown htype
      have hcycle : (s.node.nextEvent now).1.eventType ≠ .nextCycle := by
        rw [htype]
        decide
      have hshown := Connection.exposed_of_reported (reported_pending hown hcycle) htype
      obtain ⟨bytes, he⟩ := Option.isSome_iff_exists.mp hshown
      refine ⟨?_, hshown⟩
      obtain ⟨hheld, -⟩ | hsilent := h.phase
      · rw [he, hheld.exposed he]
      · rw [hsilent.exposed] at he
        cases he
  | _ => trivial

/-- A connection past its handshake on which nothing but the start of a first preamble has come in,
with a peer that sends `messages`. -/
structure FreshNodeReceiver (i : Nat) (messages : List WireMessage) (s : NodeReceiver) : Prop where
  receiver : FreshReceiver (s.node.connection i) messages s.incoming
  short : (s.node.connection i).recvBufferPos < 12
  bufferLen : 75 ≤ (s.node.connection i).recvBufferLen ∧
    (s.node.connection i).recvBufferLen < SizeT.modulus
  established : (s.node.connection i).Established
  long : ∀ m ∈ messages, 64 ≤ m.bytes.length
  nothingTaken : s.taken = []

theorem FreshNodeReceiver.receives {i : Nat} {s : NodeReceiver}
    (h : FreshNodeReceiver i messages s) : Receives i messages s := by
  have hshort := h.short
  have hroom := h.bufferLen.1
  have hbounded : ReceiveBounded (s.node.connection i) :=
    .of_fresh h.receiver.plain h.receiver.notReceived h.receiver.notConsumed (by omega)
      h.bufferLen.2
  have hsettled : Settled (s.node.connection i) :=
    ⟨hbounded, fun _ _ => hshort, fun hnew _ => absurd h.receiver.noLength hnew⟩
  refine ⟨?_, Or.inl ⟨?_, h.established⟩⟩
  · rw [h.nothingTaken]
    exact List.nil_prefix
  · rw [h.nothingTaken]
    exact .of_settled hroom hsettled h.receiver.deliveredUpTo

/-- Whatever else happens to the node, its handlers and its other connections, and however the
socket fails: the messages that were given back are the first ones that the peer sent, whole and
in order, an event reports the next of them, and the receive buffer is never left. -/
theorem node_receives_in_order {i : Nat} {s : NodeReceiver} {cs : List NodeCall}
    (h : FreshNodeReceiver i messages s) :
    let s' := final (NodeCall.step i) s cs
    s'.taken ++ (s'.node.connection i).exposed.toList <+: messages.map WireMessage.bytes ∧
      (s'.node.connection i).recvBufferPos ≤ (s'.node.connection i).recvBufferLen ∧
      EveryCall (NodeCall.step i) (ShowsNext i messages) s cs := by
  obtain ⟨hfinal, hshows⟩ := EveryCall.invariant (I := Receives i messages)
    (fun s call hs _ => hs.step h.long call) (fun s call hs _ => hs.showsNext call) h.receives
    (everyCall_true s cs)
  refine ⟨?_, ?_, hshows⟩
  · obtain ⟨hheld, -⟩ | hsilent := hfinal.phase
    · exact hheld.shown hfinal.taken
    · rw [hsilent.exposed, Option.toList_none, List.append_nil]
      exact hfinal.taken
  · obtain ⟨hheld, -⟩ | hsilent := hfinal.phase
    · exact hheld.bounded.pos_le
    · exact hsilent.pos_le

end

section

open Lp64

/-- A server whose peer sends two messages, of which the first four bytes came with its
handshake. -/
def twoMessagesReceiver : NodeReceiver where
  node := Node.init .any [] [0] fun _ => { plainConnection with
    configFlags := CONFIG_FLAGS_ISSERVER
    recvBuffer := rracMagic ++ List.replicate 1021 0
    recvBufferPos := 4 }
  incoming := (wireStream [message64, message64]).drop 4
  taken := []

theorem twoMessagesReceiver_fresh :
    FreshNodeReceiver 0 [message64, message64] twoMessagesReceiver where
  receiver := ⟨rfl, rfl, rfl, rfl, rfl, by decide +kernel, by decide +kernel⟩
  short := by decide
  bufferLen := by decide +kernel
  established := ⟨fun _ => rfl, Or.inl rfl⟩
  long := by decide +kernel
  nothingTaken := rfl

/-- The messages come in pieces. The first one is reported and consumed, but it is not one that the
node can read, so the connection fails and the next receive moves nothing. -/
def twoMessagesCalls : List NodeCall :=
  [.communicateRecv 40 [.ready 63] 0, .processControl noDigest, .event 0,
    .communicateRecv 60 [.ready 63] 1, .event 1, .communicateSend [] 2, .event 2,
    .communicateRecv 24 [.ready 63] 3, .event 3]

theorem twoMessagesReceiver_receives :
    let s := final (NodeCall.step 0) twoMessagesReceiver twoMessagesCalls
    s.taken ++ (s.node.connection 0).exposed.toList <+:
        [message64, message64].map WireMessage.bytes ∧
      (s.node.connection 0).recvBufferPos ≤ (s.node.connection 0).recvBufferLen ∧
      EveryCall (NodeCall.step 0) (ShowsNext 0 [message64, message64]) twoMessagesReceiver
        twoMessagesCalls :=
  node_receives_in_order twoMessagesReceiver_fresh

example : (final (NodeCall.step 0) twoMessagesReceiver twoMessagesCalls).taken =
    [message64.bytes] := by decide +kernel

end

end RobotRaconteurLite

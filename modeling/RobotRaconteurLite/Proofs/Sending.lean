import RobotRaconteurLite.Proofs.PlainReceive

/-!
# Messages are sent in order, each once

An application begins a message, fills the send buffer, ends the message with a
length and waits for the event that says it was sent; `communicate_send` is
called at any time and the socket takes as much of the buffer as it likes. What
the socket has taken is the messages ended so far, but for what is left of the
last one.

Four flags say how far the last message has come. `sendFlags` is those four, and
the error flag, picked out of the word.
-/

namespace RobotRaconteurLite

open Splice CallSequence

/-! ## The flags of sending -/

/-- The flags a message goes through while it is sent, and the one that stops it. -/
def SENDING_MASK : BitVec 32 :=
  STATUS_FLAGS_ERROR ||| STATUS_FLAGS_SEND_REQUESTED ||| STATUS_FLAGS_SENDING |||
    STATUS_FLAGS_MESSAGE_SENT ||| STATUS_FLAGS_MESSAGE_SENT_CONSUMED

def Connection.sendFlags (c : Connection) : BitVec 32 := c.connectionState &&& SENDING_MASK

theorem Connection.checkState_eq_sendFlags {c : Connection} {m : BitVec 32}
    (h : SENDING_MASK &&& m = m) : c.checkState m = flagsCheck c.sendFlags m :=
  (flagsCheck_and h).symm

theorem Connection.sendFlags_setState {c : Connection} {m : BitVec 32}
    (h : SENDING_MASK &&& m = m) : (c.setState m).sendFlags = flagsSet c.sendFlags m :=
  flagsSet_and h

theorem Connection.sendFlags_clearState (c : Connection) (m : BitVec 32) :
    (c.clearState m).sendFlags = flagsClear c.sendFlags m :=
  flagsClear_and _ _ _

/-! ## Runs -/

/-- A connection and the application that sends on it: whether it is filling the
buffer, whether it waits for the event, and the messages it has ended. -/
structure Sender where
  conn : Connection
  writing : Bool
  awaiting : Bool
  ended : List (List UInt8)

/-- What the system does with the coming sends. -/
def Connection.planSend (c : Connection) (plan : List IoOutcome) : Connection :=
  { c with sock := { c.sock with sendPlan := plan } }

/-- What the application and the transport do. -/
inductive SendCall
  | beginSendMessage (messageWriter : MessageWriter)
  | fill (bytes : List UInt8)
  | endSendMessage (messageLen : Nat)
  | consumeMessageSent
  | communicateSend (plan : List IoOutcome) (now : Int64)

section

variable [SizeT]

def SendCall.step (s : Sender) : SendCall → Result Unit × Sender
  | .beginSendMessage messageWriter =>
      match connectionBeginSendMessage s.conn messageWriter with
      | .ok _ => (.ok (), { s with writing := true })
      | .error e => (.error e, s)
  | .fill bytes => (.ok (), { s with conn := { s.conn with sendBuffer := bytes } })
  | .endSendMessage messageLen =>
      (.ok (), {
        conn := connectionEndSendMessage s.conn messageLen
        writing := false
        awaiting := true
        ended := s.ended ++ [s.conn.sendBuffer.take messageLen] })
  | .consumeMessageSent =>
      (.ok (), { s with conn := connectionConsumeMessageSent s.conn, awaiting := false })
  | .communicateSend plan now =>
      let (rv, c) := tcpConnectionCommunicateSend (s.conn.planSend plan) now
      (rv, { s with conn := c })

/-- What the application keeps to, and a socket that neither fails nor closes. -/
def SendProtocol (s : Sender) : SendCall → Prop
  | .beginSendMessage _ => True
  | .fill bytes => s.writing = true ∧ bytes.length = s.conn.sendBuffer.length
  | .endSendMessage messageLen =>
      s.writing = true ∧ 1 ≤ messageLen ∧ messageLen ≤ s.conn.sendBufferLen
  | .consumeMessageSent => connectionIsMessageSentEvent s.conn = true
  | .communicateSend plan _ => Willing plan

/-- The length of a message fits the connection's field for it. -/
def SendCall.LengthFits : SendCall → Prop
  | .endSendMessage messageLen => messageLen < 2 ^ 32
  | _ => True

/-- A begin that succeeds finds no message on its way. -/
def BeginsOnce (s : Sender) : SendCall → Prop
  | .beginSendMessage messageWriter =>
      (SendCall.step s (.beginSendMessage messageWriter)).1 = .ok () → s.awaiting = false
  | _ => True

/-- `MESSAGE_SENT` comes up with the last byte of the message. -/
def SentWithLastByte (s : Sender) (call : SendCall) : Prop :=
  (s.conn.checkState STATUS_FLAGS_MESSAGE_SENT = false ∧
      (call.step s).2.conn.checkState STATUS_FLAGS_MESSAGE_SENT = true) ↔
    (s.conn.sock.sent ≠ s.ended.flatten ∧
      (call.step s).2.conn.sock.sent = (call.step s).2.ended.flatten)

end

/-- The last message is on its way, after the messages `before`. -/
structure Underway (s : Sender) (before : List (List UInt8)) : Prop where
  flags : s.conn.sendFlags = STATUS_FLAGS_SEND_REQUESTED ∧ s.conn.sendBufferPos = 0 ∨
    s.conn.sendFlags = STATUS_FLAGS_SENDING
  writing : s.writing = false
  awaiting : s.awaiting = true
  short : s.conn.sendBufferPos < s.conn.sendMessageLen.toNat
  inside : s.conn.sendMessageLen.toNat ≤ s.conn.sendBuffer.length
  ended : s.ended = before ++ [s.conn.sendBuffer.take s.conn.sendMessageLen.toNat]
  sent : s.conn.sock.sent = before.flatten ++ s.conn.sendBuffer.take s.conn.sendBufferPos

/-- How far the last message has come. -/
inductive SendPhase (s : Sender) : Prop
  | quiet (flags : s.conn.sendFlags = 0) (pos : s.conn.sendBufferPos = 0)
      (awaiting : s.awaiting = false) (sent : s.conn.sock.sent = s.ended.flatten)
  | underway (before : List (List UInt8)) (h : Underway s before)
  | done (flags : s.conn.sendFlags = STATUS_FLAGS_MESSAGE_SENT) (writing : s.writing = false)
      (sent : s.conn.sock.sent = s.ended.flatten)
  | consumed (flags : s.conn.sendFlags =
        STATUS_FLAGS_MESSAGE_SENT ||| STATUS_FLAGS_MESSAGE_SENT_CONSUMED)
      (writing : s.writing = false) (awaiting : s.awaiting = false)
      (sent : s.conn.sock.sent = s.ended.flatten)

/-- A plain connection on which messages are sent, in some phase. -/
structure SendingInOrder (s : Sender) : Prop where
  plain : s.conn.Plain
  bufferLen : s.conn.sendBufferLen ≤ s.conn.sendBuffer.length
  phase : SendPhase s

section

variable {s : Sender} {before : List (List UInt8)}

/-- A message on its way has bytes the socket has not taken. -/
theorem Underway.unsent (h : Underway s before) : s.conn.sock.sent ≠ s.ended.flatten := by
  intro heq
  have hshort := h.short
  have hinside := h.inside
  have hlen := congrArg List.length heq
  rw [h.sent, h.ended] at hlen
  simp at hlen
  omega

/-- While a message is on its way no flag says it was sent. -/
theorem Underway.flag_down (h : Underway s before) {m : BitVec 32}
    (hm : m = STATUS_FLAGS_MESSAGE_SENT ∨ m = STATUS_FLAGS_MESSAGE_SENT_CONSUMED) :
    s.conn.checkState m = false := by
  rcases hm with rfl | rfl
  all_goals
    rw [Connection.checkState_eq_sendFlags (by decide)]
    rcases h.flags with ⟨flags, -⟩ | flags
    · rw [flags]; decide
    · rw [flags]; decide

theorem Underway.flags_ne (h : Underway s before) : s.conn.sendFlags ≠ 0 := by
  intro hzero
  rcases h.flags with ⟨flags, -⟩ | flags
  · rw [flags] at hzero; exact absurd hzero (by decide)
  · rw [flags] at hzero; exact absurd hzero (by decide)

/-- What the socket has taken is the messages ended, but for the end of the last one. -/
theorem SendPhase.sent_prefix (h : SendPhase s) :
    s.ended.dropLast.flatten <+: s.conn.sock.sent ∧ s.conn.sock.sent <+: s.ended.flatten := by
  have hlast : s.ended.dropLast.flatten <+: s.ended.flatten := by
    rcases List.eq_nil_or_concat s.ended with hnil | ⟨before, last, hconcat⟩
    · simp [hnil]
    · simp [hconcat]
  cases h with
  | quiet flags pos awaiting sent => exact ⟨sent ▸ hlast, sent ▸ List.prefix_refl _⟩
  | underway before h =>
      rw [h.sent, h.ended]
      constructor
      · simp
      · have htake := List.take_prefix s.conn.sendBufferPos
          (s.conn.sendBuffer.take s.conn.sendMessageLen.toNat)
        rw [List.take_take, Nat.min_eq_left (Nat.le_of_lt h.short)] at htake
        simpa using htake
  | done flags writing sent => exact ⟨sent ▸ hlast, sent ▸ List.prefix_refl _⟩
  | consumed flags writing awaiting sent => exact ⟨sent ▸ hlast, sent ▸ List.prefix_refl _⟩

/-- The event is there once the message is done. -/
theorem SendPhase.event_done (h : SendPhase s)
    (he : connectionIsMessageSentEvent s.conn = true) :
    s.conn.sendFlags = STATUS_FLAGS_MESSAGE_SENT ∧ s.writing = false ∧
      s.conn.sock.sent = s.ended.flatten := by
  rw [connectionIsMessageSentEvent] at he
  cases h with
  | quiet flags =>
      rw [Connection.checkState_eq_sendFlags (by decide),
        Connection.checkState_eq_sendFlags (by decide), flags] at he
      exact absurd he (by decide)
  | underway before h =>
      rw [h.flag_down (Or.inl rfl), h.flag_down (Or.inr rfl)] at he
      exact absurd he (by decide)
  | done flags writing sent => exact ⟨flags, writing, sent⟩
  | consumed flags =>
      rw [Connection.checkState_eq_sendFlags (by decide),
        Connection.checkState_eq_sendFlags (by decide), flags] at he
      exact absurd he (by decide)

/-- Nothing is sent while the application fills the buffer. -/
theorem SendPhase.writing_quiet (h : SendPhase s) (hw : s.writing = true) :
    s.conn.sendFlags = 0 ∧ s.conn.sendBufferPos = 0 ∧ s.awaiting = false ∧
      s.conn.sock.sent = s.ended.flatten := by
  cases h with
  | quiet flags pos awaiting sent => exact ⟨flags, pos, awaiting, sent⟩
  | underway before h => cases hw.symm.trans h.writing
  | done flags writing => cases hw.symm.trans writing
  | consumed flags writing => cases hw.symm.trans writing

/-- Where no message is awaited all were sent. -/
theorem SendPhase.sent_of_not_awaiting (h : SendPhase s) (ha : s.awaiting = false) :
    s.conn.sock.sent = s.ended.flatten := by
  cases h with
  | quiet flags pos awaiting sent => exact sent
  | underway before h => cases ha.symm.trans h.awaiting
  | done flags writing sent => exact sent
  | consumed flags writing awaiting sent => exact sent

theorem SendPhase.flags_quiet (h : SendPhase s) (hflags : s.conn.sendFlags = 0) :
    s.conn.sendBufferPos = 0 ∧ s.awaiting = false ∧ s.conn.sock.sent = s.ended.flatten := by
  cases h with
  | quiet flags pos awaiting sent => exact ⟨pos, awaiting, sent⟩
  | underway before h => exact absurd hflags h.flags_ne
  | done flags => rw [flags] at hflags; exact absurd hflags (by decide)
  | consumed flags => rw [flags] at hflags; exact absurd hflags (by decide)

/-- A connected plain connection on which nothing was sent yet. -/
structure FreshSender (s : Sender) : Prop where
  plain : s.conn.Plain
  noFlags : s.conn.sendFlags = 0
  pos : s.conn.sendBufferPos = 0
  bufferLen : s.conn.sendBufferLen ≤ s.conn.sendBuffer.length
  notAwaiting : s.awaiting = false
  nothingSent : s.conn.sock.sent = []
  nothingEnded : s.ended = []

theorem FreshSender.sendingInOrder (h : FreshSender s) : SendingInOrder s := by
  refine ⟨h.plain, h.bufferLen, SendPhase.quiet h.noFlags h.pos h.notAwaiting ?_⟩
  rw [h.nothingSent, h.nothingEnded]
  rfl

end

section

variable [SizeT] {s : Sender}

/-! ## Beginning -/

/-- A begin that succeeds finds none of the flags of sending set. -/
theorem sendFlags_of_begin {c : Connection} {messageWriter w : MessageWriter}
    (h : connectionBeginSendMessage c messageWriter = .ok w) : c.sendFlags = 0 := by
  unfold connectionBeginSendMessage at h
  split at h
  · cases h
  · next hopen =>
      split at h
      · cases h
      · next hfree =>
          -- The two masks of the checks cover the flags of sending.
          simp only [Connection.checkState, flagsCheck, not_or, Bool.not_eq_true, bne_eq_false_iff_eq]
            at hopen hfree
          have hpart {m n : BitVec 32} (hm : c.connectionState &&& m = 0#32) (hn : m &&& n = n) :
              c.connectionState &&& n = 0#32 := by
            rw [← hn, ← BitVec.and_assoc, hm, BitVec.zero_and]
          have hsplit (m n : BitVec 32) : c.connectionState &&& (m ||| n) =
              (c.connectionState &&& m) ||| (c.connectionState &&& n) := by
            ext i hi
            simp only [BitVec.getElem_and, BitVec.getElem_or]
            cases c.connectionState[i] <;> rfl
          rw [Connection.sendFlags, SENDING_MASK, hsplit, hsplit, hsplit, hsplit,
            hpart hopen.1 (by decide), hpart hfree (by decide), hpart hfree (by decide),
            hpart hfree (by decide), hpart hfree (by decide)]
          rfl

/-- A begin on a connection that is connected and no more succeeds. -/
theorem connectionBeginSendMessage_ok {c : Connection} (messageWriter : MessageWriter)
    (hstate : c.connectionState = STATUS_FLAGS_CONNECTED)
    (hlen : 2 * (c.sendBuffer.take c.sendBufferLen).length < SizeT.modulus)
    (hpos : c.sendBufferPos = 0) :
    ∃ w, connectionBeginSendMessage c messageWriter = .ok w := by
  have hflat : 2 * [c.sendBuffer.take c.sendBufferLen].flatten.length < SizeT.modulus := by
    simpa using hlen
  have hzero : addSz 0 0 = 0 := addSz_eq modulus_pos
  simp only [connectionBeginSendMessage, Connection.checkState, hstate]
  rw [if_neg (by decide), if_neg (by decide), dif_pos hflat, hpos]
  simp only [messageWriterInit, hzero]
  exact ⟨_, rfl⟩

/-! ## One send -/

theorem connectionImplCommunicateSend1_eq (c : Connection) :
    connectionImplCommunicateSend1 c =
      if flagsCheck c.sendFlags STATUS_FLAGS_ERROR then (.error .connectionError, c)
      else if flagsCheck c.sendFlags STATUS_FLAGS_MESSAGE_SENT_CONSUMED then
        (.ok 0, { c.clearState
          (STATUS_FLAGS_MESSAGE_SENT_CONSUMED ||| STATUS_FLAGS_MESSAGE_SENT) with
            sendBufferPos := 0, sendMessageLen := 0 })
      else if flagsCheck c.sendFlags STATUS_FLAGS_SEND_REQUESTED then
        (.ok c.sendMessageLen.toNat, c.clearState STATUS_FLAGS_SEND_REQUESTED)
      else if flagsCheck c.sendFlags STATUS_FLAGS_SENDING then
        (.ok (subSz c.sendMessageLen.toNat c.sendBufferPos), c)
      else (.ok 0, c) := by
  rw [connectionImplCommunicateSend1, Connection.checkState_eq_sendFlags (by decide),
    Connection.checkState_eq_sendFlags (by decide), Connection.checkState_eq_sendFlags (by decide),
    Connection.checkState_eq_sendFlags (by decide)]

theorem tcpConnectionBufferSend_plain {c : Connection} (h : c.Plain) (len : Nat) :
    tcpConnectionBufferSend c len = tcpConnectionSend c len := by
  rw [tcpConnectionBufferSend, show c.transportStorage.checkState _ = false from h,
    if_neg Bool.false_ne_true]

/-- A send of a message on its way asks for what is left of it. -/
theorem Underway.send1 {before : List (List UInt8)} (h : Underway s before)
    (plan : List IoOutcome) :
    ∃ state, connectionImplCommunicateSend1 (s.conn.planSend plan) =
        (.ok (s.conn.sendMessageLen.toNat - s.conn.sendBufferPos),
          { s.conn.planSend plan with connectionState := state }) ∧
      (state &&& SENDING_MASK = 0 ∨ state &&& SENDING_MASK = STATUS_FLAGS_SENDING) := by
  have hlt : s.conn.sendMessageLen.toNat < SizeT.modulus :=
    Nat.lt_of_lt_of_le s.conn.sendMessageLen.toNat_lt SizeT.le_modulus
  rw [connectionImplCommunicateSend1_eq,
    show (s.conn.planSend plan).sendFlags = s.conn.sendFlags from rfl]
  rcases h.flags with ⟨flags, pos⟩ | flags
  · rw [flags, pos]
    refine ⟨_, rfl, Or.inl ?_⟩
    rw [flagsClear_and, show (s.conn.planSend plan).connectionState &&& SENDING_MASK = _ from flags]
    decide
  · rw [flags, show subSz (s.conn.planSend plan).sendMessageLen.toNat
      (s.conn.planSend plan).sendBufferPos = _ from subSz_eq (Nat.le_of_lt h.short) hlt]
    exact ⟨_, rfl, Or.inr flags⟩

/-- The socket takes some of what it is asked to take. -/
theorem SendingInOrder.send_underway {before : List (List UInt8)} (h : SendingInOrder s)
    (hu : Underway s before) {plan : List IoOutcome} (hw : Willing plan) (now : Int64) :
    ∃ sock state pos, tcpConnectionCommunicateSend (s.conn.planSend plan) now =
      connectionImplCommunicateSend2
        { s.conn with sock := sock, connectionState := state, sendBufferPos := pos } now
        (.ok ()) ∧
      pos ≤ s.conn.sendMessageLen.toNat ∧
      sock.sent = before.flatten ++ s.conn.sendBuffer.take pos ∧
      (state &&& SENDING_MASK = 0 ∨ state &&& SENDING_MASK = STATUS_FLAGS_SENDING) := by
  have hshort := hu.short
  obtain ⟨state, hsend1, hstate⟩ := hu.send1 plan
  obtain ⟨sock, hspec, hafter⟩ := tcpConnectionSend_spec
    { s.conn.planSend plan with connectionState := state }
    (s.conn.sendMessageLen.toNat - s.conn.sendBufferPos)
  have hk := (ioMoved_le plan (s.conn.sendMessageLen.toNat - s.conn.sendBufferPos)
    (s.conn.sendMessageLen.toNat - s.conn.sendBufferPos)).1
  have hpos := hspec.pos_eq
  have hsent := hspec.sent_eq
  have hok := hspec.willing hw
  dsimp only at hpos hsent hok
  refine ⟨sock, state, s.conn.sendBufferPos +
    ioMoved plan (s.conn.sendMessageLen.toNat - s.conn.sendBufferPos)
      (s.conn.sendMessageLen.toNat - s.conn.sendBufferPos), ?_, ?_, ?_, hstate⟩
  · have hmore : s.conn.sendMessageLen.toNat - s.conn.sendBufferPos ≠ 0 := by omega
    unfold tcpConnectionCommunicateSend
    rw [hsend1]
    dsimp only
    have hplain : Connection.Plain { s.conn.planSend plan with connectionState := state } :=
      h.plain
    rw [if_neg hmore, tcpConnectionBufferSend_plain hplain,
      hafter, hok, hpos]
    rfl
  · omega
  · rw [hsent, show (s.conn.planSend plan).sock.sent = _ from hu.sent, List.take_add,
      List.append_assoc]
    rfl

/-- A send of a message on its way gives the socket some more of it. -/
theorem SendingInOrder.communicateSend_underway {before : List (List UInt8)}
    (h : SendingInOrder s) (hu : Underway s before) {plan : List IoOutcome}
    (hw : Willing plan) (now : Int64) :
    SendingInOrder (SendCall.step s (.communicateSend plan now)).2 ∧
      SentWithLastByte s (.communicateSend plan now) := by
  have hshort := hu.short
  obtain ⟨sock, state, pos, hcall, hpos, hmoved, hstate⟩ := h.send_underway hu hw now
  unfold SentWithLastByte SendCall.step
  dsimp only
  rw [hcall, connectionImplCommunicateSend2]
  dsimp only
  by_cases hmore : s.conn.sendMessageLen > 0 ∧ pos < s.conn.sendMessageLen.toNat
  · rw [if_pos hmore]
    have hnext : Underway
        { s with
          conn := Connection.setState
            { s.conn with sock := sock, connectionState := state, sendBufferPos := pos }
            STATUS_FLAGS_SENDING } before := by
      refine ⟨Or.inr ?_, hu.writing, hu.awaiting, hmore.2, hu.inside, hu.ended, hmoved⟩
      refine (Connection.sendFlags_setState (by decide)).trans ?_
      show flagsSet (state &&& SENDING_MASK) STATUS_FLAGS_SENDING = _
      rcases hstate with hstate | hstate
      · rw [hstate]; decide
      · rw [hstate]; decide
    refine ⟨⟨h.plain, h.bufferLen, SendPhase.underway before hnext⟩, iff_of_false ?_ ?_⟩
    · rintro ⟨-, hup⟩
      cases hup.symm.trans (hnext.flag_down (Or.inl rfl))
    · rintro ⟨-, hall⟩
      exact hnext.unsent hall
  · rw [if_neg hmore]
    have hpositive : s.conn.sendMessageLen > 0 := by
      rw [gt_iff_lt, UInt32.lt_iff_toNat_lt]
      exact Nat.lt_of_le_of_lt (Nat.zero_le _) hshort
    have hend : pos = s.conn.sendMessageLen.toNat :=
      Nat.le_antisymm hpos (Nat.le_of_not_lt fun hlt => hmore ⟨hpositive, hlt⟩)
    -- The socket took the last byte.
    have hall : sock.sent = s.ended.flatten := by
      rw [hmoved, hu.ended, hend]
      simp
    refine ⟨⟨h.plain, h.bufferLen, SendPhase.done ?_ hu.writing hall⟩, iff_of_true ?_ ?_⟩
    · refine (Connection.sendFlags_setState (by decide)).trans ?_
      rw [Connection.sendFlags_clearState]
      show flagsSet (flagsClear (state &&& SENDING_MASK) STATUS_FLAGS_SENDING)
        STATUS_FLAGS_MESSAGE_SENT = _
      rcases hstate with hstate | hstate
      · rw [hstate]; decide
      · rw [hstate]; decide
    · exact ⟨hu.flag_down (Or.inl rfl), Connection.checkState_setState_of_overlap (by decide)⟩
    · exact ⟨hu.unsent, hall⟩

/-- Where everything ended was sent, the flag does not come up again. -/
theorem SentWithLastByte.of_sent {call : SendCall} (hsent : s.conn.sock.sent = s.ended.flatten)
    (hflag : (call.step s).2.conn.checkState STATUS_FLAGS_MESSAGE_SENT = true →
      s.conn.checkState STATUS_FLAGS_MESSAGE_SENT = true) : SentWithLastByte s call := by
  refine iff_of_false ?_ ?_
  · rintro ⟨hdown, hup⟩
    cases hdown.symm.trans (hflag hup)
  · rintro ⟨hunsent, -⟩
    exact hunsent hsent

/-- A send of an empty message forgets that it was requested. -/
theorem communicateSend_empty (hflags : s.conn.sendFlags = STATUS_FLAGS_SEND_REQUESTED)
    (hlen : s.conn.sendMessageLen = 0) (plan : List IoOutcome) (now : Int64) :
    SendCall.step s (.communicateSend plan now) =
      (.ok (), { s with
        conn := (s.conn.planSend plan).clearState STATUS_FLAGS_SEND_REQUESTED }) := by
  rw [SendCall.step, tcpConnectionCommunicateSend, connectionImplCommunicateSend1_eq,
    show (s.conn.planSend plan).sendFlags = _ from hflags,
    show (s.conn.planSend plan).sendMessageLen = _ from hlen]
  rfl

/-- One `communicate_send`. -/
theorem SendingInOrder.communicateSend (h : SendingInOrder s) {plan : List IoOutcome}
    (hw : Willing plan) (now : Int64) :
    SendingInOrder (SendCall.step s (.communicateSend plan now)).2 ∧
      SentWithLastByte s (.communicateSend plan now) := by
  cases h.phase with
  | underway before hu => exact h.communicateSend_underway hu hw now
  | quiet flags pos awaiting sent =>
      have hcall : SendCall.step s (.communicateSend plan now) =
          (.ok (), { s with conn := s.conn.planSend plan }) := by
        rw [SendCall.step, tcpConnectionCommunicateSend, connectionImplCommunicateSend1_eq,
          show (s.conn.planSend plan).sendFlags = _ from flags]
        rfl
      refine ⟨?_, SentWithLastByte.of_sent sent ?_⟩
      · rw [hcall]
        exact ⟨h.plain, h.bufferLen, SendPhase.quiet flags pos awaiting sent⟩
      · rw [hcall]
        exact id
  | done flags writing sent =>
      have hcall : SendCall.step s (.communicateSend plan now) =
          (.ok (), { s with conn := s.conn.planSend plan }) := by
        rw [SendCall.step, tcpConnectionCommunicateSend, connectionImplCommunicateSend1_eq,
          show (s.conn.planSend plan).sendFlags = _ from flags]
        rfl
      refine ⟨?_, SentWithLastByte.of_sent sent ?_⟩
      · rw [hcall]
        exact ⟨h.plain, h.bufferLen, SendPhase.done flags writing sent⟩
      · rw [hcall]
        exact id
  | consumed flags writing awaiting sent =>
      -- The event was consumed: the connection is ready for the next message.
      have hcall : SendCall.step s (.communicateSend plan now) =
          (.ok (), { s with conn := { (s.conn.planSend plan).clearState
            (STATUS_FLAGS_MESSAGE_SENT_CONSUMED ||| STATUS_FLAGS_MESSAGE_SENT) with
              sendBufferPos := 0, sendMessageLen := 0 } }) := by
        rw [SendCall.step, tcpConnectionCommunicateSend, connectionImplCommunicateSend1_eq,
          show (s.conn.planSend plan).sendFlags = _ from flags]
        rfl
      refine ⟨?_, SentWithLastByte.of_sent sent ?_⟩
      · rw [hcall]
        refine ⟨h.plain, h.bufferLen, SendPhase.quiet ?_ rfl awaiting sent⟩
        refine (Connection.sendFlags_clearState _ _).trans ?_
        rw [show (s.conn.planSend plan).sendFlags = _ from flags]
        decide
      · intro _
        rw [Connection.checkState_eq_sendFlags (by decide), flags]
        decide

/-- A message that was ended is on its way. -/
theorem underway_of_end (flags : s.conn.sendFlags = 0) (pos : s.conn.sendBufferPos = 0)
    (sent : s.conn.sock.sent = s.ended.flatten) {messageLen : Nat} (hpositive : 1 ≤ messageLen)
    (hinside : messageLen ≤ s.conn.sendBuffer.length) (hfits : messageLen < 2 ^ 32) :
    Underway (SendCall.step s (.endSendMessage messageLen)).2 s.ended := by
  have hlen : (UInt32.ofNat messageLen).toNat = messageLen := UInt32.toNat_ofNat_of_lt' hfits
  refine ⟨Or.inl ⟨?_, pos⟩, rfl, rfl, ?_, ?_, ?_, ?_⟩
  · refine (Connection.sendFlags_setState (by decide)).trans ?_
    show flagsSet s.conn.sendFlags STATUS_FLAGS_SEND_REQUESTED = _
    rw [flags]
    decide
  · show s.conn.sendBufferPos < (UInt32.ofNat messageLen).toNat
    omega
  · show (UInt32.ofNat messageLen).toNat ≤ s.conn.sendBuffer.length
    omega
  · show s.ended ++ [s.conn.sendBuffer.take messageLen] =
      s.ended ++ [s.conn.sendBuffer.take (UInt32.ofNat messageLen).toNat]
    rw [hlen]
  · show s.conn.sock.sent = s.ended.flatten ++ s.conn.sendBuffer.take s.conn.sendBufferPos
    rw [pos, sent]
    simp

/-- One step of a run. -/
theorem SendingInOrder.step (h : SendingInOrder s) {call : SendCall}
    (hp : SendProtocol s call) (hfits : call.LengthFits) :
    SendingInOrder (call.step s).2 ∧ SentWithLastByte s call ∧ BeginsOnce s call := by
  cases call with
  | communicateSend plan now =>
      obtain ⟨hnext, hsent⟩ := h.communicateSend hp now
      exact ⟨hnext, hsent, trivial⟩
  | beginSendMessage messageWriter =>
      cases hbegin : connectionBeginSendMessage s.conn messageWriter with
      | error e =>
          have hcall : SendCall.step s (.beginSendMessage messageWriter) = (.error e, s) := by
            rw [SendCall.step, hbegin]
          rw [SentWithLastByte, hcall]
          refine ⟨h, iff_of_false ?_ ?_, ?_⟩
          · rintro ⟨hdown, hup⟩
            cases hdown.symm.trans hup
          · rintro ⟨hunsent, hall⟩
            exact hunsent hall
          · intro hok
            rw [hcall] at hok
            cases hok
      | ok w =>
          have hcall : SendCall.step s (.beginSendMessage messageWriter) =
              (.ok (), { s with writing := true }) := by
            rw [SendCall.step, hbegin]
          have hflags := sendFlags_of_begin hbegin
          obtain ⟨pos, awaiting, sent⟩ := h.phase.flags_quiet hflags
          refine ⟨?_, SentWithLastByte.of_sent sent ?_, fun _ => awaiting⟩
          · rw [hcall]
            exact ⟨h.plain, h.bufferLen, SendPhase.quiet hflags pos awaiting sent⟩
          · rw [hcall]
            exact id
  | fill bytes =>
      obtain ⟨hw, hlen⟩ := hp
      obtain ⟨flags, pos, awaiting, sent⟩ := h.phase.writing_quiet hw
      refine ⟨⟨h.plain, ?_, SendPhase.quiet flags pos awaiting sent⟩,
        SentWithLastByte.of_sent sent id, trivial⟩
      have hbuffer := h.bufferLen
      show s.conn.sendBufferLen ≤ bytes.length
      omega
  | endSendMessage messageLen =>
      obtain ⟨hw, hpositive, hinside⟩ := hp
      obtain ⟨flags, pos, awaiting, sent⟩ := h.phase.writing_quiet hw
      have hbuffer := h.bufferLen
      have hnext : Underway (SendCall.step s (.endSendMessage messageLen)).2 s.ended :=
        underway_of_end flags pos sent hpositive (Nat.le_trans hinside hbuffer) hfits
      refine ⟨⟨h.plain, hbuffer, SendPhase.underway _ hnext⟩,
        SentWithLastByte.of_sent sent ?_, trivial⟩
      intro hup
      cases hup.symm.trans (hnext.flag_down (Or.inl rfl))
  | consumeMessageSent =>
      obtain ⟨flags, writing, sent⟩ := h.phase.event_done hp
      refine ⟨⟨h.plain, h.bufferLen, SendPhase.consumed ?_ writing rfl sent⟩,
        SentWithLastByte.of_sent sent ?_, trivial⟩
      · refine (Connection.sendFlags_setState (by decide)).trans ?_
        rw [flags]
        decide
      · intro _
        rw [Connection.checkState_eq_sendFlags (by decide), flags]
        decide

/-- What the socket took is the messages in the order they were ended, all of them
while none is awaited and all but the end of the last one otherwise. The event comes up
with the last byte, and no message is begun before it was consumed. -/
theorem messages_sent_in_order {cs : List SendCall} (h : FreshSender s)
    (hp : EveryCall SendCall.step (fun s call => SendProtocol s call ∧ call.LengthFits) s cs) :
    (final SendCall.step s cs).ended.dropLast.flatten <+:
        (final SendCall.step s cs).conn.sock.sent ∧
      (final SendCall.step s cs).conn.sock.sent <+: (final SendCall.step s cs).ended.flatten ∧
      ((final SendCall.step s cs).awaiting = false → (final SendCall.step s cs).conn.sock.sent =
        (final SendCall.step s cs).ended.flatten) ∧
      EveryCall SendCall.step (fun s call => SentWithLastByte s call ∧ BeginsOnce s call) s cs := by
  obtain ⟨hfinal, hevery⟩ := EveryCall.invariant (I := SendingInOrder)
    (fun s call hs hcall => (hs.step hcall.1 hcall.2).1)
    (fun s call hs hcall => (hs.step hcall.1 hcall.2).2) h.sendingInOrder hp
  obtain ⟨hlast, hall⟩ := hfinal.phase.sent_prefix
  exact ⟨hlast, hall, hfinal.phase.sent_of_not_awaiting, hevery⟩

end

section

open Lp64

/-- A plain connection that was just accepted, with a send buffer. -/
def idleSender (buffer : List UInt8) : Sender where
  conn := { connectionConstruct buffer [] with
    transportType := TCP_TRANSPORT
    connectionState := STATUS_FLAGS_CONNECTED }
  writing := false
  awaiting := false
  ended := []

theorem idleSender_fresh (buffer : List UInt8) : FreshSender (idleSender buffer) where
  plain := show flagsCheck 0 TCP_TRANSPORT_STATE_IS_WEBSOCKET = false by decide
  noFlags := show STATUS_FLAGS_CONNECTED &&& SENDING_MASK = 0 by decide
  pos := rfl
  bufferLen := Nat.le_refl _
  notAwaiting := rfl
  nothingSent := rfl
  nothingEnded := rfl

def emptyWriter : MessageWriter := ⟨0, 0, 0, 0, 0⟩

/-- Three bytes go out in three sends, of which one would block, and then two more. -/
def threeBytesThenTwo : List SendCall :=
  [.beginSendMessage emptyWriter, .fill [1, 2, 3, 4], .endSendMessage 3,
    .communicateSend [.ready 0] 0, .communicateSend [.wouldBlock] 1,
    .communicateSend [.ready 5] 2, .consumeMessageSent, .communicateSend [] 3,
    .beginSendMessage emptyWriter, .endSendMessage 2]

theorem threeBytesThenTwo_sent :
    let s := final SendCall.step (idleSender [0, 0, 0, 0]) threeBytesThenTwo
    s.ended.dropLast.flatten <+: s.conn.sock.sent ∧ s.conn.sock.sent <+: s.ended.flatten ∧
      (s.awaiting = false → s.conn.sock.sent = s.ended.flatten) ∧
      EveryCall SendCall.step (fun s call => SentWithLastByte s call ∧ BeginsOnce s call)
        (idleSender [0, 0, 0, 0]) threeBytesThenTwo := by
  have hwilling {o : IoOutcome} (ho : o = .wouldBlock ∨ ∃ n, o = .ready n) : Willing [o] := by
    intro o' hm
    rwa [List.mem_singleton.mp hm]
  refine messages_sent_in_order (idleSender_fresh _) ?_
  have hevent : connectionIsMessageSentEvent
      (final SendCall.step (idleSender [0, 0, 0, 0]) (threeBytesThenTwo.take 6)).conn = true := by
    decide +kernel
  refine ⟨⟨trivial, trivial⟩, ⟨⟨?_, rfl⟩, trivial⟩, ⟨⟨?_, ?_, ?_⟩, Nat.lt_two_pow_self.trans ?_⟩,
    ⟨hwilling (Or.inr ⟨0, rfl⟩), trivial⟩, ⟨hwilling (Or.inl rfl), trivial⟩,
    ⟨hwilling (Or.inr ⟨5, rfl⟩), trivial⟩, ⟨hevent, trivial⟩,
    ⟨List.forall_mem_nil _, trivial⟩, ⟨trivial, trivial⟩,
    ⟨⟨?_, ?_, ?_⟩, Nat.lt_two_pow_self.trans ?_⟩, trivial⟩
  all_goals decide +kernel

/-- A message of four gigabytes is begun, ended and sent. -/
def fourGigabytes : List SendCall :=
  [.beginSendMessage emptyWriter, .endSendMessage (2 ^ 32), .communicateSend [] 0]

/-- Its length is cut to zero, and a send of nothing forgets the request. -/
theorem fourGigabytes_final {buffer : List UInt8} (h : buffer.length = 2 ^ 32) :
    EveryCall SendCall.step SendProtocol (idleSender buffer) fourGigabytes ∧
      final SendCall.step (idleSender buffer) fourGigabytes = { idleSender buffer with
        conn := ((connectionEndSendMessage (idleSender buffer).conn (2 ^ 32)).planSend
          []).clearState STATUS_FLAGS_SEND_REQUESTED
        awaiting := true
        ended := [buffer.take (2 ^ 32)] } := by
  have hroom : 2 * ((idleSender buffer).conn.sendBuffer.take
      (idleSender buffer).conn.sendBufferLen).length < SizeT.modulus := by
    show 2 * (buffer.take buffer.length).length < SizeT.modulus
    rw [List.take_length, h]
    decide
  obtain ⟨w, hbegin⟩ := connectionBeginSendMessage_ok (c := (idleSender buffer).conn) emptyWriter
    rfl hroom rfl
  have hfirst : SendCall.step (idleSender buffer) (.beginSendMessage emptyWriter) =
      (.ok (), { idleSender buffer with writing := true }) := by
    rw [SendCall.step, hbegin]
  refine ⟨⟨trivial, ?_, List.forall_mem_nil _, trivial⟩, ?_⟩
  · rw [hfirst]
    exact ⟨rfl, by decide, Nat.le_of_eq h.symm⟩
  · have hflags : flagsSet STATUS_FLAGS_CONNECTED STATUS_FLAGS_SEND_REQUESTED &&&
        SENDING_MASK = STATUS_FLAGS_SEND_REQUESTED := by decide
    have hcut : UInt32.ofNat (2 ^ 32) = 0 := by decide
    rw [fourGigabytes, final, hfirst, final, final, final]
    exact congrArg Prod.snd (communicateSend_empty (s := (SendCall.step
      { idleSender buffer with writing := true } (.endSendMessage (2 ^ 32))).2) hflags hcut [] 0)

/-- The next message may begin though this one was not sent. -/
theorem fourGigabytes_begun_again {buffer : List UInt8} (h : buffer.length = 2 ^ 32) :
    ¬ BeginsOnce (final SendCall.step (idleSender buffer) fourGigabytes)
      (.beginSendMessage emptyWriter) := by
  obtain ⟨-, hfinal⟩ := fourGigabytes_final h
  rw [hfinal]
  intro hbegins
  have hroom : 2 * (buffer.take buffer.length).length < SizeT.modulus := by
    rw [List.take_length, h]
    decide
  have hstate : flagsClear (flagsSet STATUS_FLAGS_CONNECTED STATUS_FLAGS_SEND_REQUESTED)
      STATUS_FLAGS_SEND_REQUESTED = STATUS_FLAGS_CONNECTED := by decide
  obtain ⟨w, hagain⟩ := connectionBeginSendMessage_ok
    (c := ((connectionEndSendMessage (idleSender buffer).conn (2 ^ 32)).planSend []).clearState
      STATUS_FLAGS_SEND_REQUESTED) emptyWriter hstate hroom rfl
  have hawaiting := hbegins (by rw [SendCall.step, hagain])
  cases hawaiting

/-- A message of four gigabytes, in a buffer that has room for it, is taken for an empty
one. -/
theorem fourGigabytes_lost :
    FreshSender (idleSender (List.replicate (2 ^ 32) 0)) ∧
      EveryCall SendCall.step SendProtocol (idleSender (List.replicate (2 ^ 32) 0))
        fourGigabytes ∧
      ¬ BeginsOnce (final SendCall.step (idleSender (List.replicate (2 ^ 32) 0)) fourGigabytes)
        (.beginSendMessage emptyWriter) :=
  ⟨idleSender_fresh _, (fourGigabytes_final List.length_replicate).1,
    fourGigabytes_begun_again List.length_replicate⟩

end

end RobotRaconteurLite

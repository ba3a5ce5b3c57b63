import RobotRaconteurLite.Proofs.NodeReceives
import RobotRaconteurLite.Proofs.Wakes

/-!
# A node sends its messages in order

The application and the node itself send on a connection, in handlers, between
events, and in answer to what came in. Whoever begins a message while another one
is on its way is turned away, and the buffer of that one is not touched. So what
the socket has taken is the messages that were asked for, in their order, but for
the end of the last one.

When the connection breaks, the message on its way is cut off and nothing follows
it. `SendsUpTo` has a case for that and one for a connection that was closed.
-/

namespace RobotRaconteurLite

open Splice CallSequence LittleEndian

/-! ## The flags of sending, one by one -/

/-- A flag is there or is not. -/
theorem and_flag_eq {x m : BitVec 32} (k : Nat) (hm : m = BitVec.twoPow 32 k) :
    x &&& m = if flagsCheck x m then m else 0#32 := by
  by_cases hzero : x &&& m = 0#32
  · rw [flagsCheck, hzero]
    rfl
  · rw [flagsCheck, if_pos (bne_iff_ne.mpr hzero)]
    rw [hm, BitVec.and_twoPow] at hzero ⊢
    split
    · rfl
    · next hbit => rw [if_neg hbit] at hzero; exact absurd rfl hzero

/-- The flags of sending of which each is there or is not. -/
def sendingFlags (error requested sending sent consumed : Bool) : BitVec 32 :=
  (if error then STATUS_FLAGS_ERROR else 0#32) |||
    (if requested then STATUS_FLAGS_SEND_REQUESTED else 0#32) |||
    (if sending then STATUS_FLAGS_SENDING else 0#32) |||
    (if sent then STATUS_FLAGS_MESSAGE_SENT else 0#32) |||
    (if consumed then STATUS_FLAGS_MESSAGE_SENT_CONSUMED else 0#32)

theorem Connection.sendFlags_eq (c : Connection) : c.sendFlags =
    sendingFlags (c.checkState STATUS_FLAGS_ERROR) (c.checkState STATUS_FLAGS_SEND_REQUESTED)
      (c.checkState STATUS_FLAGS_SENDING) (c.checkState STATUS_FLAGS_MESSAGE_SENT)
      (c.checkState STATUS_FLAGS_MESSAGE_SENT_CONSUMED) := by
  rw [Connection.sendFlags, SENDING_MASK, BitVec.and_or_distrib_left, BitVec.and_or_distrib_left,
    BitVec.and_or_distrib_left, BitVec.and_or_distrib_left,
    and_flag_eq (m := STATUS_FLAGS_ERROR) 5 (by decide),
    and_flag_eq (m := STATUS_FLAGS_SEND_REQUESTED) 8 (by decide),
    and_flag_eq (m := STATUS_FLAGS_SENDING) 9 (by decide),
    and_flag_eq (m := STATUS_FLAGS_MESSAGE_SENT) 13 (by decide),
    and_flag_eq (m := STATUS_FLAGS_MESSAGE_SENT_CONSUMED) 18 (by decide)]
  rfl

/-! ## What is sent -/

section

variable [SizeT]

/-- A header is no shorter than what a receive looks at first. -/
theorem countedHeaderBytes_long {messageVersion : UInt16} (hver : KnownVersion messageVersion)
    (header : MessageConstHeader) (messageFlagsMask : BitVec 8) (messageSize : Nat)
    (entryCount : UInt32) :
    12 ≤ (countedHeaderBytes messageVersion header messageFlagsMask messageSize
      entryCount).length := by
  rcases hver with rfl | rfl
  · rw [countedHeaderBytes, if_pos rfl, messageHeader2Bytes]
    simp only [List.flatten_cons, List.length_append, length_leBytes, List.length_cons]
    omega
  · have hsize (x : UInt32) : 1 ≤ (uintXBytes x).length := by
      unfold uintXBytes
      split_ifs
      all_goals simp
    rw [countedHeaderBytes, if_neg (by decide), if_pos rfl, messageHeader4Bytes]
    simp only [List.flatten_cons, List.length_append, length_leBytes, List.length_cons]
    have := hsize (UInt32.ofNat (messageHeader4TotalSize header
      (messageHeader4Flags header messageFlagsMask)))
    omega

omit [SizeT] in
/-- What starts with the magic, its own length and a version is a message on the wire. -/
theorem WireMessage.exists_of_front {bytes rest : List UInt8} {messageVersion : UInt16}
    (hbytes : bytes = rracMagic ++ (leBytes 4 bytes.length ++ (leBytes 2 messageVersion.toNat ++ rest)))
    (hlong : 12 ≤ bytes.length) (hlen : bytes.length < 2 ^ 32) (hver : KnownVersion messageVersion) :
    ∃ m : WireMessage, m.bytes = bytes := by
  have hmagic : slice bytes 0 4 = rracMagic := by
    rw [hbytes, slice_append_left (by decide)]
    exact slice_length rracMagic
  have hsize : slice bytes 4 4 = leBytes 4 bytes.length := by
    have hafter := @slice_append_right _ rracMagic
      (leBytes 4 bytes.length ++ (leBytes 2 messageVersion.toNat ++ rest)) 0 4
    rw [← hbytes, slice_append_left (by rw [length_leBytes])] at hafter
    exact hafter.trans ((congrArg _ (length_leBytes 4 _).symm).trans (slice_length _))
  have hversion : slice bytes 8 2 = leBytes 2 messageVersion.toNat := by
    have hafter := @slice_append_right _ (rracMagic ++ leBytes 4 bytes.length)
      (leBytes 2 messageVersion.toNat ++ rest) 0 2
    rw [List.append_assoc, ← hbytes, slice_append_left (by rw [length_leBytes]),
      List.length_append, length_leBytes] at hafter
    exact hafter.trans ((congrArg _ (length_leBytes 2 _).symm).trans (slice_length _))
  refine ⟨⟨bytes, hlong, hmagic, ?_, ?_⟩, rfl⟩
  · rw [utilReadUint32, hsize, leNat_leBytes hlen, UInt32.toNat_ofNat_of_lt' hlen]
  · rw [utilReadUint16, hversion, leNat_leBytes messageVersion.toNat_lt, UInt16.ofNat_toNat]
    exact hver

/-- A message that lies in the send buffer is framed, and longer than a preamble. -/
theorem Connection.HoldsEntry.framed {c : Connection} (h : c.HoldsEntry) :
    (∃ m : WireMessage, m.bytes = c.sent) ∧ 0 < c.sendMessageLen.toNat ∧
      c.sendMessageLen.toNat ≤ c.sendBuffer.length := by
  obtain ⟨messageVersion, messageFlagsMask, header, entry, hsent⟩ := h
  have hlen := hsent.len_eq
  obtain ⟨rest, hfront⟩ := countedHeaderBytes_version hsent.known header messageFlagsMask
    c.sendMessageLen.toNat 1
  have hlong := countedHeaderBytes_long hsent.known header messageFlagsMask 0 1
  rw [countedHeaderBytes_length hsent.known] at hlong
  have hinside : c.sendMessageLen.toNat ≤ c.sendBuffer.length := by
    obtain ⟨v, -, ⟨rest, hbuffer⟩, hat⟩ := hsent.there
    have hend := hat.2
    rw [oneEntryBytes, List.length_append, countedHeaderBytes_length hsent.known] at hend
    have hmod := Nat.mod_le (entryBytes messageVersion entry).length (2 ^ 32)
    rw [hbuffer, List.length_append]
    omega
  have hbytes : c.sent = rracMagic ++ (leBytes 4 c.sendMessageLen.toNat ++
      (leBytes 2 messageVersion.toNat ++ (rest ++ entryBytes messageVersion entry).take
        (c.sendMessageLen.toNat - 10))) := by
    rw [hsent.sent_prefix, oneEntryBytes, ← hlen, hfront]
    have hten : ((rracMagic ++ leBytes 4 c.sendMessageLen.toNat) ++
        leBytes 2 messageVersion.toNat).length = 10 := by
      simp only [List.length_append, length_leBytes]
      rfl
    have hsplit := @List.take_length_add_append _
      ((rracMagic ++ leBytes 4 c.sendMessageLen.toNat) ++ leBytes 2 messageVersion.toNat)
      (rest ++ entryBytes messageVersion entry) (c.sendMessageLen.toNat - 10)
    rw [hten, Nat.add_sub_cancel' (by omega)] at hsplit
    simp only [List.append_assoc] at hsplit ⊢
    exact hsplit
  have hsize : c.sent.length = c.sendMessageLen.toNat := List.length_take_of_le hinside
  refine ⟨?_, by omega, hinside⟩
  rw [← hsize] at hbytes
  refine WireMessage.exists_of_front hbytes (by omega) ?_ hsent.known
  rw [hsize]
  exact c.sendMessageLen.toNat_lt

end

/-! ## What was posted -/

/-- A part of a set of flags that is down is down. -/
theorem checkState_of_subset_of_false {c : Connection} {m n : BitVec 32} (hmn : n &&& m = m)
    (hn : c.checkState n = false) : c.checkState m = false := by
  by_contra hup
  rw [Bool.not_eq_false] at hup
  cases hn.symm.trans (flagsCheck_of_subset hmn hup)

/-- The message whose sending was requested between two states of a connection. -/
def Connection.newlyPosted (c c' : Connection) : List (List UInt8) :=
  if c'.checkState STATUS_FLAGS_SEND_REQUESTED && !c.checkState STATUS_FLAGS_SEND_REQUESTED then
    [c'.sent]
  else []

section

variable {c c' : Connection} {posted : List (List UInt8)}

theorem Connection.newlyPosted_of_same (h : c'.checkState STATUS_FLAGS_SEND_REQUESTED =
    c.checkState STATUS_FLAGS_SEND_REQUESTED) : c.newlyPosted c' = [] := by
  rw [newlyPosted, h, Bool.and_not_self]
  exact if_neg Bool.false_ne_true

theorem Connection.newlyPosted_of_not_requested
    (h : c'.checkState STATUS_FLAGS_SEND_REQUESTED = false) : c.newlyPosted c' = [] := by
  rw [newlyPosted, h, Bool.false_and]
  exact if_neg Bool.false_ne_true

/-- What the socket has taken is the messages `posted`, but for the end of the last one. -/
def SentUpTo (posted : List (List UInt8)) (c : Connection) : Prop :=
  posted.dropLast.flatten <+: c.sock.sent ∧ c.sock.sent <+: posted.flatten

/-- The second connection has sent what the first has, and has the same to send. -/
structure Connection.SameSend (c c' : Connection) : Prop where
  storage : c'.transportStorage = c.transportStorage
  sent : c'.sock.sent = c.sock.sent
  pos : c'.sendBufferPos = c.sendBufferPos
  buffer : c'.sendBuffer = c.sendBuffer
  messageLen : c'.sendMessageLen = c.sendMessageLen

theorem SentUpTo.congr (h : SentUpTo posted c) (hsent : c'.sock.sent = c.sock.sent) :
    SentUpTo posted c' := by
  rw [SentUpTo, hsent]
  exact h

/-- How far the last message has come is told by what is sent. -/
theorem SendPhase.congr {awaiting : Bool} (h : SendPhase ⟨c, false, awaiting, posted⟩)
    (hsame : c.SameSend c') (hflags : c'.sendFlags = c.sendFlags) :
    SendPhase ⟨c', false, awaiting, posted⟩ := by
  cases h with
  | quiet flags pos awaiting sent =>
      exact .quiet (hflags.trans flags) (hsame.pos.trans pos) awaiting (hsame.sent.trans sent)
  | underway before h =>
      refine .underway before ⟨?_, rfl, h.awaiting, ?_, ?_, ?_, ?_⟩
      · dsimp only
        rw [hflags, hsame.pos]
        exact h.flags
      · dsimp only
        rw [hsame.pos, hsame.messageLen]
        exact h.short
      · dsimp only
        rw [hsame.messageLen, hsame.buffer]
        exact h.inside
      · dsimp only
        rw [hsame.messageLen, hsame.buffer]
        exact h.ended
      · dsimp only
        rw [hsame.sent, hsame.pos, hsame.buffer]
        exact h.sent
  | done flags writing sent => exact .done (hflags.trans flags) rfl (hsame.sent.trans sent)
  | consumed flags writing awaiting sent =>
      exact .consumed (hflags.trans flags) rfl awaiting (hsame.sent.trans sent)

/-- What the flag says is sent was sent. -/
theorem SendPhase.all_sent {awaiting : Bool} (h : SendPhase ⟨c, false, awaiting, posted⟩)
    (hsent : c.checkState STATUS_FLAGS_MESSAGE_SENT = true) : c.sock.sent = posted.flatten := by
  cases h with
  | quiet flags pos awaiting sent => exact sent
  | underway before h => cases hsent.symm.trans (h.flag_down (Or.inl rfl))
  | done flags writing sent => exact sent
  | consumed flags writing awaiting sent => exact sent

/-- The flags that a connection past its end has none of. -/
def STATUS_FLAGS_SEND : BitVec 32 :=
  STATUS_FLAGS_SEND_REQUESTED ||| STATUS_FLAGS_SENDING ||| STATUS_FLAGS_MESSAGE_SENT |||
    STATUS_FLAGS_MESSAGE_SENT_CONSUMED

/-- A connection that sends the messages `posted`, broke while it did, or is over. -/
inductive SendsUpTo (posted : List (List UInt8)) (c : Connection) : Prop
  | live (awaiting : Bool) (established : c.Established)
      (phase : SendPhase ⟨c, false, awaiting, posted⟩)
  | broken (established : c.Established) (error : c.checkState STATUS_FLAGS_ERROR = true)
      (all : c.checkState STATUS_FLAGS_MESSAGE_SENT = true → c.sock.sent = posted.flatten)
      (sent : SentUpTo posted c)
  | gone (closed : c.checkState (STATUS_FLAGS_CLOSED ||| STATUS_FLAGS_IDLE) = true)
      (nothing : c.checkState STATUS_FLAGS_SEND = false) (sent : SentUpTo posted c)

theorem SendsUpTo.sentUpTo (h : SendsUpTo posted c) : SentUpTo posted c := by
  cases h with
  | live awaiting established phase => exact phase.sent_prefix
  | broken established error all sent => exact sent
  | gone closed nothing sent => exact sent

/-- The flag says that all was sent. -/
theorem SendsUpTo.all_sent (h : SendsUpTo posted c)
    (hsent : c.checkState STATUS_FLAGS_MESSAGE_SENT = true) : c.sock.sent = posted.flatten := by
  cases h with
  | live awaiting established phase => exact phase.all_sent hsent
  | broken established error all sent => exact all hsent
  | gone closed nothing sent =>
      cases hsent.symm.trans (checkState_of_subset_of_false (by decide) nothing)

/-- The flags of sending are what they were, or the connection broke. -/
theorem Connection.sendFlags_of_same (c' : Connection)
    (herror : c.checkState STATUS_FLAGS_ERROR = false)
    (hsame : ∀ m, m &&& STATUS_FLAGS_SEND = m → c'.checkState m = c.checkState m) :
    c'.sendFlags = c.sendFlags ∨ c'.checkState STATUS_FLAGS_ERROR = true := by
  cases herror' : c'.checkState STATUS_FLAGS_ERROR with
  | true => exact Or.inr rfl
  | false =>
      left
      rw [c'.sendFlags_eq, c.sendFlags_eq, herror, herror', hsame _ (by decide),
        hsame _ (by decide), hsame _ (by decide), hsame _ (by decide)]

/-- A connection in a phase has not failed. -/
theorem SendPhase.noError {awaiting : Bool} (h : SendPhase ⟨c, false, awaiting, posted⟩) :
    c.checkState STATUS_FLAGS_ERROR = false := by
  rw [Connection.checkState_eq_sendFlags (by decide)]
  cases h with
  | quiet flags => dsimp only at flags; rw [flags]; decide
  | underway before h =>
      rcases h.flags with ⟨flags, -⟩ | flags
      · dsimp only at flags; rw [flags]; decide
      · dsimp only at flags; rw [flags]; decide
  | done flags => dsimp only at flags; rw [flags]; decide
  | consumed flags => dsimp only at flags; rw [flags]; decide

end

/-! ## What the node does -/

section

variable [SizeT] {c c' : Connection} {posted : List (List UInt8)} {eventType : EventType}

/-- The node sends nothing itself. -/
theorem Connection.Worked.sent_eq (h : c.Worked eventType c') :
    c'.sock.sent = c.sock.sent ∧ c'.sendBufferPos = c.sendBufferPos := by
  rw [h.rest]
  exact ⟨rfl, rfl⟩

omit [SizeT] in
/-- The event of a message that was sent is there when it is consumed. -/
theorem sentEvent_of_reported
    (h : eventType.isTimed = true ∨ connectionPendingEvent c = some eventType)
    (htype : eventType = .messageSendComplete) : connectionIsMessageSentEvent c = true := by
  subst htype
  have hpending := h.resolve_left Bool.false_ne_true
  unfold connectionPendingEvent at hpending
  by_contra hnot
  rw [Bool.not_eq_true] at hnot
  rw [hnot, if_neg Bool.false_ne_true] at hpending
  split_ifs at hpending
  all_goals cases hpending

/-- Work on a connection with a message on its way leaves the message alone. -/
theorem Connection.Worked.busy (h : c.Worked eventType c')
    (hbusy : c.checkState STATUS_FLAGS_NOT_FREE = true) :
    c.SameSend c' ∧ c.newlyPosted c' = [] := by
  obtain ⟨hbuffer, hlen, hrequested⟩ := h.posts.busy hbusy
  exact ⟨⟨by rw [h.rest], h.sent_eq.1, h.sent_eq.2, hbuffer, hlen⟩,
    Connection.newlyPosted_of_same hrequested⟩

theorem Connection.Worked.sentFlag_eq (h : c.Worked eventType c') :
    c'.checkState STATUS_FLAGS_MESSAGE_SENT = c.checkState STATUS_FLAGS_MESSAGE_SENT :=
  h.same (by decide) (by decide) (by cases eventType <;> decide)

/-- Of the flags of sending the node sets the error, the request and the one of its own event. -/
theorem Connection.Worked.sendFlags_eq (h : c.Worked eventType c') :
    c'.sendFlags = sendingFlags (c'.checkState STATUS_FLAGS_ERROR)
      (c'.checkState STATUS_FLAGS_SEND_REQUESTED) (c.checkState STATUS_FLAGS_SENDING)
      (c.checkState STATUS_FLAGS_MESSAGE_SENT)
      (c'.checkState STATUS_FLAGS_MESSAGE_SENT_CONSUMED) := by
  have hsending : c'.checkState STATUS_FLAGS_SENDING = c.checkState STATUS_FLAGS_SENDING :=
    h.same (by decide) (by decide) (by cases eventType <;> decide)
  rw [c'.sendFlags_eq, hsending, h.sentFlag_eq]

theorem Connection.Worked.sentConsumed_eq (h : c.Worked eventType c')
    (htype : eventType ≠ .messageSendComplete) :
    c'.checkState STATUS_FLAGS_MESSAGE_SENT_CONSUMED =
      c.checkState STATUS_FLAGS_MESSAGE_SENT_CONSUMED :=
  h.same (by decide) (by decide) (by cases eventType <;> first | exact absurd rfl htype | decide)

/-- A message on its way stays where it is, unless the connection breaks or the event that says it
was sent is consumed. -/
theorem Connection.Worked.sendFlags_busy (h : c.Worked eventType c')
    (hbusy : c.checkState STATUS_FLAGS_NOT_FREE = true)
    (herror : c.checkState STATUS_FLAGS_ERROR = false)
    (hevent : eventType = .messageSendComplete → c.sendFlags = STATUS_FLAGS_MESSAGE_SENT) :
    c'.sendFlags = c.sendFlags ∨ c'.checkState STATUS_FLAGS_ERROR = true ∨
      c.sendFlags = STATUS_FLAGS_MESSAGE_SENT ∧
        c'.sendFlags = STATUS_FLAGS_MESSAGE_SENT ||| STATUS_FLAGS_MESSAGE_SENT_CONSUMED := by
  rw [h.sendFlags_eq, (h.posts.busy hbusy).2.2]
  cases herror' : c'.checkState STATUS_FLAGS_ERROR with
  | true => exact Or.inr (Or.inl rfl)
  | false =>
      by_cases htype : eventType = .messageSendComplete
      · have hflags := hevent htype
        have hdown (m : BitVec 32) (hm : SENDING_MASK &&& m = m) :
            c.checkState m = flagsCheck STATUS_FLAGS_MESSAGE_SENT m := by
          rw [Connection.checkState_eq_sendFlags hm, hflags]
        rw [hflags, hdown _ (by decide), hdown _ (by decide), hdown _ (by decide)]
        cases c'.checkState STATUS_FLAGS_MESSAGE_SENT_CONSUMED with
        | false => exact Or.inl (by decide)
        | true => exact Or.inr (Or.inr ⟨rfl, by decide⟩)
      · left
        rw [h.sentConsumed_eq htype, c.sendFlags_eq, herror]

omit [SizeT] in
/-- Of a connection that sent everything, a message more is not sent. -/
theorem sentUpTo_append (hsent : c.sock.sent = posted.flatten) (bytes : List UInt8) :
    SentUpTo (posted ++ [bytes]) c := by
  rw [SentUpTo, hsent, List.dropLast_concat, List.flatten_append]
  exact ⟨List.prefix_refl _, List.prefix_append _ _⟩

/-- Work on a free connection requests a message or none. -/
theorem SendPhase.worked_free {awaiting : Bool} (h : SendPhase ⟨c, false, awaiting, posted⟩)
    (established : c'.Established) (hworked : c.Worked eventType c')
    (hfree : c.checkState STATUS_FLAGS_NOT_FREE = false)
    (htype : eventType ≠ .messageSendComplete) : SendsUpTo (posted ++ c.newlyPosted c') c' := by
  have hdown (m : BitVec 32) (hm : STATUS_FLAGS_NOT_FREE &&& m = m) : c.checkState m = false :=
    checkState_of_subset_of_false hm hfree
  have hflags : c.sendFlags = 0 := by
    have hmask := hdown SENDING_MASK (by decide)
    simp only [Connection.checkState, flagsCheck, bne_eq_false_iff_eq] at hmask
    exact hmask
  obtain ⟨pos, -, sent⟩ := h.flags_quiet hflags
  dsimp only at pos sent
  obtain ⟨hsent, hpos⟩ := hworked.sent_eq
  have hunsent {sent : Prop} (hflag : c'.checkState STATUS_FLAGS_MESSAGE_SENT = true) : sent := by
    cases (hworked.sentFlag_eq.symm.trans hflag).symm.trans (hdown _ (by decide))
  have hflags' := hworked.sendFlags_eq
  rw [hworked.sentConsumed_eq htype, hdown STATUS_FLAGS_SENDING (by decide),
    hdown STATUS_FLAGS_MESSAGE_SENT (by decide),
    hdown STATUS_FLAGS_MESSAGE_SENT_CONSUMED (by decide)] at hflags'
  rw [Connection.newlyPosted, hdown STATUS_FLAGS_SEND_REQUESTED (by decide)]
  cases hrequested : c'.checkState STATUS_FLAGS_SEND_REQUESTED with
  | false =>
      rw [if_neg (by decide), List.append_nil]
      rw [hrequested] at hflags'
      cases herror : c'.checkState STATUS_FLAGS_ERROR with
      | true => exact .broken established herror hunsent (SentUpTo.congr h.sent_prefix hsent)
      | false =>
          rw [herror] at hflags'
          exact .live false established
            (.quiet (hflags'.trans (by decide)) (hpos.trans pos) rfl (hsent.trans sent))
  | true =>
      rw [if_pos (by decide)]
      rw [hrequested] at hflags'
      cases herror : c'.checkState STATUS_FLAGS_ERROR with
      | true =>
          exact .broken established herror hunsent (sentUpTo_append (hsent.trans sent) c'.sent)
      | false =>
          rw [herror] at hflags'
          obtain ⟨-, hpositive, hinside⟩ := (hworked.posts.posted hfree hrequested).framed
          refine .live true established (.underway posted ⟨Or.inl ⟨hflags'.trans (by decide),
            hpos.trans pos⟩, rfl, rfl, ?_, hinside, rfl, ?_⟩)
          · dsimp only
            rw [hpos, pos]
            exact hpositive
          · dsimp only
            rw [hpos, pos, hsent, sent, List.take_zero, List.append_nil]

/-- Work on a connection with a message on its way. -/
theorem SendPhase.worked_busy {awaiting : Bool} (h : SendPhase ⟨c, false, awaiting, posted⟩)
    (established : c'.Established) (hworked : c.Worked eventType c')
    (hbusy : c.checkState STATUS_FLAGS_NOT_FREE = true)
    (hreported : eventType.isTimed = true ∨ connectionPendingEvent c = some eventType) :
    SendsUpTo posted c' := by
  obtain ⟨hsame, -⟩ := hworked.busy hbusy
  have hevent : eventType = .messageSendComplete → c.sendFlags = STATUS_FLAGS_MESSAGE_SENT :=
    fun htype => (h.event_done (sentEvent_of_reported hreported htype)).1
  obtain hflags | hbroken | ⟨hdone, hconsumed⟩ := hworked.sendFlags_busy hbusy h.noError hevent
  · exact .live awaiting established (h.congr hsame hflags)
  · exact .broken established hbroken
      (fun hflag => hsame.sent.trans (h.all_sent (hworked.sentFlag_eq.symm.trans hflag)))
      (SentUpTo.congr h.sent_prefix hsame.sent)
  · refine .live false established (.consumed hconsumed rfl rfl ?_)
    refine hsame.sent.trans (h.event_done ?_).2.2
    rw [connectionIsMessageSentEvent, Connection.checkState_eq_sendFlags (by decide),
      Connection.checkState_eq_sendFlags (by decide)]
    dsimp only
    rw [hdone]
    decide

omit [SizeT] in
/-- Where no message was sent, it is not reported that one was. -/
theorem not_messageSendComplete_of_not_sent
    (hreported : eventType.isTimed = true ∨ connectionPendingEvent c = some eventType)
    (hdown : c.checkState STATUS_FLAGS_MESSAGE_SENT = false) :
    eventType ≠ .messageSendComplete := by
  intro htype
  have hevent := sentEvent_of_reported hreported htype
  rw [connectionIsMessageSentEvent, hdown] at hevent
  cases hevent

/-- Work on a connection that is over raises no flag of sending. -/
theorem Connection.Worked.nothing (h : c.Worked eventType c')
    (hreported : eventType.isTimed = true ∨ connectionPendingEvent c = some eventType)
    (hbusy : c.checkState STATUS_FLAGS_NOT_FREE = true)
    (nothing : c.checkState STATUS_FLAGS_SEND = false) :
    c'.checkState STATUS_FLAGS_SEND = false := by
  have hdown (m : BitVec 32) (hm : STATUS_FLAGS_SEND &&& m = m) : c.checkState m = false :=
    checkState_of_subset_of_false hm nothing
  have htype := not_messageSendComplete_of_not_sent hreported (hdown _ (by decide))
  rw [STATUS_FLAGS_SEND, checkState_or, checkState_or, checkState_or, Bool.or_eq_false_iff,
    Bool.or_eq_false_iff, Bool.or_eq_false_iff]
  refine ⟨⟨⟨?_, ?_⟩, ?_⟩, ?_⟩
  · exact (h.posts.busy hbusy).2.2.trans (hdown _ (by decide))
  · exact h.raised _ (by decide) (by cases eventType <;> decide) (hdown _ (by decide))
  · exact h.raised _ (by decide) (by cases eventType <;> decide) (hdown _ (by decide))
  · exact (h.sentConsumed_eq htype).trans (hdown _ (by decide))

/-- Work of the node on a connection that sends. -/
theorem SendsUpTo.worked (h : SendsUpTo posted c) (hworked : c.Worked eventType c')
    (hreported : eventType.isTimed = true ∨ connectionPendingEvent c = some eventType) :
    SendsUpTo (posted ++ c.newlyPosted c') c' := by
  cases h with
  | broken established error all sent =>
      obtain ⟨hsame, hnew⟩ := hworked.busy (flagsCheck_of_subset (by decide) error)
      rw [hnew, List.append_nil]
      exact .broken (established.worked hworked) (hworked.keeps (by decide) error)
        (fun hflag => hsame.sent.trans (all (hworked.sentFlag_eq.symm.trans hflag)))
        (sent.congr hsame.sent)
  | gone closed nothing sent =>
      have hbusy : c.checkState STATUS_FLAGS_NOT_FREE = true := flagsCheck_of_subset (by decide) closed
      obtain ⟨hsame, hnew⟩ := hworked.busy hbusy
      rw [hnew, List.append_nil]
      exact .gone (hworked.keeps (by decide) closed) (hworked.nothing hreported hbusy nothing)
        (sent.congr hsame.sent)
  | live awaiting established phase =>
      have hestablished := established.worked hworked
      cases hfree : c.checkState STATUS_FLAGS_NOT_FREE with
      | true =>
          rw [(hworked.busy hfree).2, List.append_nil]
          exact phase.worked_busy hestablished hworked hfree hreported
      | false =>
          have hdown : c.checkState STATUS_FLAGS_MESSAGE_SENT = false :=
            checkState_of_subset_of_false (by decide) hfree
          exact phase.worked_free hestablished hworked hfree
            (not_messageSendComplete_of_not_sent hreported hdown)

end

/-! ## What the transport does -/

section

variable [SizeT] {c c' : Connection} {posted : List (List UInt8)}

omit [SizeT] in
theorem Connection.SameSend.trans {c'' : Connection} (h : c.SameSend c') (h' : c'.SameSend c'') :
    c.SameSend c'' :=
  ⟨h'.storage.trans h.storage, h'.sent.trans h.sent, h'.pos.trans h.pos, h'.buffer.trans h.buffer,
    h'.messageLen.trans h.messageLen⟩

omit [SizeT] in
theorem recv2_sameSend (c : Connection) (now : Int64) (rv : Result Unit) :
    c.SameSend (connectionImplCommunicateRecv2 c now rv).2 := by
  have hverify : c.SameSend (connectionVerifyPreamble c).2 := by
    unfold connectionVerifyPreamble
    dsimp only
    split_ifs
    all_goals exact ⟨rfl, rfl, rfl, rfl, rfl⟩
  unfold connectionImplCommunicateRecv2
  split
  · exact ⟨rfl, rfl, rfl, rfl, rfl⟩
  · split
    · next h =>
        rw [h] at hverify
        exact hverify.trans ⟨rfl, rfl, rfl, rfl, rfl⟩
    · next h =>
        rw [h] at hverify
        dsimp only
        split
        · exact hverify.trans ⟨rfl, rfl, rfl, rfl, rfl⟩
        · exact hverify

/-- A receive on a plain connection sends nothing. -/
theorem communicateRecv_sameSend (hplain : c.Plain) (now : Int64) :
    c.SameSend (tcpConnectionCommunicateRecv c now).2 := by
  have hcompact : c.SameSend (connectionCompact c) := by
    unfold connectionCompact
    split
    · exact ⟨rfl, rfl, rfl, rfl, rfl⟩
    · exact ⟨rfl, rfl, rfl, rfl, rfl⟩
  cases herror : c.checkState STATUS_FLAGS_ERROR with
  | true =>
      rw [tcpConnectionCommunicateRecv_error now herror]
      exact ⟨rfl, rfl, rfl, rfl, rfl⟩
  | false =>
      rw [tcpConnectionCommunicateRecv_plain now hplain herror]
      split
      · exact hcompact
      · obtain ⟨sock, hspec, heq⟩ := tcpConnectionRecv_spec (connectionCompact c)
          (connectionRecvOpLen (connectionCompact c))
        have hrecv : (connectionCompact c).SameSend (tcpConnectionRecv (connectionCompact c)
            (connectionRecvOpLen (connectionCompact c))).2 := by
          rw [heq]
          exact ⟨rfl, hspec.sent_eq, rfl, rfl, rfl⟩
        exact (hcompact.trans hrecv).trans (recv2_sameSend _ now _)

/-- A receive may break the connection, and does nothing else to what is sent. -/
theorem SendsUpTo.communicateRecv (h : SendsUpTo posted c) (hplain : c.Plain) (now : Int64) :
    SendsUpTo posted (tcpConnectionCommunicateRecv c now).2 := by
  have hsame := communicateRecv_sameSend hplain now
  have hflags {m : BitVec 32} (hm : m &&& STATUS_FLAGS_RECEIVE = 0#32) :
      (tcpConnectionCommunicateRecv c now).2.checkState m = c.checkState m :=
    checkState_communicateRecv hplain now hm
  cases h with
  | broken established error all sent =>
      rw [tcpConnectionCommunicateRecv_error now error]
      exact .broken established error all sent
  | gone closed nothing sent =>
      exact .gone ((hflags (by decide)).trans closed) ((hflags (by decide)).trans nothing)
        (sent.congr hsame.sent)
  | live awaiting established phase =>
      have hestablished := established.communicateRecv hplain now
      obtain hphase | hbroken := Connection.sendFlags_of_same
        (tcpConnectionCommunicateRecv c now).2 phase.noError fun m hm =>
          hflags (and_eq_zero_of_subset hm (by decide))
      · exact .live awaiting hestablished (phase.congr hsame hphase)
      · exact .broken hestablished hbroken
          (fun hflag => hsame.sent.trans (phase.all_sent ((hflags (by decide)).symm.trans hflag)))
          (SentUpTo.congr phase.sent_prefix hsame.sent)

omit [SizeT] in
/-- A socket that took a part of the last message. -/
theorem sentUpTo_of_part {before : List (List UInt8)} {pos : Nat}
    (hposted : posted = before ++ [c.sent]) (hpos : pos ≤ c.sendMessageLen.toNat)
    (hsent : c'.sock.sent = before.flatten ++ c.sendBuffer.take pos) : SentUpTo posted c' := by
  have htake := List.take_prefix pos c.sent
  rw [Connection.sent, List.take_take, Nat.min_eq_left hpos] at htake
  rw [SentUpTo, hposted, hsent, List.dropLast_concat, List.flatten_append, List.flatten_singleton]
  exact ⟨List.prefix_append _ _, (List.prefix_append_right_inj _).mpr htake⟩

omit [SizeT] in
/-- What becomes of a message of which the socket took `pos` bytes. -/
theorem Underway.send2 {before : List (List UInt8)} {awaiting : Bool} {sock : Socket}
    {state : BitVec 32} {pos : Nat} {rv : Result Unit}
    (h : Underway ⟨c, false, awaiting, posted⟩ before) (now : Int64)
    (hstate : state &&& SENDING_MASK = 0 ∨ state &&& SENDING_MASK = STATUS_FLAGS_SENDING)
    (hpos : pos ≤ c.sendMessageLen.toNat)
    (hmoved : sock.sent = before.flatten ++ c.sendBuffer.take pos)
    (hstatus : rv = .ok () ∨ rv = .error .connectionError)
    (hafter : (connectionImplCommunicateSend2
      { c with sock := sock, connectionState := state, sendBufferPos := pos } now rv).2.Established) :
    SendsUpTo posted (connectionImplCommunicateSend2
      { c with sock := sock, connectionState := state, sendBufferPos := pos } now rv).2 := by
  obtain hok | hfailed := hstatus
  · rw [hok] at hafter ⊢
    rw [connectionImplCommunicateSend2] at hafter ⊢
    dsimp only at hafter ⊢
    by_cases hmore : c.sendMessageLen > 0 ∧ pos < c.sendMessageLen.toNat
    · rw [if_pos hmore] at hafter ⊢
      refine .live awaiting hafter (.underway before
        ⟨Or.inr ?_, rfl, h.awaiting, hmore.2, h.inside, h.ended, hmoved⟩)
      refine (Connection.sendFlags_setState (by decide)).trans ?_
      change flagsSet (state &&& SENDING_MASK) STATUS_FLAGS_SENDING = _
      rcases hstate with hstate | hstate
      · rw [hstate]; decide
      · rw [hstate]; decide
    · rw [if_neg hmore] at hafter ⊢
      have hpositive : c.sendMessageLen > 0 := by
        rw [gt_iff_lt, UInt32.lt_iff_toNat_lt]
        exact Nat.lt_of_le_of_lt (Nat.zero_le _) h.short
      have hend : pos = c.sendMessageLen.toNat :=
        Nat.le_antisymm hpos (Nat.le_of_not_lt fun hlt => hmore ⟨hpositive, hlt⟩)
      have hall : sock.sent = posted.flatten := by
        rw [hmoved, show posted = _ from h.ended, hend, List.flatten_append, List.flatten_singleton]
      refine .live awaiting hafter (.done ?_ rfl hall)
      refine (Connection.sendFlags_setState (by decide)).trans ?_
      rw [Connection.sendFlags_clearState]
      change flagsSet (flagsClear (state &&& SENDING_MASK) STATUS_FLAGS_SENDING)
        STATUS_FLAGS_MESSAGE_SENT = _
      rcases hstate with hstate | hstate
      · rw [hstate]; decide
      · rw [hstate]; decide
  · rw [hfailed] at hafter ⊢
    refine .broken hafter (Connection.checkState_setState_of_overlap (by decide)) (fun hflag => ?_)
      (sentUpTo_of_part h.ended hpos hmoved)
    -- The flag of a message that was sent is down while one is on its way.
    have hdown : flagsCheck (state &&& SENDING_MASK) STATUS_FLAGS_MESSAGE_SENT = false := by
      rcases hstate with hstate | hstate
      · rw [hstate]; decide
      · rw [hstate]; decide
    rw [flagsCheck_and (by decide)] at hdown
    cases hdown.symm.trans ((Connection.checkState_setState (by decide)).symm.trans hflag)

/-- A send of a message on its way gives the socket some more of it, and may find that the
connection is broken. -/
theorem Underway.communicateSend {before : List (List UInt8)} {awaiting : Bool}
    (h : Underway ⟨c, false, awaiting, posted⟩ before) (hplain : c.Plain)
    (hestablished : c.Established) (plan : List IoOutcome) (now : Int64) :
    SendsUpTo posted (tcpConnectionCommunicateSend (c.planSend plan) now).2 := by
  have hafter : (tcpConnectionCommunicateSend (c.planSend plan) now).2.Established :=
    Connection.Established.communicateSend (c := c.planSend plan)
      ⟨hestablished.connected, hestablished.socket⟩ hplain now
  obtain ⟨state, hsend1, hstate⟩ := h.send1 plan
  obtain ⟨sock, hspec, hrest⟩ := tcpConnectionSend_spec
    { c.planSend plan with connectionState := state } (c.sendMessageLen.toNat - c.sendBufferPos)
  have hk := (ioMoved_le plan (c.sendMessageLen.toNat - c.sendBufferPos)
    (c.sendMessageLen.toNat - c.sendBufferPos)).1
  have hshort := h.short
  have hpos := hspec.pos_eq
  have hsent := hspec.sent_eq
  dsimp only at hshort hsend1 hrest hpos hsent
  change _ = c.sendBufferPos + ioMoved plan _ _ at hpos
  change sock.sent = c.sock.sent ++ slice c.sendBuffer c.sendBufferPos (ioMoved plan _ _) at hsent
  generalize ioMoved plan (c.sendMessageLen.toNat - c.sendBufferPos)
    (c.sendMessageLen.toNat - c.sendBufferPos) = k at hk hpos hsent
  have hmoved : sock.sent = before.flatten ++ c.sendBuffer.take (c.sendBufferPos + k) := by
    rw [hsent, show c.sock.sent = _ from h.sent, List.take_add, List.append_assoc]
    rfl
  have hcall : tcpConnectionCommunicateSend (c.planSend plan) now = connectionImplCommunicateSend2
      { c with sock := sock, connectionState := state, sendBufferPos := c.sendBufferPos + k } now
      (tcpConnectionSend { c.planSend plan with connectionState := state }
        (c.sendMessageLen.toNat - c.sendBufferPos)).1 := by
    unfold tcpConnectionCommunicateSend
    rw [hsend1]
    dsimp only
    rw [if_neg (by omega), tcpConnectionBufferSend_plain
      (c := { c.planSend plan with connectionState := state }) hplain, hrest, hpos]
    rfl
  have hle : c.sendBufferPos + k ≤ c.sendMessageLen.toNat := by omega
  rw [hcall] at hafter ⊢
  exact h.send2 now hstate hle hmoved hspec.status_eq hafter

/-- Where there is nothing to send, nothing is sent. -/
theorem tcpConnectionCommunicateSend_still {rv : Result Nat} (now : Int64)
    (hsend1 : connectionImplCommunicateSend1 c = (rv, c)) (hrv : rv = .ok 0 ∨ ∃ e, rv = .error e) :
    (tcpConnectionCommunicateSend c now).2 = c := by
  unfold tcpConnectionCommunicateSend
  rw [hsend1]
  obtain rfl | ⟨e, rfl⟩ := hrv
  · rfl
  · rfl

/-- A connection without a flag of sending. -/
theorem tcpConnectionCommunicateSend_nothing (now : Int64)
    (nothing : c.checkState STATUS_FLAGS_SEND = false) :
    (tcpConnectionCommunicateSend c now).2 = c := by
  have hdown (m : BitVec 32) (hm : STATUS_FLAGS_SEND &&& m = m) : c.checkState m = false :=
    checkState_of_subset_of_false hm nothing
  cases herror : c.checkState STATUS_FLAGS_ERROR with
  | true => exact tcpConnectionCommunicateSend_still now (if_pos herror) (Or.inr ⟨_, rfl⟩)
  | false =>
      refine tcpConnectionCommunicateSend_still now ?_ (Or.inl rfl)
      rw [connectionImplCommunicateSend1, herror, hdown _ (by decide), hdown _ (by decide),
        hdown _ (by decide)]
      rfl

/-- Where the event of the last message was consumed, a send makes ready for the next one. -/
theorem tcpConnectionCommunicateSend_consumed (now : Int64)
    (hflags : c.sendFlags = STATUS_FLAGS_MESSAGE_SENT ||| STATUS_FLAGS_MESSAGE_SENT_CONSUMED) :
    (tcpConnectionCommunicateSend c now).2 =
      { c.clearState (STATUS_FLAGS_MESSAGE_SENT_CONSUMED ||| STATUS_FLAGS_MESSAGE_SENT) with
        sendBufferPos := 0, sendMessageLen := 0 } := by
  rw [tcpConnectionCommunicateSend, connectionImplCommunicateSend1_eq, hflags]
  rfl

/-- A send, whatever the socket answers. -/
theorem SendsUpTo.communicateSend (h : SendsUpTo posted c) (hplain : c.Plain)
    (plan : List IoOutcome) (now : Int64) :
    SendsUpTo posted (tcpConnectionCommunicateSend (c.planSend plan) now).2 := by
  cases h with
  | broken established error all sent =>
      rw [tcpConnectionCommunicateSend_still (c := c.planSend plan) now (if_pos error)
        (Or.inr ⟨_, rfl⟩)]
      exact .broken ⟨established.connected, established.socket⟩ error all sent
  | gone closed nothing sent =>
      rw [tcpConnectionCommunicateSend_nothing (c := c.planSend plan) now nothing]
      exact .gone closed nothing sent
  | live awaiting established phase =>
      have hsend1 := connectionImplCommunicateSend1_eq (c.planSend plan)
      cases phase with
      | underway before h => exact h.communicateSend hplain established plan now
      | quiet flags pos awaiting sent =>
          rw [show (c.planSend plan).sendFlags = _ from flags] at hsend1
          rw [tcpConnectionCommunicateSend_still now hsend1 (Or.inl rfl)]
          exact .live _ ⟨established.connected, established.socket⟩ (.quiet flags pos awaiting sent)
      | done flags writing sent =>
          rw [show (c.planSend plan).sendFlags = _ from flags] at hsend1
          rw [tcpConnectionCommunicateSend_still now hsend1 (Or.inl rfl)]
          exact .live awaiting ⟨established.connected, established.socket⟩ (.done flags rfl sent)
      | consumed flags writing awaiting sent =>
          have hafter : (tcpConnectionCommunicateSend (c.planSend plan) now).2.Established :=
            Connection.Established.communicateSend (c := c.planSend plan)
              ⟨established.connected, established.socket⟩ hplain now
          rw [tcpConnectionCommunicateSend_consumed (c := c.planSend plan) now flags] at hafter ⊢
          refine .live false hafter (.quiet ?_ rfl rfl sent)
          refine (Connection.sendFlags_clearState _ _).trans ?_
          rw [show (c.planSend plan).sendFlags = _ from flags]
          decide

/-- The control path leaves the connection alone, closes it, or makes its slot free. -/
theorem SendsUpTo.processControl_cases (h : SendsUpTo posted c) (hplain : c.Plain)
    (digest : TcpDigest) :
    (tcpConnectionCommunicateProcessControl digest c).2 = c ∨
      (tcpConnectionCommunicateProcessControl digest c).2 = connectionReset c ∨
      (tcpConnectionCommunicateProcessControl digest c).2 =
        { c with sock := tcpSocketClose c.sock, connectionState := STATUS_FLAGS_CLOSED } := by
  cases h with
  | live awaiting established phase => exact established.processControl_cases hplain digest
  | broken established error all sent => exact established.processControl_cases hplain digest
  | gone closed nothing sent =>
      unfold tcpConnectionCommunicateProcessControl connectionImplCommunicateProcessControl
      by_cases htype : c.transportType ≠ TCP_TRANSPORT
      · rw [if_pos htype]
        exact Or.inl rfl
      · rw [if_neg htype]
        dsimp only
        by_cases hconsumed : c.checkState STATUS_FLAGS_CLOSED_CONSUMED = true
        · rw [if_pos hconsumed, if_pos (connectionReset_silent hplain).gone]
          exact Or.inr (Or.inl rfl)
        · rw [if_neg hconsumed, if_pos closed]
          exact Or.inl rfl

/-- A close cuts the last message off. -/
theorem SendsUpTo.processControl (h : SendsUpTo posted c) (hplain : c.Plain) (digest : TcpDigest) :
    SendsUpTo posted (tcpConnectionCommunicateProcessControl digest c).2 ∧
      (tcpConnectionCommunicateProcessControl digest c).2.Plain ∧
      c.newlyPosted (tcpConnectionCommunicateProcessControl digest c).2 = [] ∧
      (tcpConnectionCommunicateProcessControl digest c).2.sock.sent = c.sock.sent := by
  obtain hsame | hidle | hclosed := h.processControl_cases hplain digest
  · rw [hsame]
    exact ⟨h, hplain, Connection.newlyPosted_of_same rfl, rfl⟩
  · rw [hidle]
    exact ⟨.gone (by decide : flagsCheck STATUS_FLAGS_IDLE
        (STATUS_FLAGS_CLOSED ||| STATUS_FLAGS_IDLE) = true)
      (by decide : flagsCheck STATUS_FLAGS_IDLE STATUS_FLAGS_SEND = false) (h.sentUpTo.congr rfl),
      hplain, Connection.newlyPosted_of_not_requested
        (by decide : flagsCheck STATUS_FLAGS_IDLE STATUS_FLAGS_SEND_REQUESTED = false), rfl⟩
  · rw [hclosed]
    exact ⟨.gone (by decide : flagsCheck STATUS_FLAGS_CLOSED
        (STATUS_FLAGS_CLOSED ||| STATUS_FLAGS_IDLE) = true)
      (by decide : flagsCheck STATUS_FLAGS_CLOSED STATUS_FLAGS_SEND = false)
      (h.sentUpTo.congr rfl), hplain, Connection.newlyPosted_of_not_requested
        (by decide : flagsCheck STATUS_FLAGS_CLOSED STATUS_FLAGS_SEND_REQUESTED = false), rfl⟩

/-- A send takes up a request and makes none. -/
theorem connectionImplCommunicateSend1_notRequested (hplain : c.Plain)
    (hrequested : c.checkState STATUS_FLAGS_SEND_REQUESTED = false) :
    (connectionImplCommunicateSend1 c).2.checkState STATUS_FLAGS_SEND_REQUESTED = false ∧
      (connectionImplCommunicateSend1 c).2.Plain := by
  unfold connectionImplCommunicateSend1
  split_ifs
  · exact ⟨hrequested, hplain⟩
  · exact ⟨flagsCheck_clear_of_not_flagsCheck hrequested, hplain⟩
  · exact ⟨flagsCheck_clear_of_not_flagsCheck hrequested, hplain⟩
  · exact ⟨hrequested, hplain⟩
  · exact ⟨hrequested, hplain⟩

omit [SizeT] in
theorem connectionImplCommunicateSend2_requested (c : Connection) (now : Int64) (rv : Result Unit) :
    (connectionImplCommunicateSend2 c now rv).2.checkState STATUS_FLAGS_SEND_REQUESTED =
      c.checkState STATUS_FLAGS_SEND_REQUESTED := by
  unfold connectionImplCommunicateSend2
  split
  · exact Connection.checkState_setState (by decide)
  · split
    · exact Connection.checkState_setState (by decide)
    · exact (Connection.checkState_setState (by decide)).trans
        (Connection.checkState_clearState (by decide))

/-- A send requests no message. -/
theorem newlyPosted_communicateSend (hplain : c.Plain) (plan : List IoOutcome) (now : Int64) :
    c.newlyPosted (tcpConnectionCommunicateSend (c.planSend plan) now).2 = [] := by
  cases hrequested : c.checkState STATUS_FLAGS_SEND_REQUESTED with
  | true =>
      rw [Connection.newlyPosted, hrequested, Bool.not_true, Bool.and_false]
      exact if_neg Bool.false_ne_true
  | false =>
      refine Connection.newlyPosted_of_not_requested ?_
      have hsend1 := connectionImplCommunicateSend1_notRequested (c := c.planSend plan) hplain
        hrequested
      unfold tcpConnectionCommunicateSend
      split
      · next h =>
          rw [h] at hsend1
          exact hsend1.1
      · next h =>
          rw [h] at hsend1
          split
          · exact hsend1.1
          · dsimp only
            rw [connectionImplCommunicateSend2_requested, tcpConnectionBufferSend_plain hsend1.2]
            exact hsend1.1

end

/-! ## Runs -/

/-- A connection that sends the messages `posted`, of which each is whole. -/
structure SendsInOrder (posted : List (List UInt8)) (c : Connection) : Prop where
  plain : c.Plain
  framed : ∀ bytes ∈ posted, ∃ m : WireMessage, m.bytes = bytes
  sends : SendsUpTo posted c

/-- A change of nothing that sending looks at. -/
theorem SendsUpTo.congr {c : Connection} (c' : Connection) {posted : List (List UInt8)}
    (h : SendsUpTo posted c) (hsame : c.SameSend c')
    (hstate : c'.connectionState = c.connectionState) (hconfig : c'.configFlags = c.configFlags) :
    SendsUpTo posted c' := by
  have hcheck (m : BitVec 32) : c'.checkState m = c.checkState m := by
    rw [Connection.checkState, hstate, Connection.checkState]
  have hestablished (established : c.Established) : c'.Established := by
    have hserver : connectionIsServer c' = connectionIsServer c := by
      rw [connectionIsServer, hconfig, connectionIsServer]
    refine ⟨fun hs => (hcheck _).trans (established.connected (hserver.symm.trans hs)), ?_⟩
    rw [hserver, hcheck]
    exact established.socket
  cases h with
  | live awaiting established phase =>
      refine .live awaiting (hestablished established) (phase.congr hsame ?_)
      rw [Connection.sendFlags, hstate, Connection.sendFlags]
  | broken established error all sent =>
      exact .broken (hestablished established) ((hcheck _).trans error)
        (fun hflag => hsame.sent.trans (all ((hcheck _).symm.trans hflag))) (sent.congr hsame.sent)
  | gone closed nothing sent =>
      exact .gone ((hcheck _).trans closed) ((hcheck _).trans nothing) (sent.congr hsame.sent)

/-- A step of a connection that sends: a message more may be requested, and the socket forgets
nothing that it took. -/
structure SendsMore (posted : List (List UInt8)) (c c' : Connection) : Prop where
  next : SendsInOrder (posted ++ c.newlyPosted c') c'
  sent : c.sock.sent <+: c'.sock.sent

/-- What requests no message. -/
theorem SendsInOrder.still {c c' : Connection} {posted : List (List UInt8)}
    (h : SendsInOrder posted c) (hplain : c'.Plain) (hsends : SendsUpTo posted c')
    (hnew : c.newlyPosted c' = []) (hsent : c.sock.sent <+: c'.sock.sent) :
    SendsMore posted c c' := by
  refine ⟨?_, hsent⟩
  rw [hnew, List.append_nil]
  exact ⟨hplain, h.framed, hsends⟩

section

variable [SizeT]

/-- A node that receives and sends on a connection, and the messages whose sending was requested
there. -/
structure NodeExchange extends NodeReceiver where
  posted : List (List UInt8)

variable {i : Nat} {s : NodeExchange} {posted : List (List UInt8)} {c : Connection}

def NodeCall.exchange (i : Nat) (s : NodeExchange) (call : NodeCall) : Result Unit × NodeExchange :=
  let s' := (call.step i s.toNodeReceiver).2
  (.ok (), { s' with
    posted := s.posted ++ (s.node.connection i).newlyPosted (s'.node.connection i) })

/-- What is newly requested is a message. -/
theorem Connection.Worked.holdsEntry {c' : Connection} {eventType : EventType}
    (h : c.Worked eventType c') {bytes : List UInt8} (hbytes : bytes ∈ c.newlyPosted c') :
    c'.HoldsEntry ∧ bytes = c'.sent := by
  cases hfree : c.checkState STATUS_FLAGS_NOT_FREE with
  | true =>
      rw [(h.busy hfree).2] at hbytes
      cases hbytes
  | false =>
      unfold Connection.newlyPosted at hbytes
      split at hbytes
      · next hnew =>
          rw [Bool.and_eq_true] at hnew
          exact ⟨h.posts.posted hfree hnew.1, List.mem_singleton.mp hbytes⟩
      · cases hbytes

/-- What the node does to a connection, on whatever event. -/
theorem SendsInOrder.worked {c' c₁ : Connection} {eventType : EventType} (h : SendsInOrder posted c)
    (hrechecked : c.Rechecked c₁) (hworked : c₁.Worked eventType c')
    (hreported : eventType.isTimed = true ∨ connectionPendingEvent c = some eventType) :
    SendsMore posted c c' := by
  -- When a connection is checked next has no part in this.
  obtain ⟨t, rfl⟩ := hrechecked
  have hsends : SendsUpTo posted { c with heartbeatNextCheckUs := t } :=
    h.sends.congr _ ⟨rfl, rfl, rfl, rfl, rfl⟩ rfl rfl
  refine ⟨⟨?_, fun bytes hbytes => ?_, hsends.worked hworked hreported⟩,
    hworked.sent_eq.1 ▸ List.prefix_refl _⟩
  · rw [Connection.Plain, hworked.sameReceive.storage]
    exact h.plain
  · obtain hold | hnew := List.mem_append.mp hbytes
    · exact h.framed bytes hold
    · obtain ⟨hentry, rfl⟩ := hworked.holdsEntry hnew
      exact hentry.framed.1

/-- One step of a run. -/
theorem SendsInOrder.step (h : SendsInOrder s.posted (s.node.connection i)) (call : NodeCall) :
    SendsMore s.posted (s.node.connection i) ((call.exchange i s).2.node.connection i) := by
  change SendsMore s.posted (s.node.connection i) ((call.run i s.node s.incoming).connection i)
  cases call with
  | event now =>
      obtain ⟨eventType, c, hrechecked, hworked, hreported⟩ := nodeRunNextEvent2_worked s.node now i
      exact h.worked hrechecked hworked hreported
  | app call =>
      exact h.worked (.refl _) (((nodeAppCall_asked s.node call).connection i).worked
        (nodeAppCall_posts s.node call i) .noop) (Or.inl rfl)
  | answer answers => exact h.worked (.refl _) (.refl .noop _) (Or.inl rfl)
  | others change =>
      have hsame : ((NodeCall.others change).run i s.node s.incoming).connection i =
          s.node.connection i := if_pos rfl
      rw [hsame]
      exact h.worked (.refl _) (.refl .noop _) (Or.inl rfl)
  | communicateRecv arriving plan now =>
      have hmodified := Node.modifyConnection_connection s.node i fun c =>
        (tcpConnectionCommunicateRecv (c.arrive (s.incoming.take arriving) plan) now).2
      obtain ⟨c, hc⟩ : ∃ c, c = (s.node.connection i).arrive (s.incoming.take arriving) plan :=
        ⟨_, rfl⟩
      have hplain : c.Plain := by
        rw [hc]
        exact h.plain
      have hsends : SendsUpTo s.posted c := by
        rw [hc]
        exact h.sends.congr _ ⟨rfl, rfl, rfl, rfl, rfl⟩ rfl rfl
      rw [NodeCall.run, hmodified, ← hc]
      refine h.still ?_ (hsends.communicateRecv hplain now) (Connection.newlyPosted_of_same ?_) ?_
      · rw [Connection.Plain, (communicateRecv_sameSend hplain now).storage]
        exact hplain
      · rw [checkState_communicateRecv hplain now (by decide), hc]
        rfl
      · rw [(communicateRecv_sameSend hplain now).sent, hc]
        exact List.prefix_refl _
  | communicateSend plan now =>
      have hmodified := Node.modifyConnection_connection s.node i fun c =>
        (tcpConnectionCommunicateSend (c.planSend plan) now).2
      rw [NodeCall.run, hmodified]
      refine h.still ?_ (h.sends.communicateSend h.plain plan now)
        (newlyPosted_communicateSend h.plain plan now)
        (sent_prefix_communicateSend (c := (s.node.connection i).planSend plan) h.plain now)
      rw [Connection.Plain, (communicateSend_sameReceive
        (c := (s.node.connection i).planSend plan) h.plain now).storage]
      exact h.plain
  | processControl digest =>
      have hmodified := Node.modifyConnection_connection s.node i fun c =>
        (tcpConnectionCommunicateProcessControl digest c).2
      obtain ⟨hsends, hplain, hnew, hsent⟩ := h.sends.processControl h.plain digest
      rw [NodeCall.run, hmodified]
      exact h.still hplain hsends hnew (hsent ▸ List.prefix_refl _)

/-- A send of the application that succeeds posts its entry, and nothing else. -/
def PostsEntry (i : Nat) (s : NodeExchange) : NodeCall → Prop
  | .app (.send j header elements) => j = i →
      (nodeSendMessageentry s.node j header elements).1 = .ok () →
        (entryBytes (s.node.connection i).messageVersion ⟨header, elements⟩).length ≤ UINT32_MAX →
          ((NodeCall.app (.send j header elements)).exchange i s).2.posted = s.posted ++
            [oneEntryBytes (s.node.connection i).messageVersion
              (~~~(s.node.connection i).messageFlagsInvMask)
              (nodeMessageHeader s.node (s.node.connection i)) ⟨header, elements⟩]
  | _ => True

/-- A send that succeeds found no message requested, and requests its own. -/
theorem nodeSendMessageentry_requested {node : Node} {header : MessageEntryConstHeader}
    {elements : List ElementTree} (hok : (nodeSendMessageentry node i header elements).1 = .ok ()) :
    (node.connection i).checkState STATUS_FLAGS_SEND_REQUESTED = false ∧
      ((nodeSendMessageentry node i header elements).2.connection i).checkState
        STATUS_FLAGS_SEND_REQUESTED = true := by
  constructor
  · by_contra hbusy
    rw [Bool.not_eq_false] at hbusy
    obtain ⟨e, he⟩ := nodeBeginSendMessageentry_busy node header
      (flagsCheck_of_subset (by decide) hbusy)
    rw [nodeSendMessageentry, he] at hok
    cases hok
  · obtain ⟨e, b, h⟩ | ⟨b, len, h⟩ := nodeSendMessageentry_cases node i header elements
    · rw [h] at hok
      cases hok
    · have hqueued : (node.queue i b len header).connection i =
          connectionEndSendMessage { node.connection i with sendBuffer := b } len :=
        Node.modifyConnection_connection node i fun c =>
          connectionEndSendMessage { c with sendBuffer := b } len
      rw [h]
      dsimp only
      rw [hqueued]
      exact Connection.checkState_setState_of_overlap (by decide)

theorem NodeExchange.postsEntry (s : NodeExchange) (call : NodeCall) : PostsEntry i s call := by
  cases call with
  | app call =>
      cases call with
      | close j => trivial
      | send j header elements =>
          rintro rfl hok hshort
          have hsent := nodeSendMessageentry_sent (Prod.ext hok rfl)
          obtain ⟨hfree, hrequested⟩ := nodeSendMessageentry_requested hok
          change s.posted ++ (s.node.connection j).newlyPosted
            ((nodeSendMessageentry s.node j header elements).2.connection j) = _
          rw [Connection.newlyPosted, hfree, hrequested, if_pos (by decide), hsent.sent_eq hshort]
  | _ => trivial

/-- A plain connection past its handshake on which nothing was sent yet. -/
structure FreshNodeSender (i : Nat) (s : NodeExchange) : Prop where
  plain : (s.node.connection i).Plain
  established : (s.node.connection i).Established
  noFlags : (s.node.connection i).sendFlags = 0
  pos : (s.node.connection i).sendBufferPos = 0
  nothingSent : (s.node.connection i).sock.sent = []
  nothingPosted : s.posted = []

theorem FreshNodeSender.sendsInOrder (h : FreshNodeSender i s) :
    SendsInOrder s.posted (s.node.connection i) := by
  refine ⟨h.plain, fun bytes hbytes => ?_, .live false h.established
    (.quiet h.noFlags h.pos rfl ?_)⟩
  · rw [h.nothingPosted] at hbytes
    cases hbytes
  · dsimp only
    rw [h.nothingSent, h.nothingPosted]
    rfl

/-- Whoever sends, the application, its handlers or the node itself, and however the socket fails:
what the socket took is whole messages in the order in which their sending was requested, but for
the end of the last one, the event that says that a message was sent comes when they all were, and
a send that succeeds posts its entry. -/
theorem node_sends_in_order {cs : List NodeCall} (h : FreshNodeSender i s) :
    let s' := final (NodeCall.exchange i) s cs
    s'.posted.dropLast.flatten <+: (s'.node.connection i).sock.sent ∧
      (s'.node.connection i).sock.sent <+: s'.posted.flatten ∧
      (connectionIsMessageSentEvent (s'.node.connection i) = true →
        (s'.node.connection i).sock.sent = s'.posted.flatten) ∧
      (∀ bytes ∈ s'.posted, ∃ m : WireMessage, m.bytes = bytes) ∧
      EveryCall (NodeCall.exchange i) (PostsEntry i) s cs := by
  have hstep (s : NodeExchange) (call : NodeCall)
      (hs : SendsInOrder s.posted (s.node.connection i)) :
      SendsInOrder (call.exchange i s).2.posted ((call.exchange i s).2.node.connection i) :=
    (hs.step call).next
  obtain ⟨hfinal, hposts⟩ := EveryCall.invariant
    (I := fun s : NodeExchange => SendsInOrder s.posted (s.node.connection i))
    (fun s call hs _ => hstep s call hs) (fun s call _ _ => s.postsEntry call) h.sendsInOrder
    (everyCall_true s cs)
  obtain ⟨hlast, hall⟩ := hfinal.sends.sentUpTo
  refine ⟨hlast, hall, fun hevent => hfinal.sends.all_sent ?_, hfinal.framed, hposts⟩
  rw [connectionIsMessageSentEvent, Bool.and_eq_true] at hevent
  exact hevent.1

end

section

open Lp64

/-- A server that is past its handshake, with buffers. -/
def freshExchange : NodeExchange where
  node := Node.init .any [] [0] fun _ =>
    { connectionConstruct (List.replicate 256 0) (List.replicate 1025 0) with
      transportType := TCP_TRANSPORT
      configFlags := CONFIG_FLAGS_ISSERVER
      connectionState := STATUS_FLAGS_CONNECTED ||| STATUS_FLAGS_RECEIVE_REQUESTED }
  incoming := []
  taken := []
  posted := []

theorem freshExchange_fresh : FreshNodeSender 0 freshExchange where
  plain := rfl
  established := ⟨fun _ => rfl, Or.inl rfl⟩
  noFlags := rfl
  pos := rfl
  nothingSent := rfl
  nothingPosted := rfl

def emptyEntryHeader : MessageEntryConstHeader := MessageEntryHeaderOf.zero ⟨[], modulus_pos⟩

/-- The second message is turned away while the first is on its way. The third one goes out once the
event of the first was consumed, until the socket fails. -/
def threeSends : List NodeCall :=
  [.app (.send 0 emptyEntryHeader []), .communicateSend [.ready 19, .wouldBlock] 0,
    .app (.send 0 emptyEntryHeader []), .communicateSend [.ready 999] 1, .event 2, .event 2,
    .event 2, .communicateSend [] 3, .app (.send 0 emptyEntryHeader []),
    .communicateSend [.ready 9, .failed] 4]

theorem threeSends_inOrder :
    let s' := final (NodeCall.exchange 0) freshExchange threeSends
    s'.posted.dropLast.flatten <+: (s'.node.connection 0).sock.sent ∧
      (s'.node.connection 0).sock.sent <+: s'.posted.flatten ∧
      (connectionIsMessageSentEvent (s'.node.connection 0) = true →
        (s'.node.connection 0).sock.sent = s'.posted.flatten) ∧
      (∀ bytes ∈ s'.posted, ∃ m : WireMessage, m.bytes = bytes) ∧
      EveryCall (NodeCall.exchange 0) (PostsEntry 0) freshExchange threeSends :=
  node_sends_in_order freshExchange_fresh

example : (final (NodeCall.exchange 0) freshExchange threeSends).posted.map List.length = [86, 86] ∧
    ((final (NodeCall.exchange 0) freshExchange threeSends).node.connection 0).sock.sent.length =
      96 := by decide +kernel

end

end RobotRaconteurLite

import RobotRaconteurLite.Proofs.PlainReceive

/-!
# Messages are delivered in order, each once

What a plain connection has received and not given up, followed by what waits in
the socket and by what is still to arrive, is the stream of the messages from
the first one on that is still in the buffer. Compaction takes exactly that
message away, and the application sees the first `recv_message_len` bytes of the
buffer only while they are it.
-/

namespace RobotRaconteurLite

open Splice LittleEndian CallSequence

/-! ## The stream -/

/-- A message as it goes over the wire. -/
structure WireMessage where
  bytes : List UInt8
  long : 12 ≤ bytes.length
  magic : slice bytes 0 4 = rracMagic
  size : (utilReadUint32 bytes 4).toNat = bytes.length
  version : utilReadUint16 bytes 8 = 2 ∨ utilReadUint16 bytes 8 = 4

/-- The stream a peer sends. -/
def wireStream (messages : List WireMessage) : List UInt8 :=
  (messages.map WireMessage.bytes).flatten

/-- What arrives during a run. -/
def arrivals : List ReceiveCall → List UInt8
  | [] => []
  | .communicateRecv arrived _ _ :: cs => arrived ++ arrivals cs
  | _ :: cs => arrivals cs

/-- The socket neither fails nor closes. -/
def ReceiveCall.SocketWorks : ReceiveCall → Prop
  | .communicateRecv _ plan _ => Willing plan
  | _ => True

/-- What the application sees of the receive buffer. -/
def Connection.exposed (c : Connection) : Option (List UInt8) :=
  if c.checkState STATUS_FLAGS_MESSAGE_RECEIVED ∧
      ¬ c.checkState STATUS_FLAGS_MESSAGE_CONSUMED then
    some (c.recvBuffer.take c.recvMessageLen.toNat)
  else none

/-- The bytes received are the start of the messages `pending`, and `future` is
what has not arrived yet. -/
structure Delivering (c : Connection) (pending : List WireMessage) (future : List UInt8) :
    Prop where
  plain : c.Plain
  noError : c.checkState STATUS_FLAGS_ERROR = false
  pos_le : c.recvBufferPos ≤ c.recvBuffer.length
  stream : c.recvBuffer.take c.recvBufferPos ++ c.sock.inbox ++ future = wireStream pending
  length : c.recvMessageLen = 0 ∨ ∃ m rest, pending = m :: rest ∧
    c.recvMessageLen.toNat = m.bytes.length
  received : c.checkState STATUS_FLAGS_MESSAGE_RECEIVED = true →
    0 < c.recvMessageLen ∧ c.recvMessageLen.toNat ≤ c.recvBufferPos ∧
      c.checkState STATUS_FLAGS_RECEIVE_REQUESTED = false
  consumed : c.checkState STATUS_FLAGS_MESSAGE_CONSUMED = true →
    c.checkState STATUS_FLAGS_MESSAGE_RECEIVED = true

section

variable {c : Connection} {pending : List WireMessage} {future : List UInt8}

/-- Enough bytes of the stream start with the first message. -/
theorem Delivering.take_first (h : Delivering c pending future) {m : WireMessage}
    {rest : List WireMessage} (hm : pending = m :: rest) {n : Nat}
    (hn : n ≤ m.bytes.length) (hpos : n ≤ c.recvBufferPos) :
    c.recvBuffer.take n = m.bytes.take n := by
  have hstream := congrArg (List.take n) h.stream
  have hlen := h.pos_le
  rw [hm, wireStream, List.map_cons, List.flatten_cons, List.append_assoc,
    List.take_append_of_le_length (by rw [List.length_take]; omega),
    List.take_append_of_le_length hn, List.take_take, Nat.min_eq_left hpos] at hstream
  exact hstream

/-- A message the application sees is the first one. -/
theorem Delivering.exposed (h : Delivering c pending future) {bytes : List UInt8}
    (he : c.exposed = some bytes) : ∃ m rest, pending = m :: rest ∧ bytes = m.bytes := by
  unfold Connection.exposed at he
  split at he
  · next hr =>
      obtain ⟨hnew, hle, -⟩ := h.received hr.1
      obtain hzero | ⟨m, rest, hm, hlen⟩ := h.length
      · rw [hzero] at hnew
        exact absurd hnew (by decide)
      · refine ⟨m, rest, hm, ?_⟩
        rw [← Option.some.inj he, hlen,
          h.take_first hm (Nat.le_refl _) (by omega), List.take_length]
  · cases he

/-! ## One receive -/

/-- A receive of whatever the socket has. -/
theorem Delivering.recv (h : Delivering c pending future) (hw : Willing c.sock.recvPlan)
    (len : Nat) : Delivering (tcpConnectionRecv c len).2 pending future ∧
      (tcpConnectionRecv c len).1 = .ok () := by
  obtain ⟨sock, hspec, heq⟩ := tcpConnectionRecv_spec c len
  have hk := (ioMoved_le c.sock.recvPlan len c.sock.inbox.length).2
  generalize ioMoved c.sock.recvPlan len c.sock.inbox.length = k at hspec hk
  have htake : (c.sock.inbox.take k).length = k := List.length_take_of_le hk
  have hpos := hspec.pos_eq
  have hbuffer := hspec.buffer_eq
  have hinbox := hspec.inbox_eq
  dsimp only at hpos hbuffer hinbox
  refine ⟨?_, hspec.willing hw⟩
  rw [heq, hpos, hbuffer]
  refine ⟨h.plain, h.noError, ?_, ?_, h.length, ?_, h.consumed⟩
  · have hge : c.recvBufferPos + (c.sock.inbox.take k).length ≤
        (overwrite c.recvBuffer c.recvBufferPos (c.sock.inbox.take k)).length :=
      length_overwrite_ge h.pos_le
    dsimp only
    omega
  · dsimp only
    rw [hinbox, ← h.stream]
    have hmore : (overwrite c.recvBuffer c.recvBufferPos (c.sock.inbox.take k)).take
        (c.recvBufferPos + (c.sock.inbox.take k).length) =
        c.recvBuffer.take c.recvBufferPos ++ c.sock.inbox.take k := take_overwrite h.pos_le
    rw [htake] at hmore
    rw [hmore, List.append_assoc (c.recvBuffer.take _), List.take_append_drop]
  · intro hr
    obtain ⟨hnew, hle, hidle⟩ := h.received hr
    refine ⟨hnew, ?_, hidle⟩
    dsimp only
    omega

/-- The preamble of the first message checks out. -/
theorem Delivering.verifyPreamble (h : Delivering c pending future) :
    ∃ len, connectionVerifyPreamble c = (.ok (), { c with recvMessageLen := len }) ∧
      Delivering { c with recvMessageLen := len } pending future := by
  unfold connectionVerifyPreamble
  by_cases hnew : c.recvBufferPos ≥ 12 ∧ c.recvMessageLen = 0
  · rw [if_pos hnew]
    obtain ⟨hpos, hzero⟩ := hnew
    -- Twelve bytes are there, so there is a message.
    cases hm : pending with
    | nil =>
        have hlen := congrArg List.length h.stream
        have hin := h.pos_le
        rw [hm, wireStream] at hlen
        simp only [List.map_nil, List.flatten_nil, List.length_nil, List.length_append,
          List.length_take] at hlen
        omega
    | cons m rest =>
        have hslice (i n : Nat) (hin : i + n ≤ 12) :
            slice c.recvBuffer i n = slice m.bytes i n := by
          have htake := h.take_first hm m.long hpos
          rw [← slice_take hin, htake, slice_take hin]
        rw [hslice 0 4 (by omega), m.magic, if_neg (not_not_intro rfl)]
        have hsize : utilReadUint32 c.recvBuffer 4 = utilReadUint32 m.bytes 4 := by
          rw [utilReadUint32, utilReadUint32, hslice 4 4 (by omega)]
        have hversion : utilReadUint16 c.recvBuffer 8 = utilReadUint16 m.bytes 8 := by
          rw [utilReadUint16, utilReadUint16, hslice 8 2 (by omega)]
        have hknown : ¬ (utilReadUint16 m.bytes 8 ≠ 2 ∧ utilReadUint16 m.bytes 8 ≠ 4) := by
          rintro ⟨h2, h4⟩
          exact m.version.elim h2 h4
        dsimp only
        rw [hversion, if_neg hknown, hsize]
        refine ⟨_, rfl, ?_⟩
        refine ⟨h.plain, h.noError, h.pos_le, hm ▸ h.stream, Or.inr ⟨m, rest, rfl, m.size⟩, ?_,
          h.consumed⟩
        intro hr
        have hpending := (h.received hr).1
        rw [hzero] at hpending
        exact absurd hpending (by decide)
  · rw [if_neg hnew]
    exact ⟨_, rfl, h⟩

/-- The end of a receive that worked. -/
theorem Delivering.recv2 (h : Delivering c pending future) (now : Int64) :
    Delivering (connectionImplCommunicateRecv2 c now (.ok ())).2 pending future ∧
      (connectionImplCommunicateRecv2 c now (.ok ())).2.checkState
        STATUS_FLAGS_MESSAGE_CONSUMED = c.checkState STATUS_FLAGS_MESSAGE_CONSUMED := by
  obtain ⟨len, hverify, hd⟩ := h.verifyPreamble
  rw [connectionImplCommunicateRecv2]
  dsimp only
  rw [hverify]
  dsimp only
  split
  · next hthere =>
      refine ⟨?_, ?_⟩
      · exact {
        plain := hd.plain
        noError := by
          refine (Connection.checkState_setState (by decide)).trans ?_
          exact (Connection.checkState_clearState (by decide)).trans h.noError
        pos_le := hd.pos_le
        stream := hd.stream
        length := hd.length
        received := fun _ => by
          refine ⟨hthere.1, hthere.2, ?_⟩
          refine (Connection.checkState_setState (by decide)).trans ?_
          exact Connection.checkState_clearState_of_subset (by decide)
        consumed := fun _ => Connection.checkState_setState_of_overlap (by decide) }
      · refine (Connection.checkState_setState (by decide)).trans ?_
        exact Connection.checkState_clearState (by decide)
  · exact ⟨hd, rfl⟩

/-- A message that was consumed is taken out of the buffer. -/
theorem Delivering.compact (h : Delivering c pending future)
    (hpos : c.recvBufferPos ≤ c.recvBufferLen) [SizeT] (hlen : c.recvBufferLen < SizeT.modulus) :
    Delivering (connectionCompact c)
      (if c.checkState STATUS_FLAGS_MESSAGE_CONSUMED then pending.tail else pending) future := by
  unfold connectionCompact
  split
  · next hc =>
      obtain ⟨hnew, hle, -⟩ := h.received (h.consumed hc)
      obtain hzero | ⟨m, rest, hm, hsize⟩ := h.length
      · rw [hzero] at hnew
        exact absurd hnew (by decide)
      · have hfirst := h.take_first hm (Nat.le_refl _) (by omega)
        rw [List.take_length] at hfirst
        have hin := h.pos_le
        generalize hL : c.recvMessageLen.toNat = L at hle hsize hfirst
        have hrest : (slice c.recvBuffer L (c.recvBufferPos - L)).length =
            c.recvBufferPos - L := length_slice (by omega)
        -- What lay behind the message is now at the front.
        have hfront : (if c.recvBufferPos > L then
            overwrite c.recvBuffer 0 (slice c.recvBuffer L (c.recvBufferPos - L))
            else c.recvBuffer).take (c.recvBufferPos - L) =
            slice c.recvBuffer L (c.recvBufferPos - L) ∧
            c.recvBufferPos - L ≤ (if c.recvBufferPos > L then
              overwrite c.recvBuffer 0 (slice c.recvBuffer L (c.recvBufferPos - L))
              else c.recvBuffer).length := by
          split
          · have htake : (overwrite c.recvBuffer 0
                (slice c.recvBuffer L (c.recvBufferPos - L))).take
                (0 + (slice c.recvBuffer L (c.recvBufferPos - L)).length) = _ :=
              take_overwrite (Nat.zero_le _)
            have hge : 0 + (slice c.recvBuffer L (c.recvBufferPos - L)).length ≤
                (overwrite c.recvBuffer 0
                  (slice c.recvBuffer L (c.recvBufferPos - L))).length :=
              length_overwrite_ge (Nat.zero_le _)
            rw [Nat.zero_add, hrest] at htake hge
            exact ⟨htake, hge⟩
          · rw [show c.recvBufferPos - L = 0 by omega, List.take_zero, slice_zero]
            exact ⟨rfl, Nat.zero_le _⟩
        have hstream := h.stream
        have hsplit : c.recvBuffer.take c.recvBufferPos =
            m.bytes ++ slice c.recvBuffer L (c.recvBufferPos - L) := by
          have hsum : c.recvBufferPos = L + (c.recvBufferPos - L) := by omega
          conv_lhs => rw [hsum]
          have hfirst' : c.recvBuffer.take L = m.bytes := by
            rw [hsize]
            exact hfirst
          rw [List.take_add, hfirst']
          rfl
        rw [hsplit, hm, wireStream, List.map_cons, List.flatten_cons, List.append_assoc,
          List.append_assoc] at hstream
        dsimp only
        rw [subSz_eq hle (by omega), hm, List.tail_cons]
        refine ⟨h.plain, ?_, hfront.2, ?_, Or.inl rfl, ?_, ?_⟩
        · refine (Connection.checkState_setState (by decide)).trans ?_
          exact (Connection.checkState_clearState (by decide)).trans h.noError
        · refine (congrArg (fun front => front ++ c.sock.inbox ++ future) hfront.1).trans ?_
          rw [List.append_assoc]
          exact List.append_cancel_left hstream
        · intro hr
          rw [Connection.checkState_setState (by decide),
            Connection.checkState_clearState_of_subset (by decide)] at hr
          cases hr
        · intro hc'
          rw [Connection.checkState_setState (by decide),
            Connection.checkState_clearState_of_subset (by decide)] at hc'
          cases hc'
  · exact h

end

/-! ## Runs -/

section

variable {c : Connection} {future : List UInt8}

/-- What a consumed message still in the buffer adds to the messages already gone. -/
def Connection.toCompact (c : Connection) : Nat :=
  (c.checkState STATUS_FLAGS_MESSAGE_CONSUMED).toNat

/-- `n` messages were given back, and those are gone from the buffer but for one
that the next receive takes out. -/
def DeliveredUpTo (messages : List WireMessage) (n : Nat) (c : Connection)
    (future : List UInt8) : Prop :=
  ∃ gone, Delivering c (messages.drop gone) future ∧ n = gone + c.toCompact

/-- A connection that no message came in on yet, and the stream its peer will send. -/
structure FreshReceiver (c : Connection) (messages : List WireMessage) (future : List UInt8) :
    Prop where
  plain : c.Plain
  noError : c.checkState STATUS_FLAGS_ERROR = false
  notReceived : c.checkState STATUS_FLAGS_MESSAGE_RECEIVED = false
  notConsumed : c.checkState STATUS_FLAGS_MESSAGE_CONSUMED = false
  noLength : c.recvMessageLen = 0
  pos_le : c.recvBufferPos ≤ c.recvBuffer.length
  stream : c.recvBuffer.take c.recvBufferPos ++ c.sock.inbox ++ future = wireStream messages

theorem FreshReceiver.deliveredUpTo {messages : List WireMessage}
    (h : FreshReceiver c messages future) : DeliveredUpTo messages 0 c future := by
  refine ⟨0, ⟨h.plain, h.noError, h.pos_le, h.stream, Or.inl h.noLength, ?_, ?_⟩, ?_⟩
  · intro hr
    cases h.notReceived.symm.trans hr
  · intro hc
    cases h.notConsumed.symm.trans hc
  · rw [Connection.toCompact, h.notConsumed]
    rfl

theorem arrivals_cons (call : ReceiveCall) (cs : List ReceiveCall) :
    arrivals (call :: cs) = arrivals [call] ++ arrivals cs := by
  cases call <;> simp [arrivals]

end

section

variable [SizeT] {c : Connection} {future : List UInt8}

/-- The call gives back the message the application sees. -/
def takesMessage (c : Connection) : ReceiveCall → Bool
  | .messageReceiveConsume => c.exposed.isSome
  | _ => false

/-- How many messages the application gives back during a run. -/
def consumedCount : Connection → List ReceiveCall → Nat
  | _, [] => 0
  | c, call :: cs => (takesMessage c call).toNat + consumedCount (call.step c).2 cs

/-- The position stays within the receive buffer. -/
def Connection.WithinBuffer (c : Connection) : Prop :=
  c.recvBufferPos ≤ c.recvBufferLen ∧ c.recvBufferLen < SizeT.modulus

theorem connectionCompact_consumed (c : Connection) :
    (connectionCompact c).checkState STATUS_FLAGS_MESSAGE_CONSUMED = false := by
  unfold connectionCompact
  split
  · refine (Connection.checkState_setState (by decide)).trans ?_
    exact Connection.checkState_clearState_of_subset (by decide)
  · next hc => simpa using hc

theorem DeliveredUpTo.communicateRecv {messages : List WireMessage} {n : Nat}
    {arrived : List UInt8} {plan : List IoOutcome}
    (h : DeliveredUpTo messages n c (arrived ++ future)) (hw : Willing plan)
    (hin : c.WithinBuffer) (now : Int64) :
    DeliveredUpTo messages n (tcpConnectionCommunicateRecv (c.arrive arrived plan) now).2
      future := by
  obtain ⟨gone, hd, hcount⟩ := h
  have harrive : Delivering (c.arrive arrived plan) (messages.drop gone) future := by
    refine ⟨hd.plain, hd.noError, hd.pos_le, ?_, hd.length, hd.received, hd.consumed⟩
    rw [← hd.stream]
    simp only [Connection.arrive, List.append_assoc]
  have hcompact := harrive.compact hin.1 hin.2
  have hconsumed := connectionCompact_consumed (c.arrive arrived plan)
  -- The message that was given back is the one compaction takes out.
  have hgone : (if (c.arrive arrived plan).checkState STATUS_FLAGS_MESSAGE_CONSUMED then
      (messages.drop gone).tail else messages.drop gone) = messages.drop n := by
    rw [hcount, Connection.toCompact]
    change (if c.checkState STATUS_FLAGS_MESSAGE_CONSUMED = true then _ else _) = _
    cases c.checkState STATUS_FLAGS_MESSAGE_CONSUMED with
    | true => simp
    | false => simp
  rw [hgone] at hcompact
  have hdone {c' : Connection} (hd' : Delivering c' (messages.drop n) future)
      (hc' : c'.checkState STATUS_FLAGS_MESSAGE_CONSUMED = false) :
      DeliveredUpTo messages n c' future := by
    refine ⟨n, hd', ?_⟩
    rw [Connection.toCompact, hc']
    rfl
  have hplan : (connectionCompact (c.arrive arrived plan)).sock.recvPlan = plan := by
    unfold connectionCompact
    split <;> rfl
  rw [tcpConnectionCommunicateRecv_plain now harrive.plain harrive.noError]
  split
  · exact hdone hcompact hconsumed
  · obtain ⟨hrecv, hok⟩ := hcompact.recv (by rw [hplan]; exact hw)
      (connectionRecvOpLen (connectionCompact (c.arrive arrived plan)))
    obtain ⟨hend, hflag⟩ := hrecv.recv2 now
    rw [hok]
    refine hdone hend (hflag.trans ?_)
    obtain ⟨sock, -, heq⟩ := tcpConnectionRecv_spec (connectionCompact (c.arrive arrived plan))
      (connectionRecvOpLen (connectionCompact (c.arrive arrived plan)))
    rw [heq]
    exact hconsumed

/-- One step of a run: what the application sees stays until it gives it back. -/
theorem DeliveredUpTo.step {messages : List WireMessage} {n : Nat} {call : ReceiveCall}
    (h : DeliveredUpTo messages n c (arrivals [call] ++ future)) (hw : call.SocketWorks)
    (hin : c.WithinBuffer) :
    DeliveredUpTo messages (n + (takesMessage c call).toNat) (call.step c).2 future := by
  cases call with
  | messageReceive => exact h
  | messageReceiveConsume =>
      obtain ⟨gone, hd, hcount⟩ := h
      unfold ReceiveCall.step connectionMessageReceiveConsume takesMessage
      dsimp only
      by_cases hr : c.checkState STATUS_FLAGS_MESSAGE_RECEIVED = true
      · rw [if_neg (not_not_intro hr)]
        have hset : (c.setState STATUS_FLAGS_MESSAGE_CONSUMED).checkState
            STATUS_FLAGS_MESSAGE_CONSUMED = true :=
          Connection.checkState_setState_of_overlap (by decide)
        have hkeep {m : BitVec 32} (hm : STATUS_FLAGS_MESSAGE_CONSUMED &&& m = 0#32) :
            (c.setState STATUS_FLAGS_MESSAGE_CONSUMED).checkState m = c.checkState m :=
          Connection.checkState_setState hm
        refine ⟨gone, ⟨hd.plain, ?_, hd.pos_le, hd.stream, hd.length, ?_, ?_⟩, ?_⟩
        · rw [hkeep (by decide)]
          exact hd.noError
        · intro _
          rw [hkeep (by decide)]
          exact hd.received hr
        · intro _
          rw [hkeep (by decide)]
          exact hr
        · rw [Connection.toCompact, hset, hcount, Connection.toCompact, Connection.exposed, hr]
          cases c.checkState STATUS_FLAGS_MESSAGE_CONSUMED <;> rfl
      · rw [if_pos hr]
        refine ⟨gone, hd, ?_⟩
        rw [Connection.exposed, if_neg (fun h => hr h.1)]
        exact hcount
  | communicateRecv arrived plan now =>
      simp only [arrivals, List.append_nil] at h
      exact h.communicateRecv hw hin now

/-- What the application sees stays until it gives it back. -/
theorem DeliveredUpTo.exposed_stays {messages : List WireMessage} {n : Nat}
    (h : DeliveredUpTo messages n c future) {call : ReceiveCall}
    (hcall : call ≠ .messageReceiveConsume) {bytes : List UInt8}
    (he : c.exposed = some bytes) : (call.step c).2.exposed = some bytes := by
  cases call with
  | messageReceive => exact he
  | messageReceiveConsume => exact absurd rfl hcall
  | communicateRecv arrived plan now =>
      obtain ⟨gone, hd, -⟩ := h
      have hflags : c.checkState STATUS_FLAGS_MESSAGE_RECEIVED = true ∧
          ¬ c.checkState STATUS_FLAGS_MESSAGE_CONSUMED = true := by
        unfold Connection.exposed at he
        split at he
        · next hf => exact hf
        · cases he
      obtain ⟨-, -, hidle⟩ := hd.received hflags.1
      -- Nothing is requested, so the call ends before it receives.
      have hcompact : connectionCompact (c.arrive arrived plan) = c.arrive arrived plan := by
        rw [connectionCompact]
        exact if_neg hflags.2
      have hnone : connectionRecvOpLen (c.arrive arrived plan) = 0 := by
        rw [connectionRecvOpLen]
        exact if_neg (by rw [show (c.arrive arrived plan).checkState _ = _ from hidle]; decide)
      unfold ReceiveCall.step
      dsimp only
      have hplain : (c.arrive arrived plan).Plain := hd.plain
      rw [tcpConnectionCommunicateRecv_plain now hplain hd.noError, hcompact, hnone, if_pos rfl]
      exact he

theorem DeliveredUpTo.run {messages : List WireMessage} {n : Nat} {cs : List ReceiveCall}
    (h : DeliveredUpTo messages n c (arrivals cs ++ future))
    (hw : ∀ call ∈ cs, call.SocketWorks)
    (hin : EveryCall ReceiveCall.step (fun c _ => c.WithinBuffer) c cs) :
    DeliveredUpTo messages (n + consumedCount c cs) (final ReceiveCall.step c cs) future ∧
      EveryCall ReceiveCall.step (fun c call => ∀ bytes, c.exposed = some bytes →
        call ≠ .messageReceiveConsume → (call.step c).2.exposed = some bytes) c cs := by
  induction cs generalizing c n with
  | nil => exact ⟨h, trivial⟩
  | cons call cs ih =>
      rw [arrivals_cons, List.append_assoc] at h
      obtain ⟨hnow, hrest⟩ := hin
      have hnext := h.step (hw call List.mem_cons_self) hnow
      obtain ⟨hfinal, hstays⟩ :=
        ih hnext (fun call' hm => hw call' (List.mem_cons_of_mem _ hm)) hrest
      rw [Nat.add_assoc] at hfinal
      exact ⟨hfinal, fun bytes he hne => h.exposed_stays hne he, hstays⟩

/-- The message the application sees after giving back `k` is the `k`-th one sent,
and it does not change until it is given back. -/
theorem messages_delivered_in_order {messages : List WireMessage} {cs : List ReceiveCall}
    (hfresh : FreshReceiver c messages (arrivals cs ++ future))
    (hworks : ∀ call ∈ cs, call.SocketWorks)
    (hin : EveryCall ReceiveCall.step (fun c _ => c.WithinBuffer) c cs) :
    (∀ bytes, (final ReceiveCall.step c cs).exposed = some bytes →
      (messages.map WireMessage.bytes)[consumedCount c cs]? = some bytes) ∧
    EveryCall ReceiveCall.step (fun c call => ∀ bytes, c.exposed = some bytes →
      call ≠ .messageReceiveConsume → (call.step c).2.exposed = some bytes) c cs := by
  obtain ⟨hfinal, hstays⟩ := hfresh.deliveredUpTo.run hworks hin
  refine ⟨fun bytes he => ?_, hstays⟩
  rw [Nat.zero_add] at hfinal
  obtain ⟨gone, hd, hcount⟩ := hfinal
  obtain ⟨m, rest, hm, rfl⟩ := hd.exposed he
  have hflag : (final ReceiveCall.step c cs).toCompact = 0 := by
    unfold Connection.exposed at he
    split at he
    · next hf =>
        rw [Connection.toCompact]
        simpa using hf.2
    · cases he
  rw [hcount, hflag, Nat.add_zero, List.getElem?_map]
  have hget : messages[gone]? = some m := by
    have hhead := congrArg (fun l => l[0]?) hm
    simpa using hhead
  rw [hget]
  rfl

end

section

open Lp64

/-- The shortest message there is: its preamble. -/
def shortestMessage : WireMessage where
  bytes := rracMagic ++ [12, 0, 0, 0, 2, 0, 0, 0]
  long := by decide
  magic := by decide
  size := by decide
  version := Or.inl (by decide)

theorem plainConnection_fresh {future : List UInt8} {messages : List WireMessage}
    (h : future = wireStream messages) : FreshReceiver plainConnection messages future :=
  ⟨rfl, rfl, rfl, rfl, rfl, Nat.zero_le _, by rw [← h]; rfl⟩

/-- Two messages arrive together and the first is given back. -/
def twoMessages : List ReceiveCall :=
  [.communicateRecv (wireStream [shortestMessage, shortestMessage]) [.ready 23] 0,
    .messageReceive, .messageReceiveConsume, .communicateRecv [] [] 1]

theorem plainConnection_two_messages :
    (∀ bytes, (final ReceiveCall.step plainConnection twoMessages).exposed = some bytes →
      ([shortestMessage, shortestMessage].map WireMessage.bytes)[consumedCount plainConnection
        twoMessages]? = some bytes) ∧
    EveryCall ReceiveCall.step (fun c call => ∀ bytes, c.exposed = some bytes →
      call ≠ .messageReceiveConsume → (call.step c).2.exposed = some bytes)
      plainConnection twoMessages := by
  have hfresh : FreshReceiver plainConnection [shortestMessage, shortestMessage]
      (arrivals twoMessages) := plainConnection_fresh rfl
  refine messages_delivered_in_order hfresh ?_ ?_
  · intro call hcall
    simp only [twoMessages, List.mem_cons, List.not_mem_nil, or_false] at hcall
    obtain rfl | rfl | rfl | rfl := hcall
    · intro outcome hm
      simp only [List.mem_singleton] at hm
      exact Or.inr ⟨_, hm⟩
    · trivial
    · trivial
    · intro outcome hm
      cases hm
  · exact ⟨⟨by decide +kernel, by decide +kernel⟩, ⟨by decide +kernel, by decide +kernel⟩,
      ⟨by decide +kernel, by decide +kernel⟩, ⟨by decide +kernel, by decide +kernel⟩, trivial⟩

end

end RobotRaconteurLite

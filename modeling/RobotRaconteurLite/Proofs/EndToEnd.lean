import RobotRaconteurLite.Proofs.Delivery
import RobotRaconteurLite.Proofs.Sending
import Mathlib.Data.List.Infix

/-!
# From one application to the other

Two plain connections are joined by a network that loses nothing and keeps the
order, but cuts the stream wherever it likes. The application on one side sends
messages, the one on the other side takes them and gives them back, and the two
transports run whenever they are called.

What was proved of each side alone meets in the bytes: what the sender's socket
has taken is the messages ended, but for the end of the last one, and what the
receiver has and is still to get is the messages that were not given back. The
network has carried the first `carried` bytes of the one stream, so what it has
not carried is the future of the other.
-/

namespace RobotRaconteurLite

open Splice LittleEndian CallSequence

/-! ## Two connections and the network -/

/-- A sender, a receiver, how many of the bytes that the sender's socket took the network has
carried over, and the messages the receiving application has given back. -/
structure Link where
  sender : Sender
  receiver : Connection
  carried : Nat
  taken : List (List UInt8)

/-- What either side does. Before a receive the network carries over some bytes. -/
inductive LinkCall
  | send (call : SendCall)
  | communicateRecv (arriving : Nat) (plan : List IoOutcome) (now : Int64)
  | messageReceive
  | messageReceiveConsume

/-- The next bytes that the network carries over, at most `arriving` of them. -/
def Link.arrived (l : Link) (arriving : Nat) : List UInt8 :=
  (l.sender.conn.sock.sent.drop l.carried).take arriving

/-- The bytes of a message with a whole header. -/
def CarriesMessage (bytes : List UInt8) : Prop :=
  ∃ m : WireMessage, m.bytes = bytes ∧ 64 ≤ bytes.length

section

variable [SizeT]

def LinkCall.step (l : Link) : LinkCall → Result Unit × Link
  | .send call => ((call.step l.sender).1, { l with sender := (call.step l.sender).2 })
  | .communicateRecv arriving plan now =>
      let call : ReceiveCall := .communicateRecv (l.arrived arriving) plan now
      ((call.step l.receiver).1, { l with
        receiver := (call.step l.receiver).2
        carried := l.carried + (l.arrived arriving).length })
  | .messageReceive => ((ReceiveCall.messageReceive.step l.receiver).1, l)
  | .messageReceiveConsume =>
      ((ReceiveCall.messageReceiveConsume.step l.receiver).1, { l with
        receiver := (ReceiveCall.messageReceiveConsume.step l.receiver).2
        taken := l.taken ++ l.receiver.exposed.toList })

/-- The sending application keeps to the protocol and sends messages; the sockets neither fail
nor close. -/
def LinkProtocol (l : Link) : LinkCall → Prop
  | .send call => SendProtocol l.sender call ∧ call.LengthFits ∧
      ∀ messageLen, call = .endSendMessage messageLen →
        CarriesMessage (l.sender.conn.sendBuffer.take messageLen)
  | .communicateRecv _ plan _ => Willing plan
  | _ => True

/-! ## The receiver's buffer -/

/-- A receiver that has looked at all it has: it knows the length of the first message if its
preamble is there, and says so when the whole message is. -/
structure Settled (c : Connection) : Prop where
  bounded : ReceiveBounded c
  short : c.recvMessageLen = 0 → c.checkState STATUS_FLAGS_MESSAGE_CONSUMED = false →
    c.recvBufferPos < 12
  incomplete : c.recvMessageLen ≠ 0 → c.checkState STATUS_FLAGS_MESSAGE_RECEIVED = false →
    c.recvBufferPos < c.recvMessageLen.toNat

variable {c : Connection} {pending : List WireMessage} {future : List UInt8}

omit [SizeT] in
/-- A preamble that is there has a length. -/
theorem Delivering.preamble_len (h : Delivering c pending future) (hpos : 12 ≤ c.recvBufferPos) :
    utilReadUint32 c.recvBuffer 4 ≠ 0 := by
  cases hm : pending with
  | nil =>
      have hlen := congrArg List.length h.stream
      have hin := h.pos_le
      rw [hm, wireStream] at hlen
      simp only [List.map_nil, List.flatten_nil, List.length_nil, List.length_append,
        List.length_take] at hlen
      omega
  | cons m rest =>
      have htake := h.take_first hm m.long hpos
      have hslice : slice c.recvBuffer 4 4 = slice m.bytes 4 4 := by
        rw [← slice_take (by omega : 4 + 4 ≤ 12), htake, slice_take (by omega)]
      have hsize : utilReadUint32 c.recvBuffer 4 = utilReadUint32 m.bytes 4 := by
        rw [utilReadUint32, utilReadUint32, hslice]
      intro hzero
      have hlong := m.long
      have hlen := m.size
      rw [← hsize, hzero] at hlen
      change 0 = m.bytes.length at hlen
      omega

omit [SizeT] in
/-- Where the length field is not zero, the preamble is dealt with once it is there. -/
theorem connectionVerifyPreamble_short {c' : Connection} {rv : Result Unit}
    (hlen : 12 ≤ c.recvBufferPos → utilReadUint32 c.recvBuffer 4 ≠ 0)
    (h : connectionVerifyPreamble c = (rv, c')) (hok : rv = .ok ()) :
    c'.recvMessageLen = 0 → c'.recvBufferPos < 12 := by
  subst hok
  unfold connectionVerifyPreamble at h
  split at h
  · next hnew =>
      split at h
      · cases h
      · dsimp only at h
        split at h
        · cases h
        · obtain rfl := (Prod.mk.inj h).2
          intro hzero
          exact absurd hzero (hlen hnew.1)
  · next hold =>
      obtain rfl := (Prod.mk.inj h).2
      intro hzero
      by_contra hpos
      exact hold ⟨Nat.le_of_not_lt hpos, hzero⟩

/-- A receive that worked ends with all of the bytes looked at. -/
theorem Delivering.recv2_settled (h : Delivering c pending future) {now : Int64}
    (hbounded : ReceiveBounded (connectionImplCommunicateRecv2 c now (.ok ())).2) :
    Settled (connectionImplCommunicateRecv2 c now (.ok ())).2 := by
  obtain ⟨len, hverify, -⟩ := h.verifyPreamble
  have hshort := connectionVerifyPreamble_short h.preamble_len hverify rfl
  refine ⟨hbounded, ?_, ?_⟩
  all_goals
    rw [connectionImplCommunicateRecv2]
    dsimp only
    rw [hverify]
    dsimp only
    split
  · exact fun hzero _ => hshort hzero
  · exact fun hzero _ => hshort hzero
  · intro _ hr
    cases hr.symm.trans (Connection.checkState_setState_of_overlap (by decide))
  · next hpart =>
      intro hnew _
      have hpositive : len > 0 := UInt32.pos_iff_ne_zero.mpr hnew
      by_contra hpos
      exact hpart ⟨hpositive, Nat.le_of_not_lt hpos⟩

/-- A buffer of 75 bytes has room for the next preamble, when no message is shorter than a
header. -/
theorem Settled.roomForPreamble (h : Settled c) (hd : Delivering c pending future)
    (hsize : ∀ m ∈ pending, 64 ≤ m.bytes.length) (hbuffer : 75 ≤ c.recvBufferLen) :
    c.AwaitsPreamble → c.keptBytes + 64 ≤ c.recvBufferLen := by
  intro hawaits
  by_cases hconsumed : c.checkState STATUS_FLAGS_MESSAGE_CONSUMED = true
  · -- What is left once a whole message is out of the buffer.
    obtain ⟨hnew, hle⟩ := h.bounded.received (h.bounded.consumed hconsumed)
    have hpos := h.bounded.pos_le
    obtain hlen | ⟨m, rest, hm, hlen⟩ := hd.length
    · exact absurd hlen (UInt32.pos_iff_ne_zero.mp hnew)
    · have h64 := hsize m (by rw [hm]; exact List.mem_cons_self)
      rw [Connection.keptBytes, if_pos hconsumed]
      omega
  · obtain ⟨-, hgone | ⟨-, hzero⟩⟩ := hawaits
    · exact absurd hgone hconsumed
    · have hpos := h.short hzero (Bool.not_eq_true _ ▸ hconsumed)
      rw [Connection.keptBytes, if_neg hconsumed]
      omega

/-- A compaction asks for the next preamble. -/
theorem connectionCompact_of_idle (h : connectionRecvOpLen (connectionCompact c) = 0) :
    connectionCompact c = c := by
  unfold connectionCompact at h ⊢
  split
  · next hconsumed =>
      rw [if_pos hconsumed] at h
      unfold connectionRecvOpLen at h
      dsimp only at h
      rw [if_pos (Connection.checkState_setState_of_overlap (by decide))] at h
      cases (if_pos rfl).symm.trans h
  · rfl

theorem connectionCompact_recvPlan (c : Connection) :
    (connectionCompact c).sock.recvPlan = c.sock.recvPlan := by
  unfold connectionCompact
  split
  · rfl
  · rfl

/-- One receive. -/
theorem Settled.communicateRecv (h : Settled c) {arrived : List UInt8} {plan : List IoOutcome}
    (hd : Delivering c pending (arrived ++ future)) (hw : Willing plan) (now : Int64)
    (hsize : ∀ m ∈ pending, 64 ≤ m.bytes.length) (hbuffer : 75 ≤ c.recvBufferLen) :
    Settled (ReceiveCall.step c (.communicateRecv arrived plan now)).2 := by
  have hroom : RoomForPreamble c (.communicateRecv arrived plan now) :=
    h.roomForPreamble hd hsize hbuffer
  have hbounded := h.bounded.step hroom
  have harrive : Delivering (c.arrive arrived plan) pending future := by
    refine ⟨hd.plain, hd.noError, hd.pos_le, ?_, hd.length, hd.received, hd.consumed⟩
    rw [← hd.stream]
    simp only [Connection.arrive, List.append_assoc]
  have hcompact := harrive.compact h.bounded.pos_le h.bounded.len_lt
  rw [ReceiveCall.step] at hbounded ⊢
  rw [tcpConnectionCommunicateRecv_plain now harrive.plain harrive.noError] at hbounded ⊢
  split at hbounded
  · next hnone =>
      -- Nothing was asked for, so nothing was compacted either.
      rw [if_pos hnone]
      have hstay : connectionCompact (c.arrive arrived plan) = c.arrive arrived plan :=
        connectionCompact_of_idle hnone
      rw [hstay] at hbounded ⊢
      exact ⟨hbounded, h.short, h.incomplete⟩
  · next hsome =>
      rw [if_neg hsome]
      obtain ⟨hrecv, hok⟩ := hcompact.recv (by rw [connectionCompact_recvPlan]; exact hw)
        (connectionRecvOpLen (connectionCompact (c.arrive arrived plan)))
      rw [hok] at hbounded ⊢
      exact hrecv.recv2_settled hbounded

omit [SizeT] in
theorem recvBufferLen_recv2 (c : Connection) (now : Int64) (rv : Result Unit) :
    (connectionImplCommunicateRecv2 c now rv).2.recvBufferLen = c.recvBufferLen := by
  have hverify : (connectionVerifyPreamble c).2.recvBufferLen = c.recvBufferLen := by
    unfold connectionVerifyPreamble
    dsimp only
    split_ifs
    all_goals rfl
  unfold connectionImplCommunicateRecv2
  split
  · rfl
  · split
    · next h =>
        rw [h] at hverify
        exact hverify
    · next h =>
        rw [h] at hverify
        dsimp only
        split
        · exact hverify
        · exact hverify

/-- The buffer of a plain connection stays as long as it is. -/
theorem recvBufferLen_step (hplain : c.Plain) (call : ReceiveCall) :
    (call.step c).2.recvBufferLen = c.recvBufferLen := by
  cases call with
  | messageReceive => rfl
  | messageReceiveConsume =>
      unfold ReceiveCall.step connectionMessageReceiveConsume
      dsimp only
      split
      · rfl
      · rfl
  | communicateRecv arrived plan now =>
      have hcompact : (connectionCompact (c.arrive arrived plan)).recvBufferLen =
          c.recvBufferLen := by
        unfold connectionCompact
        split
        · rfl
        · rfl
      have hplain' : (c.arrive arrived plan).Plain := hplain
      rw [ReceiveCall.step]
      cases herror : (c.arrive arrived plan).checkState STATUS_FLAGS_ERROR with
      | true =>
          rw [tcpConnectionCommunicateRecv_error now herror]
          rfl
      | false =>
          rw [tcpConnectionCommunicateRecv_plain now hplain' herror]
          split
          · exact hcompact
          · rw [recvBufferLen_recv2]
            exact hcompact

/-- The application gives the message back that it sees. -/
theorem Settled.messageReceiveConsume (h : Settled c) :
    Settled (ReceiveCall.step c .messageReceiveConsume).2 := by
  have hbounded : ReceiveBounded (ReceiveCall.step c .messageReceiveConsume).2 :=
    h.bounded.step trivial
  unfold ReceiveCall.step connectionMessageReceiveConsume at hbounded ⊢
  dsimp only at hbounded ⊢
  split
  · exact h
  · next hr =>
      rw [if_neg hr] at hbounded
      refine ⟨hbounded, ?_, ?_⟩
      · intro _ hc
        cases hc.symm.trans (Connection.checkState_setState_of_overlap (by decide))
      · intro hnew hnone
        rw [Connection.checkState_setState (by decide)] at hnone
        exact h.incomplete hnew hnone

/-! ## The sender's stream -/

/-- A plain connection's socket forgets nothing that it took. -/
theorem sent_prefix_communicateSend (hplain : c.Plain) (now : Int64) :
    c.sock.sent <+: (tcpConnectionCommunicateSend c now).2.sock.sent := by
  have hsend1 : (connectionImplCommunicateSend1 c).2.sock = c.sock ∧
      (connectionImplCommunicateSend1 c).2.transportStorage = c.transportStorage := by
    unfold connectionImplCommunicateSend1
    split_ifs
    all_goals exact ⟨rfl, rfl⟩
  have hsend2 (c : Connection) (rv : Result Unit) :
      (connectionImplCommunicateSend2 c now rv).2.sock = c.sock := by
    unfold connectionImplCommunicateSend2
    split
    · rfl
    · split
      · rfl
      · rfl
  unfold tcpConnectionCommunicateSend
  split
  · next h =>
      rw [h] at hsend1
      exact hsend1.1 ▸ List.prefix_refl _
  · next sendOpLen c' h =>
      rw [h] at hsend1
      obtain ⟨hsock, hstorage⟩ := hsend1
      split
      · exact hsock ▸ List.prefix_refl _
      · have hplain' : c'.Plain := by
          rw [Connection.Plain, hstorage]
          exact hplain
        obtain ⟨sock, hspec, heq⟩ := tcpConnectionSend_spec c' sendOpLen
        have hsent := hspec.sent_eq
        dsimp only at hsent
        dsimp only
        rw [hsend2, tcpConnectionBufferSend_plain hplain', heq, hsent, hsock]
        exact List.prefix_append _ _

theorem SendCall.sent_prefix {s : Sender} (hplain : s.conn.Plain) (call : SendCall) :
    s.conn.sock.sent <+: (call.step s).2.conn.sock.sent := by
  cases call with
  | communicateSend plan now =>
      exact sent_prefix_communicateSend (c := s.conn.planSend plan) hplain now
  | beginSendMessage messageWriter =>
      rw [SendCall.step]
      split
      · exact List.prefix_refl _
      · exact List.prefix_refl _
  | _ => exact List.prefix_refl _

/-- Only the end of a message adds to the messages ended. -/
theorem SendCall.ended_eq {s : Sender} {call : SendCall}
    (h : ∀ messageLen, call ≠ .endSendMessage messageLen) : (call.step s).2.ended = s.ended := by
  cases call with
  | endSendMessage messageLen => exact absurd rfl (h messageLen)
  | beginSendMessage messageWriter =>
      rw [SendCall.step]
      split
      · rfl
      · rfl
  | _ => rfl

/-! ## Both sides -/

omit [SizeT] in
/-- A message more is a message more to come. -/
theorem Delivering.extend (h : Delivering c pending future) (m : WireMessage) :
    Delivering c (pending ++ [m]) (future ++ m.bytes) where
  plain := h.plain
  noError := h.noError
  pos_le := h.pos_le
  stream := by
    rw [← List.append_assoc, h.stream]
    simp [wireStream]
  length := by
    obtain hzero | ⟨first, rest, hfirst, hlen⟩ := h.length
    · exact Or.inl hzero
    · exact Or.inr ⟨first, rest ++ [m], by rw [hfirst]; rfl, hlen⟩
  received := h.received
  consumed := h.consumed

/-- The messages that were sent are the messages that were given back and those the receiver has
still to deliver; of the bytes of the latter the network has carried some. -/
structure Delivers (l : Link) (messages : List WireMessage) : Prop where
  sending : SendingInOrder l.sender
  carried_le : l.carried ≤ l.sender.conn.sock.sent.length
  ended : l.sender.ended = messages.map WireMessage.bytes
  long : ∀ m ∈ messages, 64 ≤ m.bytes.length
  room : 75 ≤ l.receiver.recvBufferLen
  settled : Settled l.receiver
  taken : l.taken <+: l.sender.ended
  delivered : DeliveredUpTo messages l.taken.length l.receiver
    (l.sender.ended.flatten.drop l.carried)

variable {l : Link} {messages : List WireMessage}

/-- What the network carries over is the start of what is still to come. -/
theorem Delivers.arrived_append (h : Delivers l messages) (arriving : Nat) :
    l.arrived arriving ++ l.sender.ended.flatten.drop (l.carried + (l.arrived arriving).length) =
      l.sender.ended.flatten.drop l.carried := by
  have hsent := h.sending.phase.sent_prefix.2
  have hprefix : l.arrived arriving <+: l.sender.ended.flatten.drop l.carried :=
    (List.take_prefix _ _).trans (hsent.drop l.carried)
  rw [← List.drop_drop]
  exact List.prefix_iff_eq_append.mp hprefix

theorem Delivers.taken_le (h : Delivers l messages) : l.taken.length ≤ messages.length := by
  have hle := h.taken.length_le
  rwa [h.ended, List.length_map] at hle

/-- The sender does something else than end a message. -/
theorem Delivers.send (h : Delivers l messages) {call : SendCall}
    (hp : SendProtocol l.sender call) (hfits : call.LengthFits)
    (hcall : ∀ messageLen, call ≠ .endSendMessage messageLen) :
    Delivers (LinkCall.step l (.send call)).2 messages := by
  have hended := SendCall.ended_eq (s := l.sender) hcall
  have hsent := (SendCall.sent_prefix h.sending.plain call).length_le
  refine ⟨(h.sending.step hp hfits).1, h.carried_le.trans hsent, ?_, h.long, h.room, h.settled,
    ?_, ?_⟩
  · exact hended.trans h.ended
  · change l.taken <+: (call.step l.sender).2.ended
    rw [hended]
    exact h.taken
  · change DeliveredUpTo messages l.taken.length l.receiver
      ((call.step l.sender).2.ended.flatten.drop l.carried)
    rw [hended]
    exact h.delivered

/-- The sender ends a message. -/
theorem Delivers.endSendMessage (h : Delivers l messages) {messageLen : Nat}
    (hp : SendProtocol l.sender (.endSendMessage messageLen)) (hfits : messageLen < 2 ^ 32)
    {m : WireMessage} (hm : m.bytes = l.sender.conn.sendBuffer.take messageLen)
    (hlong : 64 ≤ m.bytes.length) :
    Delivers (LinkCall.step l (.send (.endSendMessage messageLen))).2 (messages ++ [m]) := by
  have hended : ((SendCall.endSendMessage messageLen).step l.sender).2.ended =
      l.sender.ended ++ [m.bytes] := by
    rw [hm]
    rfl
  have hcarried : l.carried ≤ l.sender.ended.flatten.length :=
    h.carried_le.trans h.sending.phase.sent_prefix.2.length_le
  refine ⟨(h.sending.step hp hfits).1, h.carried_le, ?_, ?_, h.room, h.settled, ?_, ?_⟩
  · rw [List.map_append, ← h.ended]
    exact hended
  · intro m' hm'
    rcases List.mem_append.mp hm' with hold | hnew
    · exact h.long m' hold
    · rw [List.mem_singleton.mp hnew]
      exact hlong
  · change l.taken <+: ((SendCall.endSendMessage messageLen).step l.sender).2.ended
    rw [hended]
    exact h.taken.trans (List.prefix_append _ _)
  · change DeliveredUpTo (messages ++ [m]) l.taken.length l.receiver
      (((SendCall.endSendMessage messageLen).step l.sender).2.ended.flatten.drop l.carried)
    obtain ⟨gone, hd, hcount⟩ := h.delivered
    have htaken := h.taken_le
    refine ⟨gone, ?_, hcount⟩
    rw [hended, List.flatten_append, List.drop_append_of_le_length hcarried,
      List.drop_append_of_le_length (by omega), List.flatten_singleton]
    exact hd.extend m

/-- The receiver receives what the network brings. -/
theorem Delivers.communicateRecv (h : Delivers l messages) (arriving : Nat) {plan : List IoOutcome}
    (hw : Willing plan) (now : Int64) :
    Delivers (LinkCall.step l (.communicateRecv arriving plan now)).2 messages := by
  have hin : l.receiver.WithinBuffer := ⟨h.settled.bounded.pos_le, h.settled.bounded.len_lt⟩
  have hdelivered := h.delivered
  rw [← h.arrived_append arriving] at hdelivered
  refine ⟨h.sending, ?_, h.ended, h.long, ?_, ?_, h.taken, ?_⟩
  · change l.carried + (l.arrived arriving).length ≤ l.sender.conn.sock.sent.length
    have hcarried := h.carried_le
    rw [Link.arrived, List.length_take, List.length_drop]
    omega
  · change 75 ≤ (ReceiveCall.step l.receiver _).2.recvBufferLen
    rw [recvBufferLen_step h.settled.bounded.plain]
    exact h.room
  · obtain ⟨gone, hd, -⟩ := hdelivered
    exact h.settled.communicateRecv hd hw now (fun m hm => h.long m (List.mem_of_mem_drop hm))
      h.room
  · exact hdelivered.communicateRecv hw hin now

omit [SizeT] in
/-- The message the application sees is the next one that it gives back. -/
theorem DeliveredUpTo.exposed {n : Nat} (h : DeliveredUpTo messages n c future)
    {bytes : List UInt8} (he : c.exposed = some bytes) :
    (messages.map WireMessage.bytes)[n]? = some bytes := by
  obtain ⟨gone, hd, hcount⟩ := h
  obtain ⟨m, rest, hm, rfl⟩ := hd.exposed he
  have hflag : c.toCompact = 0 := by
    unfold Connection.exposed at he
    split at he
    · next hf =>
        rw [Connection.toCompact]
        simpa using hf.2
    · cases he
  have hget : messages[gone]? = some m := by
    have hhead := congrArg (fun l => l[0]?) hm
    simpa using hhead
  rw [hcount, hflag, Nat.add_zero, List.getElem?_map, hget]
  rfl

/-- The receiving application gives a message back. -/
theorem Delivers.messageReceiveConsume (h : Delivers l messages) :
    Delivers (LinkCall.step l .messageReceiveConsume).2 messages := by
  have hin : l.receiver.WithinBuffer := ⟨h.settled.bounded.pos_le, h.settled.bounded.len_lt⟩
  have hstep : DeliveredUpTo messages
      (l.taken.length + (takesMessage l.receiver .messageReceiveConsume).toNat)
      (ReceiveCall.step l.receiver .messageReceiveConsume).2
      (l.sender.ended.flatten.drop l.carried) := DeliveredUpTo.step h.delivered trivial hin
  refine ⟨h.sending, h.carried_le, h.ended, h.long, ?_, ?_, ?_, ?_⟩
  · change 75 ≤ (ReceiveCall.step l.receiver _).2.recvBufferLen
    rw [recvBufferLen_step h.settled.bounded.plain]
    exact h.room
  · exact h.settled.messageReceiveConsume
  · change l.taken ++ l.receiver.exposed.toList <+: l.sender.ended
    cases he : l.receiver.exposed with
    | none => rw [Option.toList_none, List.append_nil]; exact h.taken
    | some bytes =>
        have hnext := h.delivered.exposed he
        rw [← h.ended] at hnext
        have htake : l.sender.ended.take (l.taken.length + 1) = l.taken ++ [bytes] := by
          rw [List.take_add_one, hnext, ← List.prefix_iff_eq_take.mp h.taken]
          rfl
        rw [Option.toList_some, ← htake]
        exact List.take_prefix _ _
  · have hlength : (l.taken ++ l.receiver.exposed.toList).length =
        l.taken.length + (takesMessage l.receiver .messageReceiveConsume).toNat := by
      rw [List.length_append, takesMessage]
      cases l.receiver.exposed with
      | none => rfl
      | some bytes => rfl
    change DeliveredUpTo messages (l.taken ++ l.receiver.exposed.toList).length _ _
    rw [hlength]
    exact hstep

/-- One step of a run. -/
theorem Delivers.step (h : Delivers l messages) {call : LinkCall} (hp : LinkProtocol l call) :
    ∃ messages', Delivers (call.step l).2 messages' := by
  cases call with
  | send call =>
      obtain ⟨hprotocol, hfits, hcarries⟩ := hp
      cases call with
      | endSendMessage messageLen =>
          obtain ⟨m, hm, hlong⟩ := hcarries messageLen rfl
          exact ⟨_, h.endSendMessage hprotocol hfits hm (hm ▸ hlong)⟩
      | beginSendMessage messageWriter => exact ⟨_, h.send hprotocol hfits nofun⟩
      | fill bytes => exact ⟨_, h.send hprotocol hfits nofun⟩
      | consumeMessageSent => exact ⟨_, h.send hprotocol hfits nofun⟩
      | communicateSend plan now => exact ⟨_, h.send hprotocol hfits nofun⟩
  | communicateRecv arriving plan now => exact ⟨_, h.communicateRecv arriving hp now⟩
  | messageReceive => exact ⟨messages, h⟩
  | messageReceiveConsume => exact ⟨_, h.messageReceiveConsume⟩

/-! ## The whole way -/

/-- Two connections on which nothing was sent yet, and a receive buffer of 75 bytes or more. -/
structure FreshLink (l : Link) : Prop where
  sender : FreshSender l.sender
  receiver : FreshReceiver l.receiver [] []
  empty : l.receiver.recvBufferPos = 0
  bufferLen : 75 ≤ l.receiver.recvBufferLen ∧ l.receiver.recvBufferLen < SizeT.modulus
  nothingCarried : l.carried = 0
  nothingTaken : l.taken = []

theorem FreshLink.delivers (h : FreshLink l) : Delivers l [] where
  sending := h.sender.sendingInOrder
  carried_le := by
    rw [h.nothingCarried]
    exact Nat.zero_le _
  ended := h.sender.nothingEnded
  long := List.forall_mem_nil _
  room := h.bufferLen.1
  settled := by
    refine ⟨.of_fresh h.receiver.plain h.receiver.notReceived h.receiver.notConsumed ?_
      h.bufferLen.2, ?_, ?_⟩
    · rw [h.empty]
      exact Nat.zero_le _
    · intro _ _
      rw [h.empty]
      omega
    · intro hnew _
      exact absurd h.receiver.noLength hnew
  taken := by
    rw [h.nothingTaken]
    exact List.nil_prefix
  delivered := by
    rw [h.nothingTaken, h.sender.nothingEnded, List.flatten_nil, List.drop_nil]
    exact h.receiver.deliveredUpTo

/-- Everything that was sent has been carried over and was received. -/
structure Link.Drained (l : Link) : Prop where
  sent : l.sender.awaiting = false
  carried : l.carried = l.sender.conn.sock.sent.length
  received : l.receiver.sock.inbox = []

/-- Where nothing is on its way, the receiver holds nothing back: it shows the next message, or it
has to take a consumed one out of its buffer first. -/
theorem Delivers.taken_all (h : Delivers l messages) (hd : l.Drained)
    (hnone : l.receiver.exposed = none)
    (hcompact : l.receiver.checkState STATUS_FLAGS_MESSAGE_CONSUMED = false) :
    l.taken = l.sender.ended := by
  obtain ⟨gone, hpending, hcount⟩ := h.delivered
  have hgone : l.taken.length = gone := by
    rw [hcount, Connection.toCompact, hcompact]
    rfl
  have hfuture : l.sender.ended.flatten.drop l.carried = [] := by
    rw [hd.carried, h.sending.phase.sent_of_not_awaiting hd.sent, List.drop_length]
  have hstream := hpending.stream
  rw [hfuture, hd.received, List.append_nil, List.append_nil] at hstream
  have hdone : messages.drop gone = [] := by
    cases hm : messages.drop gone with
    | nil => rfl
    | cons m rest =>
        -- The first message is there in full, so the application sees it.
        have hlen := congrArg List.length hstream
        have hpos := hpending.pos_le
        have hlong := h.long m (List.mem_of_mem_drop (hm ▸ List.mem_cons_self))
        rw [hm, wireStream, List.map_cons, List.flatten_cons, List.length_append,
          List.length_take, Nat.min_eq_left hpos] at hlen
        obtain hzero | ⟨m', rest', hm', hsize⟩ := hpending.length
        · have hshort := h.settled.short hzero hcompact
          omega
        · rw [hm] at hm'
          obtain ⟨rfl, -⟩ := List.cons.inj hm'
          have hreceived : l.receiver.checkState STATUS_FLAGS_MESSAGE_RECEIVED = true := by
            by_contra hnot
            have hnew : l.receiver.recvMessageLen ≠ 0 := by
              intro hzero
              rw [hzero] at hsize
              change 0 = m.bytes.length at hsize
              omega
            have hpart := h.settled.incomplete hnew (Bool.not_eq_true _ ▸ hnot)
            omega
          rw [Connection.exposed, if_pos ⟨hreceived, by rw [hcompact]; decide⟩] at hnone
          cases hnone
  have hall : l.sender.ended.length ≤ l.taken.length := by
    rw [h.ended, List.length_map, hgone]
    exact List.drop_eq_nil_iff.mp hdone
  exact h.taken.eq_of_length_le hall

/-- However the two sides and the network take turns: the receiving application gives back the
messages that were ended, whole and in their order, the one it sees is the next of them, and the
receive buffer is never left. Once nothing is on its way any more, it sees a message or gave back
all of them, or a receive has to take the last one out of the buffer. -/
theorem messages_reach_in_order {cs : List LinkCall} (h : FreshLink l)
    (hp : EveryCall LinkCall.step LinkProtocol l cs) :
    let l' := final LinkCall.step l cs
    l'.taken ++ l'.receiver.exposed.toList <+: l'.sender.ended ∧
      l'.receiver.recvBufferPos ≤ l'.receiver.recvBufferLen ∧
      (l'.Drained → l'.receiver.exposed = none →
        l'.receiver.checkState STATUS_FLAGS_MESSAGE_CONSUMED = false →
          l'.taken = l'.sender.ended) := by
  have hfinal := (EveryCall.invariant (I := fun l => ∃ messages, Delivers l messages)
    (Q := fun _ _ => True) (fun l call hl hcall => hl.elim fun _ hd => hd.step hcall)
    (fun _ _ _ _ => trivial) ⟨[], h.delivers⟩ hp).1
  obtain ⟨messages, hd⟩ := hfinal
  exact ⟨hd.messageReceiveConsume.taken, hd.settled.bounded.pos_le, hd.taken_all⟩

end

section

open Lp64

/-- The shortest message with a whole header. -/
def message64 : WireMessage where
  bytes := rracMagic ++ [64, 0, 0, 0, 2, 0] ++ List.replicate 54 0
  long := by decide
  magic := by decide
  size := by decide
  version := Or.inl (by decide)

def freshLink : Link := ⟨idleSender (List.replicate 64 0), plainConnection, 0, []⟩

theorem freshLink_fresh : FreshLink freshLink where
  sender := idleSender_fresh _
  receiver := plainConnection_fresh rfl
  empty := rfl
  bufferLen := by decide +kernel
  nothingCarried := rfl
  nothingTaken := rfl

/-- A message that is sent in two pieces, and received in two others. -/
def inTwoPieces : List LinkCall :=
  [.send (.beginSendMessage emptyWriter), .send (.fill message64.bytes),
    .send (.endSendMessage 64), .send (.communicateSend [.ready 40] 0),
    .communicateRecv 20 [.ready 63] 1, .send (.communicateSend [.ready 63] 2),
    .communicateRecv 64 [.ready 63] 3, .messageReceiveConsume]

theorem inTwoPieces_reaches :
    let l := final LinkCall.step freshLink inTwoPieces
    l.taken ++ l.receiver.exposed.toList <+: l.sender.ended ∧
      l.receiver.recvBufferPos ≤ l.receiver.recvBufferLen ∧
      (l.Drained → l.receiver.exposed = none →
        l.receiver.checkState STATUS_FLAGS_MESSAGE_CONSUMED = false → l.taken = l.sender.ended) := by
  have hready (n : Nat) : Willing [.ready n] := fun o ho => Or.inr ⟨n, List.mem_singleton.mp ho⟩
  refine messages_reach_in_order freshLink_fresh ?_
  refine ⟨⟨trivial, trivial, nofun⟩, ⟨⟨by decide +kernel, by decide +kernel⟩, trivial, nofun⟩,
    ⟨⟨by decide +kernel, by decide, by decide +kernel⟩, (by decide : 64 < 2 ^ 32), ?_⟩,
    ⟨hready 40, trivial, nofun⟩, hready 63, ⟨hready 63, trivial, nofun⟩, hready 63, trivial,
    trivial⟩
  intro messageLen hcall
  obtain rfl := SendCall.endSendMessage.inj hcall
  exact ⟨message64, by decide +kernel, by decide +kernel⟩

end

end RobotRaconteurLite

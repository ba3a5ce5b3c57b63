import Mathlib.Data.Set.List
import RobotRaconteurLite.Proofs.NodeSends

/-!
# Two nodes

Two nodes are joined by a connection that loses nothing and keeps the order. Each
runs its events, its application and its handlers send and close, either socket
may fail at any time, and all of this is interleaved as it likes. What one node
gives back is what the other one was asked to send.

Each direction has a sender and a receiver of its own. What is on its way, with
what the sender still has to put there, is the future of the receiver, so the
receiver's invariant is the one that a single node has. A step of one node is a
step of the sender in one direction and of the receiver in the other.
-/

namespace RobotRaconteurLite

open CallSequence

section

variable [SizeT]

/-! ## More to come -/

section

variable {i : Nat} {messages : List WireMessage} {s : NodeReceiver}

/-- A message more that the peer will send. -/
theorem Receives.more (h : Receives i messages s) (m : WireMessage) :
    Receives i (messages ++ [m]) { s with incoming := s.incoming ++ m.bytes } := by
  have htaken := h.taken.length_le
  rw [List.length_map] at htaken
  refine ⟨?_, h.phase.imp (fun ⟨hheld, hestablished⟩ => ⟨⟨hheld.room, hheld.bounded, hheld.settled,
    ?_⟩, hestablished⟩) id⟩
  · rw [List.map_append]
    exact h.taken.trans (List.prefix_append _ _)
  · obtain ⟨gone, hd, hcount⟩ := hheld.delivered
    refine ⟨gone, ?_, hcount⟩
    rw [List.drop_append_of_le_length (by omega)]
    exact hd.extend m

/-- Messages more that the peer will send. -/
theorem Receives.extend (h : Receives i messages s) (new : List WireMessage) :
    Receives i (messages ++ new)
      { s with incoming := s.incoming ++ (new.map WireMessage.bytes).flatten } := by
  induction new generalizing messages s with
  | nil =>
      rw [List.map_nil, List.flatten_nil, List.append_nil, List.append_nil]
      exact h
  | cons m new ih =>
      have hnext := ih (h.more m)
      rw [List.append_assoc, List.append_assoc] at hnext
      exact hnext

/-- What was given back, with what is shown, is the start of what the peer sends. -/
theorem Receives.shown (h : Receives i messages s) :
    s.taken ++ (s.node.connection i).exposed.toList <+: messages.map WireMessage.bytes := by
  obtain ⟨hheld, -⟩ | hsilent := h.phase
  · exact hheld.shown h.taken
  · rw [hsilent.exposed, Option.toList_none, List.append_nil]
    exact h.taken

theorem Receives.pos_le (h : Receives i messages s) :
    (s.node.connection i).recvBufferPos ≤ (s.node.connection i).recvBufferLen := by
  obtain ⟨hheld, -⟩ | hsilent := h.phase
  · exact hheld.bounded.pos_le
  · exact hsilent.pos_le

/-- A call that takes no more than what has come. -/
def NodeCall.cut (incoming : List UInt8) : NodeCall → NodeCall
  | .communicateRecv arriving plan now =>
      .communicateRecv (min arriving incoming.length) plan now
  | call => call

/-- What comes later has no part in a step. -/
theorem NodeCall.step_append (call : NodeCall) (s : NodeReceiver) (later : List UInt8) :
    ((call.cut s.incoming).step i { s with incoming := s.incoming ++ later }).2 =
      { (call.step i s).2 with incoming := (call.step i s).2.incoming ++ later } := by
  cases call with
  | communicateRecv arriving plan now =>
      have htake : (s.incoming ++ later).take (min arriving s.incoming.length) =
          s.incoming.take arriving := by
        rw [List.take_append_of_le_length (Nat.min_le_right _ _)]
        rcases Nat.le_total arriving s.incoming.length with hle | hle
        · rw [Nat.min_eq_left hle]
        · rw [Nat.min_eq_right hle, List.take_length, List.take_of_length_le hle]
      have hdrop : (s.incoming ++ later).drop (min arriving s.incoming.length) =
          s.incoming.drop arriving ++ later := by
        rw [List.drop_append_of_le_length (Nat.min_le_right _ _)]
        rcases Nat.le_total arriving s.incoming.length with hle | hle
        · rw [Nat.min_eq_left hle]
        · rw [Nat.min_eq_right hle, List.drop_length, List.drop_of_length_le hle]
      simp only [NodeCall.cut, NodeCall.step, NodeCall.run, NodeCall.arriving, htake, hdrop]
  | _ => rfl

end

/-! ## One direction -/

/-- The bytes of `a`'s messages that its socket has not taken. -/
def NodeExchange.unsent (i : Nat) (a : NodeExchange) : List UInt8 :=
  a.posted.flatten.drop (a.node.connection i).sock.sent.length

/-- What `a` was asked to send on its connection `i` is `messages`, and `b` receives them on its
connection `j`: what is on its way there and what `a` still has is their rest. -/
structure Carries (i j : Nat) (messages : List WireMessage) (a b : NodeExchange) : Prop where
  sends : SendsInOrder a.posted (a.node.connection i)
  posted : a.posted = messages.map WireMessage.bytes
  receives : Receives j messages
    { b.toNodeReceiver with incoming := b.incoming ++ a.unsent i }

/-- More bytes are on their way to a node. -/
def NodeExchange.hear (s : NodeExchange) (bytes : List UInt8) : NodeExchange :=
  { s with incoming := s.incoming ++ bytes }

/-- The bytes that the socket took between two states of a node. -/
def NodeExchange.newlySent (i : Nat) (a a' : NodeExchange) : List UInt8 :=
  (a'.node.connection i).sock.sent.drop (a.node.connection i).sock.sent.length

variable {i j : Nat} {messages : List WireMessage} {a b : NodeExchange}

/-- The receiver takes a step. -/
theorem Carries.receiver (h : Carries i j messages a b)
    (hlong : ∀ m ∈ messages, 64 ≤ m.bytes.length) (call : NodeCall) :
    Carries i j messages a (call.exchange j b).2 := by
  have hstep := h.receives.step hlong (call.cut b.incoming)
  rw [NodeCall.step_append call b.toNodeReceiver (a.unsent i)] at hstep
  exact ⟨h.sends, h.posted, hstep⟩

/-- What comes to the sender has no part in what it sends. -/
theorem Carries.hear (h : Carries i j messages a b) (bytes : List UInt8) :
    Carries i j messages (a.hear bytes) b :=
  ⟨h.sends, h.posted, h.receives⟩

omit [SizeT] in
/-- What the socket took is on its way, and the rest is as it was, with the message that is new. -/
theorem unsent_after {sent sent' : List UInt8} {posted new : List (List UInt8)}
    (hsent : sent <+: posted.flatten) (hmore : sent <+: sent')
    (hsent' : sent' <+: (posted ++ new).flatten) :
    sent'.drop sent.length ++ (posted ++ new).flatten.drop sent'.length =
      posted.flatten.drop sent.length ++ new.flatten := by
  obtain ⟨rest, hrest⟩ := hsent'
  have hwhole : (posted ++ new).flatten.drop sent.length =
      posted.flatten.drop sent.length ++ new.flatten := by
    rw [List.flatten_append, List.drop_append_of_le_length hsent.length_le]
  rw [← hwhole, ← hrest, List.drop_left, List.drop_append_of_le_length hmore.length_le]

omit [SizeT] in
/-- Bytes that are framed are those of messages. -/
theorem wireMessages_of_framed {posted : List (List UInt8)}
    (h : ∀ bytes ∈ posted, ∃ m : WireMessage, m.bytes = bytes) :
    ∃ messages : List WireMessage, messages.map WireMessage.bytes = posted := by
  have hrange : posted ∈ Set.range (List.map WireMessage.bytes) := by
    rw [Set.range_list_map]
    exact h
  exact hrange

/-- The sender takes a step. -/
theorem Carries.sender (h : Carries i j messages a b) (call : NodeCall) :
    ∃ new, Carries i j (messages ++ new) (call.exchange i a).2
      (b.hear (a.newlySent i (call.exchange i a).2)) := by
  have hon := h.sends.step call
  have hafter := unsent_after h.sends.sends.sentUpTo.2 hon.sent hon.next.sends.sentUpTo.2
  -- What the node requested just now are messages on the wire.
  obtain ⟨new, hnew⟩ : ∃ new : List WireMessage, new.map WireMessage.bytes =
      (a.node.connection i).newlyPosted ((call.exchange i a).2.node.connection i) :=
    wireMessages_of_framed fun bytes hbytes =>
      hon.next.framed bytes (List.mem_append_right _ hbytes)
  refine ⟨new, hon.next, ?_, ?_⟩
  · rw [List.map_append, ← h.posted, hnew]
    rfl
  · have hincoming : b.incoming ++ a.newlySent i (call.exchange i a).2 ++
        (call.exchange i a).2.unsent i =
          b.incoming ++ a.unsent i ++ (new.map WireMessage.bytes).flatten := by
      rw [List.append_assoc, List.append_assoc, hnew]
      exact congrArg (b.incoming ++ ·) hafter
    have hreceives := h.receives.extend new
    dsimp only at hreceives
    rw [← hincoming] at hreceives
    exact hreceives

/-! ## Both directions -/

/-- Two nodes and what is on its way to each. -/
structure NodePair where
  left : NodeExchange
  right : NodeExchange

/-- A call of either node. -/
inductive PairCall
  | left (call : NodeCall)
  | right (call : NodeCall)

/-- Connection `i` of the left node is connection `j` of the right one. -/
def PairCall.step (i j : Nat) (p : NodePair) : PairCall → Result Unit × NodePair
  | .left call =>
      let left := (call.exchange i p.left).2
      (.ok (), { left, right := p.right.hear (p.left.newlySent i left) })
  | .right call =>
      let right := (call.exchange j p.right).2
      (.ok (), { left := p.left.hear (p.right.newlySent j right), right })

/-- No message that was posted is shorter than a whole header. -/
def LongMessages (p : NodePair) (_ : PairCall) : Prop :=
  ∀ bytes ∈ p.left.posted ++ p.right.posted, 64 ≤ bytes.length

/-- A message that a node reports is the next one that the other was asked to send. -/
def ShowsPosted (i j : Nat) (p : NodePair) : PairCall → Prop
  | .left (.event now) => (p.left.node.nextEvent now).1.connection = i →
      (p.left.node.nextEvent now).1.eventType = .messageReceived →
        (p.left.node.connection i).exposed = p.right.posted[p.left.taken.length]? ∧
          (p.left.node.connection i).exposed.isSome = true
  | .right (.event now) => (p.right.node.nextEvent now).1.connection = j →
      (p.right.node.nextEvent now).1.eventType = .messageReceived →
        (p.right.node.connection j).exposed = p.left.posted[p.right.taken.length]? ∧
          (p.right.node.connection j).exposed.isSome = true
  | _ => True

/-- Both directions. -/
structure Exchanges (i j : Nat) (p : NodePair) : Prop where
  rightward : ∃ messages, Carries i j messages p.left p.right
  leftward : ∃ messages, Carries j i messages p.right p.left

variable {p : NodePair}

/-- The messages of one direction are long where all are. -/
theorem Carries.long (h : Carries i j messages a b) (hlong : ∀ bytes ∈ a.posted, 64 ≤ bytes.length) :
    ∀ m ∈ messages, 64 ≤ m.bytes.length := by
  intro m hm
  refine hlong m.bytes ?_
  rw [h.posted]
  exact List.mem_map_of_mem hm

/-- One step of a run. -/
theorem Exchanges.step (h : Exchanges i j p) {call : PairCall} (hlong : LongMessages p call) :
    Exchanges i j (call.step i j p).2 := by
  obtain ⟨⟨there, hthere⟩, back, hback⟩ := h
  have hboth := List.forall_mem_append.mp hlong
  cases call with
  | left call =>
      obtain ⟨new, hnew⟩ := hthere.sender call
      exact ⟨⟨_, hnew⟩, back, (hback.receiver (hback.long hboth.2) call).hear _⟩
  | right call =>
      obtain ⟨new, hnew⟩ := hback.sender call
      exact ⟨⟨there, (hthere.receiver (hthere.long hboth.1) call).hear _⟩, _, hnew⟩

theorem Carries.showsNext (h : Carries i j messages a b) (now : Int64)
    (hown : (b.node.nextEvent now).1.connection = j)
    (htype : (b.node.nextEvent now).1.eventType = .messageReceived) :
    (b.node.connection j).exposed = a.posted[b.taken.length]? ∧
      (b.node.connection j).exposed.isSome = true := by
  rw [h.posted]
  exact h.receives.showsNext (.event now) hown htype

theorem Exchanges.showsPosted (h : Exchanges i j p) (call : PairCall) :
    ShowsPosted i j p call := by
  obtain ⟨⟨there, hthere⟩, back, hback⟩ := h
  cases call with
  | left call =>
      cases call with
      | event now => exact hback.showsNext now
      | _ => trivial
  | right call =>
      cases call with
      | event now => exact hthere.showsNext now
      | _ => trivial

/-- Two nodes past the handshake of a plain connection, on which neither sent anything. -/
structure FreshPair (i j : Nat) (p : NodePair) : Prop where
  leftReceiver : FreshNodeReceiver i [] p.left.toNodeReceiver
  leftSender : FreshNodeSender i p.left
  rightReceiver : FreshNodeReceiver j [] p.right.toNodeReceiver
  rightSender : FreshNodeSender j p.right

/-- Where nothing was posted, nothing is unsent. -/
theorem carries_of_fresh (hsender : FreshNodeSender i a)
    (hreceiver : FreshNodeReceiver j [] b.toNodeReceiver) : Carries i j [] a b := by
  refine ⟨hsender.sendsInOrder, hsender.nothingPosted, ?_⟩
  have hnothing : a.unsent i = [] := by
    rw [NodeExchange.unsent, hsender.nothingPosted, List.flatten_nil, List.drop_nil]
  rw [hnothing, List.append_nil]
  exact hreceiver.receives

theorem FreshPair.exchanges (h : FreshPair i j p) : Exchanges i j p :=
  ⟨⟨[], carries_of_fresh h.leftSender h.rightReceiver⟩, [],
    carries_of_fresh h.rightSender h.leftReceiver⟩

/-- Whatever the two nodes do, and however their sockets fail: the messages that each gives back are
the first ones that the other was asked to send, whole and in order, an event reports the next of
them, and neither receive buffer is left. -/
theorem nodes_exchange_in_order {calls : List PairCall} (h : FreshPair i j p)
    (hlong : EveryCall (PairCall.step i j) LongMessages p calls) :
    let p' := final (PairCall.step i j) p calls
    p'.right.taken ++ (p'.right.node.connection j).exposed.toList <+: p'.left.posted ∧
      p'.left.taken ++ (p'.left.node.connection i).exposed.toList <+: p'.right.posted ∧
      (p'.right.node.connection j).recvBufferPos ≤ (p'.right.node.connection j).recvBufferLen ∧
      (p'.left.node.connection i).recvBufferPos ≤ (p'.left.node.connection i).recvBufferLen ∧
      EveryCall (PairCall.step i j) (ShowsPosted i j) p calls := by
  obtain ⟨⟨⟨there, hthere⟩, back, hback⟩, hshows⟩ := EveryCall.invariant (I := Exchanges i j)
    (fun p call hp hlong => hp.step hlong) (fun p call hp _ => hp.showsPosted call) h.exchanges hlong
  refine ⟨?_, ?_, hthere.receives.pos_le, hback.receives.pos_le, hshows⟩
  · rw [hthere.posted]
    exact hthere.receives.shown
  · rw [hback.posted]
    exact hback.receives.shown

end

section

open Lp64

/-- The client at the other end, whose socket is connected. -/
def freshClientExchange : NodeExchange where
  node := Node.init .any [] [0] fun _ =>
    { connectionConstruct (List.replicate 256 0) (List.replicate 1025 0) with
      transportType := TCP_TRANSPORT
      connectionState := STATUS_FLAGS_CONNECTED ||| STATUS_FLAGS_RECEIVE_REQUESTED |||
        STATUS_FLAGS_CLIENT_SOCKET_CONNECTED }
  incoming := []
  taken := []
  posted := []

theorem freshPair_fresh : FreshPair 0 0 ⟨freshExchange, freshClientExchange⟩ where
  leftReceiver := ⟨⟨rfl, rfl, rfl, rfl, rfl, Nat.zero_le _, by decide +kernel⟩, by decide,
    by decide +kernel, ⟨fun _ => rfl, Or.inl rfl⟩, List.forall_mem_nil _, rfl⟩
  leftSender := freshExchange_fresh
  rightReceiver := ⟨⟨rfl, rfl, rfl, rfl, rfl, Nat.zero_le _, by decide +kernel⟩, by decide,
    by decide +kernel, ⟨fun hs => absurd hs Bool.false_ne_true, Or.inr rfl⟩,
    List.forall_mem_nil _, rfl⟩
  rightSender := ⟨rfl, ⟨fun hs => absurd hs Bool.false_ne_true, Or.inr rfl⟩, rfl, rfl, rfl, rfl⟩

/-- Each node sends a message. The one to the right comes in two pieces and is reported, and of the
other one the socket took thirty bytes when it failed. -/
def oneMessageEach : List PairCall :=
  [.left (.app (.send 0 emptyEntryHeader [])), .right (.app (.send 0 emptyEntryHeader [])),
    .left (.communicateSend [.ready 999] 0), .right (.communicateRecv 40 [.ready 999] 1),
    .right (.communicateRecv 46 [.ready 999] 2), .right (.event 3), .right (.event 3),
    .right (.event 3), .right (.communicateSend [.ready 29, .failed] 4),
    .left (.communicateRecv 99 [.ready 99] 5)]

instance (p : NodePair) (call : PairCall) : Decidable (LongMessages p call) :=
  inferInstanceAs (Decidable (∀ bytes ∈ p.left.posted ++ p.right.posted, 64 ≤ bytes.length))

theorem oneMessageEach_inOrder :
    let p' := final (PairCall.step 0 0) ⟨freshExchange, freshClientExchange⟩ oneMessageEach
    p'.right.taken ++ (p'.right.node.connection 0).exposed.toList <+: p'.left.posted ∧
      p'.left.taken ++ (p'.left.node.connection 0).exposed.toList <+: p'.right.posted ∧
      (p'.right.node.connection 0).recvBufferPos ≤ (p'.right.node.connection 0).recvBufferLen ∧
      (p'.left.node.connection 0).recvBufferPos ≤ (p'.left.node.connection 0).recvBufferLen ∧
      EveryCall (PairCall.step 0 0) (ShowsPosted 0 0) ⟨freshExchange, freshClientExchange⟩
        oneMessageEach :=
  nodes_exchange_in_order freshPair_fresh (by decide +kernel)

example : ((final (PairCall.step 0 0) ⟨freshExchange, freshClientExchange⟩
    oneMessageEach).right.node.connection 0).exposed.toList =
      (final (PairCall.step 0 0) ⟨freshExchange, freshClientExchange⟩ oneMessageEach).left.posted := by
  decide +kernel

end

end RobotRaconteurLite

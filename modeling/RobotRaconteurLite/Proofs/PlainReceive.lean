import RobotRaconteurLite.Lib.CallSequence
import RobotRaconteurLite.Proofs.Sockets

/-!
# Receiving on a plain connection

A run is a sequence of `communicate_recv` calls, each with the bytes that have
arrived before it and with whatever the socket does during it, between calls by
which the application takes a message and gives it back. Of a run on a plain
connection, one without WebSocket frames, this file follows the position in the
receive buffer.

A receive asks for what is left of the buffer, except when the length of the
message is not known yet: then it asks for 64 bytes, however many there is room
for.
-/

namespace RobotRaconteurLite

open Splice CallSequence

/-! ## Runs -/

/-- One step of a run. -/
inductive ReceiveCall
  | communicateRecv (arrived : List UInt8) (plan : List IoOutcome) (now : Int64)
  | messageReceive
  | messageReceiveConsume

/-- What the peer and the system do before a call. -/
def Connection.arrive (c : Connection) (arrived : List UInt8) (plan : List IoOutcome) :
    Connection :=
  { c with sock := { c.sock with inbox := c.sock.inbox ++ arrived, recvPlan := plan } }

section

variable [SizeT]

/-- The application's reader over a received message is not part of the connection. -/
def ReceiveCall.step (c : Connection) : ReceiveCall → Result Unit × Connection
  | .communicateRecv arrived plan now =>
      tcpConnectionCommunicateRecv (c.arrive arrived plan) now
  | .messageReceive =>
      ((connectionMessageReceive c ⟨⟨[], modulus_pos⟩, 0, 0, 0⟩).map fun _ => (), c)
  | .messageReceiveConsume => connectionMessageReceiveConsume c

/-- A connection whose bytes are not in WebSocket frames. -/
def Connection.Plain (c : Connection) : Prop :=
  c.transportStorage.checkState TCP_TRANSPORT_STATE_IS_WEBSOCKET = false

/-- `communicate_recv` on a plain connection, in its three parts. -/
theorem tcpConnectionCommunicateRecv_plain {c : Connection} (now : Int64) (hplain : c.Plain)
    (herror : c.checkState STATUS_FLAGS_ERROR = false) :
    tcpConnectionCommunicateRecv c now =
      if connectionRecvOpLen (connectionCompact c) = 0 then (.ok (), connectionCompact c)
      else
        connectionImplCommunicateRecv2
          (tcpConnectionRecv (connectionCompact c)
            (connectionRecvOpLen (connectionCompact c))).2 now
          (tcpConnectionRecv (connectionCompact c)
            (connectionRecvOpLen (connectionCompact c))).1 := by
  have hcompact : (connectionCompact c).transportStorage = c.transportStorage := by
    unfold connectionCompact
    split <;> rfl
  unfold tcpConnectionCommunicateRecv connectionImplCommunicateRecv1
  rw [herror, if_neg Bool.false_ne_true]
  dsimp only
  rw [tcpConnectionBufferRecv, hcompact, show c.transportStorage.checkState _ = false from hplain]
  rfl

theorem tcpConnectionCommunicateRecv_error {c : Connection} (now : Int64)
    (herror : c.checkState STATUS_FLAGS_ERROR = true) :
    tcpConnectionCommunicateRecv c now = (.error .connectionError, c) := by
  unfold tcpConnectionCommunicateRecv connectionImplCommunicateRecv1
  rw [herror, if_pos rfl]

/-! ## The bound on the position -/

/-- The position is inside the receive buffer, and a message the application can
take lies in front of it. -/
structure ReceiveBounded (c : Connection) : Prop where
  plain : c.Plain
  pos_le : c.recvBufferPos ≤ c.recvBufferLen
  len_lt : c.recvBufferLen < SizeT.modulus
  received : c.checkState STATUS_FLAGS_MESSAGE_RECEIVED = true →
    0 < c.recvMessageLen ∧ c.recvMessageLen.toNat ≤ c.recvBufferPos
  consumed : c.checkState STATUS_FLAGS_MESSAGE_CONSUMED = true →
    c.checkState STATUS_FLAGS_MESSAGE_RECEIVED = true

theorem ReceiveBounded.failReceive {c : Connection} (h : ReceiveBounded c) :
    ReceiveBounded c.failReceive where
  plain := h.plain
  pos_le := h.pos_le
  len_lt := h.len_lt
  received hr := by
    rw [Connection.failReceive, Connection.checkState_clearState (by decide),
      Connection.checkState_setState (by decide)] at hr
    exact h.received hr
  consumed hc := by
    rw [Connection.failReceive, Connection.checkState_clearState (by decide),
      Connection.checkState_setState (by decide)] at hc ⊢
    exact h.consumed hc

/-- The length of the next message may be learned while no message is there. -/
theorem ReceiveBounded.withMessageLen {c : Connection} (h : ReceiveBounded c)
    (hlen : c.recvMessageLen = 0) (len : UInt32) :
    ReceiveBounded { c with recvMessageLen := len } where
  plain := h.plain
  pos_le := h.pos_le
  len_lt := h.len_lt
  received hr := by
    have := (h.received hr).1
    rw [hlen] at this
    exact absurd this (by decide)
  consumed hc := h.consumed hc

theorem ReceiveBounded.verifyPreamble {c : Connection} (h : ReceiveBounded c) :
    ReceiveBounded (connectionVerifyPreamble c).2 := by
  unfold connectionVerifyPreamble
  split
  · next hnew =>
      split
      · exact h.failReceive
      · dsimp only
        split
        · exact (h.withMessageLen hnew.2 _).failReceive
        · exact h.withMessageLen hnew.2 _
  · exact h

theorem ReceiveBounded.recv2 {c : Connection} (h : ReceiveBounded c) (now : Int64)
    (rv : Result Unit) : ReceiveBounded (connectionImplCommunicateRecv2 c now rv).2 := by
  have hverify := h.verifyPreamble
  unfold connectionImplCommunicateRecv2
  split
  · exact h.failReceive
  · split
    · next hv =>
        rw [hv] at hverify
        exact hverify.failReceive
    · next c' hv =>
        rw [hv] at hverify
        dsimp only
        split
        · next hthere =>
            exact {
              plain := hverify.plain
              pos_le := hverify.pos_le
              len_lt := hverify.len_lt
              received := fun _ => hthere
              consumed := fun _ => Connection.checkState_setState_of_overlap (by decide) }
        · exact hverify

theorem ReceiveBounded.compact {c : Connection} (h : ReceiveBounded c) :
    ReceiveBounded (connectionCompact c) := by
  unfold connectionCompact
  split
  · next hc =>
      obtain ⟨-, hle⟩ := h.received (h.consumed hc)
      have hpos := h.pos_le
      have hlt := h.len_lt
      dsimp only
      refine ⟨h.plain, ?_, hlt, ?_, ?_⟩
      · change subSz c.recvBufferPos c.recvMessageLen.toNat ≤ c.recvBufferLen
        rw [subSz_eq hle (by omega)]
        omega
      · intro hr
        rw [Connection.checkState_setState (by decide),
          Connection.checkState_clearState_of_subset (by decide)] at hr
        cases hr
      · intro hc'
        rw [Connection.checkState_setState (by decide),
          Connection.checkState_clearState_of_subset (by decide)] at hc'
        cases hc'
  · exact h

theorem ReceiveBounded.arrive {c : Connection} (h : ReceiveBounded c) (arrived : List UInt8)
    (plan : List IoOutcome) : ReceiveBounded (c.arrive arrived plan) :=
  ⟨h.plain, h.pos_le, h.len_lt, h.received, h.consumed⟩

/-- A connection that no message came in on yet. -/
theorem ReceiveBounded.of_fresh {c : Connection} (hplain : c.Plain)
    (hr : c.checkState STATUS_FLAGS_MESSAGE_RECEIVED = false)
    (hc : c.checkState STATUS_FLAGS_MESSAGE_CONSUMED = false)
    (hpos : c.recvBufferPos ≤ c.recvBufferLen) (hlen : c.recvBufferLen < SizeT.modulus) :
    ReceiveBounded c where
  plain := hplain
  pos_le := hpos
  len_lt := hlen
  received h := by
    rw [hr] at h
    cases h
  consumed h := by
    rw [hc] at h
    cases h

/-- The receive a step issues ends inside the receive buffer, if it issues one. -/
def ReceiveInBounds (c : Connection) : ReceiveCall → Prop
  | .communicateRecv _ _ _ => ∀ want c', connectionImplCommunicateRecv1 c = (.ok want, c') →
      c'.recvBufferPos + want ≤ c'.recvBufferLen
  | _ => True

/-- The next `communicate_recv` looks for the length of a message. -/
def Connection.AwaitsPreamble (c : Connection) : Prop :=
  c.checkState STATUS_FLAGS_ERROR = false ∧
    (c.checkState STATUS_FLAGS_MESSAGE_CONSUMED = true ∨
      c.checkState STATUS_FLAGS_RECEIVE_REQUESTED = true ∧ c.recvMessageLen = 0)

/-- What of the buffer is in use once a consumed message is out of it. -/
def Connection.keptBytes (c : Connection) : Nat :=
  if c.checkState STATUS_FLAGS_MESSAGE_CONSUMED then
    c.recvBufferPos - c.recvMessageLen.toNat
  else c.recvBufferPos

/-- A call that looks for a length finds room for 64 bytes. -/
def RoomForPreamble (c : Connection) : ReceiveCall → Prop
  | .communicateRecv _ _ _ => c.AwaitsPreamble → c.keptBytes + 64 ≤ c.recvBufferLen
  | _ => True

theorem ReceiveBounded.compact_pos {c : Connection} (h : ReceiveBounded c) :
    (connectionCompact c).recvBufferPos = c.keptBytes ∧
      (connectionCompact c).recvBufferLen = c.recvBufferLen := by
  unfold connectionCompact Connection.keptBytes
  split
  · next hc =>
      obtain ⟨-, hle⟩ := h.received (h.consumed hc)
      have hpos := h.pos_le
      have hlt := h.len_lt
      exact ⟨subSz_eq hle (by omega), rfl⟩
  · exact ⟨rfl, rfl⟩

/-- How much `communicate_recv` asks for, told from the state before it. -/
theorem ReceiveBounded.recvOpLen {c : Connection} (h : ReceiveBounded c)
    (herror : c.checkState STATUS_FLAGS_ERROR = false) :
    c.AwaitsPreamble ∧ connectionRecvOpLen (connectionCompact c) = 64 ∨
      ¬ c.AwaitsPreamble ∧
        connectionRecvOpLen (connectionCompact c) ≤ c.recvBufferLen - c.keptBytes := by
  have hpos := h.pos_le
  have hlt := h.len_lt
  by_cases hc : c.checkState STATUS_FLAGS_MESSAGE_CONSUMED = true
  · left
    refine ⟨⟨herror, Or.inl hc⟩, ?_⟩
    unfold connectionCompact connectionRecvOpLen
    rw [if_pos hc]
    dsimp only
    rw [if_pos (Connection.checkState_setState_of_overlap (by decide))]
    exact if_pos rfl
  · have hcompact : connectionCompact c = c := by
      rw [connectionCompact, if_neg hc]
    have hkept : c.keptBytes = c.recvBufferPos := by
      rw [Connection.keptBytes, if_neg hc]
    rw [hcompact, hkept]
    unfold connectionRecvOpLen
    by_cases hr : c.checkState STATUS_FLAGS_RECEIVE_REQUESTED = true
    · rw [if_pos hr]
      by_cases hlen : c.recvMessageLen = 0
      · rw [if_pos hlen]
        exact Or.inl ⟨⟨herror, Or.inr ⟨hr, hlen⟩⟩, rfl⟩
      · rw [if_neg hlen, subSz_eq hpos hlt]
        refine Or.inr ⟨?_, Nat.le_refl _⟩
        rintro ⟨-, h' | h'⟩
        · exact hc h'
        · exact hlen h'.2
    · rw [if_neg hr]
      refine Or.inr ⟨?_, Nat.zero_le _⟩
      rintro ⟨-, h' | h'⟩
      · exact hc h'
      · exact hr h'.1

theorem ReceiveBounded.receiveInBounds_iff {c : Connection} (h : ReceiveBounded c)
    (call : ReceiveCall) : ReceiveInBounds c call ↔ RoomForPreamble c call := by
  cases call with
  | messageReceive => rfl
  | messageReceiveConsume => rfl
  | communicateRecv arrived plan now =>
      obtain ⟨hpos, hlen⟩ := h.compact_pos
      have hkept : c.keptBytes ≤ c.recvBufferLen := by
        rw [← hpos, ← hlen]
        exact h.compact.pos_le
      unfold ReceiveInBounds RoomForPreamble connectionImplCommunicateRecv1
      cases herror : c.checkState STATUS_FLAGS_ERROR with
      | true =>
          refine iff_of_true (fun want c' hw => nomatch hw) fun hawait => ?_
          rw [hawait.1] at herror
          cases herror
      | false =>
          have hasked := h.recvOpLen herror
          constructor
          · intro hin hawait
            have hbound := hin _ _ rfl
            obtain ⟨-, h64⟩ | ⟨hnot, -⟩ := hasked
            · rw [hpos, hlen, h64] at hbound
              exact hbound
            · exact absurd hawait hnot
          · intro hroom want c' hw
            obtain ⟨hwant, rfl⟩ := Prod.mk.inj hw
            obtain rfl := Except.ok.inj hwant
            rw [hpos, hlen]
            obtain ⟨hawait, h64⟩ | ⟨-, hle⟩ := hasked
            · rw [h64]
              exact hroom hawait
            · omega

/-- A step with room keeps the bound. -/
theorem ReceiveBounded.step {c : Connection} (h : ReceiveBounded c) {call : ReceiveCall}
    (hroom : RoomForPreamble c call) : ReceiveBounded (call.step c).2 := by
  cases call with
  | messageReceive => exact h
  | messageReceiveConsume =>
      unfold ReceiveCall.step connectionMessageReceiveConsume
      dsimp only
      split
      · exact h
      · next hr =>
          have hr' : c.checkState STATUS_FLAGS_MESSAGE_RECEIVED = true := by simpa using hr
          exact {
            plain := h.plain
            pos_le := h.pos_le
            len_lt := h.len_lt
            received := fun _ => h.received hr'
            consumed := fun _ => (Connection.checkState_setState (by decide)).trans hr' }
  | communicateRecv arrived plan now =>
      have harrive := h.arrive arrived plan
      have hin := (harrive.receiveInBounds_iff (.communicateRecv arrived plan now)).mpr hroom
      unfold ReceiveCall.step
      dsimp only
      cases herror : (c.arrive arrived plan).checkState STATUS_FLAGS_ERROR with
      | true =>
          rw [tcpConnectionCommunicateRecv_error now herror]
          exact harrive
      | false =>
          have hcompact := harrive.compact
          rw [tcpConnectionCommunicateRecv_plain now harrive.plain herror]
          split
          · exact hcompact
          · have hbound : (connectionCompact (c.arrive arrived plan)).recvBufferPos +
                connectionRecvOpLen (connectionCompact (c.arrive arrived plan)) ≤
                (connectionCompact (c.arrive arrived plan)).recvBufferLen := by
              refine hin _ _ ?_
              rw [connectionImplCommunicateRecv1, herror, if_neg Bool.false_ne_true]
            refine ReceiveBounded.recv2 ?_ now _
            obtain ⟨sock, hspec, heq⟩ := tcpConnectionRecv_spec
              (connectionCompact (c.arrive arrived plan))
              (connectionRecvOpLen (connectionCompact (c.arrive arrived plan)))
            have hk := ioMoved_le (connectionCompact (c.arrive arrived plan)).sock.recvPlan
              (connectionRecvOpLen (connectionCompact (c.arrive arrived plan)))
              (connectionCompact (c.arrive arrived plan)).sock.inbox.length
            have hmoved := hspec.pos_eq
            dsimp only at hmoved
            rw [heq]
            refine ⟨hcompact.plain, ?_, hcompact.len_lt, ?_, hcompact.consumed⟩
            · dsimp only
              omega
            · intro hr
              obtain ⟨hnew, hle⟩ := hcompact.received hr
              refine ⟨hnew, ?_⟩
              dsimp only
              omega

/-- On a plain connection no receive reaches past the end of the receive buffer
exactly as long as every call that looks for the length of a message finds room for
64 bytes. -/
theorem receive_bounded_iff {c : Connection} (h : ReceiveBounded c) (cs : List ReceiveCall) :
    (EveryCall ReceiveCall.step
        (fun c call => c.recvBufferPos ≤ c.recvBufferLen ∧ ReceiveInBounds c call) c cs ∧
      (final ReceiveCall.step c cs).recvBufferPos ≤
        (final ReceiveCall.step c cs).recvBufferLen) ↔
    EveryCall ReceiveCall.step RoomForPreamble c cs := by
  constructor
  · rintro ⟨hevery, -⟩
    refine (EveryCall.invariant (I := ReceiveBounded) ?_ ?_ h hevery).2
    · exact fun c call hb hin => hb.step ((hb.receiveInBounds_iff call).mp hin.2)
    · exact fun c call hb hin => (hb.receiveInBounds_iff call).mp hin.2
  · intro hroom
    have hcall : ∀ c call, ReceiveBounded c → RoomForPreamble c call →
        c.recvBufferPos ≤ c.recvBufferLen ∧ ReceiveInBounds c call :=
      fun c call hb hr => ⟨hb.pos_le, (hb.receiveInBounds_iff call).mpr hr⟩
    obtain ⟨hfinal, hevery⟩ := EveryCall.invariant (I := ReceiveBounded)
      (fun c call hb hr => hb.step hr) hcall h hroom
    exact ⟨hevery, hfinal.pos_le⟩

end

section

open Lp64

/-- A plain connection that was just accepted and has a receive buffer of 1025 bytes. -/
def plainConnection : Connection :=
  { connectionConstruct [] (List.replicate 1025 0) with
    transportType := TCP_TRANSPORT
    connectionState := STATUS_FLAGS_CONNECTED ||| STATUS_FLAGS_RECEIVE_REQUESTED }

theorem plainConnection_bounded : ReceiveBounded plainConnection :=
  ReceiveBounded.of_fresh rfl rfl rfl (Nat.zero_le _) (by decide +kernel)

/-- Sixty-four bytes arrive that start with `start`. -/
def receive64 (start : List UInt8) : ReceiveCall :=
  .communicateRecv (start ++ List.replicate (64 - start.length) 0) [.ready 63] 0

/-- A preamble whose length field is zero never becomes a message, and the
seventeenth receive stores past the end of the buffer. -/
theorem plainConnection_overrun :
    ReceiveBounded plainConnection ∧ plainConnection.recvBufferLen = 1025 ∧
      (final ReceiveCall.step plainConnection
        (receive64 (rracMagic ++ [0, 0, 0, 0, 2, 0]) ::
          List.replicate 16 (receive64 []))).recvBufferPos = 1088 :=
  ⟨plainConnection_bounded, List.length_replicate, by decide +kernel⟩

/-- A message of 64 bytes is received and given back, and another one follows it. -/
def givenBackThenNext : List ReceiveCall :=
  [receive64 (rracMagic ++ [64, 0, 0, 0, 2, 0]), .messageReceive, .messageReceiveConsume,
    receive64 (rracMagic ++ [64, 0, 0, 0, 2, 0]), .messageReceive, .messageReceiveConsume]

theorem plainConnection_next_message :
    EveryCall ReceiveCall.step
        (fun c call => c.recvBufferPos ≤ c.recvBufferLen ∧ ReceiveInBounds c call)
        plainConnection givenBackThenNext ∧
      (final ReceiveCall.step plainConnection givenBackThenNext).recvBufferPos ≤
        (final ReceiveCall.step plainConnection givenBackThenNext).recvBufferLen :=
  (receive_bounded_iff plainConnection_bounded givenBackThenNext).mpr
    ⟨fun _ => by decide +kernel, trivial, trivial, fun _ => by decide +kernel, trivial, trivial,
      trivial⟩

/-- Each of the two is taken and given back. -/
example : EveryCall ReceiveCall.step (fun c call => (call.step c).1 = .ok ()) plainConnection
    givenBackThenNext := by
  decide +kernel

end

end RobotRaconteurLite

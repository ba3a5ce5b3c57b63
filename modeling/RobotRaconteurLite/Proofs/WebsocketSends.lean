import RobotRaconteurLite.Lib.WebSocketFrame
import RobotRaconteurLite.Proofs.Sending

/-!
# Sending a message in WebSocket frames

What a connection still owes its socket is known from its state: the rest of the
header and of the payload of an open frame, and then the frames of what is left of
the message (`Owes`). A send moves bytes from what is owed to what was sent and
loses none, wherever the socket stops.

So the bytes of a whole message are the frames that `websocketStream` lists. A frame
takes at most 65535 bytes, but its header declares all that is left of the message,
modulo `2 ^ 16`. A message that needs one frame only is framed well, and no other
(`sendsFrames_iff`).
-/

namespace RobotRaconteurLite

open Splice LittleEndian WebSocket

theorem websocketMask_eq (key : List UInt8) (pos : Nat) (bs : List UInt8) :
    websocketMask key pos bs = mask key pos bs := by
  induction bs generalizing pos with
  | nil => rfl
  | cons b bs ih => rw [websocketMask, mask, ih]

theorem beBytes16_eq (n : Nat) : beBytes16 (UInt16.ofNat n) = (leBytes 2 n).reverse := by
  have hlow : (UInt16.ofNat n).toUInt8 = UInt8.ofNat n := by
    apply UInt8.toNat_inj.mp
    simp only [UInt16.toNat_toUInt8, UInt16.toNat_ofNat', UInt8.toNat_ofNat']
    omega
  have hhigh : (UInt16.ofNat n >>> 8).toUInt8 = UInt8.ofNat (n / 256) := by
    apply UInt8.toNat_inj.mp
    simp only [UInt16.toNat_toUInt8, UInt16.toNat_shiftRight, UInt16.toNat_ofNat',
      UInt8.toNat_ofNat', Nat.shiftRight_eq_div_pow]
    rw [show (UInt16.toNat 8 % 16) = 8 from rfl]
    omega
  rw [beBytes16, hlow, hhigh]
  rfl

/-! ## The frames of a message -/

/-- The key of a client's frame. A server has none. -/
def frameKey (server : Bool) (keys : List UInt32) : Option (List UInt8) :=
  if server then none else some (tcpWebsocketRandomMask (keys.headD 0))

/-- The header that is sent before a frame when so many bytes of the message are left. -/
def websocketHeader (key : Option (List UInt8)) (len : Nat) : List UInt8 :=
  (if len > 125 then [0x82, 126 ||| if key.isSome then 0x80 else 0] ++ beBytes16 (UInt16.ofNat len)
    else [0x82, UInt8.ofNat len ||| if key.isSome then 0x80 else 0]) ++ key.getD []

/-- The payload that is sent in a frame. -/
def websocketBody (key : Option (List UInt8)) (payload : List UInt8) : List UInt8 :=
  match key with
  | none => payload
  | some key => mask key 0 payload

/-- Everything that is sent for what is left of a message. -/
def websocketStream (server : Bool) (keys : List UInt32) (rest : List UInt8) : List UInt8 :=
  if _h : rest = [] then []
  else
    websocketHeader (frameKey server keys) rest.length ++
      websocketBody (frameKey server keys) (rest.take 65535) ++
      websocketStream server (if server then keys else keys.tail) (rest.drop 65535)
termination_by rest.length
decreasing_by
  rw [List.length_drop]
  have := List.length_pos_iff.mpr _h
  omega

theorem websocketStream_nil (server : Bool) (keys : List UInt32) :
    websocketStream server keys [] = [] := by
  rw [websocketStream, dif_pos rfl]

theorem websocketStream_cons {server : Bool} {keys : List UInt32} {rest : List UInt8}
    (h : rest ≠ []) :
    websocketStream server keys rest =
      websocketHeader (frameKey server keys) rest.length ++
        websocketBody (frameKey server keys) (rest.take 65535) ++
        websocketStream server (if server then keys else keys.tail) (rest.drop 65535) := by
  rw [websocketStream, dif_neg h]

/-! ## What is owed to the socket -/

/-- Between two frames, with `rest` of the message left. -/
structure BetweenFrames (server : Bool) (keys : List UInt32) (rest : List UInt8)
    (c : Connection) : Prop where
  websocket : c.transportStorage.checkState TCP_TRANSPORT_STATE_IS_WEBSOCKET = true
  side : flagsCheck c.configFlags CONFIG_FLAGS_ISSERVER = server
  keys_eq : c.randPlan = keys
  masked : c.transportStorage.checkState TCP_TRANSPORT_STATE_SEND_WEBSOCKET_ENABLE_MASK = false
  headerBuffer : c.transportStorage.sendWebsocketHeaderBuffer.length = 8
  frameLen : c.transportStorage.sendWebsocketFrameLen = 0
  headerPos : c.transportStorage.sendWebsocketHeaderPos = 0
  length_eq : c.sendBufferPos + rest.length = c.sendMessageLen.toNat
  rest_at : At c.sendBuffer c.sendBufferPos rest

/-- Inside a frame, with `rest` of the message left behind it. -/
structure InsideFrame (server : Bool) (keys : List UInt32) (rest : List UInt8)
    (c : Connection) : Prop where
  websocket : c.transportStorage.checkState TCP_TRANSPORT_STATE_IS_WEBSOCKET = true
  side : flagsCheck c.configFlags CONFIG_FLAGS_ISSERVER = server
  keys_eq : c.randPlan = keys
  headerBuffer : c.transportStorage.sendWebsocketHeaderBuffer.length = 8
  frameLen : 0 < c.transportStorage.sendWebsocketFrameLen
  frameEnd : c.transportStorage.sendWebsocketFrameBufferEnd =
    c.sendBufferPos + c.transportStorage.sendWebsocketFrameLen
  headerPos : c.transportStorage.sendWebsocketHeaderPos ≤
    c.transportStorage.sendWebsocketHeaderLen
  headerLen : c.transportStorage.sendWebsocketHeaderLen ≤ 8
  framePos : c.transportStorage.sendWebsocketFrameBufferPos <
    c.transportStorage.sendWebsocketFrameBufferEnd
  length_eq : c.transportStorage.sendWebsocketFrameBufferEnd + rest.length =
    c.sendMessageLen.toNat
  rest_at : At c.sendBuffer c.transportStorage.sendWebsocketFrameBufferEnd rest

/-- The rest of the frame's header and payload. -/
def Connection.frameOwed (c : Connection) : List UInt8 :=
  slice c.transportStorage.sendWebsocketHeaderBuffer c.transportStorage.sendWebsocketHeaderPos
      (c.transportStorage.sendWebsocketHeaderLen - c.transportStorage.sendWebsocketHeaderPos) ++
    slice c.sendBuffer c.transportStorage.sendWebsocketFrameBufferPos
      (c.transportStorage.sendWebsocketFrameBufferEnd -
        c.transportStorage.sendWebsocketFrameBufferPos)

theorem frameKey_isSome (server : Bool) (keys : List UInt32) :
    (frameKey server keys).isSome = !server := by
  cases server <;> rfl

theorem length_websocketBody (key : Option (List UInt8)) (payload : List UInt8) :
    (websocketBody key payload).length = payload.length := by
  cases key with
  | none => rfl
  | some key => exact length_mask payload

section

variable [SizeT] {server : Bool} {keys : List UInt32} {rest : List UInt8} {c : Connection}

/-! ## Preparing a frame -/

/-- What `buffer_send_websocket` prepares. -/
structure Prepared (c : Connection) (len : Nat) (key : Option (List UInt8)) (c' : Connection) :
    Prop where
  sock : c'.sock = c.sock
  connectionState : c'.connectionState = c.connectionState
  configFlags : c'.configFlags = c.configFlags
  sendBufferPos : c'.sendBufferPos = c.sendBufferPos
  sendMessageLen : c'.sendMessageLen = c.sendMessageLen
  websocket : c'.transportStorage.checkState TCP_TRANSPORT_STATE_IS_WEBSOCKET =
    c.transportStorage.checkState TCP_TRANSPORT_STATE_IS_WEBSOCKET
  randPlan : c'.randPlan = if key.isSome then c.randPlan.tail else c.randPlan
  headerPos : c'.transportStorage.sendWebsocketHeaderPos = c.transportStorage.sendWebsocketHeaderPos
  headerBuffer : c'.transportStorage.sendWebsocketHeaderBuffer.length = 8
  header : slice c'.transportStorage.sendWebsocketHeaderBuffer 0
    c'.transportStorage.sendWebsocketHeaderLen = websocketHeader key len
  headerLen : c'.transportStorage.sendWebsocketHeaderLen ≤ 8
  frameLen : c'.transportStorage.sendWebsocketFrameLen = min len 65535
  framePos : c'.transportStorage.sendWebsocketFrameBufferPos = c.sendBufferPos
  frameEnd : c'.transportStorage.sendWebsocketFrameBufferEnd =
    addSz (min len 65535) c.sendBufferPos
  sendBuffer : c'.sendBuffer = overwrite c.sendBuffer c.sendBufferPos
    (websocketBody key (slice c.sendBuffer c.sendBufferPos (min len 65535)))

theorem tcpConnectionPrepareFrame_spec {c : Connection} (len : Nat)
    (hmasked : c.transportStorage.checkState
      TCP_TRANSPORT_STATE_SEND_WEBSOCKET_ENABLE_MASK = false)
    (h8 : c.transportStorage.sendWebsocketHeaderBuffer.length = 8) :
    Prepared c len (frameKey (flagsCheck c.configFlags CONFIG_FLAGS_ISSERVER) c.randPlan)
      (tcpConnectionPrepareFrame c len) := by
  obtain ⟨b0, b1, b2, b3, b4, b5, b6, b7, hbuffer⟩ : ∃ b0 b1 b2 b3 b4 b5 b6 b7,
      c.transportStorage.sendWebsocketHeaderBuffer = [b0, b1, b2, b3, b4, b5, b6, b7] := by
    match hbuffer : c.transportStorage.sendWebsocketHeaderBuffer, h8 with
    | [b0, b1, b2, b3, b4, b5, b6, b7], _ => exact ⟨b0, b1, b2, b3, b4, b5, b6, b7, rfl⟩
  have hmin : (if len ≥ 65535 then 65535 else len) = min len 65535 := by
    split <;> omega
  have hset : flagsCheck
      (flagsSet c.transportStorage.tcpTransportState TCP_TRANSPORT_STATE_SEND_WEBSOCKET_ENABLE_MASK)
      TCP_TRANSPORT_STATE_SEND_WEBSOCKET_ENABLE_MASK = true :=
    flagsCheck_set_of_overlap (by decide)
  have hwebsocket : flagsCheck
      (flagsSet c.transportStorage.tcpTransportState TCP_TRANSPORT_STATE_SEND_WEBSOCKET_ENABLE_MASK)
      TCP_TRANSPORT_STATE_IS_WEBSOCKET =
      flagsCheck c.transportStorage.tcpTransportState TCP_TRANSPORT_STATE_IS_WEBSOCKET :=
    flagsCheck_set_of_disjoint (by decide)
  rw [TcpTransportStorage.checkState] at hmasked
  cases hside : flagsCheck c.configFlags CONFIG_FLAGS_ISSERVER with
  | true =>
      by_cases hlong : len > 125
      · simp only [tcpConnectionPrepareFrame, hside, if_true, if_pos hlong, hbuffer,
          TcpTransportStorage.checkState, hmasked, Bool.false_eq_true, if_false, hmin, frameKey]
        refine ⟨rfl, rfl, rfl, rfl, rfl, rfl, rfl, rfl, rfl, ?_, Nat.le_of_ble_eq_true rfl, rfl,
          rfl, rfl, (overwrite_slice _ _ _).symm⟩
        rw [websocketHeader, if_pos hlong]
        rfl
      · simp only [tcpConnectionPrepareFrame, hside, if_true, if_neg hlong, hbuffer,
          TcpTransportStorage.checkState, hmasked, Bool.false_eq_true, if_false, hmin, frameKey]
        refine ⟨rfl, rfl, rfl, rfl, rfl, rfl, rfl, rfl, rfl, ?_, Nat.le_of_ble_eq_true rfl, rfl,
          rfl, rfl, (overwrite_slice _ _ _).symm⟩
        rw [websocketHeader, if_neg hlong, Option.isSome_none, if_neg Bool.false_ne_true,
          UInt8.or_zero]
        rfl
  | false =>
      by_cases hlong : len > 125
      · simp only [tcpConnectionPrepareFrame, hside, if_pos hlong, hbuffer,
          TcpTransportStorage.checkState, TcpTransportStorage.setState, Bool.false_eq_true,
          if_false, hmin, frameKey, hset, if_true, websocketMask_eq]
        refine ⟨rfl, rfl, rfl, rfl, rfl, hwebsocket, rfl, rfl, rfl, ?_, Nat.le_of_ble_eq_true rfl,
          rfl, rfl, rfl, rfl⟩
        rw [websocketHeader, if_pos hlong]
        rfl
      · simp only [tcpConnectionPrepareFrame, hside, if_neg hlong, hbuffer,
          TcpTransportStorage.checkState, TcpTransportStorage.setState, Bool.false_eq_true,
          if_false, hmin, frameKey, hset, if_true, websocketMask_eq]
        refine ⟨rfl, rfl, rfl, rfl, rfl, hwebsocket, rfl, rfl, rfl, ?_, Nat.le_of_ble_eq_true rfl,
          rfl, rfl, rfl, rfl⟩
        rw [websocketHeader, if_neg hlong]
        rfl

theorem BetweenFrames.prepare (h : BetweenFrames server keys rest c) (hrest : rest ≠ []) :
    InsideFrame server (if server then keys else keys.tail) (rest.drop 65535)
        (tcpConnectionPrepareFrame c rest.length) ∧
      (tcpConnectionPrepareFrame c rest.length).frameOwed =
        websocketHeader (frameKey server keys) rest.length ++
          websocketBody (frameKey server keys) (rest.take 65535) ∧
      (tcpConnectionPrepareFrame c rest.length).sock = c.sock ∧
      (tcpConnectionPrepareFrame c rest.length).connectionState = c.connectionState ∧
      (tcpConnectionPrepareFrame c rest.length).sendMessageLen = c.sendMessageLen ∧
      (tcpConnectionPrepareFrame c rest.length).sendBufferPos = c.sendBufferPos := by
  have hpos := List.length_pos_iff.mpr hrest
  have hlen := h.length_eq
  have hsize := c.sendMessageLen.toNat_lt
  have hmod := SizeT.le_modulus
  obtain ⟨hslice, hin⟩ := h.rest_at
  have hp := tcpConnectionPrepareFrame_spec rest.length h.masked h.headerBuffer
  rw [h.side, h.keys_eq] at hp
  generalize tcpConnectionPrepareFrame c rest.length = c' at hp ⊢
  have hend := hp.frameEnd
  rw [addSz_eq (by omega), Nat.add_comm] at hend
  have hstart := hp.framePos
  have hhead := hp.headerPos
  rw [h.headerPos] at hhead
  have htake : slice c.sendBuffer c.sendBufferPos (min rest.length 65535) = rest.take 65535 := by
    have htaken := congrArg (List.take 65535) hslice
    rw [slice, List.take_take, Nat.min_comm] at htaken
    exact htaken
  have hbody : (websocketBody (frameKey server keys) (rest.take 65535)).length =
      min rest.length 65535 := by
    rw [length_websocketBody, List.length_take, Nat.min_comm]
  have hbuffer := hp.sendBuffer
  rw [htake] at hbuffer
  obtain ⟨-, hbehind⟩ := at_append.mp (show
    At c.sendBuffer c.sendBufferPos (rest.take 65535 ++ rest.drop 65535) by
      rw [List.take_append_drop]
      exact h.rest_at)
  rw [List.length_take, Nat.min_comm] at hbehind
  refine ⟨⟨?_, ?_, ?_, hp.headerBuffer, ?_, ?_, ?_, hp.headerLen, ?_, ?_, ?_⟩, ?_, hp.sock,
    hp.connectionState, hp.sendMessageLen, hp.sendBufferPos⟩
  · rw [hp.websocket, h.websocket]
  · rw [hp.configFlags, h.side]
  · rw [hp.randPlan, h.keys_eq, frameKey_isSome]
    cases server <;> rfl
  · rw [hp.frameLen]
    omega
  · rw [hend, hp.sendBufferPos, hp.frameLen]
  · rw [hhead]
    exact Nat.zero_le _
  · rw [hstart, hend]
    omega
  · rw [hend, hp.sendMessageLen, List.length_drop]
    omega
  · -- The frame is written over itself only.
    rw [hend, hbuffer]
    refine ⟨?_, ?_⟩
    · rw [slice_overwrite_disjoint (by omega) (Or.inr (by omega))]
      exact hbehind.1
    · rw [length_overwrite (by omega), List.length_drop]
      omega
  · rw [Connection.frameOwed, hhead, Nat.sub_zero, hp.header, hstart, hend, hbuffer,
      Nat.add_sub_cancel_left, ← hbody, slice_overwrite_self (by omega)]

/-! ## Sending what is owed -/

/-- The bytes still owed to the socket for the message on its way. -/
inductive Owes (server : Bool) (c : Connection) : List UInt8 → Prop
  | between {keys : List UInt32} {rest : List UInt8} (h : BetweenFrames server keys rest c) :
      Owes server c (websocketStream server keys rest)
  | inside {keys : List UInt32} {rest : List UInt8} (h : InsideFrame server keys rest c) :
      Owes server c (c.frameOwed ++ websocketStream server keys rest)

/-- Part of a send: no byte is lost on the way. -/
structure SendsOn (c c' : Connection) (owed owed' : List UInt8) : Prop where
  sent_eq : c'.sock.sent ++ owed' = c.sock.sent ++ owed
  sent_le : c.sock.sent.length ≤ c'.sock.sent.length
  connectionState : c'.connectionState = c.connectionState
  sendMessageLen : c'.sendMessageLen = c.sendMessageLen
  sendPlan_subset : c'.sock.sendPlan ⊆ c.sock.sendPlan

omit [SizeT] in
theorem SendsOn.refl (c : Connection) (owed : List UInt8) : SendsOn c c owed owed :=
  ⟨rfl, Nat.le_refl _, rfl, rfl, List.Subset.refl _⟩

omit [SizeT] in
theorem SendsOn.trans {c c' c'' : Connection} {owed owed' owed'' : List UInt8}
    (h : SendsOn c c' owed owed') (h' : SendsOn c' c'' owed' owed'') :
    SendsOn c c'' owed owed'' where
  sent_eq := h'.sent_eq.trans h.sent_eq
  sent_le := h.sent_le.trans h'.sent_le
  connectionState := h'.connectionState.trans h.connectionState
  sendMessageLen := h'.sendMessageLen.trans h.sendMessageLen
  sendPlan_subset _ ho := h.sendPlan_subset (h'.sendPlan_subset ho)

omit [SizeT] in
/-- A socket that takes something takes a byte at least. -/
theorem ioMoved_ready {plan : List IoOutcome} {n want avail : Nat} (hwant : 0 < want)
    (havail : 0 < avail) : 0 < ioMoved (.ready n :: plan) want avail := by
  rw [ioMoved, if_neg (by omega)]
  omega

omit [SizeT] in
theorem SendSpec.sent_le {sock : Socket} {buffer : List UInt8} {pos k : Nat} {run : SendRun}
    (h : SendSpec sock buffer pos k run) : sock.sent.length ≤ run.sock.sent.length := by
  rw [h.sent_eq, List.length_append]
  omega

omit [SizeT] in
/-- The rest of the header of an open frame. -/
theorem InsideFrame.sendHeader (h : InsideFrame server keys rest c) :
    ∃ rv c', tcpConnectionSendHeader c = (rv, c') ∧ InsideFrame server keys rest c' ∧
      SendsOn c c' (c.frameOwed ++ websocketStream server keys rest)
        (c'.frameOwed ++ websocketStream server keys rest) ∧
      c'.sendBufferPos = c.sendBufferPos ∧
      c'.transportStorage.sendWebsocketFrameLen = c.transportStorage.sendWebsocketFrameLen ∧
      (rv = .ok true → c'.transportStorage.sendWebsocketHeaderPos =
        c'.transportStorage.sendWebsocketHeaderLen) ∧
      (Willing c.sock.sendPlan → ∃ out, rv = .ok out) ∧
      (∀ n plan, c.sock.sendPlan = .ready n :: plan →
        rv = .ok true ∧ c' = c ∨ c.sock.sent.length < c'.sock.sent.length) := by
  have hle := h.headerPos
  have h8 := h.headerLen
  by_cases hmore : c.transportStorage.sendWebsocketHeaderPos <
      c.transportStorage.sendWebsocketHeaderLen
  · have hspec := tcpSocketSendNonblocking_spec c.sock c.transportStorage.sendWebsocketHeaderBuffer
      c.transportStorage.sendWebsocketHeaderPos
      (c.transportStorage.sendWebsocketHeaderLen - c.transportStorage.sendWebsocketHeaderPos)
    have hmoved := (ioMoved_le c.sock.sendPlan
      (c.transportStorage.sendWebsocketHeaderLen - c.transportStorage.sendWebsocketHeaderPos)
      (c.transportStorage.sendWebsocketHeaderLen - c.transportStorage.sendWebsocketHeaderPos)).1
    have hready : ∀ n plan, c.sock.sendPlan = .ready n :: plan → 0 < ioMoved c.sock.sendPlan
        (c.transportStorage.sendWebsocketHeaderLen - c.transportStorage.sendWebsocketHeaderPos)
        (c.transportStorage.sendWebsocketHeaderLen -
          c.transportStorage.sendWebsocketHeaderPos) := by
      intro n plan hplan
      rw [hplan]
      exact ioMoved_ready (by omega) (by omega)
    unfold tcpConnectionSendHeader
    dsimp only
    rw [if_pos ⟨by omega, hmore⟩]
    generalize ioMoved _ _ _ = k at hspec hmoved hready
    generalize tcpSocketSendNonblocking _ _ _ _ = run at hspec ⊢
    have hpos := hspec.pos_eq
    refine ⟨run.status.map fun _ =>
        !decide (run.pos < c.transportStorage.sendWebsocketHeaderLen),
      { c with
        sock := run.sock
        transportStorage := { c.transportStorage with sendWebsocketHeaderPos := run.pos } },
      ?_, ?_, ?_, rfl, rfl, ?_, ?_, ?_⟩
    · cases run.status <;> rfl
    · refine { h with headerPos := ?_ }
      dsimp only
      omega
    · refine ⟨?_, hspec.sent_le, rfl, rfl, hspec.sendPlan_subset⟩
      dsimp only [Connection.frameOwed]
      rw [hspec.sent_eq, hpos, show c.transportStorage.sendWebsocketHeaderLen -
          c.transportStorage.sendWebsocketHeaderPos = k +
            (c.transportStorage.sendWebsocketHeaderLen -
              (c.transportStorage.sendWebsocketHeaderPos + k)) by omega, slice_add]
      simp only [List.append_assoc]
    · intro hdone
      dsimp only at hpos ⊢
      cases hstatus : run.status with
      | error e =>
          rw [hstatus] at hdone
          cases hdone
      | ok _ =>
          rw [hstatus] at hdone
          simp only [Except.map, Except.ok.injEq, Bool.not_eq_true',
            decide_eq_false_iff_not] at hdone
          omega
    · intro hw
      rw [hspec.willing hw]
      exact ⟨_, rfl⟩
    · intro n plan hplan
      have := hready n plan hplan
      refine Or.inr ?_
      dsimp only
      rw [hspec.sent_eq, List.length_append, length_slice (by rw [h.headerBuffer]; omega)]
      omega
  · have hpos : c.transportStorage.sendWebsocketHeaderPos =
        c.transportStorage.sendWebsocketHeaderLen := by
      omega
    unfold tcpConnectionSendHeader
    dsimp only
    rw [if_neg fun hboth => hmore hboth.2]
    exact ⟨_, c, rfl, h, SendsOn.refl _ _, rfl, rfl, fun _ => hpos, fun _ => ⟨true, rfl⟩,
      fun _ _ _ => Or.inl ⟨rfl, rfl⟩⟩

omit [SizeT] in
theorem InsideFrame.short (h : InsideFrame server keys rest c) :
    c.sendBufferPos < c.sendMessageLen.toNat := by
  have hlen := h.frameLen
  have hend := h.frameEnd
  have hall := h.length_eq
  omega

/-- The rest of the payload of an open frame, and the end of the frame. -/
theorem InsideFrame.sendPayload (h : InsideFrame server keys rest c)
    (hheader : c.transportStorage.sendWebsocketHeaderPos =
      c.transportStorage.sendWebsocketHeaderLen) {len : Nat}
    (hlen : c.transportStorage.sendWebsocketFrameLen ≤ len) :
    ∃ rv c' owed', tcpConnectionSendPayload c len = (rv, c') ∧
      SendsOn c c' (c.frameOwed ++ websocketStream server keys rest) owed' ∧
      (rv = .ok () →
        InsideFrame server keys rest c' ∧
            owed' = c'.frameOwed ++ websocketStream server keys rest ∨
        BetweenFrames server keys rest c' ∧ owed' = websocketStream server keys rest) ∧
      (Willing c.sock.sendPlan → rv = .ok ()) ∧
      (∀ n plan, c.sock.sendPlan = .ready n :: plan →
        c.sock.sent.length < c'.sock.sent.length) := by
  have hstart := h.framePos
  have hend := h.frameEnd
  have hall := h.length_eq
  have hsize := c.sendMessageLen.toNat_lt
  have hmod := SizeT.le_modulus
  obtain ⟨hslice, hin⟩ := h.rest_at
  have hwant : subSz c.transportStorage.sendWebsocketFrameBufferEnd
      c.transportStorage.sendWebsocketFrameBufferPos =
      c.transportStorage.sendWebsocketFrameBufferEnd -
        c.transportStorage.sendWebsocketFrameBufferPos := subSz_eq (by omega) (by omega)
  have hspec := tcpSocketSendNonblocking_spec c.sock c.sendBuffer
    c.transportStorage.sendWebsocketFrameBufferPos
    (c.transportStorage.sendWebsocketFrameBufferEnd -
      c.transportStorage.sendWebsocketFrameBufferPos)
  have hmoved := (ioMoved_le c.sock.sendPlan
    (c.transportStorage.sendWebsocketFrameBufferEnd -
      c.transportStorage.sendWebsocketFrameBufferPos)
    (c.transportStorage.sendWebsocketFrameBufferEnd -
      c.transportStorage.sendWebsocketFrameBufferPos)).1
  have hready : ∀ n plan, c.sock.sendPlan = .ready n :: plan → 0 < ioMoved c.sock.sendPlan
      (c.transportStorage.sendWebsocketFrameBufferEnd -
        c.transportStorage.sendWebsocketFrameBufferPos)
      (c.transportStorage.sendWebsocketFrameBufferEnd -
        c.transportStorage.sendWebsocketFrameBufferPos) := by
    intro n plan hplan
    rw [hplan]
    exact ioMoved_ready (by omega) (by omega)
  unfold tcpConnectionSendPayload
  dsimp only
  rw [if_neg (by omega), hwant]
  generalize ioMoved _ _ _ = k at hspec hmoved hready
  generalize tcpSocketSendNonblocking _ _ _ _ = run at hspec ⊢
  have hpos := hspec.pos_eq
  -- What is left of the frame, and of the message.
  have hsent : run.sock.sent ++
      (slice c.sendBuffer run.pos (c.transportStorage.sendWebsocketFrameBufferEnd - run.pos) ++
        websocketStream server keys rest) =
      c.sock.sent ++ (c.frameOwed ++ websocketStream server keys rest) := by
    rw [Connection.frameOwed, hheader, Nat.sub_self, slice_zero, List.nil_append, hspec.sent_eq,
      hpos, show c.transportStorage.sendWebsocketFrameBufferEnd -
          c.transportStorage.sendWebsocketFrameBufferPos = k +
            (c.transportStorage.sendWebsocketFrameBufferEnd -
              (c.transportStorage.sendWebsocketFrameBufferPos + k)) by omega, slice_add]
    simp only [List.append_assoc]
  have hgrows : ∀ n plan, c.sock.sendPlan = .ready n :: plan →
      c.sock.sent.length < run.sock.sent.length := by
    intro n plan hplan
    have := hready n plan hplan
    rw [hspec.sent_eq, List.length_append, length_slice (by omega)]
    omega
  cases hstatus : run.status with
  | error e =>
      refine ⟨.error e, _, _, rfl, ⟨hsent, hspec.sent_le, rfl, rfl, hspec.sendPlan_subset⟩, ?_, ?_,
        hgrows⟩
      · intro hok
        cases hok
      · intro hw
        rw [hspec.willing hw] at hstatus
        cases hstatus
  | ok _ =>
      dsimp only
      by_cases hmore : run.pos < c.transportStorage.sendWebsocketFrameBufferEnd
      · rw [if_pos hmore]
        refine ⟨.ok (), _, _, rfl, ⟨hsent, hspec.sent_le, rfl, rfl, hspec.sendPlan_subset⟩,
          fun _ => Or.inl ⟨?_, ?_⟩, fun _ => rfl, hgrows⟩
        · exact { h with framePos := hmore }
        · dsimp only [Connection.frameOwed]
          rw [hheader, Nat.sub_self, slice_zero, List.nil_append]
      · rw [if_neg hmore]
        have hdone : c.transportStorage.sendWebsocketFrameBufferEnd - run.pos = 0 := by omega
        rw [hdone, slice_zero, List.nil_append] at hsent
        refine ⟨.ok (), _, _, rfl, ⟨hsent, hspec.sent_le, rfl, rfl, hspec.sendPlan_subset⟩,
          fun _ => Or.inr ⟨?_, rfl⟩, fun _ => rfl, hgrows⟩
        exact {
          websocket := (flagsCheck_clear_of_disjoint (by decide)).trans h.websocket
          side := h.side
          keys_eq := h.keys_eq
          masked := flagsCheck_clear_of_subset (by decide)
          headerBuffer := h.headerBuffer
          frameLen := rfl
          headerPos := rfl
          length_eq := h.length_eq
          rest_at := h.rest_at }

/-! ## One call -/

omit [SizeT] in
/-- The socket and the flags of the connection have no part in what is owed. -/
theorem Owes.with_socket {owed : List UInt8} (h : Owes server c owed) (sock : Socket)
    (state : BitVec 32) : Owes server { c with sock := sock, connectionState := state } owed := by
  cases h with
  | between h => exact .between { h with }
  | inside h => exact .inside { h with }

omit [SizeT] in
theorem BetweenFrames.end_or_short (h : BetweenFrames server keys rest c) :
    c.sendBufferPos < c.sendMessageLen.toNat ∨
      websocketStream server keys rest = [] ∧ BetweenFrames server keys [] c := by
  have hlen := h.length_eq
  cases rest with
  | nil => exact Or.inr ⟨websocketStream_nil server keys, h⟩
  | cons b rest =>
      rw [List.length_cons] at hlen
      exact Or.inl (by omega)

/-- A send inside a frame. -/
theorem InsideFrame.send (h : InsideFrame server keys rest c) {len : Nat}
    (hlen : c.transportStorage.sendWebsocketFrameLen ≤ len) :
    ∃ rv c' owed',
      (match tcpConnectionSendHeader c with
        | (.error e, c) => (.error e, c)
        | (.ok false, c) => (.ok (), c)
        | (.ok true, c) => tcpConnectionSendPayload c len) = (rv, c') ∧
      SendsOn c c' (c.frameOwed ++ websocketStream server keys rest) owed' ∧
      (rv = .ok () → Owes server c' owed' ∧ (c'.sendBufferPos < c'.sendMessageLen.toNat ∨
        owed' = [] ∧ ∃ keys, BetweenFrames server keys [] c')) ∧
      (Willing c.sock.sendPlan → rv = .ok ()) ∧
      (∀ n plan, c.sock.sendPlan = .ready n :: plan →
        c.sock.sent.length < c'.sock.sent.length) := by
  obtain ⟨rv₁, c₁, hrun, h₁, hsends, -, hframe, hdone, hwilling, hready⟩ := h.sendHeader
  rw [hrun]
  cases rv₁ with
  | error e =>
      refine ⟨_, c₁, _, rfl, hsends, ?_, ?_, ?_⟩
      · intro hok
        cases hok
      · intro hw
        obtain ⟨out, hout⟩ := hwilling hw
        cases hout
      · intro n plan hplan
        rcases hready n plan hplan with ⟨hok, -⟩ | hgrows
        · cases hok
        · exact hgrows
  | ok out =>
      cases out with
      | false =>
          refine ⟨_, c₁, _, rfl, hsends, fun _ => ⟨.inside h₁, Or.inl h₁.short⟩, fun _ => rfl, ?_⟩
          intro n plan hplan
          rcases hready n plan hplan with ⟨hok, -⟩ | hgrows
          · cases hok
          · exact hgrows
      | true =>
          have hfits : c₁.transportStorage.sendWebsocketFrameLen ≤ len := by omega
          obtain ⟨rv, c', owed', hpayload, hsends', hok, hwilling', hready'⟩ :=
            h₁.sendPayload (hdone rfl) hfits
          refine ⟨rv, c', owed', hpayload, hsends.trans hsends', ?_, ?_, ?_⟩
          · intro hrv
            rcases hok hrv with ⟨h', rfl⟩ | ⟨h', rfl⟩
            · exact ⟨.inside h', Or.inl h'.short⟩
            · exact ⟨.between h', h'.end_or_short.imp_right fun hend => ⟨hend.1, _, hend.2⟩⟩
          · exact fun hw => hwilling' (hw.mono hsends.sendPlan_subset)
          · intro n plan hplan
            rcases hready n plan hplan with ⟨-, rfl⟩ | hgrows
            · exact hready' n plan hplan
            · exact Nat.lt_of_lt_of_le hgrows hsends'.sent_le

/-- A send of what is left of a message. -/
theorem Owes.bufferSend {owed : List UInt8} (h : Owes server c owed) {len : Nat}
    (hlen : c.sendBufferPos + len = c.sendMessageLen.toNat) (hpos : 0 < len) :
    ∃ rv c' owed', tcpConnectionBufferSend c len = (rv, c') ∧ SendsOn c c' owed owed' ∧
      (rv = .ok () → Owes server c' owed' ∧ (c'.sendBufferPos < c'.sendMessageLen.toNat ∨
        owed' = [] ∧ ∃ keys, BetweenFrames server keys [] c')) ∧
      (Willing c.sock.sendPlan → rv = .ok ()) ∧
      (∀ n plan, c.sock.sendPlan = .ready n :: plan →
        c.sock.sent.length < c'.sock.sent.length) := by
  cases h with
  | @between keys rest h =>
      have hrest : len = rest.length := by
        have := h.length_eq
        omega
      subst hrest
      have hsome : rest ≠ [] := List.length_pos_iff.mp hpos
      obtain ⟨h', howed, hsock, hstate, hmessage, hbuffer⟩ := h.prepare hsome
      rw [tcpConnectionBufferSend, if_pos h.websocket, tcpConnectionBufferSendWebsocket,
        if_pos ⟨h.frameLen, hpos⟩]
      generalize tcpConnectionPrepareFrame c rest.length = c₁
        at h' howed hsock hstate hmessage hbuffer ⊢
      have hprepares : SendsOn c c₁ (websocketStream server keys rest)
          (c₁.frameOwed ++ websocketStream server (if server then keys else keys.tail)
            (rest.drop 65535)) := by
        refine ⟨?_, by rw [hsock], hstate, hmessage, by rw [hsock]; exact List.Subset.refl _⟩
        rw [hsock, howed, ← websocketStream_cons hsome]
      have hfits : c₁.transportStorage.sendWebsocketFrameLen ≤ rest.length := by
        have hend := h'.frameEnd
        have hall := h'.length_eq
        rw [hmessage] at hall
        omega
      obtain ⟨rv, c', owed', hrun, hsends, hok, hwilling, hready⟩ := h'.send hfits
      rw [hsock] at hwilling hready
      exact ⟨rv, c', owed', hrun, hprepares.trans hsends, hok, hwilling, hready⟩
  | @inside keys rest h =>
      rw [tcpConnectionBufferSend, if_pos h.websocket, tcpConnectionBufferSendWebsocket,
        if_neg fun hboth => absurd hboth.1 (Nat.ne_of_gt h.frameLen)]
      refine h.send ?_
      have hend := h.frameEnd
      have hall := h.length_eq
      omega

/-- A message of which `stream` is sent in all, on a connection that had sent `base`. -/
inductive MessageOnWay (server : Bool) (base stream : List UInt8) (c : Connection) : Prop
  | underway {owed : List UInt8} (owes : Owes server c owed)
      (sent : c.sock.sent ++ owed = base ++ stream)
      (flags : c.sendFlags = STATUS_FLAGS_SEND_REQUESTED ∧ c.sendBufferPos = 0 ∨
        c.sendFlags = STATUS_FLAGS_SENDING)
      (short : c.sendBufferPos < c.sendMessageLen.toNat)
  | done (sent : c.sock.sent = base ++ stream) (flags : c.sendFlags = STATUS_FLAGS_MESSAGE_SENT)
      {keys : List UInt32} (between : BetweenFrames server keys [] c)
  | broken {owed : List UInt8} (sent : c.sock.sent ++ owed = base ++ stream)
      (error : c.checkState STATUS_FLAGS_ERROR = true)
      (unsent : c.checkState STATUS_FLAGS_MESSAGE_SENT = false)

omit [SizeT] in
theorem MessageOnWay.length_le {server : Bool} {base stream : List UInt8} {c : Connection}
    (h : MessageOnWay server base stream c) : c.sock.sent.length ≤ (base ++ stream).length := by
  cases h with
  | underway owes sent flags short =>
      rw [← sent, List.length_append]
      omega
  | done sent flags between => rw [sent]
  | broken sent error unsent =>
      rw [← sent, List.length_append]
      omega

/-- A call of `communicate_send` on a socket that does what a plan says. -/
structure SendAttempt where
  plan : List IoOutcome
  now : Int64

def SendAttempt.step (c : Connection) (a : SendAttempt) : Result Unit × Connection :=
  tcpConnectionCommunicateSend (c.planSend a.plan) a.now

variable {base stream : List UInt8}

/-- What `send1` asks for when a message is under way. -/
theorem connectionImplCommunicateSend1_underway
    (flags : c.sendFlags = STATUS_FLAGS_SEND_REQUESTED ∧ c.sendBufferPos = 0 ∨
      c.sendFlags = STATUS_FLAGS_SENDING)
    (short : c.sendBufferPos < c.sendMessageLen.toNat) :
    ∃ state, connectionImplCommunicateSend1 c =
        (.ok (c.sendMessageLen.toNat - c.sendBufferPos), { c with connectionState := state }) ∧
      (state &&& SENDING_MASK = 0 ∨ state &&& SENDING_MASK = STATUS_FLAGS_SENDING) := by
  have hlt : c.sendMessageLen.toNat < SizeT.modulus :=
    Nat.lt_of_lt_of_le c.sendMessageLen.toNat_lt SizeT.le_modulus
  rw [connectionImplCommunicateSend1_eq]
  rcases flags with ⟨flags, pos⟩ | flags
  · have hall : c.sendMessageLen.toNat - c.sendBufferPos = c.sendMessageLen.toNat := by
      rw [pos, Nat.sub_zero]
    rw [flags, hall]
    refine ⟨_, rfl, Or.inl ?_⟩
    rw [flagsClear_and, show c.connectionState &&& SENDING_MASK = _ from flags]
    decide
  · rw [flags, subSz_eq (Nat.le_of_lt short) hlt]
    exact ⟨_, rfl, Or.inr flags⟩

/-- A call while a message is under way. -/
theorem Owes.communicateSend {owed : List UInt8} (h : Owes server c owed)
    (sent : c.sock.sent ++ owed = base ++ stream)
    (flags : c.sendFlags = STATUS_FLAGS_SEND_REQUESTED ∧ c.sendBufferPos = 0 ∨
      c.sendFlags = STATUS_FLAGS_SENDING)
    (short : c.sendBufferPos < c.sendMessageLen.toNat) (a : SendAttempt) :
    MessageOnWay server base stream (a.step c).2 ∧
      (Willing a.plan → (a.step c).2.checkState STATUS_FLAGS_ERROR = false) ∧
      (∀ n plan, a.plan = .ready n :: plan →
        c.sock.sent.length < (a.step c).2.sock.sent.length) := by
  obtain ⟨state, hsend1, hstate⟩ :=
    connectionImplCommunicateSend1_underway (c := c.planSend a.plan) flags short
  have howes : Owes server { c.planSend a.plan with connectionState := state } owed :=
    h.with_socket { c.sock with sendPlan := a.plan } state
  have hshort : (c.planSend a.plan).sendBufferPos < (c.planSend a.plan).sendMessageLen.toNat :=
    short
  have hall : (c.planSend a.plan).sendBufferPos +
      ((c.planSend a.plan).sendMessageLen.toNat - (c.planSend a.plan).sendBufferPos) =
      (c.planSend a.plan).sendMessageLen.toNat := Nat.add_sub_cancel' (Nat.le_of_lt hshort)
  obtain ⟨rv, c', owed', hrun, hsends, hok, hwilling, hready⟩ := howes.bufferSend hall (by omega)
  have hsent : c'.sock.sent ++ owed' = base ++ stream := hsends.sent_eq.trans sent
  have hcall : a.step c = connectionImplCommunicateSend2 c' a.now rv := by
    rw [SendAttempt.step, tcpConnectionCommunicateSend, hsend1]
    dsimp only
    rw [if_neg (by omega), hrun]
  have hflags : c'.sendFlags = 0 ∨ c'.sendFlags = STATUS_FLAGS_SENDING := by
    rw [Connection.sendFlags, hsends.connectionState]
    exact hstate
  have herror : c'.checkState STATUS_FLAGS_ERROR = false := by
    rw [Connection.checkState_eq_sendFlags (by decide)]
    rcases hflags with hflags | hflags <;> rw [hflags] <;> decide
  have hunsent : c'.checkState STATUS_FLAGS_MESSAGE_SENT = false := by
    rw [Connection.checkState_eq_sendFlags (by decide)]
    rcases hflags with hflags | hflags <;> rw [hflags] <;> decide
  rw [hcall]
  cases rv with
  | error e =>
      refine ⟨.broken hsent (Connection.checkState_setState_of_overlap (by decide)) ?_, ?_, hready⟩
      · exact (Connection.checkState_setState (by decide)).trans hunsent
      · intro hw
        cases hwilling hw
  | ok _ =>
      obtain ⟨howes', hend⟩ := hok rfl
      rw [connectionImplCommunicateSend2]
      dsimp only
      by_cases hmore : c'.sendMessageLen > 0 ∧ c'.sendBufferPos < c'.sendMessageLen.toNat
      · rw [if_pos hmore]
        refine ⟨.underway (howes'.with_socket c'.sock _) hsent (Or.inr ?_) hmore.2, ?_, hready⟩
        · rw [Connection.sendFlags_setState (by decide)]
          rcases hflags with hflags | hflags <;> rw [hflags] <;> decide
        · exact fun _ => (Connection.checkState_setState (by decide)).trans herror
      · rw [if_neg hmore]
        rcases hend with hlt | ⟨rfl, keys, hbetween⟩
        · refine absurd ⟨?_, hlt⟩ hmore
          rw [gt_iff_lt, UInt32.lt_iff_toNat_lt]
          exact Nat.lt_of_le_of_lt (Nat.zero_le _) hlt
        · rw [List.append_nil] at hsent
          refine ⟨.done hsent ?_ { hbetween with }, ?_, hready⟩
          · refine (Connection.sendFlags_setState (by decide)).trans ?_
            rw [Connection.sendFlags_clearState]
            rcases hflags with hflags | hflags <;> rw [hflags] <;> decide
          · intro _
            refine (Connection.checkState_setState (by decide)).trans ?_
            exact (Connection.checkState_clearState (by decide)).trans herror

/-- A call does not lose a byte, and does nothing more once the message is sent. -/
theorem MessageOnWay.step (h : MessageOnWay server base stream c) (a : SendAttempt) :
    MessageOnWay server base stream (a.step c).2 := by
  cases h with
  | underway owes sent flags short => exact (owes.communicateSend sent flags short a).1
  | done sent flags between =>
      have hcall : a.step c = (.ok (), c.planSend a.plan) := by
        rw [SendAttempt.step, tcpConnectionCommunicateSend, connectionImplCommunicateSend1_eq,
          show (c.planSend a.plan).sendFlags = _ from flags]
        rfl
      rw [hcall]
      exact .done sent flags { between with }
  | broken sent error unsent =>
      have hcall : a.step c = (.error .connectionError, c.planSend a.plan) := by
        rw [SendAttempt.step, tcpConnectionCommunicateSend, connectionImplCommunicateSend1,
          if_pos (show (c.planSend a.plan).checkState STATUS_FLAGS_ERROR = true from error)]
      rw [hcall]
      exact .broken sent error unsent

/-- A run of calls. -/
theorem MessageOnWay.final (h : MessageOnWay server base stream c) (calls : List SendAttempt) :
    MessageOnWay server base stream (CallSequence.final SendAttempt.step c calls) := by
  induction calls generalizing c with
  | nil => exact h
  | cons a calls ih => exact ih (h.step a)

/-- On a socket that goes on taking bytes the message is sent in the end. -/
theorem MessageOnWay.completes (h : MessageOnWay server base stream c)
    (herror : c.checkState STATUS_FLAGS_ERROR = false) :
    ∃ calls, (CallSequence.final SendAttempt.step c calls).checkState STATUS_FLAGS_MESSAGE_SENT =
        true ∧
      (CallSequence.final SendAttempt.step c calls).sock.sent = base ++ stream := by
  generalize hn : (base ++ stream).length - c.sock.sent.length = n
  induction n using Nat.strong_induction_on generalizing c with
  | h n ih =>
      cases h with
      | underway owes sent flags short =>
          have hwilling : Willing [.ready 0] := by
            intro o ho
            exact Or.inr ⟨0, List.mem_singleton.mp ho⟩
          obtain ⟨hstep, hok, hgrows⟩ := owes.communicateSend sent flags short ⟨[.ready 0], 0⟩
          have hmore := hgrows 0 [] rfl
          have hbound := hstep.length_le
          obtain ⟨calls, hcalls⟩ := ih _ (by omega) hstep (hok hwilling) rfl
          exact ⟨⟨[.ready 0], 0⟩ :: calls, hcalls⟩
      | done sent flags between =>
          refine ⟨[], ?_, sent⟩
          refine (Connection.checkState_eq_sendFlags (by decide)).trans ?_
          rw [CallSequence.final, flags]
          decide
      | broken sent error unsent =>
          rw [herror] at error
          cases error

end

/-! ## Well-formed frames -/

/-- A message is placed in the send buffer of a connection that is between two frames. -/
structure MessagePlaced (server : Bool) (message : List UInt8) (c : Connection) : Prop where
  between : BetweenFrames server c.randPlan message c
  flags : c.sendFlags = STATUS_FLAGS_SEND_REQUESTED
  pos : c.sendBufferPos = 0

/-- Frames of one side, masked by a client only. -/
def FramesFrom (server : Bool) (frames : List Frame) : Prop :=
  ∀ f ∈ frames, f.WellFormed ∧ f.key.isSome = !server

theorem websocketHeader_eq {key : Option (List UInt8)} {len : Nat} {payload : List UInt8}
    (hlong : len > 125) (hpayload : payload.length = len % 2 ^ 16) :
    websocketHeader key len = Frame.header ⟨.medium, key, payload⟩ := by
  rw [websocketHeader, if_pos hlong, beBytes16_eq, ← leBytes_mod, show 256 ^ 2 = 2 ^ 16 from rfl,
    ← hpayload]
  rfl

/-- What is sent for a message that one frame has room for. -/
theorem websocketStream_short (server : Bool) (keys : List UInt32) {message : List UInt8}
    (hsome : message ≠ []) (hshort : message.length ≤ 65535) :
    ∃ frame : Frame, frame.WellFormed ∧ (frame.key.isSome = !server) ∧ frame.payload = message ∧
      websocketStream server keys message = frame.encode := by
  have hkey : ∀ key, frameKey server keys = some key → key.length = 4 := by
    intro key h
    cases server with
    | true => cases h
    | false =>
        injection h with h
        subst h
        rfl
  have hstream : websocketStream server keys message =
      websocketHeader (frameKey server keys) message.length ++
        websocketBody (frameKey server keys) message := by
    rw [websocketStream_cons hsome, List.take_of_length_le hshort,
      List.drop_eq_nil_of_le hshort, websocketStream_nil, List.append_nil]
  by_cases hlong : message.length > 125
  · refine ⟨⟨.medium, frameKey server keys, message⟩, ⟨?_, hkey⟩, frameKey_isSome server keys, rfl,
      ?_⟩
    · exact Nat.lt_succ_of_le hshort
    · rw [hstream, websocketHeader_eq hlong (Nat.mod_eq_of_lt (by omega)).symm]
      rfl
  · refine ⟨⟨.short, frameKey server keys, message⟩, ⟨?_, hkey⟩, frameKey_isSome server keys, rfl,
      ?_⟩
    · exact Nat.lt_of_not_le hlong
    · rw [hstream, websocketHeader, if_neg hlong]
      rfl

/-- A frame starts like a frame. -/
theorem encodeAll_head {frames : List Frame} {b : UInt8} {bs : List UInt8}
    (h : encodeAll frames = b :: bs) : b = 0x82 := by
  cases frames with
  | nil => cases h
  | cons f frames =>
      injection h with h
      exact h.symm

/-- What is sent for a longer message of zeros cannot be read as frames: some header declares
fewer bytes than follow it, and the next of them is no header. -/
theorem websocketStream_long {server : Bool} {n : Nat} (hlong : 65535 < n) {frames : List Frame}
    (hframes : FramesFrom server frames) :
    encodeAll frames ≠ websocketStream server [] (List.replicate n 0) := by
  induction n using Nat.strong_induction_on generalizing frames with
  | h n ih =>
      intro hstream
      have hsome : List.replicate n (0 : UInt8) ≠ [] := by
        rw [Ne, List.replicate_eq_nil_iff]
        omega
      have hbody : ∀ m, websocketBody (frameKey server []) (List.replicate m 0) =
          List.replicate m 0 := by
        intro m
        cases server with
        | true => rfl
        | false => exact mask_zero (n := 4) _
      have hkeys : (if server then ([] : List UInt32) else List.tail []) = [] := by
        cases server <;> rfl
      -- The frame that the header declares.
      obtain ⟨declared, hdeclared⟩ : ∃ g : Frame,
          g = ⟨.medium, frameKey server [], List.replicate (n % 2 ^ 16) 0⟩ := ⟨_, rfl⟩
      have hwell : declared.WellFormed := by
        rw [hdeclared]
        refine ⟨?_, ?_⟩
        · simp only [List.length_replicate]
          exact Nat.mod_lt _ (by decide)
        · intro key hkey
          cases server with
          | true => cases hkey
          | false =>
              injection hkey with hkey
              rw [← hkey]
              rfl
      have hheader : websocketHeader (frameKey server []) n = declared.header := by
        rw [hdeclared]
        exact websocketHeader_eq (by omega) (List.length_replicate)
      have hdeclaredBody : declared.body = List.replicate (n % 2 ^ 16) 0 := by
        rw [hdeclared]
        exact hbody _
      have hmod : n % 2 ^ 16 ≤ 65535 := Nat.le_of_lt_succ (Nat.mod_lt _ (by decide))
      have hsplit : List.replicate 65535 (0 : UInt8) =
          declared.body ++ List.replicate (65535 - n % 2 ^ 16) 0 := by
        rw [hdeclaredBody, ← List.replicate_add]
        congr 1
        omega
      rw [websocketStream_cons hsome, hkeys, List.length_replicate, List.take_replicate,
        List.drop_replicate, Nat.min_eq_left (by omega), hbody, hheader, hsplit] at hstream
      cases frames with
      | nil => cases hstream
      | cons f frames =>
          have hrest : encodeAll frames = List.replicate (65535 - n % 2 ^ 16) 0 ++
              websocketStream server [] (List.replicate (n - 65535) 0) := by
            refine (Frame.encode_append_inj (hframes f List.mem_cons_self).1 hwell ?_).2
            exact hstream.trans (by simp only [Frame.encode, List.append_assoc])
          rcases Nat.lt_or_ge (n % 2 ^ 16) 65535 with hless | hall
          · obtain ⟨k, hk⟩ : ∃ k, 65535 - n % 2 ^ 16 = k + 1 := ⟨_, (Nat.succ_pred (by omega)).symm⟩
            rw [hk, List.replicate_succ, List.cons_append] at hrest
            exact absurd (encodeAll_head hrest) (by decide)
          · rw [Nat.sub_eq_zero_of_le hall, List.replicate_zero, List.nil_append] at hrest
            exact ih (n - 65535) (by omega) (by omega)
              (fun g hg => hframes g (List.mem_cons_of_mem f hg)) hrest

section

variable [SizeT]

/-- Every run that sends a message of `n` bytes to its end sends frames of the message. -/
def SendsFrames (server : Bool) (n : Nat) : Prop :=
  ∀ (c : Connection) (message : List UInt8) (calls : List SendAttempt), message.length = n →
    MessagePlaced server message c →
    (CallSequence.final SendAttempt.step c calls).checkState STATUS_FLAGS_MESSAGE_SENT = true →
    ∃ frames, FramesFrom server frames ∧ payloads frames = message ∧
      (CallSequence.final SendAttempt.step c calls).sock.sent = c.sock.sent ++ encodeAll frames

omit [SizeT] in
theorem MessagePlaced.onWay {server : Bool} {message : List UInt8} {c : Connection}
    (h : MessagePlaced server message c) (hsome : message ≠ []) :
    MessageOnWay server c.sock.sent (websocketStream server c.randPlan message) c := by
  refine .underway (.between h.between) rfl (Or.inl ⟨h.flags, h.pos⟩) ?_
  have hlen := h.between.length_eq
  have hpos := List.length_pos_iff.mpr hsome
  omega

omit [SizeT] in
theorem MessageOnWay.sent_eq {server : Bool} {base stream : List UInt8} {c : Connection}
    (h : MessageOnWay server base stream c)
    (hsent : c.checkState STATUS_FLAGS_MESSAGE_SENT = true) :
    c.sock.sent = base ++ stream := by
  cases h with
  | underway owes sent flags short =>
      rw [Connection.checkState_eq_sendFlags (by decide)] at hsent
      rcases flags with ⟨flags, -⟩ | flags <;> rw [flags] at hsent <;> cases hsent
  | done sent flags between => exact sent
  | broken sent error unsent =>
      rw [unsent] at hsent
      cases hsent

/-- The next message is placed between two frames again. -/
theorem MessageOnWay.placed_next {server : Bool} {base stream : List UInt8} {c : Connection}
    (h : MessageOnWay server base stream c)
    (hsent : c.checkState STATUS_FLAGS_MESSAGE_SENT = true) (a : SendAttempt)
    {message bytes : List UInt8} (hbytes : message <+: bytes) (hlen : message.length < 2 ^ 32) :
    MessagePlaced server message (connectionEndSendMessage
      { (a.step (connectionConsumeMessageSent c)).2 with sendBuffer := bytes } message.length) := by
  cases h with
  | underway owes sent flags short =>
      rw [Connection.checkState_eq_sendFlags (by decide)] at hsent
      rcases flags with ⟨flags, -⟩ | flags <;> rw [flags] at hsent <;> cases hsent
  | done sent flags between =>
      have hflags : ((connectionConsumeMessageSent c).planSend a.plan).sendFlags =
          flagsSet STATUS_FLAGS_MESSAGE_SENT STATUS_FLAGS_MESSAGE_SENT_CONSUMED := by
        rw [← flags]
        exact Connection.sendFlags_setState (by decide)
      have hcall := connectionImplCommunicateSend1_eq
        ((connectionConsumeMessageSent c).planSend a.plan)
      rw [hflags, if_neg (by decide), if_pos (by decide)] at hcall
      rw [SendAttempt.step, tcpConnectionCommunicateSend, hcall]
      refine ⟨?_, ?_, rfl⟩
      · exact {
          websocket := between.websocket
          side := between.side
          keys_eq := rfl
          masked := between.masked
          headerBuffer := between.headerBuffer
          frameLen := between.frameLen
          headerPos := between.headerPos
          length_eq := (Nat.zero_add _).trans (UInt32.toNat_ofNat_of_lt' hlen).symm
          rest_at := at_zero_iff.mpr hbytes }
      · refine (Connection.sendFlags_setState (by decide)).trans ?_
        refine (congrArg (flagsSet · _) ((Connection.sendFlags_clearState _ _).trans
          (congrArg (flagsClear · _) hflags))).trans ?_
        decide
  | broken sent error unsent =>
      rw [unsent] at hsent
      cases hsent

/-- A connection with a message of zeros placed in its send buffer. -/
def zerosPlaced (server : Bool) (n : Nat) : Connection :=
  { connectionConstruct (List.replicate n 0) [] with
    configFlags := if server then CONFIG_FLAGS_ISSERVER else 0
    connectionState := STATUS_FLAGS_CONNECTED ||| STATUS_FLAGS_SEND_REQUESTED
    sendMessageLen := UInt32.ofNat n
    transportStorage := TcpTransportStorage.zero.setState TCP_TRANSPORT_STATE_IS_WEBSOCKET }

omit [SizeT] in
theorem zerosPlaced_placed (server : Bool) {n : Nat} (hn : n < 2 ^ 32) :
    MessagePlaced server (List.replicate n 0) (zerosPlaced server n) := by
  refine ⟨⟨?_, ?_, rfl, ?_, rfl, rfl, rfl, ?_, ?_⟩, ?_, rfl⟩
  · show flagsCheck (flagsSet 0 TCP_TRANSPORT_STATE_IS_WEBSOCKET) _ = true
    decide
  · show flagsCheck (if server then CONFIG_FLAGS_ISSERVER else 0) _ = server
    cases server <;> decide
  · show flagsCheck (flagsSet 0 TCP_TRANSPORT_STATE_IS_WEBSOCKET) _ = false
    decide
  · rw [List.length_replicate]
    exact (Nat.zero_add n).trans (UInt32.toNat_ofNat_of_lt' hn).symm
  · exact at_zero_iff.mpr (List.prefix_refl _)
  · show (STATUS_FLAGS_CONNECTED ||| STATUS_FLAGS_SEND_REQUESTED) &&& SENDING_MASK = _
    decide

theorem websocket_zeros_misframed (server : Bool) {n : Nat} (hlong : 65535 < n) (hn : n < 2 ^ 32) :
    ∃ calls, (CallSequence.final SendAttempt.step (zerosPlaced server n) calls).checkState
        STATUS_FLAGS_MESSAGE_SENT = true ∧
      ∀ frames, FramesFrom server frames →
        (CallSequence.final SendAttempt.step (zerosPlaced server n) calls).sock.sent ≠
          encodeAll frames := by
  have hsome : List.replicate n (0 : UInt8) ≠ [] := by
    rw [Ne, List.replicate_eq_nil_iff]
    omega
  have herror : (zerosPlaced server n).checkState STATUS_FLAGS_ERROR = false :=
    show flagsCheck (STATUS_FLAGS_CONNECTED ||| STATUS_FLAGS_SEND_REQUESTED) _ = false by decide
  obtain ⟨calls, hflag, hsent⟩ := ((zerosPlaced_placed server hn).onWay hsome).completes herror
  refine ⟨calls, hflag, fun frames hframes heq => ?_⟩
  rw [hsent] at heq
  exact websocketStream_long hlong hframes heq.symm

/-- A message is sent in well-formed frames if one frame has room for it, and not otherwise. -/
theorem sendsFrames_iff (server : Bool) (n : Nat) (hpos : 1 ≤ n) (hn : n < 2 ^ 32) :
    SendsFrames server n ↔ n ≤ 65535 := by
  constructor
  · intro h
    refine Nat.le_of_not_lt fun hlong => ?_
    obtain ⟨calls, hflag, hmisframed⟩ := websocket_zeros_misframed server hlong hn
    obtain ⟨frames, hframes, -, hsent⟩ :=
      h _ _ calls List.length_replicate (zerosPlaced_placed server hn) hflag
    exact hmisframed frames hframes hsent
  · intro hshort c message calls hlen hplaced hflag
    subst hlen
    have hsome : message ≠ [] := List.length_pos_iff.mp hpos
    obtain ⟨frame, hwell, hside, hpayload, hstream⟩ :=
      websocketStream_short server c.randPlan hsome hshort
    refine ⟨[frame], ?_, ?_, ?_⟩
    · intro f hf
      rw [List.mem_singleton.mp hf]
      exact ⟨hwell, hside⟩
    · rw [← hpayload]
      exact List.append_nil _
    · rw [((hplaced.onWay hsome).final calls).sent_eq hflag, hstream]
      exact congrArg _ (List.append_nil _).symm

end

section

open Lp64

/-- A message that fills a frame. -/
theorem fullFrame_sent : SendsFrames false 65535 :=
  (sendsFrames_iff false 65535 (by decide) (by decide)).mpr (by decide)

/-- With one byte more the header declares no byte at all. -/
theorem oneByteMore_misframed :
    ∃ calls, (CallSequence.final SendAttempt.step (zerosPlaced true 65536) calls).checkState
        STATUS_FLAGS_MESSAGE_SENT = true ∧
      ∀ frames, FramesFrom true frames →
        (CallSequence.final SendAttempt.step (zerosPlaced true 65536) calls).sock.sent ≠
          encodeAll frames :=
  websocket_zeros_misframed true (by decide) (by decide)

end

end RobotRaconteurLite

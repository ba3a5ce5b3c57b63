import RobotRaconteurLite.Lib.CallSequence
import RobotRaconteurLite.Proofs.WebsocketSends

/-!
# Receiving the payload of WebSocket frames

A receiver is before a frame, with part of its header in the header buffer, or inside
one. Either way the bytes that it has and the bytes that are still to come are the
frames that were sent (`Framing`), and what is left of their payloads is known. A call
goes on wherever the last one stopped.

Two things are wrong in a call. It asks for as many bytes as the frame has in all and
the receive buffer is ahead of it, not for as many as are left of the frame, so a
frame that follows at once is taken for payload, header and all. And it unmasks
whether the frame is masked or not, with the last key there was. A run keeps the
payloads as long as neither shows (`websocketReceive_deframes`).
-/

namespace RobotRaconteurLite

open Splice LittleEndian WebSocket CallSequence

/-! ## Headers -/

/-- The second byte tells the length of the header. -/
theorem recvWebsocketHeaderSize_eq {f : Frame} (h : f.WellFormed) :
    tcpConnectionRecvWebsocketHeaderSize f.secondByte = f.header.length := by
  obtain ⟨hcode, hmasked⟩ := h.secondByte_and
  have hwidth : 2 + (if f.lengthCode = 126 then 2 else 0) + (if f.lengthCode = 127 then 8 else 0) =
      2 + f.form.width := by
    have hnat := h.lengthCode_toNat
    have hlen := h.length_lt
    cases hform : f.form with
    | short =>
        rw [hform] at hnat hlen
        dsimp only at hnat hlen
        rw [if_neg, if_neg]
        · rfl
        · intro heq
          rw [heq] at hnat
          exact absurd hnat (by show 127 ≠ _; omega)
        · intro heq
          rw [heq] at hnat
          exact absurd hnat (by show 126 ≠ _; omega)
    | medium =>
        rw [Frame.lengthCode, hform]
        rfl
    | long =>
        rw [Frame.lengthCode, hform]
        rfl
  have hkey : (if (if f.key.isSome = true then (0x80 : UInt8) else 0) ≠ 0 then 4 else 0) =
      if f.key.isSome = true then 4 else 0 := by
    cases f.key.isSome <;> rfl
  rw [tcpConnectionRecvWebsocketHeaderSize, hcode, hmasked, h.length_header, hwidth, hkey]

section

variable [SizeT]

/-- What a complete header tells the receiver. -/
structure HeaderParsed (f : Frame) (s s' : TcpTransportStorage) : Prop where
  inFrame : s'.checkState TCP_TRANSPORT_STATE_RECV_WEBSOCKET_IN_FRAME = true
  frameLen : s'.recvWebsocketFrameLen = f.payload.length
  framePos : s'.recvWebsocketFramePos = s.recvWebsocketFramePos
  masked : s'.checkState TCP_TRANSPORT_STATE_RECV_WEBSOCKET_ENABLE_MASK = f.key.isSome
  key : ∀ key, f.key = some key → s'.recvWebsocketMask = key
  headerBuffer : s'.recvWebsocketHeaderBuffer = s.recvWebsocketHeaderBuffer
  websocket : s'.checkState TCP_TRANSPORT_STATE_IS_WEBSOCKET =
    s.checkState TCP_TRANSPORT_STATE_IS_WEBSOCKET

omit [SizeT] in
/-- Where the parts of a header lie in the buffer for it. -/
theorem header_parts {f : Frame} {buffer : List UInt8} (hat : At buffer 0 f.header) :
    buffer.getD 1 0 = f.secondByte ∧ slice buffer 2 f.form.width = f.extendedLength ∧
      At buffer (2 + f.form.width) (f.key.getD []) := by
  rw [Frame.header, at_append, at_append] at hat
  obtain ⟨⟨hfirst, hext⟩, hkey⟩ := hat
  refine ⟨?_, ?_, ?_⟩
  · have htwo : (slice buffer 0 2).getD 1 0 = f.secondByte :=
      congrArg (fun bytes : List UInt8 => bytes.getD 1 0) hfirst.1
    rw [slice, List.drop_zero, List.getD_eq_getElem?_getD, List.getElem?_take,
      if_pos (by decide)] at htwo
    rw [List.getD_eq_getElem?_getD]
    exact htwo
  · have h := hext.1
    rw [Frame.length_extendedLength] at h
    exact h
  · rw [List.length_append, Frame.length_extendedLength, Nat.zero_add] at hkey
    exact hkey

theorem tcpStorageParseHeader_spec {f : Frame} (h : f.WellFormed)
    (hfits : f.payload.length < SizeT.modulus) {s : TcpTransportStorage}
    (hat : At s.recvWebsocketHeaderBuffer 0 f.header) :
    HeaderParsed f s (tcpStorageParseHeader s f.header.length) := by
  obtain ⟨hcode, hmasked⟩ := h.secondByte_and
  obtain ⟨hsecond, hext, hkey⟩ := header_parts hat
  have hframeLen : (if f.lengthCode = 126 then beNat (slice s.recvWebsocketHeaderBuffer 2 2)
      else if f.lengthCode = 127 then
        beNat (slice s.recvWebsocketHeaderBuffer 2 8) % SizeT.modulus
      else f.lengthCode.toNat) = f.payload.length := by
    have hnat := h.lengthCode_toNat
    have hspec := h.extendedLength_spec
    have hlen := h.length_lt
    cases hform : f.form with
    | short =>
        rw [hform] at hnat hlen
        dsimp only at hnat hlen
        have h126 : f.lengthCode ≠ 126 := by
          intro heq
          rw [heq] at hnat
          exact absurd hnat (by show 126 ≠ _; omega)
        have h127 : f.lengthCode ≠ 127 := by
          intro heq
          rw [heq] at hnat
          exact absurd hnat (by show 127 ≠ _; omega)
        rw [if_neg h126, if_neg h127, hnat]
    | medium =>
        rw [hform] at hext hspec
        rw [Frame.lengthCode, hform]
        dsimp only
        rw [if_pos rfl, show slice s.recvWebsocketHeaderBuffer 2 2 = _ from hext]
        exact hspec (by decide)
    | long =>
        rw [hform] at hext hspec
        rw [Frame.lengthCode, hform]
        dsimp only
        rw [if_neg (by decide), if_pos rfl,
          show slice s.recvWebsocketHeaderBuffer 2 8 = _ from hext,
          show beNat f.extendedLength = f.payload.length from hspec (by decide)]
        exact Nat.mod_eq_of_lt hfits
  unfold tcpStorageParseHeader
  dsimp only
  rw [hsecond, hcode, hmasked, hframeLen]
  cases hf : f.key with
  | none =>
      simp only [Option.isSome_none, Bool.false_eq_true, if_false, ne_eq, not_true_eq_false]
      refine ⟨?_, rfl, rfl, ?_, ?_, rfl, ?_⟩
      · exact flagsCheck_set_of_overlap (by decide)
      · rw [hf]
        exact (flagsCheck_set_of_disjoint (by decide)).trans
          (flagsCheck_clear_of_subset (by decide))
      · intro key hkey
        rw [hf] at hkey
        cases hkey
      · exact (flagsCheck_set_of_disjoint (by decide)).trans
          (flagsCheck_clear_of_disjoint (by decide))
  | some key =>
      have hoffset : f.header.length - 4 = 2 + f.form.width := by
        rw [h.length_header, hf, Option.isSome_some, if_pos rfl, Nat.add_sub_cancel]
      have hslice := hkey.1
      rw [hf, Option.getD_some, h.key_length key hf] at hslice
      simp only [Option.isSome_some, if_true]
      rw [if_pos (by decide), hoffset, hslice]
      refine ⟨?_, rfl, rfl, ?_, ?_, rfl, ?_⟩
      · exact flagsCheck_set_of_overlap (by decide)
      · rw [hf]
        exact (flagsCheck_set_of_disjoint (by decide)).trans (flagsCheck_set_of_overlap (by decide))
      · intro key' hkey'
        rw [hf] at hkey'
        injection hkey'
      · exact (flagsCheck_set_of_disjoint (by decide)).trans
          (flagsCheck_set_of_disjoint (by decide))

/-! ## Where a receiver is -/

/-- The bytes of a frame header that are there, and those that are still to come. -/
def Connection.headerStream (c : Connection) : List UInt8 :=
  c.transportStorage.recvWebsocketHeaderBuffer.take c.transportStorage.recvWebsocketHeaderPos ++
    c.sock.inbox

/-- Before a frame, with less than its header received. -/
structure BeforeFrame (frames : List Frame) (c : Connection) : Prop where
  websocket : c.transportStorage.checkState TCP_TRANSPORT_STATE_IS_WEBSOCKET = true
  inFrame : c.transportStorage.checkState TCP_TRANSPORT_STATE_RECV_WEBSOCKET_IN_FRAME = false
  framePos : c.transportStorage.recvWebsocketFramePos = 0
  headerBuffer : c.transportStorage.recvWebsocketHeaderBuffer.length = 16
  headerPos : ∀ f rest, frames = f :: rest →
    c.transportStorage.recvWebsocketHeaderPos < f.header.length
  headerPos_nil : frames = [] → c.transportStorage.recvWebsocketHeaderPos = 0
  stream : c.headerStream = encodeAll frames

/-- Inside a frame, with `pos` bytes of its payload received. -/
structure WithinFrame (f : Frame) (pos : Nat) (rest : List Frame) (c : Connection) : Prop where
  websocket : c.transportStorage.checkState TCP_TRANSPORT_STATE_IS_WEBSOCKET = true
  inFrame : c.transportStorage.checkState TCP_TRANSPORT_STATE_RECV_WEBSOCKET_IN_FRAME = true
  framePos : c.transportStorage.recvWebsocketFramePos = pos
  pos_le : pos ≤ f.payload.length
  frameLen : c.transportStorage.recvWebsocketFrameLen = f.payload.length
  masked : c.transportStorage.checkState TCP_TRANSPORT_STATE_RECV_WEBSOCKET_ENABLE_MASK =
    f.key.isSome
  key : ∀ key, f.key = some key → c.transportStorage.recvWebsocketMask = key
  headerBuffer : c.transportStorage.recvWebsocketHeaderBuffer.length = 16
  stream : c.sock.inbox = f.body.drop pos ++ encodeAll rest

/-- The frames are well formed, and their lengths fit `size_t`. -/
def FramesFit (frames : List Frame) : Prop :=
  ∀ f ∈ frames, f.WellFormed ∧ f.payload.length < SizeT.modulus

/-- A receiver of frames with the payload bytes `pending` still to come. -/
inductive Framing (c : Connection) : List UInt8 → Prop
  | before {frames : List Frame} (fits : FramesFit frames) (h : BeforeFrame frames c) :
      Framing c (payloads frames)
  | within {f : Frame} {pos : Nat} {rest : List Frame} (fits : FramesFit rest)
      (h : WithinFrame f pos rest c) : Framing c (f.payload.drop pos ++ payloads rest)

/-! ## Opening a frame -/

/-- A receive into the header buffer. It touches nothing else but the socket. -/
structure FrameHeaderRead (c c' : Connection) : Prop where
  stream : c'.headerStream = c.headerStream
  length_eq : c'.transportStorage.recvWebsocketHeaderBuffer.length =
    c.transportStorage.recvWebsocketHeaderBuffer.length
  recvPlan_subset : c'.sock.recvPlan ⊆ c.sock.recvPlan
  rest : c' = { c with
    sock := c'.sock
    transportStorage := { c.transportStorage with
      recvWebsocketHeaderBuffer := c'.transportStorage.recvWebsocketHeaderBuffer
      recvWebsocketHeaderPos := c'.transportStorage.recvWebsocketHeaderPos } }

omit [SizeT] in
theorem FrameHeaderRead.trans {c c' c'' : Connection} (h : FrameHeaderRead c c')
    (h' : FrameHeaderRead c' c'') : FrameHeaderRead c c'' where
  stream := h'.stream.trans h.stream
  length_eq := h'.length_eq.trans h.length_eq
  recvPlan_subset := fun _ ho => h.recvPlan_subset (h'.recvPlan_subset ho)
  rest := by
    rw [h'.rest, h.rest]

omit [SizeT] in
theorem FrameHeaderRead.buffer_eq {c c' : Connection} (h : FrameHeaderRead c c') :
    c'.recvBuffer = c.recvBuffer ∧ c'.recvBufferPos = c.recvBufferPos := by
  rw [h.rest]
  exact ⟨rfl, rfl⟩

omit [SizeT] in
theorem tcpConnectionRecvHeader_spec {c : Connection} {size : Nat} (hw : Willing c.sock.recvPlan)
    (hsize : size ≤ c.transportStorage.recvWebsocketHeaderBuffer.length) :
    ∃ out c', tcpConnectionRecvHeader c size = (.ok out, c') ∧ FrameHeaderRead c c' ∧
      (out = true → size ≤ c'.transportStorage.recvWebsocketHeaderPos) ∧
      (out = false → c'.transportStorage.recvWebsocketHeaderPos < size) ∧
      c'.transportStorage.recvWebsocketHeaderPos ≤
        max size c.transportStorage.recvWebsocketHeaderPos := by
  unfold tcpConnectionRecvHeader
  dsimp only
  by_cases hmore : c.transportStorage.recvWebsocketHeaderPos < size
  · have hspec := tcpSocketRecvNonblocking_spec c.sock c.transportStorage.recvWebsocketHeaderBuffer
      c.transportStorage.recvWebsocketHeaderPos (size - c.transportStorage.recvWebsocketHeaderPos)
    have hmoved := ioMoved_le c.sock.recvPlan (size - c.transportStorage.recvWebsocketHeaderPos)
      c.sock.inbox.length
    rw [if_pos hmore]
    generalize ioMoved _ _ _ = k at hspec hmoved
    generalize tcpSocketRecvNonblocking _ _ _ _ = run at hspec ⊢
    have hpos := hspec.pos_eq
    have htake : (c.sock.inbox.take k).length = k := List.length_take_of_le hmoved.2
    have hok := hspec.willing hw
    rw [hok]
    refine ⟨_, _, rfl, ⟨?_, ?_, hspec.recvPlan_subset, rfl⟩, ?_, ?_, ?_⟩
    · dsimp only [Connection.headerStream]
      have hkept : (overwrite c.transportStorage.recvWebsocketHeaderBuffer
          c.transportStorage.recvWebsocketHeaderPos (c.sock.inbox.take k)).take
            (c.transportStorage.recvWebsocketHeaderPos + (c.sock.inbox.take k).length) =
          c.transportStorage.recvWebsocketHeaderBuffer.take
            c.transportStorage.recvWebsocketHeaderPos ++ c.sock.inbox.take k :=
        take_overwrite (by omega)
      rw [htake] at hkept
      rw [hpos, hspec.buffer_eq, hspec.inbox_eq, hkept, List.append_assoc, List.take_append_drop]
    · dsimp only
      rw [hspec.buffer_eq, length_overwrite (by rw [htake]; omega)]
    · intro hout
      simp only [Bool.not_eq_true', decide_eq_false_iff_not] at hout
      exact Nat.le_of_not_lt hout
    · intro hout
      simp only [Bool.not_eq_false', decide_eq_true_eq] at hout
      exact hout
    · dsimp only
      omega
  · rw [if_neg hmore]
    refine ⟨true, c, rfl, ⟨rfl, rfl, List.Subset.refl _, rfl⟩, fun _ => Nat.le_of_not_lt hmore, ?_,
      Nat.le_max_right _ _⟩
    intro hout
    cases hout

omit [SizeT] in
/-- What comes before a frame is kept by a receive that does not complete the header. -/
theorem BeforeFrame.headerRead {frames : List Frame} {c c' : Connection}
    (h : BeforeFrame frames c) (hread : FrameHeaderRead c c')
    (hpos : ∀ f rest, frames = f :: rest →
      c'.transportStorage.recvWebsocketHeaderPos < f.header.length)
    (hnil : c'.transportStorage.recvWebsocketHeaderPos ≤ 16) : BeforeFrame frames c' := by
  have hstream : c'.headerStream = encodeAll frames := hread.stream.trans h.stream
  have hlength := hread.length_eq.trans h.headerBuffer
  have hrest := hread.rest
  refine ⟨?_, ?_, ?_, hlength, hpos, ?_, hstream⟩
  · rw [hrest]
    exact h.websocket
  · rw [hrest]
    exact h.inFrame
  · rw [hrest]
    exact h.framePos
  · rintro rfl
    have hempty := congrArg List.length hstream
    rw [Connection.headerStream, List.length_append, List.length_take_of_le (by omega)] at hempty
    have hzero : (encodeAll []).length = 0 := rfl
    omega

omit [SizeT] in
theorem Frame.two_le_header {f : Frame} (h : f.WellFormed) :
    2 ≤ f.header.length ∧ f.header.length ≤ 14 := by
  rw [h.length_header]
  have hwidth : f.form.width ≤ 8 := by
    cases f.form <;> decide
  split <;> omega

omit [SizeT] in
/-- The second byte of the buffer is the second byte of the frame the bytes start with. -/
theorem second_byte {c : Connection} {f : Frame} {rest : List Frame}
    (hstream : c.headerStream = encodeAll (f :: rest))
    (hpos : 2 ≤ c.transportStorage.recvWebsocketHeaderPos)
    (hlength : c.transportStorage.recvWebsocketHeaderBuffer.length = 16) :
    c.transportStorage.recvWebsocketHeaderBuffer.getD 1 0 = f.secondByte := by
  have hsecond : c.headerStream.getD 1 0 = f.secondByte := by
    rw [hstream]
    rfl
  rw [Connection.headerStream, List.getD_eq_getElem?_getD,
    List.getElem?_append_left (by rw [List.length_take]; omega), List.getElem?_take,
    if_pos (by omega)] at hsecond
  rw [List.getD_eq_getElem?_getD]
  exact hsecond

omit [SizeT] in
/-- A header that is there to its last byte is the header of the next frame. -/
theorem header_complete {c : Connection} {f : Frame} {rest : List Frame}
    (hstream : c.headerStream = encodeAll (f :: rest))
    (hpos : c.transportStorage.recvWebsocketHeaderPos = f.header.length)
    (hroom : f.header.length ≤ c.transportStorage.recvWebsocketHeaderBuffer.length) :
    At c.transportStorage.recvWebsocketHeaderBuffer 0 f.header ∧
      c.sock.inbox = f.body ++ encodeAll rest := by
  have hsplit : c.transportStorage.recvWebsocketHeaderBuffer.take f.header.length ++
      c.sock.inbox = f.header ++ (f.body ++ encodeAll rest) := by
    rw [← hpos, ← List.append_assoc]
    exact hstream
  obtain ⟨htake, hinbox⟩ := List.append_inj hsplit (List.length_take_of_le hroom)
  refine ⟨at_zero_iff.mpr ?_, hinbox⟩
  rw [← htake]
  exact List.take_prefix _ _

omit [SizeT] in
theorem BeforeFrame.reset {frames : List Frame} {c : Connection} (h : BeforeFrame frames c) :
    tcpStorageResetFrame c.transportStorage = c.transportStorage := by
  rw [tcpStorageResetFrame, if_neg]
  rw [h.inFrame]
  exact fun hboth => absurd hboth.2 Bool.false_ne_true

/-- The header of the next frame, as far as it comes. -/
theorem BeforeFrame.open {frames : List Frame} {c : Connection} (h : BeforeFrame frames c)
    (hfits : FramesFit frames) (hw : Willing c.sock.recvPlan) :
    ∃ out c', tcpConnectionOpenFrame c = (.ok out, c') ∧ c'.recvBuffer = c.recvBuffer ∧
      c'.recvBufferPos = c.recvBufferPos ∧ c'.sock.recvPlan ⊆ c.sock.recvPlan ∧
      (out = false → BeforeFrame frames c') ∧
      (out = true → ∃ f rest, frames = f :: rest ∧ WithinFrame f 0 rest c') := by
  have h16 := h.headerBuffer
  have hpos₀ : c.transportStorage.recvWebsocketHeaderPos < 14 := by
    cases frames with
    | nil =>
        rw [h.headerPos_nil rfl]
        decide
    | cons f rest =>
        have hle := (Frame.two_le_header (hfits f List.mem_cons_self).1).2
        have hlt := h.headerPos f rest rfl
        omega
  unfold tcpConnectionOpenFrame
  rw [h.reset, show c.withStorage c.transportStorage = c from rfl]
  dsimp only
  rw [h.inFrame, if_neg Bool.false_ne_true]
  obtain ⟨out₁, c₁, hrun₁, hread₁, htrue₁, hfalse₁, hmax₁⟩ :=
    tcpConnectionRecvHeader_spec hw (show 2 ≤ _ by omega)
  rw [hrun₁]
  have hbuffer₁ := hread₁.buffer_eq
  cases out₁ with
  | false =>
      have hshort := hfalse₁ rfl
      refine ⟨false, c₁, rfl, hbuffer₁.1, hbuffer₁.2, hread₁.recvPlan_subset, fun _ => ?_, ?_⟩
      · refine h.headerRead hread₁ ?_ (by omega)
        intro f rest hframes
        rw [hframes] at hfits
        have hheader := (Frame.two_le_header (hfits f List.mem_cons_self).1).1
        omega
      · intro hout
        cases hout
  | true =>
      dsimp only
      have htwo := htrue₁ rfl
      have hstream₁ := hread₁.stream.trans h.stream
      have hlength₁ := hread₁.length_eq.trans h16
      cases frames with
      | nil =>
          have hempty := congrArg List.length hstream₁
          have hzero : (encodeAll []).length = 0 := rfl
          rw [Connection.headerStream, List.length_append, List.length_take] at hempty
          omega
      | cons f rest =>
          obtain ⟨hformed, hfits_f⟩ := hfits f List.mem_cons_self
          obtain ⟨hge, hle⟩ := Frame.two_le_header hformed
          have hlt := h.headerPos f rest rfl
          rw [second_byte hstream₁ htwo hlength₁, recvWebsocketHeaderSize_eq hformed]
          obtain ⟨out₂, c₂, hrun₂, hread₂, htrue₂, hfalse₂, hmax₂⟩ :=
            tcpConnectionRecvHeader_spec (hw.mono hread₁.recvPlan_subset)
              (show f.header.length ≤ _ by omega)
          have hread := hread₁.trans hread₂
          have hbuffer := hread.buffer_eq
          rw [hrun₂]
          cases out₂ with
          | false =>
              have hshort := hfalse₂ rfl
              refine ⟨false, c₂, rfl, hbuffer.1, hbuffer.2, hread.recvPlan_subset,
                fun _ => ?_, ?_⟩
              · refine h.headerRead hread ?_ (by omega)
                intro f' rest' hframes
                obtain ⟨rfl, -⟩ := List.cons.inj hframes
                exact hshort
              · intro hout
                cases hout
          | true =>
              have hge₂ := htrue₂ rfl
              have hpos₂ : c₂.transportStorage.recvWebsocketHeaderPos = f.header.length := by
                omega
              have hlength₂ := hread.length_eq.trans h16
              obtain ⟨hat, hinbox⟩ := header_complete (hread.stream.trans h.stream) hpos₂
                (by omega)
              have hparsed := tcpStorageParseHeader_spec hformed hfits_f hat
              have hrest := hread.rest
              refine ⟨true, _, rfl, hbuffer.1, hbuffer.2, hread.recvPlan_subset, ?_,
                fun _ => ⟨f, rest, rfl, ?_⟩⟩
              · intro hout
                cases hout
              · refine ⟨?_, hparsed.inFrame, ?_, Nat.zero_le _, hparsed.frameLen,
                  hparsed.masked, hparsed.key, ?_, hinbox⟩
                · refine hparsed.websocket.trans ?_
                  rw [hrest]
                  exact h.websocket
                · refine hparsed.framePos.trans ?_
                  rw [hrest]
                  exact h.framePos
                · exact (congrArg List.length hparsed.headerBuffer).trans hlength₂

/-- A frame that is over is put away. -/
theorem WithinFrame.over {f : Frame} {rest : List Frame} {c : Connection}
    (hfits : FramesFit rest) (h : WithinFrame f f.payload.length rest c) :
    BeforeFrame rest (c.withStorage (tcpStorageResetFrame c.transportStorage)) := by
  have hover : c.transportStorage.recvWebsocketFramePos =
      c.transportStorage.recvWebsocketFrameLen := h.framePos.trans h.frameLen.symm
  rw [tcpStorageResetFrame, if_pos ⟨hover, h.inFrame⟩]
  refine ⟨?_, ?_, rfl, h.headerBuffer, ?_, fun _ => rfl, ?_⟩
  · exact (flagsCheck_clear_of_disjoint (by decide)).trans h.websocket
  · exact flagsCheck_clear_of_subset (by decide)
  · intro f' rest' hframes
    rw [hframes] at hfits
    exact Nat.lt_of_lt_of_le (show 0 < 2 from Nat.two_pos)
      (Frame.two_le_header (hfits f' List.mem_cons_self).1).1
  · have hinbox := h.stream
    rw [← Frame.length_body, List.drop_length] at hinbox
    exact hinbox

/-- The first part of a call finds a frame open, opens the next one, or waits for
its header. -/
theorem Framing.openFrame {c : Connection} {pending : List UInt8} (h : Framing c pending)
    (hw : Willing c.sock.recvPlan) :
    ∃ out c', tcpConnectionOpenFrame c = (.ok out, c') ∧ c'.recvBuffer = c.recvBuffer ∧
      c'.recvBufferPos = c.recvBufferPos ∧ c'.sock.recvPlan ⊆ c.sock.recvPlan ∧
      (out = false → Framing c' pending) ∧
      (out = true → ∃ f pos rest, FramesFit rest ∧ WithinFrame f pos rest c' ∧
        pending = f.payload.drop pos ++ payloads rest) := by
  have hbefore : ∀ {frames c₀}, FramesFit frames → BeforeFrame frames c₀ →
      Willing c₀.sock.recvPlan →
      ∃ out c', tcpConnectionOpenFrame c₀ = (.ok out, c') ∧ c'.recvBuffer = c₀.recvBuffer ∧
        c'.recvBufferPos = c₀.recvBufferPos ∧ c'.sock.recvPlan ⊆ c₀.sock.recvPlan ∧
        (out = false → Framing c' (payloads frames)) ∧
        (out = true → ∃ f pos rest, FramesFit rest ∧ WithinFrame f pos rest c' ∧
          payloads frames = f.payload.drop pos ++ payloads rest) := by
    intro frames c₀ hfits hbefore hw₀
    obtain ⟨out, c', hrun, hbuffer, hpos, hplan, hfalse, htrue⟩ := hbefore.open hfits hw₀
    refine ⟨out, c', hrun, hbuffer, hpos, hplan, fun hout => .before hfits (hfalse hout), ?_⟩
    intro hout
    obtain ⟨f, rest, rfl, hwithin⟩ := htrue hout
    exact ⟨f, 0, rest, fun f' hf' => hfits f' (List.mem_cons_of_mem _ hf'), hwithin, rfl⟩
  cases h with
  | before hfits h => exact hbefore hfits h hw
  | @within f pos rest hfits h =>
      by_cases hover : pos = f.payload.length
      · subst hover
        have hnext := h.over hfits
        have hsame : tcpConnectionOpenFrame c =
            tcpConnectionOpenFrame (c.withStorage (tcpStorageResetFrame c.transportStorage)) := by
          rw [tcpConnectionOpenFrame, tcpConnectionOpenFrame, hnext.reset]
          rfl
        rw [hsame, List.drop_length, List.nil_append]
        exact hbefore hfits hnext hw
      · have hkeep : tcpStorageResetFrame c.transportStorage = c.transportStorage := by
          rw [tcpStorageResetFrame, if_neg]
          rintro ⟨hboth, -⟩
          exact hover (h.framePos.symm.trans (hboth.trans h.frameLen))
        refine ⟨true, c, ?_, rfl, rfl, List.Subset.refl _, ?_,
          fun _ => ⟨f, pos, rest, hfits, h, rfl⟩⟩
        · rw [tcpConnectionOpenFrame, hkeep, show c.withStorage c.transportStorage = c from rfl]
          dsimp only
          rw [h.inFrame, if_pos rfl]
        · intro hout
          cases hout

/-! ## Payload -/

/-- What the receive of a payload hands over ends with the frame, and a frame that is
not masked is not unmasked. -/
def PayloadInFrame (c : Connection) (len : Nat) : Prop :=
  let s := c.transportStorage
  let moved := ioMoved c.sock.recvPlan (tcpConnectionFrameRecvLen c len) c.sock.inbox.length
  moved ≤ s.recvWebsocketFrameLen - s.recvWebsocketFramePos ∧
    (s.checkState TCP_TRANSPORT_STATE_RECV_WEBSOCKET_ENABLE_MASK = false →
      ∀ i < moved, s.recvWebsocketMask.getD ((s.recvWebsocketFramePos + i) % 4) 0 = 0)

instance (c : Connection) (len : Nat) : Decidable (PayloadInFrame c len) :=
  inferInstanceAs (Decidable (_ ∧ _))

theorem tcpConnectionFrameRecvLen_le (c : Connection) (len : Nat) :
    tcpConnectionFrameRecvLen c len ≤ len := by
  unfold tcpConnectionFrameRecvLen
  dsimp only
  split <;> omega

omit [SizeT] in
/-- The next bytes of a frame, unmasked. -/
theorem WithinFrame.unmask {f : Frame} {pos k : Nat} {rest : List Frame} {c : Connection}
    (h : WithinFrame f pos rest c) (hk : k ≤ f.payload.length - pos)
    (hplain : c.transportStorage.checkState
        TCP_TRANSPORT_STATE_RECV_WEBSOCKET_ENABLE_MASK = false →
      ∀ i < k, c.transportStorage.recvWebsocketMask.getD
        ((c.transportStorage.recvWebsocketFramePos + i) % 4) 0 = 0) :
    websocketMask c.transportStorage.recvWebsocketMask c.transportStorage.recvWebsocketFramePos
      (c.sock.inbox.take k) = (f.payload.drop pos).take k := by
  have htake : c.sock.inbox.take k = (f.body.drop pos).take k := by
    rw [h.stream, List.take_append_of_le_length]
    rw [List.length_drop, Frame.length_body]
    exact hk
  rw [websocketMask_eq, htake, Frame.drop_body, h.framePos]
  cases hkey : f.key with
  | some key => rw [h.key key hkey, take_mask, mask_mask]
  | none =>
      have hmasked := h.masked
      rw [hkey] at hmasked
      refine mask_eq_self fun i hi => ?_
      have hzero := hplain hmasked i (Nat.lt_of_lt_of_le hi (List.length_take_le _ _))
      rw [h.framePos] at hzero
      exact hzero

/-- A receive of payload that ends with the frame, or before. -/
theorem WithinFrame.recvPayload {f : Frame} {pos : Nat} {rest : List Frame} {c : Connection}
    (h : WithinFrame f pos rest c) (hw : Willing c.sock.recvPlan) {len : Nat}
    (hroom : c.recvBufferPos + len ≤ c.recvBuffer.length) (hin : PayloadInFrame c len) :
    ∃ k c', tcpConnectionRecvPayload c len = (.ok (), c') ∧
      c'.recvBufferPos = c.recvBufferPos + k ∧
      slice c'.recvBuffer c.recvBufferPos k = (f.payload.drop pos).take k ∧
      WithinFrame f (pos + k) rest c' := by
  obtain ⟨hmoved, hplain⟩ := hin
  have hasked := tcpConnectionFrameRecvLen_le c len
  have hbounds := ioMoved_le c.sock.recvPlan (tcpConnectionFrameRecvLen c len)
    c.sock.inbox.length
  obtain ⟨sock, hspec, hrest⟩ := tcpConnectionRecv_spec c (tcpConnectionFrameRecvLen c len)
  unfold tcpConnectionRecvPayload
  dsimp only at hmoved hplain ⊢
  generalize ioMoved _ _ _ = k at hmoved hplain hspec hbounds
  generalize tcpConnectionRecv _ _ = run at hspec hrest ⊢
  obtain ⟨rv, c'⟩ := run
  dsimp only at hspec hrest
  have hrv : rv = .ok () := hspec.willing hw
  have hpos : c'.recvBufferPos = c.recvBufferPos + k := hspec.pos_eq
  have hbuffer : c'.recvBuffer = overwrite c.recvBuffer c.recvBufferPos (c.sock.inbox.take k) :=
    hspec.buffer_eq
  have hlength : (c.sock.inbox.take k).length = k := List.length_take_of_le hbounds.2
  have hfit : c.recvBufferPos + (c.sock.inbox.take k).length ≤ c.recvBuffer.length := by
    omega
  have hstorage : c'.transportStorage = c.transportStorage := by
    rw [hrest]
  have hsock : c'.sock = sock := by
    rw [hrest]
  have hk : k ≤ f.payload.length - pos := by
    rw [h.frameLen, h.framePos] at hmoved
    exact hmoved
  have hgot := slice_overwrite_self hfit
  rw [hlength, ← hbuffer] at hgot
  have hunmasked := h.unmask hk hplain
  have hcount : ((f.payload.drop pos).take k).length = k := by
    rw [List.length_take, List.length_drop]
    omega
  rw [hrv]
  dsimp only
  rw [hpos, Nat.add_sub_cancel_left, hgot, hstorage, hunmasked]
  refine ⟨k, _, rfl, rfl, ?_, ?_⟩
  · have hroom' : c.recvBufferPos + ((f.payload.drop pos).take k).length ≤
        c'.recvBuffer.length := by
      rw [hbuffer, length_overwrite hfit]
      omega
    have hstored := slice_overwrite_self hroom'
    rw [hcount] at hstored
    exact hstored
  · have hpos_le := h.pos_le
    refine ⟨h.websocket, h.inFrame, ?_, by omega, h.frameLen, h.masked, h.key,
      h.headerBuffer, ?_⟩
    · exact congrArg (· + k) h.framePos
    · show c'.sock.inbox = _
      have hinbox : sock.inbox = c.sock.inbox.drop k := hspec.inbox_eq
      rw [hsock, hinbox, h.stream, List.drop_append_of_le_length, List.drop_drop]
      rw [List.length_drop, Frame.length_body]
      exact hk

/-! ## Runs -/

/-- A call of `buffer_recv`: the bytes that went out of the front of the buffer before it,
what the socket does during it, and how much it is asked for. -/
structure FrameReceive where
  taken : Nat
  plan : List IoOutcome
  len : Nat

omit [SizeT] in
/-- Frames after the first start with a byte. -/
theorem encodeAll_ne_nil (f : Frame) (rest : List Frame) : encodeAll (f :: rest) ≠ [] := by
  intro h
  cases h

/-- The state a call is made in. -/
def Connection.beforeReceive (c : Connection) (call : FrameReceive) : Connection :=
  { c with
    sock := { c.sock with recvPlan := call.plan }
    recvBuffer :=
      overwrite c.recvBuffer 0 (slice c.recvBuffer call.taken (c.recvBufferPos - call.taken))
    recvBufferPos := c.recvBufferPos - call.taken }

/-- A call answers its status and the bytes it put behind those in the buffer. -/
def FrameReceive.step (c : Connection) (call : FrameReceive) :
    (Result Unit × List UInt8) × Connection :=
  let prev := (c.beforeReceive call).recvBufferPos
  let (rv, c) := tcpConnectionBufferRecv (c.beforeReceive call) call.len
  ((rv, slice c.recvBuffer prev (c.recvBufferPos - prev)), c)

/-- The socket delivers or blocks, and what is asked for fits the buffer. -/
def FrameReceive.Fits (c : Connection) (call : FrameReceive) : Prop :=
  (∀ o ∈ call.plan, o ≠ .closed ∧ o ≠ .failed) ∧
    (c.beforeReceive call).recvBufferPos + call.len ≤ (c.beforeReceive call).recvBuffer.length

instance FrameReceive.decidableFits (c : Connection) (call : FrameReceive) :
    Decidable (FrameReceive.Fits c call) :=
  inferInstanceAs (Decidable (_ ∧ _))

/-- The state in which a call receives payload, if it gets that far. -/
def Connection.frameOpened (c : Connection) (call : FrameReceive) : Option Connection :=
  match tcpConnectionOpenFrame (c.beforeReceive call) with
  | (.ok true, c) => some c
  | _ => none

/-- Payload that a call receives ends with its frame, and is left as it is where the
frame is not masked. -/
def ReceivesInFrame (c : Connection) (call : FrameReceive) : Prop :=
  ∀ c' ∈ c.frameOpened call, PayloadInFrame c' call.len

instance (c : Connection) (call : FrameReceive) : Decidable (ReceivesInFrame c call) :=
  inferInstanceAs (Decidable (∀ c' ∈ c.frameOpened call, PayloadInFrame c' call.len))

theorem Framing.websocket {c : Connection} {pending : List UInt8} (h : Framing c pending) :
    c.transportStorage.checkState TCP_TRANSPORT_STATE_IS_WEBSOCKET = true := by
  cases h with
  | before fits h => exact h.websocket
  | within fits h => exact h.websocket

theorem Framing.beforeReceive {c : Connection} {pending : List UInt8} (h : Framing c pending)
    (call : FrameReceive) : Framing (c.beforeReceive call) pending := by
  cases h with
  | before fits h =>
      exact .before fits ⟨h.websocket, h.inFrame, h.framePos, h.headerBuffer, h.headerPos,
        h.headerPos_nil, h.stream⟩
  | within fits h =>
      exact .within fits ⟨h.websocket, h.inFrame, h.framePos, h.pos_le, h.frameLen, h.masked,
        h.key, h.headerBuffer, h.stream⟩

/-- A call appends the next bytes of the payloads. -/
theorem Framing.step {c : Connection} {pending : List UInt8} (h : Framing c pending)
    {call : FrameReceive} (hfits : FrameReceive.Fits c call) (hin : ReceivesInFrame c call) :
    (FrameReceive.step c call).1.1 = .ok () ∧
      ∃ pending', Framing (FrameReceive.step c call).2 pending' ∧
        (FrameReceive.step c call).1.2 ++ pending' = pending := by
  obtain ⟨hplan, hroom⟩ := hfits
  have hw : Willing (c.beforeReceive call).sock.recvPlan := willing_of_open hplan
  have hstart := h.beforeReceive call
  obtain ⟨out, c₁, hrun, hbuffer, hpos, hsub, hfalse, htrue⟩ := hstart.openFrame hw
  unfold FrameReceive.step tcpConnectionBufferRecv
  rw [hstart.websocket, if_pos rfl, tcpConnectionBufferRecvWebsocket, hrun]
  cases out with
  | false =>
      refine ⟨rfl, pending, hfalse rfl, ?_⟩
      dsimp only
      rw [hpos, Nat.sub_self, slice_zero, List.nil_append]
  | true =>
      obtain ⟨f, pos, rest, hrest, hwithin, rfl⟩ := htrue rfl
      have hpayload : PayloadInFrame c₁ call.len := by
        refine hin c₁ ?_
        rw [Connection.frameOpened, hrun]
        rfl
      obtain ⟨k, c', hrecv, hpos', hgot, hnext⟩ := hwithin.recvPayload (hw.mono hsub)
        (show c₁.recvBufferPos + call.len ≤ c₁.recvBuffer.length by rw [hpos, hbuffer]; exact hroom)
        hpayload
      dsimp only
      rw [hrecv]
      refine ⟨rfl, _, .within hrest hnext, ?_⟩
      dsimp only
      rw [← hpos, hpos', Nat.add_sub_cancel_left, hgot, ← List.append_assoc, ← List.drop_drop,
        List.take_append_drop]

/-- With no byte left to receive there is no payload left. -/
theorem Framing.pending_nil {c : Connection} {pending : List UInt8} (h : Framing c pending)
    (hinbox : c.sock.inbox = []) : pending = [] := by
  cases h with
  | @before frames fits h =>
      cases frames with
      | nil => rfl
      | cons f rest =>
          have hshort := h.headerPos f rest rfl
          have hlength := congrArg List.length h.stream
          rw [Connection.headerStream, hinbox, List.append_nil, List.length_take] at hlength
          have hframe : f.header.length ≤ (encodeAll (f :: rest)).length := by
            rw [encodeAll, List.flatMap_cons, Frame.encode, List.length_append, List.length_append]
            omega
          omega
  | @within f pos rest fits h =>
      have hstream := h.stream
      rw [hinbox] at hstream
      obtain ⟨hbody, hrest⟩ := List.append_eq_nil_iff.mp hstream.symm
      have hover : f.payload.length ≤ pos := by
        rw [← Frame.length_body]
        exact List.drop_eq_nil_iff.mp hbody
      cases rest with
      | nil => rw [List.drop_eq_nil_of_le hover]; rfl
      | cons f' rest => exact absurd hrest (encodeAll_ne_nil f' rest)

/-- What a run appends, and what is then still to come, is what was to come before it. -/
theorem Framing.run {c : Connection} {pending : List UInt8} (h : Framing c pending)
    {calls : List FrameReceive} (hfits : EveryCall FrameReceive.step FrameReceive.Fits c calls)
    (hin : EveryCall FrameReceive.step ReceivesInFrame c calls) :
    (∀ out ∈ outputs FrameReceive.step c calls, out.1 = .ok ()) ∧
      ∃ pending', Framing (final FrameReceive.step c calls) pending' ∧
        (outputs FrameReceive.step c calls).flatMap Prod.snd ++ pending' = pending := by
  induction calls generalizing c pending with
  | nil => exact ⟨fun out hout => absurd hout List.not_mem_nil, pending, h, rfl⟩
  | cons call calls ih =>
      obtain ⟨hok, pending₁, hnext, hfirst⟩ := h.step hfits.1 hin.1
      obtain ⟨hoks, pending', hfinal, hrest⟩ := ih hnext hfits.2 hin.2
      refine ⟨?_, pending', hfinal, ?_⟩
      · intro out hout
        obtain rfl | hout := List.mem_cons.mp hout
        · exact hok
        · exact hoks out hout
      · rw [outputs, List.flatMap_cons, List.append_assoc, hrest, hfirst]

/-- Calls append the payloads of the frames, as far as they came, and nothing else, where
every receive of payload ends with its frame and a frame without a mask is not
unmasked. -/
theorem websocketReceive_deframes {frames : List Frame} (hframes : FramesFit frames)
    {c : Connection} (h : BeforeFrame frames c) {calls : List FrameReceive}
    (hfits : EveryCall FrameReceive.step FrameReceive.Fits c calls)
    (hin : EveryCall FrameReceive.step ReceivesInFrame c calls) :
    (∀ out ∈ outputs FrameReceive.step c calls, out.1 = .ok ()) ∧
      (outputs FrameReceive.step c calls).flatMap Prod.snd <+: payloads frames ∧
      ((final FrameReceive.step c calls).sock.inbox = [] →
        (outputs FrameReceive.step c calls).flatMap Prod.snd = payloads frames) := by
  obtain ⟨hoks, pending, hfinal, happended⟩ :=
    (Framing.before hframes h).run hfits hin
  refine ⟨hoks, ⟨pending, happended⟩, fun hinbox => ?_⟩
  rw [hfinal.pending_nil hinbox, List.append_nil] at happended
  exact happended

end

section

open Lp64

/-- A WebSocket connection with a receive buffer of 64 bytes to which frames were sent. -/
def framesQueued (frames : List Frame) : Connection :=
  let c := connectionConstruct [] (List.replicate 64 0)
  { c with
    sock := { c.sock with inbox := encodeAll frames }
    transportStorage := TcpTransportStorage.zero.setState TCP_TRANSPORT_STATE_IS_WEBSOCKET }

theorem framesQueued_before {frames : List Frame} (h : FramesFit frames) :
    BeforeFrame frames (framesQueued frames) := by
  refine ⟨?_, ?_, rfl, rfl, ?_, fun _ => rfl, rfl⟩
  · exact flagsCheck_set_of_overlap (by decide)
  · show flagsCheck (flagsSet 0 TCP_TRANSPORT_STATE_IS_WEBSOCKET) _ = false
    decide
  · intro f rest hframes
    rw [hframes] at h
    exact Nat.lt_of_lt_of_le (show 0 < 2 from Nat.two_pos)
      (Frame.two_le_header (h f List.mem_cons_self).1).1

/-- A frame that is not masked and carries little. -/
def plainFrame (payload : List UInt8) : Frame := ⟨.short, none, payload⟩

theorem plainFrame_fits {payload : List UInt8} (h : payload.length < 126) :
    (plainFrame payload).WellFormed ∧ (plainFrame payload).payload.length < SizeT.modulus :=
  ⟨⟨h, fun _ hkey => nomatch hkey⟩, Nat.lt_trans h (by decide)⟩

/-- A masked frame of two bytes. -/
def maskedFrame : Frame := ⟨.medium, some [1, 2, 3, 4], [7, 7]⟩

theorem maskedFrame_fits :
    maskedFrame.WellFormed ∧ maskedFrame.payload.length < SizeT.modulus := by
  refine ⟨⟨show 2 < 2 ^ 16 by decide, fun key hkey => ?_⟩, by decide⟩
  obtain rfl := Option.some.inj hkey
  rfl

theorem framesFit_pair {f g : Frame} (hf : f.WellFormed ∧ f.payload.length < SizeT.modulus)
    (hg : g.WellFormed ∧ g.payload.length < SizeT.modulus) : FramesFit [f, g] := by
  intro f' hf'
  obtain rfl | hf' := List.mem_cons.mp hf'
  · exact hf
  · rw [List.mem_singleton.mp hf']
    exact hg

/-- A frame without a mask and then one with a mask, in pieces. -/
def plainThenMasked : List Frame := [plainFrame [5, 6], maskedFrame]

def receivedInPieces : List FrameReceive :=
  [⟨0, [.ready 0, .wouldBlock], 10⟩, ⟨0, [.ready 0, .ready 0, .wouldBlock], 10⟩,
    ⟨0, [.ready 0], 10⟩, ⟨2, [.ready 3, .ready 2, .ready 2], 10⟩, ⟨0, [.ready 63, .ready 63], 10⟩]

theorem plainThenMasked_deframed :
    (∀ out ∈ outputs FrameReceive.step (framesQueued plainThenMasked) receivedInPieces,
        out.1 = .ok ()) ∧
      (outputs FrameReceive.step (framesQueued plainThenMasked) receivedInPieces).flatMap
        Prod.snd <+: payloads plainThenMasked ∧
      ((final FrameReceive.step (framesQueued plainThenMasked) receivedInPieces).sock.inbox = [] →
        (outputs FrameReceive.step (framesQueued plainThenMasked) receivedInPieces).flatMap
          Prod.snd = payloads plainThenMasked) :=
  have hfits : FramesFit plainThenMasked :=
    framesFit_pair (plainFrame_fits (by decide)) maskedFrame_fits
  websocketReceive_deframes hfits (framesQueued_before hfits) (by decide +kernel)
    (by decide +kernel)

/-- A frame of two bytes with two frames of one byte behind it, and a masked frame with
one without a mask behind it. -/
def backToBack : List Frame := [plainFrame [1, 2], plainFrame [3], plainFrame [4]]

def maskedThenPlain : List Frame := [maskedFrame, plainFrame [5, 6]]

/-- With two bytes in the buffer a call takes two bytes too many, the next header, and
a key that was left over changes the payload of a frame without one. -/
theorem backToBack_misread :
    (FramesFit backToBack ∧ BeforeFrame backToBack (framesQueued backToBack) ∧
      EveryCall FrameReceive.step FrameReceive.Fits (framesQueued backToBack)
        (List.replicate 2 ⟨0, [.ready 63, .ready 63], 10⟩) ∧
      (outputs FrameReceive.step (framesQueued backToBack)
        (List.replicate 2 ⟨0, [.ready 63, .ready 63], 10⟩)).flatMap Prod.snd =
          [1, 2, 3, 0x82, 1] ∧
      ¬ [1, 2, 3, 0x82, 1] <+: payloads backToBack) ∧
    (FramesFit maskedThenPlain ∧ BeforeFrame maskedThenPlain (framesQueued maskedThenPlain) ∧
      EveryCall FrameReceive.step FrameReceive.Fits (framesQueued maskedThenPlain)
        (List.replicate 2 ⟨2, [.ready 63, .ready 63, .ready 63], 10⟩) ∧
      (outputs FrameReceive.step (framesQueued maskedThenPlain)
        (List.replicate 2 ⟨2, [.ready 63, .ready 63, .ready 63], 10⟩)).flatMap Prod.snd =
          [7, 7, 4, 4] ∧
      ¬ [7, 7, 4, 4] <+: payloads maskedThenPlain) := by
  have hback : FramesFit backToBack := by
    intro f hf
    obtain rfl | hf := List.mem_cons.mp hf
    · exact plainFrame_fits (by decide)
    · exact framesFit_pair (plainFrame_fits (by decide)) (plainFrame_fits (by decide)) f hf
  have hmasked : FramesFit maskedThenPlain :=
    framesFit_pair maskedFrame_fits (plainFrame_fits (by decide))
  refine ⟨⟨hback, framesQueued_before hback, ?_, ?_, ?_⟩,
    ⟨hmasked, framesQueued_before hmasked, ?_, ?_, ?_⟩⟩ <;> decide +kernel

end

end RobotRaconteurLite

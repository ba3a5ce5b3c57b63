import RobotRaconteurLite.TcpTransport

/-!
# What a socket moves

A nonblocking receive takes a prefix of the bytes that are there and puts it
behind the bytes received before, and a nonblocking send appends a slice of the
buffer to what the peer gets. How long the prefix or the slice is only depends
on the plan, on how much was asked for and on how much there is: `ioMoved`.
-/

namespace RobotRaconteurLite

open Splice

/-- How many bytes a plan moves when `want` are asked for and `avail` are there. -/
def ioMoved : List IoOutcome → Nat → Nat → Nat
  | .ready n :: plan, want, avail =>
      let k := min (n + 1) (min want avail)
      if k = 0 then 0 else k + ioMoved plan (want - k) (avail - k)
  | _, _, _ => 0

theorem ioMoved_le (plan : List IoOutcome) (want avail : Nat) :
    ioMoved plan want avail ≤ want ∧ ioMoved plan want avail ≤ avail := by
  fun_induction ioMoved plan want avail with
  | case1 => omega
  | case2 => omega
  | case3 => omega

/-- A plan that only makes progress or blocks. -/
def Willing (plan : List IoOutcome) : Prop :=
  ∀ o ∈ plan, o = .wouldBlock ∨ ∃ n, o = .ready n

theorem Willing.mono {plan plan' : List IoOutcome} (h : Willing plan) (hs : plan' ⊆ plan) :
    Willing plan' :=
  fun o ho => h o (hs ho)

/-- A plan in which the connection neither closes nor fails. -/
theorem willing_of_open {plan : List IoOutcome}
    (h : ∀ o ∈ plan, o ≠ .closed ∧ o ≠ .failed) : Willing plan := by
  intro o ho
  obtain ⟨hclosed, hfailed⟩ := h o ho
  cases o with
  | ready n => exact Or.inr ⟨n, rfl⟩
  | wouldBlock => exact Or.inl rfl
  | closed => exact absurd rfl hclosed
  | failed => exact absurd rfl hfailed

/-! ## Receiving -/

/-- A receive that moved `k` bytes. It answered, or the connection broke. -/
structure RecvSpec (sock : Socket) (buffer : List UInt8) (pos k : Nat) (run : RecvRun) :
    Prop where
  pos_eq : run.pos = pos + k
  buffer_eq : run.buffer = overwrite buffer pos (sock.inbox.take k)
  inbox_eq : run.sock.inbox = sock.inbox.drop k
  sendPlan_eq : run.sock.sendPlan = sock.sendPlan
  pollPlan_eq : run.sock.pollPlan = sock.pollPlan
  sent_eq : run.sock.sent = sock.sent
  recvPlan_subset : run.sock.recvPlan ⊆ sock.recvPlan
  status_eq : run.status = .ok () ∨ run.status = .error .connectionError
  willing : Willing sock.recvPlan → run.status = .ok ()

/-- A receive that ends where it started, with `plan` left. -/
theorem RecvSpec.still {sock : Socket} {buffer : List UInt8} {pos : Nat} {status : Result Unit}
    {plan : List IoOutcome} (flags : BitVec 16) (hplan : plan ⊆ sock.recvPlan)
    (hstatus : status = .ok () ∨ status = .error .connectionError)
    (hwilling : Willing sock.recvPlan → status = .ok ()) :
    RecvSpec sock buffer pos 0
      ⟨status, { sock with flags := flags, recvPlan := plan }, buffer, pos⟩ where
  pos_eq := rfl
  buffer_eq := by rw [List.take_zero, overwrite_nil]
  inbox_eq := rfl
  sendPlan_eq := rfl
  pollPlan_eq := rfl
  sent_eq := rfl
  recvPlan_subset := hplan
  status_eq := hstatus
  willing := hwilling

/-- A receive that goes on after `k` bytes. -/
theorem RecvSpec.after {sock : Socket} {buffer : List UInt8} {pos k m : Nat} {run : RecvRun}
    {plan : List IoOutcome} (hplan : plan ⊆ sock.recvPlan) (hk : k ≤ sock.inbox.length)
    (h : RecvSpec { sock with inbox := sock.inbox.drop k, recvPlan := plan }
      (overwrite buffer pos (sock.inbox.take k)) (pos + k) m run) :
    RecvSpec sock buffer pos (k + m) run where
  pos_eq := by rw [h.pos_eq, Nat.add_assoc]
  buffer_eq := by
    have hlen : (sock.inbox.take k).length = k := List.length_take_of_le hk
    have htouch : pos + k = pos + (sock.inbox.take k).length := by rw [hlen]
    rw [h.buffer_eq, htouch, overwrite_append, List.take_add]
  inbox_eq := by rw [h.inbox_eq, List.drop_drop]
  sendPlan_eq := h.sendPlan_eq
  pollPlan_eq := h.pollPlan_eq
  sent_eq := h.sent_eq
  recvPlan_subset := fun _ ho => hplan (h.recvPlan_subset ho)
  status_eq := h.status_eq
  willing hw := h.willing (hw.mono hplan)

theorem tcpSocketRecvLoop_spec (pos1 len : Nat) (sock : Socket) (plan : List IoOutcome)
    (inbox buffer : List UInt8) (pos : Nat) (hpos : pos1 ≤ pos) :
    RecvSpec { sock with recvPlan := plan, inbox := inbox } buffer pos
      (ioMoved plan (len - (pos - pos1)) inbox.length)
      (tcpSocketRecvLoop pos1 len sock plan inbox buffer pos) := by
  induction plan generalizing sock inbox buffer pos with
  | nil =>
      unfold tcpSocketRecvLoop
      dsimp only
      split
      · exact RecvSpec.still _ (List.Subset.refl _) (Or.inl rfl) fun _ => rfl
      · exact RecvSpec.still _ (List.Subset.refl _) (Or.inl rfl) fun _ => rfl
  | cons outcome plan ih =>
      have hsub : plan ⊆ outcome :: plan := List.subset_cons_self _ _
      unfold tcpSocketRecvLoop
      dsimp only
      by_cases hmore : pos - pos1 < len
      · rw [if_neg (not_not_intro hmore)]
        cases outcome with
        | ready n =>
            dsimp only
            have htake : (inbox.take (min (n + 1) (len - (pos - pos1)))).length =
                min (n + 1) (min (len - (pos - pos1)) inbox.length) := by
              rw [List.length_take]
              omega
            rw [ioMoved]
            by_cases hempty : inbox.take (min (n + 1) (len - (pos - pos1))) = []
            · have hzero : min (n + 1) (min (len - (pos - pos1)) inbox.length) = 0 := by
                rw [← htake, hempty, List.length_nil]
              rw [if_pos hempty, if_pos hzero]
              exact RecvSpec.still _ hsub (Or.inl rfl) fun _ => rfl
            · have hpos' : min (n + 1) (min (len - (pos - pos1)) inbox.length) ≠ 0 := by
                rw [← htake]
                exact fun h => hempty (List.eq_nil_of_length_eq_zero h)
              have hsame : inbox.take (min (n + 1) (len - (pos - pos1))) =
                  inbox.take (min (n + 1) (min (len - (pos - pos1)) inbox.length)) := by
                rw [List.take_eq_take_iff]
                omega
              rw [if_neg hempty, if_neg hpos', htake, hsame]
              generalize hk : min (n + 1) (min (len - (pos - pos1)) inbox.length) = k
              have hrest := ih { sock with inbox := inbox, recvPlan := plan } (inbox.drop k)
                (overwrite buffer pos (inbox.take k)) (pos + k) (by omega)
              rw [List.length_drop, show len - (pos + k - pos1) = len - (pos - pos1) - k by omega]
                at hrest
              have hle : k ≤ inbox.length := by omega
              exact RecvSpec.after hsub hle hrest
        | wouldBlock => exact RecvSpec.still _ hsub (Or.inl rfl) fun _ => rfl
        | closed =>
            dsimp only
            split
            · refine RecvSpec.still _ hsub (Or.inr rfl) fun h => ?_
              rcases h .closed (List.mem_cons_self ..) with h | ⟨n, h⟩ <;> cases h
            · exact RecvSpec.still _ hsub (Or.inl rfl) fun _ => rfl
        | failed =>
            refine RecvSpec.still _ hsub (Or.inr rfl) fun h => ?_
            rcases h .failed (List.mem_cons_self ..) with h | ⟨n, h⟩ <;> cases h
      · rw [if_pos hmore]
        have hzero : ioMoved (outcome :: plan) (len - (pos - pos1)) inbox.length = 0 := by
          have := ioMoved_le (outcome :: plan) (len - (pos - pos1)) inbox.length
          omega
        rw [hzero]
        exact RecvSpec.still _ (List.Subset.refl _) (Or.inl rfl) fun _ => rfl

theorem tcpSocketRecvNonblocking_spec (sock : Socket) (buffer : List UInt8) (pos len : Nat) :
    RecvSpec sock buffer pos (ioMoved sock.recvPlan len sock.inbox.length)
      (tcpSocketRecvNonblocking sock buffer pos len) := by
  have h := tcpSocketRecvLoop_spec pos len
    { sock with flags := flagsClear sock.flags SOCKET_FLAGS_RECEIVE_WOULD_BLOCK }
    sock.recvPlan sock.inbox buffer pos (Nat.le_refl _)
  rw [Nat.sub_self, Nat.sub_zero] at h
  exact ⟨h.1, h.2, h.3, h.4, h.5, h.6, h.7, h.8, h.9⟩

/-! ## Sending -/

/-- A send that moved `k` bytes. It answered, or the connection broke. -/
structure SendSpec (sock : Socket) (buffer : List UInt8) (pos k : Nat) (run : SendRun) :
    Prop where
  pos_eq : run.pos = pos + k
  sent_eq : run.sock.sent = sock.sent ++ slice buffer pos k
  inbox_eq : run.sock.inbox = sock.inbox
  recvPlan_eq : run.sock.recvPlan = sock.recvPlan
  pollPlan_eq : run.sock.pollPlan = sock.pollPlan
  sendPlan_subset : run.sock.sendPlan ⊆ sock.sendPlan
  status_eq : run.status = .ok () ∨ run.status = .error .connectionError
  willing : Willing sock.sendPlan → run.status = .ok ()

/-- A send that ends where it started, with `plan` left. -/
theorem SendSpec.still {sock : Socket} {buffer : List UInt8} {pos : Nat} {status : Result Unit}
    {plan : List IoOutcome} (flags : BitVec 16) (hplan : plan ⊆ sock.sendPlan)
    (hstatus : status = .ok () ∨ status = .error .connectionError)
    (hwilling : Willing sock.sendPlan → status = .ok ()) :
    SendSpec sock buffer pos 0
      ⟨status, { sock with flags := flags, sendPlan := plan }, pos⟩ where
  pos_eq := rfl
  sent_eq := by rw [slice_zero, List.append_nil]
  inbox_eq := rfl
  recvPlan_eq := rfl
  pollPlan_eq := rfl
  sendPlan_subset := hplan
  status_eq := hstatus
  willing := hwilling

/-- A send that goes on after `k` bytes. -/
theorem SendSpec.after {sock : Socket} {buffer : List UInt8} {pos k m : Nat} {run : SendRun}
    {plan : List IoOutcome} (hplan : plan ⊆ sock.sendPlan)
    (h : SendSpec { sock with sent := sock.sent ++ slice buffer pos k, sendPlan := plan }
      buffer (pos + k) m run) :
    SendSpec sock buffer pos (k + m) run where
  pos_eq := by rw [h.pos_eq, Nat.add_assoc]
  sent_eq := by rw [h.sent_eq, slice_add, List.append_assoc]
  inbox_eq := h.inbox_eq
  recvPlan_eq := h.recvPlan_eq
  pollPlan_eq := h.pollPlan_eq
  sendPlan_subset := fun _ ho => hplan (h.sendPlan_subset ho)
  status_eq := h.status_eq
  willing hw := h.willing (hw.mono hplan)

theorem tcpSocketSendLoop_spec (buffer : List UInt8) (pos1 len : Nat) (sock : Socket)
    (plan : List IoOutcome) (sent : List UInt8) (pos : Nat) (hpos : pos1 ≤ pos) :
    SendSpec { sock with sendPlan := plan, sent := sent } buffer pos
      (ioMoved plan (len - (pos - pos1)) (len - (pos - pos1)))
      (tcpSocketSendLoop buffer pos1 len sock plan sent pos) := by
  induction plan generalizing sock sent pos with
  | nil =>
      unfold tcpSocketSendLoop
      dsimp only
      split
      · exact SendSpec.still _ (List.Subset.refl _) (Or.inl rfl) fun _ => rfl
      · exact SendSpec.still _ (List.Subset.refl _) (Or.inl rfl) fun _ => rfl
  | cons outcome plan ih =>
      have hsub : plan ⊆ outcome :: plan := List.subset_cons_self _ _
      unfold tcpSocketSendLoop
      dsimp only
      by_cases hmore : pos - pos1 < len
      · rw [if_neg (not_not_intro hmore)]
        cases outcome with
        | ready n =>
            dsimp only
            rw [ioMoved]
            rw [Nat.min_self, if_neg (by omega)]
            generalize hk : min (n + 1) (len - (pos - pos1)) = k
            have hrest := ih { sock with sent := sent, sendPlan := plan } (sent ++ slice buffer pos k)
              (pos + k) (by omega)
            rw [show len - (pos + k - pos1) = len - (pos - pos1) - k by omega] at hrest
            exact SendSpec.after hsub hrest
        | wouldBlock => exact SendSpec.still _ hsub (Or.inl rfl) fun _ => rfl
        | closed =>
            dsimp only
            split
            · refine SendSpec.still _ hsub (Or.inr rfl) fun h => ?_
              rcases h .closed (List.mem_cons_self ..) with h | ⟨n, h⟩ <;> cases h
            · exact SendSpec.still _ hsub (Or.inl rfl) fun _ => rfl
        | failed =>
            refine SendSpec.still _ hsub (Or.inr rfl) fun h => ?_
            rcases h .failed (List.mem_cons_self ..) with h | ⟨n, h⟩ <;> cases h
      · rw [if_pos hmore]
        have hzero : ioMoved (outcome :: plan) (len - (pos - pos1)) (len - (pos - pos1)) = 0 := by
          have := ioMoved_le (outcome :: plan) (len - (pos - pos1)) (len - (pos - pos1))
          omega
        rw [hzero]
        exact SendSpec.still _ (List.Subset.refl _) (Or.inl rfl) fun _ => rfl

theorem tcpSocketSendNonblocking_spec (sock : Socket) (buffer : List UInt8) (pos len : Nat) :
    SendSpec sock buffer pos (ioMoved sock.sendPlan len len)
      (tcpSocketSendNonblocking sock buffer pos len) := by
  have h := tcpSocketSendLoop_spec buffer pos len
    { sock with flags := flagsClear sock.flags SOCKET_FLAGS_SEND_WOULD_BLOCK }
    sock.sendPlan sock.sent pos (Nat.le_refl _)
  rw [Nat.sub_self, Nat.sub_zero] at h
  exact ⟨h.1, h.2, h.3, h.4, h.5, h.6, h.7, h.8⟩

/-! ## The connection's two buffers -/

/-- A receive into the receive buffer touches it and the socket only. -/
theorem tcpConnectionRecv_spec (c : Connection) (len : Nat) :
    ∃ sock, RecvSpec c.sock c.recvBuffer c.recvBufferPos
        (ioMoved c.sock.recvPlan len c.sock.inbox.length)
        ⟨(tcpConnectionRecv c len).1, sock, (tcpConnectionRecv c len).2.recvBuffer,
          (tcpConnectionRecv c len).2.recvBufferPos⟩ ∧
      (tcpConnectionRecv c len).2 = { c with
        sock := sock
        recvBuffer := (tcpConnectionRecv c len).2.recvBuffer
        recvBufferPos := (tcpConnectionRecv c len).2.recvBufferPos } :=
  ⟨_, tcpSocketRecvNonblocking_spec c.sock c.recvBuffer c.recvBufferPos len, rfl⟩

/-- A send out of the send buffer moves its position and the socket only. -/
theorem tcpConnectionSend_spec (c : Connection) (len : Nat) :
    ∃ sock, SendSpec c.sock c.sendBuffer c.sendBufferPos (ioMoved c.sock.sendPlan len len)
        ⟨(tcpConnectionSend c len).1, sock, (tcpConnectionSend c len).2.sendBufferPos⟩ ∧
      (tcpConnectionSend c len).2 = { c with
        sock := sock
        sendBufferPos := (tcpConnectionSend c len).2.sendBufferPos } :=
  ⟨_, tcpSocketSendNonblocking_spec c.sock c.sendBuffer c.sendBufferPos len, rfl⟩

end RobotRaconteurLite

import RobotRaconteurLite.TcpConnections

/-!
# Slots after a failed connect

A client takes an idle slot as soon as it has a socket. What can still fail after
that returns at once, and the slot stays as it is by then: connecting, with the
socket open in it, and marked for nobody to reclaim.
-/

namespace RobotRaconteurLite

/-- Every slot that was idle is idle or will be reclaimed, and where it holds the socket
that the call opened, the client refers to it. -/
def KeepsIdleSlots (before after : List Connection) (client : NodeClient)
    (connected : Result Socket) : Prop :=
  ∀ i c d, before[i]? = some c → c.checkState STATUS_FLAGS_IDLE = true → after[i]? = some d →
    d.checkState (STATUS_FLAGS_IDLE ||| STATUS_FLAGS_CLOSE_REQUESTED ||| STATUS_FLAGS_ERROR) = true ∧
    ∀ sock, connected = .ok sock → d.sock.sock = sock.sock → client.clientConnection = some i

/-- What is asked of the address and the slot after the socket has been opened: names that
fit, and for a WebSocket a request that fits with a host and a key, else the TCP scheme and
a valid socket address. -/
def ConnectAccepted (digest : TcpDigest) (addr : Addr) (c : Connection) : Prop :=
  addr.nodename.length ≤ MESSAGE_STR_MAX_SIZE ∧ addr.serviceName.length ≤ MESSAGE_STR_MAX_SIZE ∧
  ((addr.scheme = SCHEME_RR_WS ∧ (httpRequestLen addr).toNat ≤ c.sendBufferLen ∧ addr.httpHost ≠ [] ∧
      ∃ key, digest.base64Encode (websocketKey c.randPlan) = .ok key ∧
        key.length = WEBSOCKET_KEY_BASE64_LEN) ∨
    (addr.scheme ≠ SCHEME_RR_WS ∧ addr.scheme = SCHEME_RR_TCP ∧
      flagsCheck addr.flags ADDR_FLAGS_SOCKADDR_VALID = true))

variable {digest : TcpDigest} {addr : Addr} {c : Connection}

/-! ## What the slot is left as -/

/-- The names decide whether the slot is set up in full, and it is connecting either way. -/
theorem connectionImplConnect2_spec (c : Connection) (now : Int64) (addr : Addr) (sock : Socket) :
    ∃ rv d, connectionImplConnect2 c now TCP_TRANSPORT addr sock = (rv, d) ∧
      d.connectionState = STATUS_FLAGS_CONNECTING ∧ d.sendBufferLen = c.sendBufferLen ∧
      d.randPlan = c.randPlan ∧
      (rv = .ok () ↔ addr.nodename.length ≤ MESSAGE_STR_MAX_SIZE ∧
        addr.serviceName.length ≤ MESSAGE_STR_MAX_SIZE) := by
  unfold connectionImplConnect2 stringCopyToBufferStorage
  by_cases hnodename : addr.nodename.length > MESSAGE_STR_MAX_SIZE
  · rw [if_pos hnodename]
    refine ⟨_, _, rfl, rfl, rfl, rfl, iff_of_false nofun fun h => ?_⟩
    omega
  · rw [if_neg hnodename]
    by_cases hservice : addr.serviceName.length > MESSAGE_STR_MAX_SIZE
    · rw [if_pos hservice]
      refine ⟨_, _, rfl, rfl, rfl, rfl, iff_of_false nofun fun h => ?_⟩
      omega
    · rw [if_neg hservice]
      exact ⟨_, _, rfl, rfl, rfl, rfl, iff_of_true rfl ⟨by omega, by omega⟩⟩

/-- The request is written or refused, and the state of the slot stays. -/
theorem sendWebsocketHttpHeader_spec (digest : TcpDigest) (addr : Addr) (c : Connection) :
    ∃ rv d, tcpConnectServiceSendWebsocketHttpHeader digest addr c = (rv, d) ∧
      d.connectionState = c.connectionState ∧
      (rv = .ok () ↔ (httpRequestLen addr).toNat ≤ c.sendBufferLen ∧ addr.httpHost ≠ [] ∧
        ∃ key, digest.base64Encode (websocketKey c.randPlan) = .ok key ∧
          key.length = WEBSOCKET_KEY_BASE64_LEN) := by
  unfold tcpConnectServiceSendWebsocketHttpHeader
  by_cases hlen : (httpRequestLen addr).toNat > c.sendBufferLen
  · rw [if_pos hlen]
    refine ⟨_, _, rfl, rfl, iff_of_false nofun fun h => ?_⟩
    omega
  · rw [if_neg hlen]
    by_cases hhost : addr.httpHost.length = 0
    · rw [if_pos hhost]
      exact ⟨_, _, rfl, rfl, iff_of_false nofun fun h => h.2.1 (List.length_eq_zero_iff.mp hhost)⟩
    · rw [if_neg hhost]
      have hhost' : addr.httpHost ≠ [] := fun h => hhost (by rw [h]; rfl)
      cases hkey : digest.base64Encode (websocketKey c.randPlan) with
      | error e =>
          dsimp only
          exact ⟨_, _, rfl, rfl, iff_of_false nofun nofun⟩
      | ok key =>
          dsimp only
          by_cases hkeylen : key.length = WEBSOCKET_KEY_BASE64_LEN
          · rw [if_neg (not_not_intro hkeylen)]
            exact ⟨_, _, rfl, rfl, iff_of_true rfl ⟨by omega, hhost', key, rfl, hkeylen⟩⟩
          · rw [if_pos hkeylen]
            refine ⟨_, _, rfl, rfl, iff_of_false nofun ?_⟩
            rintro ⟨-, -, key', hkey', hlen'⟩
            cases hkey'
            exact hkeylen hlen'

/-- The slot is left connecting, sending held up or not, whether it was started or not. -/
theorem tcpConnectServiceStart_spec (digest : TcpDigest) (addr : Addr)
    (hc : c.connectionState = STATUS_FLAGS_CONNECTING) :
    ∃ rv d, tcpConnectServiceStart digest addr c = (rv, d) ∧
      d.checkState (STATUS_FLAGS_IDLE ||| STATUS_FLAGS_CLOSE_REQUESTED ||| STATUS_FLAGS_ERROR) = false ∧
      (rv = .ok () ↔ (addr.scheme = SCHEME_RR_WS ∧ (httpRequestLen addr).toNat ≤ c.sendBufferLen ∧
          addr.httpHost ≠ [] ∧ ∃ key, digest.base64Encode (websocketKey c.randPlan) = .ok key ∧
            key.length = WEBSOCKET_KEY_BASE64_LEN) ∨
        (addr.scheme ≠ SCHEME_RR_WS ∧ addr.scheme = SCHEME_RR_TCP ∧
          flagsCheck addr.flags ADDR_FLAGS_SOCKADDR_VALID = true)) := by
  have hconnecting : c.checkState
      (STATUS_FLAGS_IDLE ||| STATUS_FLAGS_CLOSE_REQUESTED ||| STATUS_FLAGS_ERROR) = false := by
    rw [Connection.checkState, hc]
    decide
  unfold tcpConnectServiceStart
  by_cases hws : addr.scheme = SCHEME_RR_WS
  · rw [if_pos (stringCmp_eq_zero_iff.mpr hws)]
    obtain ⟨rv, d, heq, hstate, hiff⟩ := sendWebsocketHttpHeader_spec digest addr
      ((c.withStorage (c.transportStorage.setState (TCP_TRANSPORT_STATE_IS_WEBSOCKET |||
        TCP_TRANSPORT_STATE_IN_HTTP_HEADER))).setState STATUS_FLAGS_BLOCK_SEND)
    refine ⟨rv, d, heq, ?_, ?_⟩
    · rw [Connection.checkState, hstate]
      show flagsCheck (flagsSet c.connectionState STATUS_FLAGS_BLOCK_SEND) _ = false
      rw [hc]
      decide
    · rw [hiff]
      constructor
      · intro h
        exact Or.inl ⟨hws, h⟩
      · rintro (h | h)
        · exact h.2
        · exact absurd hws h.1
  · rw [if_neg (mt stringCmp_eq_zero_iff.mp hws)]
    by_cases htcp : addr.scheme = SCHEME_RR_TCP
    · rw [if_neg (not_not_intro (stringCmp_eq_zero_iff.mpr htcp))]
      by_cases hvalid : flagsCheck addr.flags ADDR_FLAGS_SOCKADDR_VALID = true
      · rw [if_neg (not_not_intro hvalid)]
        exact ⟨_, _, rfl, hconnecting, iff_of_true rfl (Or.inr ⟨hws, htcp, hvalid⟩)⟩
      · rw [if_pos hvalid]
        refine ⟨_, _, rfl, hconnecting, iff_of_false nofun ?_⟩
        rintro (h | h)
        · exact hws h.1
        · exact hvalid h.2.2
    · rw [if_pos (mt stringCmp_eq_zero_iff.mp htcp)]
      refine ⟨_, _, rfl, hconnecting, iff_of_false nofun ?_⟩
      rintro (h | h)
      · exact hws h.1
      · exact htcp h.2.1

/-! ## A failed connect -/

theorem findIdle_eq_some {connections : List Connection} {i : Nat}
    (h : connectionFindIdle connections = some (c, i)) :
    connections[i]? = some c ∧ c.checkState STATUS_FLAGS_IDLE = true := by
  refine ⟨?_, by simpa using List.find?_some h⟩
  exact List.mem_zipIdx_iff_getElem?.mp (List.mem_of_find?_eq_some h)

theorem findIdle_eq_none {connections : List Connection}
    (h : connectionFindIdle connections = none) {i : Nat} (hi : connections[i]? = some c) :
    c.checkState STATUS_FLAGS_IDLE = false := by
  have hall := List.find?_eq_none.mp h (c, i) (List.mem_zipIdx_iff_getElem?.mpr hi)
  simpa using hall

theorem keepsIdleSlots_self (connections : List Connection) (client : NodeClient) {e : Status} :
    KeepsIdleSlots connections connections client (.error e) := by
  intro i c d hc hidle hd
  rw [hc] at hd
  cases hd
  exact ⟨flagsCheck_of_subset (by decide) hidle, nofun⟩

/-- Once the slot has the socket, a failure leaves it to nobody. -/
theorem not_keepsIdleSlots {connections : List Connection} {d : Connection} {i : Nat}
    {client : NodeClient} {connected : Result Socket}
    (hfind : connectionFindIdle connections = some (c, i))
    (hd : d.checkState (STATUS_FLAGS_IDLE ||| STATUS_FLAGS_CLOSE_REQUESTED ||| STATUS_FLAGS_ERROR) =
      false) : ¬ KeepsIdleSlots connections (connections.set i d) client connected := by
  intro h
  obtain ⟨hi, hidle⟩ := findIdle_eq_some hfind
  have hlt : i < connections.length := (List.getElem?_eq_some_iff.mp hi).1
  have hkept := (h i c d hi hidle (List.getElem?_set_self hlt)).1
  rw [hd] at hkept
  cases hkept

/-- A connect that fails keeps every slot, exactly when it fails for want of an idle slot or
of a socket: whatever it asks for after that has to be there. -/
theorem failedConnect_keepsSlots_iff (digest : TcpDigest) (connections : List Connection)
    (client : NodeClient) (now : Int64) (connected : Result Socket) :
    ((∃ e, (tcpConnectService digest connections client now connected).1 = .error e) →
      KeepsIdleSlots connections (tcpConnectService digest connections client now connected).2.1
        (tcpConnectService digest connections client now connected).2.2 connected) ↔
    ∀ c i sock, connectionFindIdle connections = some (c, i) → connected = .ok sock →
      ConnectAccepted digest client.serviceAddress c := by
  unfold tcpConnectService
  cases hfind : connectionFindIdle connections with
  | none =>
      refine iff_of_true (fun _ i c d hc hidle _ => ?_) nofun
      rw [findIdle_eq_none hfind hc] at hidle
      cases hidle
  | some slot =>
      obtain ⟨c, i⟩ := slot
      cases connected with
      | error e => exact iff_of_true (fun _ => keepsIdleSlots_self connections client) nofun
      | ok sock =>
          dsimp only
          obtain ⟨rv, d, heq, hstate, hlen, hrand, hnames⟩ :=
            connectionImplConnect2_spec c now client.serviceAddress sock
          rw [heq]
          cases rv with
          | error e =>
              have hunmarked : d.checkState (STATUS_FLAGS_IDLE ||| STATUS_FLAGS_CLOSE_REQUESTED |||
                  STATUS_FLAGS_ERROR) = false := by
                rw [Connection.checkState, hstate]
                decide
              refine iff_of_false (fun h => not_keepsIdleSlots hfind hunmarked (h ⟨e, rfl⟩)) fun h => ?_
              obtain ⟨hnodename, hservice, -⟩ := h c i sock rfl rfl
              cases hnames.mpr ⟨hnodename, hservice⟩
          | ok u =>
              obtain ⟨rv, d', heq', hunmarked, hstart⟩ := tcpConnectServiceStart_spec digest
                client.serviceAddress
                (show ({ d with client := some client.client } : Connection).connectionState =
                  STATUS_FLAGS_CONNECTING from hstate)
              dsimp only at hstart ⊢
              rw [hlen, hrand] at hstart
              rw [heq']
              have haccepted : ConnectAccepted digest client.serviceAddress c ↔ rv = .ok () := by
                rw [hstart, ConnectAccepted, ← and_assoc, and_iff_right (hnames.mp rfl)]
              cases rv with
              | error e =>
                  refine iff_of_false (fun h => not_keepsIdleSlots hfind hunmarked (h ⟨e, rfl⟩))
                    fun h => ?_
                  cases haccepted.mp (h c i sock rfl rfl)
              | ok u =>
                  refine iff_of_true (fun h => ?_) fun c' i' _ hc' _ => ?_
                  · obtain ⟨e, he⟩ := h
                    cases he
                  · cases hc'
                    exact haccepted.mpr rfl

/-- A list of one slot that is idle. -/
def oneIdleSlot : List Connection := [connectionInit (connectionConstruct (List.replicate 8 0) [])]

/-- An address with the scheme `rr+udp://`, which no transport has. -/
def udpAddr : Addr where
  scheme := [114, 114, 43, 117, 100, 112, 58, 47, 47]
  socketAddr := []
  nodeid := NodeId.any
  nodename := []
  serviceName := []
  flags := ADDR_FLAGS_SOCKADDR_VALID
  httpHost := []
  httpPath := []

/-- The slot is taken for an address with the wrong scheme and stays taken. -/
theorem wrongScheme_leaksSlot :
    ¬ ∀ (digest : TcpDigest) (connections : List Connection) (client : NodeClient) (now : Int64)
      (connected : Result Socket),
      (∃ e, (tcpConnectService digest connections client now connected).1 = .error e) →
      KeepsIdleSlots connections (tcpConnectService digest connections client now connected).2.1
        (tcpConnectService digest connections client now connected).2.2 connected := by
  intro h
  have hkept := (h ⟨.ok, .ok⟩ oneIdleSlot ⟨0, udpAddr, none⟩ 0 (.ok ⟨0, [], [], [], [], [], 3, []⟩)
    ⟨.invalidArgument, by decide⟩ 0 _ _ rfl (by decide) rfl).1
  revert hkept
  decide

end RobotRaconteurLite

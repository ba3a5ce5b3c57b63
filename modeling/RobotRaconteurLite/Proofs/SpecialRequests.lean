import RobotRaconteurLite.Proofs.NodeFrames

/-!
# What a special request changes

The node deals with a special request on the connection it came in on: it sends
responses there, and changes the connection. A response has an even type, so
none of them is a request.
-/

namespace RobotRaconteurLite

theorem succ_even {x : UInt16} (h : x % 2 = 1) : (x + 1) % 2 = 0 := by
  have hx := congrArg UInt16.toNat h
  rw [UInt16.toNat_mod] at hx
  apply UInt16.toNat_inj.mp
  rw [UInt16.toNat_mod, UInt16.toNat_add]
  change x.toNat % 2 = 1 at hx
  change (x.toNat + 1) % 2 ^ 16 % 2 = 0
  omega

theorem and_one_of_mod_two {x : UInt16} (h : x % 2 = 1) : ¬ x &&& 1 = 0 := by
  intro h0
  have hand : (x &&& 1).toNat = x.toNat % 2 := by
    rw [UInt16.toNat_and]
    exact Nat.and_one_is_mod x.toNat
  have hx := congrArg UInt16.toNat h
  rw [UInt16.toNat_mod] at hx
  change x.toNat % 2 = 1 at hx
  rw [h0, hx] at hand
  cases hand

section

variable [SizeT]

/-- The node answered on connection `i`. -/
structure Node.Answers (node node' : Node) (i : Nat) : Prop where
  rest : node' = { node with connection := node'.connection, effects := node'.effects }
  connection : ∀ j, j ≠ i → node'.connection j = node.connection j
  effects : ∃ headers : List MessageEntryConstHeader,
    node'.effects = node.effects ++ headers.map (.queued i) ∧
    ∀ header ∈ headers, header.entryType % 2 = 0

namespace Node.Answers

variable {node node' node'' : Node} {i : Nat}

theorem refl (node : Node) (i : Nat) : node.Answers node i where
  rest := rfl
  connection _ _ := rfl
  effects := ⟨[], (List.append_nil _).symm, List.forall_mem_nil _⟩

theorem trans (h : node.Answers node' i) (h' : node'.Answers node'' i) : node.Answers node'' i where
  rest := by rw [h'.rest, h.rest]
  connection j hj := (h'.connection j hj).trans (h.connection j hj)
  effects := by
    obtain ⟨headers, heffects, heven⟩ := h.effects
    obtain ⟨headers', heffects', heven'⟩ := h'.effects
    refine ⟨headers ++ headers', ?_, ?_⟩
    · rw [heffects', heffects, List.map_append, List.append_assoc]
    · intro header hmem
      exact (List.mem_append.mp hmem).elim (heven header) (heven' header)

theorem client (h : node.Answers node' i) : node'.client = node.client := by
  rw [h.rest]

theorem modifyConnection (node : Node) (i : Nat) (f : Connection → Connection) :
    node.Answers (node.modifyConnection i f) i where
  rest := rfl
  connection _ hj := modifyConnection_connection_ne node f hj
  effects := ⟨[], (List.append_nil _).symm, List.forall_mem_nil _⟩

theorem queue (node : Node) (i : Nat) (b : List UInt8) (len : Nat) {header : MessageEntryConstHeader}
    (heven : header.entryType % 2 = 0) : node.Answers (node.queue i b len header) i where
  rest := rfl
  connection j hj := modifyConnection_connection_ne node
    (fun c => connectionEndSendMessage { c with sendBuffer := b } len) hj
  effects := ⟨[header], rfl, by simpa using heven⟩

theorem withSendBuffer (node : Node) (i : Nat) (b : List UInt8) :
    node.Answers (node.withSendBuffer i b) i := modifyConnection node i _

theorem consumed (node : Node) {event : Event} (h : event.eventType ≠ .nextCycle) :
    node.Answers (node.consumed event) event.connection := by
  rw [Node.consumed_of_ne h]
  exact modifyConnection node _ _

end Node.Answers

/-! ## Replies -/

/-- What came of the reply to a request that was sent from `node`. A connection that answered is
changed by `after`. -/
inductive Replied (node : Node) (event : Event) (after : Connection → Connection) :
    Result Unit × Node → Prop
  | retry (b : List UInt8) :
      Replied node event after (.error .retry, node.withSendBuffer event.connection b)
  | failed (b : List UInt8) :
      Replied node event after (.error .consumed,
        ((node.withSendBuffer event.connection b).modifyConnection event.connection
          connectionError).consumed event)
  | ignored (b : List UInt8) :
      Replied node event after
        (.error .consumed, (node.withSendBuffer event.connection b).consumed event)
  | answered (b : List UInt8) (len : Nat) {header : MessageEntryConstHeader}
      (hType : header.entryType = event.requestHeader.entryType + 1)
      (hid : header.requestId = event.requestHeader.requestId) :
      Replied node event after (.error .consumed,
        ((node.queue event.connection b len header).modifyConnection event.connection
          after).consumed event)

section

variable {node : Node} {event : Event}

theorem Replied.answered_id (b : List UInt8) (len : Nat) {header : MessageEntryConstHeader}
    (hType : header.entryType = event.requestHeader.entryType + 1)
    (hid : header.requestId = event.requestHeader.requestId) :
    Replied node event id
      (.error .consumed, (node.queue event.connection b len header).consumed event) := by
  have h : Replied node event id _ := .answered b len hType hid
  rwa [Node.modifyConnection_id] at h

theorem specialRequestHandleError_replied (after : Connection → Connection) (b : List UInt8)
    (err : Status) :
    Replied node event after
      (specialRequestHandleError (node.withSendBuffer event.connection b) event err) := by
  unfold specialRequestHandleError
  split
  · exact .retry b
  · exact .failed b

theorem streamopRespond_cases (node : Node) (event : Event) (capsFlags : BitVec 32) :
    (∃ e b, streamopRespond node event capsFlags =
      (.error e, node.withSendBuffer event.connection b)) ∨
      ∃ b len, streamopRespond node event capsFlags =
        (.ok (), node.queue event.connection b len (responseHeader event.requestHeader)) := by
  unfold streamopRespond
  dsimp only
  split
  · exact nodeSendMessageentry_cases node _ _ _
  · unfold nodeBeginSendMessageentryResponse
    rcases nodeBeginSendMessageentry_cases node event.connection
        (responseHeader event.requestHeader) with ⟨e, b, hbegin⟩ | ⟨sendData, b, hbegin, hheader⟩
    · rw [hbegin]
      exact Or.inl ⟨e, b, rfl⟩
    · rw [hbegin]
      dsimp only
      rcases nodeWriteElements_cases (node.withSendBuffer event.connection b) event.connection
          sendData (nodeTransportPopulateCapabilities capsFlags) with
        ⟨e, b', hwrite⟩ | ⟨sendData', b', hwrite, hheader'⟩
      · rw [hwrite, withSendBuffer_withSendBuffer]
        exact Or.inl ⟨.internalError, b', rfl⟩
      · rw [hwrite, withSendBuffer_withSendBuffer]
        dsimp only
        rcases nodeEndSendMessageentry_cases (node.withSendBuffer event.connection b')
            event.connection sendData' with ⟨e, b'', hend⟩ | ⟨b'', len, hend⟩
        · rw [hend, withSendBuffer_withSendBuffer]
          exact Or.inl ⟨e, b'', rfl⟩
        · rw [hend, withSendBuffer_queue, hheader', hheader]
          exact Or.inr ⟨b'', len, rfl⟩

/-- The connection that a `STREAMOP` request is answered on. -/
def connectionStreamop (event : Event) (capsFlags : BitVec 32) (c : Connection) : Connection :=
  let c := { c with remoteNodeid := event.receivedMessage.receivedMessageHeader.senderNodeid }
  if flagsCheck capsFlags CONNECTION_PARSE_CAPABILITY_MESSAGE4 then
    c.setState STATUS_FLAGS_SEND_MESSAGE4
  else c

theorem specialRequestStreamop_replied (node : Node) (event : Event) :
    ∃ capsFlags, Replied (node.modifyConnection event.connection (connectionStreamop event capsFlags))
      event (·.setState STATUS_FLAGS_ESTABLISHED) (specialRequestStreamop node event) := by
  unfold specialRequestStreamop
  dsimp only
  generalize (if event.requestHeader.elementCount > 0 then
      nodeTransportParseCapabilities event.receivedMessage.entryReader else 0) = capsFlags
  refine ⟨capsFlags, ?_⟩
  have hprepared : (if flagsCheck capsFlags CONNECTION_PARSE_CAPABILITY_MESSAGE4 then
      (node.modifyConnection event.connection fun c =>
        { c with remoteNodeid := event.receivedMessage.receivedMessageHeader.senderNodeid
          }).modifyConnection event.connection (·.setState STATUS_FLAGS_SEND_MESSAGE4)
      else node.modifyConnection event.connection fun c =>
        { c with remoteNodeid := event.receivedMessage.receivedMessageHeader.senderNodeid }) =
      node.modifyConnection event.connection (connectionStreamop event capsFlags) := by
    unfold connectionStreamop
    split
    · rw [Node.modifyConnection_modifyConnection]
    · rfl
  rw [hprepared]
  rcases streamopRespond_cases (node.modifyConnection event.connection
      (connectionStreamop event capsFlags)) event capsFlags with ⟨e, b, h⟩ | ⟨b, len, h⟩
  · rw [h]
    exact specialRequestHandleError_replied _ b e
  · rw [h]
    exact .answered b len rfl rfl

/-- The connection that a `CONNECTCLIENT` request is answered on. -/
def connectionConnectclient (event : Event) (c : Connection) : Connection :=
  { connectionChooseLocalEndpoint c with
    remoteEndpoint := event.receivedMessage.receivedMessageHeader.senderEndpoint }

/-- A connection after its client was told that it is connected. -/
def connectionConnectedTo (service : Option Nat) (c : Connection) : Connection :=
  connectionReduceHeader4
    { c.setState STATUS_FLAGS_CLIENT_ESTABLISHED with service := service }

theorem specialRequestConnectclient2_replied (node : Node) (event : Event) (service : Option Nat) :
    Replied (node.modifyConnection event.connection (connectionConnectclient event)) event
      (connectionConnectedTo service) (specialRequestConnectclient2 node event service) := by
  unfold specialRequestConnectclient2 nodeSendMessageentryEmptyResponse
  dsimp only
  have hprepared : (fun c : Connection => { connectionChooseLocalEndpoint c with
      remoteEndpoint := event.receivedMessage.receivedMessageHeader.senderEndpoint }) =
      connectionConnectclient event := rfl
  rw [hprepared]
  rcases nodeSendMessageentry_cases (node.modifyConnection event.connection
      (connectionConnectclient event)) event.connection (responseHeader event.requestHeader) [] with
    ⟨e, b, h⟩ | ⟨b, len, h⟩
  · rw [h]
    exact specialRequestHandleError_replied _ b e
  · rw [h]
    exact .answered b len rfl rfl

/-- An error response to a request. -/
theorem connectionSendMessageentryErrorResponse_cases (node : Node) (i : Nat)
    {request : MessageEntryConstHeader} (hodd : request.entryType % 2 = 1) (errorCode : UInt16)
    (errorName errorMessage : List UInt8) :
    (∃ e b, connectionSendMessageentryErrorResponse node i request errorCode errorName errorMessage =
      (.error e, node.withSendBuffer i b)) ∨
      ∃ b len, connectionSendMessageentryErrorResponse node i request errorCode errorName
        errorMessage = (.ok (), node.queue i b len { responseHeader request with error := errorCode }) := by
  rw [connectionSendMessageentryErrorResponse, if_neg (and_one_of_mod_two hodd)]
  exact nodeSendMessageentry_cases node i _ _

theorem specialRequestEmpty_replied (node : Node) (event : Event) :
    Replied node event id (specialRequestEmpty node event) := by
  unfold specialRequestEmpty nodeSendMessageentryEmptyResponse
  rcases nodeSendMessageentry_cases node event.connection (responseHeader event.requestHeader) []
    with ⟨e, b, h⟩ | ⟨b, len, h⟩
  · rw [h]
    exact specialRequestHandleError_replied id b e
  · rw [h]
    exact .answered_id b len rfl rfl

/-- What no case of the switch takes: a request gets an error response, the rest goes on. -/
theorem specialRequestDefault_cases (node : Node) (event : Event) :
    event.requestHeader.entryType % 2 = 1 ∧
        Replied node event id (specialRequestDefault node event) ∨
      event.requestHeader.entryType % 2 ≠ 1 ∧ specialRequestDefault node event = (.ok (), node) := by
  unfold specialRequestDefault
  split
  · next hodd =>
      refine Or.inl ⟨hodd, ?_⟩
      rcases connectionSendMessageentryErrorResponse_cases node event.connection hodd
          MESSAGEERRORTYPE_INVALIDOPERATION INVALID_OPERATION INVALID_OPERATION_MESSAGE with
        ⟨e, b, h⟩ | ⟨b, len, h⟩
      · rw [h]
        split
        · next heq => cases heq; exact .retry b
        · next heq => cases heq; exact .ignored b
      · rw [h]
        exact .answered_id b len rfl rfl
  · next heven => exact Or.inr ⟨heven, rfl⟩

/-- A `CONNECTCLIENT` request names a service that is there, or there are no services at all, or
it is told that there is no such service. -/
theorem specialRequestConnectclient_cases (node : Node) {event : Event}
    (hType : event.requestHeader.entryType = MESSAGEENTRYTYPE_CONNECTCLIENT) :
    (∃ service, Replied (node.modifyConnection event.connection (connectionConnectclient event))
      event (connectionConnectedTo service) (specialRequestConnectclient node event)) ∨
      Replied node event id (specialRequestConnectclient node event) := by
  unfold specialRequestConnectclient
  split
  · exact Or.inl ⟨none, specialRequestConnectclient2_replied node event none⟩
  · split
    · next s _ => exact Or.inl ⟨some s, specialRequestConnectclient2_replied node event (some s)⟩
    · refine Or.inr ?_
      have hodd : event.requestHeader.entryType % 2 = 1 := by
        rw [hType]
        decide
      unfold replyServiceNotFound
      rcases connectionSendMessageentryErrorResponse_cases node event.connection hodd
          MESSAGEERRORTYPE_SERVICENOTFOUND SERVICE_NOT_FOUND SERVICE_NOT_FOUND_MESSAGE with
        ⟨e, b, h⟩ | ⟨b, len, h⟩
      · rw [h]
        exact specialRequestHandleError_replied id b e
      · rw [h]
        exact .answered_id b len rfl rfl

/-- The endpoint of the connection is another one only while the message is begun. -/
theorem nodeSendResponseToSender_cases (node : Node) (event : Event) (elements : List ElementTree) :
    (∃ e b, nodeSendResponseToSender node event elements =
      (.error e, node.withSendBuffer event.connection b)) ∨
      ∃ b len, nodeSendResponseToSender node event elements =
        (.ok (), node.queue event.connection b len (responseHeader event.requestHeader)) := by
  have hrestore (b : List UInt8) (endpoint : UInt32) :
      ((node.modifyConnection event.connection fun c =>
        { c with remoteEndpoint := endpoint }).withSendBuffer event.connection b).modifyConnection
          event.connection (fun c =>
            { c with remoteEndpoint := (node.connection event.connection).remoteEndpoint }) =
        node.withSendBuffer event.connection b := by
    rw [Node.withSendBuffer, Node.modifyConnection_modifyConnection,
      Node.modifyConnection_modifyConnection]
    rfl
  unfold nodeSendResponseToSender nodeBeginSendMessageentryResponse
  dsimp only
  rcases nodeBeginSendMessageentry_cases (node.modifyConnection event.connection fun c =>
      { c with remoteEndpoint := event.receivedMessage.receivedMessageHeader.senderEndpoint })
      event.connection (responseHeader event.requestHeader) with
    ⟨e, b, hbegin⟩ | ⟨sendData, b, hbegin, hheader⟩
  · rw [hbegin]
    dsimp only
    rw [hrestore]
    exact Or.inl ⟨e, b, rfl⟩
  · rw [hbegin]
    dsimp only
    rw [hrestore]
    rcases nodeWriteElements_cases (node.withSendBuffer event.connection b) event.connection sendData
        elements with ⟨e, b', hwrite⟩ | ⟨sendData', b', hwrite, hheader'⟩
    · rw [hwrite, withSendBuffer_withSendBuffer]
      exact Or.inl ⟨e, b', rfl⟩
    · rw [hwrite, withSendBuffer_withSendBuffer]
      dsimp only
      rcases nodeEndSendMessageentry_cases (node.withSendBuffer event.connection b')
          event.connection sendData' with ⟨e, b'', hend⟩ | ⟨b'', len, hend⟩
      · rw [hend, withSendBuffer_withSendBuffer]
        exact Or.inl ⟨e, b'', rfl⟩
      · rw [hend, withSendBuffer_queue, hheader', hheader]
        exact Or.inr ⟨b'', len, rfl⟩

/-! ## The switch -/

/-- A connection whose client left. -/
def connectionDisconnectclient (c : Connection) : Connection :=
  { c.clearState STATUS_FLAGS_CLIENT_ESTABLISHED with service := none }

/-- What a client learns from the reply to its first request. -/
def connectionStreamopret (event : Event) (c : Connection) : Connection :=
  let c := { c with remoteNodeid := event.receivedMessage.receivedMessageHeader.senderNodeid }
  let c := c.setState STATUS_FLAGS_ESTABLISHED
  if flagsCheck (nodeTransportParseCapabilities event.receivedMessage.entryReader)
      CONNECTION_PARSE_CAPABILITY_MESSAGE4 then
    connectionReduceHeader4 (c.setState STATUS_FLAGS_SEND_MESSAGE4)
  else c

/-- What a client learns from the reply to its last request. -/
def connectionConnectclientret (event : Event) (c : Connection) : Connection :=
  { c with
    remoteEndpoint := event.receivedMessage.receivedMessageHeader.senderEndpoint }.setState
      STATUS_FLAGS_CLIENT_ESTABLISHED

/-- What the node does itself with a message of type `entryType`, read or not. -/
inductive SpecialRequest (node : Node) (event : Event) : Result Unit × Node → Prop
  | passed (hother : event.requestHeader.entryType > 500 ∨
        event.requestHeader.entryType = MESSAGEENTRYTYPE_GETSERVICEDESC ∨
        event.requestHeader.entryType = MESSAGEENTRYTYPE_OBJECTTYPENAME ∨
        event.requestHeader.entryType % 2 ≠ 1) : SpecialRequest node event (.ok (), node)
  | rejected {e : Status} (he : event.eventErrorCode = .error e) :
      SpecialRequest node event (.error .consumed,
        (node.modifyConnection event.connection connectionError).consumed event)
  | streamop (hType : event.requestHeader.entryType = MESSAGEENTRYTYPE_STREAMOP)
      (hserver : connectionIsServer (node.connection event.connection) = true)
      (capsFlags : BitVec 32) {out : Result Unit × Node}
      (h : Replied (node.modifyConnection event.connection (connectionStreamop event capsFlags))
        event (·.setState STATUS_FLAGS_ESTABLISHED) out) : SpecialRequest node event out
  | connectclient (hType : event.requestHeader.entryType = MESSAGEENTRYTYPE_CONNECTCLIENT)
      (service : Option Nat) {out : Result Unit × Node}
      (h : Replied (node.modifyConnection event.connection (connectionConnectclient event)) event
        (connectionConnectedTo service) out) : SpecialRequest node event out
  | disconnectclient (hType : event.requestHeader.entryType = MESSAGEENTRYTYPE_DISCONNECTCLIENT)
      (hserver : connectionIsServer (node.connection event.connection) = true)
      {out : Result Unit × Node}
      (h : Replied (node.modifyConnection event.connection connectionDisconnectclient) event id out) :
      SpecialRequest node event out
  | disconnected (hType : event.requestHeader.entryType = MESSAGEENTRYTYPE_DISCONNECTCLIENT)
      (hserver : connectionIsServer (node.connection event.connection) = false)
      {out : Result Unit × Node}
      (h : Replied ((node.modifyConnection event.connection connectionDisconnectclient).consumed
        event) event id out) : SpecialRequest node event out
  | replied (hodd : event.requestHeader.entryType % 2 = 1) {out : Result Unit × Node}
      (h : Replied node event id out) : SpecialRequest node event out
  | repliedConsumed (hodd : event.requestHeader.entryType % 2 = 1)
      (hserver : connectionIsServer (node.connection event.connection) = false)
      {out : Result Unit × Node}
      (h : Replied (node.consumed event) event id out) : SpecialRequest node event out
  | streamopret (hType : event.requestHeader.entryType = MESSAGEENTRYTYPE_STREAMOPRET)
      (hserver : connectionIsServer (node.connection event.connection) = false) :
      SpecialRequest node event
        (.ok (), node.modifyConnection event.connection (connectionStreamopret event))
  | connectclientret (hType : event.requestHeader.entryType = MESSAGEENTRYTYPE_CONNECTCLIENTRET)
      (hserver : connectionIsServer (node.connection event.connection) = false) :
      SpecialRequest node event
        (.ok (), node.modifyConnection event.connection (connectionConnectclientret event))
  | connectiontestret (hType : event.requestHeader.entryType = MESSAGEENTRYTYPE_CONNECTIONTESTRET) :
      SpecialRequest node event (.error .consumed, node.consumed event)

theorem specialRequestDefault_special (node : Node) (event : Event) :
    SpecialRequest node event (specialRequestDefault node event) := by
  rcases specialRequestDefault_cases node event with ⟨hodd, h⟩ | ⟨heven, h⟩
  · exact .replied hodd h
  · rw [h]
    exact .passed (.inr (.inr (.inr heven)))

/-- A request of the kind that only a server answers. -/
theorem specialRequestDefault_consumed {node : Node} {event : Event}
    (hodd : event.requestHeader.entryType % 2 = 1) :
    Replied (node.consumed event) event id (specialRequestDefault (node.consumed event) event) := by
  rcases specialRequestDefault_cases (node.consumed event) event with ⟨-, h⟩ | ⟨heven, -⟩
  · exact h
  · exact absurd hodd heven

theorem specialRequestDisconnectclient_special {node : Node} {event : Event}
    (hType : event.requestHeader.entryType = MESSAGEENTRYTYPE_DISCONNECTCLIENT) :
    SpecialRequest node event (specialRequestDisconnectclient node event) := by
  have hserver : connectionIsServer ((node.modifyConnection event.connection
      connectionDisconnectclient).connection event.connection) =
        connectionIsServer (node.connection event.connection) := by
    rw [Node.modifyConnection_connection]
    rfl
  unfold specialRequestDisconnectclient
  dsimp only
  change SpecialRequest node event (if ¬ connectionIsServer ((node.modifyConnection
    event.connection connectionDisconnectclient).connection event.connection) = true then _ else _)
  rw [hserver]
  split
  · next hclient =>
      exact .disconnected hType (Bool.eq_false_iff.mpr hclient)
        (specialRequestDefault_consumed (by rw [hType]; decide))
  · next hclient =>
      exact .disconnectclient hType (not_not.mp hclient) (specialRequestEmpty_replied _ event)

theorem specialRequestConnectiontest_special {node : Node} {event : Event}
    (hodd : event.requestHeader.entryType % 2 = 1) :
    SpecialRequest node event (specialRequestConnectiontest node event) := by
  unfold specialRequestConnectiontest
  split
  · next hclient =>
      exact .repliedConsumed hodd (Bool.eq_false_iff.mpr hclient)
        (specialRequestDefault_consumed hodd)
  · exact .replied hodd (specialRequestEmpty_replied node event)

theorem nodeEventSpecialRequest_cases (node : Node) (event : Event) :
    SpecialRequest node event (nodeEventSpecialRequest node event) := by
  unfold nodeEventSpecialRequest
  dsimp only
  split
  · next hlarge => exact .passed (.inl hlarge)
  · split
    · next he => exact .rejected he
    · split
      · next hType =>
          split
          · next hcreates =>
              obtain ⟨capsFlags, h⟩ := specialRequestStreamop_replied node event
              exact .streamop hType (Bool.and_eq_true _ _ ▸ hcreates).2 capsFlags h
          · exact specialRequestDefault_special node event
      · split
        · next hType => exact .passed (.inr (hType.imp_right .inl))
        · split
          · next hType =>
              rcases specialRequestConnectclient_cases node hType with ⟨service, h⟩ | h
              · exact .connectclient hType service h
              · exact .replied (by rw [hType]; decide) h
          · split
            · next hType => exact specialRequestDisconnectclient_special hType
            · split
              · next hType =>
                  refine specialRequestConnectiontest_special ?_
                  rcases hType with hType | hType
                  · rw [hType]; decide
                  · rw [hType]; decide
              · split
                · next hType =>
                    split
                    · next hcreates =>
                        rw [Bool.and_eq_true, Bool.not_eq_true'] at hcreates
                        exact .streamopret hType hcreates.2
                    · exact specialRequestDefault_special node event
                · split
                  · next hType =>
                      split
                      · next hclient =>
                          rw [Bool.and_eq_true, Bool.not_eq_true'] at hclient
                          exact .connectclientret hType hclient.1
                      · exact specialRequestDefault_special node event
                  · split
                    · next hType => exact .connectiontestret hType
                    · exact specialRequestDefault_special node event

/-! ## What it leaves alone -/

theorem Replied.answers {node : Node} {event : Event} {after : Connection → Connection}
    {out : Result Unit × Node} (h : Replied node event after out)
    (hevent : event.eventType ≠ .nextCycle) (hodd : event.requestHeader.entryType % 2 = 1) :
    node.Answers out.2 event.connection := by
  cases h with
  | retry b => exact .withSendBuffer node _ b
  | failed b =>
      exact (Node.Answers.withSendBuffer node _ b).trans
        ((Node.Answers.modifyConnection _ _ _).trans (.consumed _ hevent))
  | ignored b => exact (Node.Answers.withSendBuffer node _ b).trans (.consumed _ hevent)
  | answered b len hType hid =>
      exact (Node.Answers.queue node _ b len (by rw [hType]; exact succ_even hodd)).trans
        ((Node.Answers.modifyConnection _ _ _).trans (.consumed _ hevent))

/-- A special request is dealt with on its connection, with responses. -/
theorem SpecialRequest.answers {node : Node} {event : Event} {out : Result Unit × Node}
    (h : SpecialRequest node event out) (hevent : event.eventType ≠ .nextCycle) :
    node.Answers out.2 event.connection := by
  cases h with
  | passed _ => exact .refl node _
  | rejected _ => exact (Node.Answers.modifyConnection node _ _).trans (.consumed _ hevent)
  | streamop hType _ _ h =>
      exact (Node.Answers.modifyConnection node _ _).trans
        (h.answers hevent (by rw [hType]; decide))
  | connectclient hType _ h =>
      exact (Node.Answers.modifyConnection node _ _).trans
        (h.answers hevent (by rw [hType]; decide))
  | disconnectclient hType _ h =>
      exact (Node.Answers.modifyConnection node _ _).trans
        (h.answers hevent (by rw [hType]; decide))
  | disconnected hType _ h =>
      exact (Node.Answers.modifyConnection node _ _).trans
        ((Node.Answers.consumed _ hevent).trans (h.answers hevent (by rw [hType]; decide)))
  | replied hodd h => exact h.answers hevent hodd
  | repliedConsumed hodd _ h => exact (Node.Answers.consumed node hevent).trans (h.answers hevent hodd)
  | streamopret _ _ => exact .modifyConnection node _ _
  | connectclientret _ _ => exact .modifyConnection node _ _
  | connectiontestret _ => exact .consumed node hevent

end

end

end RobotRaconteurLite

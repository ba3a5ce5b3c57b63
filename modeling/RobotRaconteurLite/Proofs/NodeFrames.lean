import RobotRaconteurLite.Lib.OffsetWriter
import RobotRaconteurLite.Node.Run

/-!
# What a send and a handler leave alone

A message of the node changes the send buffer of one connection and, when it is
complete, says so in the flags. The application can do no more in a handler than
send and ask for a close. Everything else of the node is as it was.
-/

namespace RobotRaconteurLite

open OffsetWriter

/-! ## What is asked of a connection -/

/-- What more may be asked of a connection from outside the library. -/
def STATUS_FLAGS_ASKED : BitVec 32 := STATUS_FLAGS_SEND_REQUESTED ||| STATUS_FLAGS_CLOSE_REQUESTED

/-- The first connection, after some more was asked of it. -/
def Connection.Asked (c c' : Connection) : Prop :=
  ∃ sendBuffer sendMessageLen asked, c' = { c with
    sendBuffer := sendBuffer
    sendMessageLen := sendMessageLen
    connectionState := flagsSet c.connectionState (asked &&& STATUS_FLAGS_ASKED) }

namespace Connection.Asked

variable {c c' c'' : Connection}

theorem refl (c : Connection) : c.Asked c := by
  refine ⟨c.sendBuffer, c.sendMessageLen, 0#32, ?_⟩
  rw [BitVec.zero_and, flagsSet, BitVec.or_zero]

theorem trans (h : c.Asked c') (h' : c'.Asked c'') : c.Asked c'' := by
  obtain ⟨sendBuffer, sendMessageLen, asked, rfl⟩ := h
  obtain ⟨sendBuffer', sendMessageLen', asked', rfl⟩ := h'
  refine ⟨sendBuffer', sendMessageLen', asked ||| asked', ?_⟩
  simp only [flagsSet, BitVec.or_assoc, BitVec.and_or_distrib_right]

theorem checkState (h : c.Asked c') {mask : BitVec 32}
    (hmask : STATUS_FLAGS_ASKED &&& mask = 0#32) : c'.checkState mask = c.checkState mask := by
  obtain ⟨sendBuffer, sendMessageLen, asked, rfl⟩ := h
  refine flagsCheck_set_of_disjoint ?_
  rw [BitVec.and_assoc, hmask, BitVec.and_zero]

theorem checkState_of_checkState (h : c.Asked c') {mask : BitVec 32}
    (hc : c.checkState mask = true) : c'.checkState mask = true := by
  obtain ⟨sendBuffer, sendMessageLen, asked, rfl⟩ := h
  exact flagsCheck_set_of_flagsCheck hc

end Connection.Asked

theorem connectionClose_asked (c : Connection) : c.Asked (connectionClose c) := by
  unfold connectionClose
  split
  · exact .refl c
  · exact ⟨c.sendBuffer, c.sendMessageLen, STATUS_FLAGS_CLOSE_REQUESTED, rfl⟩

/-- The first connection at another time of the next check. -/
def Connection.Rechecked (c c' : Connection) : Prop :=
  ∃ heartbeatNextCheckUs, c' = { c with heartbeatNextCheckUs := heartbeatNextCheckUs }

namespace Connection.Rechecked

variable {c c' c'' : Connection}

theorem refl (c : Connection) : c.Rechecked c := ⟨c.heartbeatNextCheckUs, rfl⟩

theorem trans (h : c.Rechecked c') (h' : c'.Rechecked c'') : c.Rechecked c'' := by
  obtain ⟨t, rfl⟩ := h
  obtain ⟨t', rfl⟩ := h'
  exact ⟨t', rfl⟩

end Connection.Rechecked

/-- The next check has no part in what is reported. -/
theorem connectionPendingEvent_rechecked {c c' : Connection} (h : c.Rechecked c') :
    connectionPendingEvent c' = connectionPendingEvent c := by
  obtain ⟨t, rfl⟩ := h
  rfl

theorem connectionHeartbeat_rechecked (c : Connection) (now : Int64) :
    c.Rechecked (connectionHeartbeat c now).2 := by
  unfold connectionHeartbeat
  split
  · dsimp only
    split
    all_goals exact ⟨_, rfl⟩
  · exact ⟨c.heartbeatNextCheckUs, rfl⟩

theorem connectionHeartbeat_reports {c : Connection} {now : Int64} {eventType : EventType}
    (h : (connectionHeartbeat c now).1 = some eventType) :
    eventType = .connectionHeartbeatTimeout ∨ eventType = .connectionTimeout := by
  unfold connectionHeartbeat at h
  split at h
  · dsimp only at h
    split at h
    · cases h
    · exact Or.inl (Option.some.inj h).symm
    · exact Or.inr (Option.some.inj h).symm
  · cases h

section

variable [SizeT]

/-! ## One connection -/

namespace Node

@[simp] theorem setConnection_connection (node : Node) (i : Nat) (c : Connection) :
    (node.setConnection i c).connection i = c := by
  simp [setConnection]

theorem setConnection_connection_ne (node : Node) {i j : Nat} (c : Connection) (h : j ≠ i) :
    (node.setConnection i c).connection j = node.connection j := by
  simp [setConnection, h]

@[simp] theorem modifyConnection_connection (node : Node) (i : Nat) (f : Connection → Connection) :
    (node.modifyConnection i f).connection i = f (node.connection i) :=
  setConnection_connection node i _

theorem modifyConnection_connection_ne (node : Node) {i j : Nat} (f : Connection → Connection)
    (h : j ≠ i) : (node.modifyConnection i f).connection j = node.connection j :=
  setConnection_connection_ne node _ h

@[simp] theorem setConnection_self (node : Node) (i : Nat) :
    node.setConnection i (node.connection i) = node := by
  simp [setConnection]

@[simp] theorem setConnection_setConnection (node : Node) (i : Nat) (c d : Connection) :
    (node.setConnection i c).setConnection i d = node.setConnection i d := by
  simp [setConnection]

@[simp] theorem setConnection_modifyConnection (node : Node) (i : Nat) (c : Connection)
    (f : Connection → Connection) :
    (node.setConnection i c).modifyConnection i f = node.setConnection i (f c) := by
  rw [modifyConnection, setConnection_connection, setConnection_setConnection]

@[simp] theorem modifyConnection_id (node : Node) (i : Nat) : node.modifyConnection i id = node :=
  setConnection_self node i

@[simp] theorem modifyConnection_modifyConnection (node : Node) (i : Nat)
    (f g : Connection → Connection) :
    (node.modifyConnection i f).modifyConnection i g = node.modifyConnection i fun c => g (f c) := by
  rw [modifyConnection, modifyConnection_connection, modifyConnection, setConnection_setConnection,
    modifyConnection]

end Node

/-! ## Sending -/

/-- A node after a write into a send buffer. -/
def Node.withSendBuffer (node : Node) (i : Nat) (sendBuffer : List UInt8) : Node :=
  node.modifyConnection i fun c => { c with sendBuffer := sendBuffer }

/-- A node after a message was queued. -/
def Node.queue (node : Node) (i : Nat) (sendBuffer : List UInt8) (messageLen : Nat)
    (header : MessageEntryConstHeader) : Node :=
  (node.modifyConnection i fun c =>
    connectionEndSendMessage { c with sendBuffer := sendBuffer } messageLen).addEffect
      (.queued i header)

theorem writing_sendBuffer {α : Type} (c : Connection) (write : BufferM α) :
    ∃ sendBuffer, (c.writing write).2 = { c with sendBuffer := sendBuffer } := by
  unfold Connection.writing
  split
  · exact ⟨_, rfl⟩
  · exact ⟨c.sendBuffer, rfl⟩

theorem onConnection_writing {α : Type} (node : Node) (i : Nat)
    (write : Connection → BufferM α) :
    ∃ sendBuffer, (node.onConnection i fun c => c.writing (write c)).2 =
      node.withSendBuffer i sendBuffer := by
  obtain ⟨sendBuffer, h⟩ := writing_sendBuffer (node.connection i) (write (node.connection i))
  exact ⟨sendBuffer, congrArg (node.setConnection i) h⟩

theorem nodeBeginSendMessageentry_sendBuffer (node : Node) (i : Nat)
    (header : MessageEntryConstHeader) :
    ∃ sendBuffer, (nodeBeginSendMessageentry node i header).2 =
      node.withSendBuffer i sendBuffer := by
  unfold nodeBeginSendMessageentry
  split
  · exact ⟨(node.connection i).sendBuffer, (Node.setConnection_self node i).symm⟩
  · exact onConnection_writing node i _

theorem nodeWriteElements_sendBuffer (node : Node) (i : Nat) (sendData : SendMessageentryData)
    (elements : List ElementTree) :
    ∃ sendBuffer, (nodeWriteElements node i sendData elements).2 =
      node.withSendBuffer i sendBuffer :=
  onConnection_writing node i _

@[simp] theorem withSendBuffer_withSendBuffer (node : Node) (i : Nat) (b b' : List UInt8) :
    (node.withSendBuffer i b).withSendBuffer i b' = node.withSendBuffer i b' :=
  Node.modifyConnection_modifyConnection node i _ _

@[simp] theorem withSendBuffer_queue (node : Node) (i : Nat) (b b' : List UInt8) (len : Nat)
    (header : MessageEntryConstHeader) :
    (node.withSendBuffer i b).queue i b' len header = node.queue i b' len header := by
  rw [Node.withSendBuffer, Node.queue, Node.modifyConnection_modifyConnection, Node.queue]

theorem writing_eq_ok {α : Type} {c : Connection} {write : BufferM α} {a : α}
    (h : (c.writing write).1 = .ok a) : ∃ v, (write v).1 = .ok a := by
  unfold Connection.writing at h
  split at h
  · exact ⟨_, h⟩
  · cases h

theorem nodeBeginSendMessageentry_header {node : Node} {i : Nat}
    {header : MessageEntryConstHeader} {sendData : SendMessageentryData}
    (h : (nodeBeginSendMessageentry node i header).1 = .ok sendData) :
    sendData.messageEntryHeader = header := by
  unfold nodeBeginSendMessageentry at h
  split at h
  · cases h
  · obtain ⟨v, hv⟩ := writing_eq_ok h
    obtain ⟨begun, -, hv⟩ := buffered_bind_eq_ok hv
    obtain ⟨begunEntry, -, hv⟩ := buffered_bind_eq_ok hv
    exact congrArg SendMessageentryData.messageEntryHeader (Except.ok.inj hv).symm

theorem nodeWriteElements_header {node : Node} {i : Nat} {sendData sendData' : SendMessageentryData}
    {elements : List ElementTree}
    (h : (nodeWriteElements node i sendData elements).1 = .ok sendData') :
    sendData'.messageEntryHeader = sendData.messageEntryHeader := by
  obtain ⟨v, hv⟩ := writing_eq_ok h
  obtain ⟨elementWriter, -, hv⟩ := buffered_bind_eq_ok hv
  rw [← Except.ok.inj hv]

/-- The end of a message: it is queued, or what was written lies in the send buffer. -/
theorem nodeEndSendMessageentry_cases (node : Node) (i : Nat) (sendData : SendMessageentryData) :
    (∃ e b, nodeEndSendMessageentry node i sendData = (.error e, node.withSendBuffer i b)) ∨
      ∃ b len, nodeEndSendMessageentry node i sendData =
        (.ok (), node.queue i b len sendData.messageEntryHeader) := by
  obtain ⟨b, hb⟩ := onConnection_writing node i fun _ => do
    let entryWriter ← messageEntryWriterEndEntry sendData.entryWriter sendData.elementWriter
    messageWriterEndMessage sendData.messageWriter sendData.messageHeader entryWriter
  unfold nodeEndSendMessageentry
  split
  · next e node' h => exact Or.inl ⟨e, b, by rw [← hb, h]⟩
  · next messageHeader node' h =>
      have hnode : node' = node.withSendBuffer i b := by rw [← hb, h]
      refine Or.inr ⟨b, messageHeader.messageSize.toNat, ?_⟩
      rw [hnode, Node.withSendBuffer, Node.modifyConnection_modifyConnection, Node.queue]

/-- The beginning of a message. Either way what was written lies in the send buffer. -/
theorem nodeBeginSendMessageentry_cases (node : Node) (i : Nat) (header : MessageEntryConstHeader) :
    (∃ e b, nodeBeginSendMessageentry node i header = (.error e, node.withSendBuffer i b)) ∨
      ∃ sendData b, nodeBeginSendMessageentry node i header =
        (.ok sendData, node.withSendBuffer i b) ∧ sendData.messageEntryHeader = header := by
  obtain ⟨b, hb⟩ := nodeBeginSendMessageentry_sendBuffer node i header
  rcases h : nodeBeginSendMessageentry node i header with ⟨e | sendData, node'⟩
  · rw [h] at hb
    exact Or.inl ⟨e, b, by rw [← hb]⟩
  · have hheader := nodeBeginSendMessageentry_header (congrArg Prod.fst h)
    rw [h] at hb
    exact Or.inr ⟨sendData, b, by rw [← hb], hheader⟩

theorem nodeWriteElements_cases (node : Node) (i : Nat) (sendData : SendMessageentryData)
    (elements : List ElementTree) :
    (∃ e b, nodeWriteElements node i sendData elements = (.error e, node.withSendBuffer i b)) ∨
      ∃ sendData' b, nodeWriteElements node i sendData elements =
        (.ok sendData', node.withSendBuffer i b) ∧
          sendData'.messageEntryHeader = sendData.messageEntryHeader := by
  obtain ⟨b, hb⟩ := nodeWriteElements_sendBuffer node i sendData elements
  rcases h : nodeWriteElements node i sendData elements with ⟨e | sendData', node'⟩
  · rw [h] at hb
    exact Or.inl ⟨e, b, by rw [← hb]⟩
  · have hheader := nodeWriteElements_header (congrArg Prod.fst h)
    rw [h] at hb
    exact Or.inr ⟨sendData', b, by rw [← hb], hheader⟩

/-- A message is queued, or what was written lies in the send buffer. -/
theorem nodeSendMessageentry_cases (node : Node) (i : Nat) (header : MessageEntryConstHeader)
    (elements : List ElementTree) :
    (∃ e b, nodeSendMessageentry node i header elements = (.error e, node.withSendBuffer i b)) ∨
      ∃ b len, nodeSendMessageentry node i header elements =
        (.ok (), node.queue i b len header) := by
  unfold nodeSendMessageentry
  rcases nodeBeginSendMessageentry_cases node i header with
    ⟨e, b, hbegin⟩ | ⟨sendData, b, hbegin, rfl⟩
  · rw [hbegin]
    exact Or.inl ⟨e, b, rfl⟩
  · rw [hbegin]
    dsimp only
    rcases nodeWriteElements_cases (node.withSendBuffer i b) i sendData elements with
      ⟨e, b', hwrite⟩ | ⟨sendData', b', hwrite, hheader⟩
    · rw [hwrite, withSendBuffer_withSendBuffer]
      exact Or.inl ⟨e, b', rfl⟩
    · rw [hwrite, withSendBuffer_withSendBuffer]
      dsimp only
      rw [← hheader]
      rcases nodeEndSendMessageentry_cases (node.withSendBuffer i b') i sendData' with
        ⟨e, b'', hend⟩ | ⟨b'', len, hend⟩
      · exact Or.inl ⟨e, b'', by rw [hend, withSendBuffer_withSendBuffer]⟩
      · exact Or.inr ⟨b'', len, by rw [hend, withSendBuffer_queue]⟩

/-! ## Sends and closes -/

/-- Whether the node queued a message. -/
def Effect.isQueued : Effect → Bool
  | .call _ => false
  | .queued _ _ => true

/-- The first node, after some more was asked of its connections. -/
structure Node.Asked (node node' : Node) : Prop where
  rest : node' = { node with
    connection := node'.connection, answers := node'.answers, effects := node'.effects }
  connection : ∀ i, (node.connection i).Asked (node'.connection i)
  effects : ∃ queued, node'.effects = node.effects ++ queued ∧ ∀ e ∈ queued, e.isQueued = true

namespace Node.Asked

variable {node node' node'' : Node}

theorem refl (node : Node) : node.Asked node where
  rest := rfl
  connection _ := .refl _
  effects := ⟨[], (List.append_nil _).symm, List.forall_mem_nil _⟩

theorem trans (h : node.Asked node') (h' : node'.Asked node'') : node.Asked node'' where
  rest := by rw [h'.rest, h.rest]
  connection i := (h.connection i).trans (h'.connection i)
  effects := by
    obtain ⟨queued, hqueued, hall⟩ := h.effects
    obtain ⟨queued', hqueued', hall'⟩ := h'.effects
    refine ⟨queued ++ queued', ?_, ?_⟩
    · rw [hqueued', hqueued, List.append_assoc]
    · intro e he
      exact (List.mem_append.mp he).elim (hall e) (hall' e)

theorem requestsHead (h : node.Asked node') : node'.requestsHead = node.requestsHead := by
  rw [h.rest]

theorem request (h : node.Asked node') : node'.request = node.request := by
  rw [h.rest]

theorem modifyConnection (node : Node) (i : Nat) {f : Connection → Connection}
    (hf : ∀ c : Connection, c.Asked (f c)) : node.Asked (node.modifyConnection i f) where
  rest := rfl
  connection j := by
    rcases eq_or_ne j i with rfl | hj
    · rw [modifyConnection_connection]
      exact hf _
    · rw [modifyConnection_connection_ne node f hj]
      exact .refl _
  effects := ⟨[], (List.append_nil _).symm, List.forall_mem_nil _⟩

end Node.Asked

theorem withSendBuffer_asked (node : Node) (i : Nat) (b : List UInt8) :
    node.Asked (node.withSendBuffer i b) :=
  .modifyConnection node i fun c => ⟨b, c.sendMessageLen, 0#32, by
    rw [BitVec.zero_and, flagsSet, BitVec.or_zero]⟩

theorem queue_asked (node : Node) (i : Nat) (b : List UInt8) (len : Nat)
    (header : MessageEntryConstHeader) : node.Asked (node.queue i b len header) := by
  have h : node.Asked (node.modifyConnection i fun c =>
      connectionEndSendMessage { c with sendBuffer := b } len) :=
    .modifyConnection node i fun c => ⟨b, UInt32.ofNat len, STATUS_FLAGS_SEND_REQUESTED, rfl⟩
  exact ⟨rfl, h.connection, [.queued i header], rfl, by simp [Effect.isQueued]⟩

theorem nodeSendMessageentry_asked (node : Node) (i : Nat) (header : MessageEntryConstHeader)
    (elements : List ElementTree) :
    node.Asked (nodeSendMessageentry node i header elements).2 := by
  rcases nodeSendMessageentry_cases node i header elements with ⟨e, b, h⟩ | ⟨b, len, h⟩
  · rw [h]
    exact withSendBuffer_asked node i b
  · rw [h]
    exact queue_asked node i b len header

theorem nodeAppCall_asked (node : Node) (call : AppCall) : node.Asked (nodeAppCall node call) := by
  cases call with
  | close i => exact .modifyConnection node i connectionClose_asked
  | send i header elements => exact nodeSendMessageentry_asked node i header elements

theorem foldl_nodeAppCall_asked (node : Node) (calls : List AppCall) :
    node.Asked (calls.foldl nodeAppCall node) := by
  induction calls generalizing node with
  | nil => exact .refl node
  | cons call calls ih => exact (nodeAppCall_asked node call).trans (ih _)

/-- A handler is called once, and then the application asks for what it wants. -/
theorem nodeCallHandler_asked (node : Node) (handler : HandlerCall) :
    (node.addEffect (.call handler)).Asked (nodeCallHandler node handler).2 := by
  unfold nodeCallHandler
  dsimp only
  split
  · exact .refl _
  · next answer answers _ =>
      obtain ⟨hrest, hconnection, heffects⟩ := foldl_nodeAppCall_asked
        { node.addEffect (.call handler) with answers } answer.calls
      exact ⟨hrest, hconnection, heffects⟩

/-! ## Handler calls -/

/-- The handler of a call. -/
def Effect.handler : Effect → Option HandlerCall
  | .call handler => some handler
  | .queued _ _ => none

/-- The handlers that were called, the first one first. -/
def Node.calls (node : Node) : List HandlerCall := node.effects.filterMap Effect.handler

theorem Node.Asked.calls {node node' : Node} (h : node.Asked node') : node'.calls = node.calls := by
  obtain ⟨queued, heffects, hqueued⟩ := h.effects
  have hnone : queued.filterMap Effect.handler = [] := by
    rw [List.filterMap_eq_nil_iff]
    intro e he
    cases e with
    | call handler => exact absurd (hqueued _ he) Bool.false_ne_true
    | queued i header => rfl
  rw [Node.calls, heffects, List.filterMap_append, hnone, List.append_nil, Node.calls]

@[simp] theorem nodeCallHandler_calls (node : Node) (handler : HandlerCall) :
    (nodeCallHandler node handler).2.calls = node.calls ++ [handler] :=
  (nodeCallHandler_asked node handler).calls.trans List.filterMap_append

theorem calls_of_nodeCallHandler {node node' : Node} {handler : HandlerCall} {rv : Result Unit}
    (h : nodeCallHandler node handler = (rv, node')) : node'.calls = node.calls ++ [handler] := by
  rw [← nodeCallHandler_calls node handler, h]

@[simp] theorem nodeCallHandler_requestsHead (node : Node) (handler : HandlerCall) :
    (nodeCallHandler node handler).2.requestsHead = node.requestsHead :=
  (nodeCallHandler_asked node handler).requestsHead

theorem nodeNotify_calls (node : Node) (there : Bool) (handler : HandlerCall) :
    (nodeNotify node there handler).calls = node.calls ++ if there then [handler] else [] := by
  cases there with
  | false => exact (List.append_nil _).symm
  | true => exact nodeCallHandler_calls node handler

theorem nodeNotify_asked (node : Node) (there : Bool) (handler : HandlerCall) :
    nodeNotify node there handler = node ∨
      (node.addEffect (.call handler)).Asked (nodeNotify node there handler) := by
  cases there with
  | false => exact Or.inl rfl
  | true => exact Or.inr (nodeCallHandler_asked node handler)

@[simp] theorem nodeNotify_requestsHead (node : Node) (there : Bool) (handler : HandlerCall) :
    (nodeNotify node there handler).requestsHead = node.requestsHead := by
  rcases nodeNotify_asked node there handler with h | h
  · rw [h]
  · exact h.requestsHead

@[simp] theorem nodeNotify_request (node : Node) (there : Bool) (handler : HandlerCall) :
    (nodeNotify node there handler).request = node.request := by
  rcases nodeNotify_asked node there handler with h | h
  · rw [h]
  · exact h.request

/-! ## Consumption -/

/-- The flag that says that an event of the type was consumed. -/
def EventType.consumedFlag : EventType → BitVec 32
  | .connectionClosed => STATUS_FLAGS_CLOSED_CONSUMED
  | .connectionConnected => STATUS_FLAGS_CONNECTED_CONSUMED
  | .messageReceived => STATUS_FLAGS_MESSAGE_CONSUMED
  | .messageSendComplete => STATUS_FLAGS_MESSAGE_SENT_CONSUMED
  | .connectionClientSocketConnected => STATUS_FLAGS_CLIENT_SOCKET_CONNECTED_CONSUMED
  | _ => 0

theorem Node.consumeEvent_of_ne {node : Node} {event : Event} (h : event.eventType ≠ .nextCycle) :
    (node.consumeEvent event).2 =
      node.modifyConnection event.connection (·.setState event.eventType.consumedFlag) := by
  have hzero : node.modifyConnection event.connection (·.setState 0#32) = node := by
    have hstate : (node.connection event.connection).setState 0#32 =
        node.connection event.connection := by
      rw [Connection.setState, flagsSet, BitVec.or_zero]
    rw [modifyConnection, hstate, setConnection_self]
  obtain ⟨eventType, i, now, received, error⟩ := event
  cases eventType with
  | nextCycle => exact absurd rfl h
  | noop => exact hzero.symm
  | connectionError => exact hzero.symm
  | connectionHeartbeatTimeout => exact hzero.symm
  | connectionTimeout => exact hzero.symm
  | _ => rfl

theorem Node.consumed_of_ne {node : Node} {event : Event} (h : event.eventType ≠ .nextCycle) :
    node.consumed event =
      node.modifyConnection event.connection (·.setState event.eventType.consumedFlag) :=
  Node.consumeEvent_of_ne h

@[simp] theorem consumeEvent_requestsHead (node : Node) (event : Event) :
    (node.consumeEvent event).2.requestsHead = node.requestsHead := by
  unfold Node.consumeEvent
  cases event.eventType <;> rfl

@[simp] theorem consumed_requestsHead (node : Node) (event : Event) :
    (node.consumed event).requestsHead = node.requestsHead :=
  consumeEvent_requestsHead node event

@[simp] theorem consumeEvent_calls (node : Node) (event : Event) :
    (node.consumeEvent event).2.calls = node.calls := by
  unfold Node.consumeEvent
  cases event.eventType <;> rfl

@[simp] theorem consumed_calls (node : Node) (event : Event) :
    (node.consumed event).calls = node.calls :=
  consumeEvent_calls node event

/-! ## The next event -/

/-- A connection reports an event: what is pending, or its heartbeat. -/
inductive Connection.Reports (c : Connection) (i : Nat) (now : Int64) : Event → Prop
  | pending {eventType : EventType} (h : connectionPendingEvent c = some eventType) :
      c.Reports i now (connectionEventOf c eventType i now)
  | heartbeat (h : connectionPendingEvent c = none) :
      c.Reports i now (eventOf .connectionHeartbeatTimeout i now)
  | timeout (h : connectionPendingEvent c = none) :
      c.Reports i now (eventOf .connectionTimeout i now)

@[simp] theorem connectionEventOf_connection (c : Connection) (eventType : EventType) (i : Nat)
    (now : Int64) : (connectionEventOf c eventType i now).connection = i := by
  cases eventType <;> rfl

@[simp] theorem connectionEventOf_eventType (c : Connection) (eventType : EventType) (i : Nat)
    (now : Int64) : (connectionEventOf c eventType i now).eventType = eventType := by
  cases eventType <;> rfl

theorem nextEventLoop_rechecked (connection : Nat → Connection) (now : Int64) (is : List Nat)
    (j : Nat) : (connection j).Rechecked ((Node.nextEventLoop connection now is).2.1 j) := by
  induction is generalizing connection with
  | nil => exact .refl _
  | cons i rest ih =>
      have hupdate : (connection j).Rechecked
          (Function.update connection i (connectionHeartbeat (connection i) now).2 j) := by
        rcases eq_or_ne j i with rfl | hj
        · rw [Function.update_self]
          exact connectionHeartbeat_rechecked _ now
        · rw [Function.update_of_ne hj]
          exact .refl _
      rw [Node.nextEventLoop]
      split
      · exact ih connection
      · split
        · exact .refl _
        · dsimp only
          split
          · exact hupdate
          · exact hupdate.trans (ih _)

/-- An event that was found is what a connection of the cycle reports. -/
theorem nextEventLoop_reports {connection : Nat → Connection} {now : Int64} {is : List Nat}
    {event : Event} (h : (Node.nextEventLoop connection now is).1 = some event) :
    event.connection ∈ is ∧
      connectionIsIdle ((Node.nextEventLoop connection now is).2.1 event.connection) = false ∧
      ((Node.nextEventLoop connection now is).2.1 event.connection).Reports event.connection now
        event := by
  induction is generalizing connection with
  | nil => cases h
  | cons i rest ih =>
      rw [Node.nextEventLoop] at h ⊢
      split at h
      · next hidle =>
          rw [if_pos hidle]
          obtain ⟨hmem, hreport⟩ := ih h
          exact ⟨List.mem_cons_of_mem i hmem, hreport⟩
      · next hidle =>
          rw [if_neg hidle]
          rw [Bool.not_eq_true] at hidle
          split at h
          · next eventType hpending =>
              obtain rfl := Option.some.inj h
              rw [connectionEventOf_connection]
              exact ⟨List.mem_cons_self, hidle, .pending hpending⟩
          · next hpending =>
              dsimp only at h ⊢
              have hrechecked := connectionHeartbeat_rechecked (connection i) now
              split at h
              · next eventType htimeout =>
                  obtain rfl := Option.some.inj h
                  refine ⟨List.mem_cons_self, ?_, ?_⟩
                  · simp only [eventOf, Function.update_self]
                    obtain ⟨t, ht⟩ := hrechecked
                    rw [ht]
                    exact hidle
                  · simp only [eventOf, Function.update_self]
                    have hnone := (connectionPendingEvent_rechecked hrechecked).trans hpending
                    rcases connectionHeartbeat_reports htimeout with rfl | rfl
                    · exact .heartbeat hnone
                    · exact .timeout hnone
              · next htimeout =>
                  obtain ⟨hmem, hreport⟩ := ih h
                  exact ⟨List.mem_cons_of_mem i hmem, hreport⟩

/-- The next event leaves the node as it is, but for its cycle. -/
theorem nextEvent_rest (node : Node) (now : Int64) :
    (node.nextEvent now).2 = { node with
      connection := (node.nextEvent now).2.connection
      connectionsNext := (node.nextEvent now).2.connectionsNext
      eventsServiced := (node.nextEvent now).2.eventsServiced } := by
  unfold Node.nextEvent
  split
  · rfl
  · rfl

theorem nextEvent_rechecked (node : Node) (now : Int64) (j : Nat) :
    (node.connection j).Rechecked ((node.nextEvent now).2.connection j) := by
  have h := nextEventLoop_rechecked node.connection now node.connectionsNext j
  unfold Node.nextEvent
  split
  · next heq => rw [heq] at h; exact h
  · next heq => rw [heq] at h; exact h

/-- The next event is the end of the cycle, or what a connection reports that is not idle. -/
theorem nextEvent_cases (node : Node) (now : Int64) :
    (node.nextEvent now).1 = eventOf .nextCycle 0 now ∨
      (node.nextEvent now).1.connection ∈ node.connectionsNext ∧
      connectionIsIdle
        ((node.nextEvent now).2.connection (node.nextEvent now).1.connection) = false ∧
      ((node.nextEvent now).2.connection (node.nextEvent now).1.connection).Reports
        (node.nextEvent now).1.connection now (node.nextEvent now).1 := by
  unfold Node.nextEvent
  split
  · exact Or.inl rfl
  · next event connection rest heq =>
      have hsome : (Node.nextEventLoop node.connection now node.connectionsNext).1 =
          some event := by rw [heq]
      have h := nextEventLoop_reports hsome
      rw [heq] at h
      exact Or.inr h

end

end RobotRaconteurLite

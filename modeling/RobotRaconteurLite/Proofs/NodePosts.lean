import RobotRaconteurLite.Proofs.NodeWorks
import RobotRaconteurLite.Proofs.Sending
import RobotRaconteurLite.Proofs.SentMessages

/-!
# What the node puts into a send buffer

The send buffer of a connection is the node's until a message is ended, and the
transport's from then on until the event that says it was sent was consumed. A
begin finds out whose it is. So the node never writes into a message that is on
its way, and what it asks the transport to send is a message with its header and
its one entry, whole.

The three visits of a message are opened here for the last time. A function that
sends leaves a busy connection's buffer alone, because its begin fails, and that
of a free one it either fills with a message or leaves without a request.
-/

namespace RobotRaconteurLite

/-- A message is begun under none of these. -/
def STATUS_FLAGS_NOT_FREE : BitVec 32 :=
  SENDING_MASK ||| STATUS_FLAGS_CLOSED ||| STATUS_FLAGS_CLOSE_REQUESTED ||| STATUS_FLAGS_IDLE

section

variable [SizeT]

/-- What the transport is to send is a message of one entry. -/
def Connection.HoldsEntry (c : Connection) : Prop :=
  ∃ messageVersion messageFlagsMask header entry,
    c.SentEntry messageVersion messageFlagsMask header entry

theorem Connection.HoldsEntry.congr {c c' : Connection} (h : c.HoldsEntry)
    (hbuffer : c'.sendBuffer = c.sendBuffer) (hlen : c'.sendMessageLen = c.sendMessageLen) :
    c'.HoldsEntry := by
  obtain ⟨messageVersion, messageFlagsMask, header, entry, hsent⟩ := h
  refine ⟨messageVersion, messageFlagsMask, header, entry, hsent.known, hsent.writable,
    hsent.headerSize_eq, hsent.written, ?_, ?_⟩
  · rw [hlen]
    exact hsent.len_eq
  · rw [hbuffer]
    exact hsent.there

/-- The first connection after the node had its send buffer: while a message is on its way it is
left alone, and what is requested on a free one is a message. -/
structure Connection.Posts (c c' : Connection) : Prop where
  notFree : c.checkState STATUS_FLAGS_NOT_FREE = true → c'.checkState STATUS_FLAGS_NOT_FREE = true
  busy : c.checkState STATUS_FLAGS_NOT_FREE = true →
    c'.sendBuffer = c.sendBuffer ∧ c'.sendMessageLen = c.sendMessageLen ∧
      c'.checkState STATUS_FLAGS_SEND_REQUESTED = c.checkState STATUS_FLAGS_SEND_REQUESTED
  posted : c.checkState STATUS_FLAGS_NOT_FREE = false →
    c'.checkState STATUS_FLAGS_SEND_REQUESTED = true → c'.HoldsEntry

namespace Connection.Posts

variable {c c' c'' : Connection}

/-- Nothing was done to the send buffer. -/
theorem of_same (hbuffer : c'.sendBuffer = c.sendBuffer)
    (hlen : c'.sendMessageLen = c.sendMessageLen)
    (hrequested : c'.checkState STATUS_FLAGS_SEND_REQUESTED =
      c.checkState STATUS_FLAGS_SEND_REQUESTED)
    (hnotFree : c.checkState STATUS_FLAGS_NOT_FREE = true →
      c'.checkState STATUS_FLAGS_NOT_FREE = true) : c.Posts c' where
  notFree := hnotFree
  busy _ := ⟨hbuffer, hlen, hrequested⟩
  posted hfree hr := by
    have hnot : c.checkState STATUS_FLAGS_NOT_FREE = true :=
      flagsCheck_of_subset (by decide) (hrequested.symm.trans hr)
    cases hfree.symm.trans hnot

theorem refl (c : Connection) : c.Posts c := of_same rfl rfl rfl id

/-- The state is what it was. -/
theorem of_state (hbuffer : c'.sendBuffer = c.sendBuffer)
    (hlen : c'.sendMessageLen = c.sendMessageLen)
    (hstate : c'.connectionState = c.connectionState) : c.Posts c' := by
  have hcheck (mask : BitVec 32) : c'.checkState mask = c.checkState mask := by
    rw [checkState, hstate, checkState]
  exact of_same hbuffer hlen (hcheck _) (hcheck _).trans

/-- A free connection is asked for nothing but a message. -/
theorem of_free (hfree : c.checkState STATUS_FLAGS_NOT_FREE = false)
    (hposted : c'.checkState STATUS_FLAGS_SEND_REQUESTED = true → c'.HoldsEntry) : c.Posts c' where
  notFree hbusy := by cases hfree.symm.trans hbusy
  busy hbusy := by cases hfree.symm.trans hbusy
  posted _ := hposted

/-- A free connection with something in its buffer that is not asked for. -/
theorem of_drafted (hfree : c.checkState STATUS_FLAGS_NOT_FREE = false)
    (hstate : c'.connectionState = c.connectionState) : c.Posts c' := by
  refine of_free hfree fun hr => ?_
  rw [checkState, hstate] at hr
  cases hfree.symm.trans (flagsCheck_of_subset (by decide) hr)

theorem trans (h : c.Posts c') (h' : c'.Posts c'') : c.Posts c'' where
  notFree hbusy := h'.notFree (h.notFree hbusy)
  busy hbusy := by
    obtain ⟨hbuffer, hlen, hrequested⟩ := h.busy hbusy
    obtain ⟨hbuffer', hlen', hrequested'⟩ := h'.busy (h.notFree hbusy)
    exact ⟨hbuffer'.trans hbuffer, hlen'.trans hlen, hrequested'.trans hrequested⟩
  posted hfree hr := by
    cases hbusy : c'.checkState STATUS_FLAGS_NOT_FREE with
    | false => exact h'.posted hbusy hr
    | true =>
        obtain ⟨hbuffer, hlen, hrequested⟩ := h'.busy hbusy
        exact (h.posted hfree (hrequested.symm.trans hr)).congr hbuffer hlen

theorem setState (c : Connection) {m : BitVec 32} (h : m &&& STATUS_FLAGS_SEND_REQUESTED = 0#32) :
    c.Posts (c.setState m) :=
  of_same rfl rfl (checkState_setState h) flagsCheck_set_of_flagsCheck

theorem clearState (c : Connection) {m : BitVec 32} (h : m &&& STATUS_FLAGS_NOT_FREE = 0#32) :
    c.Posts (c.clearState m) := by
  have hsend : m &&& STATUS_FLAGS_SEND_REQUESTED = 0#32 := by
    rw [← show STATUS_FLAGS_NOT_FREE &&& STATUS_FLAGS_SEND_REQUESTED = STATUS_FLAGS_SEND_REQUESTED
      by decide, ← BitVec.and_assoc, h, BitVec.zero_and]
  exact of_same rfl rfl (checkState_clearState hsend) (checkState_clearState h).trans

theorem close (c : Connection) : c.Posts (connectionClose c) := by
  unfold connectionClose
  split
  · exact refl c
  · exact setState c (by decide)

/-- What was asked for before a close. -/
theorem of_close (h : c.Posts (connectionClose c'))
    (hnotFree : c.checkState STATUS_FLAGS_NOT_FREE = true →
      c'.checkState STATUS_FLAGS_NOT_FREE = true) : c.Posts c' := by
  have hsame : (connectionClose c').sendBuffer = c'.sendBuffer ∧
      (connectionClose c').sendMessageLen = c'.sendMessageLen ∧
        (connectionClose c').checkState STATUS_FLAGS_SEND_REQUESTED =
          c'.checkState STATUS_FLAGS_SEND_REQUESTED := by
    unfold connectionClose
    split
    · exact ⟨rfl, rfl, rfl⟩
    · exact ⟨rfl, rfl, checkState_setState (by decide)⟩
  obtain ⟨hbuffer, hlen, hrequested⟩ := hsame
  refine ⟨hnotFree, fun hbusy => ?_, fun hfree hr => ?_⟩
  · obtain ⟨hbuffer', hlen', hrequested'⟩ := h.busy hbusy
    exact ⟨hbuffer.symm.trans hbuffer', hlen.symm.trans hlen', hrequested.symm.trans hrequested'⟩
  · exact (h.posted hfree (hrequested.trans hr)).congr hbuffer.symm hlen.symm

end Connection.Posts

/-- Every send buffer of the node. -/
def Node.Posts (node node' : Node) : Prop := ∀ i, (node.connection i).Posts (node'.connection i)

namespace Node.Posts

variable {node node' node'' : Node}

theorem refl (node : Node) : node.Posts node := fun _ => .refl _

theorem trans (h : node.Posts node') (h' : node'.Posts node'') : node.Posts node'' :=
  fun i => (h i).trans (h' i)

theorem setConnection (node : Node) (i : Nat) {c : Connection} (h : (node.connection i).Posts c) :
    node.Posts (node.setConnection i c) := by
  intro j
  rcases eq_or_ne j i with rfl | hj
  · rw [Node.setConnection_connection]
    exact h
  · rw [Node.setConnection_connection_ne node c hj]
    exact .refl _

theorem withSendBuffer (node : Node) (i : Nat) (b : List UInt8)
    (hfree : (node.connection i).checkState STATUS_FLAGS_NOT_FREE = false) :
    node.Posts (node.withSendBuffer i b) :=
  .setConnection node i (.of_drafted hfree rfl)

theorem queue {node : Node} {i : Nat} {b : List UInt8} {len : Nat} {header : MessageEntryConstHeader}
    (hfree : (node.connection i).checkState STATUS_FLAGS_NOT_FREE = false)
    (h : ((node.queue i b len header).connection i).HoldsEntry) :
    node.Posts (node.queue i b len header) := by
  intro j
  rcases eq_or_ne j i with rfl | hj
  · exact .of_free hfree fun _ => h
  · have hsame : (node.queue i b len header).connection j = node.connection j :=
      Node.modifyConnection_connection_ne node
        (fun c => connectionEndSendMessage { c with sendBuffer := b } len) hj
    rw [hsame]
    exact .refl _

end Node.Posts

/-! ## The visits of a message -/

theorem connectionBeginSendMessage_busy {c : Connection} (messageWriter : MessageWriter)
    (h : c.checkState STATUS_FLAGS_NOT_FREE = true) :
    ∃ e, connectionBeginSendMessage c messageWriter = .error e := by
  unfold connectionBeginSendMessage
  split
  · exact ⟨_, rfl⟩
  · next hopen =>
      split
      · exact ⟨_, rfl⟩
      · next hfree =>
          rw [not_or] at hopen
          -- The two masks cover the flags.
          have hcover := flagsCheck_of_subset (n := (STATUS_FLAGS_ERROR ||| STATUS_FLAGS_CLOSED |||
              STATUS_FLAGS_CLOSE_REQUESTED ||| STATUS_FLAGS_IDLE) |||
            (STATUS_FLAGS_SEND_REQUESTED ||| STATUS_FLAGS_SENDING ||| STATUS_FLAGS_MESSAGE_SENT |||
              STATUS_FLAGS_MESSAGE_SENT_CONSUMED ||| STATUS_FLAGS_BLOCK_SEND)) (by decide) h
          have heither {m n : BitVec 32} (h : flagsCheck c.connectionState (m ||| n) = true) :
              c.checkState m = true ∨ c.checkState n = true := by
            simp only [Connection.checkState, flagsCheck, bne_iff_ne, ne_eq] at h ⊢
            by_contra hnone
            rw [not_or, not_not, not_not] at hnone
            rw [BitVec.and_or_distrib_left, hnone.1, hnone.2, BitVec.zero_or] at h
            exact h rfl
          exact absurd (heither hcover) (not_or.mpr ⟨hopen.1, hfree⟩)

theorem nodeBeginSendMessageentry_busy (node : Node) {i : Nat} (header : MessageEntryConstHeader)
    (h : (node.connection i).checkState STATUS_FLAGS_NOT_FREE = true) :
    ∃ e, nodeBeginSendMessageentry node i header = (.error e, node) := by
  obtain ⟨e, he⟩ := connectionBeginSendMessage_busy ⟨0, 0, 0, 0, 0⟩ h
  exact ⟨e, by rw [nodeBeginSendMessageentry, he]⟩

theorem nodeSendMessageentry_posts (node : Node) (i : Nat) (header : MessageEntryConstHeader)
    (elements : List ElementTree) : node.Posts (nodeSendMessageentry node i header elements).2 := by
  cases hfree : (node.connection i).checkState STATUS_FLAGS_NOT_FREE with
  | true =>
      obtain ⟨e, he⟩ := nodeBeginSendMessageentry_busy node header hfree
      rw [nodeSendMessageentry, he]
      exact .refl node
  | false =>
      rcases nodeSendMessageentry_cases node i header elements with ⟨e, b, h⟩ | ⟨b, len, h⟩
      · rw [h]
        exact .withSendBuffer node i b hfree
      · have hsent := nodeSendMessageentry_sent h
        rw [h]
        exact .queue hfree ⟨_, _, _, _, hsent⟩

theorem nodeSendResponseToSender_posts (node : Node) (event : Event) (elements : List ElementTree) :
    node.Posts (nodeSendResponseToSender node event elements).2 := by
  cases hfree : (node.connection event.connection).checkState STATUS_FLAGS_NOT_FREE with
  | true =>
      have hbusy : ((node.modifyConnection event.connection fun c => { c with
          remoteEndpoint := event.receivedMessage.receivedMessageHeader.senderEndpoint }).connection
            event.connection).checkState STATUS_FLAGS_NOT_FREE = true := by
        rw [Node.modifyConnection_connection]
        exact hfree
      obtain ⟨e, he⟩ := nodeBeginSendMessageentry_busy _ (responseHeader event.requestHeader) hbusy
      unfold nodeSendResponseToSender nodeBeginSendMessageentryResponse
      dsimp only
      rw [he]
      dsimp only
      rw [Node.modifyConnection_modifyConnection]
      exact .setConnection node _ (.of_state rfl rfl rfl)
  | false =>
      rcases nodeSendResponseToSender_cases node event elements with ⟨e, b, h⟩ | ⟨b, len, h⟩
      · rw [h]
        exact .withSendBuffer node _ b hfree
      · have hsent := nodeSendResponseToSender_sent h
        rw [h]
        exact .queue hfree ⟨_, _, _, _, hsent⟩

theorem streamopRespond_posts (node : Node) (event : Event) (capsFlags : BitVec 32) :
    node.Posts (streamopRespond node event capsFlags).2 := by
  by_cases hcaps : capsFlags = 0
  · rw [streamopRespond, if_pos hcaps]
    exact nodeSendMessageentry_posts node _ _ _
  cases hfree : (node.connection event.connection).checkState STATUS_FLAGS_NOT_FREE with
  | true =>
      obtain ⟨e, he⟩ := nodeBeginSendMessageentry_busy node (responseHeader event.requestHeader) hfree
      rw [streamopRespond, if_neg hcaps, nodeBeginSendMessageentryResponse, he]
      exact .refl node
  | false =>
      rcases streamopRespond_cases node event capsFlags with ⟨e, b, h⟩ | ⟨b, len, h⟩
      · rw [h]
        exact .withSendBuffer node _ b hfree
      · rw [h]
        refine .queue hfree ?_
        rw [streamopRespond, if_neg hcaps, nodeBeginSendMessageentryResponse] at h
        split at h
        · cases h
        · next hbegin =>
            split at h
            · cases h
            · next hwrite => exact ⟨_, _, _, _, sentEntry_of_visits hbegin rfl rfl hwrite h⟩

/-- No elements are written by not writing. -/
theorem nodeWriteElements_nil {node : Node} {i : Nat} (sendData : SendMessageentryData)
    (hsmall : 2 * [(node.connection i).sendBuffer.take
      (node.connection i).sendBufferLen].flatten.length < SizeT.modulus) :
    nodeWriteElements node i sendData [] = (.ok sendData, node) := by
  have hwriting : (node.connection i).writing (do
      let elementWriter ← writeElements ⟨0, 0, 0, 0, 0, 0, 0, 0⟩ sendData.elementWriter []
      pure { sendData with elementWriter }) = (.ok sendData, node.connection i) := by
    rw [Connection.writing, dif_pos hsmall, writeElements]
    have hbuffer : [(node.connection i).sendBuffer.take (node.connection i).sendBufferLen].flatten ++
        (node.connection i).sendBuffer.drop (node.connection i).sendBufferLen =
          (node.connection i).sendBuffer := by
      rw [List.flatten_singleton, List.take_append_drop]
    exact Prod.ext rfl (congrArg (fun b => { node.connection i with sendBuffer := b }) hbuffer)
  rw [nodeWriteElements, Node.onConnection, hwriting, Node.setConnection_self]

/-- What was begun lies in a buffer that can be addressed. -/
theorem nodeBeginSendMessageentry_small {node node' : Node} {i : Nat}
    {header : MessageEntryConstHeader} {sendData : SendMessageentryData}
    (h : nodeBeginSendMessageentry node i header = (.ok sendData, node')) :
    2 * [(node'.connection i).sendBuffer.take (node'.connection i).sendBufferLen].flatten.length <
      SizeT.modulus := by
  obtain ⟨writer, v, v', -, hwrote⟩ := nodeBeginSendMessageentry_wrote h
  rw [List.flatten_singleton, hwrote.take_eq]
  exact v'.length_bytes

/-- A message without elements is ended as soon as it is begun. -/
theorem nodeSendMessageentry_nil (node : Node) (i : Nat) (header : MessageEntryConstHeader) :
    nodeSendMessageentry node i header [] =
      match nodeBeginSendMessageentry node i header with
      | (.error e, node) => (.error e, node)
      | (.ok sendData, node) => nodeEndSendMessageentry node i sendData := by
  rw [nodeSendMessageentry]
  rcases hbegin : nodeBeginSendMessageentry node i header with ⟨e | sendData, node'⟩
  · rfl
  · dsimp only
    rw [nodeWriteElements_nil sendData (nodeBeginSendMessageentry_small hbegin)]

theorem clientSendHeartbeat_eq (node : Node) (i : Nat) :
    clientSendHeartbeat node i = nodeSendMessageentry
      (node.setConnection i
        (clientRequestHeader (node.connection i) MESSAGEENTRYTYPE_CONNECTIONTEST []).2) i
      (clientRequestHeader (node.connection i) MESSAGEENTRYTYPE_CONNECTIONTEST []).1 [] := by
  rw [nodeSendMessageentry_nil]
  rfl

/-! ## The requests of the handshake -/

theorem Node.tried_connection (node : Node) (k : Nat) (c : Connection) (requestId : UInt32) :
    (node.tried k c requestId).connection (node.client k).clientConnection = c :=
  Node.setConnection_connection node _ c

theorem clientHandshakeHandleError_posts (node : Node) (k : Nat) (rv : Status) :
    node.Posts (clientHandshakeHandleError node k rv).2 := by
  unfold clientHandshakeHandleError
  split
  · exact .refl node
  · exact .setConnection node _ (.close _)

/-- A request is begun on a connection that has counted it. -/
theorem clientHandshakeBeginRequest_begun {node node' : Node} {k : Nat} {entryType : UInt16}
    {membername : List UInt8} {rv : Result SendMessageentryData}
    (h : clientHandshakeBeginRequest node k entryType membername = (rv, node')) :
    ∃ header node₁,
      nodeBeginSendMessageentry (node.setConnection (node.client k).clientConnection
        (clientRequestHeader (node.connection (node.client k).clientConnection) entryType
          membername).2) (node.client k).clientConnection header = (rv, node₁) ∧
      node'.connection = node₁.connection := by
  unfold clientHandshakeBeginRequest at h
  dsimp only [Node.onConnection] at h
  obtain ⟨hrv, rfl⟩ := Prod.mk.inj h
  exact ⟨_, _, Prod.ext hrv rfl, rfl⟩

/-- On a busy connection nothing but the number of the request changes. -/
theorem clientHandshakeBeginRequest_busy (node : Node) {k : Nat} (entryType : UInt16)
    (membername : List UInt8)
    (h : (node.connection (node.client k).clientConnection).checkState STATUS_FLAGS_NOT_FREE = true) :
    ∃ e node', clientHandshakeBeginRequest node k entryType membername = (.error e, node') ∧
      node'.connection (node.client k).clientConnection =
        (clientRequestHeader (node.connection (node.client k).clientConnection) entryType
          membername).2 := by
  rcases hbegin : clientHandshakeBeginRequest node k entryType membername with ⟨rv, node'⟩
  obtain ⟨header, node₁, hbegun, hsame⟩ := clientHandshakeBeginRequest_begun hbegin
  obtain ⟨e, he⟩ := nodeBeginSendMessageentry_busy (node.setConnection
    (node.client k).clientConnection (clientRequestHeader
      (node.connection (node.client k).clientConnection) entryType membername).2) header
    (by rw [Node.setConnection_connection]; exact h)
  obtain ⟨rfl, rfl⟩ := Prod.mk.inj (hbegun.symm.trans he)
  exact ⟨e, node', rfl, by rw [hsame, Node.setConnection_connection]⟩

/-- The end of a request that was begun on a free connection. -/
theorem posts_of_end {c : Connection} {node₀ node₁ node₂ node₃ : Node} {i k : Nat}
    {sent : HandshakeState} {header : MessageEntryConstHeader} {elements : List ElementTree}
    {sendData sendData' : SendMessageentryData}
    (hfree : c.checkState STATUS_FLAGS_NOT_FREE = false)
    (hbegin : nodeBeginSendMessageentry node₀ i header = (.ok sendData, node₁))
    (hbuffer : (node₂.connection i).sendBuffer = (node₁.connection i).sendBuffer)
    (hlen : (node₂.connection i).sendBufferLen = (node₁.connection i).sendBufferLen)
    (hwrite : nodeWriteElements node₂ i sendData elements = (.ok sendData', node₃))
    (hstate : (node₃.connection i).connectionState = c.connectionState) :
    c.Posts ((match nodeEndSendMessageentry node₃ i sendData' with
      | (.error e, node) => clientHandshakeHandleError node k e
      | (.ok (), node) => (.error .retry, node.setHandshakeState k sent)).2.connection i) := by
  rcases nodeEndSendMessageentry_cases node₃ i sendData' with ⟨e, b, h⟩ | ⟨b, len, h⟩
  · rw [h]
    dsimp only
    have hdrafted : c.Posts ((node₃.withSendBuffer i b).connection i) := by
      refine .of_drafted hfree ?_
      rw [Node.withSendBuffer, Node.modifyConnection_connection]
      exact hstate
    exact hdrafted.trans (clientHandshakeHandleError_posts _ k e i)
  · have hsent := sentEntry_of_visits hbegin hbuffer hlen hwrite h
    rw [h]
    exact .of_free hfree fun _ => ⟨_, _, _, _, hsent⟩

theorem clientHandshakeRequest_posts (node : Node) (k : Nat) (entryType : UInt16)
    (sent : HandshakeState) :
    (node.connection (node.client k).clientConnection).Posts
      ((clientHandshakeRequest node k entryType sent).2.connection
        (node.client k).clientConnection) := by
  unfold clientHandshakeRequest
  cases hfree : (node.connection (node.client k).clientConnection).checkState
      STATUS_FLAGS_NOT_FREE with
  | true =>
      obtain ⟨e, node', hbegin, hsame⟩ := clientHandshakeBeginRequest_busy node entryType [] hfree
      rw [hbegin]
      dsimp only
      refine Connection.Posts.trans ?_ (clientHandshakeHandleError_posts node' k e _)
      rw [hsame]
      exact .of_state rfl rfl rfl
  | false =>
      rcases clientHandshakeBeginRequest_cases node k entryType [] rfl with
        ⟨e, b, h⟩ | ⟨sendData, b, h, -, -⟩
      · rw [h]
        dsimp only
        refine Connection.Posts.trans (.of_drafted hfree ?_)
          (clientHandshakeHandleError_posts _ k e _)
        rw [Node.tried_connection]
        rfl
      · obtain ⟨header, node₁, hbegin, hsame⟩ := clientHandshakeBeginRequest_begun h
        rw [h]
        dsimp only
        rw [Node.tried_client]
        refine posts_of_end hfree hbegin (by rw [hsame]) (by rw [hsame])
          (nodeWriteElements_nil sendData ?_) ?_
        · rw [hsame]
          exact nodeBeginSendMessageentry_small hbegin
        · rw [Node.tried_connection]
          rfl

omit [SizeT] in
theorem connectionOpened_state (c : Connection) :
    (connectionOpened c).connectionState = c.connectionState := by
  unfold connectionOpened connectionChooseLocalEndpoint
  split
  · rfl
  · rfl

omit [SizeT] in
/-- Passing for connected is no matter of the send buffer. -/
theorem connectionSpoofed_notFree (c : Connection) :
    (connectionSpoofed (connectionOpened c)).checkState STATUS_FLAGS_NOT_FREE =
      c.checkState STATUS_FLAGS_NOT_FREE := by
  rw [connectionSpoofed, Connection.checkState_setState (by decide),
    Connection.checkState_clearState (by decide), Connection.checkState, connectionOpened_state,
    Connection.checkState]

theorem clientHandshakeOpen_posts (node : Node) (k : Nat) :
    (node.connection (node.client k).clientConnection).Posts
      ((clientHandshakeOpen node k).2.connection (node.client k).clientConnection) := by
  generalize hc : node.connection (node.client k).clientConnection = c
  obtain ⟨spoofed, hspoofed⟩ : ∃ spoofed : Node, spoofed = (node.modifyConnection
      (node.client k).clientConnection connectionOpened).modifyConnection
        (node.client k).clientConnection connectionSpoofed := ⟨_, rfl⟩
  have hclient : (spoofed.client k).clientConnection = (node.client k).clientConnection := by
    rw [hspoofed]
    rfl
  have hconnection : spoofed.connection (spoofed.client k).clientConnection =
      connectionSpoofed (connectionOpened c) := by
    rw [hclient, hspoofed, Node.modifyConnection_connection, Node.modifyConnection_connection, hc]
  rw [clientHandshakeOpen_eq]
  dsimp only
  rw [← hspoofed, Node.modifyConnection_connection, hc, connectionOpened_state, ← hclient]
  cases hfree : c.checkState STATUS_FLAGS_NOT_FREE with
  | true =>
      obtain ⟨e, node', hbegin, hsame⟩ := clientHandshakeBeginRequest_busy spoofed (k := k)
        MESSAGEENTRYTYPE_STREAMOP CREATE_CONNECTION
        (by rw [hconnection, connectionSpoofed_notFree]; exact hfree)
      rw [hbegin]
      dsimp only
      refine Connection.Posts.trans ?_ (clientHandshakeHandleError_posts _ k e _)
      rw [Node.modifyConnection_connection, hsame, hconnection]
      refine .of_state ?_ ?_ rfl
      all_goals
        unfold connectionOpened connectionChooseLocalEndpoint
        split
        · rfl
        · rfl
  | false =>
      rcases hbegin : clientHandshakeBeginRequest spoofed k MESSAGEENTRYTYPE_STREAMOP
        CREATE_CONNECTION with ⟨e | sendData, node'⟩
      · dsimp only
        refine Connection.Posts.trans (.of_drafted hfree ?_)
          (clientHandshakeHandleError_posts _ k e _)
        rw [Node.modifyConnection_connection]
      · obtain ⟨header, node₁, hbegun, hsame⟩ := clientHandshakeBeginRequest_begun hbegin
        dsimp only
        generalize hrestored : (node'.modifyConnection (spoofed.client k).clientConnection
          fun c' => { c' with connectionState := c.connectionState }) = restored
        have hrestored' : restored.connection (spoofed.client k).clientConnection =
            { node₁.connection (spoofed.client k).clientConnection with
              connectionState := c.connectionState } := by
          rw [← hrestored, Node.modifyConnection_connection, hsame]
        rcases nodeWriteElements_cases restored (spoofed.client k).clientConnection sendData
            (nodeTransportPopulateCapabilities (CONNECTION_PARSE_CAPABILITY_MESSAGE2 |||
              CONNECTION_PARSE_CAPABILITY_MESSAGE4)) with ⟨e, b, hwrite⟩ | ⟨sendData', b, hwrite, -⟩
        · rw [hwrite]
          dsimp only
          refine Connection.Posts.trans (.of_drafted hfree ?_)
            (clientHandshakeHandleError_posts _ k e _)
          rw [Node.withSendBuffer, Node.modifyConnection_connection, hrestored']
        · rw [hwrite]
          dsimp only
          refine posts_of_end hfree hbegun ?_ ?_ hwrite ?_
          · rw [hrestored']
          · rw [hrestored']
          · rw [Node.withSendBuffer, Node.modifyConnection_connection, hrestored']

/-! ## The application -/

theorem nodeAppCall_posts (node : Node) (call : AppCall) : node.Posts (nodeAppCall node call) := by
  cases call with
  | close i => exact .setConnection node i (.close _)
  | send i header elements => exact nodeSendMessageentry_posts node i header elements

theorem foldl_nodeAppCall_posts (node : Node) (calls : List AppCall) :
    node.Posts (calls.foldl nodeAppCall node) := by
  induction calls generalizing node with
  | nil => exact .refl node
  | cons call calls ih => exact (nodeAppCall_posts node call).trans (ih _)

theorem nodeCallHandler_posts (node : Node) (handler : HandlerCall) :
    (node.addEffect (.call handler)).Posts (nodeCallHandler node handler).2 := by
  unfold nodeCallHandler
  dsimp only
  split
  · exact .refl _
  · next answer answers _ =>
      exact foldl_nodeAppCall_posts { node.addEffect (.call handler) with answers } answer.calls

end

end RobotRaconteurLite

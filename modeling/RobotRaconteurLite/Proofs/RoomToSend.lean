import RobotRaconteurLite.Proofs.RoomEnough
import RobotRaconteurLite.Proofs.SentMessages
import RobotRaconteurLite.Proofs.WriteRanges

/-!
# Room to send

A node that may begin a version 2 message sends it, if the message passes the
checks of the writers and the send buffer has room for all of it. The entry may be
larger than its size says: nobody looks.
-/

namespace RobotRaconteurLite

open OffsetWriter

section

variable [SizeT]

/-- The part of the send buffer that a message may take. -/
def Connection.sendArea (c : Connection) : List UInt8 := c.sendBuffer.take c.sendBufferLen

theorem Connection.Wrote.length_sendArea {c c' : Connection} {v v' : BufferVec}
    (h : c.Wrote v v' c') : c'.sendArea.length = c.sendArea.length := by
  rw [Connection.sendArea, h.take_eq, h.length_eq, h.bytes_eq, Connection.sendArea]

/-- Nothing stands against beginning a message. -/
theorem connectionBeginSendMessage_opens {c : Connection} (messageWriter : MessageWriter)
    (hstands : c.checkState (STATUS_FLAGS_ERROR ||| STATUS_FLAGS_CLOSED |||
      STATUS_FLAGS_CLOSE_REQUESTED ||| STATUS_FLAGS_IDLE) = false)
    (hconnected : c.checkState STATUS_FLAGS_CONNECTED = true)
    (hfree : c.checkState (STATUS_FLAGS_SEND_REQUESTED ||| STATUS_FLAGS_SENDING |||
      STATUS_FLAGS_MESSAGE_SENT ||| STATUS_FLAGS_MESSAGE_SENT_CONSUMED |||
      STATUS_FLAGS_BLOCK_SEND) = false)
    (haddr : 2 * c.sendArea.length < SizeT.modulus) (hpos : c.sendBufferPos ≤ c.sendArea.length) :
    ∃ writer, connectionBeginSendMessage c messageWriter = .ok writer := by
  have haddr' : 2 * [c.sendBuffer.take c.sendBufferLen].flatten.length < SizeT.modulus := by
    rwa [List.flatten_singleton]
  have hlength : bufferVecLen (BufferVec.toBuffers ⟨[c.sendBuffer.take c.sendBufferLen], haddr'⟩) =
      c.sendArea.length := by
    rw [bufferVecLen_toBuffers, BufferVec.bytes, List.flatten_singleton, Connection.sendArea]
  unfold connectionBeginSendMessage
  rw [hstands, hconnected, hfree, if_neg (by decide), if_neg (by decide), dif_pos haddr']
  dsimp only
  rw [ExceptT.run, messageWriterInit_apply, hlength, if_neg]
  · exact ⟨_, rfl⟩
  · rw [addSz_eq (by omega)]
    omega

/-- A visit to the send buffer that has room for what it writes. -/
theorem writing_succeeds {α : Type} {c : Connection} {write : BufferM α} {e : Nat}
    (haddr : 2 * c.sendArea.length < SizeT.modulus) (hroom : e ≤ c.sendArea.length)
    (h : SucceedsTo BufferVec.bytes e write) : ∃ a, (c.writing write).1 = .ok a := by
  have haddr' : 2 * [c.sendBuffer.take c.sendBufferLen].flatten.length < SizeT.modulus := by
    rwa [List.flatten_singleton]
  obtain ⟨a, w, hrun⟩ := h ⟨[c.sendBuffer.take c.sendBufferLen], haddr'⟩
    (by rwa [BufferVec.bytes, List.flatten_singleton])
  exact ⟨a, by rw [Connection.writing, dif_pos haddr', hrun]⟩

section

variable {node node' : Node} {i headerSize entryHeaderSize : Nat} {header : MessageEntryConstHeader}
  {sendData sendData' : SendMessageentryData}

/-- What a version 2 message was begun with, and its entry: nothing is written or counted yet. -/
structure SendMessageentryData.AtElements (sendData : SendMessageentryData)
    (headerSize entryHeaderSize : Nat) : Prop where
  versions : sendData.messageWriter.messageVersion = 2 ∧ sendData.entryWriter.messageVersion = 2 ∧
    sendData.elementWriter.messageVersion = 2
  headerSize_eq : sendData.messageHeader.headerSize.toNat = headerSize
  sizeOffset_eq : sendData.messageWriter.messageSizeOffset = 4
  countOffset_eq : sendData.messageWriter.entryCountOffset + 6 = headerSize
  entrySizeOffset_eq : sendData.entryWriter.entrySizeOffset = headerSize
  elementCountOffset_eq : sendData.entryWriter.elementCountOffset =
    headerSize + (entryHeaderSize - 2)
  entryHeaderSize_eq : sendData.entryWriter.entryHeaderSize = entryHeaderSize
  written_eq : sendData.entryWriter.entriesWrittenSize = 0
  offset_eq : sendData.elementWriter.bufferOffset = headerSize + entryHeaderSize
  counted_eq : sendData.elementWriter.elementsWrittenCount = 0
  size_eq : sendData.elementWriter.elementsWrittenSize = 0
  offset_lt : headerSize + entryHeaderSize < SizeT.modulus

theorem SendMessageentryData.AtElements.counting (h : sendData.AtElements headerSize entryHeaderSize) :
    sendData.elementWriter.Counting := by
  refine ⟨?_, ?_, ?_⟩
  · rw [h.size_eq]
    exact Nat.zero_le _
  · rw [h.counted_eq]
    exact Nat.zero_le _
  · rw [h.offset_eq]
    exact h.offset_lt

theorem nodeBeginSendMessageentry_succeeds {writer : MessageWriter}
    (hopen : connectionBeginSendMessage (node.connection i) ⟨0, 0, 0, 0, 0⟩ = .ok writer)
    (hver : (node.connection i).messageVersion = 2)
    (hpasses : (nodeMessageHeader node (node.connection i)).Passes2)
    (hstrings : header.StringsWithin UINT32_MAX)
    (haddr : 2 * (node.connection i).sendArea.length < SizeT.modulus)
    (hroom : (messageHeaderBytes 2 (nodeMessageHeader node (node.connection i))
        (~~~(node.connection i).messageFlagsInvMask) 0).length +
      (messageEntryHeaderBytes 2 header 0 0).length ≤ (node.connection i).sendArea.length) :
    ∃ sendData, (nodeBeginSendMessageentry node i header).1 = .ok sendData := by
  obtain ⟨hoffset, hversion⟩ := connectionBeginSendMessage_opened hopen
  rw [hver] at hversion
  rw [nodeBeginSendMessageentry, hopen]
  refine writing_succeeds haddr hroom ?_
  have hput := messageWriterBeginMessageEx_puts writer
    (nodeMessageHeader node (node.connection i)) ⟨0, 0, 0, 0, 0, 0, 0, 0⟩
    (~~~(node.connection i).messageFlagsInvMask) rfl
  rw [hversion, hoffset] at hput
  refine SucceedsTo.bind (messageWriterBeginMessageEx_succeeds _ _ hversion hpasses (by omega)) hput
    fun r hr => ?_
  obtain ⟨messageWriter, messageHeader, entryWriter⟩ := r
  obtain ⟨-, -, -, -, -, -, -, -, hentryWriter⟩ := hr
  dsimp only at hentryWriter ⊢
  have hentryVersion : entryWriter.messageVersion = 2 := by rw [hentryWriter]
  have hcount : entryWriter.entriesWrittenCount < UINT16_MAX := by
    rw [hentryWriter]
    show 0 < UINT16_MAX
    decide
  have hentryOffset : entryWriter.bufferOffset =
      0 + (messageHeaderBytes 2 (nodeMessageHeader node (node.connection i))
        (~~~(node.connection i).messageFlagsInvMask) 0).length := by rw [hentryWriter]
  exact SucceedsTo.bind (messageEntryWriterBeginEntry_succeeds _ hentryVersion hcount hstrings
    (by omega)) (messageEntryWriterBeginEntry_puts entryWriter header _ rfl)
    fun _ _ => SucceedsTo.pure _

theorem nodeBeginSendMessageentry_atElements (hver : (node.connection i).messageVersion = 2)
    (h : nodeBeginSendMessageentry node i header = (.ok sendData, node')) :
    sendData.AtElements (messageHeaderBytes 2 (nodeMessageHeader node (node.connection i))
        (~~~(node.connection i).messageFlagsInvMask) 0).length
      (messageEntryHeaderBytes 2 header 0 0).length := by
  obtain ⟨writer, v, v', ⟨hstarted, entryWriter, v₁, hmessage, hentry⟩, -⟩ :=
    nodeBeginSendMessageentry_wrote h
  obtain ⟨hoffset, hversion⟩ := connectionBeginSendMessage_opened hstarted
  rw [hver] at hversion
  have hput := messageWriterBeginMessageEx_puts writer
    (nodeMessageHeader node (node.connection i)) ⟨0, 0, 0, 0, 0, 0, 0, 0⟩
    (~~~(node.connection i).messageFlagsInvMask) rfl
  rw [hversion, hoffset] at hput
  obtain ⟨countOffset, -, -, hcount, -, hwriter, -, hheader, hentryWriter⟩ :=
    answer_of_putsAt hput hmessage
  dsimp only at hwriter hheader hentryWriter
  rw [CountLies, if_pos rfl] at hcount
  have hputEntry := messageEntryWriterBeginEntry_puts entryWriter header ⟨0, 0, 0, 0, 0, 0, 0, 0⟩ rfl
  have hentryVersion : entryWriter.messageVersion = 2 := by rw [hentryWriter]
  rw [hentryVersion] at hputEntry
  obtain ⟨-, -, -, hlt, hbegun, hchild⟩ := answer_of_putsAt hputEntry hentry
  dsimp only at hbegun hchild
  rw [hentryWriter, Nat.zero_add] at hbegun hchild hlt
  rw [Nat.zero_add] at hwriter hcount
  exact {
    versions := by rw [hwriter, hbegun, hchild]; exact ⟨rfl, rfl, rfl⟩
    headerSize_eq := hheader
    sizeOffset_eq := by rw [hwriter]
    countOffset_eq := by rw [hwriter]; exact hcount
    entrySizeOffset_eq := by rw [hbegun, sizeSkip, if_pos rfl, Nat.add_zero]
    elementCountOffset_eq := by rw [hbegun, countWidth, if_pos rfl]
    entryHeaderSize_eq := by rw [hbegun]
    written_eq := by rw [hbegun]
    offset_eq := by rw [hchild]
    counted_eq := by rw [hchild]
    size_eq := by rw [hchild]
    offset_lt := hlt }

theorem nodeWriteElements_succeeds {elements : List ElementTree}
    (h : sendData.AtElements headerSize entryHeaderSize) (hwritten : ElementsWritten 2 elements)
    (hmany : elements.length ≤ UINT32_MAX) (hfilled : ElementsFilled elements)
    (haddr : 2 * (node.connection i).sendArea.length < SizeT.modulus)
    (hroom : headerSize + entryHeaderSize + (elementsBytes 2 elements).length ≤
      (node.connection i).sendArea.length) :
    ∃ sendData', (nodeWriteElements node i sendData elements).1 = .ok sendData' := by
  have hcounting := h.counting
  refine writing_succeeds haddr hroom ?_
  exact SucceedsTo.bind (writeElements_succeeds _ elements h.versions.2.2 hcounting
    (by rwa [h.counted_eq, Nat.zero_add]) hwritten hfilled (by rw [h.offset_eq]))
    (writeElements_puts _ _ hcounting elements) fun _ _ => SucceedsTo.pure _

/-- The header of the message states the size that the entry states. -/
theorem nodeEndSendMessageentry_succeeds {elementWriter : MessageElementWriter} {elementsSize : Nat}
    (h : sendData.AtElements headerSize entryHeaderSize)
    (hheader : 10 ≤ headerSize) (hentryHeader : 10 ≤ entryHeaderSize)
    (hwritten : elementWriter.elementsWrittenSize = elementsSize)
    (hstated : headerSize + (entryHeaderSize + elementsSize) % 2 ^ 32 ≤ UINT32_MAX)
    (haddr : 2 * (node.connection i).sendArea.length < SizeT.modulus)
    (hroom : headerSize + entryHeaderSize + elementsSize ≤ (node.connection i).sendArea.length) :
    (nodeEndSendMessageentry node i { sendData with elementWriter := elementWriter }).1 =
      .ok () := by
  have hmod := SizeT.le_modulus
  have hmax : UINT32_MAX = 2 ^ 32 - 1 := by decide
  have hentrySize := h.entrySizeOffset_eq
  have helementCount := h.elementCountOffset_eq
  have hsizeOffset := h.sizeOffset_eq
  have hcountOffset := h.countOffset_eq
  have hentryHeaderSize := h.entryHeaderSize_eq
  have hsum : addSz sendData.entryWriter.entryHeaderSize elementWriter.elementsWrittenSize =
      entryHeaderSize + elementsSize := by
    rw [hentryHeaderSize, hwritten, addSz_eq (by omega)]
  obtain ⟨messageHeader, hmessageHeader⟩ : ∃ messageHeader, (node.onConnection i fun c =>
      c.writing do
        let entryWriter ← messageEntryWriterEndEntry sendData.entryWriter elementWriter
        messageWriterEndMessage sendData.messageWriter sendData.messageHeader entryWriter).1 =
      .ok messageHeader := by
    refine writing_succeeds haddr hroom ?_
    have hsizeIn : PatchIn 0 (headerSize + entryHeaderSize) sendData.entryWriter.entrySizeOffset 4 :=
      ⟨Nat.zero_le _, by omega⟩
    have hcountIn : PatchIn 0 (headerSize + entryHeaderSize) sendData.entryWriter.elementCountOffset
        (countWidth sendData.entryWriter.messageVersion) := by
      rw [countWidth, if_pos h.versions.2.1]
      exact ⟨Nat.zero_le _, by omega⟩
    refine SucceedsTo.within_bind (messageEntryWriterEndEntry_succeeds elementWriter h.versions.2.1
      (by omega) (by omega)) (messageEntryWriterEndEntry_within elementWriter hsizeIn hcountIn)
      fun entryWriter hentryWriter => ?_
    obtain ⟨entrySize, hstates, hentryWriter⟩ := hentryWriter
    have hsize : entryWriter.entriesWrittenSize = (entryHeaderSize + elementsSize) % 2 ^ 32 := by
      rw [hentryWriter, hstates, hsum]
      dsimp only
      rw [h.written_eq, addSz_eq (by omega), Nat.zero_add]
    refine messageWriterEndMessage_succeeds h.versions.1 ?_ (by omega) (by omega) ?_
    · rw [hsize, h.headerSize_eq, addSz_eq (by omega)]
      omega
    · rw [sizeTMax]
      omega
  rw [nodeEndSendMessageentry]
  split
  · next e node' h' =>
      rw [h'] at hmessageHeader
      cases hmessageHeader
  · rfl

end

/-- What a version 2 message of one entry needs. -/
structure Connection.ReadyFor (c : Connection) (header : MessageConstHeader) (entry : EntryTree) :
    Prop where
  opens : ∃ writer, connectionBeginSendMessage c ⟨0, 0, 0, 0, 0⟩ = .ok writer
  version : c.messageVersion = 2
  passes : header.Passes2
  written : entry.Written 2
  filled : ElementsFilled entry.elements
  addressable : 2 * c.sendArea.length < SizeT.modulus
  room : (messageHeaderBytes 2 header (~~~c.messageFlagsInvMask) 0).length +
    (entryBytes 2 entry).length ≤ c.sendArea.length
  stated : (messageHeaderBytes 2 header (~~~c.messageFlagsInvMask) 0).length +
    (entryBytes 2 entry).length % 2 ^ 32 ≤ UINT32_MAX

/-- The endpoints of the connection are no matter. -/
theorem Connection.ReadyFor.congr {c : Connection} {header : MessageConstHeader} {entry : EntryTree}
    (h : c.ReadyFor header entry) (remoteEndpoint : UInt32) :
    { c with remoteEndpoint := remoteEndpoint }.ReadyFor header entry := by
  obtain ⟨hopens, hver, hpasses, hwritten, hfilled, haddr, hroom, hstated⟩ := h
  exact ⟨hopens, hver, hpasses, hwritten, hfilled, haddr, hroom, hstated⟩

/-- The three visits, with nothing done to the send buffer between them. -/
theorem Connection.ReadyFor.visits {node : Node} {i : Nat} {header : MessageEntryConstHeader}
    {elements : List ElementTree}
    (h : (node.connection i).ReadyFor (nodeMessageHeader node (node.connection i))
      ⟨header, elements⟩) :
    ∃ sendData node₁, nodeBeginSendMessageentry node i header = (.ok sendData, node₁) ∧
      ∀ node₂ : Node, (node₂.connection i).sendArea = (node₁.connection i).sendArea →
        ∃ sendData' node₃ node₄, nodeWriteElements node₂ i sendData elements = (.ok sendData', node₃) ∧
          nodeEndSendMessageentry node₃ i sendData' = (.ok (), node₄) := by
  obtain ⟨⟨writer, hopens⟩, hver, hpasses, hwritten, hfilled, haddr, hroom, hstated⟩ := h
  have hlong := messageHeaderBytes_length hwritten.known
    (nodeMessageHeader node (node.connection i)) (~~~(node.connection i).messageFlagsInvMask) 0
  have hlongEntry := messageEntryHeaderBytes_length hwritten.known header 0 0
  rw [entryBytes_length hwritten.known] at hroom hstated
  dsimp only at hroom hstated
  have hstrings : header.StringsWithin UINT32_MAX := hwritten.strings
  obtain ⟨sendData, hbegin⟩ :=
    nodeBeginSendMessageentry_succeeds hopens hver hpasses hstrings haddr (by omega)
  obtain ⟨node₁, hbegin⟩ : ∃ node₁, nodeBeginSendMessageentry node i header =
    (.ok sendData, node₁) := ⟨_, Prod.ext hbegin rfl⟩
  refine ⟨sendData, node₁, hbegin, fun node₂ harea₂ => ?_⟩
  have hat := nodeBeginSendMessageentry_atElements hver hbegin
  obtain ⟨_, _, _, -, hwrote₁⟩ := nodeBeginSendMessageentry_wrote hbegin
  replace harea₂ := (congrArg List.length harea₂).trans hwrote₁.length_sendArea
  obtain ⟨sendData', hwrite⟩ := nodeWriteElements_succeeds hat hwritten.elements hwritten.count_le
    hfilled (by rwa [harea₂]) (by rw [harea₂]; dsimp only; omega)
  obtain ⟨node₃, hwrite⟩ : ∃ node₃, nodeWriteElements node₂ i sendData elements =
    (.ok sendData', node₃) := ⟨_, Prod.ext hwrite rfl⟩
  obtain ⟨v, v', elementWriter, helements, rfl, hwrote₃⟩ := nodeWriteElements_wrote hwrite
  have harea₃ := hwrote₃.length_sendArea.trans harea₂
  have hcounting := hat.counting
  have hput := writeElements_puts ⟨0, 0, 0, 0, 0, 0, 0, 0⟩ sendData.elementWriter hcounting elements
  rw [hat.versions.2.2] at hput
  obtain ⟨-, hadvanced⟩ := answer_of_putsAt hput helements
  have hsize := hadvanced.size_eq
  rw [hat.size_eq, Nat.zero_add] at hsize
  refine ⟨_, node₃, _, hwrite, Prod.ext ?_ rfl⟩
  exact nodeEndSendMessageentry_succeeds hat hlong hlongEntry hsize hstated (by rwa [harea₃])
    (by omega)

theorem nodeSendResponseToSender_succeeds {node : Node} {event : Event} {elements : List ElementTree}
    (h : (node.connection event.connection).ReadyFor (senderMessageHeader node event)
      ⟨responseHeader event.requestHeader, elements⟩) :
    ∃ node', nodeSendResponseToSender node event elements = (.ok (), node') := by
  obtain ⟨node₀, hnode₀⟩ : ∃ node₀ : Node, node₀ = node.modifyConnection event.connection fun c =>
    { c with remoteEndpoint := event.receivedMessage.receivedMessageHeader.senderEndpoint } :=
    ⟨_, rfl⟩
  have hconnection : node₀.connection event.connection = { node.connection event.connection with
      remoteEndpoint := event.receivedMessage.receivedMessageHeader.senderEndpoint } := by
    rw [hnode₀, Node.modifyConnection_connection]
  have hready : (node₀.connection event.connection).ReadyFor
      (nodeMessageHeader node₀ (node₀.connection event.connection))
      ⟨responseHeader event.requestHeader, elements⟩ := by
    rw [hconnection, hnode₀]
    exact h.congr _
  obtain ⟨sendData, node₁, hbegin, hvisits⟩ := hready.visits
  obtain ⟨node₂, hnode₂⟩ : ∃ node₂ : Node, node₂ = node₁.modifyConnection event.connection fun c =>
    { c with remoteEndpoint := (node.connection event.connection).remoteEndpoint } := ⟨_, rfl⟩
  obtain ⟨sendData', node₃, node₄, hwrite, hend⟩ := hvisits node₂ (by
    rw [hnode₂, Node.modifyConnection_connection, Connection.sendArea, Connection.sendArea])
  refine ⟨node₄, ?_⟩
  unfold nodeSendResponseToSender nodeBeginSendMessageentryResponse
  dsimp only
  rw [← hnode₀, hbegin]
  dsimp only
  rw [← hnode₂, hwrite]
  exact hend

end

end RobotRaconteurLite

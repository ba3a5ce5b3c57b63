import RobotRaconteurLite.Proofs.Entries
import RobotRaconteurLite.Proofs.FirstMatch
import RobotRaconteurLite.Proofs.NodeFrames
import RobotRaconteurLite.Proofs.RoundTrip
import RobotRaconteurLite.Proofs.Segments

/-!
# The message that a node sends

A node begins a message, writes its elements and ends it, in three visits to the
send buffer of a connection. A visit leaves the buffer as long as it found it, so
what the next one works on is what the last one left, and the three are one run
of the writers.
-/

namespace RobotRaconteurLite

open OffsetWriter Splice

section

variable [SizeT]

/-! ## The send area -/

/-- One piece of memory of `n` bytes, on both sides. -/
def OfShape (n : Nat) (v w : BufferVec) : Prop :=
  (v.segments.length = 1 ∧ v.bytes.length = n) ∧ w.segments.length = 1 ∧ w.bytes.length = n

instance ofShape_storesAlike (n : Nat) : StoresAlike (OfShape n) where
  store := by
    intro v w h pos bs
    obtain ⟨⟨hv, hvn⟩, hw, hwn⟩ := h
    rcases BufferVec.store_alike (hvn.trans hwn.symm) pos bs with herror |
      ⟨v', w', hstore, hstore', hone, hone'⟩
    · exact Or.inl herror
    · obtain ⟨hin, hbytes⟩ := BufferVec.bytes_of_store hstore
      obtain ⟨hin', hbytes'⟩ := BufferVec.bytes_of_store hstore'
      refine Or.inr ⟨v', w', hstore, hstore', ⟨hone.trans hv, ?_⟩, hone'.trans hw, ?_⟩
      · rw [hbytes, length_overwrite hin, hvn]
      · rw [hbytes', length_overwrite hin', hwn]

mutual

theorem writeElement_lockstep (unset elementWriter : MessageElementWriter) (n : Nat)
    (element : ElementTree) :
    Lockstep (OfShape n) (writeElement unset elementWriter element) := by
  cases element with
  | data elementName dataType data =>
      rw [writeElement]
      exact messageElementWriterWriteRaw_lockstep _ _ _ _ fun _ v w h =>
        iff_of_true h.1.1 h.2.1
  | nested header children =>
      rw [writeElement]
      refine (messageElementWriterBeginNestedElement_lockstep _ _ _).bind fun p => ?_
      refine (writeElements_lockstep unset p.2 n children).bind fun w => ?_
      exact messageElementWriterEndNestedElement_lockstep _ _

theorem writeElements_lockstep (unset elementWriter : MessageElementWriter) (n : Nat)
    (elements : List ElementTree) :
    Lockstep (OfShape n) (writeElements unset elementWriter elements) := by
  cases elements with
  | nil =>
      rw [writeElements]
      exact Lockstep.pure _
  | cons element elements =>
      rw [writeElements]
      exact (writeElement_lockstep unset elementWriter n element).bind fun w =>
        writeElements_lockstep unset w n elements

end

theorem BufferVec.segments_of_one {v : BufferVec} (h : v.segments.length = 1) :
    v.segments = [v.bytes] := by
  obtain ⟨segment, hsegment⟩ := List.length_eq_one_iff.mp h
  rw [BufferVec.bytes, hsegment, List.flatten_singleton]

theorem BufferVec.eq_of_bytes {v w : BufferVec} (hv : v.segments.length = 1)
    (hw : w.segments.length = 1) (h : v.bytes = w.bytes) : v = w := by
  have hsame : v.segments = w.segments := by
    rw [BufferVec.segments_of_one hv, BufferVec.segments_of_one hw, h]
  cases v
  cases w
  cases hsame
  rfl

/-- The writers worked on the send buffer of `c` as `v` and left `v'` of it. -/
structure Connection.Wrote (c : Connection) (v v' : BufferVec) (c' : Connection) : Prop where
  segments_eq : v.segments = [c.sendBuffer.take c.sendBufferLen]
  one : v'.segments.length = 1
  length_eq : v'.bytes.length = v.bytes.length
  buffer_eq : c'.sendBuffer = v'.bytes ++ c.sendBuffer.drop c.sendBufferLen
  len_eq : c'.sendBufferLen = c.sendBufferLen

namespace Connection.Wrote

variable {c c' c'' : Connection} {v v' u u' : BufferVec}

theorem bytes_eq (h : c.Wrote v v' c') : v.bytes = c.sendBuffer.take c.sendBufferLen := by
  rw [BufferVec.bytes, h.segments_eq, List.flatten_singleton]

/-- What lies behind the send buffer's length stays there. -/
theorem drop_eq (h : c.Wrote v v' c') :
    c'.sendBuffer.drop c'.sendBufferLen = c.sendBuffer.drop c.sendBufferLen := by
  have hlength := h.length_eq
  rw [h.bytes_eq, List.length_take] at hlength
  rw [h.buffer_eq, h.len_eq]
  rcases Nat.le_total c.sendBufferLen c.sendBuffer.length with hle | hle
  · rw [List.drop_append_of_le_length (by omega), List.drop_of_length_le (by omega),
      List.nil_append]
  · rw [List.drop_of_length_le hle, List.append_nil, List.drop_of_length_le (by omega)]

theorem take_eq (h : c.Wrote v v' c') : c'.sendBuffer.take c'.sendBufferLen = v'.bytes := by
  have hlength := h.length_eq
  rw [h.bytes_eq, List.length_take] at hlength
  rw [h.buffer_eq, h.len_eq]
  rcases Nat.le_total c.sendBufferLen c.sendBuffer.length with hle | hle
  · rw [List.take_append_of_le_length (by omega), List.take_of_length_le (by omega)]
  · rw [List.drop_of_length_le hle, List.append_nil, List.take_of_length_le (by omega)]

/-- What a visit left is what the next one finds. -/
theorem next (h : c.Wrote v v' c') (h' : c'.Wrote u u' c'') : u = v' ∧ c.Wrote v u' c'' := by
  have hfound : u = v' := by
    refine BufferVec.eq_of_bytes ?_ h.one ?_
    · rw [h'.segments_eq, List.length_singleton]
    · rw [h'.bytes_eq, h.take_eq]
  subst hfound
  refine ⟨rfl, h.segments_eq, h'.one, h'.length_eq.trans h.length_eq, ?_, h'.len_eq.trans h.len_eq⟩
  rw [h'.buffer_eq, h.drop_eq]

/-- The other fields of the connection are no matter. -/
theorem congr (h : c.Wrote v v' c') (hbuffer : c''.sendBuffer = c'.sendBuffer)
    (hlen : c''.sendBufferLen = c'.sendBufferLen) : c.Wrote v v' c'' :=
  ⟨h.segments_eq, h.one, h.length_eq, hbuffer.trans h.buffer_eq, hlen.trans h.len_eq⟩

end Connection.Wrote

/-- A visit to the send buffer that succeeds. -/
theorem writing_wrote {α : Type} {c c' : Connection} {write : BufferM α} {a : α}
    (halike : ∀ n, Lockstep (OfShape n) write) (h : c.writing write = (.ok a, c')) :
    ∃ v v', write v = (.ok a, v') ∧ c.Wrote v v' c' := by
  unfold Connection.writing at h
  split at h
  · next haddr =>
      obtain ⟨hanswer, hnext⟩ := Prod.mk.inj h
      obtain ⟨v, hv⟩ : ∃ v : BufferVec, v = ⟨[c.sendBuffer.take c.sendBufferLen], haddr⟩ := ⟨_, rfl⟩
      rw [← hv] at hanswer hnext
      have hone : v.segments.length = 1 := by rw [hv, List.length_singleton]
      obtain ⟨-, -, hone', hlength⟩ := halike v.bytes.length v v ⟨⟨hone, rfl⟩, hone, rfl⟩
      refine ⟨v, (write v).2, Prod.ext hanswer rfl, ⟨congrArg BufferVec.segments hv, hone', hlength,
        ?_, ?_⟩⟩
      · rw [← hnext]
      · rw [← hnext]
  · cases h

/-! ## The three visits -/

section

variable {node node' : Node} {i : Nat} {sendData sendData' : SendMessageentryData}

/-- The writers that a message is begun with. -/
structure SendMessageentryData.Begun (sendData : SendMessageentryData) (node : Node) (i : Nat)
    (header : MessageEntryConstHeader) (writer : MessageWriter) (v v' : BufferVec) : Prop where
  started : connectionBeginSendMessage (node.connection i) ⟨0, 0, 0, 0, 0⟩ = .ok writer
  runs : ∃ entryWriter v₁,
    messageWriterBeginMessageEx writer (nodeMessageHeader node (node.connection i))
        ⟨0, 0, 0, 0, 0, 0, 0, 0⟩ (~~~(node.connection i).messageFlagsInvMask) v =
      (.ok (sendData.messageWriter, sendData.messageHeader, entryWriter), v₁) ∧
    messageEntryWriterBeginEntry entryWriter header ⟨0, 0, 0, 0, 0, 0, 0, 0⟩ v₁ =
      (.ok (sendData.entryWriter, sendData.elementWriter), v')

theorem nodeBeginSendMessageentry_wrote {header : MessageEntryConstHeader}
    (h : nodeBeginSendMessageentry node i header = (.ok sendData, node')) :
    ∃ writer v v', sendData.Begun node i header writer v v' ∧
      (node.connection i).Wrote v v' (node'.connection i) := by
  unfold nodeBeginSendMessageentry at h
  split at h
  · cases h
  · next writer hstarted =>
      obtain ⟨hanswer, hnode⟩ := Prod.mk.inj h
      obtain ⟨v, v', hrun, hwrote⟩ := writing_wrote (fun n =>
        (messageWriterBeginMessageEx_lockstep _ _ _ _).bind fun _ =>
          (messageEntryWriterBeginEntry_lockstep _ _ _).bind fun _ => Lockstep.pure _)
        (Prod.ext hanswer rfl)
      obtain ⟨⟨messageWriter, messageHeader, entryWriter⟩, v₁, hmessage, hrun⟩ :=
        buffered_bind_run hrun
      obtain ⟨⟨entryWriter', elementWriter⟩, v₂, hentry, hrun⟩ := buffered_bind_run hrun
      cases hrun
      refine ⟨writer, v, _, ⟨hstarted, entryWriter, v₁, hmessage, hentry⟩, hwrote.congr ?_ ?_⟩
      · rw [← hnode, Node.setConnection_connection]
      · rw [← hnode, Node.setConnection_connection]

theorem nodeWriteElements_wrote {elements : List ElementTree}
    (h : nodeWriteElements node i sendData elements = (.ok sendData', node')) :
    ∃ v v' elementWriter, writeElements ⟨0, 0, 0, 0, 0, 0, 0, 0⟩ sendData.elementWriter elements v =
        (.ok elementWriter, v') ∧ sendData' = { sendData with elementWriter := elementWriter } ∧
      (node.connection i).Wrote v v' (node'.connection i) := by
  obtain ⟨hanswer, hnode⟩ := Prod.mk.inj h
  obtain ⟨v, v', hrun, hwrote⟩ := writing_wrote (fun n =>
    (writeElements_lockstep _ _ n elements).bind fun _ => Lockstep.pure _) (Prod.ext hanswer rfl)
  obtain ⟨elementWriter, v₁, hwrite, hrun⟩ := buffered_bind_run hrun
  cases hrun
  refine ⟨v, _, elementWriter, hwrite, rfl, hwrote.congr ?_ ?_⟩
  · rw [← hnode, Node.setConnection_connection]
  · rw [← hnode, Node.setConnection_connection]

theorem nodeEndSendMessageentry_wrote
    (h : nodeEndSendMessageentry node i sendData = (.ok (), node')) :
    ∃ v v' entryWriter v₁ messageHeader,
      messageEntryWriterEndEntry sendData.entryWriter sendData.elementWriter v =
        (.ok entryWriter, v₁) ∧
      messageWriterEndMessage sendData.messageWriter sendData.messageHeader entryWriter v₁ =
        (.ok messageHeader, v') ∧
      (node.connection i).Wrote v v' (node'.connection i) ∧
      (node'.connection i).sendMessageLen = messageHeader.messageSize := by
  unfold nodeEndSendMessageentry at h
  split at h
  · cases h
  · next messageHeader node₁ hwrite =>
      obtain ⟨hanswer, hnode⟩ := Prod.mk.inj hwrite
      obtain ⟨v, v', hrun, hwrote⟩ := writing_wrote (fun n =>
        (messageEntryWriterEndEntry_lockstep _ _).bind fun _ =>
          messageWriterEndMessage_lockstep _ _ _) (Prod.ext hanswer rfl)
      obtain ⟨entryWriter, v₁, hentry, hrun⟩ := buffered_bind_run hrun
      obtain ⟨-, rfl⟩ := Prod.mk.inj h
      have hconnection : ((node₁.modifyConnection i fun c =>
          connectionEndSendMessage c messageHeader.messageSize.toNat).addEffect
            (.queued i sendData.messageEntryHeader)).connection i =
          connectionEndSendMessage (node₁.connection i) messageHeader.messageSize.toNat :=
        Node.modifyConnection_connection node₁ i fun c =>
          connectionEndSendMessage c messageHeader.messageSize.toNat
      refine ⟨v, v', entryWriter, v₁, messageHeader, hentry, hrun, hwrote.congr ?_ ?_, ?_⟩
      · rw [hconnection, ← hnode, Node.setConnection_connection]
        rfl
      · rw [hconnection, ← hnode, Node.setConnection_connection]
        rfl
      · rw [hconnection]
        exact UInt32.ofNat_toNat

end

/-! ## A message that was sent -/

/-- The version of the messages on a connection. -/
def Connection.messageVersion (c : Connection) : UInt16 :=
  if c.checkState STATUS_FLAGS_SEND_MESSAGE4 then 4 else 2

theorem connectionBeginSendMessage_opened {c : Connection} {writer writer' : MessageWriter}
    (h : connectionBeginSendMessage c writer = .ok writer') :
    writer'.bufferOffset = 0 ∧ writer'.messageVersion = c.messageVersion := by
  unfold connectionBeginSendMessage at h
  split at h
  · cases h
  split at h
  · cases h
  split at h
  · dsimp only at h
    split at h
    · next hinit =>
        cases h
        rw [ExceptT.run, messageWriterInit_apply] at hinit
        split at hinit
        · cases hinit
        · cases hinit
          exact ⟨rfl, rfl⟩
    · cases h
  · cases h

/-- The bytes of a message of one entry. Its header states of the size of the entry what the size
field of the entry has room for. -/
def oneEntryBytes (messageVersion : UInt16) (messageFlagsMask : BitVec 8)
    (header : MessageConstHeader) (entry : EntryTree) : List UInt8 :=
  countedHeaderBytes messageVersion header messageFlagsMask
      ((messageHeaderBytes messageVersion header messageFlagsMask 0).length +
        (entryBytes messageVersion entry).length % 2 ^ 32) 1 ++
    entryBytes messageVersion entry

/-- A message of one entry was ended: it lies at the front of the send buffer. -/
structure Connection.SentEntry (c : Connection) (messageVersion : UInt16)
    (messageFlagsMask : BitVec 8) (header : MessageConstHeader) (entry : EntryTree) : Prop where
  known : KnownVersion messageVersion
  writable : header.Writable messageVersion messageFlagsMask
  headerSize_eq : (messageHeaderSize messageVersion header messageFlagsMask).toNat =
    (messageHeaderBytes messageVersion header messageFlagsMask 0).length
  written : entry.Written messageVersion
  len_eq : c.sendMessageLen.toNat =
    (messageHeaderBytes messageVersion header messageFlagsMask 0).length +
      (entryBytes messageVersion entry).length % 2 ^ 32
  there : ∃ v : BufferVec, v.segments.length = 1 ∧ (∃ rest, c.sendBuffer = v.bytes ++ rest) ∧
    At v.bytes 0 (oneEntryBytes messageVersion messageFlagsMask header entry)

/-- The three visits, with nothing done to the send buffer between them. -/
theorem sentEntry_of_visits {node node₁ node₂ node₃ node₄ : Node} {i : Nat}
    {header : MessageEntryConstHeader} {elements : List ElementTree}
    {sendData sendData' : SendMessageentryData}
    (hbegin : nodeBeginSendMessageentry node i header = (.ok sendData, node₁))
    (hbuffer : (node₂.connection i).sendBuffer = (node₁.connection i).sendBuffer)
    (hlen : (node₂.connection i).sendBufferLen = (node₁.connection i).sendBufferLen)
    (hwrite : nodeWriteElements node₂ i sendData elements = (.ok sendData', node₃))
    (hend : nodeEndSendMessageentry node₃ i sendData' = (.ok (), node₄)) :
    (node₄.connection i).SentEntry (node.connection i).messageVersion
      (~~~(node.connection i).messageFlagsInvMask) (nodeMessageHeader node (node.connection i))
      ⟨header, elements⟩ := by
  obtain ⟨writer, v, v₁, ⟨hstarted, entryWriter, v', hmessage, hentry⟩, hwrote⟩ :=
    nodeBeginSendMessageentry_wrote hbegin
  obtain ⟨u, v₂, elementWriter, helements, rfl, hwrote'⟩ := nodeWriteElements_wrote hwrite
  obtain ⟨rfl, hsofar⟩ := (hwrote.congr hbuffer hlen).next hwrote'
  obtain ⟨u', v₃, entryWriter', v₄, messageHeader, hendEntry, hendMessage, hlast, hsent⟩ :=
    nodeEndSendMessageentry_wrote hend
  obtain ⟨rfl, hall⟩ := hsofar.next hlast
  obtain ⟨hoffset, hversion⟩ := connectionBeginSendMessage_opened hstarted
  have hrun : writeMessage ⟨0, 0, 0, 0, 0, 0, 0, 0⟩ writer ⟨0, 0, 0, 0, 0, 0, 0, 0⟩
      (~~~(node.connection i).messageFlagsInvMask)
      ⟨nodeMessageHeader node (node.connection i), [⟨header, elements⟩]⟩ v =
        (.ok messageHeader, v₃) := by
    simp only [writeMessage, writeEntries, writeEntry, buffered_bind_apply, hmessage, hentry,
      helements, hendEntry]
    exact hendMessage
  have hput := writeMessage_one_puts ⟨0, 0, 0, 0, 0, 0, 0, 0⟩ writer ⟨0, 0, 0, 0, 0, 0, 0, 0⟩
    (~~~(node.connection i).messageFlagsInvMask) (nodeMessageHeader node (node.connection i))
    ⟨header, elements⟩
  rw [hoffset, hversion] at hput
  obtain ⟨hwritten, hknown, hwritable, hsize, hstated⟩ := answer_of_putsAt hput hrun
  have hlong := messageHeaderBytes_length hknown (nodeMessageHeader node (node.connection i))
    (~~~(node.connection i).messageFlagsInvMask) 0
  refine ⟨hknown, hwritable, hsize, hwritten, by rw [hsent, hstated], v₃, hall.one,
    ⟨_, hall.buffer_eq⟩, at_of_putsAt hput hrun ?_⟩
  rw [oneEntryBytes, List.length_append, countedHeaderBytes_length hknown]
  omega

theorem nodeSendMessageentry_sent {node node' : Node} {i : Nat} {header : MessageEntryConstHeader}
    {elements : List ElementTree} (h : nodeSendMessageentry node i header elements = (.ok (), node')) :
    (node'.connection i).SentEntry (node.connection i).messageVersion
      (~~~(node.connection i).messageFlagsInvMask) (nodeMessageHeader node (node.connection i))
      ⟨header, elements⟩ := by
  unfold nodeSendMessageentry at h
  split at h
  · cases h
  · next hbegin =>
      split at h
      · cases h
      · next hwrite => exact sentEntry_of_visits hbegin rfl rfl hwrite h

/-- The header of the message that a response to the sender is in. -/
def senderMessageHeader (node : Node) (event : Event) : MessageConstHeader :=
  nodeMessageHeader node { node.connection event.connection with
    remoteEndpoint := event.receivedMessage.receivedMessageHeader.senderEndpoint }

theorem nodeSendResponseToSender_sent {node node' : Node} {event : Event}
    {elements : List ElementTree}
    (h : nodeSendResponseToSender node event elements = (.ok (), node')) :
    (node'.connection event.connection).SentEntry (node.connection event.connection).messageVersion
      (~~~(node.connection event.connection).messageFlagsInvMask) (senderMessageHeader node event)
      ⟨responseHeader event.requestHeader, elements⟩ := by
  unfold nodeSendResponseToSender nodeBeginSendMessageentryResponse at h
  obtain ⟨node₀, hnode₀⟩ : ∃ node₀ : Node, node₀ = node.modifyConnection event.connection fun c =>
    { c with remoteEndpoint := event.receivedMessage.receivedMessageHeader.senderEndpoint } :=
    ⟨_, rfl⟩
  have hconnection : node₀.connection event.connection = { node.connection event.connection with
      remoteEndpoint := event.receivedMessage.receivedMessageHeader.senderEndpoint } := by
    rw [hnode₀, Node.modifyConnection_connection]
  dsimp only at h
  rw [← hnode₀] at h
  rcases hbegin : nodeBeginSendMessageentry node₀ event.connection
    (responseHeader event.requestHeader) with ⟨e | sendData, node₁⟩
  · rw [hbegin] at h
    cases h
  · rw [hbegin] at h
    dsimp only at h
    split at h
    · cases h
    · next hwrite =>
        have hsent := sentEntry_of_visits hbegin (by rw [Node.modifyConnection_connection])
          (by rw [Node.modifyConnection_connection]) hwrite h
        rw [hconnection, hnode₀] at hsent
        exact hsent

/-- The bytes that the transport may have. -/
def Connection.sent (c : Connection) : List UInt8 := c.sendBuffer.take c.sendMessageLen.toNat

/-! ## Reading it -/

/-- A reader over a buffer that has these bytes at its front, once it has read the version. -/
structure MessageReader.Over (reader : MessageReader) (messageVersion : UInt16)
    (bytes : List UInt8) : Prop where
  one : reader.buffer.segments.length = 1
  offset_eq : reader.bufferOffset = 0
  count_eq : reader.bufferCount = reader.buffer.bytes.length
  version_eq : reader.messageVersion = messageVersion
  there : At reader.buffer.bytes 0 bytes

/-- The entry reader at the one entry of a message, with the size that the entry states. -/
structure MessageEntryReader.AtOnly (entryReader : MessageEntryReader) (buffer : BufferVec)
    (messageVersion : UInt16) (messageFlagsMask : BitVec 8) (header : MessageConstHeader)
    (entry : EntryTree) : Prop where
  buffer_eq : entryReader.buffer = buffer
  version_eq : entryReader.messageVersion = messageVersion
  offset_eq : entryReader.bufferOffset =
    (messageHeaderBytes messageVersion header messageFlagsMask 0).length
  count_eq : entryReader.bufferCount = (entryBytes messageVersion entry).length % 2 ^ 32
  there : At buffer.bytes (messageHeaderBytes messageVersion header messageFlagsMask 0).length
    (entryBytes messageVersion entry)

section

variable {c : Connection} {messageVersion : UInt16} {messageFlagsMask : BitVec 8}
  {header : MessageConstHeader} {entry : EntryTree}

theorem Connection.SentEntry.beginReadEntries
    (h : c.SentEntry messageVersion messageFlagsMask header entry) {reader : MessageReader}
    {bytes : List UInt8} (hreader : reader.Over messageVersion bytes)
    (hat : At reader.buffer.bytes 0 (oneEntryBytes messageVersion messageFlagsMask header entry)) :
    ∃ entryReader, messageReaderBeginReadEntries reader = .ok entryReader ∧
      entryReader.AtOnly reader.buffer messageVersion messageFlagsMask header entry := by
  have hsmall := reader.buffer.length_bytes
  have hle := Nat.mod_le (entryBytes messageVersion entry).length (2 ^ 32)
  have hend := hat.2
  have hlength := countedHeaderBytes_length h.known header messageFlagsMask
    ((messageHeaderBytes messageVersion header messageFlagsMask 0).length +
      (entryBytes messageVersion entry).length % 2 ^ 32) 1
  rw [oneEntryBytes, List.length_append, hlength] at hend
  obtain ⟨hheaderAt, hentryAt⟩ := at_append.mp hat
  rw [hlength, Nat.zero_add] at hentryAt
  have hnull : (MessageHeaderOf.zero (StringBuf.null 0)).Accepts
      (MessageHeaderOf.seen messageVersion messageFlagsMask { header with entryCount := 1 }) :=
    ⟨Or.inl rfl, Or.inl rfl, Or.inl rfl⟩
  obtain ⟨p, hread, -, hheaderSize, -, -⟩ := messageReaderReadHeaderEx_counted h.known h.writable
    h.headerSize_eq (by decide) (fun _ _ => rfl) (hreader.offset_eq.symm ▸ hheaderAt) hnull
  obtain ⟨o, hsize⟩ := messageReadCount_of_at h.known hentryAt
  have hstated : (UInt32.ofNat (entryBytes messageVersion entry).length).toNat =
      (entryBytes messageVersion entry).length % 2 ^ 32 := UInt32.toNat_ofNat
  refine ⟨_, (beginReadEntries_iff hreader.offset_eq).mpr ⟨p,
    UInt32.ofNat (entryBytes messageVersion entry).length, o, hread, ?_, ?_, rfl⟩, rfl,
    hreader.version_eq, hheaderSize, hstated, hentryAt⟩
  · rw [hheaderSize, hreader.version_eq]
    exact hsize
  · rw [hheaderSize, hstated, hreader.count_eq, addSz_eq (by omega)]
    omega

/-- What is sent is the front of the message that was written. -/
theorem Connection.SentEntry.sent_prefix
    (h : c.SentEntry messageVersion messageFlagsMask header entry) :
    c.sent = (oneEntryBytes messageVersion messageFlagsMask header entry).take
      ((messageHeaderBytes messageVersion header messageFlagsMask 0).length +
        (entryBytes messageVersion entry).length % 2 ^ 32) := by
  obtain ⟨v, -, ⟨rest, hbuffer⟩, hat⟩ := h.there
  have hlength := countedHeaderBytes_length h.known header messageFlagsMask
    ((messageHeaderBytes messageVersion header messageFlagsMask 0).length +
      (entryBytes messageVersion entry).length % 2 ^ 32) 1
  have hle := Nat.mod_le (entryBytes messageVersion entry).length (2 ^ 32)
  have hin : (messageHeaderBytes messageVersion header messageFlagsMask 0).length +
      (entryBytes messageVersion entry).length % 2 ^ 32 ≤
      (oneEntryBytes messageVersion messageFlagsMask header entry).length := by
    rw [oneEntryBytes, List.length_append, hlength]
    omega
  have hfront : v.bytes.take (oneEntryBytes messageVersion messageFlagsMask header entry).length =
      oneEntryBytes messageVersion messageFlagsMask header entry := hat.1
  have hend := hat.2
  rw [Nat.zero_add] at hend
  rw [Connection.sent, h.len_eq, hbuffer, List.take_append_of_le_length (Nat.le_trans hin hend),
    ← hfront, List.take_take, Nat.min_eq_left hin]

/-- Where the size field has room for the size of the entry, that is the whole message. -/
theorem Connection.SentEntry.sent_eq
    (h : c.SentEntry messageVersion messageFlagsMask header entry)
    (hshort : (entryBytes messageVersion entry).length ≤ UINT32_MAX) :
    c.sent = oneEntryBytes messageVersion messageFlagsMask header entry := by
  have hlength := countedHeaderBytes_length h.known header messageFlagsMask
    ((messageHeaderBytes messageVersion header messageFlagsMask 0).length +
      (entryBytes messageVersion entry).length % 2 ^ 32) 1
  have hwhole : (entryBytes messageVersion entry).length % 2 ^ 32 =
      (entryBytes messageVersion entry).length := Nat.mod_eq_of_lt (Nat.lt_succ_of_le hshort)
  rw [h.sent_prefix, List.take_of_length_le]
  rw [oneEntryBytes, List.length_append, hlength, hwhole]

/-- A reader over what is sent finds the entry, if the entry's size has room in its field. -/
theorem Connection.SentEntry.opened
    (h : c.SentEntry messageVersion messageFlagsMask header entry)
    (hshort : (entryBytes messageVersion entry).length ≤ UINT32_MAX)
    (hlegible : messageVersion = 2 → entry.Legible)
    {reader : MessageReader} (hreader : reader.Over messageVersion c.sent) :
    ∃ entryReader, messageReaderBeginReadEntries reader = .ok entryReader ∧
      entryReader.Holds messageVersion entry := by
  have hat := hreader.there
  rw [h.sent_eq hshort] at hat
  obtain ⟨entryReader, hbegin, hbuffer, hversion, hoffset, hcount, hthere⟩ :=
    h.beginReadEntries hreader hat
  refine ⟨entryReader, hbegin, h.written, hlegible, hbuffer ▸ hreader.one, hversion, ?_, ?_⟩
  · rw [hcount]
    exact Nat.mod_eq_of_lt (Nat.lt_succ_of_le hshort)
  · rw [hbuffer, hoffset]
    exact hthere

/-- One that looks into the send buffer itself finds the entry too, with the size it states. -/
theorem Connection.SentEntry.cut (h : c.SentEntry messageVersion messageFlagsMask header entry) :
    ∃ reader : MessageReader, reader.Over messageVersion c.sent ∧
      ∃ entryReader, messageReaderBeginReadEntries reader = .ok entryReader ∧
        entryReader.AtOnly reader.buffer messageVersion messageFlagsMask header entry := by
  obtain ⟨v, hone, -, hat⟩ := h.there
  have hsent : At v.bytes 0 c.sent := by
    rw [h.sent_prefix]
    rw [← List.take_append_drop ((messageHeaderBytes messageVersion header messageFlagsMask 0).length +
      (entryBytes messageVersion entry).length % 2 ^ 32)
      (oneEntryBytes messageVersion messageFlagsMask header entry), at_append] at hat
    exact hat.1
  have hreader : MessageReader.Over ⟨v, 0, v.bytes.length, messageVersion⟩ messageVersion c.sent :=
    ⟨hone, rfl, rfl, rfl, hsent⟩
  exact ⟨_, hreader, h.beginReadEntries hreader hat⟩

/-- Two messages that were ended at once lie at the front of one buffer. -/
theorem Connection.SentEntry.shared {header' : MessageConstHeader} {entry' : EntryTree}
    (h : c.SentEntry messageVersion messageFlagsMask header entry)
    (h' : c.SentEntry messageVersion messageFlagsMask header' entry') :
    ∃ v : BufferVec, v.segments.length = 1 ∧
      At v.bytes 0 (oneEntryBytes messageVersion messageFlagsMask header entry) ∧
      At v.bytes 0 (oneEntryBytes messageVersion messageFlagsMask header' entry') := by
  obtain ⟨v, hone, ⟨rest, hbuffer⟩, hat⟩ := h.there
  obtain ⟨v', hone', ⟨rest', hbuffer'⟩, hat'⟩ := h'.there
  have hfront : v.bytes <+: c.sendBuffer := ⟨rest, hbuffer.symm⟩
  have hfront' : v'.bytes <+: c.sendBuffer := ⟨rest', hbuffer'.symm⟩
  rw [at_zero_iff] at hat hat'
  rcases Nat.le_total v.bytes.length v'.bytes.length with hle | hle
  · exact ⟨v', hone', at_zero_iff.mpr
      (hat.trans (List.prefix_of_prefix_length_le hfront hfront' hle)), at_zero_iff.mpr hat'⟩
  · exact ⟨v, hone, at_zero_iff.mpr hat, at_zero_iff.mpr
      (hat'.trans (List.prefix_of_prefix_length_le hfront' hfront hle))⟩

/-- Where their entries have one header, the first elements of the two are alike. -/
theorem Connection.SentEntry.first_alike {header' : MessageConstHeader}
    {entryHeader : MessageEntryConstHeader} {element element' : ElementTree}
    {elements elements' : List ElementTree}
    (h : c.SentEntry messageVersion messageFlagsMask header ⟨entryHeader, element :: elements⟩)
    (h' : c.SentEntry messageVersion messageFlagsMask header' ⟨entryHeader, element' :: elements'⟩)
    (hnarrow : messageVersion = 2 → element.NarrowStrings)
    (hnarrow' : messageVersion = 2 → element'.NarrowStrings) :
    element.header.elementName.len = element'.header.elementName.len ∧
      element.payload messageVersion = element'.payload messageVersion := by
  obtain ⟨v, hone, hat, hat'⟩ := h.shared h'
  have hreader (bytes : List UInt8) (hbytes : At v.bytes 0 bytes) :
      MessageReader.Over ⟨v, 0, v.bytes.length, messageVersion⟩ messageVersion bytes :=
    ⟨hone, rfl, rfl, rfl, hbytes⟩
  obtain ⟨entryReader, hbegin, hbuffer, -, hoffset, -, hthere⟩ :=
    h.beginReadEntries (hreader _ hat) hat
  obtain ⟨entryReader', hbegin', -, -, hoffset', -, hthere'⟩ :=
    h'.beginReadEntries (hreader _ hat') hat'
  cases hbegin.symm.trans hbegin'
  rw [← hoffset, entryBytes, elementsBytes, at_append, at_append] at hthere
  rw [← hoffset', entryBytes, elementsBytes, at_append, at_append] at hthere'
  have hsized := messageEntryHeaderBytes_sized h.known entryHeader
  have hfirst := hthere.2.1
  have hfirst' := hthere'.2.1
  rw [hsized.length_eq] at hfirst hfirst'
  exact elements_alike h.known h.written.elements.1 h'.written.elements.1 hnarrow hnarrow' hfirst
    hfirst'

end

end

end RobotRaconteurLite

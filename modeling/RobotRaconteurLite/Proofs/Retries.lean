import RobotRaconteurLite.Message.Attempts
import RobotRaconteurLite.Proofs.FirstMatch
import RobotRaconteurLite.Proofs.Segments
import RobotRaconteurLite.Proofs.WriteRanges

/-!
# A failed write leaves no trace

Every call writes from the offset of its writer on, and a writer's counters move
when all of the call has succeeded. So what a failed call leaves lies behind the
offset that the next call starts from, and that writes over it or ends the message
in front of it. Beside the run with the failures goes the run without them: the two
agree on all bytes in front of the innermost offset, and on the writers but for the
places that the last element begun has left to fill in.
-/

namespace RobotRaconteurLite

open OffsetWriter Splice

/-- The writers are the same but for what the last element begun has to fill in. -/
structure MessageElementWriter.SameAs (w w' : MessageElementWriter) : Prop where
  offset_eq : w'.bufferOffset = w.bufferOffset
  room_eq : w'.bufferCount = w.bufferCount
  count_eq : w'.elementsWrittenCount = w.elementsWrittenCount
  size_eq : w'.elementsWrittenSize = w.elementsWrittenSize
  version_eq : w'.messageVersion = w.messageVersion

section

variable [SizeT]

/-! ## Buffers that agree -/

/-- Buffers of one shape with the same bytes in front of `stop`. -/
structure AgreeBelow (stop : Nat) (v w : BufferVec) : Prop where
  length_eq : v.bytes.length = w.bytes.length
  segments_eq : v.segments.length = w.segments.length
  bytes_eq : ∀ j, j < stop → v.bytes[j]? = w.bytes[j]?

namespace AgreeBelow

variable {stop : Nat} {u v w : BufferVec}

theorem refl (stop : Nat) (v : BufferVec) : AgreeBelow stop v v := ⟨rfl, rfl, fun _ _ => rfl⟩

theorem symm (h : AgreeBelow stop v w) : AgreeBelow stop w v :=
  ⟨h.length_eq.symm, h.segments_eq.symm, fun j hj => (h.bytes_eq j hj).symm⟩

theorem trans (h : AgreeBelow stop u v) (h' : AgreeBelow stop v w) : AgreeBelow stop u w :=
  ⟨h.length_eq.trans h'.length_eq, h.segments_eq.trans h'.segments_eq,
    fun j hj => (h.bytes_eq j hj).trans (h'.bytes_eq j hj)⟩

theorem mono {stop' : Nat} (h : AgreeBelow stop v w) (hle : stop' ≤ stop) :
    AgreeBelow stop' v w :=
  ⟨h.length_eq, h.segments_eq, fun j hj => h.bytes_eq j (by omega)⟩

end AgreeBelow

instance agreeBelow_storesAlike (stop : Nat) : StoresAlike (AgreeBelow stop) where
  store := by
    intro v w h pos bs
    rcases BufferVec.store_alike h.length_eq pos bs with herror | ⟨v', w', hv, hw, hv', hw'⟩
    · exact Or.inl herror
    · obtain ⟨hin, hbytes⟩ := BufferVec.bytes_of_store hv
      obtain ⟨hin', hbytes'⟩ := BufferVec.bytes_of_store hw
      refine Or.inr ⟨v', w', hv, hw, ?_, ?_, fun j hj => ?_⟩
      · rw [hbytes, hbytes', length_overwrite hin, length_overwrite hin', h.length_eq]
      · rw [hv', hw', h.segments_eq]
      · rw [hbytes, hbytes', getElem?_overwrite hin, getElem?_overwrite hin', h.bytes_eq j hj]

section

variable {α : Type} {c : BufferM α} {o lo hi : Nat} {bs : List UInt8} {Q : α → Prop}
  {u v v' : BufferVec} {a : α}

/-- A call that does the same on buffers that agree, and writes from `lo` on. -/
structure WritesFrom (lo : Nat) (c : BufferM α) : Prop where
  alike : ∀ stop, Lockstep (AgreeBelow stop) c
  keeps : ∀ v, AgreeBelow lo v (c v).2

theorem WritesFrom.of_kept (halike : ∀ stop, Lockstep (AgreeBelow stop) c)
    (hsame : ∀ n, Lockstep (SameBytes n n) c)
    (hkept : ∀ v, KeptOutside BufferVec.bytes lo hi v (c v).2) : WritesFrom lo c := by
  refine ⟨halike, fun v => ?_⟩
  obtain ⟨-, -, hsegments, -⟩ := hsame v.segments.length v v ⟨rfl, rfl, rfl⟩
  obtain ⟨hlength, hbytes⟩ := hkept v
  exact ⟨hlength.symm, hsegments.symm, fun j hj => (hbytes j (Or.inl hj)).symm⟩

/-- The same answer, and what was laid down is the same too. -/
theorem AgreeBelow.extend (h : AgreeBelow o v u) (halike : Lockstep (AgreeBelow o) c)
    (hput : PutsAt BufferVec.bytes o bs Q c) (hrun : c v = (.ok a, v')) :
    ∃ u', c u = (.ok a, u') ∧ AgreeBelow (o + bs.length) v' u' := by
  obtain ⟨hanswer, hagree⟩ := halike v u h
  rw [hrun] at hanswer hagree
  dsimp only at hanswer hagree
  have hrun' : c u = (.ok a, (c u).2) := Prod.ext hanswer.symm rfl
  refine ⟨(c u).2, hrun', hagree.length_eq, hagree.segments_eq, fun j hj => ?_⟩
  have hv := hput v
  have hu := hput u
  rw [hrun] at hv
  rw [hrun'] at hu
  obtain ⟨-, hbytes, hin⟩ := hv
  obtain ⟨-, hbytes', hin'⟩ := hu
  rcases Nat.lt_or_ge j o with hlt | hge
  · exact hagree.bytes_eq j hlt
  · have hne : bs ≠ [] := by
      intro hnil
      rw [hnil, List.length_nil] at hj
      omega
    have hpart : o ≤ j ∧ j < o + bs.length := ⟨hge, hj⟩
    rw [hbytes, hbytes', getElem?_overwrite (hin.resolve_left hne),
      getElem?_overwrite (hin'.resolve_left hne), if_pos hpart, if_pos hpart]

/-- The same answer. -/
theorem AgreeBelow.same_answer {stop : Nat} (h : AgreeBelow stop v u)
    (halike : Lockstep (AgreeBelow stop) c) (hrun : c v = (.ok a, v')) :
    ∃ u', c u = (.ok a, u') ∧ AgreeBelow stop v' u' := by
  obtain ⟨hanswer, hagree⟩ := halike v u h
  rw [hrun] at hanswer hagree
  exact ⟨(c u).2, Prod.ext hanswer.symm rfl, hagree⟩

end

/-! ## Calls -/

theorem messageElementWriterWriteRaw_writesFrom (elementWriter : MessageElementWriter)
    (elementName : ConstString) (data : CArray) (dataType : UInt16) :
    WritesFrom elementWriter.bufferOffset (messageElementWriterWriteRaw elementWriter elementName
      data.data data.len dataType data.elemSize) := by
  refine WritesFrom.of_kept (fun stop => ?_) (fun n => ?_)
    (messageElementWriterWriteRaw_puts elementWriter elementName data dataType rfl).keptOutside
  · refine messageElementWriterWriteRaw_lockstep _ _ _ _ fun _ v w h => ?_
    rw [h.segments_eq]
  · refine messageElementWriterWriteRaw_lockstep _ _ _ _ fun _ v w h => ?_
    rw [h.2.1, h.2.2]

theorem messageElementWriterBeginNestedElement_writesFrom (elementWriter : MessageElementWriter)
    (header : MessageElementConstHeader) (nestedElementWriter : MessageElementWriter) :
    WritesFrom elementWriter.bufferOffset
      (messageElementWriterBeginNestedElement elementWriter header nestedElementWriter) :=
  WritesFrom.of_kept (fun _ => messageElementWriterBeginNestedElement_lockstep _ _ _)
    (fun _ => messageElementWriterBeginNestedElement_lockstep _ _ _)
    (messageElementWriterBeginNestedElement_puts elementWriter header nestedElementWriter
      rfl).keptOutside

theorem messageElementWriterEndNestedElement_writesFrom {lo : Nat}
    {elementWriter : MessageElementWriter} (nestedElementWriter : MessageElementWriter)
    (hsize : lo ≤ elementWriter.elementSizeOffset) (hcount : lo ≤ elementWriter.dataCountOffset) :
    WritesFrom lo (messageElementWriterEndNestedElement elementWriter nestedElementWriter) := by
  have hwithin : OffsetWriter.Within BufferVec.bytes lo
      (elementWriter.elementSizeOffset + elementWriter.dataCountOffset + 4) _
      (messageElementWriterEndNestedElement elementWriter nestedElementWriter) :=
    messageElementWriterEndNestedElement_within nestedElementWriter ⟨hsize, by omega⟩
      ⟨hcount, by omega⟩
  exact WritesFrom.of_kept (fun _ => messageElementWriterEndNestedElement_lockstep _ _)
    (fun _ => messageElementWriterEndNestedElement_lockstep _ _) fun v => (hwithin v).1

theorem messageEntryWriterBeginEntry_writesFrom (entryWriter : MessageEntryWriter)
    (header : MessageEntryConstHeader) (elementWriter : MessageElementWriter) :
    WritesFrom entryWriter.bufferOffset
      (messageEntryWriterBeginEntry entryWriter header elementWriter) :=
  WritesFrom.of_kept (fun _ => messageEntryWriterBeginEntry_lockstep _ _ _)
    (fun _ => messageEntryWriterBeginEntry_lockstep _ _ _)
    (messageEntryWriterBeginEntry_puts entryWriter header elementWriter rfl).keptOutside

/-! ## Elements -/

section

variable {w w' : MessageElementWriter} {v v' : BufferVec}

theorem MessageElementWriter.SameAs.advance (h : w.SameAs w') (elementSize : Nat) :
    (w.advance elementSize).SameAs (w'.advance elementSize) := by
  obtain ⟨hoffset, hroom, hcount, hsize, hversion⟩ := h
  constructor <;> simp only [MessageElementWriter.advance, hoffset, hroom, hcount, hsize, hversion]

theorem MessageElementWriter.SameAs.writeRaw (h : w.SameAs w') {elementName : ConstString}
    {data : CArray} {dataType : UInt16} {r : MessageElementWriter}
    (hrun : messageElementWriterWriteRaw w elementName data.data data.len dataType data.elemSize v =
      (.ok r, v')) :
    ∃ r', messageElementWriterWriteRaw w' elementName data.data data.len dataType data.elemSize v =
      (.ok r', v') ∧ r.SameAs r' := by
  have hheader : messageElementWriterWriteRawHeader w' elementName data.len dataType data.elemSize =
      messageElementWriterWriteRawHeader w elementName data.len dataType data.elemSize := by
    simp only [messageElementWriterWriteRawHeader, h.count_eq, h.version_eq, h.offset_eq]
  rw [messageElementWriterWriteRaw_eq, buffered_bind_apply] at hrun
  rw [messageElementWriterWriteRaw_eq, hheader, buffered_bind_apply]
  cases hfirst : messageElementWriterWriteRawHeader w elementName data.len dataType data.elemSize
    v with
  | mk x v₁ =>
      rw [hfirst] at hrun
      cases x with
      | error e => cases hrun
      | ok p =>
          dsimp only at hrun ⊢
          rw [buffered_bind_apply] at hrun ⊢
          cases hcopy : bufferUpdate (fun buffer => bufferVecCopyFromMem buffer p.1.dataStartOffset
            data.data data.len 0 data.elemSize data.len) v₁ with
          | mk y v₂ =>
              rw [hcopy] at hrun
              cases y with
              | error e => cases hrun
              | ok _ =>
                  cases hrun
                  exact ⟨w'.advance p.2, rfl, h.advance p.2⟩

/-- The nested writer may be opened over any other. -/
theorem MessageElementWriter.SameAs.beginNested (h : w.SameAs w')
    {header : MessageElementConstHeader} {nested : MessageElementWriter}
    (nested' : MessageElementWriter) {p : MessageElementWriter × MessageElementWriter}
    (hrun : messageElementWriterBeginNestedElement w header nested v = (.ok p, v')) :
    ∃ p', messageElementWriterBeginNestedElement w' header nested' v = (.ok p', v') := by
  have hheader2 : messageElementWriterWriteHeader2Ex w' header =
      messageElementWriterWriteHeader2Ex w header := by
    simp only [messageElementWriterWriteHeader2Ex, h.offset_eq]
  have hheader4 : messageElementWriterWriteHeader4Ex w' header =
      messageElementWriterWriteHeader4Ex w header := by
    simp only [messageElementWriterWriteHeader4Ex, h.offset_eq]
  simp only [messageElementWriterBeginNestedElement, hheader2, hheader4, h.count_eq, h.version_eq,
    h.offset_eq] at hrun ⊢
  by_cases hroom : ¬ w.elementsWrittenCount < UINT32_MAX
  · simp only [failIf, if_pos hroom] at hrun
    cases hrun
  · simp only [buffered_bind_apply, failIf_neg_apply hroom] at hrun ⊢
    generalize (StateT.run' _ _ : BufferM MessageElementBufferInfo) v = written at hrun ⊢
    obtain ⟨x, v₁⟩ := written
    cases x with
    | error e => cases hrun
    | ok info =>
        cases hrun
        exact ⟨_, rfl⟩

theorem MessageElementWriter.SameAs.endNested {elementWriter : MessageElementWriter}
    (h : w.SameAs w') : messageElementWriterEndNestedElement elementWriter w' =
      messageElementWriterEndNestedElement elementWriter w := by
  simp only [messageElementWriterEndNestedElement, h.count_eq, h.size_eq]

theorem MessageElementWriter.SameAs.endEntry {entryWriter : MessageEntryWriter}
    (h : w.SameAs w') : messageEntryWriterEndEntry entryWriter w' =
      messageEntryWriterEndEntry entryWriter w := by
  simp only [messageEntryWriterEndEntry, h.count_eq, h.size_eq]

end

theorem writeElements_append (unset elementWriter : MessageElementWriter)
    (elements more : List ElementTree) :
    writeElements unset elementWriter (elements ++ more) =
      writeElements unset elementWriter elements >>= fun elementWriter =>
        writeElements unset elementWriter more := by
  induction elements generalizing elementWriter with
  | nil =>
      rw [List.nil_append, writeElements]
      rfl
  | cons element elements ih =>
      rw [List.cons_append, writeElements, writeElements, bind_assoc]
      congr 1
      funext w
      exact ih w

theorem attemptElement_data (unset elementWriter : MessageElementWriter) (elementName : ConstString)
    (dataType : UInt16) (data : CArray) (v : BufferVec) :
    attemptElement unset elementWriter (.data elementName dataType data) v =
      match messageElementWriterWriteRaw elementWriter elementName data.data data.len dataType
        data.elemSize v with
      | (.error _, v) => ((elementWriter, []), v)
      | (.ok w, v) => ((w, [.data elementName dataType data]), v) := by
  rw [attemptElement, messageElementWriterWriteRawInPlace_eq]
  simp only [bufferedInPlace, inPlace]
  generalize messageElementWriterWriteRaw _ _ _ _ _ _ v = written
  obtain ⟨x, u⟩ := written
  cases x <;> rfl

theorem attemptElement_nested (unset elementWriter : MessageElementWriter)
    (header : MessageElementConstHeader) (children : List ElementTree) (v : BufferVec) :
    attemptElement unset elementWriter (.nested header children) v =
      match messageElementWriterBeginNestedElement elementWriter header unset v with
      | (.error _, v) => ((elementWriter, []), v)
      | (.ok (begun, nested), v) =>
          match attemptElements unset nested children v with
          | ((nested, written), v) =>
              match messageElementWriterEndNestedElement begun nested v with
              | (.error _, v) => ((begun, []), v)
              | (.ok w, v) => ((w, [.nested header written]), v) := by
  rw [attemptElement, messageElementWriterBeginNestedElementInPlace_eq]
  simp only [bufferedInPlace, inPlace]
  generalize messageElementWriterBeginNestedElement _ _ _ v = first
  obtain ⟨x, u⟩ := first
  cases x with
  | error e => rfl
  | ok p =>
      obtain ⟨begun, nested⟩ := p
      dsimp only
      generalize attemptElements unset nested children u = attempted
      obtain ⟨⟨nested', written⟩, u'⟩ := attempted
      dsimp only
      rw [messageElementWriterEndNestedElementInPlace_eq]
      simp only [bufferedInPlace, inPlace]
      generalize messageElementWriterEndNestedElement _ _ u' = last
      obtain ⟨x, u''⟩ := last
      cases x <;> rfl

/-- Beside the run with failures, from `w` and `v`, which came to `r`, goes the run without
them, from `w'` and `u`. -/
structure Beside (unset w w' : MessageElementWriter) (v u : BufferVec)
    (r : (MessageElementWriter × List ElementTree) × BufferVec) : Prop where
  keeps : AgreeBelow w.bufferOffset v r.2
  clean : ∃ w₁ u₁, writeElements unset w' r.1.2 u = (.ok w₁, u₁) ∧ r.1.1.SameAs w₁ ∧
    AgreeBelow r.1.1.bufferOffset r.2 u₁

section

variable {unset unset' w w' w₀ : MessageElementWriter} {v u v₁ u₁ : BufferVec}

/-- A call that failed, or was undone, goes beside no call. -/
theorem Beside.nothing (hagree : AgreeBelow w.bufferOffset v u)
    (hkeeps : AgreeBelow w.bufferOffset v v₁) (hsame : w₀.SameAs w')
    (hoffset : w₀.bufferOffset = w.bufferOffset) : Beside unset w w' v u ((w₀, []), v₁) := by
  refine ⟨hkeeps, w', u, rfl, hsame, ?_⟩
  dsimp only
  rw [hoffset]
  exact hkeeps.symm.trans hagree

theorem writeElements_singleton {element : ElementTree}
    (h : writeElement unset w element v = (.ok w', u)) :
    writeElements unset w [element] v = (.ok w', u) := by
  rw [writeElements, buffered_bind_apply, h]
  rfl

theorem attemptData_beside {elementName : ConstString} {dataType : UInt16} {data : CArray}
    (hsame : w.SameAs w') (hagree : AgreeBelow w.bufferOffset v u) :
    Beside unset' w w' v u (attemptElement unset w (.data elementName dataType data) v) := by
  have hwrites := messageElementWriterWriteRaw_writesFrom w elementName data dataType
  have hput := messageElementWriterWriteRaw_puts w elementName data dataType rfl
  have hkeeps := hwrites.keeps v
  rw [attemptElement_data]
  cases hrun : messageElementWriterWriteRaw w elementName data.data data.len dataType data.elemSize
    v with
  | mk x v₁ =>
      rw [hrun] at hkeeps
      cases x with
      | error e => exact Beside.nothing hagree hkeeps hsame rfl
      | ok r =>
          obtain ⟨u₁, hrun', hagree'⟩ := hagree.extend (hwrites.alike _) hput hrun
          obtain ⟨r', hrun'', hsame'⟩ := hsame.writeRaw hrun'
          obtain ⟨-, hlt, hr⟩ := answer_of_putsAt hput hrun
          refine ⟨hkeeps, r', u₁, ?_, hsame', ?_⟩
          · apply writeElements_singleton
            rw [writeElement]
            exact hrun''
          · dsimp only
            rw [hr, MessageElementWriter.advance]
            dsimp only
            rw [addSz_eq hlt]
            exact hagree'

/-- What the calls without failures come to. -/
theorem Beside.advanced {r : (MessageElementWriter × List ElementTree) × BufferVec}
    (h : Beside unset w w' v u r) (hw : w'.Counting) :
    ∃ w₁ u₁, writeElements unset w' r.1.2 u = (.ok w₁, u₁) ∧ r.1.1.SameAs w₁ ∧
      AgreeBelow r.1.1.bufferOffset r.2 u₁ ∧
      w'.Advanced w₁ r.1.2.length (elementsBytes w'.messageVersion r.1.2).length := by
  obtain ⟨w₁, u₁, hrun, hsame, hagree⟩ := h.clean
  exact ⟨w₁, u₁, hrun, hsame, hagree, (answer_of_putsAt (writeElements_puts unset w' hw r.1.2) hrun).2⟩

/-- The attempts at the elements inside go beside the calls for them from where an element was
begun, and the attempt at the element then does. -/
theorem attemptNested_beside {header : MessageElementConstHeader} {children : List ElementTree}
    (hsame : w.SameAs w') (hagree : AgreeBelow w.bufferOffset v u)
    (hchildren : ∀ nested nested' v u, nested'.Counting → nested.SameAs nested' →
      AgreeBelow nested.bufferOffset v u →
      Beside unset' nested nested' v u (attemptElements unset nested children v)) :
    Beside unset' w w' v u (attemptElement unset w (.nested header children) v) := by
  have hwrites := messageElementWriterBeginNestedElement_writesFrom w header unset
  have hput := messageElementWriterBeginNestedElement_puts w header unset rfl
  have hkeeps := hwrites.keeps v
  rw [attemptElement_nested]
  cases hrun : messageElementWriterBeginNestedElement w header unset v with
  | mk x v₁ =>
      rw [hrun] at hkeeps
      cases x with
      | error e => exact Beside.nothing hagree hkeeps hsame rfl
      | ok p =>
          obtain ⟨begun, nested⟩ := p
          obtain ⟨u₁, hrun', hagree'⟩ := hagree.extend (hwrites.alike _) hput hrun
          obtain ⟨⟨begun', nested'⟩, hrun''⟩ := hsame.beginNested unset' hrun'
          obtain ⟨hver, -, -, hlt, hbegun, hnested⟩ := answer_of_putsAt hput hrun
          obtain ⟨-, -, -, -, hbegun', hnested'⟩ := answer_of_putsAt
            (messageElementWriterBeginNestedElement_puts w' header unset' rfl) hrun''
          dsimp only at hbegun hnested hbegun' hnested' hkeeps ⊢
          rw [hsame.version_eq, hsame.offset_eq] at hbegun' hnested'
          have hsameBegun : begun' = begun := by
            rw [hbegun, hbegun', MessageElementWriter.mk.injEq]
            exact ⟨rfl, hsame.room_eq, hsame.count_eq, hsame.size_eq, rfl, rfl, rfl, rfl⟩
          have hsameNested : nested.SameAs nested' := by
            rw [hnested, hnested', hsame.room_eq]
            exact ⟨rfl, rfl, rfl, rfl, rfl⟩
          have hcounting : nested'.Counting := by
            rw [hnested']
            exact ⟨Nat.zero_le _, Nat.zero_le _, hlt⟩
          have hstart : w.bufferOffset ≤ nested.bufferOffset := by
            rw [hnested]
            exact Nat.le_add_right _ _
          have hbeside := hchildren nested nested' v₁ u₁ hcounting hsameNested
            (by rw [hnested]; exact hagree')
          have hkeeps' := hbeside.keeps
          obtain ⟨last', u₂, hclean, hsameLast, hagreeLast, hadvanced⟩ := hbeside.advanced hcounting
          cases hattempt : attemptElements unset nested children v₁ with
          | mk p v₂ =>
              obtain ⟨last, written⟩ := p
              rw [hattempt] at hkeeps' hclean hsameLast hagreeLast hadvanced
              dsimp only at hkeeps' hclean hsameLast hagreeLast hadvanced ⊢
              have hends : WritesFrom w.bufferOffset
                  (messageElementWriterEndNestedElement begun last) :=
                messageElementWriterEndNestedElement_writesFrom last
                  (by rw [hbegun]; exact Nat.le_add_right _ _)
                  (by rw [hbegun]; exact Nat.le_add_right _ _)
              have hkeepsEnd := hends.keeps v₂
              cases hend : messageElementWriterEndNestedElement begun last v₂ with
              | mk y v₃ =>
                  rw [hend] at hkeepsEnd
                  have hkeepsAll : AgreeBelow w.bufferOffset v v₃ :=
                    hkeeps.trans ((hkeeps'.mono hstart).trans hkeepsEnd)
                  cases y with
                  | error e =>
                      refine Beside.nothing hagree hkeepsAll ?_ (by rw [hbegun])
                      rw [hbegun]
                      exact ⟨hsame.offset_eq, hsame.room_eq, hsame.count_eq, hsame.size_eq,
                        hsame.version_eq⟩
                  | ok r =>
                      obtain ⟨u₃, hend', hagreeEnd⟩ := hagreeLast.same_answer (hends.alike _) hend
                      have hwritten : writeElement unset' w' (.nested header written) u =
                          (.ok r, u₃) := by
                        rw [writeElement, buffered_bind_apply, hrun'']
                        dsimp only
                        rw [buffered_bind_apply, hclean]
                        dsimp only
                        rw [hsameLast.endNested, hsameBegun, hend']
                      refine ⟨hkeepsAll, r, u₃, writeElements_singleton hwritten,
                        ⟨rfl, rfl, rfl, rfl, rfl⟩, ?_⟩
                      obtain ⟨-, -, hmore⟩ := answer_of_putsAt
                        (writeElement_puts unset' w' (.nested header written)) hwritten
                      have hoffset := hmore.offset_eq
                      have hlast := hadvanced.offset_eq
                      rw [hsameLast.offset_eq, hnested'] at hlast
                      dsimp only at hlast
                      rw [elementBytes_nested_length (hsame.version_eq ▸ hver), hsame.offset_eq,
                        hsame.version_eq] at hoffset
                      have hends : r.bufferOffset = last.bufferOffset := by
                        rw [hoffset, hlast]
                        omega
                      dsimp only
                      rw [hends]
                      exact hagreeEnd

mutual

theorem attemptElement_beside (unset unset' w w' : MessageElementWriter) (v u : BufferVec)
    (hsame : w.SameAs w') (hagree : AgreeBelow w.bufferOffset v u) (element : ElementTree) :
    Beside unset' w w' v u (attemptElement unset w element v) := by
  cases element with
  | data elementName dataType data => exact attemptData_beside hsame hagree
  | nested header children =>
      exact attemptNested_beside hsame hagree fun nested nested' v u hcounting hsame hagree =>
        attemptElements_beside unset unset' nested nested' v u hcounting hsame hagree children

theorem attemptElements_beside (unset unset' w w' : MessageElementWriter) (v u : BufferVec)
    (hw : w'.Counting) (hsame : w.SameAs w') (hagree : AgreeBelow w.bufferOffset v u)
    (elements : List ElementTree) :
    Beside unset' w w' v u (attemptElements unset w elements v) := by
  cases elements with
  | nil =>
      rw [attemptElements]
      exact Beside.nothing hagree (AgreeBelow.refl _ _) hsame rfl
  | cons element elements =>
      have hfirst := attemptElement_beside unset unset' w w' v u hsame hagree element
      have hkeeps := hfirst.keeps
      obtain ⟨w₁, u₁, hclean, hsame₁, hagree₁, hadvanced⟩ := hfirst.advanced hw
      rw [attemptElements]
      dsimp only
      cases hattempt : attemptElement unset w element v with
      | mk p v₁ =>
          obtain ⟨w₂, written⟩ := p
          rw [hattempt] at hkeeps hclean hsame₁ hagree₁ hadvanced
          dsimp only at hkeeps hclean hsame₁ hagree₁ hadvanced ⊢
          have hrest := attemptElements_beside unset unset' w₂ w₁ v₁ u₁ (hadvanced.counting hw) hsame₁
            hagree₁ elements
          have hkeeps' := hrest.keeps
          obtain ⟨w₃, u₂, hclean', hsame₂, hagree₂⟩ := hrest.clean
          have hoffset : w.bufferOffset ≤ w₂.bufferOffset := by
            have hmoved := hadvanced.offset_eq
            rw [hsame₁.offset_eq, hsame.offset_eq] at hmoved
            omega
          cases hattempt' : attemptElements unset w₂ elements v₁ with
          | mk p v₂ =>
              obtain ⟨w₄, more⟩ := p
              rw [hattempt'] at hkeeps' hclean' hsame₂ hagree₂
              refine ⟨hkeeps.trans (hkeeps'.mono hoffset), w₃, u₂, ?_, hsame₂, hagree₂⟩
              dsimp only
              rw [writeElements_append, buffered_bind_apply, hclean]
              exact hclean'

end

end

/-! ## Entries -/

/-- The first entry was not begun, or it was written and ended. -/
theorem attemptEntries_cons_cases {unset : MessageElementWriter} {entryWriter last :
    MessageEntryWriter} {entry : EntryTree} {entries written : List EntryTree} {v v' : BufferVec}
    (hrun : attemptEntries unset entryWriter (entry :: entries) v = (.ok (last, written), v')) :
    (∃ e v₁, messageEntryWriterBeginEntry entryWriter entry.header unset v = (.error e, v₁) ∧
      attemptEntries unset entryWriter entries v₁ = (.ok (last, written), v')) ∨
    ∃ begun elementWriter v₁ lastElement kept v₂ ended v₃ more,
      messageEntryWriterBeginEntry entryWriter entry.header unset v =
        (.ok (begun, elementWriter), v₁) ∧
      attemptElements unset elementWriter entry.elements v₁ = ((lastElement, kept), v₂) ∧
      messageEntryWriterEndEntry begun lastElement v₂ = (.ok ended, v₃) ∧
      attemptEntries unset ended entries v₃ = (.ok (last, more), v') ∧
      written = ⟨entry.header, kept⟩ :: more := by
  rw [attemptEntries, messageEntryWriterBeginEntryInPlace_eq] at hrun
  simp only [bufferedInPlace] at hrun
  cases hbegin : messageEntryWriterBeginEntry entryWriter entry.header unset v with
  | mk x v₁ =>
      rw [hbegin] at hrun
      cases x with
      | error e => exact Or.inl ⟨e, v₁, rfl, hrun⟩
      | ok p =>
          obtain ⟨begun, elementWriter⟩ := p
          dsimp only [inPlace] at hrun
          cases hattempt : attemptElements unset elementWriter entry.elements v₁ with
          | mk p v₂ =>
              obtain ⟨lastElement, kept⟩ := p
              rw [hattempt] at hrun
              dsimp only at hrun
              cases hend : messageEntryWriterEndEntry begun lastElement v₂ with
              | mk y v₃ =>
                  rw [hend] at hrun
                  cases y with
                  | error e => cases hrun
                  | ok ended =>
                      dsimp only at hrun
                      cases hmore : attemptEntries unset ended entries v₃ with
                      | mk z v₄ =>
                          rw [hmore] at hrun
                          cases z with
                          | error e => cases hrun
                          | ok q =>
                              obtain ⟨last', more⟩ := q
                              cases hrun
                              exact Or.inr ⟨begun, elementWriter, v₁, lastElement, kept, v₂, ended, v₃,
                                more, rfl, hattempt, hend, hmore, rfl⟩

/-- The element writer may be opened over any other. -/
theorem messageEntryWriterBeginEntry_over {entryWriter : MessageEntryWriter}
    {header : MessageEntryConstHeader} {unset : MessageElementWriter}
    (unset' : MessageElementWriter) {v v' : BufferVec} {p : MessageEntryWriter × MessageElementWriter}
    (hrun : messageEntryWriterBeginEntry entryWriter header unset v = (.ok p, v')) :
    ∃ p', messageEntryWriterBeginEntry entryWriter header unset' v = (.ok p', v') := by
  simp only [messageEntryWriterBeginEntry] at hrun ⊢
  by_cases hroom : ¬ entryWriter.entriesWrittenCount < UINT16_MAX
  · simp only [failIf, if_pos hroom] at hrun
    cases hrun
  · simp only [buffered_bind_apply, failIf_neg_apply hroom] at hrun ⊢
    generalize (StateT.run' _ _ : BufferM MessageEntryBufferInfo) v = written at hrun ⊢
    obtain ⟨x, v₁⟩ := written
    cases x with
    | error e => cases hrun
    | ok info =>
        cases hrun
        exact ⟨_, rfl⟩

/-- An entry that was begun and ended goes beside the same entry without what failed in it. -/
theorem attemptEntry_beside {unset : MessageElementWriter} (unset' : MessageElementWriter)
    {entryWriter begun ended : MessageEntryWriter} {elementWriter last : MessageElementWriter}
    {entry : EntryTree} {written : List ElementTree} {v v₁ v₂ v₃ u : BufferVec}
    (hagree : AgreeBelow entryWriter.bufferOffset v u)
    (hbegin : messageEntryWriterBeginEntry entryWriter entry.header unset v =
      (.ok (begun, elementWriter), v₁))
    (hattempt : attemptElements unset elementWriter entry.elements v₁ = ((last, written), v₂))
    (hend : messageEntryWriterEndEntry begun last v₂ = (.ok ended, v₃)) :
    ∃ u₁, writeEntry unset' entryWriter ⟨entry.header, written⟩ u = (.ok ended, u₁) ∧
      AgreeBelow ended.bufferOffset v₃ u₁ ∧
      ∃ size, entryWriter.Advanced ended size := by
  have hput := messageEntryWriterBeginEntry_puts entryWriter entry.header unset rfl
  obtain ⟨u₁, hbegin', hagree₁⟩ := hagree.extend
    ((messageEntryWriterBeginEntry_writesFrom entryWriter entry.header unset).alike _) hput hbegin
  obtain ⟨⟨begun', elementWriter'⟩, hover⟩ := messageEntryWriterBeginEntry_over unset' hbegin'
  obtain ⟨hver, -, -, hlt, hbegun, hopened⟩ := answer_of_putsAt hput hbegin
  obtain ⟨-, -, -, -, hbegun', hopened'⟩ := answer_of_putsAt
    (messageEntryWriterBeginEntry_puts entryWriter entry.header unset' rfl) hover
  dsimp only at hbegun hopened hbegun' hopened'
  have hsameBegun : begun' = begun := hbegun'.trans hbegun.symm
  have hsame : elementWriter.SameAs elementWriter' := by
    rw [hopened, hopened']
    exact ⟨rfl, rfl, rfl, rfl, rfl⟩
  have hcounting : elementWriter'.Counting := by
    rw [hopened']
    exact ⟨Nat.zero_le _, Nat.zero_le _, hlt⟩
  have hbeside := attemptElements_beside unset unset' elementWriter elementWriter' v₁ u₁ hcounting
    hsame (by rw [hopened]; exact hagree₁) entry.elements
  obtain ⟨last', u₂, hclean, hsameLast, hagree₂, hadvanced⟩ := hbeside.advanced hcounting
  rw [hattempt] at hclean hsameLast hagree₂ hadvanced
  dsimp only at hclean hsameLast hagree₂ hadvanced
  obtain ⟨u₃, hend', hagree₃⟩ := hagree₂.same_answer (messageEntryWriterEndEntry_lockstep _ _) hend
  have hwritten : writeEntry unset' entryWriter ⟨entry.header, written⟩ u = (.ok ended, u₃) := by
    rw [writeEntry, buffered_bind_apply, hover]
    dsimp only
    rw [buffered_bind_apply, hclean]
    dsimp only
    rw [hsameLast.endEntry, hsameBegun, hend']
  obtain ⟨-, hmoved⟩ := answer_of_putsAt
    (writeEntry_puts unset' entryWriter ⟨entry.header, written⟩) hwritten
  refine ⟨u₃, hwritten, hagree₃.mono ?_, _, hmoved⟩
  have hoffset := hmoved.offset_eq
  have hfits := hmoved.fits
  have hlast := hadvanced.offset_eq
  have hmod := Nat.mod_le (entryBytes entryWriter.messageVersion ⟨entry.header, written⟩).length
    (2 ^ 32)
  rw [hsameLast.offset_eq, hopened'] at hlast
  dsimp only at hlast
  rw [addSz_eq (by omega)] at hoffset
  rw [entryBytes_length hver] at hoffset hmod
  dsimp only at hoffset hmod
  omega

theorem attemptEntries_beside (unset unset' : MessageElementWriter) {base : Nat}
    {entryWriter last : MessageEntryWriter} {entries written : List EntryTree} {v u v₁ : BufferVec}
    (hagree : AgreeBelow entryWriter.bufferOffset v u)
    (hbase : entryWriter.bufferOffset = base + entryWriter.entriesWrittenSize)
    (hrun : attemptEntries unset entryWriter entries v = (.ok (last, written), v₁)) :
    last.bufferOffset = base + last.entriesWrittenSize ∧
    ∃ u₁, writeEntries unset' entryWriter written u = (.ok last, u₁) ∧
      AgreeBelow last.bufferOffset v₁ u₁ := by
  induction entries generalizing entryWriter written v u with
  | nil =>
      cases hrun
      exact ⟨hbase, u, rfl, hagree⟩
  | cons entry entries ih =>
      rcases attemptEntries_cons_cases hrun with ⟨e, v₂, hbegin, hrest⟩ |
        ⟨begun, elementWriter, v₂, lastElement, kept, v₃, ended, v₄, more, hbegin, hattempt, hend,
          hrest, rfl⟩
      · have hkeeps := (messageEntryWriterBeginEntry_writesFrom entryWriter entry.header
          unset).keeps v
        rw [hbegin] at hkeeps
        exact ih (hkeeps.symm.trans hagree) hbase hrest
      · obtain ⟨u₁, hwritten, hagree₁, size, hmoved⟩ :=
          attemptEntry_beside unset' hagree hbegin hattempt hend
        have hoffset := hmoved.offset_eq
        have hsize := hmoved.size_eq
        have hfits := hmoved.fits
        have hmod := Nat.mod_le size (2 ^ 32)
        rw [addSz_eq (by omega)] at hoffset hsize
        obtain ⟨hbase', u₂, hclean, hagree₂⟩ := ih hagree₁ (by omega) hrest
        refine ⟨hbase', u₂, ?_, hagree₂⟩
        rw [writeEntries, buffered_bind_apply, hwritten]
        exact hclean

/-! ## Messages -/

theorem messageWriterEndMessage_messageSize {writer : MessageWriter}
    {header header' : MessageConstHeader} {entryWriter : MessageEntryWriter} {v v' : BufferVec}
    (hrun : messageWriterEndMessage writer header entryWriter v = (.ok header', v')) :
    header'.messageSize.toNat = addSz entryWriter.entriesWrittenSize header.headerSize.toNat := by
  have hwidth : countWidth writer.messageVersion ≤ 4 := by
    unfold countWidth
    split <;> omega
  have hwithin : OffsetWriter.Within BufferVec.bytes 0
      (writer.messageSizeOffset + writer.entryCountOffset + 4) _
      (messageWriterEndMessage writer header entryWriter) :=
    messageWriterEndMessage_within header entryWriter ⟨Nat.zero_le _, by omega⟩
      (Or.inr ⟨Nat.zero_le _, by omega⟩)
  exact (hwithin v).2 header' (congrArg Prod.fst hrun)

theorem slice_eq_of_agreeBelow {stop pos n : Nat} {v w : BufferVec} (h : AgreeBelow stop v w)
    (hle : pos + n ≤ stop) : slice v.bytes pos n = slice w.bytes pos n := by
  apply List.ext_getElem?
  intro i
  rw [getElem?_slice, getElem?_slice]
  by_cases hi : i < n
  · rw [if_pos hi, if_pos hi, h.bytes_eq _ (by omega)]
  · rw [if_neg hi, if_neg hi]

/-- A message written with failures is the message without what failed, byte for byte. -/
theorem attemptMessage_writes (unset unset' : MessageElementWriter) {writer : MessageWriter}
    {entryWriter : MessageEntryWriter} {messageFlagsMask : BitVec 8} {message : MessageTree}
    {header : MessageConstHeader} {written : List EntryTree} {v v' : BufferVec}
    (hrun : attemptMessage unset writer entryWriter messageFlagsMask message v =
      (.ok (header, written), v')) :
    ∃ u, writeMessage unset' writer entryWriter messageFlagsMask ⟨message.header, written⟩ v =
        (.ok header, u) ∧
      slice u.bytes writer.bufferOffset header.messageSize.toNat =
        slice v'.bytes writer.bufferOffset header.messageSize.toNat := by
  obtain ⟨⟨begun, header₁, opened⟩, v₁, hbegin, hrun⟩ := buffered_bind_run hrun
  obtain ⟨⟨last, kept⟩, v₂, hattempt, hrun⟩ := buffered_bind_run hrun
  obtain ⟨header₂, v₃, hend, hrun⟩ := buffered_bind_run hrun
  cases hrun
  obtain ⟨-, -, -, -, hlt, -, -, hheader, hopened⟩ := answer_of_putsAt
    (messageWriterBeginMessageEx_puts writer message.header entryWriter messageFlagsMask rfl) hbegin
  dsimp only at hheader hopened
  have hnone : opened.bufferOffset = opened.bufferOffset + opened.entriesWrittenSize := by
    rw [hopened]
    rfl
  obtain ⟨hbase, u₂, hclean, hagree⟩ :=
    attemptEntries_beside unset unset' (AgreeBelow.refl _ v₁) hnone hattempt
  obtain ⟨u₃, hend', hagree'⟩ := hagree.same_answer (messageWriterEndMessage_lockstep _ _ _) hend
  refine ⟨u₃, ?_, slice_eq_of_agreeBelow hagree'.symm ?_⟩
  · rw [writeMessage, buffered_bind_apply, hbegin]
    dsimp only
    rw [buffered_bind_apply, hclean]
    exact hend'
  · -- The message ends where the next entry would start.
    rw [messageWriterEndMessage_messageSize hend, hheader]
    rw [hopened] at hbase
    dsimp only at hbase
    have hle := Nat.mod_le (last.entriesWrittenSize + (messageHeaderBytes writer.messageVersion
      message.header messageFlagsMask 0).length) SizeT.modulus
    rw [addSz]
    omega

/-- A call that fails leaves the writers it was called on as they were, and a message written
with such calls is the message written without them. -/
theorem failedWrites_skipped (unset unset' : MessageElementWriter) :
    (∀ (elementWriter elementWriter' : MessageElementWriter) (elementName : ConstString)
      (dataBuf : List UInt8) (dataLen : Nat) (dataType : UInt16) (dataElemSize : Nat)
      (v v' : BufferVec) (e : Status),
      messageElementWriterWriteRawInPlace elementWriter elementName dataBuf dataLen dataType
          dataElemSize v = ((.error e, elementWriter'), v') →
        elementWriter' = elementWriter) ∧
    (∀ (elementWriter elementWriter' nested nested' : MessageElementWriter)
      (header : MessageElementConstHeader) (v v' : BufferVec) (e : Status),
      messageElementWriterBeginNestedElementInPlace elementWriter header nested v =
          ((.error e, elementWriter', nested'), v') →
        elementWriter' = elementWriter ∧ nested' = nested) ∧
    (∀ (elementWriter elementWriter' nested : MessageElementWriter) (v v' : BufferVec) (e : Status),
      messageElementWriterEndNestedElementInPlace elementWriter nested v =
          ((.error e, elementWriter'), v') →
        elementWriter' = elementWriter) ∧
    (∀ (entryWriter entryWriter' : MessageEntryWriter) (header : MessageEntryConstHeader)
      (elementWriter elementWriter' : MessageElementWriter) (v v' : BufferVec) (e : Status),
      messageEntryWriterBeginEntryInPlace entryWriter header elementWriter v =
          ((.error e, entryWriter', elementWriter'), v') →
        entryWriter' = entryWriter ∧ elementWriter' = elementWriter) ∧
    ∀ (writer : MessageWriter) (entryWriter : MessageEntryWriter) (messageFlagsMask : BitVec 8)
      (message : MessageTree) (header : MessageConstHeader) (written : List EntryTree)
      (v v' : BufferVec),
      attemptMessage unset writer entryWriter messageFlagsMask message v =
          (.ok (header, written), v') →
        ∃ u, writeMessage unset' writer entryWriter messageFlagsMask ⟨message.header, written⟩ v =
            (.ok header, u) ∧
          slice u.bytes writer.bufferOffset header.messageSize.toNat =
            slice v'.bytes writer.bufferOffset header.messageSize.toNat := by
  refine ⟨?_, ?_, ?_, ?_, ?_⟩
  · intro elementWriter elementWriter' elementName dataBuf dataLen dataType dataElemSize v v' e hrun
    rw [messageElementWriterWriteRawInPlace_eq] at hrun
    exact bufferedInPlace_error hrun
  · intro elementWriter elementWriter' nested nested' header v v' e hrun
    rw [messageElementWriterBeginNestedElementInPlace_eq] at hrun
    exact Prod.mk.inj (bufferedInPlace_error hrun)
  · intro elementWriter elementWriter' nested v v' e hrun
    rw [messageElementWriterEndNestedElementInPlace_eq] at hrun
    exact bufferedInPlace_error hrun
  · intro entryWriter entryWriter' header elementWriter elementWriter' v v' e hrun
    rw [messageEntryWriterBeginEntryInPlace_eq] at hrun
    exact Prod.mk.inj (bufferedInPlace_error hrun)
  · intro writer entryWriter messageFlagsMask message header written v v' hrun
    exact attemptMessage_writes unset unset' hrun

end

section

open Lp64

def unsetElementWriter : MessageElementWriter := ⟨0, 0, 0, 0, 0, 0, 0, 0⟩

def tooLong : ConstString := .constant (List.replicate 95 0x61)

def listOfAny : MessageElementConstHeader :=
  { MessageElementHeaderOf.zero (.constant []) with elementType := DATATYPE_LIST }

/-- An entry and two elements with names that do not fit, among what fits. -/
def patchyMessage : MessageTree where
  header := MessageHeaderOf.zero (.constant [])
  entries :=
    [⟨MessageEntryHeaderOf.zero tooLong, []⟩,
      ⟨MessageEntryHeaderOf.zero (.constant []),
        [.data tooLong 4 (.constant [7]), .data (.constant [0x61]) 4 (.constant [8]),
          .nested listOfAny [.data tooLong 4 (.constant [7]), .data (.constant [0x62]) 4 (.constant [9])]]⟩]

def attemptPatchy : Result (MessageConstHeader × List EntryTree) × BufferVec :=
  attemptMessage unsetElementWriter ⟨10, 90, 0, 0, 4⟩ ⟨0, 0, 0, 0, 0, 0, 0, 0⟩ 0 patchyMessage
    hundredBytes

def attemptLongName : (Result Unit × MessageElementWriter) × BufferVec :=
  messageElementWriterWriteRawInPlace ⟨10, 90, 0, 0, 0, 0, 0, 4⟩ tooLong [7] 1 4 1 hundredBytes

def attemptLongNested :
    (Result Unit × MessageElementWriter × MessageElementWriter) × BufferVec :=
  messageElementWriterBeginNestedElementInPlace ⟨10, 90, 0, 0, 0, 0, 0, 4⟩
    { listOfAny with elementName := tooLong } unsetElementWriter hundredBytes

/-- The end of an element that starts past the end of the buffer. -/
def attemptEndOutside : (Result Unit × MessageElementWriter) × BufferVec :=
  messageElementWriterEndNestedElementInPlace ⟨10, 90, 0, 0, 110, 120, 30, 4⟩ unsetElementWriter
    hundredBytes

def attemptLongPath : (Result Unit × MessageEntryWriter × MessageElementWriter) × BufferVec :=
  messageEntryWriterBeginEntryInPlace ⟨10, 90, 0, 0, 0, 0, 0, 4⟩
    { MessageEntryHeaderOf.zero (.constant []) with servicePath := tooLong } unsetElementWriter
    hundredBytes

theorem eq_of_failed {α β : Type} {run : (Result Unit × α) × β} {e : Status}
    (h : run.1.1 = .error e) : run = ((.error e, run.1.2), run.2) :=
  Prod.ext (Prod.ext h rfl) rfl

theorem pair_eq_of_failed {α β γ : Type} {run : (Result Unit × α × β) × γ} {e : Status}
    (h : run.1.1 = .error e) : run = ((.error e, run.1.2.1, run.1.2.2), run.2) :=
  eq_of_failed h

theorem ok_of_isOk {α β γ : Type} {run : Result (α × β) × γ} (h : run.1.isOk = true) :
    ∃ a b, run = (.ok (a, b), run.2) := by
  obtain ⟨x, c⟩ := run
  cases x with
  | error e => cases h
  | ok p => exact ⟨p.1, p.2, rfl⟩

theorem patchyMessage_skipped :
    attemptLongName.1.2 = ⟨10, 90, 0, 0, 0, 0, 0, 4⟩ ∧
    attemptLongNested.1.2 = (⟨10, 90, 0, 0, 0, 0, 0, 4⟩, unsetElementWriter) ∧
    attemptEndOutside.1.2 = ⟨10, 90, 0, 0, 110, 120, 30, 4⟩ ∧
    attemptLongPath.1.2 = (⟨10, 90, 0, 0, 0, 0, 0, 4⟩, unsetElementWriter) ∧
    ∃ header written, attemptPatchy.1 = .ok (header, written) ∧
      ∃ u, writeMessage unsetElementWriter ⟨10, 90, 0, 0, 4⟩ ⟨0, 0, 0, 0, 0, 0, 0, 0⟩ 0
          ⟨patchyMessage.header, written⟩ hundredBytes = (.ok header, u) ∧
        slice u.bytes 10 header.messageSize.toNat =
          slice attemptPatchy.2.bytes 10 header.messageSize.toNat := by
  obtain ⟨hraw, hbegin, hend, hentry, hmessage⟩ :=
    failedWrites_skipped unsetElementWriter unsetElementWriter
  refine ⟨?_, ?_, ?_, ?_, ?_⟩
  · have hfails : attemptLongName.1.1 = .error .outOfRange := by decide +kernel
    have hrun := eq_of_failed hfails
    exact hraw _ _ _ _ _ _ _ _ _ _ hrun
  · have hfails : attemptLongNested.1.1 = .error .outOfRange := by decide +kernel
    have hrun := pair_eq_of_failed hfails
    have hkept := hbegin _ _ _ _ _ _ _ _ hrun
    exact Prod.ext hkept.1 hkept.2
  · have hfails : attemptEndOutside.1.1 = .error .outOfRange := by decide +kernel
    have hrun := eq_of_failed hfails
    exact hend _ _ _ _ _ _ hrun
  · have hfails : attemptLongPath.1.1 = .error .outOfRange := by decide +kernel
    have hrun := pair_eq_of_failed hfails
    have hkept := hentry _ _ _ _ _ _ _ _ hrun
    exact Prod.ext hkept.1 hkept.2
  · have hok : attemptPatchy.1.isOk = true := by decide +kernel
    obtain ⟨header, written, hrun⟩ := ok_of_isOk hok
    exact ⟨header, written, congrArg Prod.fst hrun, hmessage _ _ _ _ _ _ _ _ hrun⟩

/-- Of the two entries and the three elements it is one entry with two of them that is left. -/
example : attemptPatchy.1.map (fun answer =>
    (answer.1.messageSize, answer.2.map (·.elements.length))) = .ok (54, [2]) := by
  decide +kernel

end

end RobotRaconteurLite

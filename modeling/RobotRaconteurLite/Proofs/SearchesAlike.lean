import RobotRaconteurLite.Proofs.ByteProgress
import RobotRaconteurLite.Proofs.Position

/-!
# The same search over another buffer

A search for an element reads headers, compares names and moves on. Where the
buffer of an entry is cut down to the bytes of the entry, the search does the same
as in the buffer that goes on on both sides, unless it runs off the end of the cut
buffer. So what lies around the entry matters only to a search that leaves it.
-/

namespace RobotRaconteurLite

open OffsetReader Splice

/-- A search makes the end of the elements an error of its own. -/
def orNotFound {α β : Type} (x : Result α) (f : α → Result β) : Result β :=
  match x with
  | .error .noMore => .error .messageElementNotFound
  | .error e => .error e
  | .ok a => f a

theorem orNotFound_eq_ok {α β : Type} {x : Result α} {f : α → Result β} {b : β} :
    orNotFound x f = .ok b ↔ ∃ a, x = .ok a ∧ f a = .ok b := by
  cases x with
  | error e => cases e <;> simp [orNotFound]
  | ok a => simp [orNotFound]

theorem ResultRel.orNotFound {α β α' β' : Type} {R : α → β → Prop} {S : α' → β' → Prop}
    {x : Result α} {y : Result β} {f : α → Result α'} {g : β → Result β'}
    (hxy : ResultRel outOfRangeOnly R x y)
    (hfg : ∀ a b, R a b → ResultRel outOfRangeOnly S (f a) (g b)) :
    ResultRel outOfRangeOnly S (RobotRaconteurLite.orNotFound x f)
      (RobotRaconteurLite.orNotFound y g) := by
  cases x with
  | error e =>
      rcases hxy with rfl | rfl
      · exact Or.inl rfl
      · cases e <;> exact Or.inr rfl
  | ok a =>
      cases y with
      | error e => exact hxy.elim
      | ok b => exact hfg a b hxy

section

variable [SizeT] {τ : Nat → Nat} {v w : BufferVec}

/-! ## Names -/

theorem ReadsAlike.elementNameMatches {excused : Status → Prop} (h : ReadsAlike excused τ v w)
    {name : List UInt8} (hname : name ≠ []) (fuel offset : Nat) :
    ResultRel excused Eq (elementNameMatches v fuel offset name)
      (elementNameMatches w fuel (τ offset) name) := by
  induction fuel generalizing offset name with
  | zero => exact ResultRel.refl _
  | succ fuel ih =>
      have hmod := SizeT.le_modulus
      have hpos := List.length_pos_iff.mpr hname
      have hroom : 2 * (List.replicate 16 (0 : UInt8)).length < SizeT.modulus := by
        rw [List.length_replicate]
        omega
      rw [RobotRaconteurLite.elementNameMatches, RobotRaconteurLite.elementNameMatches]
      refine (h.copyToBytes hroom (by omega) (by rw [List.length_replicate]; omega) offset).bind ?_
      rintro temp _ rfl
      split
      · exact ResultRel.refl _
      · split
        · exact ResultRel.refl _
        · rw [h.addSz_eq]
          refine ih ?_ _
          rw [← List.length_pos_iff, List.length_drop]
          omega

/-- Where an element has no name there are no bytes to compare. -/
theorem elementNameMatches_sizeTMax (v : BufferVec) {name : List UInt8} (hname : name ≠ [])
    (fuel : Nat) : elementNameMatches v (fuel + 1) sizeTMax name = .error .outOfRange := by
  have hmod := SizeT.le_modulus
  have hlen := v.length_bytes
  have hpos := List.length_pos_iff.mpr hname
  have hroom : 2 * (List.replicate 16 (0 : UInt8)).length < SizeT.modulus := by
    rw [List.length_replicate]
    omega
  have hout : ¬ (sizeTMax < v.bytes.length ∧
      sizeTMax + min name.length 16 ≤ v.bytes.length) := by
    rw [sizeTMax]
    omega
  rw [elementNameMatches, bufferVecCopyToString_eq v _ hroom (by omega)
    (by rw [List.length_replicate]; omega), fetch, if_neg hout]
  rfl

variable {elementName : ConstString}

theorem ReadsAlike.elementHasName (h : ReadsAlike outOfRangeOnly τ v w)
    (hname : elementName.data ≠ []) {r : MessageElementReader} (hr : r.buffer = v) :
    ResultRel outOfRangeOnly Eq (elementHasName elementName r)
      (elementHasName elementName (r.moved τ w)) := by
  refine (h.elementReadHeaderEx_named hr (show (r.moved τ w).buffer = w from rfl) rfl rfl _).bind ?_
  rintro ⟨header, info⟩ ⟨_, info'⟩ ⟨⟨heq, -⟩, hoffset⟩
  dsimp only at heq hoffset
  subst heq hr
  dsimp only
  split
  · rcases hoffset with hoffset | ⟨hnone, -⟩
    · rw [hoffset]
      exact h.elementNameMatches hname _ _
    · rw [hnone, elementNameMatches_sizeTMax r.buffer hname]
      exact Or.inl rfl
  · exact ResultRel.refl _

/-! ## Searches -/

theorem findElementLoop_step (fuel : Nat) (r : MessageElementReader) :
    findElementLoop elementName (fuel + 1) r = (elementHasName elementName r).bind fun found =>
      if found then .ok r
      else orNotFound (messageElementReaderMoveNext r) (findElementLoop elementName fuel) := by
  rw [findElementLoop_succ]
  cases elementHasName elementName r with
  | error e => rfl
  | ok found =>
      cases found with
      | true => rfl
      | false =>
          dsimp only
          cases messageElementReaderMoveNext r with
          | error e => cases e <;> rfl
          | ok r' => rfl

theorem messageEntryReaderFindElement_eq (r : MessageEntryReader) :
    messageEntryReaderFindElement r elementName =
      orNotFound (messageEntryReaderBeginReadElements r) fun a =>
        findElementLoop elementName a.totalElements a := by
  rw [messageEntryReaderFindElement]
  cases messageEntryReaderBeginReadElements r with
  | error e => cases e <;> rfl
  | ok a => rfl

theorem ReadsAlike.findElementLoop (h : ReadsAlike outOfRangeOnly τ v w)
    (hname : elementName.data ≠ []) (fuel : Nat) {r : MessageElementReader} (hr : r.buffer = v) :
    OpensAlike outOfRangeOnly (·.moved τ w) (·.buffer) v (findElementLoop elementName fuel r)
      (findElementLoop elementName fuel (r.moved τ w)) := by
  induction fuel generalizing r with
  | zero => exact Or.inr rfl
  | succ fuel ih =>
      rw [findElementLoop_step, findElementLoop_step]
      refine (h.elementHasName hname hr).bind ?_
      rintro found _ rfl
      cases found with
      | true => exact ⟨rfl, hr⟩
      | false =>
          refine ResultRel.orNotFound (h.elementMoveNext_moved hr) ?_
          rintro a _ ⟨rfl, ha⟩
          exact ih ha

theorem ReadsAlike.findElement (h : ReadsAlike outOfRangeOnly τ v w)
    (hname : elementName.data ≠ []) {r : MessageEntryReader} (hr : r.buffer = v) :
    OpensAlike outOfRangeOnly (·.moved τ w) (·.buffer) v
      (messageEntryReaderFindElement r elementName)
      (messageEntryReaderFindElement (r.moved τ w) elementName) := by
  rw [messageEntryReaderFindElement_eq, messageEntryReaderFindElement_eq]
  refine ResultRel.orNotFound (h.beginReadElements_moved hr) ?_
  rintro a _ ⟨rfl, ha⟩
  exact h.findElementLoop hname a.totalElements ha

/-- An element that is found has a header that can be read. -/
theorem findElementLoop_header {fuel : Nat} {r r' : MessageElementReader}
    (h : findElementLoop elementName fuel r = .ok r') :
    ∃ p, messageElementReaderReadHeaderEx r' (MessageElementHeaderOf.zero (.null 0)) = .ok p := by
  induction fuel generalizing r with
  | zero => cases h
  | succ fuel ih =>
      rw [findElementLoop_step, bind_eq_ok] at h
      obtain ⟨found, hfound, h⟩ := h
      cases found with
      | true =>
          injection h with h
          subst h
          simp only [elementHasName, bind, bind_eq_ok] at hfound
          obtain ⟨p, hp, -⟩ := hfound
          exact ⟨p, hp⟩
      | false =>
          obtain ⟨a, -, ha⟩ := orNotFound_eq_ok.mp h
          exact ih ha

theorem messageEntryReaderFindElement_header {r : MessageEntryReader} {r' : MessageElementReader}
    (h : messageEntryReaderFindElement r elementName = .ok r') :
    ∃ p, messageElementReaderReadHeaderEx r' (MessageElementHeaderOf.zero (.null 0)) = .ok p := by
  rw [messageEntryReaderFindElement_eq, orNotFound_eq_ok] at h
  obtain ⟨a, -, ha⟩ := h
  exact findElementLoop_header ha

end

end RobotRaconteurLite

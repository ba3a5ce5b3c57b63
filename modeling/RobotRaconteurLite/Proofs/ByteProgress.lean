import RobotRaconteurLite.Message.InPlace
import RobotRaconteurLite.Message.Search
import RobotRaconteurLite.Proofs.Entries
import RobotRaconteurLite.Proofs.Windows

/-!
# How far an iteration can go

A count is declared apart from the sizes, so only the sizes keep an iteration
within the bytes there are. A step moves the window on by the size of the element
it leaves and takes the size of the next one off the remainder. Both are what an
element declares of itself, and nothing keeps an element from declaring that it
has no bytes at all.
-/

namespace RobotRaconteurLite

open OffsetReader

/-- A reader after `n` steps. -/
def stepTimes {ρ : Type} (step : ρ → Result ρ) : Nat → ρ → Result ρ
  | 0, r => .ok r
  | n + 1, r => (step r).bind (stepTimes step n)

theorem stepTimes_succ {ρ : Type} {step : ρ → Result ρ} {r₀ r₁ r : ρ} {n : Nat}
    (h : step r₀ = .ok r₁) (hn : stepTimes step n r₁ = .ok r) : stepTimes step (n + 1) r₀ = .ok r := by
  rw [stepTimes, h]
  exact hn

section

variable [SizeT]

/-! ## Windows -/

/-- What an entry reader and an element reader have in common. -/
structure Window where
  buffer : BufferVec
  version : UInt16
  offset : Nat
  count : Nat
  remaining : Nat

def MessageElementReader.window (r : MessageElementReader) : Window :=
  ⟨r.buffer, r.messageVersion, r.bufferOffset, r.bufferCount, r.bufferRemaining⟩

def MessageEntryReader.window (r : MessageEntryReader) : Window :=
  ⟨r.buffer, r.messageVersion, r.bufferOffset, r.bufferCount, r.bufferRemaining⟩

namespace Window

/-- The fields hold values of their type. -/
structure InSizeT (w : Window) : Prop where
  offset_lt : w.offset < SizeT.modulus
  count_lt : w.count < SizeT.modulus
  remaining_lt : w.remaining < SizeT.modulus

/-- What both functions `move_next` do to it. -/
def Next (w w' : Window) : Prop :=
  ∃ size : UInt32, ∃ o : Nat,
    messageReadCount w.buffer w.version (addSz w.offset w.count) = .ok (size, o) ∧
      size.toNat ≤ w.remaining ∧
      w' = { w with
        offset := addSz w.offset w.count
        count := size.toNat
        remaining := subSz w.remaining size.toNat }

/-- The window is further on and less is left. -/
def Progress (w w' : Window) : Prop := w.offset < w'.offset ∧ w'.remaining < w.remaining

/-- There are bytes in the window, which end inside of `size_t`, and the next one declares
some. -/
def HasBytes (w : Window) : Prop :=
  0 < w.count ∧ w.offset + w.count < SizeT.modulus ∧
    ∀ size o, messageReadCount w.buffer w.version (w.offset + w.count) = .ok (size, o) →
      0 < size.toNat

variable {w w' : Window}

theorem Next.progress_iff (hw : w.InSizeT) (h : w.Next w') : w.Progress w' ↔ w.HasBytes := by
  obtain ⟨size, o, hsize, hle, rfl⟩ := h
  rw [Progress, HasBytes, subSz_eq hle hw.remaining_lt]
  dsimp only
  have hoff := hw.offset_lt
  have hcount := hw.count_lt
  rcases Nat.lt_or_ge (w.offset + w.count) SizeT.modulus with hlt | hge
  · rw [addSz_eq hlt] at hsize ⊢
    constructor
    · intro hprogress
      refine ⟨by omega, hlt, fun size' o' hsize' => ?_⟩
      rw [hsize] at hsize'
      cases hsize'
      omega
    · rintro ⟨hpos, -, hnext⟩
      have hsome := hnext size o hsize
      omega
  · have hwrap : addSz w.offset w.count = w.offset + w.count - SizeT.modulus := by
      rw [addSz, Nat.mod_eq_sub_mod hge, Nat.mod_eq_of_lt (by omega)]
    omega

/-- The next window starts in the buffer. -/
theorem Next.keeps (h : w.Next w') :
    w'.buffer = w.buffer ∧ w'.offset ≤ w.buffer.bytes.length ∧ w'.InSizeT := by
  obtain ⟨size, o, hsize, -, rfl⟩ := h
  have hmoves : Moves (fun _ => True) (messageReadCount w.buffer w.version)
      fun _ => InBuffer w.buffer := messageReadCount_moves
  obtain ⟨hle, hin⟩ := hmoves _ _ _ trivial hsize
  have hmod := SizeT.le_modulus
  have hsize32 := size.toNat_lt
  exact ⟨rfl, Nat.le_trans hle hin, addSz_lt .., by dsimp only; omega, subSz_lt ..⟩

end Window

theorem messageElementReaderMoveNext_next {r r' : MessageElementReader}
    (h : messageElementReaderMoveNext r = .ok r') : r.window.Next r'.window := by
  obtain ⟨size, o, hsize, -, hle, rfl⟩ := messageElementReaderMoveNext_cases h
  exact ⟨size, o, hsize, hle, rfl⟩

theorem messageEntryReaderMoveNext_next {r r' : MessageEntryReader}
    (h : messageEntryReaderMoveNext r = .ok r') : r.window.Next r'.window := by
  obtain ⟨total, o, size, o', -, -, -, hsize, hle, rfl⟩ := messageEntryReaderMoveNext_iff.mp h
  exact ⟨size, o', hsize, hle, rfl⟩

/-! ## Runs of steps -/

section

variable {ρ : Type} (step : ρ → Result ρ) (window : ρ → Window)

/-- Every step of a run is made from a window with bytes to another. -/
def StepsHaveBytes (r₀ : ρ) : Prop :=
  ∀ n r r', stepTimes step n r₀ = .ok r → step r = .ok r' → (window r).HasBytes

/-- Every step of a run makes progress. -/
def StepsProgress (r₀ : ρ) : Prop :=
  ∀ n r r', stepTimes step n r₀ = .ok r → step r = .ok r' → (window r).Progress (window r')

/-- A run has no more steps than there are bytes left, or bytes at all. -/
def StepsBounded (r₀ : ρ) : Prop :=
  ∀ n r, stepTimes step n r₀ = .ok r →
    n ≤ (window r₀).remaining ∧ n ≤ (window r₀).buffer.bytes.length

variable {step window}

theorem StepsHaveBytes.tail {r₀ r₁ : ρ} (h : StepsHaveBytes step window r₀) (h₁ : step r₀ = .ok r₁) :
    StepsHaveBytes step window r₁ :=
  fun n r r' hn => h (n + 1) r r' (stepTimes_succ h₁ hn)

theorem stepsProgress_iff (hnext : ∀ r r', step r = .ok r' → (window r).Next (window r')) {r₀ : ρ}
    (h₀ : (window r₀).InSizeT) :
    StepsProgress step window r₀ ↔ StepsHaveBytes step window r₀ := by
  have hin : ∀ n r₀ r, (window r₀).InSizeT → stepTimes step n r₀ = .ok r → (window r).InSizeT := by
    intro n
    induction n with
    | zero =>
        intro r₀ r h₀ hn
        cases hn
        exact h₀
    | succ n ih =>
        intro r₀ r h₀ hn
        obtain ⟨r₁, hstep, hrest⟩ := bind_eq_ok.mp hn
        exact ih r₁ r (hnext r₀ r₁ hstep).keeps.2.2 hrest
  constructor
  · intro h n r r' hn hstep
    exact ((hnext r r' hstep).progress_iff (hin n r₀ r h₀ hn)).mp (h n r r' hn hstep)
  · intro h n r r' hn hstep
    exact ((hnext r r' hstep).progress_iff (hin n r₀ r h₀ hn)).mpr (h n r r' hn hstep)

/-- Progress cannot be made more often than there are bytes. -/
theorem StepsHaveBytes.length_le (hnext : ∀ r r', step r = .ok r' → (window r).Next (window r'))
    {n : Nat} {r₀ r : ρ} (h₀ : (window r₀).InSizeT) (h : StepsHaveBytes step window r₀)
    (hn : stepTimes step n r₀ = .ok r) :
    n ≤ (window r₀).remaining ∧
      (0 < n → (window r₀).offset + n ≤ (window r₀).buffer.bytes.length) := by
  induction n generalizing r₀ with
  | zero => exact ⟨Nat.zero_le _, fun h => absurd h (Nat.lt_irrefl 0)⟩
  | succ n ih =>
      obtain ⟨r₁, hstep, hrest⟩ := bind_eq_ok.mp hn
      have hfirst := hnext r₀ r₁ hstep
      obtain ⟨hbuf, hinside, hin⟩ := hfirst.keeps
      obtain ⟨hoff, hrem⟩ := (hfirst.progress_iff h₀).mpr (h 0 r₀ r₁ rfl hstep)
      obtain ⟨hle, hend⟩ := ih hin (h.tail hstep) hrest
      rw [hbuf] at hend
      constructor
      · omega
      · intro _
        rcases Nat.eq_zero_or_pos n with rfl | hpos
        · omega
        · have hbound := hend hpos
          omega

theorem StepsHaveBytes.bounded (hnext : ∀ r r', step r = .ok r' → (window r).Next (window r'))
    {r₀ : ρ} (h₀ : (window r₀).InSizeT) (h : StepsHaveBytes step window r₀) :
    StepsBounded step window r₀ := by
  intro n r hn
  obtain ⟨hle, hend⟩ := h.length_le hnext h₀ hn
  refine ⟨hle, ?_⟩
  rcases Nat.eq_zero_or_pos n with rfl | hpos
  · exact Nat.zero_le _
  · have hbound := hend hpos
    omega

end

/-! ## Looking for an element -/

/-- Whether an element has the name that is looked for. -/
def elementHasName (elementName : ConstString) (elementReader : MessageElementReader) :
    Result Bool := do
  let (header, bufferInfo) ←
    messageElementReaderReadHeaderEx elementReader (MessageElementHeaderOf.zero (.null 0))
  if header.elementName.len = elementName.len then
    elementNameMatches elementReader.buffer (elementName.len + 1)
      bufferInfo.elementNameStrOffset elementName.data
  else pure false

theorem findElementLoop_succ (elementName : ConstString) (fuel : Nat) (r : MessageElementReader) :
    findElementLoop elementName (fuel + 1) r =
      match elementHasName elementName r with
      | .error e => .error e
      | .ok true => .ok r
      | .ok false =>
          match messageElementReaderMoveNext r with
          | .error .noMore => .error .messageElementNotFound
          | .error e => .error e
          | .ok r => findElementLoop elementName fuel r := by
  rw [findElementLoop, elementHasName]
  cases messageElementReaderReadHeaderEx r (MessageElementHeaderOf.zero (.null 0)) with
  | error e => rfl
  | ok p =>
      obtain ⟨header, info⟩ := p
      by_cases hlen : header.elementName.len = elementName.len
      · simp only [bind, Except.bind, if_pos hlen]
        cases elementNameMatches r.buffer (elementName.len + 1) info.elementNameStrOffset
          elementName.data with
        | error e => rfl
        | ok found => cases found <;> rfl
      · simp only [bind, Except.bind, if_neg hlen]
        rfl

/-- How many steps the loop of `find_element` makes. -/
def findElementSteps (elementName : ConstString) : Nat → MessageElementReader → Nat
  | 0, _ => 0
  | fuel + 1, r =>
      match elementHasName elementName r with
      | .ok false =>
          match messageElementReaderMoveNext r with
          | .ok r => findElementSteps elementName fuel r + 1
          | .error _ => 0
      | _ => 0

/-- They are steps of a run. -/
theorem exists_findElementSteps (elementName : ConstString) (fuel : Nat) (r : MessageElementReader) :
    ∃ r', stepTimes messageElementReaderMoveNext (findElementSteps elementName fuel r) r = .ok r' := by
  induction fuel generalizing r with
  | zero => exact ⟨r, rfl⟩
  | succ fuel ih =>
      rw [findElementSteps]
      cases elementHasName elementName r with
      | error e => exact ⟨r, rfl⟩
      | ok found =>
          cases found with
          | true => exact ⟨r, rfl⟩
          | false =>
              cases hnext : messageElementReaderMoveNext r with
              | error e => exact ⟨r, rfl⟩
              | ok r₁ =>
                  obtain ⟨r', hr'⟩ := ih r₁
                  exact ⟨r', stepTimes_succ hnext hr'⟩

/-! ## Iterations -/

/-- An iteration over elements makes progress by bytes, and so looks at no more elements than
there are bytes. A step that fails leaves the reader as it is. -/
structure MessageElementReader.IteratesByBytes (r₀ : MessageElementReader) : Prop where
  progress : StepsProgress messageElementReaderMoveNext MessageElementReader.window r₀
  bounded : StepsBounded messageElementReaderMoveNext MessageElementReader.window r₀
  find : ∀ elementName fuel, findElementSteps elementName fuel r₀ ≤ r₀.buffer.bytes.length
  unchanged : ∀ n r, stepTimes messageElementReaderMoveNext n r₀ = .ok r →
    ∀ e r', messageElementReaderMoveNextInPlace r = (.error e, r') → r' = r

/-- An iteration over entries does. -/
structure MessageEntryReader.IteratesByBytes (r₀ : MessageEntryReader) : Prop where
  progress : StepsProgress messageEntryReaderMoveNext MessageEntryReader.window r₀
  bounded : StepsBounded messageEntryReaderMoveNext MessageEntryReader.window r₀
  unchanged : ∀ n r, stepTimes messageEntryReaderMoveNext n r₀ = .ok r →
    ∀ e r', messageEntryReaderMoveNextInPlace r = (.error e, r') → r' = r

/-- Iterations do, exactly when every step they make is made from an element or entry that
declares some bytes to another that does. -/
theorem iteratesByBytes_iff :
    (∀ r₀ : MessageElementReader, r₀.window.InSizeT →
      (r₀.IteratesByBytes ↔
        StepsHaveBytes messageElementReaderMoveNext MessageElementReader.window r₀)) ∧
    ∀ r₀ : MessageEntryReader, r₀.window.InSizeT →
      (r₀.IteratesByBytes ↔
        StepsHaveBytes messageEntryReaderMoveNext MessageEntryReader.window r₀) := by
  constructor
  · intro r₀ h₀
    have hprogress := stepsProgress_iff (fun _ _ => messageElementReaderMoveNext_next) h₀
    constructor
    · exact fun h => hprogress.mp h.progress
    · intro h
      have hbounded := h.bounded (fun _ _ => messageElementReaderMoveNext_next) h₀
      refine ⟨hprogress.mpr h, hbounded, ?_, ?_⟩
      · intro elementName fuel
        obtain ⟨r, hr⟩ := exists_findElementSteps elementName fuel r₀
        exact (hbounded _ r hr).2
      · intro n r _ e r' hfail
        rw [messageElementReaderMoveNextInPlace_eq] at hfail
        exact inPlace_error hfail
  · intro r₀ h₀
    have hprogress := stepsProgress_iff (fun _ _ => messageEntryReaderMoveNext_next) h₀
    constructor
    · exact fun h => hprogress.mp h.progress
    · intro h
      refine ⟨hprogress.mpr h, h.bounded (fun _ _ => messageEntryReaderMoveNext_next) h₀, ?_⟩
      intro n r _ e r' hfail
      rw [messageEntryReaderMoveNextInPlace_eq] at hfail
      exact inPlace_error hfail

end

section

open Lp64

/-- A version 2 entry that declares two elements, of which neither has any bytes. -/
def emptyElementsEntry : BufferVec :=
  ⟨[[26, 0, 0, 0, 1, 0, 0, 0, 0, 0, 0, 0, 0, 0, 0, 0, 0, 0, 0, 0, 2, 0, 0, 0, 0, 0]], by decide⟩

/-- The step to the second element stays where it is. -/
theorem emptyElements_stayPut : ¬ ∀ (er : MessageEntryReader) (r : MessageElementReader),
    messageEntryReaderBeginReadElements er = .ok r → r.IteratesByBytes := by
  intro h
  have hopen : messageEntryReaderBeginReadElements ⟨emptyElementsEntry, 0, 26, 0, 0, 0, 2⟩ =
      .ok ⟨emptyElementsEntry, 22, 0, 4, 0, 2, 2⟩ := by decide +kernel
  have hnext : messageElementReaderMoveNext ⟨emptyElementsEntry, 22, 0, 4, 0, 2, 2⟩ =
      .ok ⟨emptyElementsEntry, 22, 0, 4, 1, 2, 2⟩ := by decide +kernel
  have hprogress := (h _ _ hopen).progress 0 _ _ rfl hnext
  exact absurd hprogress.1 (Nat.lt_irrefl 22)

/-- A version 2 entry of two elements of sixteen bytes. -/
def twoElementsEntry : BufferVec :=
  ⟨[[54, 0, 0, 0, 1, 0, 0, 0, 0, 0, 0, 0, 0, 0, 0, 0, 0, 0, 0, 0, 2, 0,
      16, 0, 0, 0, 0, 0, 0, 0, 0, 0, 0, 0, 0, 0, 0, 0,
      16, 0, 0, 0, 0, 0, 0, 0, 0, 0, 0, 0, 0, 0, 0, 0]], by decide⟩

theorem twoElements_iterate :
    (⟨twoElementsEntry, 22, 16, 16, 0, 2, 2⟩ : MessageElementReader).IteratesByBytes := by
  refine (iteratesByBytes_iff.1 ⟨twoElementsEntry, 22, 16, 16, 0, 2, 2⟩
    ⟨by decide, by decide, by decide⟩).mpr ?_
  have hnext : messageElementReaderMoveNext ⟨twoElementsEntry, 22, 16, 16, 0, 2, 2⟩ =
      .ok ⟨twoElementsEntry, 38, 16, 0, 1, 2, 2⟩ := by decide +kernel
  have hlast : messageElementReaderMoveNext ⟨twoElementsEntry, 38, 16, 0, 1, 2, 2⟩ =
      .error .noMore := by decide +kernel
  have hsize : messageReadCount twoElementsEntry 2 38 = .ok (16, 42) := by decide +kernel
  intro n r r' hn hstep
  match n with
  | 0 =>
      cases hn
      refine ⟨by decide, by decide, fun size o hread => ?_⟩
      cases hsize.symm.trans hread
      decide
  | 1 =>
      rw [stepTimes, hnext] at hn
      cases hn
      rw [hlast] at hstep
      cases hstep
  | n + 2 =>
      rw [stepTimes, hnext, Except.bind, stepTimes, hlast] at hn
      cases hn

end

end RobotRaconteurLite

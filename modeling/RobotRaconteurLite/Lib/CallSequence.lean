import Mathlib.Data.List.Forall2
import Mathlib.Tactic.Ring

/-!
# Sequences of calls

A component is a step function: a call takes a state to an output and the next
state. Two components are compared by the outputs of the same calls made in the
same order. When a relation between their states survives every call, the
outputs agree along a whole sequence exactly when each call meets, in the state
it is made in, the condition under which that one call agrees.
-/

namespace CallSequence

variable {σ σ' κ ω ω' : Type}

/-- What the calls answer, in order. -/
def outputs (step : σ → κ → ω × σ) : σ → List κ → List ω
  | _, [] => []
  | s, c :: cs => (step s c).1 :: outputs step (step s c).2 cs

/-- Each call is made in a state where `P` holds of it. -/
def EveryCall (step : σ → κ → ω × σ) (P : σ → κ → Prop) : σ → List κ → Prop
  | _, [] => True
  | s, c :: cs => P s c ∧ EveryCall step P (step s c).2 cs

instance EveryCall.decidable (step : σ → κ → ω × σ) (P : σ → κ → Prop)
    [∀ s c, Decidable (P s c)] : (s : σ) → (cs : List κ) → Decidable (EveryCall step P s cs)
  | _, [] => isTrue trivial
  | s, c :: cs =>
      have := EveryCall.decidable step P (step s c).2 cs
      inferInstanceAs (Decidable (P s c ∧ EveryCall step P (step s c).2 cs))

/-- The state the calls leave behind. -/
def final (step : σ → κ → ω × σ) : σ → List κ → σ
  | s, [] => s
  | s, c :: cs => final step (step s c).2 cs

/-- Up to the first state that meets `stop` every state meets `P`, and that one meets `Q`. -/
def Until (step : σ → κ → ω × σ) (stop : σ → Bool) (P Q : σ → Prop) : σ → List κ → Prop
  | s, [] => if stop s = true then Q s else P s
  | s, c :: cs => if stop s = true then Q s else P s ∧ Until step stop P Q (step s c).2 cs

section

variable {step : σ → κ → ω × σ} {P Q : σ → κ → Prop} {I : σ → Prop}

/-- The invariant rule: where each call made under `P` keeps `I`, so does a sequence
of such calls, and whatever `I` and `P` say of one call holds of each. -/
theorem EveryCall.invariant (hstep : ∀ s c, I s → P s c → I (step s c).2)
    (hq : ∀ s c, I s → P s c → Q s c) {s : σ} (hs : I s) {cs : List κ}
    (h : EveryCall step P s cs) : I (final step s cs) ∧ EveryCall step Q s cs := by
  induction cs generalizing s with
  | nil => exact ⟨hs, trivial⟩
  | cons c cs ih =>
      obtain ⟨hp, hrest⟩ := h
      obtain ⟨hfinal, hevery⟩ := ih (hstep s c hs hp) hrest
      exact ⟨hfinal, hq s c hs hp, hevery⟩

/-- The invariant rule up to the first state that meets `stop`. -/
theorem EveryCall.until {stop : σ → Bool} {A B : σ → Prop}
    (hgo : ∀ s, I s → stop s = false → A s) (hstop : ∀ s, I s → stop s = true → B s)
    (hstep : ∀ s c, I s → stop s = false → P s c → I (step s c).2) {s : σ} (hs : I s)
    {cs : List κ} (h : EveryCall step P s cs) : Until step stop A B s cs := by
  induction cs generalizing s with
  | nil =>
      rw [Until]
      cases hdone : stop s with
      | true => exact hstop s hs hdone
      | false => exact hgo s hs hdone
  | cons c cs ih =>
      rw [Until]
      cases hdone : stop s with
      | true => exact hstop s hs hdone
      | false => exact ⟨hgo s hs hdone, ih (hstep s c hs hdone h.1) h.2⟩

/-- Where no state of a run meets `stop`, the last one meets what the others meet. -/
theorem Until.at_final {stop : σ → Bool} {A B : σ → Prop} {s : σ} {cs : List κ}
    (h : Until step stop A B s cs) (hnever : EveryCall step (fun s _ => stop s = false) s cs)
    (hlast : stop (final step s cs) = false) : A (final step s cs) := by
  induction cs generalizing s with
  | nil =>
      rw [final] at hlast
      rw [Until, hlast] at h
      exact h
  | cons c cs ih =>
      rw [Until, hnever.1] at h
      exact ih h.2 hnever.2 hlast

theorem everyCall_true (s : σ) (cs : List κ) : EveryCall step (fun _ _ => True) s cs := by
  induction cs generalizing s with
  | nil => trivial
  | cons c cs ih => exact ⟨trivial, ih _⟩

theorem everyCall_of_forall {D : κ → Prop} {s : σ} {cs : List κ} (h : ∀ c ∈ cs, D c) :
    EveryCall step (fun _ c => D c) s cs := by
  induction cs generalizing s with
  | nil => trivial
  | cons c cs ih =>
      exact ⟨h c List.mem_cons_self, ih fun c' hc' => h c' (List.mem_cons_of_mem _ hc')⟩

/-- Under a discipline `D`, the calls of a sequence all meet `P` exactly when they all meet
`Q`, where this is so of one call and a call that meets `Q` keeps the invariant. The
invariant may count the calls to come. -/
theorem everyCall_iff {D : σ → κ → Prop} {I : Nat → σ → Prop}
    (hiff : ∀ n s c, I (n + 1) s → D s c → (P s c ↔ Q s c))
    (hstep : ∀ n s c, I (n + 1) s → D s c → Q s c → I n (step s c).2) {s : σ} {cs : List κ}
    (hs : I cs.length s) (hd : EveryCall step D s cs) :
    EveryCall step P s cs ↔ EveryCall step Q s cs := by
  induction cs generalizing s with
  | nil => rfl
  | cons c cs ih =>
      obtain ⟨hdc, hrest⟩ := hd
      rw [EveryCall, EveryCall, hiff _ s c hs hdc]
      exact and_congr_right fun hq => ih (hstep _ s c hs hdc hq) hrest

end

theorem forall₂_outputs_iff {step : σ → κ → ω × σ} {step' : σ' → κ → ω' × σ'}
    {R : σ → σ' → Prop} {O : ω → ω' → Prop} {P : σ' → κ → Prop}
    (hout : ∀ s t c, R s t → (O (step s c).1 (step' t c).1 ↔ P t c))
    (hnext : ∀ s t c, R s t → P t c → R (step s c).2 (step' t c).2) {s : σ} {t : σ'}
    (h : R s t) (cs : List κ) :
    List.Forall₂ O (outputs step s cs) (outputs step' t cs) ↔ EveryCall step' P t cs := by
  induction cs generalizing s t with
  | nil => exact iff_of_true List.Forall₂.nil trivial
  | cons c cs ih =>
      rw [outputs, outputs, List.forall₂_cons, EveryCall, hout s t c h]
      exact and_congr_right fun hp => ih (hnext s t c h hp)

/-- Where every call that may be made keeps the relation, the outputs agree. -/
theorem forall₂_outputs_of {step : σ → κ → ω × σ} {step' : σ' → κ → ω' × σ'}
    {R : σ → σ' → Prop} {O : ω → ω' → Prop} {Q : κ → Prop}
    (hstep : ∀ s t c, R s t → Q c →
      O (step s c).1 (step' t c).1 ∧ R (step s c).2 (step' t c).2) {s : σ} {t : σ'}
    (h : R s t) {cs : List κ} (hcs : ∀ c ∈ cs, Q c) :
    List.Forall₂ O (outputs step s cs) (outputs step' t cs) := by
  induction cs generalizing s t with
  | nil => exact List.Forall₂.nil
  | cons c cs ih =>
      obtain ⟨hout, hnext⟩ := hstep s t c h (hcs c List.mem_cons_self)
      exact List.Forall₂.cons hout (ih hnext fun c' hc' => hcs c' (List.mem_cons_of_mem _ hc'))

theorem outputs_eq_iff {step : σ → κ → ω × σ} {step' : σ' → κ → ω × σ'}
    {R : σ → σ' → Prop} {P : σ' → κ → Prop}
    (hout : ∀ s t c, R s t → ((step s c).1 = (step' t c).1 ↔ P t c))
    (hnext : ∀ s t c, R s t → P t c → R (step s c).2 (step' t c).2) {s : σ} {t : σ'}
    (h : R s t) (cs : List κ) :
    outputs step s cs = outputs step' t cs ↔ EveryCall step' P t cs := by
  rw [← forall₂_outputs_iff hout hnext h cs, List.forall₂_eq_eq_eq]

end CallSequence

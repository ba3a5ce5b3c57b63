import RobotRaconteurLite.Lib.Splice

/-!
# Parsers that thread an offset

A C parser over a buffer is a sequence of reads that share one `size_t *`. In
Lean it is a computation in `StateT Nat (Except ε)`: given an offset it fails,
or answers a value and the offset it stopped at.

Several things are said about such a parser, and each has one rule for each way
a parser is put together, so a parser of twenty fields is reasoned about field
by field.

* `Parses l o bs Q c`: where the bytes `bs` lie at `o`, it answers as `Q` says and
  stops right behind them.
* `Moves P c Q`: from an offset in `P` it never goes back, and `Q` holds of what
  it answers and where it stops.
* `Ends o c o' Q`: from `o` on it can only stop at `o'`, and `Q` holds of what it answers.
* `Answers Q c`: `Q` holds of every answer.
* `Follows excused τ R c d`: `d` from offset `τ o` on does what `c` does from `o`
  on, unless `c` fails with an excused error. This is how a parser relates to the
  same parser on other bytes that hold the same ones at other offsets.
-/

namespace OffsetReader

open Splice

variable {ε α β τ : Type}

/-- A parser over some fixed buffer. -/
abbrev Reader (ε α : Type) := StateT Nat (Except ε) α

theorem bind_apply (c : Reader ε α) (f : α → Reader ε β) (o : Nat) :
    (c >>= f) o = (c o).bind fun p => f p.1 p.2 := rfl

theorem map_apply (c : Reader ε α) (f : α → β) (o : Nat) :
    (f <$> c) o = (c o).map fun p => (f p.1, p.2) := by
  change (c o).bind (fun p => .ok (f p.1, p.2)) = _
  cases c o <;> rfl

theorem bind_eq_ok {x : Except ε α} {f : α → Except ε β} {b : β} :
    x.bind f = .ok b ↔ ∃ a, x = .ok a ∧ f a = .ok b := by
  cases x <;> simp [Except.bind]

theorem map_eq_ok {x : Except ε α} {f : α → β} {b : β} :
    x.map f = .ok b ↔ ∃ a, x = .ok a ∧ f a = b := by
  cases x <;> simp [Except.map]

theorem run'_eq_ok {c : Reader ε α} {o : Nat} {a : α} :
    StateT.run' c o = .ok a ↔ ∃ o', c o = .ok (a, o') := by
  change (c o).map Prod.fst = _ ↔ _
  cases h : c o with
  | error e => simp [Except.map]
  | ok p => simp [Except.map, Prod.ext_iff]

/-! ## `Parses` -/

def Parses (l : List τ) (o : Nat) (bs : List τ) (Q : α → Prop) (c : Reader ε α) : Prop :=
  At l o bs → ∃ a, c o = .ok (a, o + bs.length) ∧ Q a

section

variable {l : List τ} {o : Nat} {bs : List τ} {Q : α → Prop} {R : β → Prop}
  {c : Reader ε α} {f : α → Reader ε β}

theorem Parses.pure {a : α} (ha : Q a) : Parses l o [] Q (Pure.pure a : Reader ε α) :=
  fun _ => ⟨a, rfl, ha⟩

theorem Parses.mono {Q' : α → Prop} (hc : Parses l o bs Q c) (hq : ∀ a, Q a → Q' a) :
    Parses l o bs Q' c := by
  intro h
  obtain ⟨a, ha, hqa⟩ := hc h
  exact ⟨a, ha, hq a hqa⟩

/-- What lies there may be used to say what it is parsed to. -/
theorem Parses.of_at (hc : At l o bs → Parses l o bs Q c) : Parses l o bs Q c :=
  fun h => hc h h

theorem Parses.bind {x y : List τ} (hc : Parses l o x Q c)
    (hf : ∀ a, Q a → Parses l (o + x.length) y R (f a)) :
    Parses l o (x ++ y) R (c >>= f) := by
  intro h
  rw [at_append] at h
  obtain ⟨a, ha, hqa⟩ := hc h.1
  obtain ⟨b, hb, hrb⟩ := hf a hqa h.2
  refine ⟨b, ?_, hrb⟩
  rw [bind_apply, ha, List.length_append, ← Nat.add_assoc]
  exact hb

/-- A step that reads nothing. -/
theorem Parses.nil_bind (hc : Parses l o [] Q c) (hf : ∀ a, Q a → Parses l o bs R (f a)) :
    Parses l o bs R (c >>= f) :=
  Parses.bind (y := bs) hc hf

theorem Parses.get {k : Nat} (hk : o = k) :
    Parses l o [] (· = k) (MonadState.get : Reader ε Nat) :=
  fun _ => ⟨o, rfl, hk⟩

theorem Parses.get_bind {f : Nat → Reader ε β} (hf : Parses l o bs R (f o)) :
    Parses l o bs R (MonadState.get >>= f) :=
  Parses.nil_bind (Parses.get rfl) fun _ ho => ho ▸ hf

/-- Before a step that only answers. -/
theorem Parses.bind_pure {f : α → β} (hc : Parses l o bs Q c) (hf : ∀ a, Q a → R (f a)) :
    Parses l o bs R (c >>= fun a => Pure.pure (f a)) := by
  have h := hc.bind fun a ha => (Parses.pure (hf a ha) : Parses l _ [] R (Pure.pure (f a)))
  rwa [List.append_nil] at h

theorem Parses.map {f : α → β} (hc : Parses l o bs Q c) (hf : ∀ a, Q a → R (f a)) :
    Parses l o bs R (f <$> c) := by
  intro h
  obtain ⟨a, ha, hqa⟩ := hc h
  refine ⟨f a, ?_, hf a hqa⟩
  rw [map_apply, ha]
  rfl

theorem Parses.run' (hc : Parses l o bs Q c) (h : At l o bs) :
    ∃ a, StateT.run' c o = .ok a ∧ Q a := by
  obtain ⟨a, ha, hqa⟩ := hc h
  exact ⟨a, run'_eq_ok.mpr ⟨_, ha⟩, hqa⟩

end

/-! ## `Moves` -/

def Moves (P : Nat → Prop) (c : Reader ε α) (Q : α → Nat → Prop) : Prop :=
  ∀ o a o', P o → c o = .ok (a, o') → o ≤ o' ∧ Q a o'

section

variable {P : Nat → Prop} {Q : α → Nat → Prop} {R : β → Nat → Prop} {c d : Reader ε α}
  {f : α → Reader ε β}

theorem Moves.pure {a : α} (h : ∀ o, P o → Q a o) :
    Moves P (Pure.pure a : Reader ε α) Q := by
  intro o b o' ho hb
  injection hb with hb
  obtain ⟨rfl, rfl⟩ := Prod.mk.inj hb
  exact ⟨Nat.le_refl _, h o ho⟩

theorem Moves.throw (e : ε) : Moves P (throw e : Reader ε α) Q := by
  intro o b o' _ h
  cases h

theorem Moves.get : Moves P (get : Reader ε Nat) fun p o => p = o ∧ P o := by
  intro o b o' ho h
  injection h with h
  obtain ⟨rfl, rfl⟩ := Prod.mk.inj h
  exact ⟨Nat.le_refl _, rfl, ho⟩

theorem Moves.bind (hc : Moves P c Q) (hf : ∀ a, Moves (Q a) (f a) R) :
    Moves P (c >>= f) R := by
  intro o b o'' ho h
  rw [bind_apply, bind_eq_ok] at h
  obtain ⟨⟨a, o'⟩, hca, hfa⟩ := h
  obtain ⟨hle, hq⟩ := hc o a o' ho hca
  obtain ⟨hle', hr⟩ := hf a o' b o'' hq hfa
  exact ⟨Nat.le_trans hle hle', hr⟩

theorem Moves.map {f : α → β} (hc : Moves P c fun a => R (f a)) : Moves P (f <$> c) R := by
  intro o b o' ho h
  rw [map_apply, map_eq_ok] at h
  obtain ⟨⟨a, o₁⟩, hca, hb⟩ := h
  obtain ⟨rfl, rfl⟩ := Prod.mk.inj hb
  exact hc o a o₁ ho hca

theorem Moves.ite {p : Prop} [Decidable p] (hc : Moves P c Q) (hd : Moves P d Q) :
    Moves P (if p then c else d) Q := by
  split
  · exact hc
  · exact hd

theorem Moves.mono {P' : Nat → Prop} {Q' : α → Nat → Prop} (hc : Moves P c Q)
    (hp : ∀ o, P' o → P o) (hq : ∀ a o, Q a o → Q' a o) : Moves P' c Q' := by
  intro o a o' ho h
  obtain ⟨hle, hqo⟩ := hc o a o' (hp o ho) h
  exact ⟨hle, hq a o' hqo⟩

/-- A fact the precondition carries that is not about the offset. -/
theorem Moves.of_pre {p : Prop} (hp : ∀ o, P o → p) (hc : p → Moves P c Q) :
    Moves P c Q := fun o a o' ho h => hc (hp o ho) o a o' ho h

theorem Moves.run' {o : Nat} {a : α} (h : StateT.run' c o = .ok a) (ho : P o)
    (hc : Moves P c Q) : ∃ o', o ≤ o' ∧ Q a o' := by
  obtain ⟨o', hrun⟩ := run'_eq_ok.mp h
  exact ⟨o', hc o a o' ho hrun⟩

end

/-! ## `Ends` -/

def Ends (o : Nat) (c : Reader ε α) (o' : Nat) (Q : α → Prop) : Prop :=
  ∀ a p, c o = .ok (a, p) → p = o' ∧ Q a

section

variable {o o' o'' : Nat} {Q : α → Prop} {R : β → Prop} {c d : Reader ε α} {f : α → Reader ε β}

theorem Ends.pure {a : α} (h : Q a) : Ends o (Pure.pure a : Reader ε α) o Q := by
  intro b p hb
  injection hb with hb
  obtain ⟨rfl, rfl⟩ := Prod.mk.inj hb
  exact ⟨rfl, h⟩

theorem Ends.throw (e : ε) : Ends o (throw e : Reader ε α) o' Q := by
  intro b p h
  cases h

theorem Ends.get : Ends o (MonadState.get : Reader ε Nat) o (· = o) := by
  intro b p h
  injection h with h
  obtain ⟨rfl, rfl⟩ := Prod.mk.inj h
  exact ⟨rfl, rfl⟩

theorem Ends.bind (hc : Ends o c o' Q) (hf : ∀ a, Q a → Ends o' (f a) o'' R) :
    Ends o (c >>= f) o'' R := by
  intro b p h
  rw [bind_apply, bind_eq_ok] at h
  obtain ⟨⟨a, p'⟩, hca, hfa⟩ := h
  obtain ⟨rfl, ha⟩ := hc a p' hca
  exact hf a ha b p hfa

theorem Ends.mono {Q' : α → Prop} (hc : Ends o c o' Q) (hq : ∀ a, Q a → Q' a) :
    Ends o c o' Q' := by
  intro a p h
  obtain ⟨hp, ha⟩ := hc a p h
  exact ⟨hp, hq a ha⟩

theorem Ends.map {f : α → β} (hc : Ends o c o' Q) (hf : ∀ a, Q a → R (f a)) :
    Ends o (f <$> c) o' R := by
  intro b p h
  rw [map_apply, map_eq_ok] at h
  obtain ⟨⟨a, p'⟩, hca, heq⟩ := h
  obtain ⟨rfl, rfl⟩ := Prod.mk.inj heq
  obtain ⟨hp, ha⟩ := hc a _ hca
  exact ⟨hp, hf a ha⟩

theorem Ends.run' (o' : Nat) (Q : α → Prop) (hc : Ends o c o' Q) {a : α}
    (h : StateT.run' c o = .ok a) : Q a := by
  obtain ⟨p, hp⟩ := run'_eq_ok.mp h
  exact (hc a p hp).2

end

/-! ## `Answers` -/

/-- What holds of every answer, wherever the parser starts. -/
def Answers (Q : α → Prop) (c : Reader ε α) : Prop := ∀ o a o', c o = .ok (a, o') → Q a

theorem Answers.pure {Q : α → Prop} {a : α} (h : Q a) :
    Answers Q (Pure.pure a : Reader ε α) := by
  intro o b o' hb
  injection hb with hb
  obtain ⟨rfl, -⟩ := Prod.mk.inj hb
  exact h

theorem Answers.bind_of {P : α → Prop} {Q : β → Prop} {c : Reader ε α} {f : α → Reader ε β}
    (hc : Answers P c) (hf : ∀ a, P a → Answers Q (f a)) : Answers Q (c >>= f) := by
  intro o b o' hb
  rw [bind_apply, bind_eq_ok] at hb
  obtain ⟨⟨a, o₁⟩, ha, hb⟩ := hb
  exact hf a (hc o a o₁ ha) o₁ b o' hb

/-- Only what follows the first step answers. -/
theorem Answers.bind {Q : β → Prop} {c : Reader ε α} {f : α → Reader ε β}
    (h : ∀ a, Answers Q (f a)) : Answers Q (c >>= f) :=
  Answers.bind_of (P := fun _ => True) (fun _ _ _ _ => trivial) fun a _ => h a

/-! ## `Follows` -/

/-- `y` is what `x` is, as far as `R` relates their values, unless `x` failed
with an excused error. -/
def ResultRel (excused : ε → Prop) (R : α → β → Prop) : Except ε α → Except ε β → Prop
  | .error e, y => excused e ∨ y = .error e
  | .ok a, .ok b => R a b
  | .ok _, .error _ => False

section

variable {excused : ε → Prop} {α' β' : Type} {R : α → β → Prop} {S : α' → β' → Prop}
  {x : Except ε α} {y : Except ε β}

/-- `bind`, where the rest is told what the first part answered. -/
theorem ResultRel.bind_of_ok {f : α → Except ε α'} {g : β → Except ε β'}
    (hxy : ResultRel excused R x y)
    (hfg : ∀ a b, x = .ok a → R a b → ResultRel excused S (f a) (g b)) :
    ResultRel excused S (x.bind f) (y.bind g) := by
  cases x with
  | error e =>
      rcases hxy with he | rfl
      · exact Or.inl he
      · exact Or.inr rfl
  | ok a =>
      cases y with
      | error e => exact hxy.elim
      | ok b => exact hfg a b rfl hxy

theorem ResultRel.bind {f : α → Except ε α'} {g : β → Except ε β'}
    (hxy : ResultRel excused R x y)
    (hfg : ∀ a b, R a b → ResultRel excused S (f a) (g b)) :
    ResultRel excused S (x.bind f) (y.bind g) :=
  hxy.bind_of_ok fun a b _ => hfg a b

theorem ResultRel.map {f : α → α'} {g : β → β'} (hxy : ResultRel excused R x y)
    (hfg : ∀ a b, R a b → S (f a) (g b)) :
    ResultRel excused S (x.map f) (y.map g) := by
  cases x with
  | error e =>
      rcases hxy with he | rfl
      · exact Or.inl he
      · exact Or.inr rfl
  | ok a =>
      cases y with
      | error e => exact hxy.elim
      | ok b => exact hfg a b hxy

theorem ResultRel.mono {R' : α → β → Prop} (hxy : ResultRel excused R x y)
    (h : ∀ a b, R a b → R' a b) : ResultRel excused R' x y := by
  cases x with
  | error e => exact hxy
  | ok a =>
      cases y with
      | error e => exact hxy
      | ok b => exact h a b hxy

theorem ResultRel.refl (x : Except ε α) : ResultRel excused Eq x x := by
  cases x with
  | error e => exact Or.inr rfl
  | ok a => rfl

/-- A first step that is the same on both sides. -/
theorem ResultRel.bind_refl {x : Except ε α} {f : α → Except ε α'} {g : α → Except ε β'}
    (hfg : ∀ a, ResultRel excused S (f a) (g a)) :
    ResultRel excused S (x.bind f) (x.bind g) := by
  refine (ResultRel.refl x).bind ?_
  rintro a _ rfl
  exact hfg a

/-- Two results that a function makes one are alike as far as it tells. -/
theorem ResultRel.of_map_eq {γ : Type} {x y : Except ε α} {f : α → γ} (h : x.map f = y.map f) :
    ResultRel excused (fun a b => f b = f a) x y := by
  cases x with
  | error e =>
      cases y with
      | error e' =>
          injection h with h
          exact Or.inr (h ▸ rfl)
      | ok b => cases h
  | ok a =>
      cases y with
      | error e => cases h
      | ok b =>
          injection h with h
          exact h.symm

/-- Where nothing is excused the two are equal. -/
theorem ResultRel.eq {x y : Except ε α} (h : ResultRel (fun _ => False) Eq x y) : x = y := by
  cases x with
  | error e => exact (h.resolve_left id).symm
  | ok a =>
      cases y with
      | error e => exact h.elim
      | ok b => exact congrArg _ h

end

/-- The offsets of the second parser are those of the first under `τ`. -/
def Follows (excused : ε → Prop) (τ : Nat → Nat) (R : α → β → Prop) (c : Reader ε α)
    (d : Reader ε β) : Prop :=
  ∀ o, ResultRel excused (fun p q => R p.1 q.1 ∧ q.2 = τ p.2) (c o) (d (τ o))

section

variable {excused : ε → Prop} {τ : Nat → Nat} {α' β' : Type} {R : α → β → Prop}
  {S : α' → β' → Prop} {c : Reader ε α} {d : Reader ε β}

theorem Follows.pure {a : α} {b : β} (h : R a b) :
    Follows excused τ R (Pure.pure a : Reader ε α) (Pure.pure b) := fun _ => ⟨h, rfl⟩

theorem Follows.throw (e : ε) :
    Follows excused τ R (throw e : Reader ε α) (throw e : Reader ε β) := fun _ => Or.inr rfl

theorem Follows.get :
    Follows excused τ (fun a b => b = τ a) (get : Reader ε Nat) (get : Reader ε Nat) :=
  fun _ => ⟨rfl, rfl⟩

theorem Follows.bind {f : α → Reader ε α'} {g : β → Reader ε β'}
    (hcd : Follows excused τ R c d)
    (hfg : ∀ a b, R a b → Follows excused τ S (f a) (g b)) :
    Follows excused τ S (c >>= f) (d >>= g) := by
  intro o
  rw [bind_apply, bind_apply]
  apply (hcd o).bind
  rintro ⟨a, o₁⟩ ⟨b, o₂⟩ ⟨hab, ho⟩
  dsimp only at ho ⊢
  rw [ho]
  exact hfg a b hab o₁

/-- The usual case, a step that reads the same value in both. -/
theorem Follows.bind_eq {d : Reader ε α} {f : α → Reader ε α'} {g : α → Reader ε β'}
    (hcd : Follows excused τ Eq c d) (hfg : ∀ a, Follows excused τ S (f a) (g a)) :
    Follows excused τ S (c >>= f) (d >>= g) := by
  apply hcd.bind
  rintro a _ rfl
  exact hfg a

/-- A first step that is the same on both sides, at the same offset. -/
theorem Follows.refl_bind {c : Reader ε α} {f : α → Reader ε α'} {g : α → Reader ε β'}
    (hfg : ∀ a, Follows excused id S (f a) (g a)) :
    Follows excused id S (c >>= f) (c >>= g) := by
  intro o
  rw [bind_apply, bind_apply]
  exact ResultRel.bind_refl fun p => hfg p.1 p.2

theorem Follows.map {f : α → α'} {g : β → β'} (hcd : Follows excused τ R c d)
    (hfg : ∀ a b, R a b → S (f a) (g b)) :
    Follows excused τ S (f <$> c) (g <$> d) := by
  intro o
  rw [map_apply, map_apply]
  exact (hcd o).map fun _ _ h => ⟨hfg _ _ h.1, h.2⟩

theorem Follows.ite {p : Prop} [Decidable p] {c' : Reader ε α} {d' : Reader ε β}
    (hc : Follows excused τ R c d) (hd : Follows excused τ R c' d') :
    Follows excused τ R (if p then c else c') (if p then d else d') := by
  split
  · exact hc
  · exact hd

theorem Follows.run' (hcd : Follows excused τ R c d) (o : Nat) :
    ResultRel excused R (StateT.run' c o) (StateT.run' d (τ o)) :=
  (hcd o).map fun _ _ h => h.1

end

end OffsetReader

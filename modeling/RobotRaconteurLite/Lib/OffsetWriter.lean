import RobotRaconteurLite.Lib.Splice

/-!
# Writers that thread an offset

A C serializer writes fields into a buffer through one `size_t *`, and when a
field fails what was written before it stays. In Lean the buffer is a state that
survives a failure, `ExceptT ε (StateM σ)`, and the offset a second state around
it that does not.

`Lockstep R c` says that `c` does the same on two buffers that `R` relates, in
its answer and in what it leaves behind, whether it fails or not. `Puts` says
what a writer lays down from an offset on. There is one rule of each for each way
a serializer is put together.
-/

namespace OffsetWriter

open Splice

variable {ε σ α β ι : Type}

/-- A computation on a buffer that can fail. -/
abbrev Buffered (ε σ α : Type) := ExceptT ε (StateM σ) α

/-- The same, from an offset on. -/
abbrev Writer (ε σ α : Type) := StateT Nat (Buffered ε σ) α

theorem buffered_bind_apply (c : Buffered ε σ α) (f : α → Buffered ε σ β) (v : σ) :
    (c >>= f) v = match c v with
      | (.ok a, v) => f a v
      | (.error e, v) => (.error e, v) := by
  change (ExceptT.bindCont f (c v).1) (c v).2 = _
  cases h : c v with
  | mk x v' => cases x <;> rfl

theorem buffered_bind_eq_ok {c : Buffered ε σ α} {f : α → Buffered ε σ β} {v : σ} {b : β}
    (h : ((c >>= f) v).1 = .ok b) : ∃ a, (c v).1 = .ok a ∧ (f a (c v).2).1 = .ok b := by
  rw [buffered_bind_apply] at h
  cases hv : c v with
  | mk x w =>
      rw [hv] at h
      cases x with
      | error e => cases h
      | ok a => exact ⟨a, rfl, h⟩

/-- The same with the buffers it goes through. -/
theorem buffered_bind_run {c : Buffered ε σ α} {f : α → Buffered ε σ β} {v w : σ} {b : β}
    (h : (c >>= f) v = (.ok b, w)) : ∃ a u, c v = (.ok a, u) ∧ f a u = (.ok b, w) := by
  rw [buffered_bind_apply] at h
  cases hv : c v with
  | mk x u =>
      rw [hv] at h
      cases x with
      | error e => cases h
      | ok a => exact ⟨a, u, rfl, h⟩

/-! ## `Lockstep` -/

def Lockstep (R : σ → σ → Prop) (c : Buffered ε σ α) : Prop :=
  ∀ v w, R v w → (c v).1 = (c w).1 ∧ R (c v).2 (c w).2

section

variable {R : σ → σ → Prop} {c d : Buffered ε σ α} {f : α → Buffered ε σ β}

theorem Lockstep.pure (a : α) : Lockstep R (Pure.pure a : Buffered ε σ α) :=
  fun _ _ h => ⟨rfl, h⟩

theorem Lockstep.throw (e : ε) : Lockstep R (throw e : Buffered ε σ α) :=
  fun _ _ h => ⟨rfl, h⟩

theorem Lockstep.bind (hc : Lockstep R c) (hf : ∀ a, Lockstep R (f a)) :
    Lockstep R (c >>= f) := by
  intro v w h
  obtain ⟨heq, hnext⟩ := hc v w h
  rw [buffered_bind_apply, buffered_bind_apply]
  cases hv : c v with
  | mk x v' =>
      cases hw : c w with
      | mk y w' =>
          rw [hv, hw] at heq hnext
          dsimp only at heq hnext
          subst heq
          cases x with
          | ok a => exact hf a v' w' hnext
          | error e => exact ⟨rfl, hnext⟩

theorem Lockstep.ite {p : Prop} [Decidable p] (hc : Lockstep R c) (hd : Lockstep R d) :
    Lockstep R (if p then c else d) := by
  split
  · exact hc
  · exact hd

end

/-! ## `LockstepFrom` -/

/-- `Lockstep` from every offset. -/
def LockstepFrom (R : σ → σ → Prop) (c : Writer ε σ α) : Prop := ∀ o, Lockstep R (c o)

section

variable {R : σ → σ → Prop} {c d : Writer ε σ α} {f : α → Writer ε σ β}

theorem LockstepFrom.pure (a : α) : LockstepFrom R (Pure.pure a : Writer ε σ α) :=
  fun o => Lockstep.pure (a, o)

theorem LockstepFrom.throw (e : ε) : LockstepFrom R (throw e : Writer ε σ α) :=
  fun _ => Lockstep.throw e

theorem LockstepFrom.get : LockstepFrom R (get : Writer ε σ Nat) :=
  fun o => Lockstep.pure (o, o)

theorem LockstepFrom.bind (hc : LockstepFrom R c) (hf : ∀ a, LockstepFrom R (f a)) :
    LockstepFrom R (c >>= f) := fun o =>
  (hc o).bind fun p => hf p.1 p.2

theorem LockstepFrom.ite {p : Prop} [Decidable p] (hc : LockstepFrom R c)
    (hd : LockstepFrom R d) : LockstepFrom R (if p then c else d) := by
  split
  · exact hc
  · exact hd

theorem LockstepFrom.run' (hc : LockstepFrom R c) (o : Nat) :
    Lockstep R (StateT.run' c o) :=
  (hc o).bind fun p => Lockstep.pure p.1

end

/-! ## `Puts` -/

/-- As many items as before, and the same but for those from `lo` up to `hi`. -/
def KeptOutside (items : σ → List ι) (lo hi : Nat) (v w : σ) : Prop :=
  (items w).length = (items v).length ∧ ∀ j, j < lo ∨ hi ≤ j → (items w)[j]? = (items v)[j]?

/-- The computation lays down `bs` at `o` and answers as `Q` says. One that fails got no
further than where `bs` would have ended. -/
def PutsAt (items : σ → List ι) (o : Nat) (bs : List ι) (Q : α → Prop) (c : Buffered ε σ α) : Prop :=
  ∀ v, match c v with
    | (.ok a, w) => Q a ∧ items w = overwrite (items v) o bs ∧
        (bs = [] ∨ o + bs.length ≤ (items v).length)
    | (.error _, w) => KeptOutside items o (o + bs.length) v w

/-- From offset `o` on the writer lays down `bs`, and moves the offset behind it. -/
def Puts (items : σ → List ι) (o : Nat) (bs : List ι) (Q : α → Prop) (c : Writer ε σ α) : Prop :=
  PutsAt items o bs (fun p => Q p.1 ∧ p.2 = o + bs.length) (c o)

section

variable {items : σ → List ι} {o lo hi : Nat} {bs bs' : List ι} {u v w : σ}

theorem KeptOutside.refl (items : σ → List ι) (lo hi : Nat) (v : σ) : KeptOutside items lo hi v v :=
  ⟨rfl, fun _ _ => rfl⟩

theorem KeptOutside.mono {lo' hi' : Nat} (h : KeptOutside items lo hi v w) (hlo : lo' ≤ lo)
    (hhi : hi ≤ hi') : KeptOutside items lo' hi' v w :=
  ⟨h.1, fun j hj => h.2 j (by omega)⟩

theorem KeptOutside.trans (h : KeptOutside items lo hi u v) (h' : KeptOutside items lo hi v w) :
    KeptOutside items lo hi u w :=
  ⟨h'.1.trans h.1, fun j hj => (h'.2 j hj).trans (h.2 j hj)⟩

theorem keptOutside_of_overwrite (h : items w = overwrite (items v) o bs)
    (hin : bs = [] ∨ o + bs.length ≤ (items v).length) :
    KeptOutside items o (o + bs.length) v w := by
  rcases hin with rfl | hin
  · rw [overwrite_nil] at h
    exact ⟨by rw [h], fun j _ => by rw [h]⟩
  · refine ⟨by rw [h, length_overwrite hin], fun j hj => ?_⟩
    rw [h, getElem?_overwrite hin, if_neg (by omega)]

end

section

variable {items : σ → List ι} {o : Nat} {bs bs' : List ι} {Q : α → Prop} {Q' : β → Prop}
  {c : Buffered ε σ α} {f : α → Buffered ε σ β}

/-- Whatever a computation answers, the rest is as it was. -/
theorem PutsAt.keptOutside (h : PutsAt items o bs Q c) (v : σ) :
    KeptOutside items o (o + bs.length) v (c v).2 := by
  have hv := h v
  cases hc : c v with
  | mk x w =>
      rw [hc] at hv
      cases x with
      | error e => exact hv
      | ok a => exact keptOutside_of_overwrite hv.2.1 hv.2.2

theorem PutsAt.pure {a : α} (ha : Q a) : PutsAt items o [] Q (Pure.pure a : Buffered ε σ α) :=
  fun v => ⟨ha, (overwrite_nil (items v) o).symm, Or.inl rfl⟩

theorem PutsAt.throw (e : ε) : PutsAt items o bs Q (throw e : Buffered ε σ α) :=
  fun v => KeptOutside.refl items _ _ v

theorem PutsAt.mono {Q' : α → Prop} (h : PutsAt items o bs Q c) (hq : ∀ a, Q a → Q' a) :
    PutsAt items o bs Q' c := by
  intro v
  have hv := h v
  cases hc : c v with
  | mk x w =>
      rw [hc] at hv
      cases x with
      | error e => exact hv
      | ok a => exact ⟨hq a hv.1, hv.2⟩

/-- Where no state has as many items as `m`, what was laid down ends before. -/
theorem PutsAt.bounded {m : Nat} (hm : ∀ v, (items v).length < m) (hbs : bs ≠ [])
    (h : PutsAt items o bs Q c) : PutsAt items o bs (fun a => Q a ∧ o + bs.length < m) c := by
  intro v
  have hv := h v
  have hlen := hm v
  cases hc : c v with
  | mk x w =>
      rw [hc] at hv
      cases x with
      | error e => exact hv
      | ok a => exact ⟨⟨hv.1, Nat.lt_of_le_of_lt (hv.2.2.resolve_left hbs) hlen⟩, hv.2⟩

theorem PutsAt.bind {x y : List ι} (hc : PutsAt items o x Q c)
    (hf : ∀ a, Q a → PutsAt items (o + x.length) y Q' (f a)) :
    PutsAt items o (x ++ y) Q' (c >>= f) := by
  intro v
  have hv := hc v
  have hkept := hc.keptOutside v
  rw [buffered_bind_apply, List.length_append, ← Nat.add_assoc]
  cases h : c v with
  | mk x w =>
      rw [h] at hv hkept
      cases x with
      | error e => exact hkept.mono (Nat.le_refl o) (Nat.le_add_right _ _)
      | ok a =>
          obtain ⟨hq, hwrite, hin⟩ := hv
          dsimp only
          have hw := hf a hq w
          have hkept' := (hf a hq).keptOutside w
          cases h' : f a w with
          | mk y u =>
              rw [h'] at hw hkept'
              cases y with
              | error e =>
                  exact (hkept.mono (Nat.le_refl o) (Nat.le_add_right _ _)).trans
                    (hkept'.mono (Nat.le_add_right _ _) (Nat.le_refl _))
              | ok b =>
                  obtain ⟨hq', hwrite', hin'⟩ := hw
                  refine ⟨hq', by rw [hwrite', hwrite, overwrite_append], ?_⟩
                  rcases hin' with rfl | hin'
                  · rw [List.append_nil]
                    exact hin
                  · exact Or.inr (by rw [← hkept.1]; exact hin')

/-- After a step that lays down nothing. -/
theorem PutsAt.nil_bind (hc : PutsAt items o [] Q c)
    (hf : ∀ a, Q a → PutsAt items o bs Q' (f a)) : PutsAt items o bs Q' (c >>= f) :=
  PutsAt.bind (y := bs) hc hf

/-- Before a step that only answers. -/
theorem PutsAt.bind_pure {f : α → β} (hc : PutsAt items o bs Q c) (hf : ∀ a, Q a → Q' (f a)) :
    PutsAt items o bs Q' (c >>= fun a => Pure.pure (f a)) := by
  have h := hc.bind fun a ha => (PutsAt.pure (hf a ha) : PutsAt items _ [] Q' (Pure.pure (f a)))
  rwa [List.append_nil] at h

theorem PutsAt.ite {d : Buffered ε σ α} {p : Prop} [Decidable p] (hc : p → PutsAt items o bs Q c)
    (hd : ¬ p → PutsAt items o bs Q d) : PutsAt items o bs Q (if p then c else d) := by
  split
  · next h => exact hc h
  · next h => exact hd h

end

section

variable {items : σ → List ι} {o : Nat} {bs bs' : List ι} {Q : α → Prop} {Q' : β → Prop}
  {c d : Writer ε σ α} {f : α → Writer ε σ β}

theorem Puts.pure {a : α} (ha : Q a) : Puts items o [] Q (Pure.pure a : Writer ε σ α) :=
  PutsAt.pure (a := (a, o)) ⟨ha, rfl⟩

theorem Puts.mono {Q' : α → Prop} (h : Puts items o bs Q c) (hq : ∀ a, Q a → Q' a) :
    Puts items o bs Q' c :=
  PutsAt.mono h fun p hp => ⟨hq p.1 hp.1, hp.2⟩

theorem Puts.throw (e : ε) : Puts items o bs Q (throw e : Writer ε σ α) := PutsAt.throw e

theorem Puts.get : Puts items o [] (· = o) (get : Writer ε σ Nat) :=
  PutsAt.pure (a := (o, o)) ⟨rfl, rfl⟩

theorem Puts.bind {x y : List ι} (hc : Puts items o x Q c)
    (hf : ∀ a, Q a → Puts items (o + x.length) y Q' (f a)) :
    Puts items o (x ++ y) Q' (c >>= f) := by
  refine PutsAt.bind hc fun p hp => ?_
  obtain ⟨a, o'⟩ := p
  obtain ⟨ha, rfl⟩ := hp
  rw [List.length_append, ← Nat.add_assoc]
  exact hf a ha

/-- After a step that lays down nothing. -/
theorem Puts.nil_bind (hc : Puts items o [] Q c) (hf : ∀ a, Q a → Puts items o bs Q' (f a)) :
    Puts items o bs Q' (c >>= f) :=
  Puts.bind (y := bs) hc hf

theorem Puts.get_bind {f : Nat → Writer ε σ β} (hf : Puts items o bs Q' (f o)) :
    Puts items o bs Q' (MonadState.get >>= f) :=
  Puts.nil_bind Puts.get fun _ ho => ho ▸ hf

/-- Before a step that only answers. -/
theorem Puts.bind_pure {f : α → β} (hc : Puts items o bs Q c) (hf : ∀ a, Q a → Q' (f a)) :
    Puts items o bs Q' (c >>= fun a => Pure.pure (f a)) := by
  have h := hc.bind fun a ha => (Puts.pure (hf a ha) : Puts items _ [] Q' (Pure.pure (f a)))
  rwa [List.append_nil] at h

theorem Puts.ite {p : Prop} [Decidable p] (hc : p → Puts items o bs Q c)
    (hd : ¬ p → Puts items o bs Q d) : Puts items o bs Q (if p then c else d) := by
  split
  · next h => exact hc h
  · next h => exact hd h

theorem Puts.run' (hc : Puts items o bs Q c) : PutsAt items o bs Q (StateT.run' c o) :=
  PutsAt.bind_pure hc fun _ hp => hp.1

end

/-! ## `SucceedsTo` -/

/-- Where the items go up to `hi` the computation does not fail. -/
def SucceedsTo (items : σ → List ι) (hi : Nat) (c : Buffered ε σ α) : Prop :=
  ∀ v, hi ≤ (items v).length → ∃ a w, c v = (.ok a, w)

section

variable {items : σ → List ι} {o hi : Nat} {bs : List ι} {Q : α → Prop}

theorem SucceedsTo.pure (a : α) : SucceedsTo items hi (Pure.pure a : Buffered ε σ α) :=
  fun v _ => ⟨a, v, rfl⟩

theorem SucceedsTo.bind {c : Buffered ε σ α} {f : α → Buffered ε σ β}
    (hc : SucceedsTo items hi c) (hputs : PutsAt items o bs Q c)
    (hf : ∀ a, Q a → SucceedsTo items hi (f a)) : SucceedsTo items hi (c >>= f) := by
  intro v hroom
  obtain ⟨a, w, hrun⟩ := hc v hroom
  have hput := hputs v
  have hkept := (hputs.keptOutside v).1
  rw [hrun] at hput hkept
  rw [buffered_bind_apply, hrun]
  exact hf a hput.1 w (hkept ▸ hroom)

theorem SucceedsTo.writer_bind {c : Writer ε σ α} {f : α → Writer ε σ β}
    (hc : SucceedsTo items hi (c o)) (hputs : Puts items o bs Q c)
    (hf : ∀ a, Q a → SucceedsTo items hi (f a (o + bs.length))) :
    SucceedsTo items hi ((c >>= f) o) := by
  refine SucceedsTo.bind hc hputs fun p hp => ?_
  obtain ⟨a, o'⟩ := p
  obtain ⟨ha, rfl⟩ := hp
  exact hf a ha

/-- A step that has room where all has. -/
theorem SucceedsTo.puts_bind {c : Writer ε σ α} {f : α → Writer ε σ β} {x y : List ι}
    (hc : o + x.length ≤ hi → SucceedsTo items hi (c o)) (hputs : Puts items o x Q c)
    (hf : ∀ a, Q a → o + x.length + y.length ≤ hi → SucceedsTo items hi (f a (o + x.length)))
    (hfit : o + (x ++ y).length ≤ hi) : SucceedsTo items hi ((c >>= f) o) := by
  rw [List.length_append, ← Nat.add_assoc] at hfit
  exact SucceedsTo.writer_bind (hc (Nat.le_of_add_right_le hfit)) hputs fun a ha => hf a ha hfit

theorem SucceedsTo.get_bind {f : Nat → Writer ε σ β} (hf : SucceedsTo items hi (f o o)) :
    SucceedsTo items hi ((MonadState.get >>= f) o) :=
  SucceedsTo.writer_bind (SucceedsTo.pure _) Puts.get fun _ ho => ho ▸ hf

theorem SucceedsTo.run' {c : Writer ε σ α} (hc : SucceedsTo items hi (c o))
    (hputs : Puts items o bs Q c) : SucceedsTo items hi (StateT.run' c o) :=
  SucceedsTo.bind hc hputs fun p _ => SucceedsTo.pure p.1

end

/-! ## `FailsWith` -/

/-- Where the items go up to `hi` a failure of the computation is as `E` says. -/
def FailsWith (items : σ → List ι) (hi : Nat) (E : ε → Prop) (c : Buffered ε σ α) : Prop :=
  ∀ v, hi ≤ (items v).length → ∀ e, (c v).1 = .error e → E e

section

variable {items : σ → List ι} {o hi : Nat} {bs : List ι} {E : ε → Prop} {Q : α → Prop}

theorem FailsWith.pure (a : α) : FailsWith items hi E (Pure.pure a : Buffered ε σ α) := nofun

theorem FailsWith.throw {e : ε} (he : E e) : FailsWith items hi E (throw e : Buffered ε σ α) := by
  intro v _ e' h
  cases h
  exact he

/-- Where no state has as many items as `m`, nothing is asked of the computation from there on. -/
theorem FailsWith.bounded {m : Nat} {c : Buffered ε σ α} (hm : ∀ v, (items v).length < m)
    (h : hi < m → FailsWith items hi E c) : FailsWith items hi E c :=
  fun v hroom => h (Nat.lt_of_le_of_lt hroom (hm v)) v hroom

/-- What was laid down ends where the items do, or before. -/
theorem FailsWith.bind {c : Buffered ε σ α} {f : α → Buffered ε σ β}
    (hc : FailsWith items hi E c) (hputs : PutsAt items o bs Q c)
    (hf : ∀ a, Q a → FailsWith items (if bs = [] then hi else o + bs.length) E (f a)) :
    FailsWith items hi E (c >>= f) := by
  intro v hroom e herror
  rw [buffered_bind_apply] at herror
  have hput := hputs v
  have hkept := (hputs.keptOutside v).1
  cases hrun : c v with
  | mk x w =>
      rw [hrun] at herror hput hkept
      cases x with
      | error e' =>
          cases herror
          exact hc v hroom e (by rw [hrun])
      | ok a =>
          refine hf a hput.1 w ?_ e herror
          rw [hkept]
          split
          · exact hroom
          · next hsome => exact hput.2.2.resolve_left hsome

/-- After a step that lays down nothing. -/
theorem FailsWith.nil_bind {c : Writer ε σ α} {f : α → Writer ε σ β}
    (hc : FailsWith items hi E (c o)) (hputs : Puts items o [] Q c)
    (hf : ∀ a, Q a → FailsWith items hi E (f a o)) : FailsWith items hi E ((c >>= f) o) := by
  refine FailsWith.bind hc hputs fun p hp => ?_
  obtain ⟨a, o'⟩ := p
  obtain ⟨ha, rfl⟩ := hp
  rw [if_pos rfl]
  exact hf a ha

theorem FailsWith.get_bind {f : Nat → Writer ε σ β} (hf : FailsWith items hi E (f o o)) :
    FailsWith items hi E ((MonadState.get >>= f) o) :=
  FailsWith.nil_bind (FailsWith.pure _) Puts.get fun _ ho => ho ▸ hf

/-- The first step that lays down anything. -/
theorem FailsWith.first_bind {c : Writer ε σ α} {f : α → Writer ε σ β} (hsome : bs ≠ [])
    (hc : FailsWith items hi E (c o)) (hputs : Puts items o bs Q c)
    (hf : ∀ a, Q a → FailsWith items (o + bs.length) E (f a (o + bs.length))) :
    FailsWith items hi E ((c >>= f) o) := by
  refine FailsWith.bind hc hputs fun p hp => ?_
  obtain ⟨a, o'⟩ := p
  obtain ⟨ha, rfl⟩ := hp
  rw [if_neg hsome]
  exact hf a ha

/-- And each step behind it. -/
theorem FailsWith.puts_bind {c : Writer ε σ α} {f : α → Writer ε σ β}
    (hc : FailsWith items o E (c o)) (hputs : Puts items o bs Q c)
    (hf : ∀ a, Q a → FailsWith items (o + bs.length) E (f a (o + bs.length))) :
    FailsWith items o E ((c >>= f) o) := by
  refine FailsWith.bind hc hputs fun p hp => ?_
  obtain ⟨a, o'⟩ := p
  obtain ⟨ha, rfl⟩ := hp
  split
  · next hnil =>
      have h := hf a ha
      rw [hnil] at h ⊢
      exact h
  · exact hf a ha

end

/-! ## `Completes` -/

/-- Where `bs` was laid down at `o` before, the computation goes on to what is `total` at `o`
in the end. -/
def Completes (items : σ → List ι) (o : Nat) (bs total : List ι) (Q : α → Prop)
    (c : Buffered ε σ α) : Prop :=
  ∀ v, At (items v) o bs → match c v with
    | (.ok a, w) => Q a ∧ items w = overwrite (items v) o total ∧
        o + total.length ≤ (items v).length
    | (.error _, w) => KeptOutside items o (o + total.length) v w

section

variable {items : σ → List ι} {o i : Nat} {bs bs' total : List ι} {Q : α → Prop} {Q' : β → Prop}
  {c d : Buffered ε σ α} {f : α → Buffered ε σ β}

theorem Completes.mono {Q' : α → Prop} (h : Completes items o bs total Q c)
    (hq : ∀ a, Q a → Q' a) : Completes items o bs total Q' c := by
  intro v hat
  have hv := h v hat
  cases hc : c v with
  | mk x w =>
      rw [hc] at hv
      cases x with
      | error e => exact hv
      | ok a => exact ⟨hq a hv.1, hv.2⟩

theorem Completes.pure {a : α} (ha : Q a) :
    Completes items o bs bs Q (Pure.pure a : Buffered ε σ α) := by
  intro v hat
  exact ⟨ha, (overwrite_of_at hat).symm, hat.2⟩

theorem Completes.ite {p : Prop} [Decidable p] (hc : p → Completes items o bs total Q c)
    (hd : ¬ p → Completes items o bs total Q d) :
    Completes items o bs total Q (if p then c else d) := by
  split
  · next h => exact hc h
  · next h => exact hd h

/-- What completes `bs` completes it from before `bs` was laid down. -/
theorem Completes.of_overwrite {v w : σ} (hc : Completes items o bs total Q c)
    (hw : items w = overwrite (items v) o bs) (hin : o + bs.length ≤ (items v).length)
    (hle : bs.length ≤ total.length) : match c w with
      | (.ok a, u) => Q a ∧ items u = overwrite (items v) o total ∧
          o + total.length ≤ (items v).length
      | (.error _, u) => KeptOutside items o (o + total.length) v u := by
  have hat : At (items w) o bs := by
    rw [hw]
    exact at_overwrite hin
  have hlen : (items w).length = (items v).length := by
    rw [hw, length_overwrite hin]
  have hrun := hc w hat
  cases h : c w with
  | mk x u =>
      rw [h] at hrun
      cases x with
      | error e =>
          exact ((keptOutside_of_overwrite hw (Or.inr hin)).mono (Nat.le_refl o)
            (Nat.add_le_add_left hle o)).trans hrun
      | ok a =>
          obtain ⟨hq, hwrite, hend⟩ := hrun
          refine ⟨hq, ?_, hlen ▸ hend⟩
          rw [hwrite, hw, overwrite_overwrite hin hle]

/-- A step that changes some of what was laid down. -/
theorem Completes.patch_bind (hc : PutsAt items (o + i) bs' Q c) (hin : i + bs'.length ≤ bs.length)
    (hle : bs.length ≤ total.length)
    (hf : ∀ a, Q a → Completes items o (overwrite bs i bs') total Q' (f a)) :
    Completes items o bs total Q' (c >>= f) := by
  intro v hat
  have hend := hat.2
  have hv := hc v
  have hkept := hc.keptOutside v
  have hlen : (overwrite bs i bs').length = bs.length := length_overwrite hin
  rw [buffered_bind_apply]
  cases h : c v with
  | mk x w =>
      rw [h] at hv hkept
      cases x with
      | error e => exact hkept.mono (by omega) (by omega)
      | ok a =>
          obtain ⟨hq, hwrite, -⟩ := hv
          have hw : items w = overwrite (items v) o (overwrite bs i bs') := by
            rw [← overwrite_inside hend hin, overwrite_of_at hat]
            exact hwrite
          exact (hf a hq).of_overwrite hw (by omega) (by omega)

/-- A step that lays down more, behind what is there. -/
theorem Completes.append_bind (hc : PutsAt items (o + bs.length) bs' Q c)
    (hle : (bs ++ bs').length ≤ total.length)
    (hf : ∀ a, Q a → Completes items o (bs ++ bs') total Q' (f a)) :
    Completes items o bs total Q' (c >>= f) := by
  intro v hat
  have hend := hat.2
  have hv := hc v
  have hkept := hc.keptOutside v
  have hlen : (bs ++ bs').length = bs.length + bs'.length := List.length_append
  rw [buffered_bind_apply]
  cases h : c v with
  | mk x w =>
      rw [h] at hv hkept
      cases x with
      | error e => exact hkept.mono (by omega) (by omega)
      | ok a =>
          obtain ⟨hq, hwrite, hin⟩ := hv
          have hw : items w = overwrite (items v) o (bs ++ bs') := by
            rw [← overwrite_append, overwrite_of_at hat]
            exact hwrite
          refine (hf a hq).of_overwrite hw ?_ hle
          rcases hin with rfl | hin
          · simpa using hend
          · omega

/-- After a step that lays down nothing. -/
theorem Completes.nil_bind (hc : PutsAt items o [] Q c)
    (hf : ∀ a, Q a → Completes items o bs total Q' (f a)) :
    Completes items o bs total Q' (c >>= f) := by
  intro v hat
  have hv := hc v
  have hkept := hc.keptOutside v
  rw [buffered_bind_apply]
  cases h : c v with
  | mk x w =>
      rw [h] at hv hkept
      cases x with
      | error e => exact hkept.mono (Nat.le_refl o) (by simp)
      | ok a =>
          obtain ⟨hq, hwrite, -⟩ := hv
          rw [overwrite_nil] at hwrite
          have hrun := hf a hq w (hwrite ▸ hat)
          dsimp only
          cases h' : f a w with
          | mk y u =>
              rw [h'] at hrun
              cases y with
              | error e =>
                  have hsame : KeptOutside items o (o + total.length) v w :=
                    hkept.mono (Nat.le_refl o) (by simp)
                  exact hsame.trans hrun
              | ok b =>
                  rw [hwrite] at hrun
                  exact hrun

/-- The first step lays down what the rest completes. -/
theorem Completes.puts_bind (hc : PutsAt items o bs Q c) (h0 : bs ≠ [])
    (hle : bs.length ≤ total.length)
    (hf : ∀ a, Q a → Completes items o bs total Q' (f a)) :
    PutsAt items o total Q' (c >>= f) := by
  intro v
  have hv := hc v
  have hkept := hc.keptOutside v
  rw [buffered_bind_apply]
  cases h : c v with
  | mk x w =>
      rw [h] at hv hkept
      cases x with
      | error e => exact hkept.mono (Nat.le_refl o) (by omega)
      | ok a =>
          obtain ⟨hq, hwrite, hin⟩ := hv
          have hrun := (hf a hq).of_overwrite hwrite (hin.resolve_left h0) hle
          dsimp only
          cases h' : f a w with
          | mk y u =>
              rw [h'] at hrun
              cases y with
              | error e => exact hrun
              | ok b => exact ⟨hrun.1, hrun.2.1, Or.inr hrun.2.2⟩

end

/-! ## `Within` -/

/-- Whatever the computation answers, it touches nothing outside, and an answer is as `Q`
says. -/
def Within (items : σ → List ι) (lo hi : Nat) (Q : α → Prop) (c : Buffered ε σ α) : Prop :=
  ∀ v, KeptOutside items lo hi v (c v).2 ∧ ∀ a, (c v).1 = .ok a → Q a

section

variable {items : σ → List ι} {o lo hi : Nat} {bs : List ι} {Q : α → Prop} {Q' : β → Prop}
  {c d : Buffered ε σ α} {f : α → Buffered ε σ β}

theorem PutsAt.within (h : PutsAt items o bs Q c) (hlo : lo ≤ o) (hhi : o + bs.length ≤ hi) :
    Within items lo hi Q c := by
  intro v
  refine ⟨(h.keptOutside v).mono hlo hhi, fun a ha => ?_⟩
  have hv := h v
  cases hc : c v with
  | mk x w =>
      rw [hc] at hv ha
      cases x with
      | error e => cases ha
      | ok b =>
          injection ha with ha
          exact ha ▸ hv.1

/-- A step that works inside what there is leaves the room behind it. -/
theorem SucceedsTo.within_bind (hc : SucceedsTo items hi c) (hin : Within items lo o Q c)
    (hf : ∀ a, Q a → SucceedsTo items hi (f a)) : SucceedsTo items hi (c >>= f) := by
  intro v hroom
  obtain ⟨a, w, hrun⟩ := hc v hroom
  obtain ⟨hkept, hq⟩ := hin v
  rw [hrun] at hkept hq
  rw [buffered_bind_apply, hrun]
  exact hf a (hq a rfl) w (hkept.1 ▸ hroom)

theorem Within.pure {a : α} (ha : Q a) : Within items lo hi Q (Pure.pure a : Buffered ε σ α) :=
  fun v => ⟨KeptOutside.refl items lo hi v, fun b hb => by injection hb with hb; exact hb ▸ ha⟩

theorem Within.throw (e : ε) : Within items lo hi Q (throw e : Buffered ε σ α) :=
  fun v => ⟨KeptOutside.refl items lo hi v, nofun⟩

theorem Within.bind (hc : Within items lo hi Q c) (hf : ∀ a, Q a → Within items lo hi Q' (f a)) :
    Within items lo hi Q' (c >>= f) := by
  intro v
  obtain ⟨hkept, hq⟩ := hc v
  rw [buffered_bind_apply]
  cases hv : c v with
  | mk x w =>
      rw [hv] at hkept hq
      cases x with
      | error e => exact ⟨hkept, nofun⟩
      | ok a =>
          obtain ⟨hkept', hq'⟩ := hf a (hq a rfl) w
          exact ⟨hkept.trans hkept', hq'⟩

theorem Within.throw_bind (e : ε) (f : α → Buffered ε σ β) :
    Within items lo hi Q' (MonadExcept.throw e >>= f) :=
  fun v => ⟨KeptOutside.refl items lo hi v, nofun⟩

theorem Within.ite {p : Prop} [Decidable p] (hc : p → Within items lo hi Q c)
    (hd : ¬ p → Within items lo hi Q d) : Within items lo hi Q (if p then c else d) := by
  split
  · next h => exact hc h
  · next h => exact hd h

end

end OffsetWriter

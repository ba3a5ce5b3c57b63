import Mathlib.Data.List.Basic

/-!
# Scans over an indexed sequence

A loop `for (i = k; i < len; i++)` looks at one item after the other until it
breaks, fails or has come to the end, and what it carries from round to round
depends on the items it has passed. A read past the end is no step of a program:
it answers an error that the caller chooses for it.

A scan over indices is a scan over the list that is left. What it does is then
said by cutting that list into the items that were passed, the one that ended
the loop, and the rest.
-/

namespace IndexScan

variable {ε β σ : Type}

/-- The item at an index. -/
def readAt (outside : ε) (l : List β) (i : Nat) : Except ε β :=
  match l[i]? with
  | some b => .ok b
  | none => .error outside

/-- As many items from an index on. -/
def readRange (outside : ε) (l : List β) (i n : Nat) : Except ε (List β) :=
  if i + n ≤ l.length then .ok ((l.drop i).take n) else .error outside

/-- What the body of a loop does with an item. -/
inductive Step (ε σ : Type)
  | stop
  | next (s : σ)
  | fail (e : ε)

/-- The loop, with the rounds that are left. It answers where it broke, if it did. -/
def scan (outside : ε) (step : Nat → β → σ → Step ε σ) (l : List β) :
    Nat → Nat → σ → Except ε (Option Nat × σ)
  | 0, _, s => .ok (none, s)
  | n + 1, i, s => do
      let b ← readAt outside l i
      match step i b s with
      | .stop => .ok (some i, s)
      | .next s => scan outside step l n (i + 1) s
      | .fail e => .error e

/-- The same loop over the items themselves. -/
def scanList (step : Nat → β → σ → Step ε σ) : Nat → σ → List β → Except ε (Option Nat × σ)
  | _, s, [] => .ok (none, s)
  | i, s, b :: rest =>
      match step i b s with
      | .stop => .ok (some i, s)
      | .next s => scanList step (i + 1) s rest
      | .fail e => .error e

/-- The loop passes these items and carries `s'` behind them. -/
def Passes (step : Nat → β → σ → Step ε σ) : Nat → σ → List β → σ → Prop
  | _, s, [], s' => s = s'
  | i, s, b :: rest, s' => ∃ t, step i b s = .next t ∧ Passes step (i + 1) t rest s'

/-- The body of a loop that breaks at some items, passes others and fails at the rest. -/
def breakStep (e : ε) (breaks passes : β → Bool) (_ : Nat) (b : β) (_ : Unit) : Step ε Unit :=
  if breaks b then .stop else if passes b then .next () else .fail e

section

variable {outside : ε} {l front rest : List β} {step : Nat → β → σ → Step ε σ} {i n : Nat} {b : β}
  {s s' : σ} {e : ε}

/-! ## Reading -/

theorem readAt_append : readAt outside (front ++ b :: rest) front.length = .ok b := by
  simp [readAt]

theorem readAt_past (h : l.length ≤ i) : readAt outside l i = .error outside := by
  rw [readAt, List.getElem?_eq_none h]

theorem readAt_inside (h : i < l.length) : readAt outside l i = .ok l[i] := by
  rw [readAt, List.getElem?_eq_getElem h]

theorem readRange_append {mid : List β} :
    readRange outside (front ++ (mid ++ rest)) front.length mid.length = .ok mid := by
  rw [readRange, if_pos (by simp), List.drop_left, List.take_left]

theorem readRange_inside (h : i + n ≤ l.length) :
    readRange outside l i n = .ok ((l.drop i).take n) := if_pos h

/-! ## Scanning -/

/-- A scan of fewer items than there are looks at no others. -/
theorem scan_eq_take (h : n + i ≤ l.length) :
    scan outside step l n i s = scanList step i s ((l.drop i).take n) := by
  induction n generalizing i s with
  | zero => rfl
  | succ n ih =>
      have hlt : i < l.length := by omega
      rw [List.drop_eq_getElem_cons hlt, List.take_succ_cons, scan, readAt_inside hlt, scanList]
      show (match step i l[i] s with
        | .stop => _
        | .next s => _
        | .fail e => _) = _
      cases step i l[i] s with
      | stop => rfl
      | next t => exact ih (by omega)
      | fail e => rfl

theorem scan_eq (h : n + i = l.length) :
    scan outside step l n i s = scanList step i s (l.drop i) := by
  rw [scan_eq_take (Nat.le_of_eq h), List.take_of_length_le (by rw [List.length_drop]; omega)]

theorem Passes.scanList_append (h : Passes step i s front s') :
    scanList step i s (front ++ rest) = scanList step (i + front.length) s' rest := by
  induction front generalizing i s with
  | nil =>
      cases h
      rfl
  | cons b front ih =>
      obtain ⟨t, hb, hfront⟩ := h
      rw [List.cons_append, scanList, hb, List.length_cons, Nat.add_comm front.length,
        ← Nat.add_assoc]
      exact ih hfront

theorem Passes.scanList_end (h : Passes step i s l s') : scanList step i s l = .ok (none, s') := by
  rw [← List.append_nil l, h.scanList_append]
  rfl

theorem Passes.scanList_stop (h : Passes step i s front s')
    (hb : step (i + front.length) b s' = .stop) :
    scanList step i s (front ++ b :: rest) = .ok (some (i + front.length), s') := by
  rw [h.scanList_append, scanList, hb]

theorem Passes.scanList_fail (h : Passes step i s front s')
    (hb : step (i + front.length) b s' = .fail e) :
    scanList step i s (front ++ b :: rest) = .error e := by
  rw [h.scanList_append, scanList, hb]

theorem Passes.append {s'' : σ} (h : Passes step i s front s')
    (hrest : Passes step (i + front.length) s' rest s'') : Passes step i s (front ++ rest) s'' := by
  induction front generalizing i s with
  | nil =>
      cases h
      exact hrest
  | cons b front ih =>
      obtain ⟨t, hb, hfront⟩ := h
      refine ⟨t, hb, ih hfront ?_⟩
      rwa [List.length_cons, Nat.add_comm front.length, ← Nat.add_assoc] at hrest

/-- What ends a loop: the last item, or one that it does not pass. -/
theorem exists_passes (step : Nat → β → σ → Step ε σ) (i : Nat) (s : σ) (l : List β) :
    ∃ front s', Passes step i s front s' ∧
      (l = front ∨ ∃ b rest, l = front ++ b :: rest ∧
        (step (i + front.length) b s' = .stop ∨ ∃ e, step (i + front.length) b s' = .fail e)) := by
  induction l generalizing i s with
  | nil => exact ⟨[], s, rfl, Or.inl rfl⟩
  | cons b l ih =>
      cases hb : step i b s with
      | stop => exact ⟨[], s, rfl, Or.inr ⟨b, l, rfl, Or.inl hb⟩⟩
      | fail e => exact ⟨[], s, rfl, Or.inr ⟨b, l, rfl, Or.inr ⟨e, hb⟩⟩⟩
      | next t =>
          obtain ⟨front, s', hfront, hend⟩ := ih (i + 1) t
          refine ⟨b :: front, s', ⟨t, hb, hfront⟩, ?_⟩
          have hlength : i + (b :: front).length = i + 1 + front.length := by
            rw [List.length_cons]
            omega
          rw [hlength]
          rcases hend with rfl | ⟨c, rest, rfl, hc⟩
          · exact Or.inl rfl
          · exact Or.inr ⟨c, rest, rfl, hc⟩

/-- The invariant rule: where each round keeps `I` or fails with `E`, so does the loop. -/
theorem scanList_invariant {I : σ → Prop} {E : ε → Prop}
    (hnext : ∀ j b s t, j < i + l.length → I s → step j b s = .next t → I t)
    (hfail : ∀ j b s e, j < i + l.length → I s → step j b s = .fail e → E e) (hs : I s) :
    (∃ r s', scanList step i s l = .ok (r, s') ∧ I s') ∨ ∃ e, scanList step i s l = .error e ∧ E e := by
  induction l generalizing i s with
  | nil => exact Or.inl ⟨none, s, rfl, hs⟩
  | cons b l ih =>
      have hlt : i < i + (b :: l).length := by simp
      have hlength : i + 1 + l.length = i + (b :: l).length := by
        rw [List.length_cons]
        omega
      rw [scanList]
      cases hb : step i b s with
      | stop => exact Or.inl ⟨some i, s, rfl, hs⟩
      | fail e => exact Or.inr ⟨e, rfl, hfail i b s e hlt hs hb⟩
      | next t =>
          exact ih (fun j b s t hj => hnext j b s t (hlength ▸ hj))
            (fun j b s e hj => hfail j b s e (hlength ▸ hj)) (hnext i b s t hlt hs hb)

/-- A loop that carries nothing passes what each of its rounds passes. -/
theorem passes_of_forall {step : Nat → β → Unit → Step ε Unit}
    (h : ∀ b ∈ l, ∀ j, step j b () = .next ()) : Passes step i () l () := by
  induction l generalizing i with
  | nil => rfl
  | cons b l ih =>
      exact ⟨(), h b List.mem_cons_self i, ih fun c hc => h c (List.mem_cons_of_mem b hc)⟩

/-! ## Loops that only break or fail -/

variable {breaks passes : β → Bool}

theorem breakStep_passes_iff :
    Passes (breakStep e breaks passes) i () l () ↔
      ∀ c ∈ l, breaks c = false ∧ passes c = true := by
  constructor
  · intro h
    induction l generalizing i with
    | nil => exact List.forall_mem_nil _
    | cons c l ih =>
        obtain ⟨t, hc, hrest⟩ := h
        rw [List.forall_mem_cons]
        refine ⟨?_, ih hrest⟩
        unfold breakStep at hc
        split at hc
        · cases hc
        · next hbreaks =>
            split at hc
            · next hpasses => exact ⟨Bool.eq_false_iff.mpr hbreaks, hpasses⟩
            · cases hc
  · intro h
    refine passes_of_forall fun c hc j => ?_
    obtain ⟨hbreaks, hpasses⟩ := h c hc
    rw [breakStep, hbreaks, if_neg Bool.false_ne_true, hpasses, if_pos rfl]

/-- Such a loop breaks behind the items it passed. -/
theorem scanList_breakStep_stop (hfront : ∀ c ∈ front, breaks c = false ∧ passes c = true)
    (hb : breaks b = true) :
    scanList (breakStep e breaks passes) i () (front ++ b :: rest) =
      .ok (some (i + front.length), ()) :=
  (breakStep_passes_iff.mpr hfront).scanList_stop (by rw [breakStep, if_pos hb])

theorem scanList_breakStep_fail (hfront : ∀ c ∈ front, breaks c = false ∧ passes c = true)
    (hbreaks : breaks b = false) (hpasses : passes b = false) :
    scanList (breakStep e breaks passes) i () (front ++ b :: rest) = .error e :=
  (breakStep_passes_iff.mpr hfront).scanList_fail (by
    rw [breakStep, hbreaks, if_neg Bool.false_ne_true, hpasses, if_neg Bool.false_ne_true])

theorem scanList_breakStep_end (h : ∀ c ∈ l, breaks c = false ∧ passes c = true) :
    scanList (breakStep e breaks passes) i () l = .ok (none, ()) :=
  (breakStep_passes_iff.mpr h).scanList_end

/-- It breaks, comes to the end, or fails. -/
theorem scanList_breakStep_cases (e : ε) (breaks passes : β → Bool) (i : Nat) (l : List β) :
    (∃ front b rest, l = front ++ b :: rest ∧ (∀ c ∈ front, breaks c = false ∧ passes c = true) ∧
        breaks b = true ∧
        scanList (breakStep e breaks passes) i () l = .ok (some (i + front.length), ())) ∨
      ((∀ c ∈ l, breaks c = false ∧ passes c = true) ∧
        scanList (breakStep e breaks passes) i () l = .ok (none, ())) ∨
      ((∃ b ∈ l, passes b = false) ∧ scanList (breakStep e breaks passes) i () l = .error e) := by
  obtain ⟨front, ⟨⟩, hfront, hend⟩ := exists_passes (breakStep e breaks passes) i () l
  have hpass := breakStep_passes_iff.mp hfront
  rcases hend with rfl | ⟨b, rest, rfl, hb⟩
  · exact Or.inr (Or.inl ⟨hpass, hfront.scanList_end⟩)
  · cases hbreaks : breaks b with
    | true => exact Or.inl ⟨front, b, rest, rfl, hpass, hbreaks, scanList_breakStep_stop hpass hbreaks⟩
    | false =>
        cases hpasses : passes b with
        | true =>
            -- such an item is passed
            rw [breakStep, hbreaks, if_neg Bool.false_ne_true, hpasses, if_pos rfl] at hb
            rcases hb with hb | ⟨e', hb⟩ <;> cases hb
        | false =>
            exact Or.inr (Or.inr ⟨⟨b, List.mem_append_cons_self, hpasses⟩,
              scanList_breakStep_fail hpass hbreaks hpasses⟩)

end

end IndexScan

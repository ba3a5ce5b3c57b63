import RobotRaconteurLite.Scanners

/-!
# Node ids from strings

The three forms are told apart by their length, and the characters that are not
digits are checked one by one. The digits are not: a pair goes through `strtoul`,
which stops at what is no digit, and what is left of a pair is at most 255.
-/

namespace RobotRaconteurLite

/-! ## The forms -/

/-- Groups with hyphens between them. -/
def joinGroups (a b c d e : List UInt8) : List UInt8 :=
  a ++ 45 :: (b ++ 45 :: (c ++ 45 :: (d ++ 45 :: e)))

/-- `8-4-4-4-12`. -/
def hyphenated (digits : List UInt8) : List UInt8 :=
  joinGroups (digits.take 8) ((digits.drop 8).take 4) ((digits.drop 12).take 4)
    ((digits.drop 16).take 4) (digits.drop 20)

/-- A string in one of the documented forms, as far as its length and what is around its 32
characters go. -/
def NodeidForm (srcStr digits : List UInt8) : Prop :=
  digits.length = 32 ∧
    (srcStr = digits ∨ srcStr = hyphenated digits ∨ srcStr = 123 :: (hyphenated digits ++ [125]))

/-- Four hyphens where they should be. -/
def Hyphens (s : List UInt8) : Prop :=
  s.getD 8 0 = 45 ∧ s.getD 13 0 = 45 ∧ s.getD 18 0 = 45 ∧ s.getD 23 0 = 45

/-- What is between them. -/
def groupsOf (s : List UInt8) : List UInt8 :=
  s.take 8 ++ ((s.drop 9).take 4 ++ ((s.drop 14).take 4 ++ ((s.drop 19).take 4 ++
    (s.drop 24).take 12)))

section

variable {a b c d e rest : List UInt8}

theorem hyphens_joinGroups (ha : a.length = 8) (hb : b.length = 4) (hc : c.length = 4)
    (hd : d.length = 4) : Hyphens (joinGroups a b c d e ++ rest) := by
  refine ⟨?_, ?_, ?_, ?_⟩ <;>
    simp [joinGroups, List.getElem?_append, ha, hb, hc, hd]

theorem groupsOf_joinGroups (ha : a.length = 8) (hb : b.length = 4) (hc : c.length = 4)
    (hd : d.length = 4) (he : e.length = 12) :
    groupsOf (joinGroups a b c d e ++ rest) = a ++ (b ++ (c ++ (d ++ e))) := by
  have drop_short {l : List UInt8} {n : Nat} (h : l.length ≤ n) : l.drop n = [] :=
    List.drop_eq_nil_of_le h
  simp [groupsOf, joinGroups, List.drop_append, ha, hb, hc, hd, he,
    drop_short (show a.length ≤ 9 by omega), drop_short (show a.length ≤ 14 by omega),
    drop_short (show a.length ≤ 19 by omega), drop_short (show a.length ≤ 24 by omega),
    drop_short (show b.length ≤ 5 by omega), drop_short (show b.length ≤ 10 by omega),
    drop_short (show b.length ≤ 15 by omega), drop_short (show c.length ≤ 5 by omega),
    drop_short (show c.length ≤ 10 by omega), drop_short (show d.length ≤ 5 by omega)]

theorem hyphenated_groups (ha : a.length = 8) (hb : b.length = 4) (hc : c.length = 4)
    (hd : d.length = 4) : hyphenated (a ++ (b ++ (c ++ (d ++ e)))) = joinGroups a b c d e := by
  have drop_short {l : List UInt8} {n : Nat} (h : l.length ≤ n) : l.drop n = [] :=
    List.drop_eq_nil_of_le h
  simp [hyphenated, List.drop_append, ha, hb, hc, hd,
    drop_short (show a.length ≤ 12 by omega), drop_short (show a.length ≤ 16 by omega),
    drop_short (show a.length ≤ 20 by omega), drop_short (show b.length ≤ 8 by omega),
    drop_short (show b.length ≤ 12 by omega), drop_short (show c.length ≤ 8 by omega)]

end

theorem joinGroups_of_digits (digits : List UInt8) :
    digits.take 8 ++ ((digits.drop 8).take 4 ++ ((digits.drop 12).take 4 ++
      ((digits.drop 16).take 4 ++ digits.drop 20))) = digits := by
  have step (n m : Nat) (h : m = n + 4) :
      (digits.drop n).take 4 ++ digits.drop m = digits.drop n := by
    rw [h, ← List.drop_drop, List.take_append_drop]
  rw [step 16 20 rfl, step 12 16 rfl, step 8 12 rfl, List.take_append_drop]

/-- A list around a character of it. -/
theorem cut_at {s : List UInt8} {i : Nat} {x : UInt8} (hi : i < s.length) (hx : s.getD i 0 = x) :
    s.take i ++ x :: s.drop (i + 1) = s := by
  have hget : s[i] = x := by
    rw [← hx, List.getD_eq_getElem?_getD, List.getElem?_eq_getElem hi, Option.getD_some]
  rw [← hget, ← List.drop_eq_getElem_cons hi, List.take_append_drop]

theorem getD_drop (s : List UInt8) (n i : Nat) : (s.drop n).getD i 0 = s.getD (n + i) 0 := by
  rw [List.getD_eq_getElem?_getD, List.getD_eq_getElem?_getD, List.getElem?_drop]

/-- A string with the hyphens is its groups joined. -/
theorem joinGroups_groups {s : List UInt8} (hlength : s.length = 36) (h : Hyphens s) :
    joinGroups (s.take 8) ((s.drop 9).take 4) ((s.drop 14).take 4) ((s.drop 19).take 4)
      ((s.drop 24).take 12) = s := by
  obtain ⟨h8, h13, h18, h23⟩ := h
  have next (n m : Nat) (hm : m = n + 5) (hlt : n + 4 < s.length) (hx : s.getD (n + 4) 0 = 45) :
      (s.drop n).take 4 ++ 45 :: s.drop m = s.drop n := by
    have hcut := cut_at (s := s.drop n) (i := 4) (x := 45) (by rw [List.length_drop]; omega)
      (by rw [getD_drop]; exact hx)
    rwa [List.drop_drop, show n + (4 + 1) = m by omega] at hcut
  have hlast : (s.drop 24).take 12 = s.drop 24 := by
    rw [List.take_of_length_le]
    rw [List.length_drop]
    omega
  rw [joinGroups, hlast, next 19 24 rfl (by omega) h23, next 14 19 rfl (by omega) h18,
    next 9 14 rfl (by omega) h13, cut_at (by omega) h8]

theorem length_groupsOf {s : List UInt8} (hlength : 36 ≤ s.length) : (groupsOf s).length = 32 := by
  simp only [groupsOf, List.length_append, List.length_take, List.length_drop]
  omega

theorem hyphenated_groupsOf {s : List UInt8} (hlength : s.length = 36) (h : Hyphens s) :
    hyphenated (groupsOf s) = s := by
  rw [groupsOf, hyphenated_groups, joinGroups_groups hlength h]
  all_goals
    simp only [List.length_take, List.length_drop]
    omega

theorem hyphens_hyphenated {digits : List UInt8} (h : digits.length = 32) (rest : List UInt8) :
    Hyphens (hyphenated digits ++ rest) := by
  refine hyphens_joinGroups ?_ ?_ ?_ ?_ <;>
    simp [h]

theorem groupsOf_hyphenated {digits : List UInt8} (h : digits.length = 32) (rest : List UInt8) :
    groupsOf (hyphenated digits ++ rest) = digits := by
  rw [hyphenated, groupsOf_joinGroups, joinGroups_of_digits] <;>
    simp [h]

theorem length_hyphenated {digits : List UInt8} (h : digits.length = 32) :
    (hyphenated digits).length = 36 := by
  simp [hyphenated, joinGroups, h]

instance (s : List UInt8) : Decidable (Hyphens s) :=
  inferInstanceAs (Decidable (s.getD 8 0 = 45 ∧ s.getD 13 0 = 45 ∧ s.getD 18 0 = 45 ∧ s.getD 23 0 = 45))

theorem not_hyphens_iff {s : List UInt8} : (s.getD 8 0 ≠ 45 ∨ s.getD 13 0 ≠ 45 ∨ s.getD 18 0 ≠ 45 ∨
    s.getD 23 0 ≠ 45) ↔ ¬ Hyphens s := by
  rw [Hyphens, not_and_or, not_and_or, not_and_or]

theorem nodeidDigits_hyphenated {s : List UInt8} (h : s.length = 36) :
    nodeidDigits s = if Hyphens s then .ok (groupsOf s) else .error .invalidArgument := by
  have h32 : s.length ≠ 32 := by omega
  have h38 : s.length ≠ 38 := by omega
  rw [nodeidDigits, if_neg h32, if_pos (Or.inl h), if_neg fun hb => h38 hb.1]
  simp only [if_neg h38, not_hyphens_iff, ite_not]
  rfl

theorem nodeidDigits_braced {s : List UInt8} (h : s.length = 38) :
    nodeidDigits s = if s.getD 0 0 = 123 ∧ s.getD 37 0 = 125 ∧ Hyphens (s.drop 1) then
      .ok (groupsOf (s.drop 1)) else .error .invalidArgument := by
  have h32 : s.length ≠ 32 := by omega
  rw [nodeidDigits, if_neg h32, if_pos (Or.inr h)]
  simp only [if_pos h, not_hyphens_iff, ite_not]
  by_cases hbraces : s.getD 0 0 = 123 ∧ s.getD 37 0 = 125
  · obtain ⟨hopen, hclose⟩ := hbraces
    rw [if_neg fun hb => hb.2.elim (fun h0 => h0 hopen) fun h37 => h37 hclose]
    simp only [hopen, hclose, true_and]
    rfl
  · rw [if_pos ⟨h, not_and_or.mp hbraces⟩, if_neg fun hb => hbraces ⟨hb.1, hb.2.1⟩]

theorem hyphens_append {t : List UInt8} (h : t.length = 36) (rest : List UInt8) :
    Hyphens (t ++ rest) ↔ Hyphens t := by
  simp [Hyphens, List.getElem?_append, h]

theorem groupsOf_append {t : List UInt8} (h : t.length = 36) (rest : List UInt8) :
    groupsOf (t ++ rest) = groupsOf t := by
  have hlast : (t.drop 24).take 12 = t.drop 24 := by
    rw [List.take_of_length_le]
    rw [List.length_drop]
    omega
  simp [groupsOf, List.take_append, List.drop_append, h, hlast]

/-- Braces around 36 characters. -/
theorem braced_iff {s : List UInt8} (h : s.length = 38) :
    s.getD 0 0 = 123 ∧ s.getD 37 0 = 125 ↔ ∃ t, t.length = 36 ∧ s = 123 :: (t ++ [125]) := by
  constructor
  · rintro ⟨hopen, hclose⟩
    have hfirst := cut_at (by omega) hopen
    have hlast : (s.drop 1).take 36 ++ 125 :: (s.drop 1).drop 37 = s.drop 1 :=
      cut_at (by rw [List.length_drop]; omega) (by rw [getD_drop]; exact hclose)
    refine ⟨(s.drop 1).take 36, by simp [h], ?_⟩
    conv => lhs; rw [← hfirst, ← hlast]
    simp [h]
  · rintro ⟨t, ht, rfl⟩
    refine ⟨rfl, ?_⟩
    simp [ht]

/-- The length says which of the forms it can be, and then the form is checked. -/
theorem nodeidDigits_cases (srcStr : List UInt8) :
    (∃ digits, NodeidForm srcStr digits ∧ nodeidDigits srcStr = .ok digits) ∨
      (∀ digits, ¬ NodeidForm srcStr digits) ∧ nodeidDigits srcStr = .error .invalidArgument := by
  have hlength {digits : List UInt8} (h : NodeidForm srcStr digits) :
      srcStr = digits ∧ srcStr.length = 32 ∨
        srcStr = hyphenated digits ∧ srcStr.length = 36 ∨
        srcStr = 123 :: (hyphenated digits ++ [125]) ∧ srcStr.length = 38 := by
    obtain ⟨h32, rfl | rfl | rfl⟩ := h
    · exact Or.inl ⟨rfl, h32⟩
    · exact Or.inr (Or.inl ⟨rfl, length_hyphenated h32⟩)
    · exact Or.inr (Or.inr ⟨rfl, by simp [length_hyphenated h32]⟩)
  by_cases h32 : srcStr.length = 32
  · exact Or.inl ⟨srcStr, ⟨h32, Or.inl rfl⟩, by rw [nodeidDigits, if_pos h32]⟩
  by_cases h36 : srcStr.length = 36
  · have hnot38 : srcStr.length ≠ 38 := by omega
    rw [nodeidDigits_hyphenated h36]
    by_cases hhyphens : Hyphens srcStr
    · exact Or.inl ⟨groupsOf srcStr, ⟨length_groupsOf (by omega), Or.inr (Or.inl
        (hyphenated_groupsOf h36 hhyphens).symm)⟩, if_pos hhyphens⟩
    · refine Or.inr ⟨fun digits h => hhyphens ?_, if_neg hhyphens⟩
      rcases hlength h with ⟨-, h'⟩ | ⟨heq, -⟩ | ⟨-, h'⟩
      · omega
      · have hform := hyphens_hyphenated h.1 []
        rwa [List.append_nil, ← heq] at hform
      · omega
  by_cases h38 : srcStr.length = 38
  · rw [nodeidDigits_braced h38]
    by_cases hbraced : srcStr.getD 0 0 = 123 ∧ srcStr.getD 37 0 = 125 ∧ Hyphens (srcStr.drop 1)
    · obtain ⟨t, ht, heq⟩ := (braced_iff h38).mp ⟨hbraced.1, hbraced.2.1⟩
      have hhyphens : Hyphens (t ++ [125]) := by
        have hdrop := hbraced.2.2
        rwa [heq, List.drop_one, List.tail_cons] at hdrop
      have ht' := hyphenated_groupsOf ht ((hyphens_append ht [125]).mp hhyphens)
      refine Or.inl ⟨groupsOf t, ⟨length_groupsOf (by omega), Or.inr (Or.inr ?_)⟩, ?_⟩
      · rw [ht', heq]
      · rw [if_pos hbraced, heq, List.drop_one, List.tail_cons, groupsOf_append ht]
    · refine Or.inr ⟨fun digits h => hbraced ?_, if_neg hbraced⟩
      rcases hlength h with ⟨-, h'⟩ | ⟨-, h'⟩ | ⟨heq, -⟩
      · omega
      · omega
      · have hbraces := (braced_iff h38).mpr ⟨hyphenated digits, length_hyphenated h.1, heq⟩
        have hhyphens := hyphens_hyphenated h.1 [125]
        refine ⟨hbraces.1, hbraces.2, ?_⟩
        rwa [heq, List.drop_one, List.tail_cons]
  · refine Or.inr ⟨fun digits h => ?_, ?_⟩
    · rcases hlength h with ⟨-, h'⟩ | ⟨-, h'⟩ | ⟨-, h'⟩ <;> omega
    · rw [nodeidDigits, if_neg h32, if_neg (not_or.mpr ⟨h36, h38⟩)]

/-! ## Pairs of digits -/

theorem hexValue?_bounds {c : UInt8} {n : Nat} (h : hexValue? c = some n) :
    n < 16 ∧ 48 ≤ c.toNat := by
  simp only [hexValue?, UInt8.le_iff_toNat_le] at h
  split at h
  · next hc =>
      obtain ⟨h1, h2⟩ := hc
      cases h
      simp at h1 h2
      omega
  · split at h
    · next hc =>
        obtain ⟨h1, h2⟩ := hc
        cases h
        simp at h1 h2
        omega
    · split at h
      · next hc =>
          obtain ⟨h1, h2⟩ := hc
          cases h
          simp at h1 h2
          omega
      · cases h

/-- So many digits stay below the power of sixteen. -/
theorem foldl_hexValue_lt (digits : List UInt8) (acc : Nat) :
    digits.foldl (fun n c => n * 16 + (hexValue? c).getD 0) acc < (acc + 1) * 16 ^ digits.length := by
  induction digits generalizing acc with
  | nil => simp
  | cons c digits ih =>
      have hvalue : (hexValue? c).getD 0 < 16 := by
        cases hc : hexValue? c with
        | none => simp
        | some n => exact (hexValue?_bounds hc).1
      rw [List.foldl_cons, List.length_cons, Nat.pow_succ, Nat.mul_comm (16 ^ digits.length),
        ← Nat.mul_assoc]
      refine Nat.lt_of_lt_of_le (ih _) (Nat.mul_le_mul_right _ ?_)
      omega

theorem length_splitSign_le (text : List UInt8) : (splitSign text).2.length ≤ text.length := by
  unfold splitSign
  split <;> simp

theorem length_skipHexPrefix_le (text : List UInt8) : (skipHexPrefix text).length ≤ text.length := by
  unfold skipHexPrefix
  split
  · split <;> simp
  · exact Nat.le_refl _

/-- Two characters are never out of range. -/
theorem strtoul16_no_errno {ulongBits : Nat} (hbits : 32 ≤ ulongBits) {text : List UInt8}
    (h : text.length ≤ 2) : (strtoul16 ulongBits text).2 = false := by
  have hspace := (List.dropWhile_sublist isSpace (l := text)).length_le
  have hsign := length_splitSign_le (text.dropWhile isSpace)
  have hprefix := length_skipHexPrefix_le (splitSign (text.dropWhile isSpace)).2
  have hdigits := (List.takeWhile_sublist isHexDigit
    (l := skipHexPrefix (splitSign (text.dropWhile isSpace)).2)).length_le
  have hlt := foldl_hexValue_lt
    ((skipHexPrefix (splitSign (text.dropWhile isSpace)).2).takeWhile isHexDigit) 0
  have hpow : 16 ^ ((skipHexPrefix (splitSign (text.dropWhile isSpace)).2).takeWhile
      isHexDigit).length ≤ 2 ^ ulongBits :=
    calc 16 ^ _ ≤ 16 ^ 2 := Nat.pow_le_pow_right (by decide) (by omega)
      _ ≤ 2 ^ 32 := by decide
      _ ≤ 2 ^ ulongBits := Nat.pow_le_pow_right (by decide) hbits
  rw [strtoul16]
  dsimp only
  rw [if_neg (by omega)]

/-- The value of two digits. -/
def pairValue (a b : UInt8) : Nat := 16 * (hexValue? a).getD 0 + (hexValue? b).getD 0

theorem isHexDigit_bounds {c : UInt8} (h : isHexDigit c = true) :
    isSpace c = false ∧ c ≠ 0 ∧ c ≠ 43 ∧ c ≠ 45 := by
  obtain ⟨n, hn⟩ := Option.isSome_iff_exists.mp h
  have hle := (hexValue?_bounds hn).2
  have hne {d : UInt8} (hd : d.toNat < 48) : c ≠ d := fun heq => by
    rw [heq] at hle
    omega
  refine ⟨?_, hne (by decide), hne (by decide), hne (by decide)⟩
  have hnot13 : ¬ c ≤ 13 := by
    rw [UInt8.le_iff_toNat_le]
    simp
    omega
  simp [isSpace, hne (d := 32) (by decide), hnot13]

theorem strtoul16_pair {ulongBits : Nat} (hbits : 32 ≤ ulongBits) {a b : UInt8}
    (ha : isHexDigit a = true) (hb : isHexDigit b = true) :
    (strtoul16 ulongBits [a, b]).1 = pairValue a b := by
  obtain ⟨hspace, -, hplus, hminus⟩ := isHexDigit_bounds ha
  have hsign : splitSign [a, b] = (false, [a, b]) := by
    unfold splitSign
    split
    · next heq => exact absurd (List.cons.inj heq).1 hplus
    · next heq => exact absurd (List.cons.inj heq).1 hminus
    · rfl
  have hvalues : (hexValue? a).getD 0 < 16 ∧ (hexValue? b).getD 0 < 16 := by
    obtain ⟨n, hn⟩ := Option.isSome_iff_exists.mp ha
    obtain ⟨m, hm⟩ := Option.isSome_iff_exists.mp hb
    rw [hn, hm]
    exact ⟨(hexValue?_bounds hn).1, (hexValue?_bounds hm).1⟩
  have hpow : 2 ^ 32 ≤ 2 ^ ulongBits := Nat.pow_le_pow_right (by decide) hbits
  rw [strtoul16, List.dropWhile_cons_of_neg (by simp [hspace]), hsign]
  simp only [skipHexPrefix, List.takeWhile_cons, ha, hb, if_true, List.takeWhile_nil,
    List.foldl_cons, List.foldl_nil, pairValue]
  rw [if_neg (by omega)]
  simp only [Bool.false_eq_true, if_false]
  omega

/-- The byte that `strtoul` has for each pair of characters. -/
def pairBytes (ulongBits : Nat) : List UInt8 → List UInt8
  | a :: b :: rest =>
      UInt8.ofNat (strtoul16 ulongBits ([a, b].takeWhile (· ≠ 0))).1 :: pairBytes ulongBits rest
  | _ => []

/-- The byte that each pair of digits stands for. -/
def hexBytes : List UInt8 → List UInt8
  | a :: b :: rest => UInt8.ofNat (pairValue a b) :: hexBytes rest
  | _ => []

theorem pairBytes_eq {ulongBits : Nat} (hbits : 32 ≤ ulongBits) (digits : List UInt8)
    (h : ∀ c ∈ digits, isHexDigit c = true) : pairBytes ulongBits digits = hexBytes digits := by
  induction digits using hexBytes.induct with
  | case1 a b rest ih =>
      have ha := h a (by simp)
      have hb := h b (by simp)
      have hpair : [a, b].takeWhile (· ≠ 0) = [a, b] := by
        simp [(isHexDigit_bounds ha).2.1, (isHexDigit_bounds hb).2.1]
      rw [pairBytes, hexBytes, hpair, strtoul16_pair hbits ha hb, ih fun c hc => h c (by simp [hc])]
  | case2 rest hshort =>
      cases rest with
      | nil => rfl
      | cons a rest =>
          cases rest with
          | nil => rfl
          | cons b rest => exact absurd rfl (hshort a b rest)

/-- The loop does not fail. -/
theorem nodeidParseLoop_eq {ulongBits : Nat} (hbits : 32 ≤ ulongBits) {buf : List UInt8}
    (hbuf : buf.length = 32) {n i : Nat} (hn : i + n = 16) (dst : NodeId) :
    ∃ dst', nodeidParseLoop ulongBits buf n i dst = (.ok (), dst') ∧
      dst'.data = dst.data.take i ++ pairBytes ulongBits (buf.drop (2 * i)) := by
  induction n generalizing i dst with
  | zero =>
      refine ⟨dst, rfl, ?_⟩
      have hlength := dst.length_data
      rw [List.drop_eq_nil_of_le (by omega), pairBytes, List.append_nil,
        List.take_of_length_le (by omega)]
      intro a b rest h
      cases h
  | succ n ih =>
      have hlength := dst.length_data
      have hcut : buf.drop (2 * i) = buf.getD (2 * i) 0 :: buf.getD (2 * i + 1) 0 ::
          buf.drop (2 * (i + 1)) := by
        rw [List.drop_eq_getElem_cons (by omega), List.drop_eq_getElem_cons (i := 2 * i + 1) (by omega),
          List.getD_eq_getElem?_getD, List.getD_eq_getElem?_getD, List.getElem?_eq_getElem (by omega),
          List.getElem?_eq_getElem (by omega), Option.getD_some, Option.getD_some]
        rfl
      have hshort : ([buf.getD (2 * i) 0, buf.getD (2 * i + 1) 0].takeWhile (· ≠ 0)).length ≤ 2 :=
        (List.takeWhile_sublist _).length_le
      have herrno := strtoul16_no_errno hbits hshort
      obtain ⟨dst', hrest, hdata⟩ := ih (i := i + 1) (by omega)
        (dst.setByte i (UInt8.ofNat (strtoul16 ulongBits
          ([buf.getD (2 * i) 0, buf.getD (2 * i + 1) 0].takeWhile (· ≠ 0))).1))
      refine ⟨dst', ?_, ?_⟩
      · rw [nodeidParseLoop]
        dsimp only
        rw [herrno, if_neg (by simp)]
        exact hrest
      · rw [hdata, hcut, pairBytes, NodeId.setByte, List.take_add_one, List.take_set_of_le (Nat.le_refl i),
          List.getElem?_set_self (by omega), Option.toList_some, List.append_assoc]
        rfl

/-- A string in one of the forms is parsed, digits or not. -/
theorem nodeidParse_form {ulongBits : Nat} (hbits : 32 ≤ ulongBits) {srcStr digits : List UInt8}
    (hdigits : nodeidDigits srcStr = .ok digits) (hlength : digits.length = 32) (dst : NodeId) :
    (nodeidParse ulongBits srcStr dst).1 = .ok () ∧
      (nodeidParse ulongBits srcStr dst).2.data = pairBytes ulongBits digits := by
  obtain ⟨dst', hloop, hdata⟩ := nodeidParseLoop_eq hbits hlength (n := 16) (i := 0) rfl dst
  rw [nodeidParse, hdigits]
  dsimp only
  rw [hloop]
  exact ⟨rfl, hdata⟩

theorem NodeidForm.digits_eq {srcStr digits : List UInt8} (h : NodeidForm srcStr digits) :
    digits = if srcStr.length = 32 then srcStr
      else if srcStr.length = 36 then groupsOf srcStr else groupsOf (srcStr.drop 1) := by
  obtain ⟨h32, rfl | rfl | rfl⟩ := h
  · rw [if_pos h32]
  · have hgroups := groupsOf_hyphenated h32 []
    rw [List.append_nil] at hgroups
    rw [length_hyphenated h32, if_neg (by decide), if_pos rfl, hgroups]
  · have hlength : (123 :: (hyphenated digits ++ [125])).length = 38 := by
      rw [List.length_cons, List.length_append, length_hyphenated h32]
      rfl
    rw [hlength, if_neg (by decide), if_neg (by decide), List.drop_one, List.tail_cons,
      groupsOf_hyphenated h32]

theorem NodeidForm.unique {srcStr digits digits' : List UInt8} (h : NodeidForm srcStr digits)
    (h' : NodeidForm srcStr digits') : digits = digits' :=
  h.digits_eq.trans h'.digits_eq.symm

/-- What a parse of a node id promises. -/
structure ParsesNodeid (srcStr : List UInt8) (dst : NodeId) (r : Result Unit × NodeId) : Prop where
  succeeds_iff : r.1 = .ok () ↔ ∃ digits, NodeidForm srcStr digits ∧ ∀ c ∈ digits, isHexDigit c = true
  bytes_eq : ∀ digits, NodeidForm srcStr digits → r.1 = .ok () → r.2.data = hexBytes digits
  unchanged : r.1 ≠ .ok () → r.2 = dst

/-- A node id is parsed right if and only if the string is in none of the forms, or the characters
that should be digits are. -/
theorem nodeidParse_parses_iff {ulongBits : Nat} (hbits : 32 ≤ ulongBits) (srcStr : List UInt8)
    (dst : NodeId) :
    ParsesNodeid srcStr dst (nodeidParse ulongBits srcStr dst) ↔
      ∀ digits, NodeidForm srcStr digits → ∀ c ∈ digits, isHexDigit c = true := by
  rcases nodeidDigits_cases srcStr with ⟨digits, hform, hdigits⟩ | ⟨hnone, hdigits⟩
  · obtain ⟨hok, hdata⟩ := nodeidParse_form hbits hdigits hform.1 dst
    constructor
    · intro hparses digits' hform'
      obtain ⟨digits'', hform'', hhex⟩ := hparses.succeeds_iff.mp hok
      rwa [hform'.unique hform'']
    · intro hhex
      refine ⟨iff_of_true hok ⟨digits, hform, hhex digits hform⟩, fun digits' hform' _ => ?_,
        fun hfails => absurd hok hfails⟩
      rw [hdata, hform'.unique hform, pairBytes_eq hbits digits (hhex digits hform)]
  · have hfails : nodeidParse ulongBits srcStr dst = (.error .invalidArgument, dst) := by
      rw [nodeidParse, hdigits]
    refine iff_of_true ?_ fun digits hform => absurd hform (hnone digits)
    rw [hfails]
    exact ⟨iff_of_false (fun h => by cases h) fun ⟨digits, hform, _⟩ => hnone digits hform,
      fun digits hform => absurd hform (hnone digits), fun _ => rfl⟩

/-- The form in braces. -/
theorem nodeidParse_parses_braced :
    ParsesNodeid (123 :: (hyphenated (List.replicate 32 0x41) ++ [125])) NodeId.any
      (nodeidParse 32 (123 :: (hyphenated (List.replicate 32 0x41) ++ [125])) NodeId.any) := by
  have hform : NodeidForm (123 :: (hyphenated (List.replicate 32 0x41) ++ [125]))
      (List.replicate 32 0x41) := ⟨rfl, Or.inr (Or.inr rfl)⟩
  refine (nodeidParse_parses_iff (by decide) _ _).mpr fun digits hdigits c hc => ?_
  rw [hdigits.unique hform] at hc
  rw [List.eq_of_mem_replicate hc]
  rfl

/-- Thirty-two times the letter `z` is the node id of zeros. -/
theorem nodeidParse_accepts_letters :
    nodeidParse 64 (List.replicate 32 0x7a) NodeId.any = (.ok (), NodeId.any) ∧
      ¬ ParsesNodeid (List.replicate 32 0x7a) NodeId.any
        (nodeidParse 64 (List.replicate 32 0x7a) NodeId.any) := by
  have hruns : nodeidParse 64 (List.replicate 32 0x7a) NodeId.any = (.ok (), NodeId.any) := by
    decide +kernel
  refine ⟨hruns, fun hparses => ?_⟩
  obtain ⟨digits, hform, hhex⟩ := hparses.succeeds_iff.mp (by rw [hruns])
  have hself : NodeidForm (List.replicate 32 0x7a) (List.replicate 32 0x7a) := ⟨rfl, Or.inl rfl⟩
  rw [hform.unique hself] at hhex
  exact absurd (hhex 0x7a (by simp)) (by decide)

end RobotRaconteurLite

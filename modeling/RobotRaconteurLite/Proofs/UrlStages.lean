import Mathlib.Data.List.TakeWhile
import RobotRaconteurLite.Url

/-!
# The stages of the URL parser

Every stage starts behind what the one before it has taken. What it does is said
here of a URL that is cut at that place: the scheme is what stands before `://`,
a host ends where a port or a path may start, a port ends where the path starts.
A stage that finds nothing of the kind rejects the URL.
-/

namespace RobotRaconteurLite

open IndexScan

/-! ## Characters and texts -/

theorem notMem_of_forall {p : UInt8 → Bool} {text : List UInt8} {c : UInt8}
    (h : ∀ b ∈ text, p b = true) (hc : p c = false) : c ∉ text := by
  intro hmem
  rw [h c hmem] at hc
  cases hc

section

variable {size : Nat} {text : List UInt8}

theorem stackText_of_lt (h : text.length < size) (hzero : 0 ∉ text) :
    stackText size text = .ok text := by
  obtain ⟨n, hn⟩ : ∃ n, size - text.length = n + 1 := ⟨size - text.length - 1, by omega⟩
  have hne : ∀ c ∈ text, decide (c ≠ 0) = true := by
    intro c hc
    exact decide_eq_true fun h0 => hzero (h0 ▸ hc)
  rw [stackText, hn, if_pos (by simp), List.takeWhile_append_of_pos hne, List.replicate_succ,
    List.takeWhile_cons_of_neg (by simp), List.append_nil]

theorem stackText_defined (h : text.length < size) : ∃ t, stackText size text = .ok t := by
  have hmem : (0 : UInt8) ∈ text ++ List.replicate (size - text.length) 0 := by
    rw [List.mem_append, List.mem_replicate]
    exact Or.inr ⟨by omega, rfl⟩
  exact ⟨_, if_pos hmem⟩

/-- A text that fills its buffer has no end. -/
theorem stackText_full (h : text.length = size) (hzero : 0 ∉ text) :
    stackText size text = .error .undefined := by
  have hmem : (0 : UInt8) ∉ text ++ List.replicate (size - text.length) 0 := by
    rw [h, Nat.sub_self, List.replicate_zero, List.append_nil]
    exact hzero
  exact if_neg hmem

end

theorem splitSign_of_numeric {text : List UInt8} (h : ∀ c ∈ text, isNumericChar c = true) :
    splitSign text = (false, text) := by
  cases text with
  | nil => rfl
  | cons c text =>
      have h43 : c ≠ 43 := by
        rintro rfl
        exact absurd (h 43 List.mem_cons_self) (by decide)
      have h45 : c ≠ 45 := by
        rintro rfl
        exact absurd (h 45 List.mem_cons_self) (by decide)
      unfold splitSign
      split
      · next heq => exact absurd (List.cons.inj heq).1 h43
      · next heq => exact absurd (List.cons.inj heq).1 h45
      · rfl

theorem strtol10_of_numeric {longMax : Nat} {digits : List UInt8}
    (h : ∀ c ∈ digits, isNumericChar c = true) :
    strtol10 longMax digits =
      if digits = [] ∨ decimalValue digits > longMax then none else some ↑(decimalValue digits) := by
  have hspace : digits.dropWhile isSpace = digits := by
    cases digits with
    | nil => rfl
    | cons c text =>
        refine List.dropWhile_cons_of_neg fun hc => ?_
        have hnum := h c List.mem_cons_self
        simp only [isSpace, Bool.or_eq_true, beq_iff_eq, Bool.and_eq_true, decide_eq_true_eq,
          UInt8.le_iff_toNat_le] at hc
        simp only [isNumericChar, Bool.and_eq_true, decide_eq_true_eq,
          UInt8.le_iff_toNat_le] at hnum
        have h48 : (48 : UInt8).toNat = 48 := rfl
        have h13 : (13 : UInt8).toNat = 13 := rfl
        rcases hc with rfl | hc
        · exact absurd hnum.1 (by decide)
        · omega
  rw [strtol10, hspace, splitSign_of_numeric h]
  dsimp only
  rw [List.takeWhile_eq_self_iff.mpr h]
  by_cases hnil : digits = []
  · rw [if_pos hnil, if_pos (Or.inl hnil)]
  · rw [if_neg hnil, if_neg Bool.false_ne_true]
    by_cases hlong : decimalValue digits > longMax
    · rw [if_pos hlong, if_pos (Or.inr hlong)]
    · rw [if_neg hlong, if_neg (not_or.mpr ⟨hnil, hlong⟩)]

section

variable {platform : UrlPlatform} {front rest : List UInt8}

/-- A scan that starts where the string is cut. -/
theorem scan_cut {σ : Type} {step : Nat → UInt8 → σ → Step Status σ} {s : σ} :
    scan .undefined step (front ++ rest) ((front ++ rest).length - front.length) front.length s =
      scanList step front.length s rest := by
  rw [scan_eq (by rw [List.length_append]; omega), List.drop_left]

theorem scan_cut_cons {σ : Type} {step : Nat → UInt8 → σ → Step Status σ} {s : σ} {b : UInt8} :
    scan .undefined step (front ++ b :: rest) ((front ++ b :: rest).length - (front.length + 1))
      (front.length + 1) s = scanList step (front.length + 1) s rest := by
  have hcut : front ++ b :: rest = (front ++ [b]) ++ rest := by
    rw [List.append_assoc, List.singleton_append]
  have hlength : front.length + 1 = (front ++ [b]).length := by
    rw [List.length_append, List.length_singleton]
  rw [hcut, hlength, scan_cut]

/-- A string is cut behind what satisfies a test. -/
theorem exists_span (p : UInt8 → Bool) (text : List UInt8) :
    ∃ front rest, text = front ++ rest ∧ (∀ c ∈ front, p c = true) ∧
      ∀ b ∈ rest.head?, p b = false := by
  refine ⟨text.takeWhile p, text.dropWhile p, List.takeWhile_append_dropWhile.symm, ?_, ?_⟩
  · exact fun c hc => List.mem_takeWhile_imp hc
  · intro b hb
    have hnot := List.head?_dropWhile_not p text
    rw [Option.mem_def.mp hb] at hnot
    exact hnot

/-! ## The scheme -/

theorem readAt_behind (front rest : List UInt8) (a b c : UInt8) :
    readAt Status.undefined (front ++ a :: b :: c :: rest) (front.length + 1) = .ok b ∧
      readAt Status.undefined (front ++ a :: b :: c :: rest) (front.length + 2) = .ok c := by
  simp [readAt]

/-- The URL starts with a scheme. -/
def IsScheme (scheme : List UInt8) : Prop :=
  scheme ≠ [] ∧ ∀ c ∈ scheme, isSchemeChar c = true

theorem urlSchemeStep_passes (url : List UInt8) {scheme : List UInt8}
    (h : ∀ c ∈ scheme, isSchemeChar c = true) :
    Passes (urlSchemeStep url) 0 () scheme () := by
  refine passes_of_forall fun c hc j => ?_
  have hcolon : c ≠ 58 := by
    rintro rfl
    exact absurd (h 58 hc) (by decide)
  rw [urlSchemeStep, if_neg hcolon, if_pos (h c hc)]

theorem urlParseScheme_eq {scheme : List UInt8} (h : IsScheme scheme) (rest : List UInt8) :
    urlParseScheme (scheme ++ 58 :: 47 :: 47 :: rest) = .ok (scheme.length + 3) := by
  obtain ⟨hne, hchars⟩ := h
  have hpos : scheme.length ≠ 0 := fun h0 => hne (List.length_eq_zero_iff.mp h0)
  obtain ⟨hfirst, hsecond⟩ := readAt_behind scheme rest 58 47 47
  have hstop : urlSchemeStep (scheme ++ 58 :: 47 :: 47 :: rest) (0 + scheme.length) 58 () =
      .stop := by
    rw [Nat.zero_add, urlSchemeStep, if_pos rfl, if_neg hpos, if_neg (by simp), hfirst]
    dsimp only
    rw [if_neg (by simp), hsecond]
    rfl
  rw [urlParseScheme, scan_eq (Nat.add_zero _), List.drop_zero,
    (urlSchemeStep_passes _ hchars).scanList_stop hstop, Nat.zero_add]
  rfl

/-- A URL without a scheme is rejected. -/
theorem urlParseScheme_cases (url : List UInt8) :
    (∃ scheme rest, url = scheme ++ 58 :: 47 :: 47 :: rest ∧ IsScheme scheme) ∨
      urlParseScheme url = .error .invalidArgument := by
  obtain ⟨scheme, rest, rfl, hchars, hrest⟩ := exists_span isSchemeChar url
  have hpasses := urlSchemeStep_passes (scheme ++ rest) hchars
  rw [urlParseScheme, scan_eq (Nat.add_zero _), List.drop_zero]
  cases rest with
  | nil =>
      refine Or.inr ?_
      rw [List.append_nil] at hpasses ⊢
      rw [hpasses.scanList_end]
      rfl
  | cons b rest =>
      have hb : isSchemeChar b = false := hrest b rfl
      -- where the loop fails the URL is rejected
      suffices h : (∃ rest', b :: rest = 58 :: 47 :: 47 :: rest' ∧ scheme ≠ []) ∨
          urlSchemeStep (scheme ++ b :: rest) (0 + scheme.length) b () = .fail .invalidArgument by
        rcases h with ⟨rest', heq, hne⟩ | hfail
        · exact Or.inl ⟨scheme, rest', by rw [heq], hne, hchars⟩
        · refine Or.inr ?_
          rw [hpasses.scanList_fail hfail]
          rfl
      rw [Nat.zero_add, urlSchemeStep]
      by_cases hcolon : b = 58
      · subst hcolon
        rw [if_pos rfl]
        by_cases hne : scheme = []
        · rw [hne, List.length_nil, if_pos rfl]
          exact Or.inr rfl
        · rw [if_neg fun h0 => hne (List.length_eq_zero_iff.mp h0)]
          match rest with
          | [] =>
              rw [if_pos (by simp)]
              exact Or.inr rfl
          | [c] =>
              rw [if_pos (by simp)]
              exact Or.inr rfl
          | c :: c' :: rest =>
              obtain ⟨hfirst, hsecond⟩ := readAt_behind scheme rest 58 c c'
              rw [if_neg (by simp), hfirst, hsecond]
              by_cases hc : c = 47
              · by_cases hc' : c' = 47
                · exact Or.inl ⟨rest, by rw [hc, hc'], hne⟩
                · simp [hc, hc']
              · simp [hc]
      · rw [if_neg hcolon, hb]
        exact Or.inr rfl

/-! ## The port -/

theorem not_isPathStart_of_numeric {c : UInt8} (h : isNumericChar c = true) :
    isPathStart c = false := by
  rw [Bool.eq_false_iff]
  intro hstart
  rw [isPathStart, Bool.or_eq_true, beq_iff_eq, beq_iff_eq] at hstart
  rcases hstart with rfl | rfl <;> exact absurd h (by decide)

theorem parsePort_none {c : UInt8} (h : isPathStart c = true) :
    parsePort platform (front ++ c :: rest) front.length = .ok (0, front.length) := by
  rw [parsePort, readAt_append]
  exact if_pos h

theorem uint16_ofInt_natCast (n : Nat) : UInt16.ofInt ↑n = UInt16.ofNat n := by
  have hmod : ((n : Int) % 2 ^ 16).toNat = n % 2 ^ 16 := by omega
  rw [UInt16.ofInt, hmod, UInt16.ofNat_mod_size]

/-- The digits that are a port for the parser. -/
def IsPortText (platform : UrlPlatform) (digits : List UInt8) : Prop :=
  digits.length < 80 ∧ digits ≠ [] ∧ decimalValue digits ≤ platform.longMax ∧
    decimalValue digits ≤ 0xFFFFF

instance (platform : UrlPlatform) (digits : List UInt8) : Decidable (IsPortText platform digits) :=
  inferInstanceAs (Decidable (_ ∧ _))

/-- The digits of a port are a number, or no port. -/
theorem parsePortNumber_eq (platform : UrlPlatform) (front rest : List UInt8)
    {digits : List UInt8} (hdigits : ∀ c ∈ digits, isNumericChar c = true) :
    parsePortNumber platform (front ++ (digits ++ rest)) front.length
        (front.length + digits.length) =
      if IsPortText platform digits then .ok (UInt16.ofNat (decimalValue digits))
      else .error .invalidArgument := by
  rw [parsePortNumber, Nat.add_sub_cancel_left, readRange_append]
  by_cases hlong : digits.length ≥ 80
  · rw [if_pos hlong, if_neg fun h : IsPortText platform digits => by have := h.1; omega]
    rfl
  · rw [if_neg hlong]
    dsimp only [bind, Except.bind]
    rw [stackText_of_lt (by omega) (notMem_of_forall hdigits rfl)]
    dsimp only
    rw [strtol10_of_numeric hdigits]
    by_cases hnone : digits = [] ∨ decimalValue digits > platform.longMax
    · rw [if_pos hnone, if_neg fun h : IsPortText platform digits => hnone.elim h.2.1 (by
        have := h.2.2.1
        omega)]
      rfl
    · rw [if_neg hnone]
      rw [not_or, not_lt] at hnone
      dsimp only
      by_cases hlarge : decimalValue digits > 0xFFFFF
      · rw [if_pos (by omega), if_neg fun h : IsPortText platform digits => by
          have := h.2.2.2
          omega]
        rfl
      · rw [if_neg (by omega), if_pos ⟨by omega, hnone.1, hnone.2, by omega⟩, uint16_ofInt_natCast]
        rfl

theorem parsePort_digits {digits : List UInt8} {d : UInt8}
    (hdigits : ∀ c ∈ digits, isNumericChar c = true) (hd : isPathStart d = true) :
    parsePort platform (front ++ 58 :: (digits ++ d :: rest)) front.length =
      if IsPortText platform digits then
        .ok (UInt16.ofNat (decimalValue digits), front.length + 1 + digits.length)
      else .error .invalidArgument := by
  have hcut : front ++ 58 :: (digits ++ d :: rest) = (front ++ [58]) ++ (digits ++ d :: rest) := by
    rw [List.append_assoc, List.singleton_append]
  have hnumber := parsePortNumber_eq platform (front ++ [58]) (d :: rest) hdigits
  rw [← hcut, List.length_append, List.length_singleton] at hnumber
  rw [parsePort, readAt_append]
  dsimp only [bind, Except.bind]
  rw [if_neg (by decide), if_pos rfl, scan_cut_cons, scanList_breakStep_stop
    (fun c hc => ⟨not_isPathStart_of_numeric (hdigits c hc), hdigits c hc⟩) hd]
  dsimp only
  rw [hnumber]
  by_cases hport : IsPortText platform digits
  · rw [if_pos hport, if_pos hport]
    rfl
  · rw [if_neg hport, if_neg hport]

theorem parsePort_notNumeric {digits : List UInt8} {c : UInt8}
    (hdigits : ∀ c ∈ digits, isNumericChar c = true) (hstart : isPathStart c = false)
    (hnumeric : isNumericChar c = false) :
    parsePort platform (front ++ 58 :: (digits ++ c :: rest)) front.length =
      .error .invalidArgument := by
  rw [parsePort, readAt_append]
  dsimp only [bind, Except.bind]
  rw [if_neg (by decide), if_pos rfl, scan_cut_cons, scanList_breakStep_fail
    (fun c hc => ⟨not_isPathStart_of_numeric (hdigits c hc), hdigits c hc⟩) hstart hnumeric]

/-! ## The host -/

theorem not_isHostEnd_of_hostname {c : UInt8} (h : isHostnameChar c = true) :
    isHostEnd c = false := by
  rw [Bool.eq_false_iff]
  intro hend
  rw [isHostEnd, isPathStart, Bool.or_eq_true, Bool.or_eq_true, beq_iff_eq, beq_iff_eq,
    beq_iff_eq] at hend
  rcases hend with rfl | rfl | rfl <;> exact absurd h (by decide)

section

variable {host : List UInt8} {d : UInt8}

theorem hostname_passes (hhost : ∀ c ∈ host, isHostnameChar c = true) :
    ∀ c ∈ host, isHostEnd c = false ∧ isHostnameChar c = true :=
  fun c hc => ⟨not_isHostEnd_of_hostname (hhost c hc), hhost c hc⟩

theorem urlParseHostname_long (hhost : ∀ c ∈ host, isHostnameChar c = true)
    (hd : isHostEnd d = true) (hlength : host.length > 120) :
    urlParseHostname platform (front ++ (host ++ d :: rest)) front.length =
      .error .invalidArgument := by
  rw [urlParseHostname, scan_cut, scanList_breakStep_stop (hostname_passes hhost) hd]
  dsimp only [bind, Except.bind]
  rw [Nat.add_sub_cancel_left, if_pos hlength]
  rfl

/-- A host name that fills its buffer is read on behind it. -/
theorem urlParseHostname_full (hhost : ∀ c ∈ host, isHostnameChar c = true)
    (hd : isHostEnd d = true) (hlength : host.length = 120) :
    urlParseHostname platform (front ++ (host ++ d :: rest)) front.length =
      .error .undefined := by
  rw [urlParseHostname, scan_cut, scanList_breakStep_stop (hostname_passes hhost) hd]
  dsimp only [bind, Except.bind]
  rw [Nat.add_sub_cancel_left, if_neg (by omega), readRange_append]
  dsimp only
  rw [stackText_full hlength (notMem_of_forall hhost rfl)]

theorem urlParseHostname_short (platform : UrlPlatform) (front rest : List UInt8)
    (hhost : ∀ c ∈ host, isHostnameChar c = true)
    (hd : isHostEnd d = true) (hlength : host.length < 120) :
    ∃ sinAddr flags, urlParseHostname platform (front ++ (host ++ d :: rest)) front.length =
      (parsePort platform (front ++ (host ++ d :: rest)) (front.length + host.length)).map
        fun r => ⟨.ip4 sinAddr r.1, flags, r.2⟩ := by
  rw [urlParseHostname, scan_cut, scanList_breakStep_stop (hostname_passes hhost) hd]
  dsimp only [bind, Except.bind]
  rw [Nat.add_sub_cancel_left, if_neg (by omega), readRange_append]
  dsimp only
  rw [stackText_of_lt hlength (notMem_of_forall hhost rfl)]
  dsimp only
  cases parsePort platform (front ++ (host ++ d :: rest)) (front.length + host.length) with
  | error e => exact ⟨[], 0, rfl⟩
  | ok r => exact ⟨_, _, rfl⟩

/-- A host name ends where a port or a path may start, or the URL is rejected. -/
theorem urlParseHostname_cases (platform : UrlPlatform) (front rest : List UInt8) :
    (∃ host d tail, rest = host ++ d :: tail ∧ (∀ c ∈ host, isHostnameChar c = true) ∧
        isHostEnd d = true) ∨
      urlParseHostname platform (front ++ rest) front.length = .error .invalidArgument := by
  rcases scanList_breakStep_cases Status.invalidArgument isHostEnd isHostnameChar front.length rest
    with ⟨host, d, tail, rfl, hhost, hd, -⟩ | ⟨-, hscan⟩ | ⟨-, hscan⟩
  · exact Or.inl ⟨host, d, tail, rfl, fun c hc => (hhost c hc).2, hd⟩
  · refine Or.inr ?_
    rw [urlParseHostname, scan_cut, hscan]
    rfl
  · refine Or.inr ?_
    rw [urlParseHostname, scan_cut, hscan]
    rfl

end

/-! ## The host in brackets -/

/-- The loop keeps where a `%` was, if there was one. -/
theorem urlIpv6Step_passes {host : List UInt8} (hhost : ∀ c ∈ host, isIpv6Char c = true) (i s : Nat) :
    ∃ s', Passes urlIpv6Step i s host s' ∧
      (37 ∉ host ∧ s' = s ∨ 37 ∈ host ∧ i ≤ s' ∧ s' < i + host.length) := by
  induction host generalizing i s with
  | nil => exact ⟨s, rfl, Or.inl ⟨List.not_mem_nil, rfl⟩⟩
  | cons c host ih =>
      obtain ⟨hc, hrest⟩ := List.forall_mem_cons.mp hhost
      have hbracket : c ≠ 93 := by
        rintro rfl
        exact absurd hc (by decide)
      obtain ⟨s', hpasses, hs'⟩ := ih hrest (i + 1) (if c = 37 then i else s)
      refine ⟨s', ⟨_, by rw [urlIpv6Step, if_neg hbracket, if_pos hc], hpasses⟩, ?_⟩
      rw [List.length_cons, List.mem_cons]
      by_cases hscope : c = 37
      · rw [if_pos hscope] at hs'
        exact Or.inr ⟨Or.inl hscope.symm, by omega⟩
      · rw [if_neg hscope] at hs'
        rcases hs' with ⟨hnot, rfl⟩ | ⟨hmem, hle, hlt⟩
        · exact Or.inl ⟨not_or.mpr ⟨Ne.symm hscope, hnot⟩, rfl⟩
        · exact Or.inr ⟨Or.inr hmem, by omega⟩

/-- The bracket is closed, or the URL is rejected. -/
theorem urlParseIpv6_cases (platform : UrlPlatform) (front rest : List UInt8) :
    (∃ host tail, rest = host ++ 93 :: tail ∧ ∀ c ∈ host, isIpv6Char c = true) ∨
      urlParseIpv6 platform (front ++ 91 :: rest) front.length = .error .invalidArgument := by
  obtain ⟨host, tail, rfl, hhost, htail⟩ := exists_span isIpv6Char rest
  obtain ⟨s', hpasses, -⟩ := urlIpv6Step_passes hhost (front.length + 1) 0
  cases tail with
  | nil =>
      refine Or.inr ?_
      rw [List.append_nil, urlParseIpv6, scan_cut_cons, hpasses.scanList_end]
      rfl
  | cons c tail =>
      by_cases hbracket : c = 93
      · exact Or.inl ⟨host, tail, by rw [hbracket], hhost⟩
      · have hfail : urlIpv6Step (front.length + 1 + host.length) c s' =
            .fail .invalidArgument := by
          rw [urlIpv6Step, if_neg hbracket, htail c rfl]
          exact if_neg Bool.false_ne_true
        refine Or.inr ?_
        rw [urlParseIpv6, scan_cut_cons, hpasses.scanList_fail hfail]
        rfl

/-- An address that fills its buffer is read on behind it. -/
theorem urlParseIpv6_full {host tail : List UInt8} (hhost : ∀ c ∈ host, isIpv6Char c = true)
    (hscope : 37 ∉ host) (hlength : host.length = 80) (htail : tail ≠ []) :
    urlParseIpv6 platform (front ++ 91 :: (host ++ 93 :: tail)) front.length =
      .error .undefined := by
  obtain ⟨s', hpasses, ⟨-, rfl⟩ | ⟨hmem, -⟩⟩ := urlIpv6Step_passes hhost (front.length + 1) 0
  · have hpos : 0 < tail.length := List.length_pos_iff.mpr htail
    have hcut : front ++ 91 :: (host ++ 93 :: tail) = (front ++ [91]) ++ (host ++ 93 :: tail) := by
      rw [List.append_assoc, List.singleton_append]
    have hrange : readRange Status.undefined (front ++ 91 :: (host ++ 93 :: tail))
        (front.length + 1) (front.length + 1 + host.length - front.length - 1) = .ok host := by
      have hstart : front.length + 1 = (front ++ [91]).length := by
        rw [List.length_append, List.length_singleton]
      have hwidth : front.length + 1 + host.length - front.length - 1 = host.length := by omega
      rw [hwidth, hcut, hstart]
      exact readRange_append
    rw [urlParseIpv6, scan_cut_cons, hpasses.scanList_stop (by rfl)]
    dsimp only [bind, Except.bind]
    rw [if_neg (by simp; omega), if_neg (by omega), if_pos rfl, hrange]
    dsimp only
    rw [stackText_full hlength (notMem_of_forall hhost rfl)]
  · exact absurd hmem hscope

end

end RobotRaconteurLite

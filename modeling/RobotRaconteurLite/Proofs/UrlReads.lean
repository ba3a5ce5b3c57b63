import RobotRaconteurLite.Proofs.UrlStages

/-!
# What the URL parser reads

Each stage hands on an index that is inside of the string, and so the next one may
look there. The scheme does not: it may end with the string, and the parser looks
at the first character of the host all the same. And two of the three buffers on
the stack may be filled to the last byte, and then the text in them has no end.
-/

namespace RobotRaconteurLite

open IndexScan

/-- The URL is rejected, or the stage answers what satisfies `P`. -/
def Settles {α : Type} (P : α → Prop) : Result α → Prop
  | .ok a => P a
  | .error e => e = .invalidArgument

section

variable {α β : Type} {P : α → Prop} {Q : β → Prop} {r : Result α}

theorem Settles.ne_undefined (h : Settles P r) : r ≠ .error .undefined := by
  rintro rfl
  cases (h : Status.undefined = .invalidArgument)

theorem Settles.bind {f : α → Result β} (h : Settles P r) (hf : ∀ a, P a → Settles Q (f a)) :
    Settles Q (r >>= f) := by
  cases r with
  | error e => exact h
  | ok a => exact hf a h

theorem Settles.map {f : α → β} (h : Settles P r) (hf : ∀ a, P a → Q (f a)) :
    Settles Q (r.map f) := by
  cases r with
  | error e => exact h
  | ok a => exact hf a h

theorem settles_ite {c : Prop} [Decidable c] {r r' : Result α} (h : c → Settles P r)
    (h' : ¬ c → Settles P r') : Settles P (if c then r else r') := by
  split
  · next hc => exact h hc
  · next hc => exact h' hc

end

/-! ## The stages -/

section

variable {platform : UrlPlatform} {url : List UInt8} {i n : Nat}

theorem readRange_settles (h : i + n ≤ url.length) :
    Settles (fun text => text.length ≤ n) (readRange .undefined url i n) := by
  rw [readRange_inside h]
  exact List.length_take_le n _

theorem stackText_settles {size : Nat} {text : List UInt8} (h : text.length < size) :
    Settles (fun _ => True) (stackText size text) := by
  obtain ⟨t, ht⟩ := stackText_defined h
  rw [ht]
  trivial

/-- A loop that breaks or fails looks at no other items than it may. -/
theorem scan_breakStep_settles {breaks passes : UInt8 → Bool} (h : n + i ≤ url.length) :
    Settles (fun r => ∀ j, r.1 = some j → i ≤ j ∧ j < i + n)
      (scan .undefined (breakStep .invalidArgument breaks passes) url n i ()) := by
  have hlength : ((url.drop i).take n).length ≤ n := List.length_take_le n _
  rw [scan_eq_take h]
  rcases scanList_breakStep_cases Status.invalidArgument breaks passes i ((url.drop i).take n) with
    ⟨front, b, rest, hcut, -, -, hscan⟩ | ⟨-, hscan⟩ | ⟨-, hscan⟩
  · rw [hscan]
    intro j hj
    obtain rfl := Option.some.inj hj
    rw [hcut, List.length_append, List.length_cons] at hlength
    omega
  · rw [hscan]
    intro j hj
    cases hj
  · rw [hscan]
    rfl

theorem parsePortNumber_settles {portStart slashDelim : Nat} (h : portStart ≤ slashDelim)
    (hend : slashDelim ≤ url.length) :
    Settles (fun _ => True) (parsePortNumber platform url portStart slashDelim) := by
  refine settles_ite (fun _ => rfl) fun hlong => ?_
  refine (readRange_settles (by omega)).bind fun text htext => ?_
  refine (stackText_settles (by omega)).bind fun tempBuf _ => ?_
  cases strtol10 platform.longMax tempBuf with
  | none => rfl
  | some port => exact settles_ite (fun _ => rfl) fun _ => trivial

theorem parsePort_settles (h : i < url.length) :
    Settles (fun r => r.2 < url.length) (parsePort platform url i) := by
  rw [parsePort, readAt_inside h]
  refine settles_ite (fun _ => h) fun _ => settles_ite (fun _ => ?_) fun _ => rfl
  refine (scan_breakStep_settles (by omega)).bind fun r hr => ?_
  obtain ⟨found, ⟨⟩⟩ := r
  cases found with
  | none => rfl
  | some slashDelim =>
      obtain ⟨hle, hlt⟩ := hr slashDelim rfl
      exact (parsePortNumber_settles hle (by omega)).bind fun port _ =>
        (by omega : slashDelim < url.length)

theorem urlScopeId_settles {scopeDelim ipv6End : Nat} (hend : ipv6End ≤ url.length) :
    Settles (fun _ => True) (urlScopeId platform url scopeDelim ipv6End) := by
  refine settles_ite (fun _ => trivial) fun _ => settles_ite (fun _ => rfl) fun hempty =>
    settles_ite (fun _ => rfl) fun hlong => ?_
  refine (readRange_settles (by omega)).bind fun text htext => ?_
  refine (stackText_settles (by omega)).bind fun tempBuf _ => ?_
  cases strtol10 platform.longMax tempBuf with
  | none => trivial
  | some scope => trivial

theorem urlParseIpv6_settles (platform : UrlPlatform) (front : List UInt8)
    {host tail : List UInt8} (hhost : ∀ c ∈ host, isIpv6Char c = true)
    (hfits : ¬ (37 ∉ host ∧ host.length = 80 ∧ tail ≠ [])) :
    Settles (fun h => h.pathStart < (front ++ 91 :: (host ++ 93 :: tail)).length)
      (urlParseIpv6 platform (front ++ 91 :: (host ++ 93 :: tail)) front.length) := by
  have hlength : (front ++ 91 :: (host ++ 93 :: tail)).length =
      front.length + 1 + host.length + 1 + tail.length := by
    simp only [List.length_append, List.length_cons]
    omega
  obtain ⟨scopeDelim, hpasses, hscope⟩ := urlIpv6Step_passes hhost (front.length + 1) 0
  rw [urlParseIpv6, scan_cut_cons, hpasses.scanList_stop (by rfl)]
  refine settles_ite (fun _ => rfl) fun hend => settles_ite (fun _ => rfl) fun hlong => ?_
  rw [hlength] at hend
  -- the address is shorter than its buffer
  obtain ⟨addrEnd, haddrEnd, hle, hshort⟩ : ∃ addrEnd,
      (if scopeDelim = 0 then front.length + 1 + host.length else scopeDelim) = addrEnd ∧
        addrEnd ≤ front.length + 1 + host.length ∧ addrEnd - front.length - 1 < 80 := by
    refine ⟨_, rfl, ?_⟩
    rcases hscope with ⟨hnot, rfl⟩ | ⟨-, hle, hlt⟩
    · have htail : tail ≠ [] := by
        rintro rfl
        exact hend (Nat.le_refl _)
      have hfull : host.length ≠ 80 := fun h80 => hfits ⟨hnot, h80, htail⟩
      rw [if_pos rfl]
      omega
    · rw [if_neg (by omega)]
      omega
  dsimp only
  rw [haddrEnd]
  refine (readRange_settles (by omega)).bind fun text htext => ?_
  refine (stackText_settles (by omega)).bind fun tempBuf _ => ?_
  cases platform.inetPton6 tempBuf with
  | none => rfl
  | some sin6Addr =>
      exact (urlScopeId_settles (by omega)).bind fun scopeId _ =>
        (parsePort_settles (by omega)).bind fun r hr => hr

theorem urlParseHostname_settles (platform : UrlPlatform) (front tail : List UInt8)
    {host : List UInt8} {d : UInt8} (hhost : ∀ c ∈ host, isHostnameChar c = true) (hd : isHostEnd d = true)
    (hfits : host.length ≠ 120) :
    Settles (fun h => h.pathStart < (front ++ (host ++ d :: tail)).length)
      (urlParseHostname platform (front ++ (host ++ d :: tail)) front.length) := by
  rcases Nat.lt_or_gt_of_ne hfits with hshort | hlong
  · obtain ⟨sinAddr, flags, heq⟩ := urlParseHostname_short platform front tail hhost hd hshort
    have hlt : front.length + host.length < (front ++ (host ++ d :: tail)).length := by
      simp only [List.length_append, List.length_cons]
      omega
    rw [heq]
    exact (parsePort_settles hlt).map fun r hr => hr
  · rw [urlParseHostname_long hhost hd hlong]
    rfl

/-! ## The query -/

theorem urlParamIs_settles {paramStart paramEq : Nat} {name : List UInt8} (hname : name ≠ [])
    (heq : paramEq ≤ url.length) :
    Settles (fun _ => True) (urlParamIs url paramStart paramEq name) := by
  have hpos : 0 < name.length := List.length_pos_iff.mpr hname
  refine settles_ite (fun hwidth => ?_) fun _ => trivial
  exact (readRange_settles (by omega)).bind fun text _ => trivial

theorem urlFinishParam_settles (platform : UrlPlatform) (i paramStart : Nat) {paramEq : Nat}
    (query : UrlQuery) (heq : paramEq ≤ url.length) :
    Settles (fun _ => True) (urlFinishParam platform url i paramStart paramEq query) := by
  refine settles_ite (fun _ => rfl) fun _ => ?_
  refine (urlParamIs_settles (by decide) heq).bind fun isService _ => ?_
  refine (urlParamIs_settles (by decide) heq).bind fun isNodename _ => ?_
  refine (urlParamIs_settles (by decide) heq).bind fun isNodeid _ => ?_
  refine settles_ite (fun _ => ?_) fun _ => trivial
  split
  · trivial
  · rfl

theorem urlParamStep_next {i : Nat} {c : UInt8} {s t : UrlParamState} (hi : i < url.length)
    (hs : s.paramEq ≤ url.length) (h : urlParamStep platform url i c s = .next t) :
    t.paramEq ≤ url.length := by
  unfold urlParamStep at h
  split at h
  · split at h
    · cases h
    · cases h
      exact Nat.zero_le _
  · split at h
    · cases h
      exact Nat.le_of_lt hi
    · cases h
      exact hs

theorem urlParamStep_fail {i : Nat} {c : UInt8} {s : UrlParamState} {e : Status}
    (hs : s.paramEq ≤ url.length) (h : urlParamStep platform url i c s = .fail e) :
    e = .invalidArgument := by
  unfold urlParamStep at h
  split at h
  · split at h
    · next hfail =>
        have hsettles := urlFinishParam_settles platform i s.paramStart s.query hs
        rw [hfail] at hsettles
        cases h
        exact hsettles
    · cases h
  · split at h <;> cases h

theorem urlParamStep_settles {queryStart : Nat} (h : queryStart ≤ url.length) (query : UrlQuery) :
    Settles (fun r => r.2.paramEq ≤ url.length)
      (scan .undefined (urlParamStep platform url) url (url.length - queryStart) queryStart
        ⟨queryStart, 0, query⟩) := by
  have hlength : queryStart + (url.drop queryStart).length = url.length := by
    rw [List.length_drop]
    omega
  have hloop : (∃ r s', scanList (urlParamStep platform url) queryStart ⟨queryStart, 0, query⟩
      (url.drop queryStart) = .ok (r, s') ∧ s'.paramEq ≤ url.length) ∨
      ∃ e, scanList (urlParamStep platform url) queryStart ⟨queryStart, 0, query⟩
        (url.drop queryStart) = .error e ∧ e = .invalidArgument :=
    scanList_invariant (fun j b s t hj hs => urlParamStep_next (hlength ▸ hj) hs)
      (fun j b s e _ hs => urlParamStep_fail hs) (Nat.zero_le _)
  rw [scan_eq (by omega)]
  rcases hloop with ⟨r, s', hscan, hs'⟩ | ⟨e, hscan, rfl⟩
  · rw [hscan]
    exact hs'
  · rw [hscan]
    rfl

theorem urlParseQuery_settles {k : Nat} (h : k < url.length) :
    Settles (fun _ => True) (urlParseQuery platform url k) := by
  refine (scan_breakStep_settles (by omega)).bind fun r hr => ?_
  obtain ⟨found, ⟨⟩⟩ := r
  cases found with
  | none => trivial
  | some i =>
      obtain ⟨hle, hlt⟩ := hr i rfl
      exact (urlParamStep_settles (by omega) _).bind fun r hr =>
        urlFinishParam_settles platform _ _ _ hr

end

/-! ## The URL -/

/-- Where the parser reads on: behind the scheme with which the URL ends, or behind a host that
fills its buffer. -/
inductive UrlOverruns : List UInt8 → Prop
  | scheme {scheme : List UInt8} (h : IsScheme scheme) : UrlOverruns (scheme ++ [58, 47, 47])
  | hostname {scheme host tail : List UInt8} {d : UInt8} (h : IsScheme scheme)
      (hhost : ∀ c ∈ host, isHostnameChar c = true) (hlength : host.length = 120)
      (hd : isHostEnd d = true) : UrlOverruns (scheme ++ 58 :: 47 :: 47 :: (host ++ d :: tail))
  | ipv6 {scheme host tail : List UInt8} (h : IsScheme scheme)
      (hhost : ∀ c ∈ host, isIpv6Char c = true) (hscope : 37 ∉ host) (hlength : host.length = 80)
      (htail : tail ≠ []) : UrlOverruns (scheme ++ 58 :: 47 :: 47 :: 91 :: (host ++ 93 :: tail))

section

variable {platform : UrlPlatform} {front rest url : List UInt8} {k : Nat}

/-- Behind a host that settles nothing is read that is not there. -/
theorem urlParse_ne_undefined (hscheme : urlParseScheme url = .ok k)
    (hhost : Settles (fun h => h.pathStart < url.length) (urlParseHost platform url k)) :
    urlParse platform url ≠ .error .undefined := by
  have hsettles : Settles (fun _ => True) (urlParse platform url) := by
    rw [urlParse, hscheme]
    exact hhost.bind fun h hpath => (scan_breakStep_settles (by omega)).bind fun _ _ =>
      (urlParseQuery_settles hpath).bind fun _ _ => trivial
  exact hsettles.ne_undefined

theorem urlParse_of_host_error {e : Status} (hscheme : urlParseScheme url = .ok k)
    (hhost : urlParseHost platform url k = .error e) : urlParse platform url = .error e := by
  rw [urlParse, hscheme]
  dsimp only [bind, Except.bind]
  rw [hhost]

theorem urlParseHost_ipv6 : urlParseHost platform (front ++ 91 :: rest) front.length =
    urlParseIpv6 platform (front ++ 91 :: rest) front.length := by
  rw [urlParseHost, readAt_append]
  rfl

theorem urlParseHost_hostname {c : UInt8} (h : c ≠ 91) :
    urlParseHost platform (front ++ c :: rest) front.length =
      urlParseHostname platform (front ++ c :: rest) front.length := by
  rw [urlParseHost, readAt_append]
  exact if_neg h

/-- The URL cut behind its scheme. -/
theorem urlParseScheme_cut {scheme : List UInt8} (h : IsScheme scheme) (rest : List UInt8) :
    scheme ++ 58 :: 47 :: 47 :: rest = (scheme ++ [58, 47, 47]) ++ rest ∧
      urlParseScheme ((scheme ++ [58, 47, 47]) ++ rest) = .ok (scheme ++ [58, 47, 47]).length := by
  have hcut : scheme ++ 58 :: 47 :: 47 :: rest = (scheme ++ [58, 47, 47]) ++ rest := by
    rw [List.append_assoc]
    rfl
  refine ⟨hcut, ?_⟩
  rw [← hcut, urlParseScheme_eq h, List.length_append]
  rfl

/-- A character of a host name is no bracket. -/
theorem ne_bracket_of_hostname {host : List UInt8} {c d : UInt8} {tail : List UInt8}
    (hhost : ∀ c ∈ host, isHostnameChar c = true) (hd : isHostEnd d = true)
    (h : c :: rest = host ++ d :: tail) : c ≠ 91 := by
  rintro rfl
  cases host with
  | nil =>
      obtain rfl := (List.cons.inj h).1
      exact absurd hd (by decide)
  | cons b host =>
      obtain rfl := (List.cons.inj h).1
      exact absurd (hhost 91 List.mem_cons_self) (by decide)

theorem urlParse_undefined_of_overruns (h : UrlOverruns url) :
    urlParse platform url = .error .undefined := by
  cases h with
  | @scheme scheme h =>
      obtain ⟨hcut, hscheme⟩ := urlParseScheme_cut h []
      rw [List.append_nil] at hscheme
      refine urlParse_of_host_error hscheme ?_
      rw [urlParseHost, readAt_past (Nat.le_refl _)]
      rfl
  | @hostname scheme host tail d h hhost hlength hd =>
      obtain ⟨hcut, hscheme⟩ := urlParseScheme_cut h (host ++ d :: tail)
      rw [hcut]
      refine urlParse_of_host_error hscheme ?_
      rw [← urlParseHostname_full hhost hd hlength]
      cases host with
      | nil => cases hlength
      | cons c host =>
          have hcons : c :: (host ++ d :: tail) = (c :: host) ++ d :: tail := rfl
          exact urlParseHost_hostname (ne_bracket_of_hostname hhost hd hcons)
  | @ipv6 scheme host tail h hhost hscope hlength htail =>
      obtain ⟨hcut, hscheme⟩ := urlParseScheme_cut h (91 :: (host ++ 93 :: tail))
      rw [hcut]
      refine urlParse_of_host_error hscheme ?_
      rw [urlParseHost_ipv6, urlParseIpv6_full hhost hscope hlength htail]

theorem overruns_of_urlParse_undefined (h : urlParse platform url = .error .undefined) :
    UrlOverruns url := by
  rcases urlParseScheme_cases url with ⟨scheme, rest, rfl, hscheme⟩ | hinvalid
  · obtain ⟨hcut, hk⟩ := urlParseScheme_cut hscheme rest
    rw [hcut] at h
    cases rest with
    | nil => exact .scheme hscheme
    | cons c rest =>
        by_cases hbracket : c = 91
        · subst hbracket
          rcases urlParseIpv6_cases platform (scheme ++ [58, 47, 47]) rest with
            ⟨host, tail, rfl, hhost⟩ | hinvalid
          · by_cases hfull : 37 ∉ host ∧ host.length = 80 ∧ tail ≠ []
            · obtain ⟨hscope, hlength, htail⟩ := hfull
              exact .ipv6 hscheme hhost hscope hlength htail
            · have hsettles := urlParseIpv6_settles platform (scheme ++ [58, 47, 47])
                hhost hfull
              rw [← urlParseHost_ipv6] at hsettles
              exact absurd h (urlParse_ne_undefined hk hsettles)
          · rw [← urlParseHost_ipv6] at hinvalid
            rw [urlParse_of_host_error hk hinvalid] at h
            cases h
        · rcases urlParseHostname_cases platform (scheme ++ [58, 47, 47]) (c :: rest) with
            ⟨host, d, tail, hrest, hhost, hd⟩ | hinvalid
          · by_cases hfull : host.length = 120
            · rw [hrest]
              exact .hostname hscheme hhost hfull hd
            · have hsettles := urlParseHostname_settles platform
                (scheme ++ [58, 47, 47]) tail hhost hd hfull
              rw [← hrest, ← urlParseHost_hostname hbracket] at hsettles
              exact absurd h (urlParse_ne_undefined hk hsettles)
          · rw [← urlParseHost_hostname hbracket] at hinvalid
            rw [urlParse_of_host_error hk hinvalid] at h
            cases h
  · rw [urlParse, hinvalid] at h
    cases h

/-- No read is outside of the string or of a buffer on the stack, if and only if the URL does not
end with its scheme and no host fills its buffer. -/
theorem urlParse_reads_iff (platform : UrlPlatform) (url : List UInt8) :
    urlParse platform url ≠ .error .undefined ↔ ¬ UrlOverruns url :=
  not_congr ⟨overruns_of_urlParse_undefined, urlParse_undefined_of_overruns⟩

/-- A platform that resolves no name. -/
def namelessPlatform : UrlPlatform where
  fillSockaddr := fun _ => []
  inetPton := fun _ => none
  inetPton6 := fun _ => none
  ifNametoindex := fun _ => 0
  longMax := 2 ^ 63 - 1
  ulongBits := 64

/-- `rr://` is read behind its end. -/
theorem schemeAlone_overruns :
    urlParse namelessPlatform [0x72, 0x72, 58, 47, 47] = .error .undefined := by
  rfl

end

end RobotRaconteurLite

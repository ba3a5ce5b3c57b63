import RobotRaconteurLite.Proofs.UrlQuery
import RobotRaconteurLite.Proofs.UrlReads

/-!
# URLs from their parts

A URL that was put together from a scheme, a host, a port, a path and parameters is
taken apart again, each part as it was. Three things are not as they should be. The
number of a port may have 20 bits, and then the upper ones are lost; one with
leading zeros may be too long for its buffer; and a value with a `=` in it is not
seen.
-/

namespace RobotRaconteurLite

open IndexScan

/-- The parts of a URL. The path starts with `/`, or is left out in front of a query, and the
first `?` starts the query. Path and query are made of the characters that the parser lets
through: a URL with any other one behind its host is not composed of such parts. -/
structure UrlParts where
  scheme : List UInt8
  host : List UInt8
  port : Option (List UInt8)
  path : List UInt8
  query : Option (List UrlParam)
  scheme_is : IsScheme scheme
  host_chars : ∀ c ∈ host, isHostnameChar c = true
  host_short : host.length < 120
  port_chars : ∀ text ∈ port, ∀ c ∈ text, isPathStart c = false
  path_chars : ∀ c ∈ path, isPathChar c = true ∧ c ≠ 63
  path_start : path.head? = some 47 ∨ path = [] ∧ query.isSome = true

namespace UrlParts

/-- `:` and the port. -/
def portText (parts : UrlParts) : List UInt8 :=
  match parts.port with
  | none => []
  | some text => 58 :: text

/-- The path with its query. -/
def pathText (parts : UrlParts) : List UInt8 := parts.path ++ urlQueryText parts.query

/-- The scheme, up to where the host starts. -/
def schemeText (parts : UrlParts) : List UInt8 := parts.scheme ++ [58, 47, 47]

/-- The host with its port. -/
def hostText (parts : UrlParts) : List UInt8 := parts.host ++ parts.portText

def text (parts : UrlParts) : List UInt8 :=
  parts.schemeText ++ (parts.hostText ++ parts.pathText)

def params (parts : UrlParts) : List UrlParam := parts.query.getD []

/-- The number of the port, and zero where there is none. -/
def portNumber (parts : UrlParts) : Nat :=
  match parts.port with
  | none => 0
  | some text => decimalValue text

/-- The port is a decimal number of 16 bits. -/
def PortValid (parts : UrlParts) : Prop :=
  ∀ text ∈ parts.port, text ≠ [] ∧ (∀ c ∈ text, isNumericChar c = true) ∧ decimalValue text ≤ 65535

instance (parts : UrlParts) : Decidable parts.PortValid :=
  inferInstanceAs (Decidable (∀ text ∈ parts.port, text ≠ [] ∧
    (∀ c ∈ text, isNumericChar c = true) ∧ decimalValue text ≤ 65535))

/-- The last non-empty value of the parameters with a name. -/
def lastValue (parts : UrlParts) (name : List UInt8) : List UInt8 :=
  (paramValues name parts.params).getLastD []

/-- The URL is to be accepted: its port is valid, and so is every node id. -/
def Valid (platform : UrlPlatform) (parts : UrlParts) : Prop :=
  parts.PortValid ∧ ∀ value ∈ paramValues URL_PARAM_NODEID parts.params,
    NodeidAccepted platform value

instance (platform : UrlPlatform) (parts : UrlParts) : Decidable (parts.Valid platform) :=
  inferInstanceAs (Decidable (_ ∧ _))

/-- What the parse of a URL promises for its parts. -/
structure Recovered (platform : UrlPlatform) (parts : UrlParts) (r : Result Addr) : Prop where
  succeeds_iff : (∃ addr, r = .ok addr) ↔ parts.Valid platform
  port_eq : ∀ addr, r = .ok addr → ∃ (ipAddr : List UInt8) (port : UInt16),
    addr.socketAddr = platform.fillSockaddr (.ip4 ipAddr port) ∧ port.toNat = parts.portNumber
  scheme_eq : ∀ addr, r = .ok addr → addr.scheme = parts.schemeText
  httpHost_eq : ∀ addr, r = .ok addr → addr.httpHost = parts.hostText
  httpPath_eq : ∀ addr, r = .ok addr → addr.httpPath = parts.pathText
  serviceName_eq : ∀ addr, r = .ok addr → addr.serviceName = parts.lastValue URL_PARAM_SERVICE
  nodename_eq : ∀ addr, r = .ok addr → addr.nodename = parts.lastValue URL_PARAM_NODENAME

/-- The port is a number of 20 bits, with less than 80 digits. -/
def PortAdmitted (parts : UrlParts) : Prop :=
  ∀ text ∈ parts.port, text ≠ [] ∧ (∀ c ∈ text, isNumericChar c = true) ∧ text.length < 80 ∧
    decimalValue text ≤ 0xFFFFF

instance (parts : UrlParts) : Decidable parts.PortAdmitted :=
  inferInstanceAs (Decidable (∀ text ∈ parts.port, text ≠ [] ∧
    (∀ c ∈ text, isNumericChar c = true) ∧ text.length < 80 ∧ decimalValue text ≤ 0xFFFFF))

/-- The URL is one that the parser accepts: it does not see a value with a `=`. -/
def Admitted (platform : UrlPlatform) (parts : UrlParts) : Prop :=
  parts.PortAdmitted ∧ ∀ value ∈ paramValues URL_PARAM_NODEID parts.params, 61 ∉ value →
    NodeidAccepted platform value

instance (platform : UrlPlatform) (parts : UrlParts) : Decidable (parts.Admitted platform) :=
  inferInstanceAs (Decidable (_ ∧ _))

/-! ## The stages -/

section

variable (platform : UrlPlatform) (parts : UrlParts)

theorem pathText_start : ∃ d rest, parts.pathText = d :: rest ∧ isPathStart d = true := by
  unfold pathText
  rcases parts.path_start with hslash | ⟨hnil, hquery⟩
  · obtain ⟨rest, hrest⟩ := List.head?_eq_some_iff.mp hslash
    exact ⟨47, rest ++ urlQueryText parts.query, by rw [hrest]; rfl, rfl⟩
  · obtain ⟨params, hparams⟩ := Option.isSome_iff_exists.mp hquery
    exact ⟨63, urlParamsText params, by rw [hnil, hparams]; rfl, rfl⟩

theorem parsePort_eq (hlong : 0xFFFFF ≤ platform.longMax) (front : List UInt8) :
    (parts.PortAdmitted ∧
        parsePort platform (front ++ (parts.portText ++ parts.pathText)) front.length =
          .ok (UInt16.ofNat parts.portNumber, (front ++ parts.portText).length)) ∨
      (¬ parts.PortAdmitted ∧
        parsePort platform (front ++ (parts.portText ++ parts.pathText)) front.length =
          .error .invalidArgument) := by
  obtain ⟨d, rest, hpath, hd⟩ := parts.pathText_start
  unfold portText portNumber PortAdmitted
  rw [hpath]
  cases hport : parts.port with
  | none =>
      refine Or.inl ⟨fun text htext => ?_, ?_⟩
      · cases htext
      · rw [List.append_nil]
        exact parsePort_none hd
  | some text =>
      simp only [Option.mem_some_iff, forall_eq']
      by_cases hnumeric : ∀ c ∈ text, isNumericChar c = true
      · have heq : parsePort platform (front ++ (58 :: text ++ d :: rest)) front.length = _ :=
          parsePort_digits hnumeric hd
        have hlength : (front ++ 58 :: text).length = front.length + 1 + text.length := by
          rw [List.length_append, List.length_cons]
          omega
        rw [heq, hlength]
        by_cases hadmitted : text ≠ [] ∧ text.length < 80 ∧ decimalValue text ≤ 0xFFFFF
        · obtain ⟨hne, hshort, hvalue⟩ := hadmitted
          exact Or.inl ⟨⟨hne, hnumeric, hshort, hvalue⟩,
            if_pos ⟨hshort, hne, hvalue.trans hlong, hvalue⟩⟩
        · refine Or.inr ⟨fun h => hadmitted ⟨h.1, h.2.2.1, h.2.2.2⟩, if_neg fun h => ?_⟩
          exact hadmitted ⟨h.2.1, h.1, h.2.2.2⟩
      · refine Or.inr ⟨fun h => hnumeric h.2.1, ?_⟩
        -- the first character that is no digit
        obtain ⟨digits, tail, htext, hdigits, htail⟩ := exists_span isNumericChar text
        cases tail with
        | nil =>
            rw [List.append_nil] at htext
            exact absurd (htext ▸ hdigits) hnumeric
        | cons c tail =>
            have hstart := parts.port_chars text hport c (htext ▸ List.mem_append_cons_self)
            rw [htext, List.cons_append, List.append_assoc]
            exact parsePort_notNumeric hdigits hstart (htail c rfl)

theorem urlParseHost_eq (front : List UInt8) :
    ∃ sinAddr flags,
      urlParseHost platform (front ++ (parts.hostText ++ parts.pathText)) front.length =
        (parsePort platform ((front ++ parts.host) ++ (parts.portText ++ parts.pathText))
          (front ++ parts.host).length).map fun r => ⟨.ip4 sinAddr r.1, flags, r.2⟩ := by
  -- what follows the name ends it
  obtain ⟨d, rest, hrest, hd⟩ : ∃ d rest, parts.portText ++ parts.pathText = d :: rest ∧
      isHostEnd d = true := by
    unfold portText
    cases parts.port with
    | none =>
        obtain ⟨d, rest, hpath, hd⟩ := parts.pathText_start
        exact ⟨d, rest, hpath, by rw [isHostEnd, hd, Bool.or_true]⟩
    | some text => exact ⟨58, text ++ parts.pathText, rfl, rfl⟩
  obtain ⟨c, tail, hcons⟩ : ∃ c tail, parts.host ++ d :: rest = c :: tail :=
    List.exists_cons_of_ne_nil (List.append_ne_nil_of_right_ne_nil _ (List.cons_ne_nil _ _))
  obtain ⟨sinAddr, flags, heq⟩ :=
    urlParseHostname_short platform front rest parts.host_chars hd parts.host_short
  refine ⟨sinAddr, flags, ?_⟩
  rw [hostText, List.append_assoc, hrest, List.append_assoc, List.length_append, ← heq, hcons]
  exact urlParseHost_hostname (ne_bracket_of_hostname parts.host_chars hd hcons.symm)

theorem pathText_chars : ∀ c ∈ parts.pathText, isPathChar c = true := by
  rw [pathText, List.forall_mem_append]
  refine ⟨fun c hc => (parts.path_chars c hc).1, ?_⟩
  cases parts.query with
  | none => exact List.forall_mem_nil _
  | some params =>
      rw [urlQueryText, List.forall_mem_cons]
      exact ⟨rfl, urlParamsText_chars⟩

/-- What the parser makes of a URL that it accepts. -/
structure Parsed (platform : UrlPlatform) (addr : Addr) : Prop where
  socketAddr : ∃ ipAddr : List UInt8, addr.socketAddr =
    platform.fillSockaddr (.ip4 ipAddr (UInt16.ofNat parts.portNumber))
  scheme : addr.scheme = parts.schemeText
  httpHost : addr.httpHost = parts.hostText
  httpPath : addr.httpPath = parts.pathText
  serviceName : addr.serviceName = (plainValues URL_PARAM_SERVICE parts.params).getLastD []
  nodename : addr.nodename = (plainValues URL_PARAM_NODENAME parts.params).getLastD []

theorem urlParse_cases (hlong : 0xFFFFF ≤ platform.longMax) :
    (parts.Admitted platform ∧
        ∃ addr, urlParse platform parts.text = .ok addr ∧ parts.Parsed platform addr) ∨
      (¬ parts.Admitted platform ∧ urlParse platform parts.text = .error .invalidArgument) := by
  have hadmitted : parts.Admitted platform ↔ parts.PortAdmitted ∧
      ∀ value ∈ plainValues URL_PARAM_NODEID parts.params, NodeidAccepted platform value := by
    unfold Admitted plainValues
    simp only [List.mem_filter, decide_eq_true_eq, and_imp]
  obtain ⟨-, hscheme⟩ := urlParseScheme_cut parts.scheme_is (parts.hostText ++ parts.pathText)
  obtain ⟨sinAddr, flags, hhost⟩ := parts.urlParseHost_eq platform parts.schemeText
  have hcut : parts.text = (parts.schemeText ++ parts.hostText) ++ parts.pathText :=
    (List.append_assoc _ _ _).symm
  have hpath : parts.path ++ urlQueryText parts.query ≠ [] := by
    obtain ⟨d, rest, hstart, -⟩ := parts.pathText_start
    exact fun h => List.cons_ne_nil d rest (hstart.symm.trans h)
  rw [hadmitted]
  change urlParseScheme parts.text = .ok parts.schemeText.length at hscheme
  rcases parts.parsePort_eq platform hlong (parts.schemeText ++ parts.host) with
    ⟨hport, hparse⟩ | ⟨hport, hparse⟩
  · have hstart : (parts.schemeText ++ parts.host ++ parts.portText).length =
        (parts.schemeText ++ parts.hostText).length := by
      rw [hostText, List.append_assoc]
    rw [hparse, hstart] at hhost
    have hscan : scan Status.undefined
        (breakStep .invalidArgument (fun _ => false) isPathChar) parts.text
        (parts.text.length - (parts.schemeText ++ parts.hostText).length)
        (parts.schemeText ++ parts.hostText).length () = .ok (none, ()) := by
      rw [hcut, scan_cut]
      exact scanList_breakStep_end fun c hc => ⟨rfl, parts.pathText_chars c hc⟩
    have hquery : urlParseQuery platform parts.text (parts.schemeText ++ parts.hostText).length =
        parts.params.foldlM (UrlParam.apply platform) ⟨[], [], .any⟩ := by
      rw [hcut]
      exact urlParseQuery_eq (fun h => (parts.path_chars 63 h).2 rfl) hpath
    have hparsed : urlParse platform parts.text =
        (parts.params.foldlM (UrlParam.apply platform) ⟨[], [], .any⟩).map fun query =>
          { scheme := parts.schemeText
            socketAddr := platform.fillSockaddr (.ip4 sinAddr (UInt16.ofNat parts.portNumber))
            nodeid := query.nodeid
            nodename := query.nodename
            serviceName := query.serviceName
            flags := flags
            httpHost := parts.hostText
            httpPath := parts.pathText } := by
      have hscheme' : parts.text.take parts.schemeText.length = parts.schemeText := List.take_left
      have hhost' : (parts.text.drop parts.schemeText.length).take
          ((parts.schemeText ++ parts.hostText).length - parts.schemeText.length) =
            parts.hostText := by
        rw [List.length_append, Nat.add_sub_cancel_left, text, List.drop_left, List.take_left]
      have hpath' : parts.text.drop (parts.schemeText ++ parts.hostText).length =
          parts.pathText := by
        rw [hcut, List.drop_left]
      rw [urlParse, hscheme]
      dsimp only [bind, Except.bind]
      rw [text, hhost, ← text]
      dsimp only [Except.map]
      rw [hscan, hscheme', hhost', hpath', hquery]
      rfl
    rw [hparsed, and_iff_right hport]
    rcases foldlM_apply_cases platform ⟨[], [], .any⟩ parts.params with
      ⟨hnodeids, query, hfold, hquery⟩ | ⟨hnodeids, hfold⟩
    · rw [hfold]
      exact Or.inl ⟨hnodeids, _, rfl, ⟨sinAddr, rfl⟩, rfl, rfl, rfl, hquery.serviceName,
        hquery.nodename⟩
    · rw [hfold]
      exact Or.inr ⟨hnodeids, rfl⟩
  · rw [hparse] at hhost
    exact Or.inr ⟨fun h => hport h.1, urlParse_of_host_error hscheme hhost⟩

end

theorem portNumber_le {parts : UrlParts} (h : parts.PortValid) : parts.portNumber ≤ 65535 := by
  unfold portNumber
  cases hport : parts.port with
  | none => exact Nat.zero_le _
  | some text => exact (h text hport).2.2

/-! ## The last values -/

/-- The parser sees the last value exactly where there is no `=` in it. -/
theorem plainValues_getLastD_iff (name : List UInt8) (params : List UrlParam) :
    (plainValues name params).getLastD [] = (paramValues name params).getLastD [] ↔
      61 ∉ (paramValues name params).getLastD [] := by
  unfold plainValues
  generalize paramValues name params = values
  constructor
  · intro h
    rw [← h]
    rcases List.mem_cons.mp (List.getLastD_mem_cons
      (l := values.filter fun value => decide (61 ∉ value)) (a := [])) with hnil | hmem
    · rw [hnil]
      exact List.not_mem_nil
    · exact of_decide_eq_true (List.mem_filter.mp hmem).2
  · intro h
    rcases List.eq_nil_or_concat' values with rfl | ⟨front, value, rfl⟩
    · rfl
    · rw [List.getLastD_concat] at h ⊢
      have hplain : [value].filter (fun value => decide (61 ∉ value)) = [value] :=
        List.filter_cons_of_pos (decide_eq_true h)
      rw [List.filter_append, hplain, List.getLastD_concat]

/-- A URL is taken apart into its parts exactly where it is rejected as it should be, or is
accepted as it should be and has no `=` in what it says last of the service and the node. -/
theorem urlParse_recovered_iff (platform : UrlPlatform) (hlong : 2 ^ 31 - 1 ≤ platform.longMax)
    (parts : UrlParts) :
    parts.Recovered platform (urlParse platform parts.text) ↔
      (¬ parts.Valid platform ∧ ¬ parts.Admitted platform) ∨
        (parts.Valid platform ∧ parts.Admitted platform ∧
          61 ∉ parts.lastValue URL_PARAM_SERVICE ∧ 61 ∉ parts.lastValue URL_PARAM_NODENAME) := by
  rcases parts.urlParse_cases platform (by omega) with
    ⟨hadmitted, addr, hparse, haddr⟩ | ⟨hadmitted, hparse⟩
  · have hok {addr' : Addr} (h : urlParse platform parts.text = .ok addr') : addr' = addr :=
      Except.ok.inj (h.symm.trans hparse)
    constructor
    · intro h
      refine Or.inr ⟨h.succeeds_iff.mp ⟨addr, hparse⟩, hadmitted, ?_, ?_⟩
      · exact (plainValues_getLastD_iff _ _).mp
          (haddr.serviceName.symm.trans (h.serviceName_eq addr hparse))
      · exact (plainValues_getLastD_iff _ _).mp
          (haddr.nodename.symm.trans (h.nodename_eq addr hparse))
    · rintro (⟨-, hnot⟩ | ⟨hvalid, -, hservice, hnodename⟩)
      · exact absurd hadmitted hnot
      · refine ⟨iff_of_true ⟨addr, hparse⟩ hvalid, fun addr' h => ?_, fun addr' h => ?_,
          fun addr' h => ?_, fun addr' h => ?_, fun addr' h => ?_, fun addr' h => ?_⟩
        · obtain ⟨ipAddr, hsocket⟩ := haddr.socketAddr
          refine ⟨ipAddr, _, hok h ▸ hsocket, ?_⟩
          exact UInt16.toNat_ofNat_of_lt (Nat.lt_succ_of_le (portNumber_le hvalid.1))
        · exact hok h ▸ haddr.scheme
        · exact hok h ▸ haddr.httpHost
        · exact hok h ▸ haddr.httpPath
        · exact hok h ▸ haddr.serviceName.trans ((plainValues_getLastD_iff _ _).mpr hservice)
        · exact hok h ▸ haddr.nodename.trans ((plainValues_getLastD_iff _ _).mpr hnodename)
  · have hnot (addr : Addr) : urlParse platform parts.text ≠ .ok addr := by
      rw [hparse]
      exact fun h => by cases h
    constructor
    · intro h
      refine Or.inl ⟨fun hvalid => ?_, hadmitted⟩
      obtain ⟨addr, hparse'⟩ := h.succeeds_iff.mpr hvalid
      exact hnot addr hparse'
    · rintro (⟨hvalid, -⟩ | ⟨-, hadmitted', -⟩)
      · exact ⟨iff_of_false (fun ⟨addr, h⟩ => hnot addr h) hvalid, fun addr h => (hnot addr h).elim,
          fun addr h => (hnot addr h).elim, fun addr h => (hnot addr h).elim,
          fun addr h => (hnot addr h).elim, fun addr h => (hnot addr h).elim,
          fun addr h => (hnot addr h).elim⟩
      · exact absurd hadmitted' hadmitted

/-- `rr://a:80/?service=x`, with another port. -/
def localParts (port : List UInt8) (h : ∀ c ∈ port, isPathStart c = false) : UrlParts where
  scheme := [0x72, 0x72]
  host := [0x61]
  port := some port
  path := [47]
  query := some [⟨URL_PARAM_SERVICE, [0x78], by decide +kernel, by decide +kernel⟩]
  scheme_is := ⟨by decide +kernel, by decide +kernel⟩
  host_chars := by decide +kernel
  host_short := by decide +kernel
  port_chars := fun text htext => Option.some.inj htext ▸ h
  path_chars := by decide +kernel
  path_start := Or.inl rfl

theorem localParts_recovered : (localParts [0x38, 0x30] (by decide +kernel)).Recovered namelessPlatform
    (urlParse namelessPlatform (localParts [0x38, 0x30] (by decide +kernel)).text) :=
  (urlParse_recovered_iff namelessPlatform (by decide +kernel)
    (localParts [0x38, 0x30] (by decide +kernel))).mpr
    (Or.inr ⟨by decide +kernel, by decide +kernel, by decide +kernel, by decide +kernel⟩)

/-- The port 65536 is accepted. -/
theorem localParts_truncated :
    ¬ (localParts [0x36, 0x35, 0x35, 0x33, 0x36] (by decide +kernel)).Recovered namelessPlatform
      (urlParse namelessPlatform
        (localParts [0x36, 0x35, 0x35, 0x33, 0x36] (by decide +kernel)).text) := by
  intro h
  have hvalid := (h.succeeds_iff.mp ⟨_, rfl⟩).1 _ rfl
  exact absurd hvalid.2.2 (by decide +kernel)

end UrlParts

end RobotRaconteurLite

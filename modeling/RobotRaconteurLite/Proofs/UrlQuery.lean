import RobotRaconteurLite.Proofs.UrlStages

/-!
# The parameters of a URL

The parameters are handled one after the other, each with what the ones before it
said. The name of one ends at its last `=`, so a parameter whose value has a `=` of
its own is one that the parser does not know.
-/

namespace RobotRaconteurLite

open IndexScan

/-- `name=value`, of characters that may stand in a path. A name ends at the first `=` and a
parameter at the first `&`, so neither has these, but a value may have more `=`. -/
structure UrlParam where
  name : List UInt8
  value : List UInt8
  name_chars : ∀ c ∈ name, isPathChar c = true ∧ c ≠ 61 ∧ c ≠ 38
  value_chars : ∀ c ∈ value, isPathChar c = true ∧ c ≠ 38

def UrlParam.text (param : UrlParam) : List UInt8 := param.name ++ 61 :: param.value

/-- The parameters with `&` between them. -/
def urlParamsText (params : List UrlParam) : List UInt8 :=
  [38].intercalate (params.map UrlParam.text)

/-- What a parameter with a name and a value adds. -/
def applyParam (platform : UrlPlatform) (name value : List UInt8) (query : UrlQuery) :
    Result UrlQuery :=
  if value = [] then .ok query
  else if name = URL_PARAM_SERVICE then .ok { query with serviceName := value }
  else if name = URL_PARAM_NODENAME then .ok { query with nodename := value }
  else if name = URL_PARAM_NODEID then
    match nodeidParse platform.ulongBits value query.nodeid with
    | (.ok (), nodeid) => .ok { query with nodeid := nodeid }
    | (.error _, _) => .error .invalidArgument
  else .ok query

/-- What the parser makes of a parameter. -/
def UrlParam.apply (platform : UrlPlatform) (query : UrlQuery) (param : UrlParam) :
    Result UrlQuery :=
  if 61 ∈ param.value then .ok query else applyParam platform param.name param.value query

/-! ## One parameter -/

section

variable {platform : UrlPlatform} {front name value rest text : List UInt8}

theorem urlParamIs_eq (target : List UInt8) :
    urlParamIs (front ++ (name ++ rest)) front.length (front.length + name.length) target =
      .ok (decide (name = target)) := by
  rw [urlParamIs, Nat.add_sub_cancel_left]
  by_cases hlength : name.length = target.length
  · rw [if_pos hlength, ← hlength, readRange_append]
    exact congrArg Except.ok (by rw [Bool.eq_iff_iff, beq_iff_eq, decide_eq_true_iff])
  · have hne : name ≠ target := fun h => hlength (congrArg List.length h)
    rw [if_neg hlength, decide_eq_false hne]
    rfl

/-- A parameter that is cut at its last `=`. -/
theorem urlFinishParam_eq (hfront : front ≠ []) (query : UrlQuery) :
    urlFinishParam platform (front ++ (name ++ 61 :: (value ++ rest)))
        (front.length + name.length + 1 + value.length) front.length (front.length + name.length)
        query = applyParam platform name value query := by
  have hpos : front.length ≠ 0 := fun h => hfront (List.length_eq_zero_iff.mp h)
  have hvalue : ((front ++ (name ++ 61 :: (value ++ rest))).drop
      (front.length + name.length + 1)).take
        (front.length + name.length + 1 + value.length - (front.length + name.length) - 1) =
      value := by
    have hcut : front ++ (name ++ 61 :: (value ++ rest)) =
        (front ++ name ++ [61]) ++ (value ++ rest) := by
      simp
    have hstart : front.length + name.length + 1 = (front ++ name ++ [61]).length := by
      simp [Nat.add_assoc]
    have hwidth : front.length + name.length + 1 + value.length - (front.length + name.length) - 1 =
        value.length := by omega
    rw [hwidth, hcut, hstart, List.drop_left, List.take_left]
  have hthere : decide (front.length + name.length + 1 + value.length -
      (front.length + name.length) > 1) = decide (value ≠ []) := by
    rw [decide_eq_decide, ← List.length_pos_iff]
    omega
  rw [urlFinishParam, if_neg (by omega), hvalue, hthere, urlParamIs_eq, urlParamIs_eq,
    urlParamIs_eq, applyParam]
  dsimp only [bind, Except.bind]
  by_cases hnil : value = []
  · simp [hnil]
    rfl
  · by_cases hservice : name = URL_PARAM_SERVICE
    · subst hservice
      simp [hnil, URL_PARAM_SERVICE, URL_PARAM_NODENAME, URL_PARAM_NODEID]
      rfl
    · by_cases hnodename : name = URL_PARAM_NODENAME
      · subst hnodename
        simp [hnil, URL_PARAM_SERVICE, URL_PARAM_NODENAME, URL_PARAM_NODEID]
        rfl
      · by_cases hnodeid : name = URL_PARAM_NODEID
        · subst hnodeid
          simp [hnil, URL_PARAM_SERVICE, URL_PARAM_NODENAME, URL_PARAM_NODEID]
          rfl
        · simp [hnil, hservice, hnodename, hnodeid]
          rfl

theorem urlParamStep_other {url : List UInt8} {i : Nat} {c : UInt8} {s : UrlParamState}
    (h38 : c ≠ 38) (h61 : c ≠ 61) : urlParamStep platform url i c s = .next s := by
  rw [urlParamStep, if_neg h38, if_neg h61]

/-- A value without `=` is passed. -/
theorem urlParamStep_passes_value {url : List UInt8} {s : UrlParamState} {i : Nat}
    (h38 : 38 ∉ text) (h61 : 61 ∉ text) : Passes (urlParamStep platform url) i s text s := by
  induction text generalizing i with
  | nil => rfl
  | cons c text ih =>
      rw [List.mem_cons, not_or] at h38 h61
      exact ⟨s, urlParamStep_other (Ne.symm h38.1) (Ne.symm h61.1), ih h38.2 h61.2⟩

/-- What stands before the last `=` is passed, and the loop keeps no more than an index. -/
theorem urlParamStep_passes_name (platform : UrlPlatform) (url : List UInt8) (s : UrlParamState)
    (i : Nat) (h38 : 38 ∉ text) :
    ∃ paramEq, Passes (urlParamStep platform url) i s text { s with paramEq := paramEq } := by
  induction text generalizing i s with
  | nil => exact ⟨s.paramEq, rfl⟩
  | cons c text ih =>
      rw [List.mem_cons, not_or] at h38
      by_cases h61 : c = 61
      · obtain ⟨paramEq, hpasses⟩ := ih { s with paramEq := i } (i + 1) h38.2
        refine ⟨paramEq, _, ?_, hpasses⟩
        rw [urlParamStep, if_neg (Ne.symm h38.1), if_pos h61]
      · obtain ⟨paramEq, hpasses⟩ := ih s (i + 1) h38.2
        exact ⟨paramEq, s, urlParamStep_other (Ne.symm h38.1) h61, hpasses⟩

theorem urlParamStep_passes {url : List UInt8} {s : UrlParamState} {i : Nat}
    (hname : 38 ∉ name) (hvalue : 38 ∉ value) (h61 : 61 ∉ value) :
    Passes (urlParamStep platform url) i s (name ++ 61 :: value)
      { s with paramEq := i + name.length } := by
  obtain ⟨paramEq, hpasses⟩ := urlParamStep_passes_name platform url s i hname
  refine hpasses.append ⟨{ s with paramEq := i + name.length }, ?_,
    urlParamStep_passes_value hvalue h61⟩
  rw [urlParamStep, if_neg (by decide), if_pos rfl]

end

/-- A name with `=` in it is none that the parser knows. -/
theorem applyParam_unknown {platform : UrlPlatform} {name : List UInt8} (h : 61 ∈ name)
    (value : List UInt8) (query : UrlQuery) : applyParam platform name value query = .ok query := by
  have hne {known : List UInt8} (hknown : 61 ∉ known) : name ≠ known := by
    rintro rfl
    exact hknown h
  unfold applyParam
  split
  · rfl
  · rw [if_neg (hne (by decide)), if_neg (hne (by decide)), if_neg (hne (by decide))]

theorem exists_cut_last {c : UInt8} {text : List UInt8} (h : c ∈ text) :
    ∃ front rest, text = front ++ c :: rest ∧ c ∉ rest := by
  obtain ⟨rest, front, hcut, hrest⟩ := List.eq_append_cons_of_mem (List.mem_reverse.mpr h)
  refine ⟨front.reverse, rest.reverse, ?_, by rwa [List.mem_reverse]⟩
  rw [← List.reverse_reverse text, hcut]
  simp

/-! ## All parameters -/

namespace UrlParam

/-- The text cut at its last `=`: there the parser takes it apart. -/
theorem exists_cut (param : UrlParam) : ∃ name value, param.text = name ++ 61 :: value ∧
    38 ∉ name ∧ 38 ∉ value ∧ 61 ∉ value ∧ ∀ (platform : UrlPlatform) (query : UrlQuery),
      applyParam platform name value query = param.apply platform query := by
  have hname : 38 ∉ param.name := fun h => (param.name_chars 38 h).2.2 rfl
  have hvalue : 38 ∉ param.value := fun h => (param.value_chars 38 h).2 rfl
  by_cases h61 : 61 ∈ param.value
  · obtain ⟨before, value, hcut, hlast⟩ := exists_cut_last h61
    rw [hcut, List.mem_append, List.mem_cons, not_or, not_or] at hvalue
    refine ⟨param.name ++ 61 :: before, value, ?_, ?_, hvalue.2.2, hlast, fun platform query => ?_⟩
    · rw [text, hcut, List.append_assoc]
      rfl
    · rw [List.mem_append, List.mem_cons, not_or, not_or]
      exact ⟨hname, by decide, hvalue.1⟩
    · rw [UrlParam.apply, if_pos h61, applyParam_unknown List.mem_append_cons_self]
  · refine ⟨param.name, param.value, rfl, hname, hvalue, h61, fun platform query => ?_⟩
    rw [UrlParam.apply, if_neg h61]

end UrlParam

theorem urlParamsText_cons (param : UrlParam) (params : List UrlParam) (hparams : params ≠ []) :
    urlParamsText (param :: params) = param.text ++ 38 :: urlParamsText params := by
  cases params with
  | nil => exact absurd rfl hparams
  | cons param' params => simp [urlParamsText, List.intercalate]

theorem urlParamsText_chars {params : List UrlParam} :
    ∀ c ∈ urlParamsText params, isPathChar c = true := by
  induction params with
  | nil => exact List.forall_mem_nil _
  | cons param params ih =>
      have hparam : ∀ c ∈ param.text, isPathChar c = true := by
        rw [UrlParam.text, List.forall_mem_append, List.forall_mem_cons]
        exact ⟨fun c hc => (param.name_chars c hc).1, rfl, fun c hc => (param.value_chars c hc).1⟩
      by_cases hlast : params = []
      · have hsingle : urlParamsText (param :: params) = param.text := by
          simp [hlast, urlParamsText, List.intercalate]
        rw [hsingle]
        exact hparam
      · rw [urlParamsText_cons param params hlast, List.forall_mem_append, List.forall_mem_cons]
        exact ⟨hparam, rfl, ih⟩

/-- The loop and what comes behind it handle the parameters in order. -/
theorem urlParams_fold {platform : UrlPlatform} {url front : List UInt8} {query : UrlQuery}
    {params : List UrlParam} (hparams : params ≠ []) (hfront : front ≠ [])
    (hurl : url = front ++ urlParamsText params) :
    (scanList (urlParamStep platform url) front.length ⟨front.length, 0, query⟩
        (urlParamsText params) >>= fun r =>
          urlFinishParam platform url url.length r.2.paramStart r.2.paramEq r.2.query) =
      params.foldlM (UrlParam.apply platform) query := by
  induction params generalizing front query with
  | nil => exact absurd rfl hparams
  | cons param params ih =>
      obtain ⟨name, value, htext, hname, hvalue, h61, happly⟩ := param.exists_cut
      have hpasses : Passes (urlParamStep platform url) front.length ⟨front.length, 0, query⟩
          param.text ⟨front.length, front.length + name.length, query⟩ :=
        htext ▸ urlParamStep_passes hname hvalue h61
      have hlength : param.text.length = name.length + 1 + value.length := by
        rw [htext, List.length_append, List.length_cons]
        omega
      have hfinish (rest : List UInt8) (hrest : url = front ++ (param.text ++ rest)) :
          urlFinishParam platform url (front.length + param.text.length) front.length
            (front.length + name.length) query = param.apply platform query := by
        have hcut : front ++ (param.text ++ rest) = front ++ (name ++ 61 :: (value ++ rest)) := by
          rw [htext, List.append_assoc]
          rfl
        have hend : front.length + param.text.length =
            front.length + name.length + 1 + value.length := by omega
        rw [hrest, hcut, hend, urlFinishParam_eq hfront, happly]
      rw [List.foldlM_cons]
      by_cases hlast : params = []
      · subst hlast
        have hsingle : urlParamsText [param] = param.text := by
          simp [urlParamsText, List.intercalate]
        have hend : url.length = front.length + param.text.length := by
          rw [hurl, hsingle, List.length_append]
        rw [hsingle, hpasses.scanList_end, hend]
        refine (hfinish [] (by rw [hurl, hsingle, List.append_nil])).trans ?_
        exact (bind_pure _).symm
      · have htail := urlParamsText_cons param params hlast
        have hfront' : front.length + param.text.length + 1 = (front ++ param.text ++ [38]).length := by
          simp [Nat.add_assoc]
        rw [htail] at hurl ⊢
        rw [hpasses.scanList_append, scanList, urlParamStep, if_pos rfl]
        dsimp only
        rw [hfinish _ hurl]
        cases param.apply platform query with
        | error e => rfl
        | ok query' =>
            dsimp only
            rw [hfront']
            exact ih hlast (List.append_ne_nil_of_right_ne_nil _ (List.cons_ne_nil _ _))
              (by rw [hurl]; simp)

/-- `?` and the parameters. -/
def urlQueryText : Option (List UrlParam) → List UInt8
  | none => []
  | some params => 63 :: urlParamsText params

theorem urlParamsText_length_pos {params : List UrlParam} (hparams : params ≠ []) :
    0 < (urlParamsText params).length := by
  cases params with
  | nil => exact absurd rfl hparams
  | cons param params =>
      cases params with
      | nil => simp [urlParamsText, List.intercalate, UrlParam.text]
      | cons param' params =>
          rw [urlParamsText_cons param _ (List.cons_ne_nil _ _)]
          simp

/-- The query starts at the first `?`, and that is none at the end. -/
theorem urlParseQuery_eq {platform : UrlPlatform} {front path : List UInt8}
    {query : Option (List UrlParam)} (hpath : 63 ∉ path)
    (hne : path ++ urlQueryText query ≠ []) :
    urlParseQuery platform (front ++ (path ++ urlQueryText query)) front.length =
      (query.getD []).foldlM (UrlParam.apply platform) ⟨[], [], .any⟩ := by
  have hpos := List.length_pos_iff.mpr hne
  have hlength : (front ++ (path ++ urlQueryText query)).length =
      front.length + (path ++ urlQueryText query).length := List.length_append
  have hrounds : (front ++ (path ++ urlQueryText query)).length - 1 - front.length =
      (path ++ urlQueryText query).length - 1 := by omega
  have hscan (step : Nat → UInt8 → Unit → Step Status Unit) :
      scan .undefined step (front ++ (path ++ urlQueryText query))
        ((path ++ urlQueryText query).length - 1) front.length () =
      scanList step front.length ()
        ((path ++ urlQueryText query).take ((path ++ urlQueryText query).length - 1)) := by
    rw [scan_eq_take (by omega), List.drop_left]
  have hpasses : ∀ c ∈ path, (c == 63) = false ∧ true = true := by
    intro c hc
    refine ⟨beq_eq_false_iff_ne.mpr ?_, rfl⟩
    rintro rfl
    exact hpath hc
  rw [urlParseQuery, hrounds, hscan]
  by_cases hparams : query.getD [] = []
  · -- what is before the last character is in the path
    have htake : ∀ c ∈ (path ++ urlQueryText query).take ((path ++ urlQueryText query).length - 1),
        c ∈ path := by
      cases query with
      | none =>
          intro c hc
          rw [urlQueryText, List.append_nil] at hc
          exact List.mem_of_mem_take hc
      | some params =>
          obtain rfl : params = [] := hparams
          intro c hc
          simpa [urlQueryText, urlParamsText, List.intercalate] using hc
    rw [scanList_breakStep_end fun c hc => hpasses c (htake c hc), hparams]
    rfl
  · obtain ⟨params, rfl⟩ : ∃ params, query = some params := by
      cases query with
      | none => exact absurd rfl hparams
      | some params => exact ⟨params, rfl⟩
    rw [Option.getD_some] at hparams ⊢
    have hjoined := urlParamsText_length_pos hparams
    have htake : (path ++ urlQueryText (some params)).take
        ((path ++ urlQueryText (some params)).length - 1) =
        path ++ 63 :: (urlParamsText params).take ((urlParamsText params).length - 1) := by
      have hwidth : (path ++ urlQueryText (some params)).length - 1 =
          path.length + ((urlParamsText params).length - 1 + 1) := by
        rw [urlQueryText, List.length_append, List.length_cons]
        omega
      rw [hwidth, List.take_length_add_append, urlQueryText, List.take_succ_cons]
    have hcut : front ++ (path ++ urlQueryText (some params)) =
        (front ++ path ++ [63]) ++ urlParamsText params := by
      simp [urlQueryText]
    have hstart : front.length + path.length + 1 = (front ++ path ++ [63]).length := by
      simp [Nat.add_assoc]
    have hfront : front ++ path ++ [63] ≠ [] :=
      List.append_ne_nil_of_right_ne_nil _ (List.cons_ne_nil _ _)
    rw [htake, scanList_breakStep_stop hpasses rfl, hcut, ← urlParams_fold hparams hfront rfl]
    dsimp only [bind, Except.bind]
    rw [hstart, scan_cut]

/-! ## What the parameters say -/

/-- The non-empty values of the parameters with a name. -/
def paramValues (name : List UInt8) (params : List UrlParam) : List (List UInt8) :=
  params.filterMap fun param =>
    if param.name = name ∧ param.value ≠ [] then some param.value else none

/-- Those of them that the parser sees. -/
def plainValues (name : List UInt8) (params : List UrlParam) : List (List UInt8) :=
  (paramValues name params).filter fun value => decide (61 ∉ value)

/-- The parser of node ids accepts the value. -/
def NodeidAccepted (platform : UrlPlatform) (value : List UInt8) : Prop :=
  (nodeidParse platform.ulongBits value .any).1 = .ok ()

instance (platform : UrlPlatform) (value : List UInt8) : Decidable (NodeidAccepted platform value) :=
  inferInstanceAs (Decidable (_ = _))

theorem plainValues_cons (name : List UInt8) (param : UrlParam) (params : List UrlParam) :
    plainValues name (param :: params) = plainValues name [param] ++ plainValues name params := by
  unfold plainValues paramValues
  rw [← List.filter_append, ← List.filterMap_append, List.singleton_append]

theorem plainValues_singleton (name : List UInt8) (param : UrlParam) :
    plainValues name [param] =
      if param.name = name ∧ param.value ≠ [] ∧ 61 ∉ param.value then [param.value] else [] := by
  by_cases hthere : param.name = name ∧ param.value ≠ []
  · by_cases h61 : 61 ∈ param.value <;> simp [plainValues, paramValues, hthere, h61]
  · rw [if_neg fun h => hthere ⟨h.1, h.2.1⟩]
    simp [plainValues, paramValues, hthere]

/-- Whether a node id is accepted does not depend on what is overwritten. -/
theorem nodeidParse_status (ulongBits : Nat) (value : List UInt8) (dst dst' : NodeId) :
    (nodeidParse ulongBits value dst).1 = (nodeidParse ulongBits value dst').1 := by
  have hloop (buf : List UInt8) (n i : Nat) (dst dst' : NodeId) :
      (nodeidParseLoop ulongBits buf n i dst).1 = (nodeidParseLoop ulongBits buf n i dst').1 := by
    induction n generalizing i dst dst' with
    | zero => rfl
    | succ n ih =>
        unfold nodeidParseLoop
        dsimp only
        split
        · rfl
        · exact ih _ _ _
  unfold nodeidParse
  cases nodeidDigits value with
  | error e => rfl
  | ok buf => exact hloop buf 16 0 dst dst'

theorem getLastD_append {α : Type} (l l' : List α) (a : α) :
    (l ++ l').getLastD a = l'.getLastD (l.getLastD a) := by
  induction l generalizing a with
  | nil => rfl
  | cons b l ih => rw [List.cons_append, List.getLastD_cons, List.getLastD_cons, ih]

/-- What parameters do to a query: they are accepted, and their last values win. -/
structure QueryOf (params : List UrlParam) (query query' : UrlQuery) : Prop where
  serviceName : query'.serviceName =
    (plainValues URL_PARAM_SERVICE params).getLastD query.serviceName
  nodename : query'.nodename = (plainValues URL_PARAM_NODENAME params).getLastD query.nodename

theorem UrlParam.apply_cases (platform : UrlPlatform) (query : UrlQuery) (param : UrlParam) :
    ((∀ value ∈ plainValues URL_PARAM_NODEID [param], NodeidAccepted platform value) ∧
        ∃ query', param.apply platform query = .ok query' ∧ QueryOf [param] query query') ∨
      (¬ ∀ value ∈ plainValues URL_PARAM_NODEID [param], NodeidAccepted platform value) ∧
        param.apply platform query = .error .invalidArgument := by
  by_cases hseen : param.value ≠ [] ∧ 61 ∉ param.value
  · obtain ⟨hnil, h61⟩ := hseen
    have hplain (name : List UInt8) : plainValues name [param] =
        if param.name = name then [param.value] else [] := by
      rw [plainValues_singleton]
      simp only [hnil, h61, ne_eq, not_false_eq_true, and_true]
    rw [apply, if_neg h61, applyParam, if_neg hnil, hplain]
    by_cases hservice : param.name = URL_PARAM_SERVICE
    · rw [if_pos hservice, if_neg (by rw [hservice]; decide)]
      refine Or.inl ⟨List.forall_mem_nil _, _, rfl, ?_, ?_⟩
      · rw [hplain, if_pos hservice]
        rfl
      · rw [hplain, if_neg (by rw [hservice]; decide)]
        rfl
    · rw [if_neg hservice]
      by_cases hnodename : param.name = URL_PARAM_NODENAME
      · rw [if_pos hnodename, if_neg (by rw [hnodename]; decide)]
        refine Or.inl ⟨List.forall_mem_nil _, _, rfl, ?_, ?_⟩
        · rw [hplain, if_neg hservice]
          rfl
        · rw [hplain, if_pos hnodename]
          rfl
      · rw [if_neg hnodename]
        by_cases hnodeid : param.name = URL_PARAM_NODEID
        · rw [if_pos hnodeid, if_pos hnodeid, List.forall_mem_singleton, NodeidAccepted,
            nodeidParse_status _ _ _ query.nodeid]
          cases hparse : nodeidParse platform.ulongBits param.value query.nodeid with
          | mk status nodeid =>
              cases status with
              | error e =>
                  refine Or.inr ⟨fun h => ?_, rfl⟩
                  cases h
              | ok status =>
                  refine Or.inl ⟨rfl, _, rfl, ?_, ?_⟩
                  · rw [hplain, if_neg hservice]
                    rfl
                  · rw [hplain, if_neg hnodename]
                    rfl
        · rw [if_neg hnodeid, if_neg hnodeid]
          refine Or.inl ⟨List.forall_mem_nil _, _, rfl, ?_, ?_⟩
          · rw [hplain, if_neg hservice]
            rfl
          · rw [hplain, if_neg hnodename]
            rfl
  · -- the parser sees no value
    have hplain (name : List UInt8) : plainValues name [param] = [] := by
      rw [plainValues_singleton]
      exact if_neg fun h => hseen h.2
    have happly : param.apply platform query = .ok query := by
      rw [apply, applyParam]
      by_cases h61 : 61 ∈ param.value
      · exact if_pos h61
      · rw [if_neg h61]
        exact if_pos (not_not.mp fun hnil => hseen ⟨hnil, h61⟩)
    rw [hplain, happly]
    refine Or.inl ⟨List.forall_mem_nil _, query, rfl, ?_, ?_⟩
    · rw [hplain]
      rfl
    · rw [hplain]
      rfl

theorem foldlM_apply_cases (platform : UrlPlatform) (query : UrlQuery) (params : List UrlParam) :
    ((∀ value ∈ plainValues URL_PARAM_NODEID params, NodeidAccepted platform value) ∧
        ∃ query', params.foldlM (UrlParam.apply platform) query = .ok query' ∧
          QueryOf params query query') ∨
      (¬ ∀ value ∈ plainValues URL_PARAM_NODEID params, NodeidAccepted platform value) ∧
        params.foldlM (UrlParam.apply platform) query = .error .invalidArgument := by
  induction params generalizing query with
  | nil => exact Or.inl ⟨List.forall_mem_nil _, query, rfl, rfl, rfl⟩
  | cons param params ih =>
      rw [List.foldlM_cons, plainValues_cons, List.forall_mem_append]
      rcases param.apply_cases platform query with ⟨hone, query', happly, hquery⟩ | ⟨hone, happly⟩
      · rw [happly, and_iff_right hone]
        refine (ih query').imp ?_ id
        rintro ⟨hall, query'', hfold, hrest⟩
        refine ⟨hall, query'', hfold, ?_, ?_⟩
        · rw [plainValues_cons, getLastD_append, ← hquery.serviceName]
          exact hrest.serviceName
        · rw [plainValues_cons, getLastD_append, ← hquery.nodename]
          exact hrest.nodename
      · refine Or.inr ⟨fun h => hone h.1, ?_⟩
        rw [happly]
        rfl

end RobotRaconteurLite

import RobotRaconteurLite.Node.SpecialRequests
import RobotRaconteurLite.NodeServices
import RobotRaconteurLite.Scanners
import Mathlib.Data.List.TakeWhile

/-!
# Names in the registries of a node

The definition of a type is registered under what comes before the last period
of its name, and a service is found by what comes before the first period of a
path. Both are cuts of one string, and a registry then compares whole names: a
hash that differs only says sooner that the names do.
-/

namespace RobotRaconteurLite

open IndexScan

theorem stringHash_and_cmp {str1 str2 : List UInt8} :
    (stringHash str1 == stringHash str2 && stringCmp str1 str2 == 0) = decide (str1 = str2) := by
  by_cases h : str1 = str2
  · simp [h, stringCmp_eq_zero_iff]
  · simp [h, stringCmp_eq_zero_iff]

/-! ## Qualified types -/

/-- A period with something on both sides of it. -/
def InnerPeriod (str : List UInt8) (i : Nat) : Prop :=
  1 ≤ i ∧ i + 2 ≤ str.length ∧ str[i]? = some 46

/-- The last of these. -/
def LastInnerPeriod (str : List UInt8) (i : Nat) : Prop :=
  InnerPeriod str i ∧ ∀ j, i < j → ¬ InnerPeriod str j

theorem splitQualifiedTypeLoop_inside {str : List UInt8} {n : Nat} (hn : n < str.length) :
    splitQualifiedTypeLoop str (n + 1) =
      if str[n]? = some 46 then .ok n
      else if n > 1 then splitQualifiedTypeLoop str n
      else .error .invalidArgument := by
  rw [splitQualifiedTypeLoop, readAt_inside hn, List.getElem?_eq_getElem hn]
  simp only [Option.some.injEq]
  rfl

/-- What the loop finds from index `n` downwards. -/
theorem splitQualifiedTypeLoop_cases (str : List UInt8) {n : Nat} (h1 : 1 ≤ n)
    (hn : n < str.length) :
    (∃ i, 1 ≤ i ∧ i ≤ n ∧ str[i]? = some 46 ∧ (∀ j, i < j → j ≤ n → str[j]? ≠ some 46) ∧
        splitQualifiedTypeLoop str (n + 1) = .ok i) ∨
      (∀ i, 1 ≤ i → i ≤ n → str[i]? ≠ some 46) ∧
        splitQualifiedTypeLoop str (n + 1) = .error .invalidArgument := by
  induction n with
  | zero => omega
  | succ n ih =>
      rw [splitQualifiedTypeLoop_inside hn]
      by_cases hperiod : str[n + 1]? = some 46
      · exact Or.inl ⟨n + 1, h1, Nat.le_refl _, hperiod, fun j hj hle => by omega, if_pos hperiod⟩
      · rw [if_neg hperiod]
        by_cases hzero : n = 0
        · subst hzero
          refine Or.inr ⟨fun i hi hle => ?_, rfl⟩
          obtain rfl : i = 1 := by omega
          exact hperiod
        · rw [if_pos (by omega)]
          rcases ih (by omega) (by omega) with ⟨i, hi, hle, hfound, hlast, hloop⟩ | ⟨hnone, hloop⟩
          · refine Or.inl ⟨i, hi, by omega, hfound, fun j hj hjn => ?_, hloop⟩
            rcases Nat.lt_or_eq_of_le hjn with hlt | rfl
            · exact hlast j hj (by omega)
            · exact hperiod
          · refine Or.inr ⟨fun i hi hle => ?_, hloop⟩
            rcases Nat.lt_or_eq_of_le hle with hlt | rfl
            · exact hnone i hi (by omega)
            · exact hperiod

theorem LastInnerPeriod.unique {str : List UInt8} {i j : Nat} (hi : LastInnerPeriod str i)
    (hj : LastInnerPeriod str j) : i = j := by
  rcases Nat.lt_trichotomy i j with hlt | heq | hlt
  · exact absurd hj.1 (hi.2 j hlt)
  · exact heq
  · exact absurd hi.1 (hj.2 i hlt)

theorem LastInnerPeriod.cut {str : List UInt8} {i : Nat} (h : LastInnerPeriod str i) :
    str.take i ++ 46 :: str.drop (i + 1) = str := by
  have hlt : i < str.length := by
    have hinside := h.1.2.1
    omega
  have hget : str[i] = 46 := by
    have hperiod := h.1.2.2
    rwa [List.getElem?_eq_getElem hlt, Option.some.injEq] at hperiod
  rw [← hget, ← List.drop_eq_getElem_cons hlt, List.take_append_drop]

/-- The split finds the last inner period, or fails where there is none. -/
theorem splitQualifiedType_cases (str : List UInt8) :
    (∃ i, LastInnerPeriod str i ∧ ∀ serviceType serviceEntryType,
        nodeSplitQualifiedType str serviceType serviceEntryType =
          match serviceEntryType, serviceType.map fun _ => str.take i with
          | none, serviceType => (.ok (), serviceType, none)
          | some entryType, none => (.error .undefined, none, some entryType)
          | some entryType, some _ => (.ok (), some (str.drop (i + 1)), some entryType)) ∨
      (∀ i, ¬ InnerPeriod str i) ∧ ∀ serviceType serviceEntryType,
        nodeSplitQualifiedType str serviceType serviceEntryType =
          (.error .invalidArgument, serviceType, serviceEntryType) := by
  by_cases hshort : str.length < 3
  · refine Or.inr ⟨fun i hi => ?_, fun serviceType serviceEntryType => if_pos hshort⟩
    obtain ⟨h1, h2, -⟩ := hi
    omega
  · obtain ⟨n, hn⟩ : ∃ n, str.length = n + 2 := ⟨str.length - 2, by omega⟩
    have hrounds : str.length - 1 = n + 1 := by omega
    rcases splitQualifiedTypeLoop_cases str (n := n) (by omega) (by omega) with
      ⟨i, h1, hle, hperiod, hlast, hloop⟩ | ⟨hnone, hloop⟩
    · refine Or.inl ⟨i, ⟨⟨h1, by omega, hperiod⟩, fun j hj hinner => ?_⟩, fun serviceType
        serviceEntryType => ?_⟩
      · have hend := hinner.2.1
        exact hlast j hj (by omega) hinner.2.2
      · rw [nodeSplitQualifiedType, if_neg hshort, hrounds, hloop]
        cases serviceEntryType with
        | none => rfl
        | some entryType => cases serviceType <;> rfl
    · refine Or.inr ⟨fun i hinner => ?_, fun serviceType serviceEntryType => ?_⟩
      · have hend := hinner.2.1
        exact hnone i hinner.1 (by omega) hinner.2.2
      · rw [nodeSplitQualifiedType, if_neg hshort, hrounds, hloop]

theorem getD_eq_period {str : List UInt8} {i : Nat} : str.getD i 0 = 46 ↔ str[i]? = some 46 := by
  rw [List.getD_eq_getElem?_getD]
  cases str[i]? with
  | none => simp
  | some c => simp

theorem splitServiceTypeLoop_eq {str : List UInt8} {i n : Nat} (h1 : 1 ≤ i) (hle : i ≤ n)
    (hperiod : str[i]? = some 46) (hlast : ∀ j, i < j → j ≤ n → str[j]? ≠ some 46) :
    splitServiceTypeLoop str n = some (str.take i) := by
  induction n with
  | zero => omega
  | succ n ih =>
      rw [splitServiceTypeLoop]
      rcases Nat.lt_or_eq_of_le hle with hlt | rfl
      · rw [if_neg fun h => hlast (n + 1) hlt (Nat.le_refl _) (getD_eq_period.mp h)]
        exact ih (by omega) fun j hj hjn => hlast j hj (by omega)
      · exact if_pos (getD_eq_period.mpr hperiod)

theorem splitServiceTypeLoop_none {str : List UInt8} {n : Nat}
    (hnone : ∀ i, 1 ≤ i → i ≤ n → str[i]? ≠ some 46) : splitServiceTypeLoop str n = none := by
  induction n with
  | zero => rfl
  | succ n ih =>
      rw [splitServiceTypeLoop,
        if_neg fun h => hnone (n + 1) (by omega) (Nat.le_refl _) (getD_eq_period.mp h)]
      exact ih fun i h1 hle => hnone i h1 (by omega)

/-! ## Services -/

theorem find?_eq_some_iff_of_unique {α : Type} {p : α → Bool} {l : List α} {a : α}
    (h : ∀ b ∈ l, p b = true → p a = true → b = a) : l.find? p = some a ↔ a ∈ l ∧ p a = true := by
  constructor
  · intro hfound
    exact ⟨List.mem_of_find?_eq_some hfound, List.find?_some hfound⟩
  · rintro ⟨hmem, hp⟩
    cases hfound : l.find? p with
    | none => exact absurd hp (List.find?_eq_none.mp hfound a hmem)
    | some b =>
        rw [h b (List.mem_of_find?_eq_some hfound) (List.find?_some hfound) hp]

theorem takeWhile_of_notMem {l : List UInt8} (h : 46 ∉ l) : l.takeWhile (· ≠ 46) = l :=
  List.takeWhile_eq_self_iff.mpr fun x hx => by
    have hne : x ≠ 46 := fun heq => h (heq ▸ hx)
    simpa using hne

theorem takeWhile_append_period {front rest : List UInt8} (h : 46 ∉ front) :
    (front ++ 46 :: rest).takeWhile (· ≠ 46) = front := by
  rw [List.takeWhile_append_of_pos, List.takeWhile_cons_of_neg (by simp), List.append_nil]
  intro x hx
  have hne : x ≠ 46 := fun heq => h (heq ▸ hx)
  simpa using hne

/-- What the path is cut to owns the path. -/
theorem isServicePathPrefix_takeWhile (b : UInt8) (rest : List UInt8) :
    IsServicePathPrefix (b :: rest.takeWhile (· ≠ 46)) (b :: rest) := by
  by_cases hperiod : 46 ∈ rest
  · obtain ⟨front, back, rfl, hfront⟩ := List.eq_append_cons_of_mem hperiod
    rw [takeWhile_append_period hfront]
    exact Or.inr ⟨back, rfl⟩
  · rw [takeWhile_of_notMem hperiod]
    exact Or.inl rfl

/-- A name without a period behind its first character owns a path only if the path is cut to
it. -/
theorem IsServicePathPrefix.eq_takeWhile {name : List UInt8} {b : UInt8} {rest : List UInt8}
    (h : IsServicePathPrefix name (b :: rest)) (hname : name ≠ []) (hnot : 46 ∉ name.tail) :
    name = b :: rest.takeWhile (· ≠ 46) := by
  obtain ⟨c, tail, rfl⟩ := List.exists_cons_of_ne_nil hname
  rw [List.tail_cons] at hnot
  rcases h with heq | ⟨back, heq⟩
  · obtain ⟨rfl, rfl⟩ := List.cons.inj heq
    rw [takeWhile_of_notMem hnot]
  · rw [List.cons_append] at heq
    obtain ⟨rfl, rfl⟩ := List.cons.inj heq
    rw [takeWhile_append_period hnot]

theorem notMem_takeWhile (rest : List UInt8) : 46 ∉ rest.takeWhile (· ≠ 46) := fun h => by
  have hp := List.mem_takeWhile_imp h
  simp at hp

section

variable [SizeT]

theorem findServiceDefinition_eq (serviceDefs : List ServiceDefinition) {qualifiedName : List UInt8}
    (hne : qualifiedName ≠ []) :
    findServiceDefinition serviceDefs qualifiedName =
      serviceDefs.find? fun c => c.qualifiedName.data = qualifiedName := by
  rw [findServiceDefinition, if_neg (fun h => hne (List.length_eq_zero_iff.mp h))]
  simp only [stringHash_and_cmp]

theorem findServiceDefinitionForEntry_eq {str : List UInt8} {i : Nat} (h : LastInnerPeriod str i)
    (serviceDefs : List ServiceDefinition) :
    findServiceDefinitionForEntry serviceDefs str =
      serviceDefs.find? fun c => c.qualifiedName.data = str.take i := by
  obtain ⟨⟨h1, h2, hperiod⟩, hlast⟩ := h
  have hne : str.take i ≠ [] := by
    rw [Ne, List.take_eq_nil_iff, not_or]
    exact ⟨by omega, List.ne_nil_of_length_pos (by omega)⟩
  have hloop : splitServiceTypeLoop str (str.length - 2) = some (str.take i) := by
    refine splitServiceTypeLoop_eq h1 (by omega) hperiod fun j hj hle hj' => ?_
    exact hlast j hj ⟨by omega, by omega, hj'⟩
  rw [findServiceDefinitionForEntry, hloop, Option.bind_some, findServiceDefinition_eq _ hne]

theorem findServiceDefinitionForEntry_none {str : List UInt8} (h : ∀ i, ¬ InnerPeriod str i)
    (serviceDefs : List ServiceDefinition) : findServiceDefinitionForEntry serviceDefs str = none := by
  rw [findServiceDefinitionForEntry, splitServiceTypeLoop_none, Option.bind_none]
  intro i h1 hle hperiod
  exact h i ⟨h1, by omega, hperiod⟩

/-- What a split with these outputs promises, whatever is in them before. -/
structure SplitsQualifiedType (str : List UInt8) (serviceType serviceEntryType : Option (List UInt8))
    (r : Result Unit × Option (List UInt8) × Option (List UInt8)) : Prop where
  succeeds_iff : r.1 = .ok () ↔ ∃ i, InnerPeriod str i
  serviceType_eq : ∀ i, LastInnerPeriod str i → r.2.1 = serviceType.map fun _ => str.take i
  entryType_eq : ∀ i, LastInnerPeriod str i →
    r.2.2 = serviceEntryType.map fun _ => str.drop (i + 1)
  whole : ∀ i, LastInnerPeriod str i → str.take i ++ 46 :: str.drop (i + 1) = str
  found : ∀ i, LastInnerPeriod str i → ∀ serviceDefs : List ServiceDefinition,
    findServiceDefinitionForEntry serviceDefs str =
      serviceDefs.find? fun c => c.qualifiedName.data = str.take i
  unfound : (∀ i, ¬ InnerPeriod str i) → ∀ serviceDefs : List ServiceDefinition,
    findServiceDefinitionForEntry serviceDefs str = none

/-- A type is split right for a caller who does not ask for the entry type, and for no other one
unless there is nothing to split. -/
theorem nodeSplitQualifiedType_splits_iff (str : List UInt8) (wantsType wantsEntryType : Bool) :
    (∀ serviceType serviceEntryType : Option (List UInt8), serviceType.isSome = wantsType →
        serviceEntryType.isSome = wantsEntryType →
        SplitsQualifiedType str serviceType serviceEntryType
          (nodeSplitQualifiedType str serviceType serviceEntryType)) ↔
      (wantsEntryType = false ∨ ∀ i, ¬ InnerPeriod str i) := by
  rcases splitQualifiedType_cases str with ⟨i, hi, hsplit⟩ | ⟨hnone, hsplit⟩
  · constructor
    · intro h
      refine Or.inl ?_
      cases wantsEntryType with
      | false => rfl
      | true =>
          exfalso
          -- an entry type that is not there yet is not there afterwards
          have hold : (46 :: str.drop (i + 1)) ≠ str.drop (i + 1) := fun heq => by
            have hlength := congrArg List.length heq
            simp at hlength
          cases wantsType with
          | false =>
              have hfails := (h none (some []) rfl rfl).succeeds_iff.mpr ⟨i, hi.1⟩
              rw [hsplit] at hfails
              cases hfails
          | true =>
              have hentry := (h (some []) (some (46 :: str.drop (i + 1))) rfl rfl).entryType_eq i hi
              rw [hsplit] at hentry
              exact hold (Option.some.inj hentry)
    · intro hcond serviceType serviceEntryType _ hwants
      obtain rfl : serviceEntryType = none := by
        rcases hcond with hfalse | hno
        · rw [hfalse] at hwants
          exact Option.not_isSome_iff_eq_none.mp (by rw [hwants]; exact Bool.false_ne_true)
        · exact absurd hi.1 (hno i)
      rw [hsplit]
      refine ⟨iff_of_true rfl ⟨i, hi.1⟩, fun j hj => ?_, fun j hj => rfl, fun j hj => hj.cut,
        fun j hj => findServiceDefinitionForEntry_eq hj, fun hno => absurd hi.1 (hno i)⟩
      rw [hi.unique hj]
  · refine iff_of_true (fun serviceType serviceEntryType _ _ => ?_) (Or.inr hnone)
    rw [hsplit]
    have hno (j : Nat) (hj : LastInnerPeriod str j) : False := hnone j hj.1
    exact ⟨iff_of_false (fun h => by cases h) fun ⟨i, hi⟩ => hnone i hi, fun j hj => (hno j hj).elim,
      fun j hj => (hno j hj).elim, fun j hj => hj.cut, fun j hj => (hno j hj).elim,
      fun _ => findServiceDefinitionForEntry_none hnone⟩

end

section

open Lp64

/-- Of `a.b`, the service type comes out as `b` and the entry type as it was. -/
theorem nodeSplitQualifiedType_loses_entryType :
    nodeSplitQualifiedType [0x61, 46, 0x62] (some []) (some []) = (.ok (), some [0x62], some []) ∧
      ¬ SplitsQualifiedType [0x61, 46, 0x62] (some []) (some [])
        (nodeSplitQualifiedType [0x61, 46, 0x62] (some []) (some [])) := by
  have hruns : nodeSplitQualifiedType [0x61, 46, 0x62] (some []) (some []) =
      (.ok (), some [0x62], some []) := by decide
  refine ⟨hruns, fun h => ?_⟩
  have hperiod : LastInnerPeriod [0x61, 46, 0x62] 1 := by
    refine ⟨⟨by decide, by decide, rfl⟩, fun j hj hinner => ?_⟩
    have hend := hinner.2.1
    simp at hend
    omega
  have htype := h.serviceType_eq 1 hperiod
  rw [hruns] at htype
  exact absurd htype (by decide)

end

section

variable [SizeT]

theorem nodeFindServiceForPath_eq (node : Node) (services : List Nat) {servicePath : ConstString}
    {b : UInt8} {rest : List UInt8} (hpath : servicePath.data = b :: rest) :
    nodeFindServiceForPath node services servicePath =
      services.find? fun s =>
        (node.service s).serviceName.data = b :: rest.takeWhile (· ≠ 46) := by
  rw [nodeFindServiceForPath, hpath]
  simp only [stringHash_and_cmp]

/-- Lookup and prefix test agree on a path exactly where no service owns the path with a name that
goes on behind a period. -/
theorem nodeFindServiceForPath_agrees_iff (node : Node) {services : List Nat}
    {servicePath : ConstString}
    (hnames : ∀ s ∈ services, (node.service s).serviceName.data ≠ [])
    (hdistinct : ∀ s ∈ services, ∀ s' ∈ services,
      (node.service s).serviceName.data = (node.service s').serviceName.data → s = s')
    (hpath : servicePath.data ≠ []) :
    (∀ s, nodeFindServiceForPath node services servicePath = some s ↔
        s ∈ services ∧
          nodeIsServicePathPrefix (node.service s).serviceName.data servicePath.data = true) ↔
      ∀ s ∈ services, IsServicePathPrefix (node.service s).serviceName.data servicePath.data →
        46 ∉ (node.service s).serviceName.data.tail := by
  obtain ⟨b, rest, hbytes⟩ := List.exists_cons_of_ne_nil hpath
  have hunique (s s' : Nat) (hs : s ∈ services) (hs' : s' ∈ services)
      (hname : (node.service s).serviceName.data = b :: rest.takeWhile (· ≠ 46))
      (hname' : (node.service s').serviceName.data = b :: rest.takeWhile (· ≠ 46)) : s = s' :=
    hdistinct s hs s' hs' (hname.trans hname'.symm)
  have hfind (s : Nat) : nodeFindServiceForPath node services servicePath = some s ↔
      s ∈ services ∧ (node.service s).serviceName.data = b :: rest.takeWhile (· ≠ 46) := by
    rw [nodeFindServiceForPath_eq node services hbytes]
    constructor
    · intro hfound
      exact ⟨List.mem_of_find?_eq_some hfound, by simpa using List.find?_some hfound⟩
    · rintro ⟨hmem, hname⟩
      refine (find?_eq_some_iff_of_unique fun s' hs' hname' _ => ?_).mpr ⟨hmem, by simpa using hname⟩
      exact hunique s' s hs' hmem (by simpa using hname') hname
  simp only [hfind, nodeIsServicePathPrefix_iff, hbytes]
  constructor
  · intro hagrees s hs hprefix hperiod
    have hname := ((hagrees s).mpr ⟨hs, hprefix⟩).2
    rw [hname, List.tail_cons] at hperiod
    exact notMem_takeWhile rest hperiod
  · intro hplain s
    constructor
    · rintro ⟨hs, hname⟩
      rw [hname]
      exact ⟨hs, isServicePathPrefix_takeWhile b rest⟩
    · rintro ⟨hs, hprefix⟩
      exact ⟨hs, hprefix.eq_takeWhile (hnames s hs) (hplain s hs hprefix)⟩

end

section

open Lp64

/-- A node with one service or two, by their names. -/
def namedServices (name name' : List UInt8) : Node :=
  { Node.init .any [] [] fun _ => connectionConstruct [] [] with
    service := fun s => { ServiceRecord.zero with
      serviceName := .constant (if s = 0 then name else name') } }

/-- The path `a.b` belongs to the service `a` alone, and the lookup finds it. -/
theorem plainService_found :
    nodeFindServiceForPath (namedServices [0x61] [0x61, 0x62]) [0, 1]
        (.constant [0x61, 46, 0x62]) = some 0 ∧
      ∀ s, nodeFindServiceForPath (namedServices [0x61] [0x61, 0x62]) [0, 1]
          (.constant [0x61, 46, 0x62]) = some s ↔
        s ∈ [0, 1] ∧ nodeIsServicePathPrefix
          ((namedServices [0x61] [0x61, 0x62]).service s).serviceName.data
          [0x61, 46, 0x62] = true := by
  have hnames : ∀ s ∈ [0, 1],
      ((namedServices [0x61] [0x61, 0x62]).service s).serviceName.data ≠ [] := by decide
  have hpath : (ConstString.constant [0x61, 46, 0x62]).data ≠ [] := by decide
  have hagrees := (nodeFindServiceForPath_agrees_iff (namedServices [0x61] [0x61, 0x62]) hnames
    (by decide) hpath).mpr (by decide)
  exact ⟨(hagrees 0).mpr ⟨List.mem_cons_self, by decide⟩, hagrees⟩

/-- The service `a.b` owns the path `a.b`, which is looked up as `a`. -/
theorem dottedService_unfound :
    ¬ ∀ s, nodeFindServiceForPath (namedServices [0x61, 46, 0x62] []) [0]
        (.constant [0x61, 46, 0x62]) = some s ↔
      s ∈ [0] ∧ nodeIsServicePathPrefix
        ((namedServices [0x61, 46, 0x62] []).service s).serviceName.data [0x61, 46, 0x62] = true := by
  intro hagrees
  have hunfound : nodeFindServiceForPath (namedServices [0x61, 46, 0x62] []) [0]
      (.constant [0x61, 46, 0x62]) = none := by decide
  have hfound := (hagrees 0).mpr ⟨List.mem_singleton_self 0, by decide⟩
  rw [hunfound] at hfound
  cases hfound

end

end RobotRaconteurLite

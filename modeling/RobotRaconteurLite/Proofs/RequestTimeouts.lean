import RobotRaconteurLite.Proofs.PendingRequests

/-!
# Timeouts of requests

A request is overdue once the clock is past its timeout. What the node compares
with the clock is the deadline it stored: milliseconds became microseconds in 32
bits, and a deadline of zero is none. And the walk that takes out a request loses
its way, as the links of what it took out are null. So a cycle takes out the first
request whose deadline passed, and this is right where no other one is overdue.
-/

namespace RobotRaconteurLite

/-- When the timeout of a request was set, and to how many milliseconds. -/
abbrev TimeoutSetting := Option (Int64 × Int32)

/-- The timeout of the request was set to `timeoutMs` when the clock read `t`, or never. -/
inductive TimeoutSet : NodeRequest → TimeoutSetting → Prop
  | never {request : NodeRequest} (h : request.timeoutTimespec = 0) : TimeoutSet request none
  | set {request request' : NodeRequest} {t : Int64} {timeoutMs : Int32} (hms : 0 ≤ timeoutMs)
      (h : nodeRequestSetTimeout request (.ok t) timeoutMs = (.ok (), request')) :
      TimeoutSet request' (some (t, timeoutMs))

/-- The time is past the timeout. -/
def Overdue (now : Int64) : TimeoutSetting → Bool
  | none => false
  | some (t, timeoutMs) => t.toInt + 1000 * timeoutMs.toInt < now.toInt

/-- The deadline that is stored for a timeout. -/
def storedDeadline (t : Int64) (timeoutMs : Int32) : Int :=
  (t.toInt + (timeoutMs.toInt * 1000).bmod (2 ^ 32)).bmod (2 ^ 64)

/-- The time is past the stored deadline, and there is one. -/
def Due (now : Int64) : TimeoutSetting → Bool
  | none => false
  | some (t, timeoutMs) => storedDeadline t timeoutMs ≠ 0 ∧ storedDeadline t timeoutMs < now.toInt

theorem TimeoutSet.expired_eq {request : NodeRequest} {setting : TimeoutSetting}
    (h : TimeoutSet request setting) (now : Int64) : request.expired now = Due now setting := by
  cases h with
  | never h =>
      rw [NodeRequest.expired, h]
      rfl
  | @set request _ t timeoutMs _ h =>
      obtain rfl := (Prod.mk.inj h).2
      have hdeadline : (t + (timeoutMs * 1000).toInt64).toInt = storedDeadline t timeoutMs := by
        rw [Int64.toInt_add, Int32.toInt_toInt64, Int32.toInt_mul]
        rfl
      rw [Bool.eq_iff_iff, NodeRequest.expired, Due, Bool.and_eq_true, decide_eq_true_iff,
        decide_eq_true_iff, decide_eq_true_iff, ← hdeadline, gt_iff_lt, Int64.lt_iff_toInt_lt,
        ne_eq, ne_eq, ← Int64.toInt_inj]
      rfl

/-- The product fits in 32 bits and the sum in 64, and it is not zero. -/
def TimeoutSetting.HasExactDeadline : TimeoutSetting → Prop
  | none => True
  | some (t, timeoutMs) => 0 ≤ timeoutMs.toInt ∧ timeoutMs.toInt ≤ 2147483 ∧
      t.toInt + 1000 * timeoutMs.toInt < 2 ^ 63 ∧ t.toInt + 1000 * timeoutMs.toInt ≠ 0

theorem TimeoutSetting.HasExactDeadline.due_eq {setting : TimeoutSetting}
    (h : setting.HasExactDeadline) (now : Int64) : Due now setting = Overdue now setting := by
  cases setting with
  | none => rfl
  | some setting =>
      obtain ⟨t, timeoutMs⟩ := setting
      obtain ⟨hms, hshort, hsum, hzero⟩ := h
      have ht := Int64.le_toInt t
      have hproduct : (timeoutMs.toInt * 1000).bmod (2 ^ 32) = 1000 * timeoutMs.toInt := by
        rw [Int.bmod_eq_of_le (by omega) (by omega), Int.mul_comm]
      have hdeadline : storedDeadline t timeoutMs = t.toInt + 1000 * timeoutMs.toInt := by
        rw [storedDeadline, hproduct, Int.bmod_eq_of_le (by omega) (by omega)]
      rw [Due, Overdue, hdeadline]
      simp only [ne_eq, hzero, not_false_eq_true, true_and]

/-! ## The one that is overdue -/

/-- No request is overdue or due, or one is both, it is the first that is due and the only one
that is overdue. -/
def OneOverdue (overdue due : Nat → Bool) (requests : List Nat) : Prop :=
  (∀ r ∈ requests, overdue r = false ∧ due r = false) ∨
    ∃ before r after, requests = before ++ r :: after ∧ overdue r = true ∧ due r = true ∧
      (∀ r' ∈ before, overdue r' = false ∧ due r' = false) ∧ ∀ r' ∈ after, overdue r' = false

section

variable {overdue due : Nat → Bool} {requests before after : List Nat} {r : Nat}

theorem notMem_others (hnodup : (before ++ r :: after).Nodup) : r ∉ before ++ after := by
  rw [List.perm_middle.nodup_iff] at hnodup
  exact (List.nodup_cons.mp hnodup).1

theorem oneOverdue_of_none_due (hnone : ∀ r ∈ requests, due r = false) :
    OneOverdue overdue due requests ↔ ∀ r ∈ requests, overdue r = false := by
  constructor
  · rintro (hall | ⟨before, r, after, rfl, -, hdue, -, -⟩) r' hr'
    · exact (hall r' hr').1
    · rw [hnone r List.mem_append_cons_self] at hdue
      cases hdue
  · intro h
    exact Or.inl fun r hr => ⟨h r hr, hnone r hr⟩

theorem oneOverdue_of_first_due (hnodup : (before ++ r :: after).Nodup)
    (hbefore : ∀ r' ∈ before, due r' = false) (hdue : due r = true) :
    OneOverdue overdue due (before ++ r :: after) ↔
      overdue r = true ∧ ∀ r' ∈ before ++ after, overdue r' = false := by
  constructor
  · rintro (hall | ⟨before', r₀, after', hlist, hover, hdue₀, hbefore', hafter'⟩)
    · rw [(hall r List.mem_append_cons_self).2] at hdue
      cases hdue
    · -- there is one first request that is due
      have hfirst := firstDue (rfl : before ++ r :: after = _) hbefore hdue
      have hfirst' := firstDue hlist (fun r' hr' => (hbefore' r' hr').2) hdue₀
      obtain rfl := Option.some.inj (hfirst.symm.trans hfirst')
      refine ⟨hover, fun r' hr' => ?_⟩
      have hne : r' ≠ r := fun h => notMem_others hnodup (h ▸ hr')
      have hmem : r' ∈ before' ++ r :: after' := by
        rw [← hlist]
        exact List.mem_append.mpr ((List.mem_append.mp hr').imp_right (List.mem_cons_of_mem _))
      rcases List.mem_append.mp hmem with hr'' | hr''
      · exact (hbefore' r' hr'').1
      · exact hafter' r' ((List.mem_cons.mp hr'').resolve_left hne)
  · rintro ⟨hover, hothers⟩
    refine Or.inr ⟨before, r, after, rfl, hover, hdue, ?_, ?_⟩
    · intro r' hr'
      exact ⟨hothers r' (List.mem_append_left _ hr'), hbefore r' hr'⟩
    · intro r' hr'
      exact hothers r' (List.mem_append_right _ hr')

/-- One that goes by what is overdue is right where at most one request is. -/
theorem oneOverdue_self_iff (hnodup : requests.Nodup) :
    OneOverdue overdue overdue requests ↔ (requests.filter overdue).length ≤ 1 := by
  cases hfind : requests.find? overdue with
  | none =>
      have hnone : ∀ r ∈ requests, overdue r = false := fun r hr =>
        Bool.eq_false_iff.mpr (List.find?_eq_none.mp hfind r hr)
      have hfilter : requests.filter overdue = [] :=
        List.filter_eq_nil_iff.mpr (List.find?_eq_none.mp hfind)
      rw [oneOverdue_of_none_due hnone, hfilter]
      exact iff_of_true hnone (Nat.zero_le 1)
  | some r =>
      obtain ⟨hdue, before, after, rfl, hnot⟩ := List.find?_eq_some_iff_append.mp hfind
      have hbefore : ∀ r' ∈ before, overdue r' = false := fun r' hr' =>
        Bool.not_eq_true' _ ▸ hnot r' hr'
      have hlength : ((before ++ r :: after).filter overdue).length =
          ((before ++ after).filter overdue).length + 1 := by
        rw [(List.perm_middle.filter overdue).length_eq, List.filter_cons_of_pos hdue]
        rfl
      have hzero : ((before ++ after).filter overdue).length + 1 ≤ 1 ↔
          ((before ++ after).filter overdue).length = 0 := by omega
      rw [oneOverdue_of_first_due hnodup hbefore hdue, hlength, hzero, List.length_eq_zero_iff,
        List.filter_eq_nil_iff, and_iff_right hdue]
      simp only [Bool.not_eq_true]

end

/-! ## A cycle -/

section

variable [SizeT]

/-- What a cycle promises for the requests that are overdue. -/
structure Node.TimesOut (node node' : Node) (overdue : Nat → Bool) : Prop where
  left : node'.requestsHead.getD [] = (node.requestsHead.getD []).filter fun r => !overdue r
  status : ∀ r ∈ node.requestsHead.getD [], overdue r = true →
    (node'.request r).requestStatus = .error .timeout
  told : ∀ r ∈ node.requestsHead.getD [], overdue r = true →
    node'.calls.count (.requestError r) =
      node.calls.count (.requestError r) + (node.request r).requestError.toNat
  others : ∀ r ∈ node.requestsHead.getD [], overdue r = false →
    node'.request r = node.request r ∧
      node'.calls.count (.requestError r) = node.calls.count (.requestError r)

/-- A node that stays as it is timed everything out if nothing is overdue. -/
theorem timesOut_refl_iff (node : Node) (overdue : Nat → Bool) :
    node.TimesOut node overdue ↔ ∀ r ∈ node.requestsHead.getD [], overdue r = false := by
  constructor
  · intro h r hr
    exact Bool.not_eq_true' _ ▸ List.filter_eq_self.mp h.left.symm r hr
  · intro hall
    have hover {r : Nat} (hr : r ∈ node.requestsHead.getD []) : overdue r ≠ true := by
      rw [hall r hr]
      exact Bool.false_ne_true
    exact ⟨(List.filter_eq_self.mpr fun r hr => by rw [hall r hr]; rfl).symm,
      fun r hr ho => absurd ho (hover hr), fun r hr ho => absurd ho (hover hr),
      fun r _ _ => ⟨rfl, rfl⟩⟩

/-- A node that took out one request timed everything out if it was the only one overdue. -/
theorem timesOut_removed_iff {node node' : Node} {overdue : Nat → Bool} {before after : List Nat}
    {r : Nat} (hlist : node.requestsHead.getD [] = before ++ r :: after)
    (hnodup : (before ++ r :: after).Nodup)
    (hleft : node'.requestsHead.getD [] = before ++ after)
    (hrequest : node'.request = Function.update node.request r
      { node.request r with requestStatus := .error .timeout })
    (hcalls : node'.calls =
      node.calls ++ if (node.request r).requestError then [.requestError r] else []) :
    node.TimesOut node' overdue ↔
      overdue r = true ∧ ∀ r' ∈ before ++ after, overdue r' = false := by
  have hnotMem := notMem_others hnodup
  constructor
  · intro h
    have hfilter := h.left
    rw [hleft, hlist] at hfilter
    constructor
    · by_contra hover
      have hmem : r ∈ (before ++ r :: after).filter fun r => !overdue r :=
        List.mem_filter.mpr ⟨List.mem_append_cons_self, by rw [Bool.eq_false_iff.mpr hover]; rfl⟩
      rw [← hfilter] at hmem
      exact hnotMem hmem
    · intro r' hr'
      rw [hfilter] at hr'
      exact Bool.not_eq_true' _ ▸ (List.mem_filter.mp hr').2
  · rintro ⟨hover, hothers⟩
    have hcount (r' : Nat) : node'.calls.count (.requestError r') =
        node.calls.count (.requestError r') +
          if r' = r then (node.request r).requestError.toNat else 0 := by
      rw [hcalls, List.count_append]
      by_cases hr : r' = r
      · rw [hr, if_pos rfl]
        cases (node.request r).requestError <;> simp
      · rw [if_neg hr]
        cases (node.request r).requestError <;> simp [Ne.symm hr]
    have hone {r' : Nat} (hr' : r' ∈ node.requestsHead.getD []) (ho : overdue r' = true) :
        r' = r := by
      by_contra hne
      rw [hlist] at hr'
      have hin : r' ∈ before ++ after := by simpa [hne] using hr'
      rw [hothers r' hin] at ho
      cases ho
    constructor
    · rw [hleft, hlist, List.filter_append, List.filter_cons_of_neg (by simp [hover]),
        ← List.filter_append]
      exact (List.filter_eq_self.mpr fun r' hr' => by rw [hothers r' hr']; rfl).symm
    · intro r' hr' ho
      obtain rfl := hone hr' ho
      rw [hrequest, Function.update_self]
    · intro r' hr' ho
      obtain rfl := hone hr' ho
      rw [hcount, if_pos rfl]
    · intro r' hr' ho
      have hne : r' ≠ r := by
        intro hr
        rw [hr, hover] at ho
        cases ho
      rw [hrequest, Function.update_of_ne hne, hcount, if_neg hne, Nat.add_zero]
      exact ⟨rfl, rfl⟩

/-- A cycle takes out the requests that are overdue exactly where there is none, or one that is the
first whose deadline passed. -/
theorem nodeRequestsProcessControl_timesOut_iff (node : Node) (now : Int64)
    (setting : Nat → TimeoutSetting) (hnodup : (node.requestsHead.getD []).Nodup)
    (hset : ∀ r ∈ node.requestsHead.getD [], TimeoutSet (node.request r) (setting r)) :
    node.TimesOut (nodeRequestsProcessControl node now) (fun r => Overdue now (setting r)) ↔
      OneOverdue (fun r => Overdue now (setting r)) (fun r => Due now (setting r))
        (node.requestsHead.getD []) := by
  rcases nodeRequestsProcessControl_cases node now with
    ⟨hnone, heq⟩ | ⟨before, r, after, hlist, hbefore, hdue, hleft, hrequest, hcalls⟩
  · have hnone' : ∀ r ∈ node.requestsHead.getD [], Due now (setting r) = false := by
      intro r hr
      rw [← (hset r hr).expired_eq now]
      exact hnone r hr
    rw [heq, timesOut_refl_iff, oneOverdue_of_none_due hnone']
  · rw [hlist] at hset hnodup
    have hbefore' : ∀ r' ∈ before, Due now (setting r') = false := by
      intro r' hr'
      rw [← (hset r' (List.mem_append_left _ hr')).expired_eq now]
      exact hbefore r' hr'
    have hdue' : Due now (setting r) = true := by
      rw [← (hset r List.mem_append_cons_self).expired_eq now]
      exact hdue
    rw [timesOut_removed_iff hlist hnodup hleft hrequest hcalls, hlist,
      oneOverdue_of_first_due hnodup hbefore' hdue']

/-- Where the deadlines are exact, a cycle is right exactly where at most one request is overdue. -/
theorem nodeRequestsProcessControl_exact_iff (node : Node) (now : Int64)
    (setting : Nat → TimeoutSetting) (hnodup : (node.requestsHead.getD []).Nodup)
    (hset : ∀ r ∈ node.requestsHead.getD [], TimeoutSet (node.request r) (setting r))
    (hexact : ∀ r, (setting r).HasExactDeadline) :
    node.TimesOut (nodeRequestsProcessControl node now) (fun r => Overdue now (setting r)) ↔
      ((node.requestsHead.getD []).filter fun r => Overdue now (setting r)).length ≤ 1 := by
  have hdue : (fun r => Due now (setting r)) = fun r => Overdue now (setting r) :=
    funext fun r => (hexact r).due_eq now
  rw [nodeRequestsProcessControl_timesOut_iff node now setting hnodup hset, hdue,
    oneOverdue_self_iff hnodup]

end

section

open Lp64

/-- A node with requests whose timeouts were set when the clock read 1. -/
def timedNode (timeoutMs : Nat → Int32) (requests : List Nat) : Node :=
  { Node.init .any [] [] fun _ => connectionConstruct [] [] with
    requestsHead := some requests
    request := fun r => (nodeRequestSetTimeout NodeRequest.zero (.ok 1) (timeoutMs r)).2 }

theorem timedNode_timesOut :
    (timedNode (fun r => if r = 1 then 0 else 5) [0, 1, 2]).TimesOut
      (nodeRequestsProcessControl (timedNode (fun r => if r = 1 then 0 else 5) [0, 1, 2]) 9)
      fun r => Overdue 9 (some (1, if r = 1 then 0 else 5)) :=
  (nodeRequestsProcessControl_timesOut_iff _ 9 (fun r => some (1, if r = 1 then 0 else 5))
    (by decide) fun r _ => .set (by split <;> decide) rfl).mpr
      (Or.inr ⟨[0], 1, [2], rfl, by decide, by decide, by decide, by decide⟩)

/-- Of two requests that are overdue, the second one stays. -/
theorem timedNode_keeps_second :
    (∀ r ∈ (timedNode (fun _ => 0) [0, 1]).requestsHead.getD [],
      TimeoutSet ((timedNode (fun _ => 0) [0, 1]).request r) (some (1, 0))) ∧
      ¬ (timedNode (fun _ => 0) [0, 1]).TimesOut
        (nodeRequestsProcessControl (timedNode (fun _ => 0) [0, 1]) 9)
        fun _ => Overdue 9 (some (1, 0)) := by
  refine ⟨fun r _ => .set (by decide) rfl, fun h => ?_⟩
  have hleft := h.left
  revert hleft
  decide +kernel

end

end RobotRaconteurLite

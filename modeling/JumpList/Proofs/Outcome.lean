/-
# JumpList.Proofs.Outcome — what many outcomes merge to.

Merging keeps the first specific outcome whatever else there is (`mergeAll_of_find?_eq_some`).  Without
a specific outcome the result is a success exactly if everything was (`mergeAll_eq_success_iff`), so a
loss is never merged away.

Every stage on the way is what the outcomes up to there merge to (`stages_eq_map_mergeAll`), and outcomes
can be merged in two stages (`mergeAll_append`), because merging is associative.  It is not commutative,
since the first specific outcome hides the others; but how much the result says, its weight, is the
greatest weight of all and depends on no order (`weight_mergeAll_perm`).

Together these say what any outcomes merge to without merging them: `resolve` reads the result off the
list, and `mergeAll_keeps_first_specific` says that it is the same.
-/
import JumpList.Outcome
import Mathlib.Data.List.Perm.Basic

namespace JumpList.Outcome

/-- The two outcomes that are not specific. -/
theorem isSpecific_eq_false_iff {o : Outcome} :
    o.isSpecific = false ↔ o = .success ∨ o = .genericError := by
  cases o <;> simp [isSpecific]

/-- A specific outcome stays. -/
theorem merge_of_isSpecific {current : Outcome} (h : current.isSpecific) (latest : Outcome) :
    current.merge latest = current := by
  simp [merge, h]

/-- The first specific outcome counts. -/
theorem merge_of_not_isSpecific {current latest : Outcome} (h : current.isSpecific = false)
    (hlatest : latest.isSpecific) : current.merge latest = latest := by
  rcases isSpecific_eq_false_iff.mp h with rfl | rfl
  · exact success_merge latest
  · cases latest <;> first | rfl | cases hlatest

theorem isSpecific_merge {current latest : Outcome} (h : current.isSpecific = false) :
    (current.merge latest).isSpecific = latest.isSpecific := by
  rcases isSpecific_eq_false_iff.mp h with rfl | rfl
  · rw [success_merge]
  · cases latest <;> rfl

/-- Something was lost, so nothing is a success after that. -/
theorem spoiled_ne_success (o : Outcome) : o.spoiled ≠ .success := by
  intro h
  exact absurd (merge_eq_success_iff.mp h).2 (by decide)

theorem spoiled_of_isSpecific {o : Outcome} (h : o.isSpecific) : o.spoiled = o :=
  merge_of_isSpecific h _

theorem spoiled_of_not_isSpecific {o : Outcome} (h : o.isSpecific = false) :
    o.spoiled = .genericError := by
  rcases isSpecific_eq_false_iff.mp h with rfl | rfl <;> rfl

/-! ## Many outcomes -/

theorem mergeAll_of_isSpecific {start : Outcome} (h : start.isSpecific) (os : List Outcome) :
    mergeAll start os = start := by
  induction os with
  | nil => rfl
  | cons o os ih =>
    show mergeAll (start.merge o) os = start
    rw [merge_of_isSpecific h, ih]

/-- The first specific outcome is the result. -/
theorem mergeAll_of_find?_eq_some {start o : Outcome} {os : List Outcome}
    (hstart : start.isSpecific = false) (h : os.find? isSpecific = some o) :
    mergeAll start os = o := by
  induction os generalizing start with
  | nil => cases h
  | cons o' os ih =>
    show mergeAll (start.merge o') os = o
    by_cases ho : o'.isSpecific
    · obtain rfl : o' = o := by simpa [List.find?_cons_of_pos, ho] using h
      rw [merge_of_not_isSpecific hstart ho, mergeAll_of_isSpecific ho]
    · rw [List.find?_cons_of_neg ho] at h
      exact ih (by simpa [isSpecific_merge hstart] using ho) h

/-- Without a specific outcome the result is not specific. -/
theorem mergeAll_of_find?_eq_none {start : Outcome} {os : List Outcome}
    (hstart : start.isSpecific = false) (h : os.find? isSpecific = none) :
    (mergeAll start os).isSpecific = false := by
  induction os generalizing start with
  | nil => exact hstart
  | cons o os ih =>
    show (mergeAll (start.merge o) os).isSpecific = false
    have ho : o.isSpecific = false := by simpa using List.find?_eq_none.mp h o List.mem_cons_self
    rw [List.find?_cons_of_neg (by simp [ho])] at h
    exact ih (by rw [isSpecific_merge hstart, ho]) h

/-- The result is a success exactly if everything is. -/
theorem mergeAll_eq_success_iff {start : Outcome} {os : List Outcome} :
    mergeAll start os = .success ↔ start = .success ∧ ∀ o ∈ os, o = .success := by
  induction os generalizing start with
  | nil => simp [mergeAll]
  | cons o os ih =>
    show mergeAll (start.merge o) os = .success ↔ _
    rw [ih, merge_eq_success_iff, List.forall_mem_cons, and_assoc]

/-! ## In stages, and in another order -/

/-- Merging onto an outcome is merging first and putting that outcome in front. -/
theorem mergeAll_eq_merge (start : Outcome) (os : List Outcome) :
    mergeAll start os = start.merge (mergeAll .success os) := by
  induction os generalizing start with
  | nil => exact (merge_success start).symm
  | cons o os ih =>
    show mergeAll (start.merge o) os = start.merge (mergeAll (success.merge o) os)
    rw [ih (start.merge o), ih (success.merge o), success_merge, merge_assoc]

/-- The outcomes of a first and of a second stage can be merged apart. -/
theorem mergeAll_append (start : Outcome) (os os' : List Outcome) :
    mergeAll start (os ++ os') = (mergeAll start os).merge (mergeAll .success os') := by
  have hstages : mergeAll start (os ++ os') = mergeAll (mergeAll start os) os' := List.foldl_append
  rw [hstages, mergeAll_eq_merge]

/-- Each stage of a merge is what the outcomes up to there merge to. -/
theorem stages_eq_map_mergeAll (start : Outcome) (os : List Outcome) :
    stages start os = (List.range os.length).map fun i => mergeAll start (os.take (i + 1)) := by
  induction os generalizing start with
  | nil => rfl
  | cons o os ih =>
    rw [stages, ih, List.length_cons, List.range_succ_eq_map, List.map_cons, List.map_map]
    rfl

/-- How much an outcome says: that nothing was lost, that something was, or what the cause is. -/
def weight : Outcome → Nat
  | .success => 0
  | .genericError => 1
  | .argumentError | .separatorError | .unregisteredFileType | .categoryDenied => 2

theorem weight_eq_two_of_isSpecific {o : Outcome} (h : o.isSpecific) : o.weight = 2 := by
  cases o <;> first | rfl | cases h

theorem weight_le_two (o : Outcome) : o.weight ≤ 2 := by
  cases o <;> decide

/-- Of two outcomes the one that says more counts. -/
theorem weight_merge (a b : Outcome) : (a.merge b).weight = max a.weight b.weight := by
  by_cases ha : a.isSpecific
  · rw [merge_of_isSpecific ha, weight_eq_two_of_isSpecific ha]
    have hb := weight_le_two b
    omega
  · -- Neither success nor the generic error hides anything.
    rcases isSpecific_eq_false_iff.mp (by simpa using ha) with rfl | rfl
    · rw [success_merge]
      exact (Nat.zero_max _).symm
    · cases b <;> rfl

theorem weight_mergeAll (start : Outcome) (os : List Outcome) :
    (mergeAll start os).weight = (os.map weight).foldl max start.weight := by
  induction os generalizing start with
  | nil => rfl
  | cons o os ih =>
    show (mergeAll (start.merge o) os).weight = (os.map weight).foldl max (max start.weight o.weight)
    rw [ih, weight_merge]

/-- In whichever order outcomes are merged, the result says as much. -/
theorem weight_mergeAll_perm {os os' : List Outcome} (h : os.Perm os') (start : Outcome) :
    (mergeAll start os).weight = (mergeAll start os').weight := by
  rw [weight_mergeAll, weight_mergeAll]
  exact (h.map weight).foldl_eq _

/-! ## Read off the list -/

/-- What outcomes come to, read off the list of them: the first that is neither a success nor the
generic error, or else the generic error if it is there at all. -/
def resolve (start : Outcome) (os : List Outcome) : Outcome :=
  if start ≠ .success ∧ start ≠ .genericError then start
  else
    match os.find? fun o => o ≠ .success ∧ o ≠ .genericError with
    | some o => o
    | none => if start = .genericError ∨ .genericError ∈ os then .genericError else .success

theorem isSpecific_eq_decide (o : Outcome) :
    o.isSpecific = decide (o ≠ .success ∧ o ≠ .genericError) := by
  cases o <;> rfl

/-- Where nothing is specific, the result is the generic error exactly if that is there. -/
theorem mergeAll_of_none_specific {start : Outcome} {os : List Outcome}
    (hstart : start.isSpecific = false) (h : os.find? isSpecific = none) :
    mergeAll start os =
      if start = .genericError ∨ .genericError ∈ os then .genericError else .success := by
  have hall : ∀ o ∈ os, o = .success ∨ o = .genericError := fun o ho =>
    isSpecific_eq_false_iff.mp (by simpa using List.find?_eq_none.mp h o ho)
  have hresult := isSpecific_eq_false_iff.mp (mergeAll_of_find?_eq_none hstart h)
  by_cases hgeneric : start = .genericError ∨ .genericError ∈ os
  · rw [if_pos hgeneric]
    refine hresult.resolve_left fun hsuccess => ?_
    obtain ⟨hs, hos⟩ := mergeAll_eq_success_iff.mp hsuccess
    rcases hgeneric with rfl | hmem
    · cases hs
    · cases hos _ hmem
  · rw [if_neg hgeneric]
    rw [not_or] at hgeneric
    refine mergeAll_eq_success_iff.mpr ⟨?_, fun o ho => ?_⟩
    · exact (isSpecific_eq_false_iff.mp hstart).resolve_right hgeneric.1
    · exact (hall o ho).resolve_right fun heq => hgeneric.2 (heq ▸ ho)

theorem mergeAll_eq_resolve (start : Outcome) (os : List Outcome) :
    mergeAll start os = resolve start os := by
  have hfind : (os.find? fun o => o ≠ .success ∧ o ≠ .genericError) = os.find? isSpecific :=
    congrArg os.find? (funext fun o => (isSpecific_eq_decide o).symm)
  rw [resolve, hfind]
  by_cases hstart : start ≠ .success ∧ start ≠ .genericError
  · rw [if_pos hstart]
    exact mergeAll_of_isSpecific (by rw [isSpecific_eq_decide, decide_eq_true hstart]) os
  · rw [if_neg hstart]
    have hplain : start.isSpecific = false := by
      rw [isSpecific_eq_decide, decide_eq_false hstart]
    cases h : os.find? isSpecific with
    | some o => exact mergeAll_of_find?_eq_some hplain h
    | none => exact mergeAll_of_none_specific hplain h

/-- Outcomes merge to the first specific one, else to the generic error if it is among them, else to a
success, and so they do at every stage on the way.  So the result is a success exactly if everything is,
and a list can be cut anywhere. -/
theorem mergeAll_keeps_first_specific (start : Outcome) (os os' : List Outcome) :
    mergeAll start os = resolve start os ∧
      stages start os = (List.range os.length).map (fun i => resolve start (os.take (i + 1))) ∧
      (mergeAll start os = .success ↔ start = .success ∧ ∀ o ∈ os, o = .success) ∧
      mergeAll start (os ++ os') = (mergeAll start os).merge (mergeAll .success os') := by
  refine ⟨mergeAll_eq_resolve start os, ?_, mergeAll_eq_success_iff, mergeAll_append start os os'⟩
  rw [stages_eq_map_mergeAll]
  exact List.map_congr_left fun i _ => mergeAll_eq_resolve start (os.take (i + 1))

/-- A specific outcome is not lost to what comes before it or after it. -/
example : mergeAll .success [.genericError, .unregisteredFileType, .genericError, .categoryDenied] =
    .unregisteredFileType := rfl

end JumpList.Outcome

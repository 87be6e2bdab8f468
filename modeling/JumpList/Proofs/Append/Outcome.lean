/-
# JumpList.Proofs.Append.Outcome — what the outcome of appending says.

Success is honest: a category succeeds exactly if every call made for it did, and no separator stands
in it where none may stand (`Category.Course.success_iff`).  This carries over to any list of
categories (`appendCategories_success_iff`), since merging hides no loss.
-/
import JumpList.Proofs.Append.Course
import JumpList.Proofs.Outcome

namespace JumpList

open Native

/-! ## Single calls -/

theorem Outcome.ofReply_eq_success_iff {call : Call} (reply : call.Reply) :
    ofReply reply = .success ↔ Event.succeeded ⟨call, reply⟩ := by
  rcases reply with f | a <;> simp [ofReply]

theorem Outcome.settled_eq_success_iff (gathered : Outcome) {call : Call} (reply : call.Reply) :
    gathered.settled reply = .success ↔
      gathered = .success ∧ Event.succeeded ⟨call, reply⟩ := by
  rcases reply with f | a
  · have hlost : gathered.settled (.error f : call.Reply) ≠ .success := by
      show (if (ofRefusal f.status).isSpecific then ofRefusal f.status else gathered.spoiled) ≠ _
      split
      · intro h
        simp_all [isSpecific]
      · exact gathered.spoiled_ne_success
    simpa using hlost
  · simp [settled]

/-- A collection that was created is no loss. -/
theorem forall_succeeded_created {es : List Event} :
    (∀ e ∈ (⟨.createObjectCollection, .ok ()⟩ : Event) :: es, Event.succeeded e) ↔
      ∀ e ∈ es, e.succeeded := by
  rw [List.forall_mem_cons]
  exact and_iff_right rfl

/-! ### No argument error

Only the caller's value as a whole can be wrong, never a category of it. -/

theorem Outcome.merge_ne_argumentError {current latest : Outcome}
    (hcurrent : current ≠ .argumentError) (hlatest : latest ≠ .argumentError) :
    current.merge latest ≠ .argumentError := by
  unfold merge
  split
  · exact hcurrent
  · exact hlatest

theorem Outcome.ofReply_ne_argumentError {α : Type} (reply : Except Failure α) :
    ofReply reply ≠ .argumentError := by
  rcases reply with f | a
  · show genericError ≠ argumentError
    decide
  · show success ≠ argumentError
    decide

theorem Outcome.ofRefusal_ne_argumentError (status : Status) : ofRefusal status ≠ .argumentError := by
  unfold ofRefusal
  split
  · decide
  · split <;> decide

theorem Outcome.settled_ne_argumentError {gathered : Outcome} (h : gathered ≠ .argumentError)
    {α : Type} (reply : Except Failure α) : gathered.settled reply ≠ .argumentError := by
  rcases reply with f | a
  · show (if (ofRefusal f.status).isSpecific then ofRefusal f.status else gathered.spoiled) ≠ _
    split
    · exact ofRefusal_ne_argumentError f.status
    · exact merge_ne_argumentError h (by decide)
  · exact h

namespace Category

/-! ## One category -/

/-- No separator stands in a custom category. -/
def KeepsSeparatorsOut (c : Category) : Prop :=
  c.kind = .custom → ∀ item ∈ c.items, item.kind ≠ .separator

/-- Nothing is refused exactly if no separator stands where none may stand. -/
theorem any_refuses_eq_false_iff {c : Category} (hk : c.kind.known? = none) :
    c.items.any c.refuses = false ↔ c.KeepsSeparatorsOut := by
  cases h : c.kind with
  | frequent => simp [h, Kind.known?] at hk
  | recent => simp [h, Kind.known?] at hk
  | tasks => simp [refuses, KeepsSeparatorsOut, h, Kind.admitsSeparators]
  | custom => simp [refuses, KeepsSeparatorsOut, h, Kind.admitsSeparators]

/-- Gathering succeeds exactly if every call did and nothing was refused. -/
theorem gathered_eq_success_iff {c : Category} (hk : c.kind.known? = none) {tries : List Item.Try}
    (ht : Item.TriesAll c.attempted tries) :
    c.gathered (c.objects tries) = .success ↔
      (∀ e ∈ tries.flatMap Prod.fst, e.succeeded) ∧ c.KeepsSeparatorsOut := by
  rw [← any_refuses_eq_false_iff hk, ← ht.length_realizedAll.2]
  unfold gathered Gathering.outcome Gathering.holding
  by_cases hr : c.items.any c.refuses
  · simp [hr]
  · -- Nothing is refused, so every item is tried and the lengths can be compared.
    have hnone : ∀ item ∈ c.items, c.refuses item = false := by simpa using hr
    have hall : c.attempted = c.items := by
      refine List.filter_eq_self.mpr fun item hitem => ?_
      rw [hnone item hitem]
      rfl
    simp [hr, objects, hall]

theorem gathered_ne_argumentError (c : Category) (objects : Collection) :
    c.gathered objects ≠ .argumentError := by
  unfold gathered Gathering.outcome
  split
  · decide
  · split <;> decide

namespace Course

variable {c : Category} {es : List Event} {calls : List Call} {outcome : Outcome}

/-- A category succeeds exactly if every call for it did and it keeps separators out. -/
theorem success_iff (h : c.Course es calls outcome) :
    outcome = .success ↔ (∀ e ∈ es, e.succeeded) ∧ c.KeepsSeparatorsOut := by
  cases h with
  | known reply hk =>
    have hkeeps : c.KeepsSeparatorsOut := by
      intro hcustom
      simp [hcustom, Kind.known?] at hk
    simpa [hkeeps] using Outcome.ofReply_eq_success_iff reply
  | empty hk hi => simp [KeepsSeparatorsOut, hi]
  | uncollected f hk hi => simp
  | unbuilt hk hi ht ho =>
    rw [← ho, gathered_eq_success_iff hk ht, forall_succeeded_created]
  | tasks reply hk hi ht ho =>
    rw [Outcome.merge_eq_success_iff, gathered_eq_success_iff (by rw [hk]; rfl) ht,
      Outcome.ofReply_eq_success_iff, and_right_comm, forall_succeeded_created,
      List.forall_mem_append, List.forall_mem_singleton]
  | custom reply hk hi ht ho =>
    rw [Outcome.settled_eq_success_iff, gathered_eq_success_iff (by rw [hk]; rfl) ht,
      and_right_comm, forall_succeeded_created, List.forall_mem_append, List.forall_mem_singleton]

theorem ne_argumentError (h : c.Course es calls outcome) : outcome ≠ .argumentError := by
  cases h with
  | known reply => exact Outcome.ofReply_ne_argumentError reply
  | empty => decide
  | uncollected f => decide
  | unbuilt => exact c.gathered_ne_argumentError _
  | tasks reply =>
    exact Outcome.merge_ne_argumentError (c.gathered_ne_argumentError _)
      (Outcome.ofReply_ne_argumentError reply)
  | custom reply => exact Outcome.settled_ne_argumentError (c.gathered_ne_argumentError _) reply

end Course

end Category

/-! ## All categories -/

variable {σ : Type} (answer : Shell σ)

/-- Nothing but success comes of categories exactly if every call for them succeeded and each keeps
separators out. -/
theorem forall_success_iff {cs : List Category} {parts : List (List Event × Outcome)}
    (h : List.Forall₂ (fun c part => c.Course part.1 (handOvers part.1) part.2) cs parts) :
    (∀ o ∈ parts.map Prod.snd, o = .success) ↔
      (∀ e ∈ parts.flatMap Prod.fst, e.succeeded) ∧ ∀ c ∈ cs, c.KeepsSeparatorsOut := by
  induction h with
  | nil => simp
  | cons hc _ ih =>
    simp only [List.map_cons, List.flatMap_cons, List.forall_mem_cons, List.forall_mem_append,
      hc.success_iff, ih]
    exact and_and_and_comm

/-- Appending categories succeeds exactly if every call did and each category keeps separators out. -/
theorem appendCategories_success_iff (cs : List Category) (s : σ) :
    ((appendCategories cs).run answer s).value = .success ↔
      (∀ e ∈ ((appendCategories cs).run answer s).events, Event.succeeded e) ∧
        ∀ c ∈ cs, c.KeepsSeparatorsOut := by
  obtain ⟨parts, hparts, he, hv⟩ := appendCategories_parts answer cs s
  rw [appendCategories_value, hv, he, Outcome.mergeAll_eq_success_iff, forall_success_iff hparts]
  exact and_iff_right rfl

/-- No category finds the caller's value as a whole wrong. -/
theorem ne_argumentError_of_mem_places {cs : List Category} {s : σ} {o : Outcome}
    (h : o ∈ ((cs.mapM Category.place).run answer s).value) : o ≠ .argumentError := by
  obtain ⟨parts, hparts, -, hv⟩ := appendCategories_parts answer cs s
  rw [hv] at h
  obtain ⟨part, hpart, rfl⟩ := List.mem_map.mp h
  obtain ⟨c, -, hcourse⟩ := Dialogue.exists_of_mem_parts hparts hpart
  exact hcourse.ne_argumentError

end JumpList

/-
# JumpList.Proofs.Manager.Result — the one result of an update is honest.

An update reports one outcome for everything that happened in it.  `update_outcome` says when it is
which: an argument error if a list was opened and the value supplied for it is no jump list, and only
then; a success if no call failed and no separator was out of place, and only then; the first outcome
that blames a category if there is one, whatever else went wrong before or after it; and the generic
error in every other case.
-/
import JumpList.Proofs.Append.Outcome
import JumpList.Proofs.Manager.Course

namespace JumpList

open Native

/-- The outcomes that say what was wrong with a category. -/
def Outcome.blamesCategory : Outcome → Bool
  | .separatorError | .unregisteredFileType | .categoryDenied => true
  | .success | .argumentError | .genericError => false

/-- Of what comes of categories, the specific outcomes are those that blame a category. -/
theorem Outcome.isSpecific_eq_blamesCategory {o : Outcome} (h : o ≠ .argumentError) :
    o.isSpecific = o.blamesCategory := by
  cases o <;> first | rfl | exact absurd rfl h

namespace Manager

variable {σ : Type}

/-- In state `s` the shell opens a list, but the provider's value for it is no jump list. -/
def Rejects (m : Manager) (answer : Shell σ) (provider : Provider) (s : σ) : Prop :=
  ∃ opening s', m.Opens answer s opening s' ∧
    ∃ e, Format.readCategories (provider (.ofOpening opening)) = .error e

/-- In state `s` the shell opens a list and is in state `s'` after that, and the provider's value for
the list stands for the categories `cs`. -/
def Accepts (m : Manager) (answer : Shell σ) (provider : Provider) (s s' : σ)
    (cs : List Category) : Prop :=
  ∃ opening, m.Opens answer s opening s' ∧
    Format.readCategories (provider (.ofOpening opening)) = .ok cs

variable {m : Manager} {answer : Shell σ} {provider : Provider} {s s' : σ} {cs : List Category}

theorem Accepts.unique {s₂ : σ} {cs₂ : List Category} (h : m.Accepts answer provider s s' cs)
    (h₂ : m.Accepts answer provider s s₂ cs₂) : s₂ = s' ∧ cs₂ = cs := by
  obtain ⟨opening, ho, hr⟩ := h
  obtain ⟨opening₂, ho₂, hr₂⟩ := h₂
  obtain ⟨rfl, rfl⟩ := ho.unique ho₂
  rw [hr] at hr₂
  exact ⟨rfl, (Except.ok.inj hr₂).symm⟩

theorem Accepts.not_rejects (h : m.Accepts answer provider s s' cs) :
    ¬ m.Rejects answer provider s := by
  rintro ⟨opening₂, s₂, ho₂, e, hr₂⟩
  obtain ⟨opening, ho, hr⟩ := h
  obtain ⟨rfl, rfl⟩ := ho.unique ho₂
  rw [hr] at hr₂
  cases hr₂

/-- The shell refuses to open a list, or the provider's value is rejected, or it is accepted. -/
theorem refuses_or_rejects_or_accepts (m : Manager) (answer : Shell σ) (provider : Provider)
    (s : σ) : (∀ opening s', ¬ m.Opens answer s opening s') ∨ m.Rejects answer provider s ∨
      ∃ s' cs, m.Accepts answer provider s s' cs := by
  rcases m.opens_or_refused answer s with ⟨opening, s', ho⟩ | hnone
  · right
    cases hr : Format.readCategories (provider (.ofOpening opening)) with
    | error e => exact .inl ⟨opening, s', ho, e, hr⟩
    | ok cs => exact .inr ⟨s', cs, opening, ho, hr⟩
  · exact .inl hnone

/-! ## The three situations -/

/-- A list that is not opened is not opened because a call failed. -/
theorem Refused.exists_failed {id : AppId} {es : List Event} (h : Refused id es) :
    ∃ e ∈ es, e.succeeded = false := by
  cases h with
  | list f => exact ⟨_, List.mem_cons_self, rfl⟩
  | identity f => exact ⟨_, List.mem_cons_of_mem _ List.mem_cons_self, rfl⟩
  | opening f =>
    exact ⟨_, List.mem_cons_of_mem _ (List.mem_cons_of_mem _ List.mem_cons_self), rfl⟩

/-- A rejected value is the caller's error. -/
theorem update_of_rejects (h : m.Rejects answer provider s) :
    ((m.update provider).run answer s).value.outcome = .argumentError := by
  obtain ⟨opening, s', ho, e, hr⟩ := h
  rw [run_update, run_onOpenList_of_opens ho]
  show ((m.updateOn provider _ _).run answer s').value.outcome = .argumentError
  rw [(run_updateOn_of_error answer m hr s').1]

/-- The events and the outcome of an update whose value is accepted. -/
theorem update_of_accepts (h : m.Accepts answer provider s s' cs) :
    let appended := (appendCategories cs).run answer s'
    let ending := Ending.ofCommit answer appended.state
    (∃ opening, ((m.update provider).run answer s).events =
        openingEvents m.id opening ++ (appended.events ++ ending.events)) ∧
      ((m.update provider).run answer s).value.outcome =
        if ending.isCommitted then appended.value else appended.value.spoiled := by
  intro appended ending
  obtain ⟨opening, ho, hr⟩ := h
  obtain ⟨hv, he⟩ := run_updateOn_of_ok answer m hr s'
  rw [run_update, run_onOpenList_of_opens ho]
  refine ⟨⟨opening, ?_⟩, ?_⟩
  · show openingEvents m.id opening ++ ((m.updateOn provider _ _).run answer s').events = _
    rw [he]
  · show ((m.updateOn provider _ _).run answer s').value.outcome = _
    rw [hv]

/-- The commit succeeded exactly if no call failed in it. -/
theorem forall_succeeded_ofCommit (answer : Shell σ) (s : σ) :
    (∀ e ∈ (Ending.ofCommit answer s).events, e.succeeded) ↔
      (Ending.ofCommit answer s).isCommitted := by
  unfold Ending.ofCommit
  split
  · exact iff_of_true (by simp [Ending.events, Event.succeeded, Event.failure?]) rfl
  · simp [Ending.events, Ending.isCommitted]

/-- An accepted update succeeds exactly if no call failed and no separator is out of place. -/
theorem update_success_iff (h : m.Accepts answer provider s s' cs) :
    ((m.update provider).run answer s).value.outcome = .success ↔
      (∀ e ∈ ((m.update provider).run answer s).events, Event.succeeded e) ∧
        ∀ c ∈ cs, c.KeepsSeparatorsOut := by
  obtain ⟨⟨opening, he⟩, hv⟩ := update_of_accepts h
  have hopening : ∀ e ∈ openingEvents m.id opening, e.succeeded := by
    simp [openingEvents, Event.succeeded, Event.failure?]
  rw [hv, he, List.forall_mem_append, and_iff_right hopening, List.forall_mem_append,
    and_right_comm, ← appendCategories_success_iff, forall_succeeded_ofCommit]
  -- A list that is not committed spoils the outcome, and its commit is a call that failed.
  split
  · rename_i hcom
    exact (and_iff_left hcom).symm
  · rename_i hcom
    exact iff_of_false (Outcome.spoiled_ne_success _) fun hall => hcom hall.2

/-- The first outcome that blames a category is the result of an accepted update. -/
theorem update_of_blamed (h : m.Accepts answer provider s s' cs) {o : Outcome}
    (ho : ((cs.mapM Category.place).run answer s').value.find? Outcome.isSpecific = some o) :
    ((m.update provider).run answer s).value.outcome = o := by
  obtain ⟨-, hv⟩ := update_of_accepts h
  have happended : ((appendCategories cs).run answer s').value = o := by
    rw [appendCategories_value]
    exact Outcome.mergeAll_of_find?_eq_some rfl ho
  rw [hv, happended, Outcome.spoiled_of_isSpecific (List.find?_some ho), ite_self]

/-- Without an outcome that blames a category the result of an accepted update is not specific. -/
theorem update_of_not_blamed (h : m.Accepts answer provider s s' cs)
    (ho : ((cs.mapM Category.place).run answer s').value.find? Outcome.isSpecific = none) :
    ((m.update provider).run answer s).value.outcome.isSpecific = false := by
  obtain ⟨-, hv⟩ := update_of_accepts h
  have happended : ((appendCategories cs).run answer s').value.isSpecific = false := by
    rw [appendCategories_value]
    exact Outcome.mergeAll_of_find?_eq_none rfl ho
  rw [hv]
  split
  · exact happended
  · rw [Outcome.spoiled_of_not_isSpecific happended]
    rfl

/-- The outcome that blames a category, as far as it is about what comes of categories. -/
theorem find?_blamesCategory (answer : Shell σ) (cs : List Category) (s : σ) :
    ((cs.mapM Category.place).run answer s).value.find? Outcome.blamesCategory =
      ((cs.mapM Category.place).run answer s).value.find? Outcome.isSpecific := by
  rw [← List.head?_filter, ← List.head?_filter]
  congr 1
  refine List.filter_congr fun o ho => ?_
  exact (Outcome.isSpecific_eq_blamesCategory (ne_argumentError_of_mem_places answer ho)).symm

/-! ## The result -/

/-- The outcome `o` of an update in state `s`, with the events `es`, says what happened. -/
structure Honest (m : Manager) (answer : Shell σ) (provider : Provider) (s : σ) (es : List Event)
    (o : Outcome) : Prop where
  /-- The caller is at fault exactly if a list was opened and the value for it is no jump list. -/
  argumentError_iff : o = .argumentError ↔ m.Rejects answer provider s
  /-- Nothing was lost exactly if it says so. -/
  success_iff : o = .success ↔ (∀ e ∈ es, e.succeeded) ∧
    ∃ s' cs, m.Accepts answer provider s s' cs ∧ ∀ c ∈ cs, c.KeepsSeparatorsOut
  /-- The first category that is to blame is blamed. -/
  blamed : ∀ s' cs o', m.Accepts answer provider s s' cs →
    ((cs.mapM Category.place).run answer s').value.find? Outcome.blamesCategory = some o' → o = o'
  /-- In every other case it is the generic error. -/
  remaining : o ≠ .argumentError → o ≠ .success →
    (∀ s' cs, m.Accepts answer provider s s' cs →
      ((cs.mapM Category.place).run answer s').value.find? Outcome.blamesCategory = none) →
    o = .genericError

variable {es : List Event} {o : Outcome}

/-- The generic error is honest if no list could be opened, since a call failed. -/
theorem honest_of_refused (h : ∀ opening s', ¬ m.Opens answer s opening s')
    (hfailed : ∃ e ∈ es, e.succeeded = false) : m.Honest answer provider s es .genericError where
  argumentError_iff := by
    refine iff_of_false (by decide) ?_
    rintro ⟨opening, s', ho, -⟩
    exact h opening s' ho
  success_iff := by
    refine iff_of_false (by decide) ?_
    rintro ⟨hall, -⟩
    obtain ⟨e, hmem, he⟩ := hfailed
    rw [hall e hmem] at he
    cases he
  blamed := by
    rintro s' cs o' ⟨opening, ho, -⟩ -
    exact absurd ho (h opening s')
  remaining := fun _ _ _ => rfl

/-- The argument error is honest if the provider's value is rejected. -/
theorem honest_of_rejects (h : m.Rejects answer provider s) :
    m.Honest answer provider s es .argumentError where
  argumentError_iff := iff_of_true rfl h
  success_iff := by
    refine iff_of_false (by decide) ?_
    rintro ⟨-, s', cs, haccepts, -⟩
    exact haccepts.not_rejects h
  blamed := by
    intro s' cs o' haccepts _
    exact absurd h haccepts.not_rejects
  remaining := fun hne => absurd rfl hne

/-- The outcome of an update whose value is accepted is never an argument error. -/
theorem update_ne_argumentError (h : m.Accepts answer provider s s' cs) :
    ((m.update provider).run answer s).value.outcome ≠ .argumentError := by
  -- Either it is the outcome of a category, or it is not specific.
  cases ho : ((cs.mapM Category.place).run answer s').value.find? Outcome.isSpecific with
  | some o =>
    rw [update_of_blamed h ho]
    exact ne_argumentError_of_mem_places answer (List.mem_of_find?_eq_some ho)
  | none =>
    have hnot := update_of_not_blamed h ho
    intro hv
    rw [hv] at hnot
    cases hnot

/-- The outcome of an update whose value is accepted is honest. -/
theorem honest_of_accepts (h : m.Accepts answer provider s s' cs) :
    m.Honest answer provider s ((m.update provider).run answer s).events
      ((m.update provider).run answer s).value.outcome where
  argumentError_iff := iff_of_false (update_ne_argumentError h) h.not_rejects
  success_iff := by
    rw [update_success_iff h]
    refine and_congr_right fun _ => ⟨fun hkeeps => ⟨s', cs, h, hkeeps⟩, ?_⟩
    rintro ⟨s₂, cs₂, h₂, hkeeps⟩
    obtain ⟨rfl, rfl⟩ := h.unique h₂
    exact hkeeps
  blamed := by
    intro s₂ cs₂ o' h₂ ho
    obtain ⟨rfl, rfl⟩ := h.unique h₂
    rw [find?_blamesCategory] at ho
    exact update_of_blamed h ho
  remaining := by
    intro _ hne hnone
    have ho := hnone s' cs h
    rw [find?_blamesCategory] at ho
    rcases Outcome.isSpecific_eq_false_iff.mp (update_of_not_blamed h ho) with hv | hv
    · exact absurd hv hne
    · exact hv

/-- The one result of an update says what happened in it, whatever the provider supplies and however
the shell answers. -/
theorem update_outcome (m : Manager) (provider : Provider) (answer : Shell σ) (s : σ) :
    m.Honest answer provider s ((m.update provider).run answer s).events
      ((m.update provider).run answer s).value.outcome := by
  rcases m.refuses_or_rejects_or_accepts answer provider s with h | h | ⟨s', cs, h⟩
  · obtain ⟨hreport, hrefused⟩ := run_update_of_refused provider h
    rw [hreport]
    exact honest_of_refused h hrefused.exists_failed
  · rw [update_of_rejects h]
    exact honest_of_rejects h
  · exact honest_of_accepts h

end Manager

end JumpList

/-
# JumpList.Proofs.Manager.Course — no request leaves a list open.

The calls of a request have one of few shapes.  Either there is no list to work on; or the list of the
identity is deleted; or the calls that open a list end with one that is refused; or a list is opened,
filled, and brought to its end, by a commit or by an abort (`Ending`).  `performAll_shapes` says so of
every request in every sequence of requests, and tells which end an open list comes to: it is aborted
without an attempt to commit it exactly if the provider's value is no jump list, or the user tasks
cannot be appended.
-/
import JumpList.Proofs.Manager.Opening

namespace JumpList

open Native

/-! ## The end of an open list -/

/-- How an open list came to its end. -/
inductive Ending where
  | committed
  /-- The commit was refused, and the list aborted after that. -/
  | refused (f : Failure) (reply : Call.Reply .abortList)
  /-- The list was aborted without an attempt to commit it. -/
  | aborted (reply : Call.Reply .abortList)

namespace Ending

/-- The events of an ending. -/
def events : Ending → List Event
  | .committed => [⟨.commitList, .ok ()⟩]
  | .refused f reply => [⟨.commitList, .error f⟩, ⟨.abortList, reply⟩]
  | .aborted reply => [⟨.abortList, reply⟩]

/-- Whether the list was committed. -/
def isCommitted : Ending → Bool
  | .committed => true
  | .refused _ _ | .aborted _ => false

/-- Whether there was no attempt to commit the list. -/
def isUntried : Ending → Bool
  | .aborted _ => true
  | .committed | .refused _ _ => false

variable {σ : Type}

/-- The end that the attempt to commit comes to. -/
def ofCommit (answer : Shell σ) (s : σ) : Ending :=
  match answer .commitList s with
  | (.ok (), _) => .committed
  | (.error f, s) => .refused f (answer .abortList s).1

/-- Committing an open list and closing its transaction brings the list to that end. -/
theorem commit_close {t : Transaction} (h : t.phase = .began) (answer : Shell σ) (s : σ) :
    let c := t.commit.run answer s
    c.value.1 = (if (ofCommit answer s).isCommitted then .success else .genericError) ∧
      c.events ++ (c.value.2.close.run answer c.state).events = (ofCommit answer s).events := by
  rcases hc : answer .commitList s with ⟨f | ⟨⟨⟩⟩, s'⟩
  · obtain ⟨records, hr⟩ := Transaction.run_close_of_began h answer s'
    simp [Transaction.run_commit_of_error h hc, hr, ofCommit, hc, isCommitted, events]
  · simp [Transaction.run_commit_of_ok h hc, Transaction.run_close_of_ne, ofCommit, hc,
      isCommitted, events]

@[simp] theorem isUntried_ofCommit (answer : Shell σ) (s : σ) :
    (ofCommit answer s).isUntried = false := by
  unfold ofCommit
  split <;> rfl

end Ending

namespace Manager

variable {σ : Type} (answer : Shell σ)

/-! ## Requests on an open list -/

/-- A value that is no jump list aborts the update, and nothing is put on the list. -/
theorem run_updateOn_of_error (m : Manager) {provider : Provider} {snapshot : Snapshot}
    {e : Format.Error} (h : Format.readCategories (provider snapshot) = .error e) (s : σ) :
    ((m.updateOn provider snapshot ⟨m.id, .began⟩).run answer s).value =
        ⟨.argumentError, some snapshot⟩ ∧
      ((m.updateOn provider snapshot ⟨m.id, .began⟩).run answer s).events =
        (Ending.aborted (answer .abortList s).1).events := by
  obtain ⟨outcome, records, ha⟩ := Transaction.run_abort_of_began (t := ⟨m.id, .began⟩) rfl answer s
  simp [updateOn, h, Dialogue.run_bind, ha, Transaction.run_close_of_ne, Ending.events]

/-- The categories of the provider are appended, and the list is committed. -/
theorem run_updateOn_of_ok (m : Manager) {provider : Provider} {snapshot : Snapshot}
    {cs : List Category} (h : Format.readCategories (provider snapshot) = .ok cs) (s : σ) :
    let appended := (appendCategories cs).run answer s
    let ending := Ending.ofCommit answer appended.state
    ((m.updateOn provider snapshot ⟨m.id, .began⟩).run answer s).value =
        ⟨if ending.isCommitted then appended.value else appended.value.spoiled, some snapshot⟩ ∧
      ((m.updateOn provider snapshot ⟨m.id, .began⟩).run answer s).events =
        appended.events ++ ending.events := by
  intro appended ending
  obtain ⟨hv, he⟩ :=
    Ending.commit_close (t := ⟨m.id, .began⟩) rfl answer appended.state
  constructor
  · cases hcom : ending.isCommitted <;>
      simp [updateOn, h, fillAndCommit, Transaction.appendCategories_of_began, Dialogue.run_bind,
        hv, hcom, appended, ending]
  · simp [updateOn, h, fillAndCommit, Transaction.appendCategories_of_began, Dialogue.run_bind,
      ← he, appended, ending]

/-- User tasks that cannot be appended abort the list. -/
theorem run_setTasksOn_of_false (id : AppId) {items : List Item} {s : σ}
    (h : ((appendUserTasks items).run answer s).value = false) :
    let appended := (appendUserTasks items).run answer s
    ((setTasksOn items ⟨id, .began⟩).run answer s).value = false ∧
      ((setTasksOn items ⟨id, .began⟩).run answer s).events =
        appended.events ++ (Ending.aborted (answer .abortList appended.state).1).events := by
  intro appended
  obtain ⟨outcome, records, ha⟩ :=
    Transaction.run_abort_of_began (t := ⟨id, .began⟩) rfl answer appended.state
  simp [setTasksOn, h, Transaction.appendUserTasks_of_began, Dialogue.run_bind, ha, appended,
    Transaction.run_close_of_ne, Ending.events]

/-- User tasks that were appended are committed. -/
theorem run_setTasksOn_of_true (id : AppId) {items : List Item} {s : σ}
    (h : ((appendUserTasks items).run answer s).value = true) :
    let appended := (appendUserTasks items).run answer s
    let ending := Ending.ofCommit answer appended.state
    ((setTasksOn items ⟨id, .began⟩).run answer s).value = ending.isCommitted ∧
      ((setTasksOn items ⟨id, .began⟩).run answer s).events =
        appended.events ++ ending.events := by
  intro appended ending
  obtain ⟨hv, he⟩ := Ending.commit_close (t := ⟨id, .began⟩) rfl answer appended.state
  constructor
  · cases hcom : ending.isCommitted <;>
      simp [setTasksOn, h, Transaction.appendUserTasks_of_began, Dialogue.run_bind, hv, hcom,
        appended, ending]
  · simp [setTasksOn, h, Transaction.appendUserTasks_of_began, Dialogue.run_bind, ← he, appended,
      ending]

/-! ## Every request -/

/-- The events of a request are those of opening a list, filling it and bringing it to an end. -/
def Fills (m : Manager) (opening : Opening) (block : List Event) (ending : Ending)
    (es : List Event) : Prop :=
  es = openingEvents m.id opening ++ block ++ ending.events ∧ ∀ e ∈ block, e.1.fills

/-- What may happen when a request is made in state `s`, and what it reports.  The provider of an
update is asked once if the list is opened, and not at all if it is not. -/
def Shape (m : Manager) (answer : Shell σ) (s : σ) :
    Request → Report → List Event → Prop
  | .delete, _, es =>
    (∃ f, es = [⟨.createDestinationList, .error f⟩]) ∨
      ∃ reply, es = [⟨.createDestinationList, .ok ()⟩, ⟨.deleteList m.id.text, reply⟩]
  | .update provider, report, es =>
    (Refused m.id es ∧ ∃ outcome, report = .updated ⟨outcome, none⟩) ∨
      ∃ opening s' block ending, m.Opens answer s opening s' ∧ m.Fills opening block ending es ∧
        (∃ outcome, report = .updated ⟨outcome, some (.ofOpening opening)⟩) ∧
        (ending.isUntried ↔
          ∃ e, Format.readCategories (provider (.ofOpening opening)) = .error e) ∧
        (ending.isUntried → block = [])
  | .setUserTasks items, _, es =>
    Refused m.id es ∨
      ∃ opening s' block ending, m.Opens answer s opening s' ∧ m.Fills opening block ending es ∧
        (ending.isUntried ↔ ((appendUserTasks items).run answer s').value = false)

theorem delete_shape (m : Manager) (s : σ) :
    m.Shape answer s .delete ((m.perform .delete).run answer s).value
      ((m.perform .delete).run answer s).events := by
  rcases h₁ : answer .createDestinationList s with ⟨f | ⟨⟨⟩⟩, s₁⟩
  · exact .inl ⟨f, by simp [perform, delete, onFreshList, Dialogue.run_bind, h₁]⟩
  · refine .inr ⟨(answer (.deleteList m.id.text) s₁).1, ?_⟩
    rcases h₂ : answer (.deleteList m.id.text) s₁ with ⟨f | ⟨⟨⟩⟩, s₂⟩
    · simp [perform, delete, onFreshList, Transaction.fresh, Transaction.delete,
        Transaction.inPhase_of_eq, Transaction.run_close_of_ne, Dialogue.run_bind, h₁, h₂]
    · simp [perform, delete, onFreshList, Transaction.fresh, Transaction.delete,
        Transaction.inPhase_of_eq, Transaction.run_close_of_ne, Dialogue.run_bind, h₁, h₂]

theorem update_shape (m : Manager) (provider : Provider) (s : σ) :
    m.Shape answer s (.update provider) ((m.perform (.update provider)).run answer s).value
      ((m.perform (.update provider)).run answer s).events := by
  simp only [perform, Dialogue.run_bind, Dialogue.run_pure, List.append_nil]
  rcases m.opens_or_refused answer s with ⟨opening, s', ho⟩ | hnone
  · simp only [run_update, run_onOpenList_of_opens ho]
    right
    -- Whether the value is a jump list decides between an abort and an attempt to commit.
    cases hr : Format.readCategories (provider (.ofOpening opening)) with
    | error e =>
      obtain ⟨hv, he⟩ := run_updateOn_of_error answer m hr s'
      refine ⟨opening, s', [], .aborted (answer .abortList s').1, ho, ⟨by simp [he], by simp⟩,
        ⟨_, by rw [hv]⟩, ?_, fun _ => rfl⟩
      exact iff_of_true rfl ⟨e, hr⟩
    | ok cs =>
      obtain ⟨hv, he⟩ := run_updateOn_of_ok answer m hr s'
      refine ⟨opening, s', _, _, ho, ⟨by rw [he, List.append_assoc],
        (appendCategories_onlyFills cs).forall_events answer s'⟩, ⟨_, by rw [hv]⟩, ?_, ?_⟩
      · simp [hr]
      · simp
  · left
    obtain ⟨hv, he⟩ := run_update_of_refused provider hnone
    exact ⟨he, _, by rw [hv]⟩

theorem setUserTasks_shape (m : Manager) (items : List Item) (s : σ) :
    m.Shape answer s (.setUserTasks items) ((m.perform (.setUserTasks items)).run answer s).value
      ((m.perform (.setUserTasks items)).run answer s).events := by
  simp only [perform, Dialogue.run_bind, setUserTasks_eq, Dialogue.run_pure, List.append_nil]
  rcases m.opens_or_refused answer s with ⟨opening, s', ho⟩ | hnone
  · simp only [run_onOpenList_of_opens ho]
    have fills := (appendUserTasks_onlyFills items).forall_events answer s'
    right
    cases hv : ((appendUserTasks items).run answer s').value with
    | false =>
      obtain ⟨-, he⟩ := run_setTasksOn_of_false answer m.id hv
      exact ⟨opening, s', _, _, ho, ⟨by rw [he, List.append_assoc], fills⟩, iff_of_true rfl hv⟩
    | true =>
      obtain ⟨-, he⟩ := run_setTasksOn_of_true answer m.id hv
      exact ⟨opening, s', _, _, ho, ⟨by rw [he, List.append_assoc], fills⟩, by simp [hv]⟩
  · left
    exact (run_onOpenList_of_refused _ _ hnone).2

theorem perform_shape (m : Manager) (q : Request) (s : σ) :
    m.Shape answer s q ((m.perform q).run answer s).value ((m.perform q).run answer s).events := by
  cases q with
  | update provider => exact update_shape answer m provider s
  | delete => exact delete_shape answer m s
  | setUserTasks items => exact setUserTasks_shape answer m items s

theorem performAll_eq_mapM (m : Manager) (qs : List Request) :
    m.performAll qs = qs.mapM m.perform := by
  induction qs with
  | nil => rfl
  | cons q qs ih => simp [performAll, List.mapM_cons, ih]

/-- Requests that are made one after the other, in whatever order and however the shell answers, make
their calls one after the other, and the calls of each have one of the shapes. -/
theorem performAll_shapes (m : Manager) (s : σ) (qs : List Request) :
    let parts := Dialogue.starts answer m.perform qs s
    parts.map Prod.fst = qs ∧
      ((m.performAll qs).run answer s).value =
        parts.map (fun p => ((m.perform p.1).run answer p.2).value) ∧
      ((m.performAll qs).run answer s).events =
        parts.flatMap (fun p => ((m.perform p.1).run answer p.2).events) ∧
      ∀ p ∈ parts, m.Shape answer p.2 p.1 ((m.perform p.1).run answer p.2).value
        ((m.perform p.1).run answer p.2).events := by
  intro parts
  obtain ⟨hv, he, -⟩ := Dialogue.run_mapM answer m.perform qs s
  rw [performAll_eq_mapM]
  exact ⟨Dialogue.map_fst_starts answer m.perform qs s, hv, he,
    fun p _ => perform_shape answer m p.1 p.2⟩

end Manager

end JumpList

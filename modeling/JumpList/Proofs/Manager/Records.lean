/-
# JumpList.Proofs.Manager.Records — a request succeeds exactly if it leaves no error.

Requests report one result, and they leave records.  The two agree: whatever is requested and however the
shell answers, the report is one of success exactly if no record of the request counts as an error
(`errors_tell`).  What is tolerated, as a removed object that is no item or user tasks that the shell
does not take, leaves a lesser record or none.

A request has an error of its own at every step that can go wrong: the opening of the list, the value of
the provider, every category (`appendCategories_success_iff_errors`), the user tasks
(`appendUserTasks_whole_iff_errors`), and the end of the list.
-/
import JumpList.Proofs.Append.Records
import JumpList.Proofs.Manager.Opening

namespace JumpList

open Native

/-! ## Opening and ending a list -/

/-- That a removed object is no item is no error. -/
theorem Native.RemovedObject.level_ne_error {o : RemovedObject} {record : Log.Record}
    (h : o.judge = .error record) : record.level ≠ .error := by
  cases o with
  | unrecognized =>
    obtain rfl := Except.error.inj h
    decide
  | file path =>
    rcases path with f | path
    · obtain rfl := Except.error.inj h
      exact nofun
    · simp only [judge] at h
      split at h
      · obtain rfl := Except.error.inj h
        decide
      · cases h
  | link properties =>
    simp only [judge] at h
    split at h
    · cases h
    · obtain rfl := Except.error.inj h
      exact nofun

theorem errors_removedRecords (objects : List RemovedObject) :
    Log.errors (removedRecords objects) = [] := by
  rw [Log.errors_eq_nil_iff]
  intro record hrecord
  obtain ⟨o, -, ho⟩ := List.mem_filterMap.mp hrecord
  cases hj : o.judge with
  | ok item => simp [hj] at ho
  | error record' =>
    obtain rfl : record' = record := by simpa [hj] using ho
    exact o.level_ne_error hj

/-- A list that is opened leaves no error. -/
theorem Manager.errors_openingRecords (id : AppId) (opening : Opening) :
    Log.errors (openingRecords id opening) = [] := by
  rw [openingRecords, Log.errors_append, errors_removedRecords]
  rfl

namespace Transaction

variable {σ : Type} {t : Transaction}

/-- An open list that is tried to be committed, and then closed, leaves no error exactly if it was
committed. -/
theorem commit_close_success_iff_errors (h : t.phase = .began) (answer : Shell σ) (s : σ) :
    let c := t.commit.run answer s
    c.value.1 = .success ↔
      Log.errors c.records = [] ∧ Log.errors (c.value.2.close.run answer c.state).records = [] := by
  intro c
  rcases hc : answer .commitList s with ⟨f | ⟨⟨⟩⟩, s'⟩
  · rw [show c = _ from run_commit_of_error h hc]
    refine iff_of_false nofun ?_
    rintro ⟨hnone, -⟩
    cases hnone
  · rw [show c = _ from run_commit_of_ok h hc]
    have hclosed := run_close_of_ne (t := { t with phase := .committed }) nofun answer s'
    exact iff_of_true rfl ⟨rfl, congrArg (fun r => Log.errors r.records) hclosed⟩

end Transaction

namespace Manager

variable {σ : Type} (answer : Shell σ)

/-! ## Requests -/

/-- A list that is filled and committed leaves no error exactly if nothing was lost. -/
theorem fillAndCommit_success_iff_errors (m : Manager) {t : Transaction} (h : t.phase = .began)
    (cs : List Category) (s : σ) :
    ((m.fillAndCommit t cs).run answer s).value = .success ↔
      Log.errors ((m.fillAndCommit t cs).run answer s).records = [] := by
  have happended := appendCategories_success_iff_errors answer cs s
  have hcommitted := Transaction.commit_close_success_iff_errors h answer
    ((appendCategories cs).run answer s).state
  -- That the update came to its end is no error.
  have hfinished (outcome : Outcome) (records : List Log.Record) :
      Log.errors (Notice.updateFinished m.id outcome :: records) = Log.errors records := rfl
  simp only [fillAndCommit, Transaction.appendCategories_of_began h, Dialogue.run_bind,
    Dialogue.run_pure, run_note, List.append_nil, List.singleton_append, Log.errors_append,
    hfinished, List.append_eq_nil_iff, ← happended, ← hcommitted]
  split
  · rename_i hcom
    exact (and_iff_left hcom).symm
  · rename_i hcom
    exact iff_of_false (Outcome.spoiled_ne_success _) fun hall => hcom hall.2

/-- An update of an open list succeeds exactly if it leaves no error. -/
theorem updateOn_success_iff_errors (m : Manager) (provider : Provider) (snapshot : Snapshot)
    (s : σ) :
    let r := (m.updateOn provider snapshot ⟨m.id, .began⟩).run answer s
    r.value.outcome = .success ↔ Log.errors r.records = [] := by
  intro r
  cases hr : Format.readCategories (provider snapshot) with
  | error e =>
    have hvalue : r.value.outcome = .argumentError := by
      simp [r, updateOn, hr, Dialogue.run_bind]
    have hrejected : Notice.providerRejected e ∈ r.records := by
      simp [r, updateOn, hr, Dialogue.run_bind]
    rw [hvalue, Log.errors_eq_nil_iff]
    exact iff_of_false nofun fun hnone => hnone _ hrejected rfl
  | ok cs =>
    have hfilled := fillAndCommit_success_iff_errors answer m (t := ⟨m.id, .began⟩) rfl cs s
    simpa [r, updateOn, hr, Dialogue.run_bind] using hfilled

/-- User tasks are set on an open list exactly if that leaves no error. -/
theorem setTasksOn_whole_iff_errors (id : AppId) (items : List Item) (s : σ) :
    let r := (setTasksOn items ⟨id, .began⟩).run answer s
    r.value = true ↔ Log.errors r.records = [] := by
  intro r
  have happended := appendUserTasks_whole_iff_errors answer items s
  cases hv : ((appendUserTasks items).run answer s).value with
  | false =>
    rw [hv] at happended
    have hlost : Log.errors ((appendUserTasks items).run answer s).records ≠ [] :=
      fun hnone => Bool.false_ne_true (happended.mpr hnone)
    simp [r, setTasksOn, Transaction.appendUserTasks_of_began, Dialogue.run_bind, hv, hlost]
  | true =>
    rw [hv] at happended
    have hnone := happended.mp rfl
    have hcommitted := Transaction.commit_close_success_iff_errors (t := ⟨id, .began⟩) rfl answer
      ((appendUserTasks items).run answer s).state
    simp [r, setTasksOn, Transaction.appendUserTasks_of_began, Dialogue.run_bind, hv, hnone,
      hcommitted]

/-! ## Every request -/

/-- Whether a report is one of success. -/
def Report.isSuccess : Report → Bool
  | .updated report => report.outcome == .success
  | .deleted outcome => outcome == .success
  | .tasksSet whole => whole

/-- A request that needs an open list succeeds exactly if it leaves no error, provided that this holds of
what it does with the list. -/
theorem onOpenList_iff_errors (m : Manager) {α : Type} (otherwise : α)
    (body : Snapshot → Transaction → Talk α) {P : α → Prop} (hP : ¬ P otherwise)
    (hbody : ∀ snapshot s, let r := (body snapshot ⟨m.id, .began⟩).run answer s
      P r.value ↔ Log.errors r.records = []) (s : σ) :
    let r := (m.onOpenList otherwise body).run answer s
    P r.value ↔ Log.errors r.records = [] := by
  intro r
  rcases m.opens_or_refused answer s with ⟨opening, s', ho⟩ | hnone
  · rw [show r = _ from run_onOpenList_of_opens ho]
    dsimp only
    rw [Log.errors_append, errors_openingRecords, List.nil_append]
    exact hbody (.ofOpening opening) s'
  · obtain ⟨s', es, record, -, hlevel, hrun⟩ := exists_run_of_refused hnone
    rw [show r = _ from hrun otherwise body, Log.errors_eq_nil_iff]
    exact iff_of_false hP fun hall => hall record List.mem_cons_self hlevel

theorem delete_success_iff_errors (m : Manager) (s : σ) :
    (m.delete.run answer s).value = .success ↔ Log.errors (m.delete.run answer s).records = [] := by
  rcases h₁ : answer .createDestinationList s with ⟨f | ⟨⟨⟩⟩, s₁⟩
  · simp [delete, onFreshList, Dialogue.run_bind, h₁, Log.errors, Notice.noDestinationList]
  rcases h₂ : answer (.deleteList m.id.text) s₁ with ⟨f | ⟨⟨⟩⟩, s₂⟩
  · simp [delete, onFreshList, Transaction.fresh, Transaction.delete, Transaction.inPhase_of_eq,
      Transaction.run_close_of_ne, Dialogue.run_bind, h₁, h₂, Log.errors, Notice.deleteRefused]
  · simp [delete, onFreshList, Transaction.fresh, Transaction.delete, Transaction.inPhase_of_eq,
      Transaction.run_close_of_ne, Dialogue.run_bind, h₁, h₂, Log.errors, Notice.deleted]

/-- Every request succeeds exactly if it leaves no error. -/
theorem perform_isSuccess_iff_errors (m : Manager) (q : Request) (s : σ) :
    let r := (m.perform q).run answer s
    r.value.isSuccess ↔ Log.errors r.records = [] := by
  cases q with
  | update provider =>
    have hupdate := onOpenList_iff_errors answer m ⟨.genericError, none⟩ (m.updateOn provider)
      (P := fun report => report.outcome = .success) nofun
      (fun snapshot s => updateOn_success_iff_errors answer m provider snapshot s) s
    rw [← run_update] at hupdate
    simpa [perform, Dialogue.run_bind, Report.isSuccess] using hupdate
  | delete =>
    have hdelete := delete_success_iff_errors answer m s
    simpa [perform, Dialogue.run_bind, Report.isSuccess] using hdelete
  | setUserTasks items =>
    have hset := onOpenList_iff_errors answer m false (fun _ t => setTasksOn items t)
      (P := fun whole => whole = true) Bool.false_ne_true
      (fun _ s => setTasksOn_whole_iff_errors answer m.id items s) s
    rw [← setUserTasks_eq] at hset
    simpa [perform, Dialogue.run_bind, Report.isSuccess] using hset

/-- Errors tell of every loss and of nothing else.  A request succeeds exactly if it leaves none; and
appending a category whose collection was created leaves one for each item that is not in the collection,
and one more if the collection was handed over and not taken. -/
theorem errors_tell (answer : Shell σ) (s : σ) :
    (∀ (m : Manager) (q : Request), let r := (m.perform q).run answer s
      r.value.isSuccess ↔ Log.errors r.records = []) ∧
    ∀ c : Category, c.kind.known? = none → c.items ≠ [] →
      (answer .createObjectCollection s).1 = .ok () →
      ∃ fates final, c.TellsLosses fates final (c.append.run answer s).events
        (Log.errors (c.append.run answer s).records) :=
  ⟨fun m q => perform_isSuccess_iff_errors answer m q s,
    fun _ hk hi hcreate => Category.append_losses answer hk hi hcreate⟩

end Manager

end JumpList

/-
# JumpList.Proofs.Manager.Opening — requests that need an open list.

An update and the setting of user tasks start alike: three calls open a list, and if one of them is
refused the request is over.  `Manager.onOpenList` is that common start.  Its runs are known from the
answers to the three calls: either the shell opens the list (`Manager.Opens`) and the rest of the
request runs on it (`run_onOpenList_of_opens`), or the calls up to the refused one are all that happens
(`exists_run_of_refused`).
-/
import JumpList.Manager
import JumpList.Proofs.Transaction.History

namespace JumpList

open Native

/-- What the provider is told when a list is opened. -/
def Snapshot.ofOpening (opening : Opening) : Snapshot :=
  ⟨opening.minimumSlots, removedItems opening.removed⟩

namespace Manager

/-- Goes on with an open list of its own, if there is such a list. -/
def onOpenList {α : Type} (m : Manager) (otherwise : α) (body : Snapshot → Transaction → Talk α) :
    Talk α :=
  m.onFreshList otherwise fun t => do
    let (begun, t) ← t.begin
    match begun with
    | .error _ =>
      t.close
      return otherwise
    | .ok snapshot => body snapshot t

/-- The events by which a list is opened. -/
def openingEvents (id : AppId) (opening : Opening) : List Event :=
  [⟨.createDestinationList, .ok ()⟩, ⟨.setAppId id.text, .ok ()⟩, ⟨.beginList, .ok opening⟩]

/-- The records that the opening of a list leaves. -/
def openingRecords (id : AppId) (opening : Opening) : List Log.Record :=
  removedRecords opening.removed ++
    [Notice.removedConverted (removedItems opening.removed).length opening.removed.length,
      Notice.began id opening.minimumSlots (removedItems opening.removed).length]

/-- The events of an opening that one of the three calls refused. -/
inductive Refused (id : AppId) : List Event → Prop
  | list (f : Failure) : Refused id [⟨.createDestinationList, .error f⟩]
  | identity (f : Failure) :
      Refused id [⟨.createDestinationList, .ok ()⟩, ⟨.setAppId id.text, .error f⟩]
  | opening (f : Failure) :
      Refused id [⟨.createDestinationList, .ok ()⟩, ⟨.setAppId id.text, .ok ()⟩,
        ⟨.beginList, .error f⟩]

variable {σ : Type}

/-- In state `s` the shell grants the calls that open a list, reports `opening`, and is in state `s'`
after that. -/
structure Opens (m : Manager) (answer : Shell σ) (s : σ) (opening : Opening) (s' : σ) : Prop where
  created : (answer .createDestinationList s).1 = .ok ()
  identified : (answer (.setAppId m.id.text) (answer .createDestinationList s).2).1 = .ok ()
  begun : answer .beginList (answer (.setAppId m.id.text) (answer .createDestinationList s).2).2 =
    (.ok opening, s')

variable {m : Manager} {answer : Shell σ} {s s' : σ} {opening : Opening}

theorem Opens.unique {opening₂ : Opening} {s₂ : σ} (h : m.Opens answer s opening s')
    (h₂ : m.Opens answer s opening₂ s₂) : opening₂ = opening ∧ s₂ = s' := by
  have heq := h.begun.symm.trans h₂.begun
  obtain ⟨ho, rfl⟩ := Prod.mk.inj heq
  exact ⟨(Except.ok.inj ho).symm, rfl⟩

variable {α : Type} {otherwise : α} {body : Snapshot → Transaction → Talk α}

/-- On a list that the shell opens the rest of the request runs. -/
theorem run_onOpenList_of_opens (h : m.Opens answer s opening s') :
    (m.onOpenList otherwise body).run answer s =
      let r := (body (.ofOpening opening) ⟨m.id, .began⟩).run answer s'
      ⟨r.value, r.state, openingEvents m.id opening ++ r.events,
        openingRecords m.id opening ++ r.records⟩ := by
  obtain ⟨h₁, h₂, h₃⟩ := h
  simp [onOpenList, onFreshList, Transaction.begin, Transaction.inPhase, Transaction.fresh,
    Dialogue.run_bind, h₁, h₂, h₃, openingEvents, openingRecords, Snapshot.ofOpening]

/-- A transaction that cannot be begun says nothing specific. -/
theorem error_of_begin {t : Transaction} {s : σ} {o : Outcome}
    (h : (t.begin.run answer s).value.1 = .error o) : o = .genericError := by
  by_cases hp : t.phase = .idle
  · rcases h₁ : answer (.setAppId t.id.text) s with ⟨f | ⟨⟨⟩⟩, s₁⟩
    · simpa [Transaction.begin, Transaction.inPhase, hp, Dialogue.run_bind, h₁, eq_comm] using h
    · rcases h₂ : answer .beginList s₁ with ⟨f | opening, s₂⟩
      · simpa [Transaction.begin, Transaction.inPhase, hp, Dialogue.run_bind, h₁, h₂, eq_comm]
          using h
      · simp [Transaction.begin, Transaction.inPhase, hp, Dialogue.run_bind, h₁, h₂] at h
  · simpa [Transaction.begin, Transaction.inPhase, hp, eq_comm] using h

/-- The shell opens a list, or it refuses to. -/
theorem opens_or_refused (m : Manager) (answer : Shell σ) (s : σ) :
    (∃ opening s', m.Opens answer s opening s') ∨ ∀ opening s', ¬ m.Opens answer s opening s' := by
  by_cases ho : ∃ opening s', m.Opens answer s opening s'
  · exact .inl ho
  · exact .inr fun opening s' h => ho ⟨opening, s', h⟩

/-- Without an open list nothing but the calls up to the refused one happens, and one record tells of
it.  What the rest of the request would have been makes no difference. -/
theorem exists_run_of_refused (h : ∀ opening s', ¬ m.Opens answer s opening s') :
    ∃ s' es record, Refused m.id es ∧ record.level = .error ∧
      ∀ {α : Type} (otherwise : α) (body : Snapshot → Transaction → Talk α),
        (m.onOpenList otherwise body).run answer s = ⟨otherwise, s', es, [record]⟩ := by
  rcases h₁ : answer .createDestinationList s with ⟨f | ⟨⟨⟩⟩, s₁⟩
  · refine ⟨s₁, _, Notice.noDestinationList f, .list f, rfl, fun otherwise body => ?_⟩
    simp [onOpenList, onFreshList, Dialogue.run_bind, h₁]
  rcases h₂ : answer (.setAppId m.id.text) s₁ with ⟨f | ⟨⟨⟩⟩, s₂⟩
  · refine ⟨s₂, _, Notice.appIdRefused m.id f, .identity f, rfl, fun otherwise body => ?_⟩
    simp [onOpenList, onFreshList, Transaction.begin, Transaction.inPhase, Transaction.fresh,
      Transaction.close, Dialogue.run_bind, h₁, h₂]
  rcases h₃ : answer .beginList s₂ with ⟨f | opening, s₃⟩
  · refine ⟨s₃, _, Notice.beginRefused m.id f, .opening f, rfl, fun otherwise body => ?_⟩
    simp [onOpenList, onFreshList, Transaction.begin, Transaction.inPhase, Transaction.fresh,
      Transaction.close, Dialogue.run_bind, h₁, h₂, h₃]
  · exact absurd ⟨by rw [h₁], by rw [h₁, h₂], by rw [h₁, h₂, h₃]⟩ (h opening s₃)

theorem run_onOpenList_of_refused (otherwise : α) (body : Snapshot → Transaction → Talk α)
    (h : ∀ opening s', ¬ m.Opens answer s opening s') :
    ((m.onOpenList otherwise body).run answer s).value = otherwise ∧
      Refused m.id ((m.onOpenList otherwise body).run answer s).events := by
  obtain ⟨s', es, record, hrefused, -, hrun⟩ := exists_run_of_refused h
  rw [hrun]
  exact ⟨rfl, hrefused⟩

/-! ## The requests -/

/-- What an update does with an open list. -/
def updateOn (m : Manager) (provider : Provider) (snapshot : Snapshot) (t : Transaction) :
    Talk UpdateReport :=
  match Format.readCategories (provider snapshot) with
  | .error e => do
    note (Notice.providerRejected e)
    let (_, t) ← t.abort
    t.close
    return ⟨.argumentError, some snapshot⟩
  | .ok cs => do return ⟨← m.fillAndCommit t cs, some snapshot⟩

/-- What the setting of user tasks does with an open list. -/
def setTasksOn (items : List Item) (t : Transaction) : Talk Bool := do
  if ← t.appendUserTasks items then
    let (outcome, t) ← t.commit
    t.close
    return outcome = .success
  else
    let (_, t) ← t.abort
    t.close
    return false

theorem run_update (m : Manager) (provider : Provider) (s : σ) :
    (m.update provider).run answer s =
      (m.onOpenList ⟨.genericError, none⟩ (m.updateOn provider)).run answer s := by
  unfold update onOpenList onFreshList
  rcases h : answer .createDestinationList s with ⟨f | ⟨⟨⟩⟩, s₁⟩
  · simp [Dialogue.run_bind, h]
  · -- The transaction's own outcome is passed on, and that is the generic error.
    simp only [Dialogue.run_bind, run_call, h]
    rcases hb : ((Transaction.fresh m.id).begin.run answer s₁).value.1 with o | snapshot
    · rw [error_of_begin hb]
    · rfl

theorem run_update_of_refused (provider : Provider)
    (h : ∀ opening s', ¬ m.Opens answer s opening s') :
    ((m.update provider).run answer s).value = ⟨.genericError, none⟩ ∧
      Refused m.id ((m.update provider).run answer s).events := by
  rw [run_update]
  exact run_onOpenList_of_refused _ _ h

theorem setUserTasks_eq (m : Manager) (items : List Item) :
    m.setUserTasks items = m.onOpenList false fun _ t => setTasksOn items t := rfl

end Manager

end JumpList

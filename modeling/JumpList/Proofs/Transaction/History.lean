/-
# JumpList.Proofs.Transaction.History — the calls that a transaction can have made.

The phase of a transaction tells what happened on its list.  `History id phase es` says that a
transaction on the list of `id` can have got into `phase` by the events `es`: every rule is one thing
that can happen in a phase.  The step lemma (`perform_history`) says that an operation, in whatever
phase it comes and however the shell answers, prolongs the history by such things; the run lemma
(`performAll_history`) follows by induction on the operations.
-/
import JumpList.Proofs.Append.Filling
import JumpList.Proofs.Removed
import JumpList.Proofs.Transaction.Began

namespace JumpList

open Native

namespace Transaction

/-! ## Histories -/

/-- A transaction on the list of `id` can have come into a phase by these events. -/
inductive History (id : AppId) : Phase → List Event → Prop
  | fresh : History id .idle []
  | idRefused {es : List Event} (f : Failure) :
      History id .idle es → History id .idle (es ++ [⟨.setAppId id.text, .error f⟩])
  | beginRefused {es : List Event} (f : Failure) :
      History id .idle es →
      History id .idle (es ++ [⟨.setAppId id.text, .ok ()⟩, ⟨.beginList, .error f⟩])
  | began {es : List Event} (opening : Opening) :
      History id .idle es →
      History id .began (es ++ [⟨.setAppId id.text, .ok ()⟩, ⟨.beginList, .ok opening⟩])
  | filled {es block : List Event} :
      History id .began es → (∀ e ∈ block, e.1.fills) → History id .began (es ++ block)
  | commitRefused {es : List Event} (f : Failure) :
      History id .began es → History id .began (es ++ [⟨.commitList, .error f⟩])
  | committed {es : List Event} :
      History id .began es → History id .committed (es ++ [⟨.commitList, .ok ()⟩])
  | aborted {es : List Event} (reply : Call.Reply .abortList) :
      History id .began es → History id .aborted (es ++ [⟨.abortList, reply⟩])
  | deleted {es : List Event} (reply : Call.Reply (.deleteList id.text)) :
      History id .idle es → History id .deleted (es ++ [⟨.deleteList id.text, reply⟩])

/-! ## Operations -/

section Operations

variable {σ : Type} (answer : Shell σ) (t : Transaction)

/-- A dialogue that leaves the transaction on the same list and its history a possible one. -/
def Prolongs {α : Type} (d : Talk α) (after : α → Transaction) : Prop :=
  ∀ (s : σ) {es : List Event}, History t.id t.phase es →
    (after (d.run answer s).value).id = t.id ∧
      History t.id (after (d.run answer s).value).phase (es ++ (d.run answer s).events)

/-- Out of its phase an operation prolongs no history. -/
theorem prolongs_inPhase {α : Type} {required : Phase} {operation : String} {otherwise : α}
    {body : Talk α} {after : α → Transaction} (ho : after otherwise = t)
    (hb : t.phase = required → Prolongs answer t body after) :
    Prolongs answer t (t.inPhase required operation otherwise body) after := by
  intro s es h
  by_cases hp : t.phase = required
  · rw [inPhase_of_eq hp]
    exact hb hp s h
  · rw [run_inPhase_of_ne hp]
    simpa [ho] using h

theorem begin_prolongs : Prolongs answer t t.begin Prod.snd := by
  refine prolongs_inPhase answer t rfl fun hp s es h => ?_
  rw [hp] at h
  rcases h₁ : answer (.setAppId t.id.text) s with ⟨f | ⟨⟨⟩⟩, s₁⟩
  · simpa [Dialogue.run_bind, h₁, hp] using h.idRefused f
  · rcases h₂ : answer .beginList s₁ with ⟨f | opening, s₂⟩
    · simpa [Dialogue.run_bind, h₁, h₂, hp] using h.beginRefused f
    · simpa [Dialogue.run_bind, h₁, h₂] using h.began opening

theorem filling_prolongs {α : Type} {d : Talk α} (hd : OnlyFills d) (operation : String)
    (otherwise : α) :
    Prolongs answer t (t.inPhase .began operation otherwise d) fun _ => t := by
  refine prolongs_inPhase answer t rfl fun hp s es h => ⟨rfl, ?_⟩
  rw [hp] at h ⊢
  exact h.filled (hd.forall_events answer s)

theorem commit_prolongs : Prolongs answer t t.commit Prod.snd := by
  by_cases hp : t.phase = .began
  · intro s es h
    rw [hp] at h
    rcases hc : answer .commitList s with ⟨f | ⟨⟨⟩⟩, s'⟩
    · rw [run_commit_of_error hp hc]
      exact ⟨rfl, by simpa [hp] using h.commitRefused f⟩
    · rw [run_commit_of_ok hp hc]
      exact ⟨rfl, h.committed⟩
  · exact prolongs_inPhase answer t rfl fun h => absurd h hp

theorem abort_prolongs : Prolongs answer t t.abort Prod.snd := by
  by_cases hp : t.phase = .began
  · intro s es h
    rw [hp] at h
    obtain ⟨outcome, records, hr⟩ := run_abort_of_began hp answer s
    rw [hr]
    exact ⟨rfl, h.aborted _⟩
  · exact prolongs_inPhase answer t rfl fun h => absurd h hp

theorem delete_prolongs : Prolongs answer t t.delete Prod.snd := by
  refine prolongs_inPhase answer t rfl fun hp s es h => ?_
  rw [hp] at h
  rcases h₁ : answer (.deleteList t.id.text) s with ⟨f | ⟨⟨⟩⟩, s₁⟩
  · simpa [Dialogue.run_bind, h₁] using h.deleted (.error f)
  · simpa [Dialogue.run_bind, h₁] using h.deleted (.ok ())

/-- An operation prolongs the history by things that can happen in the phase that it comes in. -/
theorem perform_history (op : Operation) : Prolongs answer t (t.perform op) Prod.snd := by
  intro s es h
  cases op with
  | begin => simpa [perform, Dialogue.run_bind] using begin_prolongs answer t s h
  | appendCategories cs =>
    simpa [perform, appendCategories] using
      filling_prolongs answer t (appendCategories_onlyFills cs) "append_categories" .genericError s h
  | appendUserTasks items =>
    simpa [perform, appendUserTasks] using
      filling_prolongs answer t (appendUserTasks_onlyFills items) "append_user_tasks" false s h
  | commit => simpa [perform, Dialogue.run_bind] using commit_prolongs answer t s h
  | abort => simpa [perform, Dialogue.run_bind] using abort_prolongs answer t s h
  | delete => simpa [perform, Dialogue.run_bind] using delete_prolongs answer t s h

/-- Operations in any order prolong the history by things that can happen. -/
theorem performAll_history (ops : List Operation) :
    Prolongs answer t (t.performAll ops) Prod.snd := by
  induction ops generalizing t with
  | nil =>
    intro s es h
    simpa [performAll] using h
  | cons op ops ih =>
    intro s es h
    obtain ⟨hid, h₁⟩ := perform_history answer t op s h
    -- The rest starts from another transaction, but on the list of the same identity.
    rw [← hid] at h₁
    have h₂ := ih _ ((t.perform op).run answer s).state h₁
    rw [hid] at h₂
    simpa [performAll, Dialogue.run_bind] using h₂

end Operations

end Transaction

end JumpList

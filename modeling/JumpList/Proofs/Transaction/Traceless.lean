/-
# JumpList.Proofs.Transaction.Traceless — what is refused or fails leaves no trace.

An operation that comes in a phase that it does not require is refused: it asks nothing of the shell and
leaves the transaction as it was (`run_perform_of_ne`).  So a run can be told with or without such stray
operations, and everything else in it is the same, down to what closing the transaction does
(`run_toEnd_strays`).

A begin or a commit that comes in its phase and fails did ask the shell something, but it leaves the
transaction as it was, too (`perform_of_failed`).  What follows is what follows on a transaction that never
attempted it.  An abort and a deletion are different: they are over even if they fail.
-/
import JumpList.Proofs.Transaction.Began
import JumpList.Shell.Configured

namespace JumpList.Transaction

open Native

/-! ## Refusals -/

/-- What an operation reports if it comes in a phase that it does not require. -/
def Operation.refusal : Operation → Answer
  | .begin => .begun (.error .genericError)
  | .appendUserTasks _ => .accepted false
  | .appendCategories _ | .commit | .abort | .delete => .outcome .genericError

/-- Whether an operation reports anything but success. -/
def Answer.isFailure : Answer → Bool
  | .begun (.ok _) | .outcome .success | .accepted true => false
  | .begun (.error _) | .outcome _ | .accepted false => true

variable {σ : Type} {t : Transaction}

/-- In a wrong phase nothing is left of an operation but what it reports otherwise, and a record. -/
theorem run_inPhase_map_of_ne {α : Type} {required : Phase} (h : t.phase ≠ required)
    (operation : String) (otherwise : α) (body : Talk α) (f : α → Answer × Transaction)
    (answer : Shell σ) (s : σ) :
    ∃ record, (f <$> t.inPhase required operation otherwise body).run answer s =
      ⟨f otherwise, s, [], [record]⟩ :=
  ⟨_, by rw [Dialogue.run_map, run_inPhase_of_ne h]⟩

/-- An operation in a wrong phase is refused. It asks for nothing and changes nothing. -/
theorem run_perform_of_ne {op : Operation} (h : t.phase ≠ op.required) (answer : Shell σ) (s : σ) :
    ∃ record, (t.perform op).run answer s = ⟨(op.refusal, t), s, [], [record]⟩ := by
  -- What the operations report of an outcome and the transaction that there is then.
  let report (r : Outcome × Transaction) : Answer × Transaction := (.outcome r.1, r.2)
  cases op with
  | begin =>
    exact run_inPhase_map_of_ne h "begin" (.error .genericError, t) _
      (fun r => (.begun r.1, r.2)) answer s
  | appendCategories cs =>
    exact run_inPhase_map_of_ne h "append_categories" _ _ (fun o => (.outcome o, t)) answer s
  | appendUserTasks items =>
    exact run_inPhase_map_of_ne h "append_user_tasks" _ _ (fun whole => (.accepted whole, t)) answer s
  | commit => exact run_inPhase_map_of_ne h "commit" _ _ report answer s
  | abort => exact run_inPhase_map_of_ne h "abort" _ _ report answer s
  | delete => exact run_inPhase_map_of_ne h "delete" _ _ report answer s

/-! ## Runs to the end -/

/-- Carries out operations and closes the transaction; the answers, and the transaction that there is
before it is closed. -/
def toEnd (t : Transaction) (ops : List Operation) : Talk (List Answer × Transaction) := do
  let (answers, t) ← t.performAll ops
  t.close
  return (answers, t)

theorem run_toEnd_nil (answer : Shell σ) (s : σ) :
    (t.toEnd []).run answer s =
      let closed := t.close.run answer s
      ⟨([], t), closed.state, closed.events, closed.records⟩ := by
  simp [toEnd, performAll]

/-- The first operation is carried out, and the others from where it leaves the transaction. -/
theorem run_toEnd_cons (op : Operation) (ops : List Operation) (answer : Shell σ) (s : σ) :
    (t.toEnd (op :: ops)).run answer s =
      let first := (t.perform op).run answer s
      let rest := (first.value.2.toEnd ops).run answer first.state
      ⟨(first.value.1 :: rest.value.1, rest.value.2), rest.state, first.events ++ rest.events,
        first.records ++ rest.records⟩ := by
  simp [toEnd, performAll, Dialogue.run_bind]

/-! ## Stray operations -/

/-- An operation in a run, and whether it is a stray one: one that the run can be told without. -/
structure Entry where
  operation : Operation
  stray : Bool

namespace Entry

/-- All operations of a run. -/
def operations (entries : List Entry) : List Operation := entries.map operation

/-- The operations of a run but for the stray ones. -/
def others (entries : List Entry) : List Operation :=
  (entries.filter fun e => !e.stray).map operation

/-- The answers to the operations of a run but for the stray ones. -/
def answersToOthers (entries : List Entry) (answers : List Answer) : List Answer :=
  ((entries.zip answers).filter fun p => !p.1.stray).map Prod.snd

/-- In a run from `t`, with the shell in state `s`, every stray operation comes in a phase that it does
not require. -/
def StraysInWrongPhase (answer : Shell σ) : Transaction → σ → List Entry → Prop
  | _, _, [] => True
  | t, s, e :: entries =>
    let r := (t.perform e.operation).run answer s
    (e.stray → t.phase ≠ e.operation.required) ∧
      StraysInWrongPhase answer r.value.2 r.state entries

end Entry

open Entry in
/-- Stray operations, however many and wherever they come, make no difference to the calls, to the other
answers, to the transaction, or to its closing. -/
theorem run_toEnd_strays {answer : Shell σ} {s : σ} {entries : List Entry}
    (h : StraysInWrongPhase answer t s entries) :
    let full := (t.toEnd (operations entries)).run answer s
    let bare := (t.toEnd (others entries)).run answer s
    full.events = bare.events ∧ full.state = bare.state ∧ full.value.2 = bare.value.2 ∧
      answersToOthers entries full.value.1 = bare.value.1 := by
  induction entries generalizing t s with
  | nil => exact ⟨rfl, rfl, rfl, by simp [answersToOthers, others, run_toEnd_nil]⟩
  | cons e entries ih =>
    obtain ⟨hphase, hrest⟩ := h
    intro full bare
    by_cases hstray : e.stray = true
    · -- The stray operation leaves both the transaction and the shell as they were.
      obtain ⟨record, hrefused⟩ := run_perform_of_ne (hphase hstray) answer s
      rw [hrefused] at hrest
      simpa [full, bare, operations, others, answersToOthers, run_toEnd_cons, hstray, hrefused]
        using ih hrest
    · simpa [full, bare, operations, others, answersToOthers, run_toEnd_cons, hstray]
        using ih hrest

open JumpList.Shell (Configuration) in
/-- A commit before the list is opened and a deletion after that are not heard of. -/
example :
    let t := fresh ⟨"app"⟩
    ((t.toEnd [.commit, .begin, .delete, .commit]).run Configuration.answer .faultless).events.map
      Sigma.fst = [.setAppId "app", .beginList, .commitList] := by
  decide

/-! ## Attempts that fail -/

/-- A list that is not opened leaves the transaction as it was. -/
theorem begin_of_error {answer : Shell σ} {s : σ} {o : Outcome}
    (h : (t.begin.run answer s).value.1 = .error o) : (t.begin.run answer s).value.2 = t := by
  by_cases hp : t.phase = .idle
  · rcases h₁ : answer (.setAppId t.id.text) s with ⟨f | ⟨⟨⟩⟩, s₁⟩
    · simp [begin, inPhase_of_eq hp, Dialogue.run_bind, h₁]
    · rcases h₂ : answer .beginList s₁ with ⟨f | opening, s₂⟩
      · simp [begin, inPhase_of_eq hp, Dialogue.run_bind, h₁, h₂]
      · simp [begin, inPhase_of_eq hp, Dialogue.run_bind, h₁, h₂] at h
  · rw [begin, run_inPhase_of_ne hp]

/-- A list that is not committed leaves the transaction as it was. -/
theorem commit_of_ne_success {answer : Shell σ} {s : σ}
    (h : (t.commit.run answer s).value.1 ≠ .success) : (t.commit.run answer s).value.2 = t := by
  by_cases hp : t.phase = .began
  · rcases hc : answer .commitList s with ⟨f | ⟨⟨⟩⟩, s'⟩
    · rw [run_commit_of_error hp hc]
    · rw [run_commit_of_ok hp hc] at h
      exact absurd rfl h
  · rw [commit, run_inPhase_of_ne hp]

/-- A begin or a commit that fails leaves the transaction as it was. -/
theorem perform_of_failed {op : Operation} (hop : op = .begin ∨ op = .commit) {answer : Shell σ}
    {s : σ} (h : ((t.perform op).run answer s).value.1.isFailure) :
    ((t.perform op).run answer s).value.2 = t := by
  rcases hop with rfl | rfl
  · have hbegin : ((t.perform .begin).run answer s).value =
        (.begun (t.begin.run answer s).value.1, (t.begin.run answer s).value.2) := by
      simp [perform]
    rw [hbegin] at h ⊢
    rcases hv : (t.begin.run answer s).value.1 with o | snapshot
    · exact begin_of_error hv
    · rw [hv] at h
      cases h
  · have hcommit : ((t.perform .commit).run answer s).value =
        (.outcome (t.commit.run answer s).value.1, (t.commit.run answer s).value.2) := by
      simp [perform]
    rw [hcommit] at h ⊢
    refine commit_of_ne_success fun hsuccess => ?_
    rw [hsuccess] at h
    cases h

/-! ## No trace -/

open Entry in
/-- What is refused in a run from `t`, with the shell in state `s`, leaves no trace, and what fails
leaves none but its own calls. -/
structure LeavesNoTrace (t : Transaction) (answer : Shell σ) (s : σ) : Prop where
  /-- An operation in a wrong phase asks for nothing, changes nothing and reports a failure. -/
  refused : ∀ op : Operation, t.phase ≠ op.required →
    ∃ record, (t.perform op).run answer s = ⟨(op.refusal, t), s, [], [record]⟩
  /-- So a run is the same with such operations and without, wherever they come. -/
  strays : ∀ entries, StraysInWrongPhase answer t s entries →
    let full := (t.toEnd (operations entries)).run answer s
    let bare := (t.toEnd (others entries)).run answer s
    full.events = bare.events ∧ full.state = bare.state ∧ full.value.2 = bare.value.2 ∧
      answersToOthers entries full.value.1 = bare.value.1
  /-- After a begin or a commit that fails the rest of a run is that of the transaction as it was, from
  where the shell is then. -/
  failed : ∀ op : Operation, op = .begin ∨ op = .commit →
    let first := (t.perform op).run answer s
    first.value.1.isFailure → first.value.2 = t ∧
      ∀ ops, (t.toEnd (op :: ops)).run answer s =
        let rest := (t.toEnd ops).run answer first.state
        ⟨(first.value.1 :: rest.value.1, rest.value.2), rest.state, first.events ++ rest.events,
          first.records ++ rest.records⟩

/-- Refused and failed operations leave no trace in any run of any transaction. -/
theorem refused_and_failed_leave_no_trace (t : Transaction) (answer : Shell σ) (s : σ) :
    t.LeavesNoTrace answer s where
  refused := fun _ h => run_perform_of_ne h answer s
  strays := fun _ h => run_toEnd_strays h
  failed := by
    intro op hop first hfailed
    have hsame : ((t.perform op).run answer s).value.2 = t := perform_of_failed hop hfailed
    refine ⟨hsame, fun ops => ?_⟩
    rw [run_toEnd_cons]
    dsimp only
    rw [hsame]

end JumpList.Transaction

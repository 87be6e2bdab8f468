/-
# JumpList.Proofs.Transaction.Began — what the operations do on an open list.

While the list of a transaction is open, appending is appending, a commit and an abort are one call
each, and closing aborts.  An abort ends the list whatever the shell says of it; a commit that is
refused leaves it open, for the closing to abort.
-/
import JumpList.Transaction
import JumpList.Proofs.Dialogue

namespace JumpList.Transaction

open Native

variable {σ : Type} {t : Transaction}

theorem inPhase_of_eq {α : Type} {required : Phase} (h : t.phase = required)
    (operation : String) (otherwise : α) (body : Talk α) :
    t.inPhase required operation otherwise body = body := by
  simp [inPhase, h]

theorem run_inPhase_of_ne {α : Type} {required : Phase} (h : t.phase ≠ required)
    (operation : String) (otherwise : α) (body : Talk α) (answer : Shell σ) (s : σ) :
    (t.inPhase required operation otherwise body).run answer s =
      ⟨otherwise, s, [], [Notice.wrongPhase operation required.name t.phase.name t.id]⟩ := by
  simp [inPhase, h]

theorem appendCategories_of_began (h : t.phase = .began) (cs : List Category) :
    t.appendCategories cs = JumpList.appendCategories cs := inPhase_of_eq h ..

theorem appendUserTasks_of_began (h : t.phase = .began) (items : List Item) :
    t.appendUserTasks items = JumpList.appendUserTasks items := inPhase_of_eq h ..

variable {answer : Shell σ} {s s' : σ}

theorem run_commit_of_ok (h : t.phase = .began) (hc : answer .commitList s = (.ok (), s')) :
    t.commit.run answer s =
      ⟨(.success, { t with phase := .committed }), s', [⟨.commitList, .ok ()⟩],
        [Notice.committed t.id]⟩ := by
  simp [commit, inPhase_of_eq h, Dialogue.run_bind, hc]

theorem run_commit_of_error {f : Failure} (h : t.phase = .began)
    (hc : answer .commitList s = (.error f, s')) :
    t.commit.run answer s =
      ⟨(.genericError, t), s', [⟨.commitList, .error f⟩], [Notice.commitRefused t.id f]⟩ := by
  simp [commit, inPhase_of_eq h, Dialogue.run_bind, hc]

/-- An abort is over whatever the shell says. -/
theorem run_abort_of_began (h : t.phase = .began) (answer : Shell σ) (s : σ) :
    ∃ outcome records, t.abort.run answer s =
      ⟨(outcome, { t with phase := .aborted }), (answer .abortList s).2,
        [⟨.abortList, (answer .abortList s).1⟩], records⟩ := by
  rcases ha : answer .abortList s with ⟨f | ⟨⟨⟩⟩, s'⟩
  · exact ⟨.genericError, [Notice.abortRefused t.id f], by
      simp [abort, inPhase_of_eq h, Dialogue.run_bind, ha]⟩
  · exact ⟨.success, [], by simp [abort, inPhase_of_eq h, Dialogue.run_bind, ha]⟩

/-- Closing aborts a list that is still open. -/
theorem run_close_of_began (h : t.phase = .began) (answer : Shell σ) (s : σ) :
    ∃ records, t.close.run answer s =
      ⟨(), (answer .abortList s).2, [⟨.abortList, (answer .abortList s).1⟩], records⟩ := by
  rcases ha : answer .abortList s with ⟨f | ⟨⟨⟩⟩, s'⟩
  · exact ⟨[Notice.leftOpen t.id, Notice.leftOpenAbortRefused f], by
      simp [close, h, Dialogue.run_bind, ha]⟩
  · exact ⟨[Notice.leftOpen t.id], by simp [close, h, Dialogue.run_bind, ha]⟩

/-- Closing does nothing to a list that is not open. -/
theorem run_close_of_ne (h : t.phase ≠ .began) (answer : Shell σ) (s : σ) :
    t.close.run answer s = ⟨(), s, [], []⟩ := by
  simp [close, h]

end JumpList.Transaction

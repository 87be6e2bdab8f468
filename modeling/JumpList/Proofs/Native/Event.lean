/-
# JumpList.Proofs.Native.Event — what a call to the shell means for the list.

Calls fall into three groups: those that fill an open list (builders and the calls that hand their
collections over), those that open or end a list, and those around them.  An event is told apart by
its call and, where that matters, by whether the call failed: only a successful `beginList` opens a
list and only a successful `commitList` commits it, whereas an abort or a deletion is over whether or
not it failed.
-/
import JumpList.Native.Call

namespace JumpList.Native

/-! ## Calls -/

/-- Whether a call builds an object for an open list or puts something on it. -/
def Call.fills : Call → Bool
  | .createShellLink | .createShellItem _ | .createObjectCollection | .setPath _ | .setArguments _
  | .setDescription _ | .setIconLocation _ _ | .setTitle _ | .markAsSeparator | .addLink _
  | .addItem _ | .appendKnownCategory _ | .addUserTasks _ | .appendCategory _ _ => true
  | .createDestinationList | .setAppId _ | .beginList | .commitList | .abortList
  | .deleteList _ => false

/-- Whether a call puts something on an open list. -/
def Call.handsOver : Call → Bool
  | .appendKnownCategory _ | .addUserTasks _ | .appendCategory _ _ => true
  | _ => false

/-- Whether a call makes something that can be put on an open list, without putting it there. -/
def Call.builds (c : Call) : Bool := c.fills && !c.handsOver

/-- Whether a call puts an object into a collection. -/
def Call.adds : Call → Bool
  | .addLink _ | .addItem _ => true
  | _ => false

/-- Whether a call makes sense on an open list only. -/
def Call.needsOpenList (c : Call) : Bool := c.fills || c == .commitList || c == .abortList

/-- The identity that a call names, if it names one. -/
def Call.identity? : Call → Option String
  | .setAppId id | .deleteList id => some id
  | _ => none

/-! ## Events -/

namespace Event

/-- Whether the call did not fail. -/
def succeeded (e : Event) : Bool := e.failure?.isNone

/-- Whether a list was opened. -/
def opens : Event → Bool
  | ⟨.beginList, .ok _⟩ => true
  | _ => false

/-- Whether a list was committed. -/
def commits : Event → Bool
  | ⟨.commitList, .ok _⟩ => true
  | _ => false

/-- Whether a list was aborted, even if the shell says that it failed. -/
def aborts : Event → Bool
  | ⟨.abortList, _⟩ => true
  | _ => false

/-- Whether a list was deleted, even if the shell says that it failed. -/
def deletes : Event → Bool
  | ⟨.deleteList _, _⟩ => true
  | _ => false

/-- Whether nothing may follow. -/
def ends (e : Event) : Bool := e.commits || e.aborts || e.deletes

@[simp] theorem succeeded_ok (c : Call) (a : c.Answer) : succeeded ⟨c, .ok a⟩ = true := rfl

@[simp] theorem succeeded_error (c : Call) (f : Failure) : succeeded ⟨c, .error f⟩ = false := rfl

/-- What fills a list neither opens nor ends one. -/
theorem plain_of_fills {e : Event} (h : e.1.fills) :
    e.opens = false ∧ e.commits = false ∧ e.aborts = false ∧ e.deletes = false := by
  obtain ⟨c, reply⟩ := e
  cases c <;> first | exact absurd h Bool.false_ne_true | exact ⟨rfl, rfl, rfl, rfl⟩

/-- What fills a list names no identity and does not ask for the list to be opened. -/
theorem anonymous_of_fills {e : Event} (h : e.1.fills) :
    e.1.identity? = none ∧ e.1 ≠ .beginList := by
  obtain ⟨c, reply⟩ := e
  cases c <;> first | exact absurd h Bool.false_ne_true | exact ⟨rfl, by simp⟩

end Event

end JumpList.Native

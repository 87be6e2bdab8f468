/-
# JumpList.Transaction — one update of a list, from opening to its end.

A transaction is idle at first.  It begins and then is committed or aborted; or it deletes the list
without beginning.

    idle --begin--> began --commit--> committed
                          --abort---> aborted
    idle --delete-> deleted

An operation that comes in another phase makes no call and changes nothing.  A transaction that is
closed while its list is open aborts it.
-/
import JumpList.Append
import JumpList.Removed

namespace JumpList

open Native (Talk call note)

/-! ## Phases -/

/-- How far a transaction is. -/
inductive Phase where
  | idle
  | began
  | committed
  | aborted
  | deleted
  deriving DecidableEq, Repr, Inhabited

/-- The name of a phase. -/
def Phase.name : Phase → String
  | .idle => "Idle"
  | .began => "Began"
  | .committed => "Committed"
  | .aborted => "Aborted"
  | .deleted => "Deleted"

/-- What the shell said when the list was opened. -/
structure Snapshot where
  minimumSlots : UInt32
  removed : List Item
  deriving DecidableEq, Repr

/-- A transaction on the list of one identity. -/
structure Transaction where
  id : AppId
  phase : Phase
  deriving DecidableEq, Repr

namespace Transaction

/-- A transaction at its start. -/
def fresh (id : AppId) : Transaction := ⟨id, .idle⟩

/-- Goes on if the transaction is in the phase that an operation requires; tells if it is not. -/
def inPhase {α : Type} (t : Transaction) (required : Phase) (operation : String) (otherwise : α)
    (body : Talk α) : Talk α := do
  if t.phase = required then body
  else
    note (Notice.wrongPhase operation required.name t.phase.name t.id)
    return otherwise

/-! ## Operations -/

/-- Opens the list. -/
def begin (t : Transaction) : Talk (Except Outcome Snapshot × Transaction) :=
  t.inPhase .idle "begin" (.error .genericError, t) do
    match ← call (.setAppId t.id.text) with
    | .error e =>
      note (Notice.appIdRefused t.id e)
      return (.error .genericError, t)
    | .ok () =>
      match ← call .beginList with
      | .error e =>
        note (Notice.beginRefused t.id e)
        return (.error .genericError, t)
      | .ok opening =>
        let removed ← convertRemoved opening.removed
        note (Notice.began t.id opening.minimumSlots removed.length)
        return (.ok ⟨opening.minimumSlots, removed⟩, { t with phase := .began })

/-- Puts categories on the open list. -/
def appendCategories (t : Transaction) (cs : List Category) : Talk Outcome :=
  t.inPhase .began "append_categories" .genericError (JumpList.appendCategories cs)

/-- Makes the items the tasks of the open list. -/
def appendUserTasks (t : Transaction) (items : List Item) : Talk Bool :=
  t.inPhase .began "append_user_tasks" false (JumpList.appendUserTasks items)

/-- Commits the open list. A list that cannot be committed stays open. -/
def commit (t : Transaction) : Talk (Outcome × Transaction) :=
  t.inPhase .began "commit" (.genericError, t) do
    match ← call .commitList with
    | .ok () =>
      note (Notice.committed t.id)
      return (.success, { t with phase := .committed })
    | .error e =>
      note (Notice.commitRefused t.id e)
      return (.genericError, t)

/-- Aborts the open list. -/
def abort (t : Transaction) : Talk (Outcome × Transaction) :=
  t.inPhase .began "abort" (.genericError, t) do
    match ← call .abortList with
    | .ok () => return (.success, { t with phase := .aborted })
    | .error e =>
      note (Notice.abortRefused t.id e)
      return (.genericError, { t with phase := .aborted })

/-- Deletes the list of the identity. -/
def delete (t : Transaction) : Talk (Outcome × Transaction) :=
  t.inPhase .idle "delete" (.genericError, t) do
    match ← call (.deleteList t.id.text) with
    | .ok () =>
      note (Notice.deleted t.id)
      return (.success, { t with phase := .deleted })
    | .error e =>
      note (Notice.deleteRefused t.id e)
      return (.genericError, { t with phase := .deleted })

/-- Ends the transaction: a list that is still open is aborted. -/
def close (t : Transaction) : Talk Unit := do
  if t.phase = .began then
    note (Notice.leftOpen t.id)
    match ← call .abortList with
    | .ok () => return ()
    | .error e => note (Notice.leftOpenAbortRefused e)

/-! ## Sequences of operations -/

/-- An operation on a transaction. -/
inductive Operation where
  | begin
  | appendCategories (categories : List Category)
  | appendUserTasks (items : List Item)
  | commit
  | abort
  | delete
  deriving DecidableEq, Repr

/-- What an operation reports. -/
inductive Answer where
  | begun (snapshot : Except Outcome Snapshot)
  | outcome (outcome : Outcome)
  | accepted (whole : Bool)

/-- The phase that an operation requires. -/
def Operation.required : Operation → Phase
  | .begin | .delete => .idle
  | _ => .began

/-- Carries out an operation. -/
def perform (t : Transaction) : Operation → Talk (Answer × Transaction)
  | .begin => do
    let (snapshot, t) ← t.begin
    return (.begun snapshot, t)
  | .appendCategories cs => do return (.outcome (← t.appendCategories cs), t)
  | .appendUserTasks items => do return (.accepted (← t.appendUserTasks items), t)
  | .commit => do
    let (outcome, t) ← t.commit
    return (.outcome outcome, t)
  | .abort => do
    let (outcome, t) ← t.abort
    return (.outcome outcome, t)
  | .delete => do
    let (outcome, t) ← t.delete
    return (.outcome outcome, t)

/-- Carries out operations, in order. -/
def performAll (t : Transaction) : List Operation → Talk (List Answer × Transaction)
  | [] => return ([], t)
  | op :: ops => do
    let (answer, t) ← t.perform op
    let (answers, t) ← t.performAll ops
    return (answer :: answers, t)

end Transaction

end JumpList

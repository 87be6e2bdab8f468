/-
# JumpList.Manager — requests on an application's jump list.

Three requests can be made: to update the list, to delete it, and to make it a list of user tasks.
Each works on a destination list of its own, drives one transaction from its start to its end, and
reports one result.

An update asks a provider for the categories.  The provider is told how much room there is and what
the user took off, and returns a JSON value.  A value that is no jump list aborts the update, and the
list stays as it was.
-/
import JumpList.Format.Reader
import JumpList.Transaction

namespace JumpList

open Native (Talk call note)

/-- What tells an update which categories to show. -/
abbrev Provider := Snapshot → Json

/-- What came of an update. -/
structure UpdateReport where
  outcome : Outcome
  /-- What the provider was told, if it was asked. -/
  consulted : Option Snapshot
  deriving DecidableEq, Repr

/-- What makes requests for one identity. -/
structure Manager where
  id : AppId
  deriving DecidableEq, Repr

namespace Manager

/-- Goes on with a fresh transaction on a list of its own, if there is such a list. -/
def onFreshList {α : Type} (m : Manager) (otherwise : α) (body : Transaction → Talk α) :
    Talk α := do
  match ← call .createDestinationList with
  | .ok () => body (Transaction.fresh m.id)
  | .error e =>
    note (Notice.noDestinationList e)
    return otherwise

/-- Fills an open list with categories and commits it. A commit that fails spoils the outcome. -/
def fillAndCommit (m : Manager) (t : Transaction) (cs : List Category) : Talk Outcome := do
  let appended ← t.appendCategories cs
  let (committed, t) ← t.commit
  let outcome := if committed = .success then appended else appended.spoiled
  note (Notice.updateFinished m.id outcome)
  t.close
  return outcome

/-- Replaces the list by the categories of the provider. -/
def update (m : Manager) (provider : Provider) : Talk UpdateReport :=
  m.onFreshList ⟨.genericError, none⟩ fun t => do
    let (begun, t) ← t.begin
    match begun with
    | .error outcome =>
      t.close
      return ⟨outcome, none⟩
    | .ok snapshot =>
      match Format.readCategories (provider snapshot) with
      | .error e =>
        note (Notice.providerRejected e)
        let (_, t) ← t.abort
        t.close
        return ⟨.argumentError, some snapshot⟩
      | .ok cs => return ⟨← m.fillAndCommit t cs, some snapshot⟩

/-- Deletes the list. -/
def delete (m : Manager) : Talk Outcome :=
  m.onFreshList .genericError fun t => do
    let (outcome, t) ← t.delete
    t.close
    return outcome

/-- Replaces the list by a tasks category of the items, and reports whether all of them are on the
list and the list is committed. -/
def setUserTasks (m : Manager) (items : List Item) : Talk Bool :=
  m.onFreshList false fun t => do
    let (begun, t) ← t.begin
    match begun with
    | .error _ =>
      t.close
      return false
    | .ok _ =>
      if ← t.appendUserTasks items then
        let (outcome, t) ← t.commit
        t.close
        return outcome = .success
      else
        let (_, t) ← t.abort
        t.close
        return false

/-! ## Sequences of requests -/

/-- A request on the list of an application. -/
inductive Request where
  | update (provider : Provider)
  | delete
  | setUserTasks (items : List Item)

/-- What a request reports. -/
inductive Report where
  | updated (report : UpdateReport)
  | deleted (outcome : Outcome)
  | tasksSet (whole : Bool)
  deriving DecidableEq, Repr

/-- Makes a request. -/
def perform (m : Manager) : Request → Talk Report
  | .update provider => do return .updated (← m.update provider)
  | .delete => do return .deleted (← m.delete)
  | .setUserTasks items => do return .tasksSet (← m.setUserTasks items)

/-- Makes requests, in order. -/
def performAll (m : Manager) : List Request → Talk (List Report)
  | [] => return []
  | request :: requests => do
    let report ← m.perform request
    return report :: (← m.performAll requests)

end Manager

end JumpList

/-
# JumpList.Notice — the records that requests leave.

Every record of the library has its level and its wording here, one function each.
-/
import JumpList.Category
import JumpList.Format.Error
import JumpList.Identity
import JumpList.Log
import JumpList.Native.Call
import JumpList.Outcome

namespace JumpList.Notice

open Log (Record)
open Native (Failure KnownCategory)

/-! ## Categories -/

/-- Items were given to a category that the shell fills. -/
def itemsIgnored (count : Nat) (kind : String) : Record :=
  ⟨.warn, s!"CategoryAppender: Ignoring {count} item(s) of a shell-managed {kind} category."⟩

/-- There is no collection for a category. -/
def noCollection (e : Failure) : Record :=
  ⟨.error, s!"CategoryAppender: Failed to create object collection: {e.message}"⟩

/-- A separator stands in a custom category. -/
def separatorRefused (name : String) : Record :=
  ⟨.error, s!"CategoryAppender: Can't append separator to Jump List category '{name}'. " ++
    "Separators are only allowed in the standard 'Tasks' category."⟩

/-- An item was lost. -/
def itemLost (item : Item) (e : Failure) : Record :=
  ⟨.error, s!"CategoryAppender: Failed to append {item.label} to Jump List: {e.message}"⟩

/-- What came into the collection of a category. -/
def itemsGathered (kept total : Nat) (name : String) : Record :=
  ⟨.debug, s!"CategoryAppender: Appended {kept} of {total} item(s) to category '{name}'."⟩

/-- The shell did not take the tasks category. -/
def tasksRefused (e : Failure) : Record :=
  ⟨.error, "CategoryAppender: Failed to append items to the standard Tasks category: " ++
    e.message⟩

/-- The shell did not take a custom category; a specific outcome is named. -/
def categoryRefused (name : String) (outcome : Outcome) (e : Failure) : Record :=
  let cause := if outcome.isSpecific then s!" ({outcome.code})" else ""
  ⟨.error, s!"CategoryAppender: Failed to append custom category '{name}' to Jump List{cause}: " ++
    e.message⟩

/-- The shell did not switch on a category of its own. -/
def knownCategoryRefused (category : KnownCategory) (e : Failure) : Record :=
  ⟨.error, s!"CategoriesAppender: Failed to append {category.name} category to Jump List: " ++
    e.message⟩

/-- Categories were gone through. -/
def categoriesProcessed (count : Nat) (outcome : Outcome) : Record :=
  ⟨.debug, s!"CategoriesAppender: Processed {count} categories, result '{outcome.code}'."⟩

/-! ## User tasks -/

/-- There is no collection for user tasks. -/
def noTaskCollection (e : Failure) : Record :=
  ⟨.error, s!"CategoryAppender: Failed to create object collection for user tasks: {e.message}"⟩

/-- An item among user tasks is no task. -/
def notATask (item : Item) : Record :=
  ⟨.error, s!"CategoryAppender: User tasks may only contain tasks, got {item.label}."⟩

/-- A user task was lost. -/
def userTaskLost (item : Item) (e : Failure) : Record :=
  ⟨.error, s!"CategoryAppender: Failed to append user {item.label}: {e.message}"⟩

/-- The shell did not take user tasks, as it does when there are none. -/
def userTasksRefused (count : Nat) (e : Failure) : Record :=
  ⟨.debug, s!"CategoryAppender: AddUserTasks failed for {count} task(s): {e.message}"⟩

/-! ## Removed items -/

/-- A removed file has an empty path. -/
def removedFileWithoutPath : Record :=
  ⟨.warn, "RemovedItems: Skipping removed file with an empty path."⟩

/-- The path of a removed file is not known. -/
def removedFileUnreadable (e : Failure) : Record :=
  ⟨.warn, s!"RemovedItems: Could not resolve path of removed file: {e.message}"⟩

/-- The path of a removed task is not known. -/
def removedTaskUnreadable (e : Failure) : Record :=
  ⟨.warn, s!"RemovedItems: Could not read path of removed task: {e.message}"⟩

/-- A removed object is neither a file nor a task. -/
def removedUnrecognized : Record :=
  ⟨.debug, "RemovedItems: Skipping removed object of unknown type."⟩

/-- How many removed objects are items. -/
def removedConverted (kept total : Nat) : Record :=
  ⟨.debug, s!"RemovedItems: Converted {kept} of {total} removed object(s)."⟩

/-! ## Transactions -/

/-- An operation came in the wrong phase. -/
def wrongPhase (operation required current : String) (id : AppId) : Record :=
  ⟨.error, s!"JumpListTransaction: {operation} requires state {required}, but the transaction " ++
    s!"for '{id.text}' is {current}."⟩

/-- The identity was refused. -/
def appIdRefused (id : AppId) (e : Failure) : Record :=
  ⟨.error, s!"JumpListTransaction: Failed to set app id '{id.text}': {e.message}"⟩

/-- The list could not be opened. -/
def beginRefused (id : AppId) (e : Failure) : Record :=
  ⟨.error, s!"JumpListTransaction: Failed to begin Jump List for '{id.text}': {e.message}"⟩

/-- The list is open. -/
def began (id : AppId) (minimumSlots : UInt32) (removed : Nat) : Record :=
  ⟨.debug, s!"JumpListTransaction: Began Jump List for '{id.text}' (minimum slots " ++
    s!"{minimumSlots.toNat}, {removed} removed item(s))."⟩

/-- The list is committed. -/
def committed (id : AppId) : Record :=
  ⟨.debug, s!"JumpListTransaction: Committed Jump List for '{id.text}'."⟩

/-- The list could not be committed. -/
def commitRefused (id : AppId) (e : Failure) : Record :=
  ⟨.error, "JumpListTransaction: Failed to commit changes to Jump List for " ++
    s!"'{id.text}': {e.message}"⟩

/-- The list could not be aborted. -/
def abortRefused (id : AppId) (e : Failure) : Record :=
  ⟨.error, s!"JumpListTransaction: Failed to abort Jump List for '{id.text}': {e.message}"⟩

/-- The list is deleted. -/
def deleted (id : AppId) : Record :=
  ⟨.debug, s!"JumpListTransaction: Deleted Jump List for '{id.text}'."⟩

/-- The list could not be deleted. -/
def deleteRefused (id : AppId) (e : Failure) : Record :=
  ⟨.error, s!"JumpListTransaction: Failed to delete Jump List for '{id.text}': {e.message}"⟩

/-- A transaction ends although its list is open. -/
def leftOpen (id : AppId) : Record :=
  ⟨.warn, s!"JumpListTransaction: Transaction for '{id.text}' dropped while open; aborting."⟩

/-- A list that was left open could not be aborted. -/
def leftOpenAbortRefused (e : Failure) : Record :=
  ⟨.error, s!"JumpListTransaction: AbortList on drop failed: {e.message}"⟩

/-! ## Requests -/

/-- There is no list to work on. -/
def noDestinationList (e : Failure) : Record :=
  ⟨.error, s!"JumpListManager: Failed to create destination list: {e.message}"⟩

/-- What the provider returned is no jump list. -/
def providerRejected (e : Format.Error) : Record :=
  ⟨.error, "JumpListManager: Provider failed to return a valid category array: " ++ e.message⟩

/-- An update came to its end. -/
def updateFinished (id : AppId) (outcome : Outcome) : Record :=
  ⟨.debug, s!"JumpListManager: Jump List update for '{id.text}' finished with " ++
    s!"'{outcome.code}'."⟩

end JumpList.Notice

/-
# JumpList.Append — categories handed to the shell.

The items of a category are built one by one into a collection, and the collection is handed over
in one call.  An item that cannot be built is left out and the rest goes on; each loss leaves one
record.  A category has one outcome, and the most specific cause counts: what the shell said of a
custom category, then a separator out of place, then the loss of anything.

User tasks are stricter: one that cannot be built ends everything.
-/
import JumpList.Build
import JumpList.Notice
import JumpList.Outcome

namespace JumpList

open Native (Collection KnownCategory Talk call note)

/-! ## One category -/

/-- What the items of a category came to so far. -/
structure Gathering where
  collection : Collection
  /-- How many items were built. -/
  built : Nat
  /-- Whether a separator stood where none may stand. -/
  misplaced : Bool
  deriving DecidableEq, Repr

/-- The outcome of gathering `total` items. -/
def Gathering.outcome (g : Gathering) (total : Nat) : Outcome :=
  if g.misplaced then .separatorError
  else if g.built < total then .genericError
  else .success

namespace Category

/-- Whether an item may not even be tried: a separator outside the tasks. -/
def refuses (c : Category) (item : Item) : Bool :=
  item.kind == .separator && !c.kind.admitsSeparators

/-- Builds items into a collection, in order. -/
def gather (c : Category) : List Item → Gathering → Talk Gathering
  | [], g => return g
  | item :: items, g => do
    if c.refuses item then
      note (Notice.separatorRefused c.nameOrEmpty)
      c.gather items { g with misplaced := true }
    else
      let (result, collection) ← g.collection.add item
      match result with
      | .ok () => c.gather items { g with collection, built := g.built + 1 }
      | .error e =>
        note (Notice.itemLost item e)
        c.gather items { g with collection }

/-- Hands over the collection of the tasks category. -/
def handOverTasks (collection : Collection) (outcome : Outcome) : Talk Outcome := do
  match ← call (.addUserTasks collection) with
  | .ok () => return outcome
  | .error e =>
    note (Notice.tasksRefused e)
    return outcome.spoiled

/-- Hands over the collection of a custom category. -/
def handOverCustom (name : String) (collection : Collection) (outcome : Outcome) :
    Talk Outcome := do
  match ← call (.appendCategory name collection) with
  | .ok () => return outcome
  | .error e =>
    let refusal := Outcome.ofRefusal e.status
    note (Notice.categoryRefused name refusal e)
    return if refusal.isSpecific then refusal else outcome.spoiled

/-- Hands over what was gathered; nothing is handed over when nothing could be built. -/
def handOver (c : Category) (g : Gathering) : Talk Outcome := do
  let total := c.items.length
  let outcome := g.outcome total
  if g.built == 0 then return outcome
  else
    note (Notice.itemsGathered g.built total c.nameOrEmpty)
    if c.kind == .tasks then handOverTasks g.collection outcome
    else handOverCustom c.nameOrEmpty g.collection outcome

/-- Appends a category with its items. A category that the shell fills is left alone. -/
def append (c : Category) : Talk Outcome := do
  if c.items.isEmpty then return .success
  else
    match c.kind with
    | .frequent =>
      note (Notice.itemsIgnored c.items.length KnownCategory.frequent.name)
      return .success
    | .recent =>
      note (Notice.itemsIgnored c.items.length KnownCategory.recent.name)
      return .success
    | .tasks | .custom =>
      match ← call .createObjectCollection with
      | .error e =>
        note (Notice.noCollection e)
        return .genericError
      | .ok () => c.handOver (← c.gather c.items ⟨[], 0, false⟩)

end Category

/-! ## All categories -/

/-- Switches on a category that the shell fills. -/
def appendKnown (category : KnownCategory) : Talk Outcome := do
  match ← call (.appendKnownCategory category) with
  | .ok () => return .success
  | .error e =>
    note (Notice.knownCategoryRefused category e)
    return .genericError

/-- Puts a category on the list: the shell's own are switched on, the others appended. -/
def Category.place (c : Category) : Talk Outcome :=
  match c.kind with
  | .tasks | .custom => c.append
  | .recent => appendKnown .recent
  | .frequent => appendKnown .frequent

/-- Puts categories on the list, in order; what came of them merged onto `outcome`. -/
def placeAll (outcome : Outcome) : List Category → Talk Outcome
  | [] => return outcome
  | c :: cs => do placeAll (outcome.merge (← c.place)) cs

/-- Puts the categories of an update on the list. -/
def appendCategories (cs : List Category) : Talk Outcome := do
  let outcome ← placeAll .success cs
  note (Notice.categoriesProcessed cs.length outcome)
  return outcome

/-! ## User tasks -/

/-- Builds user tasks into a collection; nothing if one of them is no task or cannot be built. -/
def gatherTasks : List Item → Collection → Talk (Option Collection)
  | [], collection => return some collection
  | item :: items, collection => do
    if item.kind ≠ .task then
      note (Notice.notATask item)
      return none
    else
      let (result, collection) ← collection.add item
      match result with
      | .error e =>
        note (Notice.userTaskLost item e)
        return none
      | .ok () => gatherTasks items collection

/-- Makes the items the tasks category, all or none of them.  That the shell does not take them is
no failure, since it does not take an empty list. -/
def appendUserTasks (items : List Item) : Talk Bool := do
  match ← call .createObjectCollection with
  | .error e =>
    note (Notice.noTaskCollection e)
    return false
  | .ok () =>
    match ← gatherTasks items [] with
    | none => return false
    | some collection =>
      match ← call (.addUserTasks collection) with
      | .ok () => return true
      | .error e =>
        note (Notice.userTasksRefused items.length e)
        return true

end JumpList

/-
# JumpList.Removed — removed objects as items.

What the user took off a list comes back as native objects and is turned into items again, so that
the application can leave them out.  Each object is judged by itself: it is an item, or there is a
record that tells why not.  Only its path decides that; any other property that cannot be had is
taken as empty.
-/
import JumpList.Notice

namespace JumpList

open Native (LinkProperties RemovedObject Talk note)

/-- The value of a property that may not be had, or what stands for it. -/
def propertyOr {α : Type} (fallback : α) : Except Native.Failure α → α
  | .ok value => value
  | .error _ => fallback

/-- The task that a link of the given path stands for. -/
def Native.LinkProperties.task (link : LinkProperties) (path : Path) : Item :=
  let task := Item.task path ((propertyOr none link.title).getD "")
    |>.withArguments ((propertyOr none link.arguments).getD "")
    |>.withDescription (propertyOr "" link.description)
  match link.icon with
  | .ok (icon, index) => if icon.isEmpty then task else task.withIcon icon index
  | .error _ => task

/-- The item that a removed object stands for, or the record of why there is none. -/
def Native.RemovedObject.judge : RemovedObject → Except Log.Record Item
  | .file (.ok path) =>
    if path.isEmpty then .error Notice.removedFileWithoutPath else .ok (Item.file path)
  | .file (.error e) => .error (Notice.removedFileUnreadable e)
  | .link properties =>
    match properties.path with
    | .ok path => .ok (properties.task path)
    | .error e => .error (Notice.removedTaskUnreadable e)
  | .unrecognized => .error Notice.removedUnrecognized

/-- The items that removed objects stand for, in order. -/
def removedItems (objects : List RemovedObject) : List Item :=
  objects.filterMap fun o => o.judge.toOption

/-- The records of the removed objects that are no items, in order. -/
def removedRecords (objects : List RemovedObject) : List Log.Record :=
  objects.filterMap fun o =>
    match o.judge with
    | .ok _ => none
    | .error record => some record

/-- Leaves records, in order. -/
def noteAll (records : List Log.Record) : Talk Unit := records.forM note

/-- Turns removed objects into items, and tells of those that are none. -/
def convertRemoved (objects : List RemovedObject) : Talk (List Item) := do
  let items := removedItems objects
  noteAll (removedRecords objects)
  note (Notice.removedConverted items.length objects.length)
  return items

end JumpList

/-
# JumpList.Build — items as native objects in a collection.

A task becomes a link with its properties set one after the other; a separator becomes a link marked
as one; a file becomes a shell item.  Building stops at the first call that fails, and only an item
that was built completely is in the collection.
-/
import JumpList.Item
import JumpList.Native.Call

namespace JumpList

open Native

/-! ## Links -/

namespace Native.ShellLink

/-- The link after its path is set. -/
def setPath (link : ShellLink) (path : Path) : Attempt ShellLink := do
  let _ ← require (.setPath path)
  return { link with path := some path }

/-- The link after its arguments are set. -/
def setArguments (link : ShellLink) (text : String) : Attempt ShellLink := do
  let _ ← require (.setArguments text)
  return { link with arguments := some text }

/-- The link after its description is set. -/
def setDescription (link : ShellLink) (text : String) : Attempt ShellLink := do
  let _ ← require (.setDescription text)
  return { link with description := some text }

/-- The link after its icon is set; without an icon there is nothing to set. -/
def setIcon (link : ShellLink) : Option (Path × Int32) → Attempt ShellLink
  | none => return link
  | some (path, index) => do
    let _ ← require (.setIconLocation path index)
    return { link with icon := some (path, index) }

/-- The link after its title is set. -/
def setTitle (link : ShellLink) (text : String) : Attempt ShellLink := do
  let _ ← require (.setTitle text)
  return { link with title := some text }

/-- The link after it is marked as a separator. -/
def markAsSeparator (link : ShellLink) : Attempt ShellLink := do
  let _ ← require .markAsSeparator
  return { link with separator := true }

/-- A new link. -/
def create : Attempt ShellLink := do
  let _ ← require .createShellLink
  return blank

end Native.ShellLink

/-- The link of a task. -/
def Item.buildTask (item : Item) : Attempt ShellLink := do
  let link ← ShellLink.create
  let link ← link.setPath item.path
  let link ← link.setArguments item.arguments
  let link ← link.setDescription item.description
  let link ← link.setIcon item.icon?
  link.setTitle item.title

/-- The link of a separator. -/
def Item.buildSeparator : Attempt ShellLink := do
  let link ← ShellLink.create
  link.markAsSeparator

/-! ## Collections -/

namespace Native.Collection

/-- The collection with a link at its end. -/
def addLink (collection : Collection) (link : ShellLink) : Attempt Collection := do
  let _ ← require (.addLink link)
  return collection ++ [.link link]

/-- The collection with a new shell item at its end. -/
def addFile (collection : Collection) (path : Path) : Attempt Collection := do
  let _ ← require (.createShellItem path)
  let _ ← require (.addItem path)
  return collection ++ [.file path]

/-- The collection with the object of an item at its end. -/
def extend (collection : Collection) (item : Item) : Attempt Collection :=
  match item.kind with
  | .task => do collection.addLink (← item.buildTask)
  | .separator => do collection.addLink (← Item.buildSeparator)
  | .file => collection.addFile item.path

/-- Tries to add an item: what came of it, and the collection that there is afterwards. -/
def add (collection : Collection) (item : Item) : Talk (Except Failure Unit × Collection) := do
  match ← (collection.extend item).run with
  | .ok extended => return (.ok (), extended)
  | .error e => return (.error e, collection)

/-- Tries to add items, in order: what came of each, and the collection that there is afterwards. -/
def addAll (collection : Collection) :
    List Item → Talk (List (Except Failure Unit) × Collection)
  | [] => return ([], collection)
  | item :: items => do
    let (result, collection) ← collection.add item
    let (results, collection) ← collection.addAll items
    return (result :: results, collection)

end Native.Collection

end JumpList

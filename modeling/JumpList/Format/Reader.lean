/-
# JumpList.Format.Reader — jump lists from JSON values.

Reading is all or nothing: the first item or category that does not fit decides.  A text field may be
missing or null, which is the same; fields that the kind of an object does not use are not looked at.

A category without a type is custom if it has a name, and holds the tasks otherwise.
-/
import JumpList.Category
import JumpList.Format.Error
import JumpList.Json.Basic

namespace JumpList.Format

open Json (Members)

/-! ## Fields -/

/-- The members of a value. -/
def membersOf : Json → Except Error Members
  | .object members => .ok members
  | _ => .error .notAnObject

/-- A text field that may be missing or null. -/
def optionalText (members : Members) (field : String) : Except Error (Option String) :=
  match members.get? field with
  | none | some .null => .ok none
  | some (.string text) => .ok (some text)
  | some _ => .error (.wrongFieldType field .string)

/-- A text field that must be there and hold something. -/
def requiredText (members : Members) (field : String) : Except Error String := do
  match ← optionalText members field with
  | none => .error (.missingField field)
  | some text => if text.isEmpty then .error (.emptyField field) else .ok text

/-- An integer of 32 bits that must be there. -/
def requiredIndex (members : Members) (field : String) : Except Error Int32 :=
  match members.get? field with
  | none => .error (.missingField field)
  | some (.number (.int i)) =>
    if Int32.minValue.toInt ≤ i ∧ i ≤ Int32.maxValue.toInt then .ok (Int32.ofInt i)
    else .error (.wrongFieldType field .integer)
  | some _ => .error (.wrongFieldType field .integer)

/-- The elements of an array that must be there. -/
def requiredElements (members : Members) (field : String) : Except Error (List Json) :=
  match members.get? field with
  | none => .error (.missingField field)
  | some (.array elements) => .ok elements
  | some _ => .error (.wrongFieldType field .array)

/-- Every element read, in order; the first that cannot be read decides, at its position. -/
def readEach {α : Type} (place : Nat → Error → Error) (read : Json → Except Error α) :
    (index : Nat) → List Json → Except Error (List α)
  | _, [] => .ok []
  | index, j :: js => do
    let a ← (read j).mapError (place index)
    let as ← readEach place read (index + 1) js
    return a :: as

/-! ## Items -/

/-- The kind of item that a name stands for. -/
def itemKind? : String → Option Item.Kind
  | "task" => some .task
  | "separator" => some .separator
  | "file" => some .file
  | _ => none

/-- The name that a type field holds, as a kind. -/
def readKind {κ : Type} (kind? : String → Option κ) : Json → Except Error κ
  | .string name =>
    match kind? name with
    | some kind => .ok kind
    | none => .error (.unknownType name)
  | _ => .error (.wrongFieldType "type" .string)

/-- A task. -/
def readTask (members : Members) : Except Error Item := do
  let program ← requiredText members "program"
  let title ← requiredText members "title"
  let arguments ← optionalText members "arguments"
  let description ← optionalText members "description"
  let task := (Item.task (Path.ofString program) title).withArguments (arguments.getD "")
    |>.withDescription (description.getD "")
  match ← optionalText members "iconPath" with
  | none => return task
  | some icon => return task.withIcon (Path.ofString icon) (← requiredIndex members "iconIndex")

/-- An item. -/
def readItem (j : Json) : Except Error Item := do
  let members ← membersOf j
  let type ← (members.get? "type").elim (.error (.missingField "type")) .ok
  match ← readKind itemKind? type with
  | .task => readTask members
  | .separator => return Item.separator
  | .file => return Item.file (Path.ofString (← requiredText members "path"))

/-- The items in an array. -/
def readItems : Json → Except Error (List Item)
  | .array elements => readEach .item readItem 0 elements
  | _ => .error .notAnArray

/-! ## Categories -/

/-- The kind of category that a name stands for. -/
def categoryKind? : String → Option Category.Kind
  | "tasks" => some .tasks
  | "frequent" => some .frequent
  | "recent" => some .recent
  | "custom" => some .custom
  | _ => none

/-- The kind of a category: without a type the name decides. -/
def readCategoryKind (members : Members) (name : Option String) : Except Error Category.Kind :=
  match members.get? "type" with
  | some type => readKind categoryKind? type
  | none => .ok (if name.isSome then .custom else .tasks)

/-- The items of a category. -/
def readCategoryItems (members : Members) : Except Error (List Item) := do
  readEach .item readItem 0 (← requiredElements members "items")

/-- A category. -/
def readCategory (j : Json) : Except Error Category := do
  let members ← membersOf j
  let name ← optionalText members "name"
  if name = some "" then .error (.emptyField "name")
  else
    match ← readCategoryKind members name with
    | .custom =>
      match name with
      | none => .error (.missingField "name")
      | some name => return Category.custom name (← readCategoryItems members)
    | .tasks => return Category.tasks (← readCategoryItems members)
    | .frequent => return Category.frequent
    | .recent => return Category.recent

/-- The categories of a jump list. -/
def readCategories : Json → Except Error (List Category)
  | .array elements => readEach .category readCategory 0 elements
  | _ => .error .notAnArray

end JumpList.Format

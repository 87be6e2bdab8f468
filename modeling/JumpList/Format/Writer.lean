/-
# JumpList.Format.Writer — items as JSON values.

Members stand in the order of their keys.  A path is written as text, so that ill-formed bytes are
lost; a task without an icon is written with an empty icon path.
-/
import JumpList.Category
import JumpList.Json.Printer

namespace JumpList.Format

/-- A path as a JSON value. -/
def writePath (p : Path) : Json := .string p.lossy

/-- An item as a JSON value. -/
def writeItem (item : Item) : Json :=
  match item.kind with
  | .task =>
    .object
      [("arguments", .string item.arguments), ("description", .string item.description),
       ("iconIndex", .number (.int item.iconIndex.toInt)),
       ("iconPath", writePath (item.iconPath.getD Path.empty)), ("program", writePath item.path),
       ("title", .string item.title), ("type", .string "task")]
  | .separator => .object [("type", .string "separator")]
  | .file => .object [("path", writePath item.path), ("type", .string "file")]

/-- Items as a JSON array. -/
def writeItems (items : List Item) : Json := .array (items.map writeItem)

/-- A custom category of the given items as a jump list of its own. -/
def writeCustom (name : String) (items : List Item) : Json :=
  .array [.object [("items", writeItems items), ("name", .string name), ("type", .string "custom")]]

end JumpList.Format

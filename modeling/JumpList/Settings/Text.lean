/-
# JumpList.Settings.Text — settings as JSON texts.

Settings are written as an object in lines, its members in a fixed order.  They are read from an
object with any of the members, in any order, or from an array of the first few values in the fixed
order.  What is missing has its default.  A member that settings have may not be there twice; any
other member is passed over, whatever its value.
-/
import JumpList.Json.Document
import JumpList.Json.Printer
import JumpList.Settings.Basic

namespace JumpList.Settings

open Json (Document)

/-! ## Writing -/

/-- Settings as a JSON value. -/
def toJson (s : Settings) : Json :=
  .object
    [("app_name", .string s.appName),
     ("app_user_model_id", s.givenId.elim .null .string),
     ("log_level", .string s.logLevel),
     ("log_to_file", .bool s.logToFile)]

/-- The text of settings. -/
def toText (s : Settings) : String := s.toJson.pretty

/-! ## Reading -/

/-- A text that may be missing. -/
def readText (default : String) : Option Document → Option String
  | none => some default
  | some (.string text) => text
  | some _ => none

/-- A text that may be missing or null. -/
def readOptionalText : Option Document → Option (Option String)
  | none | some .null => some none
  | some (.string text) => text.map some
  | some _ => none

/-- A truth value that may be missing. -/
def readBool (default : Bool) : Option Document → Option Bool
  | none => some default
  | some (.bool b) => some b
  | some _ => none

/-- Settings from their values, each of which may be missing. -/
def ofValues (appName givenId logLevel logToFile : Option Document) : Option Settings := do
  return {
    appName := ← readText "" appName
    givenId := ← readOptionalText givenId
    logLevel := ← readText defaultLogLevel logLevel
    logToFile := ← readBool false logToFile }

/-- The value of a key that is there once or not at all. -/
def only? (key : String) (members : List (String × Document)) : Option (Option Document) :=
  match members.filter (·.1 == key) with
  | [] => some none
  | [(_, d)] => some (some d)
  | _ => none

/-- Settings from the members of an object, the keys of which are texts. -/
def ofMembers (members : List (Option String × Document)) : Option Settings := do
  let members ← members.mapM fun (key, d) => key.map (·, d)
  ofValues (← only? "app_name" members) (← only? "app_user_model_id" members)
    (← only? "log_level" members) (← only? "log_to_file" members)

/-- Settings from a document. -/
def ofDocument? : Document → Option Settings
  | .object members => ofMembers members
  | .array elements =>
    if elements.length ≤ 4 then
      ofValues (elements[0]?) (elements[1]?) (elements[2]?) (elements[3]?)
    else none
  | _ => none

/-- Settings from a text. -/
def ofText? (text : String) : Option Settings := (Document.ofText? text).bind ofDocument?

end JumpList.Settings

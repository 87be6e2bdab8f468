/-
# JumpList.Shell.Configured — a shell that fails as it is configured to.

The configuration says once and for all which calls fail; the shell remembers nothing, so the same
call always has the same answer.  Paths are recognised by their components.  A failing call bears the
name of the system operation behind it.

The objects that such a shell holds can be handed back as removed objects: every property that was
set can be read, and any other fails or is missing.
-/
import JumpList.Native.Call

namespace JumpList.Shell

open Native

/-- Which calls fail, and what an opened list reports. -/
structure Configuration where
  minimumSlots : UInt32
  removed : List RemovedObject
  failCreateList : Bool
  failCreateCollection : Bool
  failCreateLink : Bool
  failingLinkPaths : List Path
  failingLinkTitles : List String
  failSeparator : Bool
  unresolvableFiles : List Path
  setAppIdError : Option Status
  beginError : Option Status
  knownCategoryError : Option Status
  addUserTasksError : Option Status
  /-- The categories that are refused, by name. -/
  appendCategoryErrors : List (String × Status)
  commitError : Option Status
  deleteError : Option Status

namespace Configuration

/-- The configuration without failures and without removed objects. -/
def faultless : Configuration where
  minimumSlots := 0
  removed := []
  failCreateList := false
  failCreateCollection := false
  failCreateLink := false
  failingLinkPaths := []
  failingLinkTitles := []
  failSeparator := false
  unresolvableFiles := []
  setAppIdError := none
  beginError := none
  knownCategoryError := none
  addUserTasksError := none
  appendCategoryErrors := []
  commitError := none
  deleteError := none

/-- An unspecified failure if the condition holds. -/
def failIf (condition : Bool) (operation : String) : Option Failure :=
  if condition then some ⟨operation, Status.unspecified⟩ else none

/-- A failure with the given status, if there is one. -/
def failWith (status : Option Status) (operation : String) : Option Failure :=
  status.map (⟨operation, ·⟩)

/-- Whether one of the paths has the components of `p`. -/
def holds (paths : List Path) (p : Path) : Bool := paths.any (·.same p)

/-- How a call fails, if it does. -/
def failure? (cfg : Configuration) : Call → Option Failure
  | .createDestinationList => failIf cfg.failCreateList "CoCreateInstance(DestinationList)"
  | .createShellLink => failIf cfg.failCreateLink "CoCreateInstance(ShellLink)"
  | .createShellItem path =>
    failIf (holds cfg.unresolvableFiles path) "SHCreateItemFromParsingName"
  | .createObjectCollection =>
    failIf cfg.failCreateCollection "CoCreateInstance(EnumerableObjectCollection)"
  | .setPath path => failIf (holds cfg.failingLinkPaths path) "SetPath"
  | .setTitle title =>
    failIf (cfg.failingLinkTitles.contains title) "IPropertyStore::SetValue(Title)"
  | .markAsSeparator =>
    failIf cfg.failSeparator "IPropertyStore::SetValue(IsDestListSeparator)"
  | .setAppId _ => failWith cfg.setAppIdError "SetAppID"
  | .beginList => failWith cfg.beginError "BeginList"
  | .appendKnownCategory _ => failWith cfg.knownCategoryError "AppendKnownCategory"
  | .addUserTasks _ => failWith cfg.addUserTasksError "AddUserTasks"
  | .appendCategory name _ => failWith (cfg.appendCategoryErrors.lookup name) "AppendCategory"
  | .commitList => failWith cfg.commitError "CommitList"
  | .deleteList _ => failWith cfg.deleteError "DeleteList"
  | .setArguments _ | .setDescription _ | .setIconLocation _ _ | .addLink _ | .addItem _
  | .abortList => none

/-- The answer to a call. -/
def reply (cfg : Configuration) (c : Call) : c.Reply :=
  match cfg.failure? c with
  | some e => .error e
  | none => .ok (c.granted ⟨cfg.minimumSlots, cfg.removed⟩)

/-- The shell of a configuration. -/
def answer : Shell Configuration := fun c cfg => (cfg.reply c, cfg)

end Configuration

/-! ## Handing objects back -/

/-- The value of a property, or an unspecified failure of reading it. -/
def readBack {α : Type} (value : Option α) (operation : String) : Except Failure α :=
  match value with
  | some a => .ok a
  | none => .error ⟨operation, Status.unspecified⟩

/-- What can be read from a link. -/
def linkProperties (link : ShellLink) : LinkProperties where
  path := readBack link.path "GetPath"
  arguments := .ok link.arguments
  title := .ok link.title
  icon := readBack link.icon "GetIconLocation"
  description := readBack link.description "GetDescription"

/-- What can be read from a file of which at most the path is known. -/
def fileProperties (path : Option Path) : RemovedObject :=
  .file (readBack path "GetDisplayName")

/-- An object as it comes back when the user takes it off. -/
def handBack : Object → RemovedObject
  | .link link => .link (linkProperties link)
  | .file path => fileProperties (some path)

/-- Whether a call is one on the list itself or makes a collection, rather than one on an object. -/
def concernsList : Call → Bool
  | .createObjectCollection | .setAppId _ | .beginList | .appendKnownCategory _ | .addUserTasks _
  | .appendCategory _ _ | .commitList | .abortList | .deleteList _ => true
  | _ => false

end JumpList.Shell

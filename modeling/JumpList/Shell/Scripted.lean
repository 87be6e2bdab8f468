/-
# JumpList.Shell.Scripted — a shell that fails as a script says.

The script says what an opened list reports and which calls fail.  Calls are counted by name, failed
ones too, so that a rule can single out one of them; of the rules that apply to a call the first
decides.  A call that no rule applies to succeeds.
-/
import JumpList.Native.Call

namespace JumpList.Shell

open Native

/-! ## Names and subjects of calls -/

/-- The name of a call. -/
def callName : Call → String
  | .createDestinationList => "CreateDestinationList"
  | .createShellLink => "CreateShellLink"
  | .createShellItem _ => "CreateShellItem"
  | .createObjectCollection => "CreateObjectCollection"
  | .setPath _ => "SetPath"
  | .setArguments _ => "SetArguments"
  | .setDescription _ => "SetDescription"
  | .setIconLocation _ _ => "SetIconLocation"
  | .setTitle _ => "SetTitle"
  | .markAsSeparator => "MarkAsSeparator"
  | .addLink _ => "AddLink"
  | .addItem _ => "AddItem"
  | .setAppId _ => "SetAppID"
  | .beginList => "BeginList"
  | .appendKnownCategory _ => "AppendKnownCategory"
  | .addUserTasks _ => "AddUserTasks"
  | .appendCategory _ _ => "AppendCategory"
  | .commitList => "CommitList"
  | .abortList => "AbortList"
  | .deleteList _ => "DeleteList"

/-- The name of a category that the shell fills, as a subject. -/
def knownSubject : KnownCategory → String
  | .frequent => "frequent"
  | .recent => "recent"

/-- The first thing that a call is about. -/
inductive Subject where
  /-- A path, or a text as its bytes. -/
  | bytes (bytes : List UInt8)
  | objects (objects : Collection)
  deriving DecidableEq, Repr

/-- A text as a subject. -/
def Subject.ofText (text : String) : Subject := .bytes (Path.ofString text).bytes

/-- The subject of a call, if it has one. -/
def callSubject? : Call → Option Subject
  | .createShellItem path | .setPath path | .setIconLocation path _ | .addItem path =>
    some (.bytes path.bytes)
  | .setArguments text | .setDescription text | .setTitle text | .setAppId text
  | .appendCategory text _ | .deleteList text => some (.ofText text)
  | .appendKnownCategory category => some (.ofText (knownSubject category))
  | .addUserTasks objects => some (.objects objects)
  | .createDestinationList | .createShellLink | .createObjectCollection | .markAsSeparator
  | .addLink _ | .beginList | .commitList | .abortList => none

/-! ## Scripts -/

/-- A rule that makes calls fail. -/
structure Rule where
  /-- The name of the calls that it is about. -/
  name : String
  /-- The subject, if only calls about one subject fail. -/
  subject : Option Subject
  /-- The number of the call, if only one call fails. -/
  number : Option Nat
  status : Status
  deriving DecidableEq, Repr

/-- Whether the rule makes the `number`-th call of this name fail. -/
def Rule.applies (r : Rule) (c : Call) (number : Nat) : Bool :=
  r.name == callName c && (r.subject.isNone || r.subject == callSubject? c) &&
    (r.number.isNone || r.number == some number)

/-- What a scripted shell does. -/
structure Script where
  opening : Opening
  rules : List Rule

/-- A script and the names of the calls made under it, the last one first. -/
structure Scripted where
  script : Script
  asked : List String

namespace Scripted

/-- A shell at the start of its script. -/
def start (script : Script) : Scripted := ⟨script, []⟩

/-- Answers calls by the script. -/
def answer : Shell Scripted := fun c s =>
  let asked := callName c :: s.asked
  let reply :=
    match s.script.rules.find? (·.applies c (asked.count (callName c))) with
    | some rule => .error ⟨rule.name, rule.status⟩
    | none => .ok (c.granted s.script.opening)
  (reply, { s with asked })

end Scripted

end JumpList.Shell

/-
# JumpList.Native.Call — the calls that the shell answers.

A call is data, with everything that the shell is told.  It either fails, with an operation and a
status, or has its answer; only the opening of a list has an answer that says something.  A program
that makes calls is a dialogue with the shell.
-/
import JumpList.Dialogue
import JumpList.Native.Object

namespace JumpList.Native

/-- A category that the shell fills. -/
inductive KnownCategory where
  | frequent
  | recent
  deriving DecidableEq, Repr

/-- The name of a category that the shell fills. -/
def KnownCategory.name : KnownCategory → String
  | .frequent => "Frequent"
  | .recent => "Recent"

/-- A call to the shell. -/
inductive Call where
  | createDestinationList
  | createShellLink
  | createShellItem (path : Path)
  | createObjectCollection
  | setPath (path : Path)
  | setArguments (text : String)
  | setDescription (text : String)
  | setIconLocation (path : Path) (index : Int32)
  | setTitle (text : String)
  | markAsSeparator
  | addLink (link : ShellLink)
  | addItem (path : Path)
  | setAppId (id : String)
  | beginList
  | appendKnownCategory (category : KnownCategory)
  | addUserTasks (objects : Collection)
  | appendCategory (name : String) (objects : Collection)
  | commitList
  | abortList
  | deleteList (id : String)
  deriving DecidableEq, Repr

/-- What the shell says when a list is opened. -/
structure Opening where
  /-- How many items it has room for at least. -/
  minimumSlots : UInt32
  /-- What the user took off since the last update. -/
  removed : List RemovedObject
  deriving Repr

/-- The answer to a call that does not fail. -/
def Call.Answer : Call → Type
  | .beginList => Opening
  | _ => Unit

/-- The answer to a call that does not fail, given what an opened list reports. -/
def Call.granted (opening : Opening) : (c : Call) → c.Answer
  | .beginList => opening
  | .createDestinationList | .createShellLink | .createShellItem _ | .createObjectCollection
  | .setPath _ | .setArguments _ | .setDescription _ | .setIconLocation _ _ | .setTitle _
  | .markAsSeparator | .addLink _ | .addItem _ | .setAppId _ | .appendKnownCategory _
  | .addUserTasks _ | .appendCategory _ _ | .commitList | .abortList | .deleteList _ => ()

/-- How a call comes out. -/
abbrev Call.Reply (call : Call) : Type := Except Failure call.Answer

/-- A program that talks to the shell. -/
abbrev Talk := Dialogue Call Call.Reply

/-- A program that talks to the shell and stops at the first call that fails. -/
abbrev Attempt := ExceptT Failure Talk

/-- A call and how it came out. -/
abbrev Event := Dialogue.Event Call Call.Reply

/-- Anything that answers calls, with a memory of type `σ`. -/
abbrev Shell (σ : Type) := Dialogue.Responder Call Call.Reply σ

/-- Makes a call. -/
def call (c : Call) : Talk c.Reply := Dialogue.question c

/-- Makes a call that must not fail. -/
def require (c : Call) : Attempt c.Answer := ExceptT.mk (call c)

/-- Leaves a record. -/
def note (record : Log.Record) : Talk Unit := Dialogue.say record

@[simp] theorem run_call {σ : Type} (answer : Shell σ) (c : Call) (s : σ) :
    (call c).run answer s = ⟨(answer c s).1, (answer c s).2, [⟨c, (answer c s).1⟩], []⟩ := rfl

@[simp] theorem run_note {σ : Type} (answer : Shell σ) (record : Log.Record) (s : σ) :
    (note record).run answer s = ⟨(), s, [], [record]⟩ := rfl

/-- Whether the call of an event failed, and how. -/
def Event.failure? (e : Event) : Option Failure :=
  match e.2 with
  | .ok _ => none
  | .error failure => some failure

end JumpList.Native

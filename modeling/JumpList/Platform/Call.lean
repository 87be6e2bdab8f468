/-
# JumpList.Platform.Call — what a process asks of its platform before it uses the shell.

Three flat calls: join an apartment, leave it, and register the identity of the process.  Joining and
registering report a status.
-/
import JumpList.Dialogue
import JumpList.Native.Status

namespace JumpList.Platform

open Native (Failure Status)

/-- A call to the platform. -/
inductive Call where
  /-- Joins an apartment of the given model. -/
  | enterApartment (model : UInt32)
  /-- Leaves the apartment. -/
  | leaveApartment
  /-- Registers the identity of the process. -/
  | setProcessAppId (id : String)
  deriving DecidableEq, Repr

/-- The answer to a call. -/
def Call.Reply : Call → Type
  | .enterApartment _ | .setProcessAppId _ => Status
  | .leaveApartment => Unit

/-- A program that talks to the platform. -/
abbrev Talk := Dialogue Call Call.Reply

/-- Makes a call. -/
def call (c : Call) : Talk c.Reply := Dialogue.question c

/-- Leaves a record. -/
def note (record : Log.Record) : Talk Unit := Dialogue.say record

@[simp] theorem run_note {σ : Type} (answer : Dialogue.Responder Call Call.Reply σ)
    (record : Log.Record) (s : σ) : (note record).run answer s = ⟨(), s, [], [record]⟩ := rfl

/-! ## Errors -/

/-- Why the surroundings of the shell could not be set up. -/
inductive Error where
  /-- A call reported this status. -/
  | reported (status : Status)
  /-- There is no apartment. -/
  | initializationFailed (text : String)
  deriving DecidableEq, Repr

/-- The code that stands for zero in a word that is never zero. -/
def zeroStandIn : Status := ⟨0x535F4F4B⟩

/-- A status as it is read back from an error.  An error keeps its code in a word that is never zero,
so that the stand-in for zero cannot be told from zero. -/
def readBack (status : Status) : Status := if status = zeroStandIn then ⟨0⟩ else status

/-- A reported status in words; the words and the code are the same digits. -/
def statusText (status : Status) : String :=
  s!"{(readBack status).digits .lower} ({(readBack status).text})"

/-- A status among other values. -/
def statusValue (status : Status) : String := s!"HRESULT({status.text})"

/-- A reported status as the record of an error shows it. -/
def statusRecord (status : Status) : String :=
  "Error \x7b code: " ++ statusValue (readBack status) ++ ", message: \"" ++
    (readBack status).digits .lower ++ "\" \x7d"

namespace Error

/-- The error in words. -/
def message : Error → String
  | .reported status => s!"Win32 Error: {statusText status}"
  | .initializationFailed text => s!"Initialization Failed: {text}"

/-- The error behind it in words. -/
def cause? : Error → Option String
  | .reported status => some (statusText status)
  | .initializationFailed _ => none

end Error

/-- A reported status as the failure of a call to the shell. -/
def shellFailure (operation : String) (status : Status) : Failure :=
  ⟨operation, readBack status⟩

end JumpList.Platform

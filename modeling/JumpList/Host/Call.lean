/-
# JumpList.Host.Call — what a program asks of the machine that it runs on.

Files are read and written whole, directories are made with everything above them, and the clock is
read.  A request that cannot be met has a cause.
-/
import JumpList.Dialogue
import JumpList.Path

namespace JumpList.Host

/-! ## Causes -/

/-- Why a file or directory cannot be used. -/
inductive Cause where
  | notFound
  | alreadyExists
  | notADirectory
  | isADirectory
  | nameTooLong
  /-- A path with a NUL byte is never looked up. -/
  | nulInPath
  /-- The file is no text. -/
  | notText
  | other (text : String)
  deriving DecidableEq, Repr

/-- The cause in words. -/
def Cause.text : Cause → String
  | .notFound => "No such file or directory (os error 2)"
  | .alreadyExists => "File exists (os error 17)"
  | .notADirectory => "Not a directory (os error 20)"
  | .isADirectory => "Is a directory (os error 21)"
  | .nameTooLong => "File name too long (os error 36)"
  | .nulInPath => "file name contained an unexpected NUL byte"
  | .notText => "stream did not contain valid UTF-8"
  | .other text => text

/-! ## Requests -/

/-- A request to the machine. -/
inductive Call where
  /-- Whether something is at a path. -/
  | isPresent (path : Path)
  /-- The text in a file. -/
  | readText (path : Path)
  /-- Makes the bytes the content of a file, new or not. -/
  | write (path : Path) (bytes : List UInt8)
  /-- Adds bytes to the end of a file. -/
  | append (path : Path) (bytes : List UInt8)
  /-- Makes a directory, and those above it that are missing. -/
  | makeDirectories (path : Path)
  /-- The seconds since midnight. -/
  | clock
  deriving DecidableEq, Repr

/-- The answer to a request. -/
def Call.Reply : Call → Type
  | .isPresent _ => Bool
  | .readText _ => Except Cause String
  | .write _ _ | .append _ _ | .makeDirectories _ => Except Cause Unit
  | .clock => Nat

/-- A program that uses the machine. -/
abbrev Talk := Dialogue Call Call.Reply

/-- Anything that meets requests, with a memory of type `σ`. -/
abbrev Machine (σ : Type) := Dialogue.Responder Call Call.Reply σ

/-- Asks whether something is at a path. -/
def isPresent (p : Path) : Talk Bool := Dialogue.question (Call.isPresent p)

/-- Asks for the text in a file. -/
def readText (p : Path) : Talk (Except Cause String) := Dialogue.question (Call.readText p)

/-- Has bytes made the content of a file. -/
def write (p : Path) (bytes : List UInt8) : Talk (Except Cause Unit) :=
  Dialogue.question (Call.write p bytes)

/-- Has bytes added to the end of a file. -/
def append (p : Path) (bytes : List UInt8) : Talk (Except Cause Unit) :=
  Dialogue.question (Call.append p bytes)

/-- Has a directory made, and those above it that are missing. -/
def makeDirectories (p : Path) : Talk (Except Cause Unit) :=
  Dialogue.question (Call.makeDirectories p)

/-- Asks for the seconds since midnight. -/
def clock : Talk Nat := Dialogue.question Call.clock

/-- Leaves a record. -/
def note (record : Log.Record) : Talk Unit := Dialogue.say record

end JumpList.Host

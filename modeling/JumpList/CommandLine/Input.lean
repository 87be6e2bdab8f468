/-
# JumpList.CommandLine.Input — JSON values from files.

A file that cannot be read or that holds no JSON leaves a record and no value.
-/
import JumpList.Host.Call
import JumpList.Json.Document

namespace JumpList.CommandLine

open Host (Cause Talk note)

/-- A file could not be read. -/
def unreadable (p : Path) (cause : Cause) : Log.Record :=
  ⟨.error, s!"Main: Failed to read {p.quoted}: {cause.text}"⟩

/-- A file holds no JSON. -/
def notJson (p : Path) : Log.Record := ⟨.error, s!"Main: {p.quoted} is not valid JSON"⟩

/-- The JSON value in a file. -/
def readJson (p : Path) : Talk (Option Json) := do
  match ← Host.readText p with
  | .error cause =>
    note (unreadable p cause)
    return none
  | .ok text =>
    match Json.ofText? text with
    | some value => return some value
    | none =>
      note (notJson p)
      return none

end JumpList.CommandLine

/-
# JumpList.Platform.Apartment — the apartment of a thread.

A thread joins an apartment before it uses the shell, and leaves it as often as it joined.  A thread
that is in an apartment of another model already stays there: it has not joined, so it does not
leave.

Each time a thread joins it gets a guard, and leaves when the guard is given up.  A thread may hold
several guards and give them up in any order.
-/
import JumpList.Platform.Call

namespace JumpList.Platform

open Native (Status)

/-- The guard of a thread in an apartment. -/
structure Apartment where
  /-- Whether the thread joined, and so has to leave. -/
  joined : Bool
  deriving DecidableEq, Repr

namespace Apartment

/-- The model in which a thread serves its own objects. -/
def threaded : UInt32 := 2

/-- The status of a thread that is in an apartment of another model. -/
def changedMode : Status := ⟨0x80010106⟩

/-- The status of a thread that was in the apartment before. -/
def alreadyJoined : Status := ⟨1⟩

/-- Joins an apartment. -/
def join : Talk (Except Error Apartment) := do
  let status : Status ← call (.enterApartment threaded)
  if status = changedMode then
    note ⟨.debug, "ComApartment: Thread already initialized with a different model."⟩
    return .ok ⟨false⟩
  else if status.isFailure then
    return .error (.initializationFailed s!"CoInitializeEx failed: {statusValue status}")
  else
    if status = alreadyJoined then
      note ⟨.trace, "ComApartment: COM was already initialized on this thread."⟩
    return .ok ⟨true⟩

/-- Leaves the apartment, if the thread joined it. -/
def leave (a : Apartment) : Talk Unit := do
  if a.joined then
    let _ ← call .leaveApartment

/-- Leaves apartments, the last one of the list first. -/
def leaveAll (apartments : List Apartment) : Talk Unit := apartments.reverse.forM leave

/-! ## Several guards -/

/-- What a thread does with its guards. -/
inductive Step where
  /-- Gets one more guard. -/
  | acquire
  /-- Gives up the guard at a place, counted from the oldest. -/
  | release (place : Nat)
  deriving DecidableEq, Repr

/-- What came of a step. -/
inductive Report where
  | acquired
  | refused (cause : Error)
  | released
  /-- There is no guard at that place. -/
  | notHeld
  deriving DecidableEq, Repr

/-- Takes a step, and says which guards the thread holds afterwards. -/
def perform (held : List Apartment) : Step → Talk (Report × List Apartment)
  | .acquire => do
    match ← join with
    | .ok guard => return (.acquired, held ++ [guard])
    | .error cause => return (.refused cause, held)
  | .release place =>
    match held[place]? with
    | none => return (.notHeld, held)
    | some guard => do
      guard.leave
      return (.released, held.eraseIdx place)

/-- Takes steps, in order. -/
def performAll (held : List Apartment) : List Step → Talk (List Report × List Apartment)
  | [] => return ([], held)
  | step :: steps => do
    let (report, held) ← perform held step
    let (reports, held) ← performAll held steps
    return (report :: reports, held)

end Apartment

end JumpList.Platform

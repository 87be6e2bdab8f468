/-
# JumpList.Native.Status — status codes of native calls.

A native call reports a word of 32 bits, negative as a signed number if the call failed.  The word is
shown as eight digits in base sixteen.  A failed call is known by the operation and its code.
-/
import JumpList.Text.Hex

namespace JumpList.Native

/-- A status code. -/
structure Status where
  code : UInt32
  deriving DecidableEq, Repr, Inhabited

namespace Status

/-- An unspecified failure. -/
def unspecified : Status := ⟨0x80004005⟩

/-- Access was denied. -/
def accessDenied : Status := ⟨0x80070005⟩

/-- The application is not registered for a file type that a category uses. -/
def noAssociation : Status := ⟨0x80040F03⟩

/-- The code as a signed number. -/
def signed (s : Status) : Int32 := s.code.toInt32

/-- Whether the code stands for a failure. -/
def isFailure (s : Status) : Bool := s.signed < 0

/-- The eight digits of the code, letters in the given case. -/
def digits (case : Text.LetterCase) (s : Status) : String :=
  "0x" ++ String.ofList (Text.hexFixed case 8 s.code.toNat)

/-- The code as it is shown. -/
def text (s : Status) : String := s.digits .upper

end Status

/-- A native call that failed. -/
structure Failure where
  /-- The name of the call. -/
  operation : String
  status : Status
  deriving DecidableEq, Repr, Inhabited

/-- The failure in words. -/
def Failure.message (e : Failure) : String := s!"{e.operation} failed with {e.status.text}"

end JumpList.Native

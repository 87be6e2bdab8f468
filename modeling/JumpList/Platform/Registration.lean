/-
# JumpList.Platform.Registration — the identity of a process.

The windows of a process are grouped under an identity, the one that its jump list belongs to.
-/
import JumpList.Identity
import JumpList.Platform.Call

namespace JumpList.Platform

open Native (Status)

/-- Registers the identity for the process. -/
def registerIdentity (id : AppId) : Talk (Except Error Unit) := do
  let status : Status ← call (.setProcessAppId id.text)
  if status.isFailure then
    note ⟨.error, s!"Failed to set the process AppUserModelID '{id.text}': " ++
      statusRecord status⟩
    return .error (.reported status)
  else return .ok ()

end JumpList.Platform

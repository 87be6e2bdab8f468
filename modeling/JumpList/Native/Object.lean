/-
# JumpList.Native.Object — what the shell's lists are made of.

Tasks and separators are shell links; files are shell items.  A link is known by the properties that
were set on it.  What the user took off a list comes back as objects too, but now every property has
to be asked for, and asking can fail.
-/
import JumpList.Native.Status
import JumpList.Path

namespace JumpList.Native

/-! ## Objects of the application -/

/-- A shell link: the properties set on it so far. -/
structure ShellLink where
  path : Option Path
  arguments : Option String
  description : Option String
  icon : Option (Path × Int32)
  title : Option String
  separator : Bool
  deriving DecidableEq, Repr, Inhabited

/-- A link as it is made. -/
def ShellLink.blank : ShellLink := ⟨none, none, none, none, none, false⟩

/-- An object in a collection. -/
inductive Object where
  | link (link : ShellLink)
  | file (path : Path)
  deriving DecidableEq, Repr

/-- Objects gathered for one category, in order. -/
abbrev Collection := List Object

/-! ## Objects that the user took off -/

/-- What asking a link for each of its properties gives. -/
structure LinkProperties where
  path : Except Failure Path
  /-- Nothing if the property is missing or no text. -/
  arguments : Except Failure (Option String)
  /-- Nothing if the property is missing or no text. -/
  title : Except Failure (Option String)
  icon : Except Failure (Path × Int32)
  description : Except Failure String
  deriving Repr

/-- An object that was taken off a list. -/
inductive RemovedObject where
  | file (path : Except Failure Path)
  | link (properties : LinkProperties)
  | unrecognized
  deriving Repr

end JumpList.Native

/-
# JumpList.Path — file paths as byte strings.

A path is any byte string; most are texts in UTF-8, but nothing requires it.  Two comparisons live
side by side: equality of the bytes, and equality of the components, which does not see repeated or
trailing slashes nor a `.` behind the first place.  The parent directory `..` is a component like
any other, since only a disk can say where it leads.
-/
import JumpList.Text.Quoted
import JumpList.Text.Runs

namespace JumpList

open Text

/-- A file path: its bytes. -/
structure Path where
  bytes : List UInt8
  deriving DecidableEq, Repr, Inhabited

namespace Path

/-! ## Texts -/

/-- The path that a text spells. -/
def ofString (s : String) : Path := ⟨Utf8.encode s.toList⟩

/-- The path as a text, U+FFFD in place of each ill-formed run. -/
def lossy (p : Path) : String := String.ofList (Utf8.lossy p.bytes)

/-- The path between quotes, on one line, every byte recognisable. -/
def quoted (p : Path) : String := quote p.bytes

/-- The path without bytes. -/
def empty : Path := ⟨[]⟩

/-- Whether the path is without bytes. -/
def isEmpty (p : Path) : Bool := p.bytes.isEmpty

/-! ## Components -/

/-- The byte between names. -/
def slash : UInt8 := 0x2F

/-- The name of a directory in itself. -/
def selfName : List UInt8 := [0x2E]

/-- The name of a directory's parent in it. -/
def parentName : List UInt8 := [0x2E, 0x2E]

/-- The names between slashes, as written: `.` and `..` are kept. -/
def names (p : Path) : List (List UInt8) := runs (· == slash) p.bytes

/-- Whether the path starts at the root. -/
def isAbsolute (p : Path) : Bool := p.bytes.head? == some slash

/-- Whether the path ends in a slash. -/
def endsInSlash (p : Path) : Bool := p.bytes.getLast? == some slash

/-- A part of a path that counts in a comparison. -/
inductive Component where
  | root
  | current
  | name (bytes : List UInt8)
  deriving DecidableEq, Repr

/-- What counts of a path: the root, a `.` that a relative path starts with, and every other name
but `.`. -/
def components (p : Path) : List Component :=
  let rest := (p.names.filter (· ≠ selfName)).map Component.name
  if p.isAbsolute then .root :: rest
  else if p.names.head? = some selfName then .current :: rest
  else rest

/-- Whether two paths have the same components. -/
def same (p q : Path) : Bool := p.components == q.components

@[simp] theorem same_self (p : Path) : p.same p = true := by simp [same]

/-! ## Joining and going up -/

/-- The path `q` as seen from the directory `p`: `q` itself if it starts at the root. -/
def join (p q : Path) : Path :=
  if q.isAbsolute then q
  else if p.isEmpty || p.endsInSlash then ⟨p.bytes ++ q.bytes⟩
  else ⟨p.bytes ++ slash :: q.bytes⟩

/-- The name that a component is written as. -/
def Component.written : Component → List UInt8
  | .root => []
  | .current => selfName
  | .name bytes => bytes

/-- A path with the given components. -/
def ofComponents : List Component → Path
  | [] => empty
  | [.root] => ⟨[slash]⟩
  | cs => ⟨(cs.map Component.written).intersperse [slash] |>.flatten⟩

/-- The directory that the last component is in, if there is a component other than the root. -/
def parent? (p : Path) : Option Path :=
  match p.components.getLast? with
  | none => none
  | some .root => none
  | some _ => some (ofComponents p.components.dropLast)

end Path

end JumpList

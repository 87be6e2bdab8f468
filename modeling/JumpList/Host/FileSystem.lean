/-
# JumpList.Host.FileSystem — a file system in memory.

A file system says what is at each location, a location being the names on the way down from the
root.  A path is walked name by name: every name but the last must lead to a directory, `.` stays,
and `..` goes up, as far as the root.  There are no links, so going up undoes going down.

The requests of a program are met by the rules of such a system: which cause is reported follows from
where the walk ends.
-/
import JumpList.Host.Call

namespace JumpList.Host

/-- The name of a file or directory in its directory. -/
abbrev Name := List UInt8

/-- The names on the way down from the root. -/
abbrev Location := List Name

/-- What is at a location. -/
inductive Entry where
  | directory
  | file (bytes : List UInt8)
  deriving DecidableEq, Repr

/-- What is at every location but the root, which is a directory; and where relative paths start. -/
structure FileSystem where
  entries : List (Location × Entry)
  working : Location
  deriving Repr

namespace FileSystem

/-! ## Locations -/

/-- What is at a location, if anything is. -/
def get? (fs : FileSystem) (loc : Location) : Option Entry :=
  if loc.isEmpty then some .directory else fs.entries.lookup loc

/-- The file system with an entry at a location. -/
def put (fs : FileSystem) (loc : Location) (entry : Entry) : FileSystem :=
  { fs with entries := (loc, entry) :: fs.entries.filter (·.1 ≠ loc) }

/-- The file system without a location and what is below it. -/
def remove (fs : FileSystem) (loc : Location) : FileSystem :=
  { fs with entries := fs.entries.filter (!loc.isPrefixOf ·.1) }

theorem get?_put_self {fs : FileSystem} {loc : Location} (h : loc ≠ []) (entry : Entry) :
    (fs.put loc entry).get? loc = some entry := by
  cases loc with
  | nil => exact absurd rfl h
  | cons _ _ => simp [get?, put]

/-- What is looked up among entries that were kept by their locations. -/
theorem lookup_filter (keep : Location → Bool) (other : Location)
    (entries : List (Location × Entry)) :
    (entries.filter (keep ·.1)).lookup other =
      if keep other then entries.lookup other else none := by
  induction entries with
  | nil => simp
  | cons e rest ih =>
    obtain ⟨loc, entry⟩ := e
    by_cases hloc : other = loc
    · subst hloc
      by_cases hkeep : keep other
      · simp [hkeep]
      · simpa [hkeep] using ih
    · have hne : (other == loc) = false := by simpa using hloc
      by_cases hkeep : keep loc
      · simpa [hkeep, List.lookup_cons, hne] using ih
      · simpa [hkeep, List.lookup_cons, hne] using ih

theorem get?_put_of_ne {fs : FileSystem} {loc other : Location} (h : other ≠ loc) (entry : Entry) :
    (fs.put loc entry).get? other = fs.get? other := by
  have ho : (other == loc) = false := by simpa using h
  have hkept := lookup_filter (fun l => decide (l ≠ loc)) other fs.entries
  rw [if_pos (by simpa using h)] at hkept
  simp only [get?, put, List.lookup_cons, ho, hkept]

/-- Nothing is left at a location that was removed, nor below it; everything else is where it was. -/
theorem get?_remove (fs : FileSystem) (loc : Location) {other : Location} (h : other ≠ []) :
    (fs.remove loc).get? other = if loc.isPrefixOf other then none else fs.get? other := by
  have ho : other.isEmpty = false := by simpa using h
  simp only [get?, remove, ho, lookup_filter (fun l => !loc.isPrefixOf l)]
  cases loc.isPrefixOf other <;> rfl

/-! ## Walking -/

/-- The longest name. -/
def nameLimit : Nat := 255

/-- The longest path. -/
def pathLimit : Nat := 4095

/-- The location that names lead to from a location, where there must be something. -/
def walk (fs : FileSystem) : Location → List Name → Except Cause Location
  | loc, [] => .ok loc
  | loc, name :: names =>
    match fs.get? loc with
    | none => .error .notFound
    | some (.file _) => .error .notADirectory
    | some .directory =>
      if name = Path.selfName then fs.walk loc names
      else if name = Path.parentName then fs.walk loc.dropLast names
      else if nameLimit < name.length then .error .nameTooLong
      else if (fs.get? (loc ++ [name])).isNone then .error .notFound
      else fs.walk (loc ++ [name]) names

/-- Whether a path can be looked up at all. -/
def checkPath (p : Path) : Except Cause Unit :=
  if p.bytes.contains 0 then .error .nulInPath
  else if p.isEmpty then .error .notFound
  else if pathLimit < p.bytes.length then .error .nameTooLong
  else .ok ()

/-- Where a path starts. -/
def start (fs : FileSystem) (p : Path) : Location := if p.isAbsolute then [] else fs.working

/-- What is at a path, and where. A path that ends in a slash leads to a directory. -/
def find (fs : FileSystem) (p : Path) : Except Cause (Location × Entry) := do
  checkPath p
  let loc ← fs.walk (fs.start p) p.names
  match fs.get? loc with
  | none => .error .notFound
  | some .directory => return (loc, .directory)
  | some (.file bytes) =>
    if p.endsInSlash then .error .notADirectory else return (loc, .file bytes)

/-- Whether something is at a path. -/
def isPresent (fs : FileSystem) (p : Path) : Bool := (fs.find p).toBool

/-- Whether a directory is at a path. -/
def isDirectory (fs : FileSystem) (p : Path) : Bool :=
  match fs.find p with
  | .ok (_, .directory) => true
  | _ => false

/-- The directory and the name in it that a path leads to, whether or not anything is there. There is
no name if the path ends at the root, in `.` or in `..`. -/
def target (fs : FileSystem) (p : Path) : Except Cause (Location × Option Name) := do
  checkPath p
  let loc ← fs.walk (fs.start p) p.names.dropLast
  match fs.get? loc, p.names.getLast? with
  | none, _ => .error .notFound
  | some (.file _), _ => .error .notADirectory
  | some .directory, none => return (loc, none)
  | some .directory, some name =>
    if name = Path.selfName ∨ name = Path.parentName then return (loc, none)
    else return (loc, some name)

/-! ## Files -/

/-- The bytes in a file. -/
def read (fs : FileSystem) (p : Path) : Except Cause (List UInt8) := do
  match ← fs.find p with
  | (_, .directory) => .error .isADirectory
  | (_, .file bytes) => return bytes

/-- The text in a file. -/
def readText (fs : FileSystem) (p : Path) : Except Cause String := do
  match Text.Utf8.decode? (← fs.read p) with
  | some cs => return String.ofList cs
  | none => .error .notText

/-- The location of the file that a path leads to, and its bytes if it is there. -/
def openFile (fs : FileSystem) (p : Path) : Except Cause (Location × List UInt8) := do
  match ← fs.target p with
  | (_, none) => .error .isADirectory
  | (loc, some name) =>
    if p.endsInSlash then .error .isADirectory
    else if nameLimit < name.length then .error .nameTooLong
    else
      match fs.get? (loc ++ [name]) with
      | some .directory => .error .isADirectory
      | some (.file bytes) => return (loc ++ [name], bytes)
      | none => return (loc ++ [name], [])

/-- The file system after bytes became the content of a file. -/
def write (fs : FileSystem) (p : Path) (bytes : List UInt8) : Except Cause FileSystem := do
  let (loc, _) ← fs.openFile p
  return fs.put loc (.file bytes)

/-- The file system after bytes were added to a file. -/
def append (fs : FileSystem) (p : Path) (bytes : List UInt8) : Except Cause FileSystem := do
  let (loc, old) ← fs.openFile p
  return fs.put loc (.file (old ++ bytes))

/-! ## Directories -/

/-- The file system after one directory was made. -/
def makeDirectory (fs : FileSystem) (p : Path) : Except Cause FileSystem := do
  match ← fs.target p with
  | (_, none) => .error .alreadyExists
  | (loc, some name) =>
    if nameLimit < name.length then .error .nameTooLong
    else if (fs.get? (loc ++ [name])).isSome then .error .alreadyExists
    else return fs.put (loc ++ [name]) .directory

/-- The file system after a directory was made if it is not there. -/
def ensureDirectory (fs : FileSystem) (p : Path) : Except Cause FileSystem :=
  match fs.makeDirectory p with
  | .ok fs => .ok fs
  | .error cause => if fs.isDirectory p then .ok fs else .error cause

/-- The file system after a change that may fail, and what came of it. -/
def change (fs : FileSystem) : Except Cause FileSystem → Except Cause Unit × FileSystem
  | .ok fs => (.ok (), fs)
  | .error cause => (.error cause, fs)

/-- Makes a directory; if the way to it is missing, `above` makes the directory above it first.  What
was made on the way to a failure stays. -/
def makeAfter (above : Path → FileSystem → Except Cause Unit × FileSystem) (p : Path)
    (fs : FileSystem) : Except Cause Unit × FileSystem :=
  if p.isEmpty then (.ok (), fs)
  else
    match fs.makeDirectory p with
    | .ok fs => (.ok (), fs)
    | .error .notFound =>
      match p.parent? with
      | none => (.error .notFound, fs)
      | some q =>
        match above q fs with
        | (.ok (), fs) => fs.change (fs.ensureDirectory p)
        | (.error cause, fs) => (.error cause, fs)
    | .error cause => if fs.isDirectory p then (.ok (), fs) else (.error cause, fs)

/-- Makes a directory and at most `levels` of those above it. -/
def makeWithin : (levels : Nat) → Path → FileSystem → Except Cause Unit × FileSystem
  | 0 => makeAfter fun _ fs => (.error .notFound, fs)
  | levels + 1 => makeAfter (makeWithin levels)

/-- Makes a directory and those above it that are missing. -/
def makeDirectories (fs : FileSystem) (p : Path) : Except Cause Unit × FileSystem :=
  makeWithin p.components.length p fs

/-! ## Meeting requests -/

/-- Meets requests; the clock stands at midnight. -/
def answer : Machine FileSystem
  | .isPresent p, fs => (fs.isPresent p, fs)
  | .readText p, fs => (fs.readText p, fs)
  | .write p bytes, fs => fs.change (fs.write p bytes)
  | .append p bytes, fs => fs.change (fs.append p bytes)
  | .makeDirectories p, fs => fs.makeDirectories p
  | .clock, fs => ((0 : Nat), fs)

end FileSystem

end JumpList.Host

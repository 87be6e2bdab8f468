/-
# JumpList.Item — entries of a jump list.

An item is a task, a separator or a file.  Every item has all fields, but they do not mean something
on every kind: a separator has nothing, a file only its path.  What the kind gives no meaning to is
kept as it is and never used.
-/
import JumpList.Path

namespace JumpList

/-- What an item is. -/
inductive Item.Kind where
  /-- Launches a program. -/
  | task
  /-- A line between entries. -/
  | separator
  /-- Opens a file with the application that owns the list. -/
  | file
  deriving DecidableEq, Repr, Inhabited

/-- An entry of a category. -/
structure Item where
  kind : Item.Kind
  /-- The program of a task, or the file. -/
  path : Path
  arguments : String
  title : String
  description : String
  iconPath : Option Path
  iconIndex : Int32
  deriving DecidableEq, Repr, Inhabited

namespace Item

/-! ## Making items -/

/-- A line between entries. -/
def separator : Item := ⟨.separator, Path.empty, "", "", "", none, 0⟩

/-- A task that launches `program`. -/
def task (program : Path) (title : String) : Item :=
  { separator with kind := .task, path := program, title }

/-- A file to open. -/
def file (path : Path) : Item := { separator with kind := .file, path }

/-- The item with other arguments. -/
def withArguments (item : Item) (arguments : String) : Item := { item with arguments }

/-- The item with another description. -/
def withDescription (item : Item) (description : String) : Item := { item with description }

/-- The item with another icon. -/
def withIcon (item : Item) (path : Path) (index : Int32) : Item :=
  { item with iconPath := some path, iconIndex := index }

/-! ## Looking at items -/

/-- The icon that the shell is told of: none if its path is missing or empty. -/
def icon? (item : Item) : Option (Path × Int32) :=
  match item.iconPath with
  | some path => if path.isEmpty then none else some (path, item.iconIndex)
  | none => none

/-- An item shows this icon: the path is given and not empty, and the index goes with it. -/
structure ShowsIcon (item : Item) (path : Path) (index : Int32) : Prop where
  iconPath_eq : item.iconPath = some path
  nonempty : path.isEmpty = false
  iconIndex_eq : item.iconIndex = index

/-- The icon that the shell is told of is the one that the item shows. -/
theorem icon?_eq_some_iff {item : Item} {path : Path} {index : Int32} :
    item.icon? = some (path, index) ↔ item.ShowsIcon path index := by
  unfold icon?
  constructor
  · intro h
    rcases hi : item.iconPath with _ | icon
    · simp [hi] at h
    · obtain ⟨hne, rfl, rfl⟩ : icon.isEmpty = false ∧ icon = path ∧ item.iconIndex = index := by
        simpa [hi] using h
      exact ⟨hi, hne, rfl⟩
  · rintro ⟨hi, hne, rfl⟩
    simp [hi, hne]

/-- The shell is told of no icon exactly if the item shows none. -/
theorem icon?_eq_none_iff {item : Item} :
    item.icon? = none ↔ ∀ path index, ¬ item.ShowsIcon path index := by
  simp only [Option.eq_none_iff_forall_ne_some, Prod.forall, ne_eq, icon?_eq_some_iff]

/-- A few words that tell which item is meant. -/
def label (item : Item) : String :=
  match item.kind with
  | .task => s!"task '{item.title}'"
  | .separator => "separator"
  | .file => s!"file {item.path.quoted}"

/-- Whether two optional paths are both missing or have the same components. -/
def sameIcon : Option Path → Option Path → Bool
  | some p, some q => p.same q
  | none, none => true
  | _, _ => false

/-- Whether two items agree in every field, paths by their components. -/
def same (a b : Item) : Bool :=
  a.kind == b.kind && a.path.same b.path && a.arguments == b.arguments && a.title == b.title &&
    a.description == b.description && sameIcon a.iconPath b.iconPath && a.iconIndex == b.iconIndex

@[simp] theorem same_self (a : Item) : a.same a = true := by
  cases h : a.iconPath <;> simp [same, sameIcon, h]

/-- Whether items agree one by one. -/
def sameAll : List Item → List Item → Bool
  | [], [] => true
  | a :: as, b :: bs => a.same b && sameAll as bs
  | _, _ => false

end Item

end JumpList

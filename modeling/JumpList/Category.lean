/-
# JumpList.Category — sections of a jump list.

The tasks and the custom categories hold the application's items.  The frequent and the recent
category belong to the shell: they are switched on and never filled.
-/
import JumpList.Item

namespace JumpList

/-- What a category is. -/
inductive Category.Kind where
  /-- The tasks of the application; the shell names the section. -/
  | tasks
  | frequent
  | recent
  /-- A named section; separators have no place in it. -/
  | custom
  deriving DecidableEq, Repr, Inhabited

/-- A section of a jump list. -/
structure Category where
  kind : Category.Kind
  name : Option String
  items : List Item
  deriving DecidableEq, Repr, Inhabited

namespace Category

/-- The tasks category. -/
def tasks (items : List Item) : Category := ⟨.tasks, none, items⟩

/-- A custom category. -/
def custom (name : String) (items : List Item) : Category := ⟨.custom, some name, items⟩

/-- The frequent category. -/
def frequent : Category := ⟨.frequent, none, []⟩

/-- The recent category. -/
def recent : Category := ⟨.recent, none, []⟩

/-- The name, empty if there is none. -/
def nameOrEmpty (c : Category) : String := c.name.getD ""

/-- Whether a separator may stand in a category of this kind. -/
def Kind.admitsSeparators (kind : Kind) : Bool := kind == .tasks

/-- Whether two categories agree in kind, name and items, paths by their components. -/
def same (a b : Category) : Bool :=
  a.kind == b.kind && a.name == b.name && Item.sameAll a.items b.items

end Category

end JumpList

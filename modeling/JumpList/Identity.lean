/-
# JumpList.Identity — the identity that a jump list belongs to.

The shell keeps one jump list for each identity.  An application without an identity of its own gets
one from its name, by filling the name into a template; an identity of blanks only counts as none.
-/
import JumpList.Text.Blank

namespace JumpList

/-- The identity of an application. -/
structure AppId where
  text : String
  deriving DecidableEq, Repr, Inhabited

namespace AppId

/-- The identity of an application that has only a name, the name standing for `$1`. -/
def template : String := "jumplist.app.$1"

/-- A template with every `$1` replaced, from left to right; what is filled in is not looked at
again. -/
def fill (name : List Char) : List Char → List Char
  | [] => []
  | '$' :: '1' :: rest => name ++ fill name rest
  | c :: rest => c :: fill name rest

/-- The identity made from a name. -/
def ofName (name : String) : AppId := ⟨String.ofList (fill name.toList template.toList)⟩

/-- The given identity without the blanks around it, or the one made from the name if it is missing
or blank. -/
def resolve (given : Option String) (name : String) : AppId :=
  match given with
  | none => ofName name
  | some text => if Text.isBlankText text then ofName name else ⟨Text.trim text⟩

end AppId

end JumpList

/-
# JumpList.Format.Error — why a value is no jump list.

An error names the first place that does not fit.  Errors inside a category or an item carry its
position, outermost first; what is left when the positions are taken off is the leaf.
-/

namespace JumpList.Format

/-- What a field must be. -/
inductive Shape where
  | string
  | integer
  | array
  deriving DecidableEq, Repr

/-- The shape in words. -/
def Shape.text : Shape → String
  | .string => "a string"
  | .integer => "an integer"
  | .array => "an array"

/-- Why a value is not what it should be. -/
inductive Error where
  | notAnArray
  | notAnObject
  | missingField (field : String)
  | wrongFieldType (field : String) (expected : Shape)
  | emptyField (field : String)
  | unknownType (name : String)
  /-- The category at a position does not fit. -/
  | category (index : Nat) (cause : Error)
  /-- The item at a position does not fit. -/
  | item (index : Nat) (cause : Error)
  deriving DecidableEq, Repr

namespace Error

/-- The error in words. -/
def message : Error → String
  | .notAnArray => "expected an array"
  | .notAnObject => "expected an object"
  | .missingField field => s!"missing field '{field}'"
  | .wrongFieldType field expected => s!"field '{field}' must be {expected.text}"
  | .emptyField field => s!"field '{field}' must not be empty"
  | .unknownType name => s!"unknown type '{name}'"
  | .category index cause => s!"category {index}: {cause.message}"
  | .item index cause => s!"item {index}: {cause.message}"

/-- The errors inside, outermost first. -/
def causes : Error → List Error
  | .category _ cause | .item _ cause => cause :: cause.causes
  | _ => []

/-- The error without positions. -/
def leaf : Error → Error
  | .category _ cause | .item _ cause => cause.leaf
  | e => e

/-- The positions, outermost first. -/
def indices : Error → List Nat
  | .category index cause | .item index cause => index :: cause.indices
  | _ => []

end Error

end JumpList.Format

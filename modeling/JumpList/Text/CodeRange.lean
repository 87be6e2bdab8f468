/-
# JumpList.Text.CodeRange — sets of characters given by ranges of code points.

The character properties of this library are tables of inclusive ranges.  This file holds the one
question asked of such a table: does it cover a character?
-/

namespace JumpList.Text

/-- An inclusive range of code points, first and last. -/
abbrev CodeRange := Nat × Nat

/-- Whether some range of the table holds the code point of `c`. -/
def covers (table : List CodeRange) (c : Char) : Bool :=
  table.any fun (first, last) => first ≤ c.toNat && c.toNat ≤ last

end JumpList.Text

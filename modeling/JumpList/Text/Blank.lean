/-
# JumpList.Text.Blank — white space, trimming and words.

A character is blank if it has the Unicode property White_Space.  Texts are trimmed of blanks at
both ends and cut into words at blanks.
-/
import JumpList.Text.CodeRange
import JumpList.Text.Runs

namespace JumpList.Text

/-! ## The property -/

/-- The code points with the property White_Space. -/
def blankRanges : List CodeRange :=
  [(0x09, 0x0D), (0x20, 0x20), (0x85, 0x85), (0xA0, 0xA0), (0x1680, 0x1680), (0x2000, 0x200A),
   (0x2028, 0x2029), (0x202F, 0x202F), (0x205F, 0x205F), (0x3000, 0x3000)]

/-- A blank character: one that White_Space covers. -/
def isBlank (c : Char) : Bool := covers blankRanges c

/-- A text without a character other than blanks. -/
def isBlankText (s : String) : Bool := s.toList.all isBlank

/-! ## Trimming -/

/-- What is left of `cs` after the blanks at its front. -/
def trimFront (cs : List Char) : List Char := cs.dropWhile isBlank

/-- What is left of `cs` after the blanks at both ends. -/
def trimChars (cs : List Char) : List Char := (trimFront (trimFront cs).reverse).reverse

/-- The text without the blanks at its ends. -/
def trim (s : String) : String := String.ofList (trimChars s.toList)

/-! ## Words -/

/-- The words of a text: its maximal runs of characters that are not blank. -/
def words (cs : List Char) : List (List Char) := runs isBlank cs

end JumpList.Text

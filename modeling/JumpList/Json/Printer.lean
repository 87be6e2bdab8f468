/-
# JumpList.Json.Printer — writing JSON texts.

Two layouts: without any gap, and one element or member a line.  In string literals the quote, the
backslash and the characters below the space are escaped, and every other character stands for
itself.  A float is written out in full, since the decimal expansion of a binary fraction ends.
-/
import JumpList.Json.Basic
import JumpList.Text.Hex

namespace JumpList.Json

/-! ## String literals -/

/-- One character of a string literal. -/
def escapeChar (c : Char) : List Char :=
  if c = '"' then ['\\', '"']
  else if c = '\\' then ['\\', '\\']
  else if c.toNat = 0x08 then ['\\', 'b']
  else if c = '\t' then ['\\', 't']
  else if c = '\n' then ['\\', 'n']
  else if c.toNat = 0x0C then ['\\', 'f']
  else if c = '\r' then ['\\', 'r']
  else if c.toNat < 0x20 then ['\\', 'u'] ++ Text.hexFixed .lower 4 c.toNat
  else [c]

/-- The string literal of a text. -/
def literal (text : String) : List Char :=
  '"' :: (text.toList.flatMap escapeChar ++ ['"'])

/-! ## Numbers -/

/-- The digits of the binary fraction `n / 2 ^ places`, up to the last one that is not zero. -/
def fractionDigits : (places : Nat) → (n : Nat) → List Char
  | 0, _ => []
  | places + 1, n =>
    if n = 0 then []
    else
      let scaled := n * 10
      let unit := Nat.pow 2 (places + 1)
      (scaled / unit).digitChar :: fractionDigits places (scaled % unit / 2)

/-- The digits of `m * 2 ^ q`, with at least one on either side of the point. -/
def expansion (m : Nat) (q : Int) : List Char :=
  let places := (-q).toNat
  let scaled := m * Nat.pow 2 q.toNat
  let unit := Nat.pow 2 places
  let fraction := fractionDigits places (scaled % unit)
  (Nat.repr (scaled / unit)).toList ++ '.' :: (if fraction.isEmpty then ['0'] else fraction)

/-- The text of a float; what is no number at all is `null`. -/
def floatText (x : Float) : List Char :=
  let bits := x.toBits.toNat
  let exponent : Nat := bits / Nat.pow 2 52 % Nat.pow 2 11
  let fraction := bits % Nat.pow 2 52
  let sign := if bits / Nat.pow 2 63 = 1 then ['-'] else []
  if exponent = 2047 then "null".toList
  else if exponent = 0 then sign ++ expansion fraction (-1074)
  else sign ++ expansion (Nat.pow 2 52 + fraction) ((exponent : Int) - 1075)

/-- The text of a number. -/
def Number.text : Number → List Char
  | .int i => (toString i).toList
  | .float x => floatText x

/-! ## Without gaps -/

/-- What stands between the texts of several elements. -/
def commaSeparated (parts : List (List Char)) : List Char := parts.intersperse [','] |>.flatten

mutual

/-- The text of a value without any gap. -/
def compactChars : Json → List Char
  | .null => "null".toList
  | .bool true => "true".toList
  | .bool false => "false".toList
  | .number n => n.text
  | .string s => literal s
  | .array es => '[' :: (commaSeparated (compactElements es) ++ [']'])
  | .object ms => '{' :: (commaSeparated (compactMembers ms) ++ ['}'])

/-- The texts of elements. -/
def compactElements : List Json → List (List Char)
  | [] => []
  | e :: es => compactChars e :: compactElements es

/-- The texts of members. -/
def compactMembers : List (String × Json) → List (List Char)
  | [] => []
  | (key, value) :: ms => (literal key ++ ':' :: compactChars value) :: compactMembers ms

end

/-- The text of a value without any gap. -/
def compact (j : Json) : String := String.ofList (compactChars j)

/-! ## In lines -/

/-- A line break and the gap in front of what stands `depth` levels deep. -/
def lineBreak (depth : Nat) : List Char := '\n' :: List.replicate (2 * depth) ' '

/-- Parts between brackets, one a line; nothing stands between the brackets of no parts. -/
def bracketed (opening closing : Char) (depth : Nat) (parts : List (List Char)) : List Char :=
  if parts.isEmpty then [opening, closing]
  else
    opening ::
      ((parts.map (lineBreak (depth + 1) ++ ·)).intersperse [',']).flatten ++
        (lineBreak depth ++ [closing])

mutual

/-- The text of a value `depth` levels deep, one element or member a line. -/
def prettyChars (depth : Nat) : Json → List Char
  | .null => "null".toList
  | .bool true => "true".toList
  | .bool false => "false".toList
  | .number n => n.text
  | .string s => literal s
  | .array es => bracketed '[' ']' depth (prettyElements (depth + 1) es)
  | .object ms => bracketed '{' '}' depth (prettyMembers (depth + 1) ms)

/-- The texts of elements. -/
def prettyElements (depth : Nat) : List Json → List (List Char)
  | [] => []
  | e :: es => prettyChars depth e :: prettyElements depth es

/-- The texts of members. -/
def prettyMembers (depth : Nat) : List (String × Json) → List (List Char)
  | [] => []
  | (key, value) :: ms =>
    (literal key ++ [':', ' '] ++ prettyChars depth value) :: prettyMembers depth ms

end

/-- The text of a value, one element or member a line. -/
def pretty (j : Json) : String := String.ofList (prettyChars 0 j)

end JumpList.Json

/-
# JumpList.Text.Quoted — byte strings as quoted, printable text.

A byte string is shown between double quotes so that it can be read on one line.  A backslash marks
what is not spelt as itself: the quote and the backslash; NUL, tab, line feed and carriage return by
a letter; other characters that do not show when written alone by their code point; ill-formed bytes
by their two digits.  The single quote is spelt as itself.
-/
import JumpList.Text.Hex
import JumpList.Text.Printable
import JumpList.Text.Utf8

namespace JumpList.Text

/-- One character of a quoted text. -/
def quoteChar (c : Char) : List Char :=
  if c = '"' then ['\\', '"']
  else if c = '\\' then ['\\', '\\']
  else if c.toNat = 0 then ['\\', '0']
  else if c = '\t' then ['\\', 't']
  else if c = '\n' then ['\\', 'n']
  else if c = '\r' then ['\\', 'r']
  else if showsAlone c then [c]
  else ['\\', 'u', '{'] ++ hexCodePoint c ++ ['}']

/-- One ill-formed byte of a quoted text. -/
def quoteByte (b : UInt8) : List Char := ['\\', 'x'] ++ hexFixed .upper 2 b.toNat

/-- One piece of a quoted text. -/
def quoteChunk : Utf8.Chunk → List Char
  | .char c => quoteChar c
  | .stray bytes => bytes.flatMap quoteByte

/-- The byte string between double quotes, on one line. -/
def quote (bytes : List UInt8) : String :=
  String.ofList ('"' :: ((Utf8.chunks bytes).flatMap quoteChunk ++ ['"']))

end JumpList.Text

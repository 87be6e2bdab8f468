/-
# JumpList.Json.Document — reading JSON texts.

A text is read in two stages.  The first follows the grammar alone and yields a document: a tree
that keeps members in order, repeated ones too, and in which a string literal whose escapes denote no
text, and a numeral that stands for no number, are holes.  The second decides whether the document is
a value: no holes, not too deep, and of members with one key the last.

Who needs only a part of a text reads the document and leaves the rest of it unjudged.
-/
import JumpList.Json.Basic
import JumpList.Text.Hex

namespace JumpList.Json

/-! ## Documents -/

/-- A JSON text that follows the grammar. -/
inductive Document where
  | null
  | bool (value : Bool)
  /-- A numeral, with the number that it stands for. -/
  | number (value : Option Number)
  /-- A string literal, with the text that it denotes. -/
  | string (text : Option String)
  | array (elements : List Document)
  | object (members : List (Option String × Document))
  deriving Inhabited

/-- A character between tokens. -/
def isGap (c : Char) : Bool := c == ' ' || c == '\t' || c == '\n' || c == '\r'

/-- The text behind the gap in front of a token. -/
def skipGap (cs : List Char) : List Char := cs.dropWhile isGap

/-! ## String literals -/

/-- A piece of a string literal: a character, or the 16-bit unit of a numeric escape. -/
inductive Piece where
  | char (c : Char)
  | unit (value : Nat)
  deriving DecidableEq, Repr

/-- The character that an escape of one letter denotes. -/
def escaped? : Char → Option Char
  | '"' => some '"'
  | '\\' => some '\\'
  | '/' => some '/'
  | 'b' => some (Char.ofNat 0x08)
  | 'f' => some (Char.ofNat 0x0C)
  | 'n' => some '\n'
  | 'r' => some '\r'
  | 't' => some '\t'
  | _ => none

/-- The unit that four digits spell. -/
def unit? (a b c d : Char) : Option Nat := do
  let a ← Text.hexValue? a
  let b ← Text.hexValue? b
  let c ← Text.hexValue? c
  let d ← Text.hexValue? d
  return ((a * 16 + b) * 16 + c) * 16 + d

/-- The pieces of a string literal behind its opening quote, and the text behind its closing one. -/
def pieces : List Char → Option (List Piece × List Char)
  | [] => none
  | '"' :: rest => some ([], rest)
  | '\\' :: 'u' :: a :: b :: c :: d :: rest => do
    let unit ← unit? a b c d
    let (more, rest) ← pieces rest
    return (.unit unit :: more, rest)
  | '\\' :: e :: rest => do
    let c ← escaped? e
    let (more, rest) ← pieces rest
    return (.char c :: more, rest)
  | c :: rest =>
    if c.toNat < 0x20 || c == '\\' then none
    else do
      let (more, rest) ← pieces rest
      return (.char c :: more, rest)

/-- The first unit of a pair. -/
def isLeading (unit : Nat) : Bool := 0xD800 ≤ unit && unit ≤ 0xDBFF

/-- The second unit of a pair. -/
def isTrailing (unit : Nat) : Bool := 0xDC00 ≤ unit && unit ≤ 0xDFFF

/-- The text that pieces denote: units of a pair stand for one character, and a unit of a pair alone
stands for none. -/
def denoted : List Piece → Option (List Char)
  | [] => some []
  | .char c :: rest => (denoted rest).map (c :: ·)
  | .unit u :: rest =>
    if isLeading u then
      match rest with
      | .unit v :: rest' =>
        if isTrailing v then
          (denoted rest').map (Char.ofNat (0x10000 + (u - 0xD800) * 0x400 + (v - 0xDC00)) :: ·)
        else none
      | _ => none
    else if isTrailing u then none
    else (denoted rest).map (Char.ofNat u :: ·)

/-- A string literal behind its opening quote. -/
def stringLiteral (cs : List Char) : Option (Option String × List Char) :=
  (pieces cs).map fun (ps, rest) => ((denoted ps).map String.ofList, rest)

/-! ## Numerals -/

/-- The digits at the front of a text, and the text behind them. -/
def digits (cs : List Char) : List Nat × List Char :=
  ((cs.takeWhile Char.isDigit).map fun c => c.toNat - '0'.toNat, cs.dropWhile Char.isDigit)

/-- The digits at the front of a text if there is one. -/
def digits1 (cs : List Char) : Option (List Nat × List Char) :=
  let (ds, rest) := digits cs
  if ds.isEmpty then none else some (ds, rest)

/-- The fraction at the front of a text. -/
def fraction : List Char → Option (Option (List Nat) × List Char)
  | '.' :: cs => (digits1 cs).map fun (ds, rest) => (some ds, rest)
  | cs => some (none, cs)

/-- The digits of an exponent, of the given sign. -/
def exponentDigits (negative : Bool) (cs : List Char) : Option (Option Exponent × List Char) :=
  (digits1 cs).map fun (ds, rest) => (some ⟨negative, ds⟩, rest)

/-- The exponent behind its letter. -/
def exponentTail : List Char → Option (Option Exponent × List Char)
  | '+' :: cs => exponentDigits false cs
  | '-' :: cs => exponentDigits true cs
  | cs => exponentDigits false cs

/-- The exponent at the front of a text. -/
def exponent : List Char → Option (Option Exponent × List Char)
  | 'e' :: cs => exponentTail cs
  | 'E' :: cs => exponentTail cs
  | cs => some (none, cs)

/-- A numeral of the given sign.  No zero stands in front of another digit. -/
def numeralTail (negative : Bool) (cs : List Char) : Option (Numeral × List Char) := do
  let (whole, rest) ← digits1 cs
  if whole.head? = some 0 ∧ whole.length ≠ 1 then none
  else
    let (frac, rest) ← fraction rest
    let (exp, rest) ← exponent rest
    return (⟨negative, whole, frac, exp⟩, rest)

/-- A numeral at the front of a text. -/
def numeral : List Char → Option (Numeral × List Char)
  | '-' :: cs => numeralTail true cs
  | cs => numeralTail false cs

/-! ## Trees -/

mutual

/-- A value at the front of a text, within `fuel` steps. -/
def readValue : (fuel : Nat) → List Char → Option (Document × List Char)
  | 0, _ => none
  | fuel + 1, cs =>
    match skipGap cs with
    | 'n' :: 'u' :: 'l' :: 'l' :: rest => some (.null, rest)
    | 't' :: 'r' :: 'u' :: 'e' :: rest => some (.bool true, rest)
    | 'f' :: 'a' :: 'l' :: 's' :: 'e' :: rest => some (.bool false, rest)
    | '"' :: rest => (stringLiteral rest).map fun (text, rest) => (.string text, rest)
    | '[' :: rest =>
      match skipGap rest with
      | ']' :: rest => some (.array [], rest)
      | rest => (readElements fuel rest).map fun (ds, rest) => (.array ds, rest)
    | '{' :: rest =>
      match skipGap rest with
      | '}' :: rest => some (.object [], rest)
      | rest => (readMembers fuel rest).map fun (ms, rest) => (.object ms, rest)
    | rest => (numeral rest).map fun (n, rest) => (.number n.value?, rest)

/-- The elements of an array up to its closing bracket, within `fuel` steps. -/
def readElements : (fuel : Nat) → List Char → Option (List Document × List Char)
  | 0, _ => none
  | fuel + 1, cs => do
    let (d, rest) ← readValue fuel cs
    match skipGap rest with
    | ',' :: rest =>
      let (ds, rest) ← readElements fuel rest
      return (d :: ds, rest)
    | ']' :: rest => return ([d], rest)
    | _ => none

/-- The members of an object up to its closing brace, within `fuel` steps. -/
def readMembers : (fuel : Nat) → List Char → Option (List (Option String × Document) × List Char)
  | 0, _ => none
  | fuel + 1, cs => do
    match skipGap cs with
    | '"' :: rest =>
      let (key, rest) ← stringLiteral rest
      match skipGap rest with
      | ':' :: rest =>
        let (d, rest) ← readValue fuel rest
        match skipGap rest with
        | ',' :: rest =>
          let (ms, rest) ← readMembers fuel rest
          return ((key, d) :: ms, rest)
        | '}' :: rest => return ([(key, d)], rest)
        | _ => none
      | _ => none
    | _ => none

end

/-- The steps that a text can take: two for each character, and two for its end. -/
def fuelFor (cs : List Char) : Nat := 2 * cs.length + 2

/-- The document that a text is, if it follows the grammar. -/
def Document.ofText? (text : String) : Option Document :=
  match readValue (fuelFor text.toList) text.toList with
  | some (d, rest) => if (skipGap rest).isEmpty then some d else none
  | none => none

/-! ## Values -/

/-- How many arrays and objects a value may have around a place in it. -/
def depthLimit : Nat := 127

/-- The value that a document is, if it has no holes and no more than `depth` levels. -/
def Document.value? : (depth : Nat) → Document → Option Json
  | _, .null => some .null
  | _, .bool b => some (.bool b)
  | _, .number n => n.map .number
  | _, .string s => s.map .string
  | 0, .array _ => none
  | depth + 1, .array ds => (ds.mapM (Document.value? depth)).map .array
  | 0, .object _ => none
  | depth + 1, .object ms => do
    let pairs ← ms.mapM fun (key, d) => do return (← key, ← Document.value? depth d)
    return .object (pairs.foldl (fun members (key, value) => Members.put key value members) [])

end JumpList.Json

namespace JumpList

/-- The value that a text is. -/
def Json.ofText? (text : String) : Option Json :=
  (Json.Document.ofText? text).bind (Json.Document.value? Json.depthLimit)

end JumpList

/-
# JumpList.Text.Utf8 — bytes as characters.

A byte string is cut into the characters that it spells in UTF-8 and, between them, the maximal
ill-formed runs: the longest starts of a character that the next byte does not continue, or a single
byte that starts none.  From that one cutting come the strict reading, which admits no ill-formed
run, and the lenient reading, which puts U+FFFD in place of each.  The cutting goes byte by byte and
remembers the bytes of a character under way.
-/

namespace JumpList.Text.Utf8

/-! ## Writing -/

/-- The bytes of one character. -/
def encodeChar (c : Char) : List UInt8 :=
  let n := c.toNat
  if n < 0x80 then [UInt8.ofNat n]
  else if n < 0x800 then [UInt8.ofNat (0xC0 + n / 0x40), UInt8.ofNat (0x80 + n % 0x40)]
  else if n < 0x10000 then
    [UInt8.ofNat (0xE0 + n / 0x1000), UInt8.ofNat (0x80 + n / 0x40 % 0x40),
     UInt8.ofNat (0x80 + n % 0x40)]
  else
    [UInt8.ofNat (0xF0 + n / 0x40000), UInt8.ofNat (0x80 + n / 0x1000 % 0x40),
     UInt8.ofNat (0x80 + n / 0x40 % 0x40), UInt8.ofNat (0x80 + n % 0x40)]

/-- The bytes of a text. -/
def encode (cs : List Char) : List UInt8 := cs.flatMap encodeChar

/-! ## Reading -/

/-- A piece of a byte string: a character, or a maximal ill-formed run. -/
inductive Chunk where
  | char (c : Char)
  | stray (bytes : List UInt8)
  deriving DecidableEq, Repr

/-- How many bytes a character has that starts with `a`; none starts with a byte of size zero. -/
def size (a : UInt8) : Nat :=
  if a < 0x80 then 1
  else if a < 0xC2 then 0
  else if a < 0xE0 then 2
  else if a < 0xF0 then 3
  else if a < 0xF5 then 4
  else 0

/-- A byte that stands in a character behind the first. -/
def isTail (b : UInt8) : Bool := 0x80 ≤ b && b ≤ 0xBF

/-- Whether `b` may follow the first byte `a` of a character.  This excludes what could be spelt with
fewer bytes, the surrogates, and what lies beyond the last code point. -/
def isSecond (a b : UInt8) : Bool :=
  isTail b && (a ≠ 0xE0 || 0xA0 ≤ b) && (a ≠ 0xED || b ≤ 0x9F) && (a ≠ 0xF0 || 0x90 ≤ b) &&
    (a ≠ 0xF4 || b ≤ 0x8F)

/-- Whether `b` continues the bytes of a character under way. -/
def continues : List UInt8 → UInt8 → Bool
  | [], _ => false
  | [a], b => isSecond a b
  | _, b => isTail b

/-- The bits of the code point in a first byte. -/
def leadBits (a : UInt8) : Nat :=
  match size a with
  | 2 => a.toNat - 0xC0
  | 3 => a.toNat - 0xE0
  | 4 => a.toNat - 0xF0
  | _ => a.toNat

/-- The character that all its bytes spell. -/
def assemble : List UInt8 → Char
  | [] => Char.ofNat 0
  | a :: tails =>
    Char.ofNat (tails.foldl (fun n b => n * 0x40 + (b.toNat - 0x80)) (leadBits a))

/-- The bytes under way as an ill-formed run, if there are any. -/
def strayOf (pending : List UInt8) : List Chunk :=
  if pending.isEmpty then [] else [.stray pending]

/-- A first byte: what is finished by it, and the bytes that are under way after it. -/
def enter (b : UInt8) : List Chunk × List UInt8 :=
  match size b with
  | 0 => ([.stray [b]], [])
  | 1 => ([.char (assemble [b])], [])
  | _ => ([], [b])

/-- One byte more: what is finished by it, and the bytes that are under way after it. -/
def step (pending : List UInt8) (b : UInt8) : List Chunk × List UInt8 :=
  if continues pending b then
    let bytes := pending ++ [b]
    if bytes.length = size (bytes.headD 0) then ([.char (assemble bytes)], [])
    else ([], bytes)
  else
    let (finished, under) := enter b
    (strayOf pending ++ finished, under)

/-- A byte string as characters and ill-formed runs, after the bytes under way. -/
def chunksFrom (pending : List UInt8) : List UInt8 → List Chunk
  | [] => strayOf pending
  | b :: bytes => (step pending b).1 ++ chunksFrom (step pending b).2 bytes

/-- A byte string as characters and ill-formed runs. -/
def chunks (bytes : List UInt8) : List Chunk := chunksFrom [] bytes

/-- The character of a chunk, U+FFFD for an ill-formed run. -/
def Chunk.replaced : Chunk → Char
  | .char c => c
  | .stray _ => Char.ofNat 0xFFFD

/-- The lenient reading: every ill-formed run becomes one U+FFFD. -/
def lossy (bytes : List UInt8) : List Char := (chunks bytes).map Chunk.replaced

/-- The character of a chunk, if it is one. -/
def Chunk.char? : Chunk → Option Char
  | .char c => some c
  | .stray _ => none

/-- The strict reading: no text if there is an ill-formed run. -/
def decode? (bytes : List UInt8) : Option (List Char) := (chunks bytes).mapM Chunk.char?

end JumpList.Text.Utf8

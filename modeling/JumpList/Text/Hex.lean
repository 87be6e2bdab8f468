/-
# JumpList.Text.Hex — numbers in base sixteen.

Digits in either case, texts of a fixed width, texts without leading zeros, and the value of a digit.
-/

namespace JumpList.Text

/-! ## Writing -/

/-- Which letters stand for the digits from ten on. -/
inductive LetterCase where
  | lower
  | upper
  deriving DecidableEq, Repr

/-- The digit of `n % 16`. -/
def hexDigit (case : LetterCase) (n : Nat) : Char :=
  let d := n % 16
  if d < 10 then Char.ofNat ('0'.toNat + d)
  else
    match case with
    | .lower => Char.ofNat ('a'.toNat + (d - 10))
    | .upper => Char.ofNat ('A'.toNat + (d - 10))

/-- The last `width` digits of `n`, zeros in front. -/
def hexFixed (case : LetterCase) : (width : Nat) → (n : Nat) → List Char
  | 0, _ => []
  | width + 1, n => hexFixed case width (n / 16) ++ [hexDigit case n]

/-- The number of digits that `n` needs, at least one, among the first `limit`. -/
def hexWidth : (limit : Nat) → (n : Nat) → Nat
  | 0, _ => 1
  | limit + 1, n => if n < 16 then 1 else hexWidth limit (n / 16) + 1

/-- The digits of a code point without leading zeros. -/
def hexCodePoint (c : Char) : List Char := hexFixed .lower (hexWidth 8 c.toNat) c.toNat

/-! ## Reading -/

/-- The value of a digit in either case. -/
def hexValue? (c : Char) : Option Nat :=
  if '0' ≤ c ∧ c ≤ '9' then some (c.toNat - '0'.toNat)
  else if 'a' ≤ c ∧ c ≤ 'f' then some (c.toNat - 'a'.toNat + 10)
  else if 'A' ≤ c ∧ c ≤ 'F' then some (c.toNat - 'A'.toNat + 10)
  else none

/-- A digit reads back as the number that it was written for. -/
theorem hexValue?_hexDigit (case : LetterCase) (n : Nat) :
    hexValue? (hexDigit case n) = some (n % 16) := by
  have h : ∀ d : Fin 16, hexValue? (hexDigit case d.val) = some d.val := by
    cases case <;> decide
  have hn := h ⟨n % 16, Nat.mod_lt _ (by decide)⟩
  simpa [hexDigit] using hn

end JumpList.Text

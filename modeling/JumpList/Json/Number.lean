/-
# JumpList.Json.Number — numerals and the numbers they stand for.

A numeral is a sign, digits before the point and, perhaps, digits behind it and an exponent.  Whole
numerals that fit 64 bits stand for integers; every other numeral stands for a float.  Minus zero
has no integer and is a float.

A float is found in two steps.  The digits are gathered, left to right, into a significand of 64
bits for as long as it has room; digits of the whole part that find no room count as zeros, digits
of the fraction that find none are left out.  Then the significand is scaled by a power of ten, in
one multiplication or division where the power is itself a float.  A float beyond the largest one is
no number.
-/

namespace JumpList.Json

/-- A number: an integer of 64 bits, or a float. -/
inductive Number where
  | int (value : Int)
  | float (value : Float)
  deriving Repr, Inhabited

/-- The exponent of a numeral. -/
structure Exponent where
  negative : Bool
  digits : List Nat
  deriving DecidableEq, Repr

/-- A number as written. -/
structure Numeral where
  negative : Bool
  whole : List Nat
  fraction : Option (List Nat)
  exponent : Option Exponent
  deriving DecidableEq, Repr

/-! ## Gathering digits -/

/-- The number that decimal digits spell. -/
def ofDigits (digits : List Nat) : Nat := digits.foldl (fun n d => n * 10 + d) 0

/-- One more than the largest significand. -/
def significandBound : Nat := UInt64.size

/-- Digits appended to a significand while it has room, and the digits that found none. -/
def gather (significand : Nat) : List Nat → Nat × List Nat
  | [] => (significand, [])
  | d :: digits =>
    if significand * 10 + d < significandBound then gather (significand * 10 + d) digits
    else (significand, d :: digits)

/-! ## Scaling -/

/-- The largest power of ten that is a float. -/
def largestPower : Int := 308

/-- The float nearest to ten to the power `n`. -/
def powerOfTen (n : Nat) : Float := Float.ofScientific 1 false n

/-- `x` times ten to the power `e`, unless that is beyond the largest float.  An exponent below the
powers at hand is taken in several divisions. -/
def scale? (x : Float) (e : Int) : Option Float :=
  if 0 ≤ e then
    if e ≤ largestPower then
      let y := x * powerOfTen e.toNat
      if y.isInf then none else some y
    else if x == 0 then some x
    else none
  else if -largestPower ≤ e then some (x / powerOfTen (-e).toNat)
  else if x == 0 then some x
  else scale? (x / powerOfTen largestPower.toNat) (e + largestPower)
termination_by (-e).toNat
decreasing_by simp only [largestPower] at *; omega

/-! ## Values -/

/-- The largest exponent that is reckoned with. -/
def exponentBound : Nat := Nat.pow 2 31 - 1

/-- The nearest exponent to `e` that fits 32 bits. -/
def clampExponent (e : Int) : Int := max Int32.minValue.toInt (min Int32.maxValue.toInt e)

namespace Numeral

/-- The float without its sign. -/
def magnitude? (n : Numeral) : Option Float :=
  let (wholePart, left) := gather 0 n.whole
  let fraction := n.fraction.getD []
  let (significand, dropped) := gather wholePart fraction
  let point : Int := left.length - (fraction.length - dropped.length : Nat)
  let x := significand.toUInt64.toFloat
  match n.exponent with
  | none => scale? x point
  | some e =>
    let size := ofDigits e.digits
    if size ≤ exponentBound then
      scale? x (clampExponent (if e.negative then point - size else point + size))
    else if significand == 0 || e.negative then some 0
    else none

/-- Whether the numeral is written as an integer. -/
def isWhole (n : Numeral) : Bool := n.fraction.isNone && n.exponent.isNone

/-- The integer that a whole numeral stands for, if it fits 64 bits. -/
def int? (n : Numeral) : Option Int :=
  let size := ofDigits n.whole
  if !n.isWhole then none
  else if n.negative then
    if size = 0 ∨ Nat.pow 2 63 < size then none else some (-(size : Int))
  else if size < significandBound then some size
  else none

/-- The number that the numeral stands for, if there is one. -/
def value? (n : Numeral) : Option Number :=
  match n.int? with
  | some i => some (.int i)
  | none => n.magnitude?.map fun x => .float (if n.negative then -x else x)

end Numeral

end JumpList.Json

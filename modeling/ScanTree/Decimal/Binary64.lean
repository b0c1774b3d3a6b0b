/-!
# Binary floating-point numbers

The double-precision numbers, and the one that a decimal numeral denotes: the
nearest, with ties to the even significand.  A finite number is a natural
significand times a power of two, counted in units of `2 ^ -1074`, so that all
arithmetic is on natural numbers.
-/

namespace ScanTree

/-- A double-precision number. -/
inductive Binary64 where
  /-- Not a number. -/
  | nan
  /-- An infinity. -/
  | infinite (negative : Bool)
  /-- The number `significand * 2 ^ shift` in units of `2 ^ -1074`. -/
  | finite (negative : Bool) (significand shift : Nat)
deriving DecidableEq, Repr

namespace Binary64

/-- The quotient rounded to the nearest natural number, ties to the even one. -/
def roundHalfEven (dividend divisor : Nat) : Nat :=
  let quotient := dividend / divisor
  let twice := 2 * (dividend % divisor)
  if divisor < twice ∨ (twice = divisor ∧ quotient % 2 = 1) then quotient + 1
  else quotient

/-- The number nearest to a fraction of units. -/
def ofUnits (negative : Bool) (numerator denominator : Nat) : Binary64 :=
  let shift := (numerator / denominator).log2 - 52
  let significand := roundHalfEven numerator (denominator * Nat.pow 2 shift)
  let (significand, shift) :=
    if significand = Nat.pow 2 53 then (Nat.pow 2 52, shift + 1) else (significand, shift)
  if 2045 < shift then infinite negative else finite negative significand shift

/-- The number nearest to a non-negative fraction. -/
def ofFraction (negative : Bool) (numerator denominator : Nat) : Binary64 :=
  ofUnits negative (numerator * Nat.pow 2 1074) denominator

/-- The number of decimal digits. -/
def digitCount (number : Nat) : Nat :=
  (Nat.toDigits 10 number).length

/-- The number nearest to `digits * 10 ^ exponent`.  Numerals far beyond the
range are settled by their size alone. -/
def ofDecimal (negative : Bool) (digits : Nat) (exponent : Int) : Binary64 :=
  let magnitude := exponent + digitCount digits
  if digits = 0 ∨ magnitude < -330 then finite negative 0 0
  else if 310 < magnitude then infinite negative
  else if exponent < 0 then ofFraction negative digits (Nat.pow 10 exponent.natAbs)
  else ofFraction negative (digits * Nat.pow 10 exponent.natAbs) 1

/-- Whether the number is zero, of either sign. -/
def isZero : Binary64 → Bool
  | finite _ 0 _ => true
  | _ => false

end Binary64

end ScanTree

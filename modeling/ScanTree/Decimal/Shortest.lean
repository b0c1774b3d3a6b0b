import ScanTree.Decimal.Binary64

/-!
# The shortest decimal form of a number

A finite number is written with the fewest digits that read back as the same
number; of several such numerals the nearest to the number is taken, and of two
equally near ones the one with the even last digit.  Positional notation is
used for magnitudes from `0.0001` to below `10 ^ 16`, exponents elsewhere, and
a whole number keeps `.0`.
-/

namespace ScanTree

namespace Binary64

/-- The place of the decimal point before which the digits of a positive
fraction begin: the least `place` with the fraction below `10 ^ place`. -/
def pointPlace (numerator denominator : Nat) : Int :=
  let guess := (digitCount numerator : Int) - digitCount denominator
  let below :=
    if guess < 0 then numerator * Nat.pow 10 guess.natAbs < denominator
    else numerator < denominator * Nat.pow 10 guess.natAbs
  if below then guess else guess + 1

/-- The digits nearest to a fraction on the grid `10 ^ exponent`, among its two
neighbours there that read back as `number`. -/
def gridDigits? (number : Binary64) (numerator denominator : Nat) (exponent : Int) :
    Option Nat :=
  let power := Nat.pow 10 exponent.natAbs
  let dividend := if exponent < 0 then numerator * power else numerator
  let divisor := if exponent < 0 then denominator else denominator * power
  let low := dividend / divisor
  let nearest := roundHalfEven dividend divisor
  let other := if nearest = low then low + 1 else low
  let readsBack := fun digits => ofDecimal false digits exponent == number
  if readsBack nearest then some nearest
  else if readsBack other then some other
  else none

/-- The digits and the decimal exponent of the shortest numeral for a positive
number.  The exact numeral, which always reads back, ends the search. -/
def shortest (significand shift : Nat) : Nat × Int :=
  let numerator := significand * Nat.pow 2 shift
  let denominator := Nat.pow 2 1074
  let place := pointPlace numerator denominator
  let search := (List.range 17).findSome? fun count =>
    let exponent := place - (count + 1 : Nat)
    (gridDigits? (finite false significand shift) numerator denominator exponent).map
      fun digits => (digits, exponent)
  search.getD (numerator * Nat.pow 5 1074, -1074)

/-- A sequence of digits with the decimal point before place `place`. -/
def layOut (digits : List Char) (place : Int) : List Char :=
  let count := digits.length
  if -4 < place ∧ place ≤ 16 then
    if place ≤ 0 then ['0', '.'] ++ List.replicate place.natAbs '0' ++ digits
    else if count ≤ place.natAbs then
      digits ++ List.replicate (place.natAbs - count) '0' ++ ['.', '0']
    else digits.take place.natAbs ++ ['.'] ++ digits.drop place.natAbs
  else
    let exponent := place - 1
    let power := Nat.toDigits 10 exponent.natAbs
    let mantissa :=
      if count ≤ 1 then digits else digits.take 1 ++ ['.'] ++ digits.drop 1
    mantissa ++ ['e', if exponent < 0 then '-' else '+']
      ++ List.replicate (2 - power.length) '0' ++ power

/-- The text of a finite number without its sign. -/
def magnitudeText (significand shift : Nat) : List Char :=
  if significand = 0 then ['0', '.', '0']
  else
    let (digits, exponent) := shortest significand shift
    let written := Nat.toDigits 10 digits
    let kept := (written.reverse.dropWhile (· == '0')).reverse
    layOut kept (exponent + written.length)

/-- The text of a number, given the words for what is not finite. -/
def text (notANumber infinity : List Char) : Binary64 → List Char
  | nan => notANumber
  | infinite negative => (if negative then ['-'] else []) ++ infinity
  | finite negative significand shift =>
    (if negative then ['-'] else []) ++ magnitudeText significand shift

end Binary64

end ScanTree

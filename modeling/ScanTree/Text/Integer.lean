import ScanTree.Decimal.Integer
import ScanTree.Text.Blank
import ScanTree.Text.DecimalDigit
import ScanTree.Text.Pieces

/-!
# Reading an integer

An integer may have a sign, digits of any script, single underscores between
digits, and blanks at both ends.  Among ASCII characters only the space and the
controls from tab to carriage return count as blanks here.
-/

namespace ScanTree

namespace Text

/-- The ASCII form of a character of an integer: its digit, a space, or a mark
that no integer holds. -/
def asciiForm (c : Char) : Char :=
  if c.toNat < 0x7F then c
  else if isBlank c then ' '
  else
    match decimalDigit? c with
    | some digit => Char.ofNat ('0'.toNat + digit)
    | none => '?'

/-- A blank at the ends of an integer. -/
def isNumeralBlank (c : Char) : Bool :=
  c == ' ' || (0x09 ≤ c.toNat && c.toNat ≤ 0x0D)

/-- The number that digits with single underscores between them write. -/
def readGroups? (text : List Char) : Option Nat :=
  let groups := piecesBy (· == '_') text
  let digits := groups.flatten
  if groups.all (fun group => !group.isEmpty && group.all Char.isDigit)
      && digits.length ≤ digitLimit then
    some (digits.foldl (fun value c => 10 * value + (c.toNat - '0'.toNat)) 0)
  else none

/-- The integer that a text writes. -/
def readInteger? (text : String) : Option Int :=
  let plain := (text.toList.map asciiForm).dropWhile isNumeralBlank
  match (plain.reverse.dropWhile isNumeralBlank).reverse with
  | '-' :: digits => (readGroups? digits).map fun magnitude => -(magnitude : Int)
  | '+' :: digits => (readGroups? digits).map fun magnitude => (magnitude : Int)
  | digits => (readGroups? digits).map fun magnitude => (magnitude : Int)

end Text

end ScanTree

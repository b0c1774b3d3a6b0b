import ScanTree.Text.CodeTable

/-!
# Decimal digits of all scripts

Unicode encodes the decimal digits of a script as ten neighbours, zero first.
The value of a digit is its distance from its script's zero.
-/

namespace ScanTree

namespace Text

/-- The runs of ten code points that are the decimal digits of one script. -/
def digitRuns : CodeRanges := .ofText "
  30-39 660-669 6F0-6F9 7C0-7C9 966-96F 9E6-9EF A66-A6F AE6-AEF B66-B6F BE6-BEF
  C66-C6F CE6-CEF D66-D6F DE6-DEF E50-E59 ED0-ED9 F20-F29 1040-1049 1090-1099
  17E0-17E9 1810-1819 1946-194F 19D0-19D9 1A80-1A89 1A90-1A99 1B50-1B59 1BB0-1BB9
  1C40-1C49 1C50-1C59 A620-A629 A8D0-A8D9 A900-A909 A9D0-A9D9 A9F0-A9F9 AA50-AA59
  ABF0-ABF9 FF10-FF19 104A0-104A9 10D30-10D39 11066-1106F 110F0-110F9 11136-1113F
  111D0-111D9 112F0-112F9 11450-11459 114D0-114D9 11650-11659 116C0-116C9 11730-11739
  118E0-118E9 11950-11959 11C50-11C59 11D50-11D59 11DA0-11DA9 16A60-16A69 16AC0-16AC9
  16B50-16B59 1D7CE-1D7D7 1D7D8-1D7E1 1D7E2-1D7EB 1D7EC-1D7F5 1D7F6-1D7FF 1E140-1E149
  1E2F0-1E2F9 1E950-1E959 1FBF0-1FBF9"

/-- The value of a decimal digit of any script. -/
def decimalDigit? (c : Char) : Option Nat :=
  if c.toNat < 0x80 then
    if '0' ≤ c ∧ c ≤ '9' then some (c.toNat - '0'.toNat) else none
  else
    (digitRuns.rangeOf? c).map fun run => c.toNat - run.1

end Text

end ScanTree

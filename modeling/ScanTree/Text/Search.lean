/-!
# Finding a text in a text
-/

namespace ScanTree

namespace Text

/-- The place of the leftmost occurrence of `needle`. -/
def occurrence? (needle : List Char) : List Char → Option Nat
  | [] => if needle.isEmpty then some 0 else none
  | c :: rest =>
    if needle.isPrefixOf (c :: rest) then some 0
    else (occurrence? needle rest).map (· + 1)

/-- Whether `needle` occurs anywhere. -/
def occurs (needle text : List Char) : Bool :=
  (occurrence? needle text).isSome

end Text

end ScanTree

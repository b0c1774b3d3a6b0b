/-!
# Blank characters

The white space of Unicode together with the four ASCII information separators,
and the removal of blanks from both ends of a text.
-/

namespace ScanTree

namespace Text

/-- White space, the information separators U+001C to U+001F included. -/
def isBlank (c : Char) : Bool :=
  let code := c.toNat
  (0x09 ≤ code && code ≤ 0x0D) || (0x1C ≤ code && code ≤ 0x20) || code == 0x85
    || code == 0xA0 || code == 0x1680 || (0x2000 ≤ code && code ≤ 0x200A)
    || code == 0x2028 || code == 0x2029 || code == 0x202F || code == 0x205F
    || code == 0x3000

/-- A list of characters without the blanks at its ends. -/
def stripChars (text : List Char) : List Char :=
  ((text.dropWhile isBlank).reverse.dropWhile isBlank).reverse

/-- A text without the blanks at its ends. -/
def strip (text : String) : String :=
  String.ofList (stripChars text.toList)

@[simp]
theorem toList_strip (text : String) : (strip text).toList = stripChars text.toList := by
  simp [strip]

end Text

end ScanTree

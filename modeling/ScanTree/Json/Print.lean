import ScanTree.Decimal.Integer
import ScanTree.Decimal.Shortest
import ScanTree.Json.Basic
import ScanTree.Text.Hex

/-!
# Writing JSON

A value is written over several lines with two blanks of indentation for each
level.  All characters outside printable ASCII are escaped by code units in
lower-case hexadecimal.  An empty list or object is written in one line.  An
integer with more digits than a reader accepts is refused.
-/

namespace ScanTree

namespace Json

/-- The escape of one code unit. -/
def unitEscape (unit : Nat) : List Char :=
  ['\\', 'u'] ++ Text.hexDigits 4 unit

/-- The written form of one character of a string. -/
def stringChar (c : Char) : List Char :=
  if c = '"' ∨ c = '\\' then ['\\', c]
  else if c = '\n' then ['\\', 'n']
  else if c = '\r' then ['\\', 'r']
  else if c = '\t' then ['\\', 't']
  else if c = '\x08' then ['\\', 'b']
  else if c = '\x0c' then ['\\', 'f']
  else if 0x20 ≤ c.toNat ∧ c.toNat ≤ 0x7E then [c]
  else if c.toNat < 0x10000 then unitEscape c.toNat
  else
    unitEscape (0xD800 + (c.toNat - 0x10000) / 0x400)
      ++ unitEscape (0xDC00 + (c.toNat - 0x10000) % 0x400)

/-- The written form of a string. -/
def stringText (value : String) : List Char :=
  '"' :: value.toList.flatMap stringChar ++ ['"']

/-- The start of a line at a level of indentation. -/
def lineStart (level : Nat) : List Char :=
  '\n' :: List.replicate (2 * level) ' '

mutual

/-- The written form of a value at a level of indentation. -/
def written (level : Nat) : Json → List Char
  | null => "null".toList
  | bool value => if value then "true".toList else "false".toList
  | int value => intChars value
  | real value => value.text "NaN".toList "Infinity".toList
  | str value => stringText value
  | arr items =>
    if items.isEmpty then ['[', ']']
    else '[' :: writtenItems (level + 1) items ++ lineStart level ++ [']']
  | obj members =>
    if members.isEmpty then ['{', '}']
    else '{' :: writtenMembers (level + 1) members ++ lineStart level ++ ['}']

/-- The items of a list, each on a line of its own. -/
def writtenItems (level : Nat) : List Json → List Char
  | [] => []
  | item :: rest =>
    lineStart level ++ written level item
      ++ (if rest.isEmpty then [] else ',' :: writtenItems level rest)

/-- The members of an object, each on a line of its own. -/
def writtenMembers (level : Nat) : List (String × Json) → List Char
  | [] => []
  | (name, value) :: rest =>
    lineStart level ++ stringText name ++ [':', ' '] ++ written level value
      ++ (if rest.isEmpty then [] else ',' :: writtenMembers level rest)

end

mutual

/-- Whether all integers of a value have few enough digits. -/
def fits : Json → Bool
  | int value => intFits value
  | arr items => itemsFit items
  | obj members => membersFit members
  | _ => true

/-- Whether all integers of the items have few enough digits. -/
def itemsFit : List Json → Bool
  | [] => true
  | item :: rest => fits item && itemsFit rest

/-- Whether all integers of the members have few enough digits. -/
def membersFit : List (String × Json) → Bool
  | [] => true
  | (_, value) :: rest => fits value && membersFit rest

end

/-- The text of a value, if all its integers may be written. -/
def pretty (value : Json) : Except IntegerError String :=
  if fits value then .ok (String.ofList (written 0 value)) else .error .tooLong

end Json

end ScanTree

import ScanTree.Decimal.Shortest
import ScanTree.Json.Basic
import ScanTree.Text.Quoted

/-!
# JSON values in messages

The text of a value as messages show it: texts in quotes, the null value and
the truth values as capitalised words, lists and objects in brackets.
-/

namespace ScanTree

namespace Json

/-- The name of a value's type in messages. -/
def typeName : Json → String
  | null => "NoneType"
  | bool _ => "bool"
  | int _ => "int"
  | real _ => "float"
  | str _ => "str"
  | arr _ => "list"
  | obj _ => "dict"

mutual

/-- The text of a value in a message. -/
def display : Json → String
  | null => "None"
  | bool value => if value then "True" else "False"
  | int value => toString value
  | real value => String.ofList (value.text "nan".toList "inf".toList)
  | str value => Text.quoted value
  | arr items => "[" ++ ", ".intercalate (displayItems items) ++ "]"
  | obj members => "\x7b" ++ ", ".intercalate (displayMembers members) ++ "\x7d"

/-- The texts of the items of a list. -/
def displayItems : List Json → List String
  | [] => []
  | item :: rest => display item :: displayItems rest

/-- The texts of the members of an object. -/
def displayMembers : List (String × Json) → List String
  | [] => []
  | (name, value) :: rest =>
    (Text.quoted name ++ ": " ++ display value) :: displayMembers rest

end

end Json

end ScanTree

import ScanTree.Decimal.Binary64

/-!
# JSON values

A JSON value keeps the order of an object's members.  An object is read as a
map from names to values: a member that is set again keeps its place and takes
the new value.
-/

namespace ScanTree

/-- A JSON value.  A number written without a fraction and an exponent is an
integer of any size. -/
inductive Json where
  | null
  | bool (value : Bool)
  | int (value : Int)
  | real (value : Binary64)
  | str (value : String)
  | arr (items : List Json)
  | obj (members : List (String × Json))
deriving BEq, Repr

/-- The members of an object in order. -/
abbrev Members := List (String × Json)

namespace Members

/-- The value of the first member of a name. -/
def get? (members : Members) (name : String) : Option Json :=
  List.lookup name members

/-- Set a member in its place, or append it. -/
def put : Members → String → Json → Members
  | [], name, value => [(name, value)]
  | (first, old) :: rest, name, value =>
    if first = name then (first, value) :: rest
    else (first, old) :: put rest name value

/-- The map that pairs denote when they are set one after the other. -/
def ofPairs (pairs : List (String × Json)) : Members :=
  pairs.foldl (fun members pair => members.put pair.1 pair.2) []

@[simp]
theorem get?_nil (name : String) : get? [] name = none :=
  rfl

@[simp]
theorem get?_cons (first name : String) (value : Json) (rest : Members) :
    get? ((first, value) :: rest) name =
      if first = name then some value else get? rest name := by
  by_cases same : first = name
  · simp [get?, same]
  · have : (name == first) = false := by simpa using Ne.symm same
    simp [get?, List.lookup_cons, same, this]

theorem get?_put (members : Members) (name other : String) (value : Json) :
    get? (members.put name value) other =
      if name = other then some value else get? members other := by
  induction members with
  | nil => simp [put]
  | cons member rest ih =>
    obtain ⟨first, old⟩ := member
    by_cases same : first = name
    · subst same
      by_cases found : first = other <;> simp [put, found]
    · by_cases found : first = other
      · subst found
        simp [put, same, Ne.symm same]
      · simp [put, same, found, ih]

end Members

namespace Json

/-- Whether a value counts as present: not null, false, zero or empty. -/
def isTruthy : Json → Bool
  | null => false
  | bool value => value
  | int value => value != 0
  | real value => !value.isZero
  | str value => value != ""
  | arr items => !items.isEmpty
  | obj members => !members.isEmpty

/-- The text of a text value. -/
def text? : Json → Option String
  | str value => some value
  | _ => none

/-- The truth value of a truth value. -/
def bool? : Json → Option Bool
  | bool value => some value
  | _ => none

/-- The texts of a list of texts. -/
def texts? : Json → Option (List String)
  | arr items => items.mapM text?
  | _ => none

end Json

end ScanTree

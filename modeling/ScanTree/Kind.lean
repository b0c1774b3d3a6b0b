/-!
# Kinds of paths
-/

namespace ScanTree

/-- What a path of the tree is. -/
inductive Kind where
  | file
  | dir
  | symlink
deriving DecidableEq, Repr

namespace Kind

/-- The written name of a kind. -/
def name : Kind → String
  | file => "file"
  | dir => "dir"
  | symlink => "symlink"

/-- The kind of a written name. -/
def ofName? (text : String) : Option Kind :=
  if text = "file" then some file
  else if text = "dir" then some dir
  else if text = "symlink" then some symlink
  else none

@[simp]
theorem ofName?_name (kind : Kind) : ofName? kind.name = some kind := by
  cases kind <;> decide

end Kind

end ScanTree

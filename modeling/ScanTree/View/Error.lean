import ScanTree.Text.Quoted

/-!
# Refused views
-/

namespace ScanTree

/-- Why a view of an index is refused. -/
inductive ViewError where
  /-- There is no ordering of this name. -/
  | unknownOrdering (name : String)
  /-- There is no cost metric of this name. -/
  | unknownMetric (name : String)
  /-- A name that is to be sorted holds the null character. -/
  | nullInName
deriving DecidableEq, Repr

/-- The wording of a refusal. -/
def ViewError.message : ViewError → String
  | unknownOrdering name => s!"unknown ordering strategy: {Text.quoted name}"
  | unknownMetric name => s!"unknown cost metric: {Text.quoted name}"
  | nullInName => "embedded null character"

end ScanTree

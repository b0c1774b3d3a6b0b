import ScanTree.Index
import ScanTree.Summary

/-!
# Checking an index against a summary

Every path on a summary's list of included paths has to be included in the
index, and every path on the other list ignored or skipped.
-/

namespace ScanTree

/-- A path on which a summary and an index disagree. -/
structure Mismatch where
  path : String
  expected : Status
  actual : Option Status
  reason : Option String
deriving DecidableEq, Repr

namespace Index

/-- The status of a path as a summary gives it. -/
def statusOf? (index : Index) (path : String) : Option Status :=
  (index.find? (Path.normalize (some path))).map Node.status

/-- The items whose status is not accepted. -/
def mismatches (index : Index) (expected : Status) (accepts : Option Status → Bool)
    (items : List SummaryItem) : List Mismatch :=
  items.filterMap fun item =>
    let actual := index.statusOf? item.path
    if accepts actual then none else some ⟨item.path, expected, actual, item.reason⟩

/-- The paths on which a summary and an index disagree, those listed as
included first. -/
def checkSummary (index : Index) (summary : Summary) : List Mismatch :=
  index.mismatches .included (· = some .included) summary.included
    ++ index.mismatches .ignored (fun actual => actual = some .ignored || actual = some .skipped)
      summary.ignored

end Index

end ScanTree

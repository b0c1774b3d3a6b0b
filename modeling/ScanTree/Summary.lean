import ScanTree.Json.Basic

/-!
# Summaries

At the end of a scan the scanner lists the paths that it included and those
that it ignored.  Items without a path are dropped, and an empty kind or reason
counts as absent.
-/

namespace ScanTree

/-- One path of a summary. -/
structure SummaryItem where
  path : String
  kind : Option String := none
  reason : Option String := none
deriving DecidableEq, Repr

/-- The lists at the end of a scan. -/
structure Summary where
  included : List SummaryItem := []
  ignored : List SummaryItem := []
deriving DecidableEq, Repr

namespace SummaryItem

/-- The text of a member, unless it is empty. -/
def nonemptyText? (members : Members) (name : String) : Option String :=
  ((members.get? name).bind Json.text?).filter (· ≠ "")

/-- The item of a list entry. -/
def ofJson? : Json → Option SummaryItem
  | .obj members =>
    ((Members.get? members "Path").bind Json.text?).map fun path =>
      ⟨path, nonemptyText? members "Kind", nonemptyText? members "Reason"⟩
  | _ => none

/-- The items of a list. -/
def listOfJson : Option Json → List SummaryItem
  | some (.arr entries) => entries.filterMap ofJson?
  | _ => []

end SummaryItem

/-- The summary of a record. -/
def Summary.ofMembers (members : Members) : Summary :=
  ⟨SummaryItem.listOfJson (members.get? "included"),
    SummaryItem.listOfJson (members.get? "ignored")⟩

end ScanTree

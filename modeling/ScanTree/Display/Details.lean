import ScanTree.Decimal.Integer
import ScanTree.Stats

/-!
# Details of a node

Lines with a label in sixteen columns and a value.  What is absent is shown as
a dash.
-/

namespace ScanTree

/-- A line of details. -/
def detailLine (label : String) (value : Option String) : String :=
  label.pushn ' ' (16 - label.length) ++ value.getD "—"

/-- A line with a number, if it may be written. -/
def numberLine (label : String) (value : Int) : Except IntegerError String :=
  (intText value).map fun digits => detailLine label (some digits)

namespace SubtreeStats

/-- The numbers that are told about a subtree, with their labels. -/
def numbers (stats : SubtreeStats) : List (String × Int) :=
  [("Total items", stats.totalNodes),
    ("Traversed dirs", stats.traversedDirs),
    ("Dirs", stats.totalDirs),
    ("Files", stats.totalFiles),
    ("Ignored", stats.ignored),
    ("Skipped dirs", stats.skipped)]

/-- The lines about the statistics of a subtree. -/
def details (stats : SubtreeStats) : Except IntegerError (List String) :=
  stats.numbers.mapM fun number => numberLine number.1 number.2

end SubtreeStats

namespace Node

/-- The decision of one side about a node that two traces are compared on.  What
only the second one decided stands in the first place. -/
def sideDecision (node : Node) (side : Side) : Decision :=
  let fromFirst := node.origin ≠ some (.only .second)
  match side with
  | .first =>
    ⟨node.sideStatus .first, if fromFirst then node.decision.reason else none,
      if fromFirst then node.decision.pattern else none⟩
  | .second =>
    ⟨node.sideStatus .second,
      if fromFirst then node.second.reason else node.decision.reason,
      if fromFirst then node.second.pattern else node.decision.pattern⟩

/-- The lines about what each side decided. -/
def comparisonDetails (node : Node) : List String :=
  let first := node.sideDecision .first
  let second := node.sideDecision .second
  [detailLine "Status (A)" (some first.status.name),
    detailLine "Status (B)" (some second.status.name),
    detailLine "Reason (A)" first.reason,
    detailLine "Reason (B)" second.reason,
    detailLine "Pattern (A)" first.pattern,
    detailLine "Pattern (B)" second.pattern]

/-- The lines about a node, its subtree and, in a comparison, the two sides.  They are
refused if a number of the subtree is too long to be written. -/
def details (node : Node) (stats : Option SubtreeStats) (compare : Bool) :
    Except IntegerError (List String) := do
  let subtree ← stats.mapM SubtreeStats.details
  return [detailLine "Path" (some node.id),
      detailLine "Kind" (some node.kind.name),
      detailLine "Status" (some node.status.name),
      detailLine "Reason" node.decision.reason,
      detailLine "Pattern" node.decision.pattern,
      detailLine "Last event" node.lastEvent]
    ++ subtree.getD []
    ++ if compare then node.comparisonDetails else []

end Node

end ScanTree

import ScanTree.Decimal.Integer
import ScanTree.Display.Highlight
import ScanTree.View.Rows

/-!
# Rows as text

A row shows a mark for its children, a dot in the colour of its status, its
name, a badge if two traces are compared, and the cost of its subtree.
-/

namespace ScanTree

namespace Theme

/-- The colour of a status. -/
def statusColor (theme : Theme) : Status → String
  | .included => theme.statusIncluded
  | .ignored => theme.statusIgnored
  | .skipped => theme.statusSkipped
  | .unknown => theme.statusUnknown

/-- The colour of a cost: low below 20, high above 1000. -/
def costColor (theme : Theme) (cost : Int) : String :=
  if 1000 < cost then theme.costHigh
  else if cost < 20 then theme.costLow
  else theme.costMid

end Theme

/-- How two compared traces differ on a node. -/
inductive Badge where
  | only (side : Side)
  | diff
deriving DecidableEq, Repr

namespace Badge

/-- The text of a badge. -/
def label : Badge → String
  | only side => s!"{side.label} only"
  | diff => "Diff"

/-- The colour of a badge. -/
def color (theme : Theme) : Badge → String
  | only .first => theme.badgeOnlyFirst
  | only .second => theme.badgeOnlySecond
  | diff => theme.badgeDiff

end Badge

/-- How two compared traces differ on a node, given the statistics of each side.
A difference in the statistics counts for nodes with children that both sides
include or neither does. -/
def Node.badge? (node : Node) (hasChildren : Bool)
    (firstStats secondStats : Option SubtreeStats) : Option Badge :=
  let inFirst : Bool := node.sideStatus .first = .included
  let inSecond : Bool := node.sideStatus .second = .included
  if inFirst && !inSecond then some (.only .first)
  else if inSecond && !inFirst then some (.only .second)
  else
    match firstStats, secondStats with
    | some first, some second => if hasChildren && first ≠ second then some .diff else none
    | _, _ => none

/-- Why a row cannot be drawn. -/
inductive RowError where
  /-- The cost is shown under a metric that does not exist. -/
  | view (error : ViewError)
  /-- The cost cannot be written. -/
  | integer (error : IntegerError)
deriving DecidableEq, Repr

/-- What rows are drawn with. -/
structure RowStyle where
  theme : Theme := .standard
  compare : Bool := false
  stats : StatsTable := []
  firstStats : StatsTable := []
  secondStats : StatsTable := []
  metric : String := "total"
  search : String := ""

namespace Row

/-- The mark before a row. -/
def marker (row : Row) : String :=
  if row.hasChildren then if row.isExpanded then "▾ " else "▸ " else "  "

/-- The dot and the name of a row after its mark. -/
def headText (row : Row) (style : RowStyle) : String :=
  let theme := style.theme
  let isDir := row.node.isDirectoryLike
  let nameColor :=
    if row.dimmed then theme.dim else if isDir then theme.treeDir else theme.treeFile
  String.ofList (List.replicate (2 * row.depth) ' ')
    ++ theme.treeMarker ++ row.marker ++ theme.reset
    ++ theme.statusColor row.node.status ++ "●" ++ theme.reset ++ " "
    ++ nameColor ++ theme.highlightIn row.node.name style.search nameColor
    ++ (if isDir then "/" else "") ++ theme.reset

/-- The badge of a row, if two traces are compared and differ on its node. -/
def badge? (row : Row) (style : RowStyle) : Option Badge :=
  if style.compare then
    row.node.badge? row.hasChildren (style.firstStats.lookup row.node.id)
      (style.secondStats.lookup row.node.id)
  else none

/-- The text of a badge in its colour. -/
def badgeText (theme : Theme) (badge : Badge) : String :=
  badge.color theme ++ "[" ++ badge.label ++ "]" ++ theme.reset

/-- The text of a cost in its colour, if it may be written. -/
def costText (theme : Theme) (cost : Int) : Except IntegerError String :=
  (intText cost).map fun digits =>
    theme.costColor cost ++ "[" ++ digits ++ "]" ++ theme.reset

/-- The statistics whose cost a row shows: those of its node, if it has children. -/
def shownStats? (row : Row) (style : RowStyle) : Option SubtreeStats :=
  if row.hasChildren then style.stats.lookup row.node.id else none

/-- The text of a row.  It is refused if a cost has to be shown under a metric
that does not exist, or is too long to be written. -/
def text (row : Row) (style : RowStyle) : Except RowError String := do
  let cost ← (row.shownStats? style).mapM fun stats =>
    (costOf (some stats) style.metric).mapError .view
  let costText ← cost.mapM fun cost => (costText style.theme cost).mapError .integer
  return " ".intercalate (row.headText style
    :: ((row.badge? style).map (badgeText style.theme)).toList ++ costText.toList)

end Row

/-- The line above the rows that shows the counts. -/
def Counts.header (counts : Counts) (theme : Theme) : Except IntegerError String := do
  let included ← intText counts.included
  let ignored ← intText counts.ignored
  let skipped ← intText counts.skipped
  return " • ".intercalate
    [theme.statusIncluded ++ included ++ " included" ++ theme.reset,
      theme.statusIgnored ++ ignored ++ " ignored" ++ theme.reset,
      theme.statusSkipped ++ skipped ++ " skipped" ++ theme.reset]

end ScanTree

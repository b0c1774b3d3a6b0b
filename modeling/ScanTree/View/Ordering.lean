import ScanTree.View.Cost
import ScanTree.View.NameKey

/-!
# Ordering children

Directories come before files.  Within the two groups, children keep the order
in which they were discovered, or are sorted by name, or by falling cost and
then by name.  Equal children keep their order, and children that are not nodes
are dropped.
-/

namespace ScanTree

/-- How children are ordered within their group. -/
inductive OrderBy where
  /-- By discovery. -/
  | scan
  /-- By name. -/
  | alpha
  /-- By falling cost, then by name. -/
  | cost
deriving DecidableEq, Repr

namespace OrderBy

/-- The written name of an ordering. -/
def name : OrderBy → String
  | scan => "scan"
  | alpha => "alpha"
  | cost => "cost"

/-- All orderings. -/
def all : List OrderBy := [scan, alpha, cost]

/-- The ordering of a written name. -/
def ofName (text : String) : Except ViewError OrderBy :=
  if text = "scan" then .ok scan
  else if text = "alpha" then .ok alpha
  else if text = "cost" then .ok cost
  else .error (.unknownOrdering text)

@[simp]
theorem ofName_name (order : OrderBy) : ofName order.name = .ok order := by
  cases order <;> simp [ofName, name]

theorem ofName_of_unlisted {text : String} (unlisted : text ∉ all.map name) :
    ofName text = .error (.unknownOrdering text) := by
  simp only [all, name, List.map_cons, List.mem_cons, not_or] at unlisted
  rw [ofName, if_neg unlisted.1, if_neg unlisted.2.1, if_neg unlisted.2.2.1]

end OrderBy

/-- What children are sorted by: a rank, then the name. -/
structure ChildKey where
  /-- The cost with its sign changed, or zero where cost does not count. -/
  rank : Int
  /-- The key of the name. -/
  name : NameKey
deriving DecidableEq, Repr

namespace ChildKey

/-- Whether the first key does not come after the second one. -/
def le (first second : ChildKey) : Bool :=
  if first.rank = second.rank then first.name.le second.name
  else decide (first.rank ≤ second.rank)

/-- The key of a node, given the statistics and the metric if cost counts. -/
def ofNode (cost : Node → Int) (node : Node) : Except ViewError ChildKey :=
  (NameKey.ofName node.name).map fun name => ⟨-cost node, name⟩

end ChildKey

/-- Sort nodes by falling cost, then by name. -/
def sortNodes (cost : Node → Int) (nodes : List Node) : Except ViewError (List Node) := do
  let keyed ← nodes.mapM fun node => (ChildKey.ofNode cost node).map fun key => (key, node)
  return (keyed.mergeSort fun first second => first.1.le second.1).map (·.2)

/-- The cost of a node by a table of statistics, zero if it has none. -/
def StatsTable.cost (stats : StatsTable) (metric : CostMetric) (node : Node) : Int :=
  ((stats.lookup node.id).map (·.cost metric)).getD 0

/-- Order one group of children. -/
def orderGroup (order : OrderBy) (stats : StatsTable) (metric : CostMetric)
    (nodes : List Node) : Except ViewError (List Node) :=
  match order with
  | .scan => .ok nodes
  | .alpha => sortNodes (fun _ => 0) nodes
  | .cost => sortNodes (stats.cost metric) nodes

/-- The children that are nodes of the index, in order. -/
def orderChildren (index : Index) (order : OrderBy) (stats : StatsTable) (metric : CostMetric)
    (children : List String) : Except ViewError (List Node) := do
  let nodes := children.filterMap index.find?
  let dirs ← orderGroup order stats metric (nodes.filter (·.isDirectoryLike))
  let files ← orderGroup order stats metric (nodes.filter (!·.isDirectoryLike))
  return dirs ++ files

end ScanTree

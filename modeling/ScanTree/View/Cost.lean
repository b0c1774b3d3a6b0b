import ScanTree.Stats
import ScanTree.View.Error

/-!
# Costs

The cost of a subtree is its size or the number of its ignored nodes.
-/

namespace ScanTree

/-- What the cost of a subtree counts. -/
inductive CostMetric where
  /-- All nodes. -/
  | total
  /-- The ignored nodes. -/
  | ignored
deriving DecidableEq, Repr

namespace CostMetric

/-- The written name of a metric. -/
def name : CostMetric → String
  | total => "total"
  | ignored => "ignored"

/-- All metrics. -/
def all : List CostMetric := [total, ignored]

/-- The metric of a written name. -/
def ofName (text : String) : Except ViewError CostMetric :=
  if text = "total" then .ok total
  else if text = "ignored" then .ok ignored
  else .error (.unknownMetric text)

@[simp]
theorem ofName_name (metric : CostMetric) : ofName metric.name = .ok metric := by
  cases metric <;> simp [ofName, name]

theorem ofName_of_unlisted {text : String} (unlisted : text ∉ all.map name) :
    ofName text = .error (.unknownMetric text) := by
  simp only [all, name, List.map_cons, List.mem_cons, not_or] at unlisted
  rw [ofName, if_neg unlisted.1, if_neg unlisted.2.1]

end CostMetric

/-- The cost of a subtree. -/
def SubtreeStats.cost (stats : SubtreeStats) : CostMetric → Int
  | .total => stats.totalNodes
  | .ignored => stats.ignored

/-- The cost under a metric given by name.  Without statistics the cost is zero
and the name does not matter. -/
def costOf (stats : Option SubtreeStats) (metric : String) : Except ViewError Int :=
  match stats with
  | none => .ok 0
  | some stats => (CostMetric.ofName metric).map stats.cost

end ScanTree

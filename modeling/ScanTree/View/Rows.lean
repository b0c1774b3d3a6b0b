import ScanTree.View.Ordering
import ScanTree.View.Visibility

/-!
# Rows

The rows of a tree view: the visible nodes below the root in depth-first order.
The root has no row and is always open.  Another node is open if it is expanded
or anything is searched for.  A node that is met again has its first row only.
-/

namespace ScanTree

/-- One row of a tree view. -/
structure Row where
  /-- The node that is shown. -/
  node : Node
  /-- The number of ancestors that have rows. -/
  depth : Nat
  /-- Whether the node has children. -/
  hasChildren : Bool
  /-- Whether the node is expanded. -/
  isExpanded : Bool
  /-- Whether the node is shown although it is excluded. -/
  dimmed : Bool := false
deriving DecidableEq, Repr

/-- What a tree view shows. -/
structure View where
  /-- The ids of the expanded nodes. -/
  expanded : List String := []
  /-- Whether excluded nodes are shown. -/
  showExcluded : Bool := true
  /-- The searched text. -/
  search : String := ""
  /-- How children are ordered. -/
  orderBy : OrderBy := .scan
  /-- What costs count. -/
  metric : CostMetric := .total
deriving DecidableEq, Repr

namespace View

/-- A view with the ordering and the metric of the given names. -/
def named (view : View) (order metric : String) : Except ViewError View := do
  let orderBy ← OrderBy.ofName order
  let metric ← CostMetric.ofName metric
  return { view with orderBy, metric }

/-- The row of a node. -/
def row (view : View) (node : Node) (depth : Nat) : Row where
  node := node
  depth := depth
  hasChildren := !node.children.isEmpty
  isExpanded := view.expanded.contains node.id
  dimmed := view.showExcluded && node.status.isExcluded

/-- Whether the children of a node are shown. -/
def opens (view : View) (node : Node) : Bool :=
  view.expanded.contains node.id || isSearching view.search

theorem mem_keys_of_lookup {α : Type} {table : Index.Folded α} {id : String} {value : α}
    (found : table.lookup id = some value) : id ∈ table.map (·.1) := by
  induction table with
  | nil => simp at found
  | cons entry rest ih =>
    obtain ⟨key, kept⟩ := entry
    rw [List.lookup_cons] at found
    split at found
    · rename_i same
      simp [eq_of_beq same]
    · exact List.mem_cons_of_mem _ (ih found)

/-- The rows of a list of nodes with depths and of what is shown below them,
apart from nodes that have a row already. -/
def rowsFrom (view : View) (visible : VisibilityTable)
    (ordered : Node → Except ViewError (List Node)) (emitted : List String) :
    List (Node × Nat) → Except ViewError (List Row)
  | [] => .ok []
  | (node, depth) :: rest =>
    if _shown : visible.lookup node.id = some true ∧ node.id ∉ emitted then do
      let children ← if view.opens node then ordered node else pure []
      let below := children.map fun child => (child, depth + 1)
      let rows ← view.rowsFrom visible ordered (node.id :: emitted) (below ++ rest)
      return view.row node depth :: rows
    else view.rowsFrom visible ordered emitted rest
termination_by stack => ((visible.map (·.1)).countP (· ∉ emitted), stack.length)
decreasing_by
  · apply Prod.Lex.left
    exact Index.countP_notMem_cons_lt (mem_keys_of_lookup _shown.1) _shown.2
  · apply Prod.Lex.right
    simp

/-- The rows of an index.  Statistics are only needed to order by cost; they
are computed if they are not given. -/
def rows (view : View) (index : Index) (stats : Option StatsTable) :
    Except ViewError (List Row) :=
  match index.root? with
  | none => .ok []
  | some root => do
    let stats := if view.orderBy = .cost then stats.getD index.stats else []
    let ordered := fun node : Node =>
      orderChildren index view.orderBy stats view.metric node.children
    let children ← ordered root
    view.rowsFrom (index.visibility view.showExcluded view.search) ordered [root.id]
      (children.map fun child => (child, 0))

end View

end ScanTree

import ScanTree.Proofs.View.Revelation

/-!
# Views that show the same

A view asks about the expanded ids only where a node gets a row.  So two views
show the same rows if they differ in nothing but expanded ids that never get
one: the root, and ids of no node.
-/

namespace ScanTree

namespace View

/-- Two views agree on everything that the rows of an index depend on. -/
structure Alike (index : Index) (view other : View) : Prop where
  showExcluded : view.showExcluded = other.showExcluded
  search : view.search = other.search
  orderBy : view.orderBy = other.orderBy
  metric : view.metric = other.metric
  expanded : ∀ {id : String}, id ∈ index.ids → id ≠ index.rootId →
    (id ∈ view.expanded ↔ id ∈ other.expanded)

namespace Alike

variable {index : Index} {view other : View} {stats : Option StatsTable} {rows : List Row}

section Node

variable {node : Node}

theorem contains_eq (alike : Alike index view other) (known : node.id ∈ index.ids)
    (notRoot : node.id ≠ index.rootId) :
    view.expanded.contains node.id = other.expanded.contains node.id := by
  rw [Bool.eq_iff_iff, List.contains_iff_mem, List.contains_iff_mem]
  exact alike.expanded known notRoot

theorem row_eq (alike : Alike index view other) (known : node.id ∈ index.ids)
    (notRoot : node.id ≠ index.rootId) (depth : Nat) :
    view.row node depth = other.row node depth := by
  rw [row, row, alike.contains_eq known notRoot, alike.showExcluded]

theorem opened_eq (alike : Alike index view other) (known : node.id ∈ index.ids)
    (notRoot : node.id ≠ index.rootId) (order : Node → Except ViewError (List Node)) :
    view.opened order node = other.opened order node := by
  rw [opened, opened, opens, opens, alike.contains_eq known notRoot, alike.search]

end Node

/-- A list of nodes comes to the same rows as long as the root is among those
that have a row already. -/
theorem unrolls (alike : Alike index view other) {visible : VisibilityTable}
    {order : Node → Except ViewError (List Node)} (lists : Lists index order)
    {emitted : List String} {stack : List (Node × Nat)} (known : Known index stack)
    (rootEmitted : index.rootId ∈ emitted)
    (done : view.Unrolls visible order emitted stack rows) :
    other.Unrolls visible order emitted stack rows := by
  induction done with
  | nil => exact .nil
  | @shown emitted node depth rest children rows shows opens _ ih =>
      have inIndex : node.id ∈ index.ids := Index.mem_ids_of_find? known.head
      have notRoot : node.id ≠ index.rootId := fun isRoot => shows.2 (isRoot ▸ rootEmitted)
      rw [alike.row_eq inIndex notRoot]
      refine .shown shows ?_
        (ih (known.descend lists opens) (List.mem_cons_of_mem _ rootEmitted))
      rw [← alike.opened_eq inIndex notRoot]
      exact opens
  | hidden hides _ ih => exact .hidden hides (ih known.tail rootEmitted)

end Alike

end View

end ScanTree

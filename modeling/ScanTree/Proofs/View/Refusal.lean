import ScanTree.Builder
import ScanTree.Proofs.View.Revelation

/-!
# Refused views

A view is refused for three reasons: there is no ordering of the given name, there
is no metric of the given name, or a name that has to be sorted holds the null
character.  The last one depends on the index: the names that are sorted are those
of the children of the root and of revealed nodes that are open.
-/

namespace ScanTree

namespace View

variable {view : View} {index : Index} {stats : Option StatsTable} {rows : List Row}

/-- A view lists the children of the root, and those of every revealed node that is
open. -/
def Unfolds (view : View) (index : Index) (id : String) : Prop :=
  id = index.rootId ∨
    view.Revealed index id ∧ (id ∈ view.expanded ∨ isSearching view.search = true)

/-- No child that a view lists has the null character in its name. -/
def ListsNoNull (view : View) (index : Index) : Prop :=
  ∀ parent id child, view.Unfolds index parent → index.NodeLink parent id →
    index.find? id = some child → '\x00' ∉ child.name.toList

theorem exists_ordered_iff {node : Node} (found : index.find? node.id = some node) :
    (∃ children, view.ordered index stats node = .ok children) ↔
      view.orderBy = .scan ∨ ∀ id child, index.NodeLink node.id id →
        index.find? id = some child → '\x00' ∉ child.name.toList := by
  refine exists_orderChildren_iff.trans (or_congr_right ⟨fun noNull => ?_, fun noNull => ?_⟩)
  · intro id child link childFound
    have isChild := Index.mem_children_of_nodeLink link found
    exact noNull child (List.mem_filterMap.2 ⟨id, isChild, childFound⟩)
  · intro child member
    obtain ⟨id, isChild, childFound⟩ := List.mem_filterMap.1 member
    obtain rfl := Index.id_of_find? childFound
    have link := Index.nodeLink_of_find? found isChild (Index.mem_ids_of_find? childFound)
    exact noNull child.id child link childFound

theorem listsNoNull_of_rows (sorted : view.orderBy ≠ .scan)
    (shown : view.rows index stats = .ok rows) : view.ListsNoNull index := by
  intro parent id child unfolds link childFound
  have hasRoot : ∃ root, index.root? = some root := by
    rcases unfolds with rfl | ⟨revealed, _⟩
    · obtain ⟨⟨root, found, _⟩, _⟩ := link
      exact ⟨root, found⟩
    · exact revealed.exists_root
  rcases rows_cases shown with ⟨missing, _⟩ | ⟨root, children, found, orders, unrolls⟩
  · obtain ⟨root, found⟩ := hasRoot
    exact absurd (found.symm.trans missing) (Option.some_ne_none root)
  -- The parent has been ordered: it is the root, or it has a row and is open.
  have ordered : ∃ node below, index.find? parent = some node ∧
      view.ordered index stats node = .ok below := by
    rcases unfolds with rfl | ⟨revealed, opens⟩
    · exact ⟨root, children, found, orders⟩
    · obtain ⟨row, inRows, rfl⟩ :=
        List.mem_map.1 (mem_rowIds_of_revealed found orders unrolls revealed)
      obtain ⟨node, depth, rfl, nodeFound, _⟩ :=
        revealed_of_row found orders unrolls row inRows
      obtain ⟨below, opensBelow, _⟩ := unrolls.mem_rowIds_of_opened inRows
      rw [opened, if_pos (opens_iff.2 opens)] at opensBelow
      exact ⟨node, below, nodeFound, opensBelow⟩
  obtain ⟨node, below, nodeFound, orders⟩ := ordered
  obtain rfl := Index.id_of_find? nodeFound
  exact ((exists_ordered_iff nodeFound).1 ⟨below, orders⟩).resolve_left sorted id child link
    childFound

/-- A view of an index has rows if it keeps the order of discovery, or if no child that
it lists has the null character in its name. -/
theorem exists_rows_iff :
    (∃ rows, view.rows index stats = .ok rows) ↔
      view.orderBy = .scan ∨ view.ListsNoNull index := by
  constructor
  · rintro ⟨rows, shown⟩
    exact or_iff_not_imp_left.2 fun sorted => listsNoNull_of_rows sorted shown
  · intro sortable
    have orders {node : Node} (found : index.find? node.id = some node)
        (unfolds : view.Unfolds index node.id) :
        ∃ children, view.ordered index stats node = .ok children :=
      (exists_ordered_iff found).2 (sortable.imp_right fun noNull id child =>
        noNull node.id id child unfolds)
    cases found : index.root? with
    | none => exact ⟨[], rows_of_missing_root found⟩
    | some root =>
        have rootId := Index.id_of_find? found
        obtain ⟨children, rootOrders⟩ := orders (rootId ▸ found) (Or.inl rootId)
        -- Below the root, only nodes that are shown and open are ordered.
        have unrolls : ∃ rows, view.Unrolls (view.visibility index)
            (view.ordered index stats) [index.rootId] (atDepth children 0) rows :=
          exists_unrolls (motive := view.Due index)
            (fun due shows isOpen =>
              orders due.found (Or.inr ⟨due.revealed shows, opens_iff.1 isOpen⟩))
            (fun due shows opens child isChild => due.of_opened shows opens isChild)
            (List.Subset.refl _)
            (fun entry member => due_of_root found rootOrders (mem_atDepth_iff.1 member).1)
        obtain ⟨rows, unrolls⟩ := unrolls
        exact ⟨rows, (rows_of_ordered found rootOrders).trans (rowsFrom_eq_ok_iff.2 unrolls)⟩

/-- Every view of an index has rows if no name holds the null character. -/
theorem exists_rows (noNull : ∀ node ∈ index.nodes.entries, '\x00' ∉ node.name.toList) :
    ∃ rows, view.rows index stats = .ok rows :=
  exists_rows_iff.2 (Or.inr fun _ _ child _ _ found => noNull child (Table.mem_of_find? found))

theorem eq_nullInName_of_rows {error : ViewError}
    (refuses : view.rows index stats = .error error) : error = .nullInName := by
  cases found : index.root? with
  | none =>
      rw [rows_of_missing_root found] at refuses
      cases refuses
  | some root =>
      rw [rows_of_root found] at refuses
      rcases error_cases_of_bind_eq_error refuses with orders | ⟨children, _, refuses⟩
      · exact eq_nullInName_of_orderChildren orders
      · obtain ⟨node, orders⟩ := exists_ordered_eq_error refuses
        exact eq_nullInName_of_orderChildren orders

/-- What is revealed depends neither on the ordering nor on the metric. -/
theorem Revealed.reorder {id : String} (revealed : view.Revealed index id) (orderBy : OrderBy)
    (metric : CostMetric) : ({ view with orderBy, metric } : View).Revealed index id := by
  induction revealed with
  | top link => exact .top link
  | under _ opens link ih => exact .under ih opens link

theorem Unfolds.reorder {id : String} (unfolds : view.Unfolds index id) (orderBy : OrderBy)
    (metric : CostMetric) : ({ view with orderBy, metric } : View).Unfolds index id :=
  unfolds.imp_right (And.imp_left fun revealed => revealed.reorder orderBy metric)

/-- Which names are sorted depends neither on the ordering nor on the metric. -/
theorem listsNoNull_reorder {orderBy : OrderBy} {metric : CostMetric} :
    ({ view with orderBy, metric } : View).ListsNoNull index ↔ view.ListsNoNull index := by
  constructor
  · intro noNull parent id child unfolds
    exact noNull parent id child (unfolds.reorder orderBy metric)
  · intro noNull parent id child unfolds
    exact noNull parent id child (unfolds.reorder view.orderBy view.metric)

theorem rows_eq_error_iff {error : ViewError} :
    view.rows index stats = .error error ↔
      view.orderBy ≠ .scan ∧ ¬ view.ListsNoNull index ∧ error = .nullInName := by
  rw [← and_assoc, ← not_or, ← @exists_rows_iff view index stats]
  constructor
  · intro refuses
    refine ⟨?_, eq_nullInName_of_rows refuses⟩
    rintro ⟨rows, shown⟩
    cases refuses.symm.trans shown
  · rintro ⟨missing, rfl⟩
    cases shown : view.rows index stats with
    | ok rows => exact absurd ⟨rows, shown⟩ missing
    | error error => rw [eq_nullInName_of_rows shown]

section Names

variable {order metric : String}

theorem named_of_listed (view : View) (orderBy : OrderBy) (metric : CostMetric) :
    view.named orderBy.name metric.name = .ok { view with orderBy, metric } := by
  rw [named, OrderBy.ofName_name, CostMetric.ofName_name]
  rfl

theorem named_of_unlisted_order (unlisted : order ∉ OrderBy.all.map OrderBy.name) :
    view.named order metric = .error (.unknownOrdering order) := by
  rw [named, OrderBy.ofName_of_unlisted unlisted]
  rfl

theorem named_of_unlisted_metric (listed : order ∈ OrderBy.all.map OrderBy.name)
    (unlisted : metric ∉ CostMetric.all.map CostMetric.name) :
    view.named order metric = .error (.unknownMetric metric) := by
  obtain ⟨orderBy, _, rfl⟩ := List.mem_map.1 listed
  rw [named, OrderBy.ofName_name, CostMetric.ofName_of_unlisted unlisted]
  rfl

end Names

/-- A view with an ordering and a metric given by name has rows if both are among the
choices, and if it keeps the order of discovery or lists no name that holds the null
character.  Otherwise it is refused for the first of these that fails. -/
theorem rows_of_names (view : View) (order metric : String) (index : Index)
    (stats : Option StatsTable) :
    ((∃ rows, (view.named order metric >>= fun named => named.rows index stats) = .ok rows) ↔
      order ∈ OrderBy.all.map OrderBy.name ∧ metric ∈ CostMetric.all.map CostMetric.name ∧
        (order = OrderBy.scan.name ∨ view.ListsNoNull index)) ∧
    ∀ error, (view.named order metric >>= fun named => named.rows index stats) = .error error ↔
      order ∉ OrderBy.all.map OrderBy.name ∧ error = .unknownOrdering order ∨
      order ∈ OrderBy.all.map OrderBy.name ∧ metric ∉ CostMetric.all.map CostMetric.name ∧
        error = .unknownMetric metric ∨
      order ∈ OrderBy.all.map OrderBy.name ∧ metric ∈ CostMetric.all.map CostMetric.name ∧
        order ≠ OrderBy.scan.name ∧ ¬ view.ListsNoNull index ∧ error = .nullInName := by
  -- The names are looked at before the index is, the ordering before the metric.
  by_cases isOrder : order ∈ OrderBy.all.map OrderBy.name
  · by_cases isMetric : metric ∈ CostMetric.all.map CostMetric.name
    · simp only [isOrder, isMetric, not_true, false_and, false_or, true_and]
      obtain ⟨orderBy, _, rfl⟩ := List.mem_map.1 isOrder
      obtain ⟨metricBy, _, rfl⟩ := List.mem_map.1 isMetric
      have isScan : orderBy.name = OrderBy.scan.name ↔ orderBy = .scan := by
        cases orderBy <;> decide
      rw [named_of_listed, ne_eq, isScan, ← listsNoNull_reorder]
      exact ⟨exists_rows_iff, fun error => rows_eq_error_iff⟩
    · rw [named_of_unlisted_metric isOrder isMetric]
      simp [isOrder, isMetric, bind, Except.bind, eq_comm]
  · rw [named_of_unlisted_order isOrder]
    simp [isOrder, bind, Except.bind, eq_comm]

/-- A path with the null character is part of a valid trace.  Its row comes in the order
of discovery, but a view that sorts names is refused. -/
theorem rows_of_null_in_name :
    let index := Index.ofEvents [{ tag := some "include", path := some "a\x00b" }]
    "alpha" ∈ OrderBy.all.map OrderBy.name ∧ "total" ∈ CostMetric.all.map CostMetric.name ∧
    (∃ rows, (({} : View).named "scan" "total" >>= fun named => named.rows index none) =
      .ok rows) ∧
    (({} : View).named "alpha" "total" >>= fun named => named.rows index none) =
      .error .nullInName := by
  intro index
  have link : index.NodeLink index.rootId "a\x00b" :=
    ⟨⟨(index.find? index.rootId).get (by decide +kernel), (Option.some_get _).symm,
      by decide +kernel⟩, by decide +kernel⟩
  have listsNull : ¬ ({ orderBy := .alpha } : View).ListsNoNull index := by
    intro noNull
    refine noNull index.rootId "a\x00b" ((index.find? "a\x00b").get (by decide +kernel))
      (Or.inl rfl) link (Option.some_get _).symm ?_
    decide +kernel
  refine ⟨by decide, by decide, exists_rows_iff.2 (Or.inl rfl), ?_⟩
  exact (@rows_eq_error_iff { orderBy := .alpha } index none _).2 ⟨by decide, listsNull, rfl⟩

end View

end ScanTree

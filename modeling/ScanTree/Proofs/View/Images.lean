import ScanTree.Proofs.View.Revelation

/-!
# Rows of changed nodes

Where the nodes of an index are changed, but keep their ids and are ordered as before,
a view shows their images in the same rows, as long as what had a row stays visible
and nothing else becomes visible.
-/

namespace ScanTree

namespace View

variable {view : View} {image : Node → Node} {stack : List (Node × Nat)} {rows : List Row}

theorem map_atDepth (nodes : List Node) (depth : Nat) :
    (atDepth nodes depth).map (fun entry => (image entry.1, entry.2)) =
      atDepth (nodes.map image) depth := by
  simp [atDepth, Function.comp_def]

section Unrolling

variable {index : Index} {visible otherVisible : VisibilityTable}
  {ordered otherOrdered : Node → Except ViewError (List Node)} {emitted : List String}

theorem opened_image {node : Node} {children : List Node} (keepsId : (image node).id = node.id)
    (sameOrder : otherOrdered (image node) = (ordered node).map (·.map image))
    (opens : view.opened ordered node = .ok children) :
    view.opened otherOrdered (image node) = .ok (children.map image) := by
  have sameOpens : view.opens (image node) = view.opens node := by
    rw [View.opens, View.opens, keepsId]
  unfold opened at opens ⊢
  rw [sameOpens]
  split
  · rename_i isOpen
    rw [if_pos isOpen] at opens
    rw [sameOrder, opens]
    rfl
  · rename_i isClosed
    rw [if_neg isClosed] at opens
    obtain rfl := Except.ok.inj opens
    rfl

/-- Whatever the nodes of a list come to, their images come to rows that look the same. -/
theorem Unrolls.images {β : Type} {look : Row → β} (lists : Lists index ordered)
    (keepsId : ∀ node, (image node).id = node.id)
    (looks : ∀ node depth, index.find? node.id = some node →
      look (view.row (image node) depth) = look (view.row node depth))
    (sameOrder : ∀ node, index.find? node.id = some node →
      otherOrdered (image node) = (ordered node).map (·.map image))
    (noNew : ∀ id, otherVisible.lookup id = some true → visible.lookup id = some true)
    (unrolls : view.Unrolls visible ordered emitted stack rows) (known : Known index stack)
    (stay : ∀ id ∈ rowIds rows, otherVisible.lookup id = some true) :
    ∃ otherRows, view.Unrolls otherVisible otherOrdered emitted
        (stack.map fun entry => (image entry.1, entry.2)) otherRows ∧ otherRows.map look = rows.map look := by
  induction unrolls with
  | nil => exact ⟨[], .nil, rfl⟩
  | @shown emitted node depth rest children rows shows opens _ ih =>
      rw [rowIds_cons_row] at stay
      obtain ⟨stays, others⟩ := List.forall_mem_cons.1 stay
      obtain ⟨otherRows, further, sameRows⟩ := ih (known.descend lists opens) others
      rw [List.map_append, map_atDepth, ← keepsId node] at further
      have otherShows : Shows otherVisible emitted (image node) := by
        rw [Shows, keepsId]
        exact ⟨stays, shows.2⟩
      have otherOpens := opened_image (keepsId node) (sameOrder node known.head) opens
      refine ⟨_, .shown otherShows otherOpens further, ?_⟩
      rw [List.map_cons, List.map_cons, sameRows, looks node depth known.head]
  | @hidden emitted node depth rest rows hides _ ih =>
      obtain ⟨otherRows, further, sameRows⟩ := ih known.tail stay
      have otherHides : ¬ Shows otherVisible emitted (image node) := by
        rw [Shows, keepsId]
        exact fun otherShows => hides ⟨noNew node.id otherShows.1, otherShows.2⟩
      exact ⟨otherRows, .hidden otherHides further, sameRows⟩

end Unrolling

section Rows

variable {first second : Index} {stats otherStats : Option StatsTable}

theorem visible_of_mem_rowIds (shown : view.rows first stats = .ok rows) {id : String}
    (member : id ∈ rowIds rows) : (view.visibility first).lookup id = some true := by
  cases (mem_rowIds_iff shown).1 member with
  | top link => exact link.2.1
  | under _ _ link => exact link.2.1

/-- A view has rows for an index whose nodes are images of those of another one, and the
rows look the same, if every node with a row stays visible and no other one becomes
visible. -/
theorem exists_rows_of_images {β : Type} {look : Row → β} (sameRoot : second.rootId = first.rootId)
    (finds : ∀ id, second.find? id = (first.find? id).map image)
    (keepsId : ∀ node, (image node).id = node.id)
    (looks : ∀ node depth, first.find? node.id = some node →
      look (view.row (image node) depth) = look (view.row node depth))
    (sameOrder : ∀ node, first.find? node.id = some node →
      view.ordered second otherStats (image node) =
        (view.ordered first stats node).map (·.map image))
    (noNew : ∀ id, (view.visibility second).lookup id = some true →
      (view.visibility first).lookup id = some true)
    (shown : view.rows first stats = .ok rows)
    (stay : ∀ id ∈ rowIds rows, (view.visibility second).lookup id = some true) :
    ∃ otherRows, view.rows second otherStats = .ok otherRows ∧
      otherRows.map look = rows.map look := by
  have otherRoot : second.root? = first.root?.map image := by
    rw [Index.root?, sameRoot, finds, Index.root?]
  rcases rows_cases shown with ⟨missing, rfl⟩ | ⟨root, children, found, orders, unrolls⟩
  · rw [missing] at otherRoot
    exact ⟨[], rows_of_missing_root otherRoot, rfl⟩
  · rw [found] at otherRoot
    have otherOrders : view.ordered second otherStats (image root) = .ok (children.map image) := by
      rw [sameOrder root (Index.id_of_find? found ▸ found), orders]
      rfl
    obtain ⟨otherRows, otherUnrolls, sameRows⟩ := unrolls.images lists_ordered keepsId looks
      sameOrder noNew (known_of_ordered orders 0) stay
    rw [map_atDepth] at otherUnrolls
    refine ⟨otherRows, ?_, sameRows⟩
    rw [rows_of_ordered otherRoot otherOrders, sameRoot]
    exact rowsFrom_eq_ok_iff.2 otherUnrolls

end Rows

end View

end ScanTree

import ScanTree.Proofs.Subtree.Stack
import ScanTree.Proofs.View.Revelation

/-!
# The loops of a view

A view is computed by two loops: one walks down to the children of nodes and up
again to find out what is visible, and one takes nodes from a list, gives them
rows and puts their children in front of the list.  Both end whatever the links
of the index are.  The rows are then those of the revealed nodes, and a search
reveals every match that the root leads to.
-/

namespace ScanTree

open StateTransition

/-- How the first loop finds out whether a node is visible: some child is, or
the node passes when it is left. -/
def Index.seeing (showExcluded : Bool) (search : String) : Index.Gathering Bool where
  initial := fun _ => false
  combine := (· || ·)
  close := fun node seen => node.passes showExcluded search || seen
  close_combine := fun _ _ _ => (Bool.or_assoc _ _ _).symm

theorem Index.own_seeing (showExcluded : Bool) (search : String) :
    (seeing showExcluded search).own = (·.passes showExcluded search) := by
  funext node
  exact Bool.or_false _

/-- The first loop ends with the visibility of the nodes. -/
theorem Index.visibility_mem_eval {index : Index} (showExcluded : Bool) (search : String)
    {root : Node} (found : index.root? = some root) :
    ⟨[], index.visibility showExcluded search⟩ ∈
      eval ((seeing showExcluded search).next index)
        ⟨[(seeing showExcluded search).enter root], []⟩ := by
  have ends := mem_eval_foldFrom (seeing showExcluded search) false found
  rwa [own_seeing] at ends

namespace View

/-- The state of the second loop: the nodes that are still to be shown, the ids
that have rows, and the rows. -/
structure RowState where
  stack : List (Node × Nat)
  emitted : List String
  rows : List Row

/-- One turn of the second loop.  It ends early if the children of a node cannot
be ordered. -/
def nextRow (view : View) (visible : VisibilityTable)
    (ordered : Node → Except ViewError (List Node)) :
    Except ViewError RowState → Option (Except ViewError RowState)
  | .error _ => none
  | .ok ⟨[], _, _⟩ => none
  | .ok ⟨(node, depth) :: rest, emitted, rows⟩ =>
    if visible.lookup node.id = some true ∧ node.id ∉ emitted then
      some ((view.opened ordered node).map fun children =>
        ⟨atDepth children (depth + 1) ++ rest, node.id :: emitted,
          rows ++ [view.row node depth]⟩)
    else some (.ok ⟨rest, emitted, rows⟩)

/-- The state in which the second loop ends. -/
def lastRowState (emitted : List String) (before : List Row) (rows : List Row) : RowState :=
  ⟨[], (rowIds rows).reverse ++ emitted, before ++ rows⟩

section Rows

variable {view : View} {visible : VisibilityTable}
  {ordered : Node → Except ViewError (List Node)}

theorem reaches_of_shows {emitted : List String} {node : Node} {depth : Nat}
    {rest : List (Node × Nat)} (shows : Shows visible emitted node)
    (ih : ∀ (children : List Node) (before : List Row),
      Reaches (view.nextRow visible ordered)
        (.ok ⟨atDepth children (depth + 1) ++ rest, node.id :: emitted, before⟩)
        ((view.rowsFrom visible ordered (node.id :: emitted)
          (atDepth children (depth + 1) ++ rest)).map (lastRowState (node.id :: emitted) before)))
    (before : List Row) :
    Reaches (view.nextRow visible ordered) (.ok ⟨(node, depth) :: rest, emitted, before⟩)
      ((view.rowsFrom visible ordered emitted ((node, depth) :: rest)).map
        (lastRowState emitted before)) := by
  have turn : view.nextRow visible ordered (.ok ⟨(node, depth) :: rest, emitted, before⟩) =
      some ((view.opened ordered node).map fun children =>
        ⟨atDepth children (depth + 1) ++ rest, node.id :: emitted,
          before ++ [view.row node depth]⟩) := if_pos shows
  refine Index.reaches_of_turn turn ?_
  rw [rowsFrom_of_shows shows]
  cases view.opened ordered node with
  | error error => exact .refl
  | ok children =>
      have further := ih children (before ++ [view.row node depth])
      simp only [Except.map, bind, Except.bind]
      cases rows : view.rowsFrom visible ordered (node.id :: emitted)
          (atDepth children (depth + 1) ++ rest) with
      | error error =>
          rw [rows] at further
          exact further
      | ok rows =>
          rw [rows] at further
          simpa [lastRowState, Except.map] using further

/-- The second loop ends with the rows of the nodes that it begins with. -/
theorem reaches_rowsFrom (emitted : List String) (stack : List (Node × Nat))
    (before : List Row) :
    Reaches (view.nextRow visible ordered) (.ok ⟨stack, emitted, before⟩)
      ((view.rowsFrom visible ordered emitted stack).map (lastRowState emitted before)) := by
  induction emitted, stack using rowsFrom_induction visible generalizing before with
  | nil emitted =>
      rw [rowsFrom_nil]
      simp only [Except.map, lastRowState, rowIds_nil, List.reverse_nil, List.nil_append,
        List.append_nil]
      exact .refl
  | shown emitted node depth rest shows ih => exact reaches_of_shows shows ih before
  | hidden emitted node depth rest hides ih =>
      have turn : view.nextRow visible ordered (.ok ⟨(node, depth) :: rest, emitted, before⟩) =
          some (.ok ⟨rest, emitted, before⟩) := if_neg hides
      rw [rowsFrom_of_hides hides]
      exact Index.reaches_of_turn turn (ih before)

theorem nextRow_map_lastRowState (emitted : List String) (before : List Row)
    (rows : Except ViewError (List Row)) :
    view.nextRow visible ordered (rows.map (lastRowState emitted before)) = none := by
  cases rows <;> rfl

end Rows

variable {view : View} {index : Index} {stats : Option StatsTable}

/-- The second loop ends with the rows of the view. -/
theorem rows_mem_eval {root : Node} {children : List Node} (found : index.root? = some root)
    (orders : view.ordered index stats root = .ok children) :
    (view.rows index stats).map (lastRowState [index.rootId] []) ∈
      eval (view.nextRow (view.visibility index) (view.ordered index stats))
        (.ok ⟨atDepth children 0, [index.rootId], []⟩) := by
  rw [rows_of_ordered found orders]
  exact mem_eval.2 ⟨reaches_rowsFrom _ _ _, nextRow_map_lastRowState _ _ _⟩

/-- The last row before a row that is one level higher lists its node as a child. -/
theorem parent_of_row {rows : List Row} (shown : view.rows index stats = .ok rows)
    {earlier later : List Row} {row : Row} (split : rows = earlier ++ row :: later) {depth : Nat}
    (lower : row.depth = depth + 1) :
    ∃ parent, lastAt earlier depth = some parent ∧ row.node.id ∈ parent.node.children := by
  rcases rows_cases shown with ⟨_, rfl⟩ | ⟨root, children, _, _, unrolls⟩
  · simp at split
  · have hangs : Hangs [] (atDepth children 0) := by
      refine ⟨List.pairwise_map.2 (List.pairwise_of_forall fun _ _ => Nat.le_refl 0), ?_⟩
      intro node level member
      exact absurd (mem_atDepth_iff.1 member).2 (Nat.succ_ne_zero level)
    exact unrolls.parent_of_row lists_ordered hangs split lower

/-- While something is searched for, every match but the root that the root
leads to has one row. -/
theorem count_match_eq_one {rows : List Row} (shown : view.rows index stats = .ok rows)
    (searching : isSearching view.search = true) {id : String} {node : Node}
    (found : index.find? id = some node) (notRoot : id ≠ index.rootId)
    (leads : Relation.ReflTransGen index.NodeLink index.rootId id)
    (isMatch : node.isMatch (searchQuery view.search) = true) :
    (rowIds rows).count id = 1 := by
  have passes : node.passes view.showExcluded view.search = true := by
    rwa [Node.passes, if_pos searching]
  have rootFound : ∃ root, index.root? = some root := by
    rcases leads.cases_head with rfl | ⟨_, ⟨⟨root, rootFound, _⟩, _⟩, _⟩
    · exact absurd rfl notRoot
    · exact ⟨root, rootFound⟩
  obtain ⟨root, rootFound⟩ := rootFound
  have isVisible := Index.visible_of_passes rootFound found leads passes
  have revealed := revealed_of_visible searching rootFound isVisible notRoot
  exact List.count_eq_one_of_mem (nodup_rowIds shown) ((mem_rowIds_iff shown).2 revealed)

/-- Whatever the links of an index are, the loops of a view end: the first one
with the visibility of the nodes, and the second one with the rows.  The rows
are those of the revealed nodes, none of them twice and none for the root; a row
that is not on the highest level belongs to a child of the last row before it
that is one level higher; and while something is searched for, every match but
the root that the root leads to has one row. -/
theorem rows_of_any_index (view : View) (index : Index) (stats : Option StatsTable) :
    (∀ root, index.root? = some root →
      ⟨[], view.visibility index⟩ ∈
          eval ((Index.seeing view.showExcluded view.search).next index)
            ⟨[(Index.seeing view.showExcluded view.search).enter root], []⟩ ∧
        ∀ children, view.ordered index stats root = .ok children →
          (view.rows index stats).map (lastRowState [index.rootId] []) ∈
            eval (view.nextRow (view.visibility index) (view.ordered index stats))
              (.ok ⟨atDepth children 0, [index.rootId], []⟩)) ∧
    ∀ rows, view.rows index stats = .ok rows →
      index.rootId ∉ rowIds rows ∧ (rowIds rows).Nodup ∧
        (∀ id, id ∈ rowIds rows ↔ view.Revealed index id) ∧
        (∀ earlier row later depth, rows = earlier ++ row :: later → row.depth = depth + 1 →
          ∃ parent, lastAt earlier depth = some parent ∧
            row.node.id ∈ parent.node.children) ∧
        (isSearching view.search = true → ∀ id node, index.find? id = some node →
          id ≠ index.rootId → Relation.ReflTransGen index.NodeLink index.rootId id →
            node.isMatch (searchQuery view.search) = true → (rowIds rows).count id = 1) := by
  refine ⟨fun root found => ⟨?_, fun children orders => ?_⟩, fun rows shown => ?_⟩
  · exact Index.visibility_mem_eval view.showExcluded view.search found
  · exact rows_mem_eval found orders
  · refine ⟨rootId_notMem_rowIds shown, nodup_rowIds shown, fun id => mem_rowIds_iff shown,
      fun earlier row later depth split lower => parent_of_row shown split lower, ?_⟩
    intro searching id node found notRoot leads isMatch
    exact count_match_eq_one shown searching found notRoot leads isMatch

/-- Two directories that list each other, themselves and the root: a search that
both match shows each of them once. -/
theorem rows_of_cycle :
    let first : Node := { id := "ab", name := "ab", kind := .dir, children := ["b", "ab", "x"] }
    let second : Node := { id := "b", name := "b", kind := .dir, children := ["ab", "."] }
    let index : Index :=
      { rootId := "."
        nodes := Table.ofList
          [{ id := ".", name := ".", kind := .dir, children := ["ab", "."] }, first, second]
        counts := {} }
    let view : View := { search := " B " }
    view.rows index none = .ok [view.row first 0, view.row second 1] ∧
      (rowIds [view.row first 0, view.row second 1]).count "b" = 1 ∧
      view.Revealed index "ab" := by
  intro first second index view
  let root : Node := { id := ".", name := ".", kind := .dir, children := ["ab", "."] }
  have found : index.find? "." = some root := by decide +kernel
  have foundFirst : index.find? "ab" = some first := by decide +kernel
  have foundSecond : index.find? "b" = some second := by decide +kernel
  have leadsFirst : Relation.ReflTransGen index.NodeLink "." "ab" :=
    .single (Index.nodeLink_of_find? found (by decide) (by decide +kernel))
  have leadsSecond : Relation.ReflTransGen index.NodeLink "." "b" :=
    leadsFirst.tail (Index.nodeLink_of_find? foundFirst (by decide) (by decide +kernel))
  have searching : isSearching view.search = true := by decide
  have matchSecond : second.isMatch (searchQuery view.search) = true := by decide +kernel
  have seenFirst : (view.visibility index).lookup "ab" = some true :=
    Index.visible_of_passes found foundFirst leadsFirst (by decide +kernel)
  have seenSecond : (view.visibility index).lookup "b" = some true :=
    Index.visible_of_passes found foundSecond leadsSecond (by decide +kernel)
  have shown : view.rows index none = .ok [view.row first 0, view.row second 1] := by
    have orders : view.ordered index none root = .ok [first, root] := by decide +kernel
    have opensFirst : view.opened (view.ordered index none) first = .ok [second, first] := by
      decide +kernel
    have opensSecond : view.opened (view.ordered index none) second = .ok [first, root] := by
      decide +kernel
    have again : view.Unrolls (view.visibility index) (view.ordered index none)
        ["b", "ab", "."] [(first, 2), (root, 2), (first, 1), (root, 0)] [] :=
      .hidden (fun shows => shows.2 (by decide)) <|
        .hidden (fun shows => shows.2 (by decide)) <|
        .hidden (fun shows => shows.2 (by decide)) <|
        .hidden (fun shows => shows.2 (by decide)) .nil
    have below : view.Unrolls (view.visibility index) (view.ordered index none)
        ["ab", "."] [(second, 1), (first, 1), (root, 0)] [view.row second 1] :=
      .shown ⟨seenSecond, by decide⟩ opensSecond again
    have unrolls : view.Unrolls (view.visibility index) (view.ordered index none)
        ["."] [(first, 0), (root, 0)] [view.row first 0, view.row second 1] :=
      .shown ⟨seenFirst, by decide⟩ opensFirst below
    rw [rows_of_ordered found orders]
    exact rowsFrom_eq_ok_iff.2 unrolls
  obtain ⟨_, rowsOk⟩ := rows_of_any_index view index none
  obtain ⟨_, _, revealed, _, counted⟩ := rowsOk _ shown
  exact ⟨shown, counted searching "b" second foundSecond (by decide) leadsSecond matchSecond,
    (revealed "ab").1 (by decide)⟩

end View

end ScanTree

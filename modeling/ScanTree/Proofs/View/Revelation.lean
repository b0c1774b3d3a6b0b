import ScanTree.Proofs.View.Unrolling
import ScanTree.Proofs.View.Visibility

/-!
# What is revealed

A view reveals the visible children of the root, and those of every revealed
node that is open.  Whatever the links of an index are, the rows of a view are
those of the revealed nodes: the list that is left to be shown holds revealed
nodes only, and what a row opens is shown in the end.
-/

namespace ScanTree

namespace View

variable (view : View) (index : Index)

/-- The visibility that a view gives to the nodes of an index. -/
abbrev visibility : VisibilityTable :=
  index.visibility view.showExcluded view.search

/-- The children of a node that are nodes of an index, in the order of a view. -/
def ordered (stats : Option StatsTable) (node : Node) : Except ViewError (List Node) :=
  orderChildren index view.orderBy
    (if view.orderBy = .cost then stats.getD index.stats else []) view.metric node.children

/-- A view reveals a visible child of a node. -/
abbrev Reveals (parent child : String) : Prop :=
  index.VisibleLink (view.visibility index) [index.rootId] parent child

/-- The least set of nodes that holds the visible children of the root and those
of each of its members that is expanded, or of every member while something is
searched for.  The root is not among them. -/
inductive Revealed : String → Prop
  | top {id : String} (link : view.Reveals index index.rootId id) : Revealed id
  | under {parent id : String} (above : Revealed parent)
      (opens : parent ∈ view.expanded ∨ isSearching view.search = true)
      (link : view.Reveals index parent id) : Revealed id

variable {view index} {stats : Option StatsTable} {rows : List Row}

theorem opens_iff {node : Node} :
    view.opens node = true ↔ node.id ∈ view.expanded ∨ isSearching view.search = true := by
  simp [opens]

theorem lists_ordered : Lists index (view.ordered index stats) :=
  fun orders => orderChildren_perm orders

theorem rows_of_missing_root (missing : index.root? = none) :
    view.rows index stats = .ok [] := by
  rw [rows, missing]

theorem rows_of_root {root : Node} (found : index.root? = some root) :
    view.rows index stats =
      view.ordered index stats root >>= fun children =>
        view.rowsFrom (view.visibility index) (view.ordered index stats) [index.rootId]
          (atDepth children 0) := by
  rw [rows, found, ← Index.id_of_find? found]
  rfl

theorem rows_of_ordered {root : Node} {children : List Node} (found : index.root? = some root)
    (orders : view.ordered index stats root = .ok children) :
    view.rows index stats =
      view.rowsFrom (view.visibility index) (view.ordered index stats) [index.rootId]
        (atDepth children 0) := by
  rw [rows_of_root found, orders]
  rfl

/-- Rows come from the ordered children of the root, if the index has a root. -/
theorem rows_cases (shown : view.rows index stats = .ok rows) :
    (index.root? = none ∧ rows = []) ∨
      ∃ root children, index.root? = some root ∧
        view.ordered index stats root = .ok children ∧
        view.Unrolls (view.visibility index) (view.ordered index stats) [index.rootId]
          (atDepth children 0) rows := by
  cases found : index.root? with
  | none =>
      rw [rows_of_missing_root found] at shown
      exact Or.inl ⟨rfl, (Except.ok.inj shown).symm⟩
  | some root =>
      rw [rows_of_root found] at shown
      obtain ⟨children, orders, unrolls⟩ := exists_of_bind_eq_ok shown
      exact Or.inr ⟨root, children, rfl, orders, rowsFrom_eq_ok_iff.1 unrolls⟩

theorem known_of_ordered {node : Node} {children : List Node}
    (orders : view.ordered index stats node = .ok children) (depth : Nat) :
    Known index (atDepth children depth) :=
  fun _ member => ((lists_ordered.mem_iff orders).1 (mem_atDepth_iff.1 member).1).2

/-- A revealed node is below a root. -/
theorem Revealed.exists_root {id : String} (revealed : view.Revealed index id) :
    ∃ root, index.root? = some root := by
  induction revealed with
  | top link =>
      obtain ⟨⟨node, found, _⟩, _⟩ := link.1
      exact ⟨node, found⟩
  | under _ _ _ ih => exact ih

/-- A node of an index that is revealed if it is shown. -/
structure Due (view : View) (index : Index) (node : Node) : Prop where
  found : index.find? node.id = some node
  revealed : Shows (view.visibility index) [index.rootId] node → view.Revealed index node.id

theorem due_of_root {root child : Node} {children : List Node}
    (found : index.root? = some root) (orders : view.ordered index stats root = .ok children)
    (member : child ∈ children) : view.Due index child := by
  obtain ⟨isChild, childFound⟩ := (lists_ordered.mem_iff orders).1 member
  have link := Index.nodeLink_of_find? found isChild (Index.mem_ids_of_find? childFound)
  exact ⟨childFound, fun shows => .top ⟨link, shows⟩⟩

theorem Due.of_opened {node child : Node} {children : List Node} (due : view.Due index node)
    (shows : Shows (view.visibility index) [index.rootId] node)
    (opens : view.opened (view.ordered index stats) node = .ok children)
    (member : child ∈ children) : view.Due index child := by
  obtain ⟨isChild, childFound, isOpen⟩ := lists_ordered.of_opened opens member
  have link := Index.nodeLink_of_find? due.found isChild (Index.mem_ids_of_find? childFound)
  exact ⟨childFound, fun childShows =>
    .under (due.revealed shows) (opens_iff.1 isOpen) ⟨link, childShows⟩⟩

section Root

variable {root : Node} {children : List Node}

/-- Every row belongs to a revealed node, as the index has it. -/
theorem revealed_of_row (found : index.root? = some root)
    (orders : view.ordered index stats root = .ok children)
    (unrolls : view.Unrolls (view.visibility index) (view.ordered index stats) [index.rootId]
      (atDepth children 0) rows) :
    ∀ row ∈ rows, ∃ node depth, row = view.row node depth ∧
      index.find? node.id = some node ∧ view.Revealed index node.id := by
  intro row member
  obtain ⟨node, depth, rfl, due, shows⟩ := unrolls.forall_rows
    (motive := fun node _ => view.Due index node)
    (fun entry member => due_of_root found orders (mem_atDepth_iff.1 member).1)
    (fun due shows opens child isChild => due.of_opened shows opens isChild) row member
  exact ⟨node, depth, rfl, due.found, due.revealed shows⟩

/-- Every revealed node has a row. -/
theorem mem_rowIds_of_revealed (found : index.root? = some root)
    (orders : view.ordered index stats root = .ok children)
    (unrolls : view.Unrolls (view.visibility index) (view.ordered index stats) [index.rootId]
      (atDepth children 0) rows) {id : String} (revealed : view.Revealed index id) :
    id ∈ rowIds rows := by
  induction revealed with
  | @top id link =>
      obtain ⟨node, nodeFound⟩ := Index.exists_node_of_mem_ids link.1.2
      obtain rfl := Index.id_of_find? nodeFound
      have isChild := Index.mem_children_of_nodeLink link.1 found
      have inList : (node, 0) ∈ atDepth children 0 :=
        mem_atDepth_iff.2 ⟨(lists_ordered.mem_iff orders).2 ⟨isChild, nodeFound⟩, rfl⟩
      exact (unrolls.mem_rowIds_of_visible inList link.2.1).resolve_left link.2.2
  | @under parent id _ opens link ih =>
      obtain ⟨row, inRows, rfl⟩ := List.mem_map.1 ih
      obtain ⟨parentNode, depth, rfl, parentFound, _⟩ :=
        revealed_of_row found orders unrolls row inRows
      obtain ⟨node, nodeFound⟩ := Index.exists_node_of_mem_ids link.1.2
      obtain rfl := Index.id_of_find? nodeFound
      obtain ⟨below, opensBelow, covered⟩ := unrolls.mem_rowIds_of_opened inRows
      have isChild := Index.mem_children_of_nodeLink link.1 parentFound
      have inBelow := lists_ordered.mem_opened opensBelow (opens_iff.2 opens) isChild nodeFound
      exact (covered node inBelow link.2.1).resolve_left link.2.2

end Root

/-- The rows are those of the revealed nodes. -/
theorem mem_rowIds_iff (shown : view.rows index stats = .ok rows) {id : String} :
    id ∈ rowIds rows ↔ view.Revealed index id := by
  rcases rows_cases shown with ⟨missing, rfl⟩ | ⟨root, children, found, orders, unrolls⟩
  · have nothing : ¬ view.Revealed index id := by
      intro revealed
      obtain ⟨root, found⟩ := revealed.exists_root
      exact Option.some_ne_none root (found.symm.trans missing)
    simpa using nothing
  · constructor
    · intro member
      obtain ⟨row, inRows, rfl⟩ := List.mem_map.1 member
      obtain ⟨node, depth, rfl, _, revealed⟩ := revealed_of_row found orders unrolls row inRows
      exact revealed
    · exact mem_rowIds_of_revealed found orders unrolls

theorem nodup_rowIds (shown : view.rows index stats = .ok rows) : (rowIds rows).Nodup := by
  rcases rows_cases shown with ⟨_, rfl⟩ | ⟨_, _, _, _, unrolls⟩
  · exact List.nodup_nil
  · exact unrolls.nodup_rowIds

theorem rootId_notMem_rowIds (shown : view.rows index stats = .ok rows) :
    index.rootId ∉ rowIds rows := by
  rcases rows_cases shown with ⟨_, rfl⟩ | ⟨_, _, _, _, unrolls⟩
  · exact List.not_mem_nil
  · exact fun member => unrolls.notMem_emitted member List.mem_cons_self

/-- While something is searched for, every visible node but the root is
revealed. -/
theorem revealed_of_visible (searching : isSearching view.search = true) {root : Node}
    (found : index.root? = some root) {id : String}
    (isVisible : (view.visibility index).lookup id = some true) (notRoot : id ≠ index.rootId) :
    view.Revealed index id := by
  obtain ⟨child, link, chain⟩ := Index.exists_visible_chain_of_root found isVisible notRoot
  clear isVisible notRoot
  induction chain with
  | refl => exact .top link
  | tail _ link ih => exact .under ih (Or.inr searching) link

end View

end ScanTree

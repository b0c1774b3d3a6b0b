import ScanTree.Proofs.Index.Siblings
import ScanTree.Proofs.Subtree.Statistics
import ScanTree.Proofs.View.Images
import ScanTree.Proofs.View.TreeWalk

/-!
# Indices that look alike

Two indices are alike if they have the same nodes up to the order of children.
They have the same visibility and statistics, and where siblings have different
names and a view sorts them by these, it shows the same rows for both: every
node has its counterpart in the other index, and all that is looked at when
children are sorted is the same for both.
-/

namespace ScanTree

namespace Node

/-- Two nodes are the same up to the order of children. -/
structure Alike (node other : Node) : Prop where
  eq : other = { node with children := other.children }
  children : node.children.Perm other.children

namespace Alike

variable {node other : Node}

theorem id_eq (alike : node.Alike other) : other.id = node.id :=
  (congrArg Node.id alike.eq :)

theorem name_eq (alike : node.Alike other) : other.name = node.name :=
  (congrArg Node.name alike.eq :)

theorem kind_eq (alike : node.Alike other) : other.kind = node.kind :=
  (congrArg Node.kind alike.eq :)

theorem status_eq (alike : node.Alike other) : other.status = node.status :=
  (congrArg Node.status alike.eq :)

theorem isEmpty_children (alike : node.Alike other) :
    other.children.isEmpty = node.children.isEmpty :=
  alike.children.isEmpty_eq.symm

theorem isDirectoryLike_eq (alike : node.Alike other) :
    other.isDirectoryLike = node.isDirectoryLike := by
  simp only [isDirectoryLike, alike.kind_eq, alike.status_eq, alike.isEmpty_children]

theorem ofNode_eq (alike : node.Alike other) :
    SubtreeStats.ofNode other = SubtreeStats.ofNode node := by
  have sameDir : other.isDir = node.isDir := by
    simp only [isDir, alike.kind_eq, alike.isEmpty_children]
  simp only [SubtreeStats.ofNode, sameDir, alike.status_eq]

theorem passes_eq (alike : node.Alike other) (showExcluded : Bool) (search : String) :
    other.passes showExcluded search = node.passes showExcluded search := by
  rw [alike.eq]
  rfl

end Alike

end Node

namespace Index

/-- In a tree everything is looked at. -/
theorem IsTree.mem_completed_visibility {index : Index} (tree : index.IsTree)
    (showExcluded : Bool) (search : String) {id : String} (known : id ∈ index.ids) :
    id ∈ completed (index.visibility showExcluded search) := by
  obtain ⟨root, found⟩ := tree.exists_root
  exact index.mem_completed_visibility showExcluded search found (tree.root_leads known)

/-- Trees have the same visibility if their nodes pass the same test and have the same
children, in any order. -/
theorem IsTree.lookup_visibility_eq_of_related {first second : Index} (tree : first.IsTree)
    (otherTree : second.IsTree) (showExcluded : Bool) (search : String)
    (nodes : ∀ id, Option.Rel
      (fun node other => node.passes showExcluded search = other.passes showExcluded search ∧
        node.children.Perm other.children)
      (first.find? id) (second.find? id)) (id : String) :
    (first.visibility showExcluded search).lookup id =
      (second.visibility showExcluded search).lookup id := by
  have solved : first.Solved (·.passes showExcluded search) (· || ·)
      (first.visibility showExcluded search) := solved_foldFrom tree.acyclic _ _ _ _
  have otherSolved : second.Solved (·.passes showExcluded search) (· || ·)
      (second.visibility showExcluded search) := solved_foldFrom otherTree.acyclic _ _ _ _
  by_cases known : id ∈ first.ids
  · exact solved.lookup_eq_of_related otherSolved
      (otherTree.mem_completed_visibility showExcluded search) nodes
      (tree.mem_completed_visibility showExcluded search known)
  · have unknown : id ∉ second.ids := by rwa [← mem_ids_iff_of_rel (nodes id)]
    rw [lookup_eq_none_iff.2 fun member => known (solved.known member),
      lookup_eq_none_iff.2 fun member => unknown (otherSolved.known member)]

/-- Two indices have the same nodes up to the order of children. -/
structure Alike (first second : Index) : Prop where
  rootId_eq : second.rootId = first.rootId
  nodes : ∀ id, Option.Rel Node.Alike (first.find? id) (second.find? id)

/-- The node of another index with the id of a node. -/
def counterpart (other : Index) (node : Node) : Node :=
  (other.find? node.id).getD node

theorem id_counterpart (other : Index) (node : Node) : (other.counterpart node).id = node.id := by
  cases found : other.find? node.id with
  | none => rw [counterpart, found, Option.getD_none]
  | some counterpart => rw [Index.counterpart, found, Option.getD_some, id_of_find? found]

namespace Alike

variable {first second : Index}

theorem find?_eq (alike : first.Alike second) (id : String) :
    second.find? id = (first.find? id).map second.counterpart := by
  cases found : first.find? id with
  | none => exact eq_none_of_rel_none (found ▸ alike.nodes id)
  | some node =>
      obtain ⟨other, otherFound, _⟩ := exists_of_rel_some (found ▸ alike.nodes id)
      rw [otherFound, Option.map_some, counterpart, id_of_find? found, otherFound,
        Option.getD_some]

theorem alike_counterpart (alike : first.Alike second) {node : Node}
    (found : first.find? node.id = some node) : node.Alike (second.counterpart node) := by
  obtain ⟨other, otherFound, nodesAlike⟩ := exists_of_rel_some (found ▸ alike.nodes node.id)
  rwa [counterpart, otherFound, Option.getD_some]

theorem mem_ids_iff (alike : first.Alike second) {id : String} :
    id ∈ first.ids ↔ id ∈ second.ids :=
  mem_ids_iff_of_rel (alike.nodes id)

theorem lookup_stats (alike : first.Alike second) (tree : first.IsTree)
    (otherTree : second.IsTree) (id : String) :
    first.stats.lookup id = second.stats.lookup id := by
  refine lookup_stats_eq_of_related tree.acyclic otherTree.acyclic (fun other => ?_) id
  exact rel_imp (fun nodes => ⟨nodes.ofNode_eq.symm, nodes.children⟩) (alike.nodes other)

theorem lookup_visibility (alike : first.Alike second) (tree : first.IsTree)
    (otherTree : second.IsTree) (showExcluded : Bool) (search : String) (id : String) :
    (first.visibility showExcluded search).lookup id =
      (second.visibility showExcluded search).lookup id :=
  tree.lookup_visibility_eq_of_related otherTree showExcluded search
    (fun other => rel_imp (fun nodes => ⟨(nodes.passes_eq _ _).symm, nodes.children⟩)
      (alike.nodes other)) id

/-- The nodes that are listed as children of a node and of its counterpart. -/
theorem filterMap_find?_perm (alike : first.Alike second) {children others : List String}
    (same : children.Perm others) :
    ((children.filterMap first.find?).map second.counterpart).Perm
      (others.filterMap second.find?) := by
  have found : second.find? = fun id => (first.find? id).map second.counterpart :=
    funext alike.find?_eq
  rw [List.map_filterMap, ← found]
  exact same.filterMap _

section Ordering

variable {order : OrderBy} {stats otherStats : StatsTable} {children others : List String}

/-- Where siblings have different names, a group of them and the group of their
counterparts are ordered in the same way. -/
theorem orderGroup_eq (alike : first.Alike second) (sorted : order ≠ .scan)
    (sameStats : ∀ id, stats.lookup id = otherStats.lookup id) (metric : CostMetric)
    (same : children.Perm others)
    (distinct : ((children.filterMap first.find?).map (·.name)).Nodup) (test : Node → Bool)
    (keepsTest : ∀ {node other : Node}, node.Alike other → test other = test node) :
    orderGroup order otherStats metric ((others.filterMap second.find?).filter test) =
      (orderGroup order stats metric ((children.filterMap first.find?).filter test)).map
        (·.map second.counterpart) := by
  have alikeNodes : ∀ node ∈ children.filterMap first.find?,
      node.Alike (second.counterpart node) := by
    intro node member
    obtain ⟨id, _, found⟩ := List.mem_filterMap.1 member
    exact alike.alike_counterpart (id_of_find? found ▸ found)
  have keeps : ∀ node ∈ (children.filterMap first.find?).filter test,
      (second.counterpart node).name = node.name ∧
        otherStats.cost metric (second.counterpart node) = stats.cost metric node := by
    intro node member
    have nodesAlike := alikeNodes node (List.mem_filter.1 member).1
    refine ⟨nodesAlike.name_eq, ?_⟩
    rw [StatsTable.cost, StatsTable.cost, nodesAlike.id_eq, sameStats]
  have filtered : ((children.filterMap first.find?).map second.counterpart).filter test =
      ((children.filterMap first.find?).filter test).map second.counterpart := by
    rw [List.filter_map]
    congr 1
    exact List.filter_congr fun node member => keepsTest (alikeNodes node member)
  have permuted := ((alike.filterMap_find?_perm same).filter test).symm
  rw [filtered] at permuted
  have names : (((children.filterMap first.find?).filter test).map
      second.counterpart).map (·.name) =
        ((children.filterMap first.find?).filter test).map (·.name) := by
    rw [List.map_map]
    exact List.map_congr_left fun node member => (keeps node member).1
  have distinctGroup : (((others.filterMap second.find?).filter test).map (·.name)).Nodup := by
    rw [(permuted.map _).nodup_iff, names]
    exact distinct.sublist (List.filter_sublist.map _)
  have told := List.inj_on_of_nodup_map distinctGroup
  rw [orderGroup_eq_of_perm sorted permuted told]
  exact orderGroup_map keeps

/-- Where siblings have different names, the children of counterparts are ordered
in the same way. -/
theorem orderChildren_eq (alike : first.Alike second) (sorted : order ≠ .scan)
    (sameStats : ∀ id, stats.lookup id = otherStats.lookup id) (metric : CostMetric)
    (same : children.Perm others)
    (distinct : ((children.filterMap first.find?).map (·.name)).Nodup) :
    orderChildren second order otherStats metric others =
      (orderChildren first order stats metric children).map (·.map second.counterpart) := by
  apply orderChildren_eq_map
  · exact alike.orderGroup_eq sorted sameStats metric same distinct (·.isDirectoryLike)
      Node.Alike.isDirectoryLike_eq
  · exact alike.orderGroup_eq sorted sameStats metric same distinct (!·.isDirectoryLike)
      fun nodes => congrArg (!·) nodes.isDirectoryLike_eq

end Ordering

end Alike

end Index

namespace View

/-- What a row shows of its node: the id, the depth, and the marks. -/
def outline (row : Row) : String × Nat × Bool × Bool × Bool :=
  (row.node.id, row.depth, row.hasChildren, row.isExpanded, row.dimmed)

theorem outline_row (view : View) {node other : Node} (alike : node.Alike other) (depth : Nat) :
    outline (view.row other depth) = outline (view.row node depth) := by
  simp only [outline, row, alike.id_eq, alike.isEmpty_children, alike.status_eq]

variable {view : View} {first second : Index} {rows : List Row}

/-- If the children of the root have different names, so have those of every path. -/
theorem nodup_childNames {index : Index} (tree : index.IsTree)
    (topNames : ∀ root, index.root? = some root →
      ((root.children.filterMap index.find?).map (·.name)).Nodup)
    {node : Node} (found : index.find? node.id = some node) :
    ((node.children.filterMap index.find?).map (·.name)).Nodup := by
  by_cases isRoot : node.id = Path.root
  · refine topNames node ?_
    rw [Index.root?, tree.rootId_eq, ← isRoot, found]
  · exact tree.nodup_names_children found isRoot

section Rows

variable {stats otherStats : Option StatsTable}

/-- Where siblings have different names, a view that sorts by these has rows for
a tree that is alike, and they show the same. -/
theorem exists_rows_of_alike (alike : first.Alike second) (tree : first.IsTree)
    (otherTree : second.IsTree) (sorted : view.orderBy ≠ .scan)
    (sameStats : ∀ id, (stats.getD first.stats).lookup id =
      (otherStats.getD second.stats).lookup id)
    (topNames : ∀ root, first.root? = some root →
      ((root.children.filterMap first.find?).map (·.name)).Nodup)
    (shown : view.rows first stats = .ok rows) :
    ∃ otherRows, view.rows second otherStats = .ok otherRows ∧
      otherRows.map outline = rows.map outline := by
  have sameUsed (id : String) :
      (if view.orderBy = .cost then stats.getD first.stats else []).lookup id =
        (if view.orderBy = .cost then otherStats.getD second.stats else []).lookup id := by
    split
    · exact sameStats id
    · rfl
  have sameOrder (node : Node) (found : first.find? node.id = some node) :
      view.ordered second otherStats (second.counterpart node) =
        (view.ordered first stats node).map (·.map second.counterpart) :=
    alike.orderChildren_eq sorted sameUsed view.metric (alike.alike_counterpart found).children
      (nodup_childNames tree topNames found)
  have sameVisible := alike.lookup_visibility tree otherTree view.showExcluded view.search
  refine exists_rows_of_images alike.rootId_eq alike.find?_eq second.id_counterpart ?_ sameOrder
    (fun id visible => (sameVisible id).trans visible) shown fun id member => ?_
  · exact fun node depth found => outline_row view (alike.alike_counterpart found) depth
  · rw [← sameVisible]
    exact visible_of_mem_rowIds shown member

end Rows

end View

end ScanTree

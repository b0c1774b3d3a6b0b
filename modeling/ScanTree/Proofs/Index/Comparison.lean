import ScanTree.Proofs.Index.RootedTree
import ScanTree.Proofs.Merge.Union

/-!
# Comparisons of trees are trees

The comparison of two trees has a path if one of them has it, so it has the
parent of each of its paths, and the union of the children of a path is again
the list of the paths that have it as parent.  By induction, whatever is made
of traces by comparing again and again is a tree.  In a tree the links between
nodes are those from a path to the paths that have it as parent, so it is
acyclic and a node leads to another one if it is on its lineage.
-/

namespace ScanTree

namespace Index

theorem mem_ids_merge_iff {first second merged : Index}
    (merges : first.merge second = .ok merged) {id : String} :
    id ∈ merged.ids ↔ id ∈ first.ids ∨ id ∈ second.ids := by
  rw [ids_of_merge merges, List.mem_append, List.mem_filter, decide_eq_true_eq]
  tauto

/-- A node of a comparison comes from nodes of both indices or from a node that
only one of them has. -/
theorem find?_merge_cases {first second merged : Index}
    (merges : first.merge second = .ok merged) {id : String} {node : Node}
    (found : merged.find? id = some node) :
    (∃ one other, first.find? id = some one ∧ second.find? id = some other ∧
        node = one.merge other) ∨
      (∃ one, first.find? id = some one ∧ id ∉ second.ids ∧ node = one.onlyOn .first) ∨
      ∃ other, id ∉ first.ids ∧ second.find? id = some other ∧
        node = other.onlyOn .second := by
  rw [find?_of_merge merges] at found
  cases inFirst : first.find? id <;> cases inSecond : second.find? id <;>
    simp only [inFirst, inSecond, Option.some.injEq, reduceCtorEq] at found
  · exact Or.inr (Or.inr ⟨_, Table.find?_eq_none_iff.1 inFirst, rfl, found.symm⟩)
  · exact Or.inr (Or.inl ⟨_, rfl, Table.find?_eq_none_iff.1 inSecond, found.symm⟩)
  · exact Or.inl ⟨_, _, rfl, rfl, found.symm⟩

namespace IsTree

variable {first second merged : Index}

/-- A path that a tree does not have is nobody's parent in it. -/
theorem ne_parent_of_notMem (tree : first.IsTree) {id child : String} (unknown : id ∉ first.ids)
    (known : child ∈ first.ids) : Path.parent? child ≠ some id :=
  fun isParent => unknown (tree.parent_mem known isParent)

/-- The comparison of two trees is a tree. -/
theorem merge (tree : first.IsTree) (other : second.IsTree)
    (merges : first.merge second = .ok merged) : merged.IsTree where
  rootId_eq := by rw [(merge_eq_ok_iff.1 merges).2, tree.rootId_eq]
  root_mem := (mem_ids_merge_iff merges).2 (Or.inl tree.root_mem)
  parent_mem := by
    intro id parent known found
    rw [mem_ids_merge_iff merges] at known ⊢
    exact known.imp (tree.parent_mem · found) (other.parent_mem · found)
  name_eq := by
    intro id node found
    rcases find?_merge_cases merges found with
      ⟨one, two, inFirst, _, rfl⟩ | ⟨one, inFirst, _, rfl⟩ | ⟨two, _, inSecond, rfl⟩
    · exact (tree.name_eq inFirst :)
    · exact (tree.name_eq inFirst :)
    · exact (other.name_eq inSecond :)
  mem_children_iff := by
    intro id node child found
    rw [mem_ids_merge_iff merges]
    rcases find?_merge_cases merges found with
      ⟨one, two, inFirst, inSecond, rfl⟩ | ⟨one, inFirst, unknown, rfl⟩ |
        ⟨two, unknown, inSecond, rfl⟩
    · rw [Node.merge, mem_unionChildren_iff, tree.mem_children_iff inFirst,
        other.mem_children_iff inSecond, or_and_right]
    · have notSecond : child ∈ second.ids → Path.parent? child ≠ some id :=
        other.ne_parent_of_notMem unknown
      rw [Node.onlyOn, tree.mem_children_iff inFirst]
      tauto
    · have notFirst : child ∈ first.ids → Path.parent? child ≠ some id :=
        tree.ne_parent_of_notMem unknown
      rw [Node.onlyOn, other.mem_children_iff inSecond]
      tauto
  nodup_children := by
    intro id node found
    rcases find?_merge_cases merges found with
      ⟨one, two, inFirst, inSecond, rfl⟩ | ⟨one, inFirst, _, rfl⟩ | ⟨two, _, inSecond, rfl⟩
    · exact nodup_unionChildren (tree.nodup_children inFirst)
    · exact (tree.nodup_children inFirst :)
    · exact (other.nodup_children inSecond :)
  kind_eq := by
    intro id node found isParent
    rcases find?_merge_cases merges found with
      ⟨one, two, inFirst, inSecond, rfl⟩ | ⟨one, inFirst, _, rfl⟩ | ⟨two, _, inSecond, rfl⟩
    · have distinct := other.nodup_children inSecond
      rw [Node.merge, ne_eq, unionChildren_eq_nil_iff distinct, not_and_or] at isParent
      rw [Node.kind_merge_eq_dir_iff]
      rcases isParent with isRoot | inOne | inTwo
      · exact Or.inl (tree.kind_eq inFirst (Or.inl isRoot))
      · exact Or.inl (tree.kind_eq inFirst (Or.inr inOne))
      · exact Or.inr (other.kind_eq inSecond (Or.inr inTwo))
    · exact (tree.kind_eq inFirst isParent :)
    · exact (other.kind_eq inSecond isParent :)

end IsTree

/-- The indices of traces, and the comparisons of such indices again and
again. -/
inductive FromTraces : Index → Prop
  | ofEvents (events : List Event) : FromTraces (ofEvents events)
  | merge {first second merged : Index} (left : FromTraces first) (right : FromTraces second)
      (merges : first.merge second = .ok merged) : FromTraces merged

theorem FromTraces.isTree {index : Index} (traced : index.FromTraces) : index.IsTree := by
  induction traced with
  | ofEvents events => exact isTree_ofEvents events
  | merge _ _ merges left right => exact left.merge right merges

/-- No node has the empty text for an id. -/
theorem FromTraces.empty_notMem_ids {index : Index} (traced : index.FromTraces) :
    "" ∉ index.ids := by
  induction traced with
  | ofEvents events =>
      rw [ids_ofEvents, Trace.mem_mentioned_iff]
      rintro (isRoot | ⟨event, _, _, onLineage⟩)
      · exact absurd isRoot (by decide)
      · exact Path.empty_notMem_lineage (Path.normalize_ne_empty event.path) onLineage
  | merge _ _ merges left right =>
      rw [mem_ids_merge_iff merges]
      exact not_or.2 ⟨left, right⟩

namespace IsTree

variable {index : Index}

theorem nodeLink_iff (tree : index.IsTree) {parent child : String} :
    index.NodeLink parent child ↔ child ∈ index.ids ∧ Path.parent? child = some parent :=
  ⟨fun link => ⟨link.2, tree.parent?_of_childLink link.1⟩,
    fun link => ⟨tree.childLink_of_parent? link.1 link.2, link.1⟩⟩

theorem acyclic (tree : index.IsTree) : index.Acyclic :=
  acyclic_of_rank Path.height fun link => Path.height_parent_lt (tree.nodeLink_iff.1 link).2

/-- A node leads to the nodes that have it on their lineage. -/
theorem leads_iff (tree : index.IsTree) {id other : String} (known : other ∈ index.ids) :
    Relation.ReflTransGen index.NodeLink id other ↔ id ∈ Path.lineage other := by
  constructor
  · intro leads
    clear known
    rw [Path.mem_lineage_iff_reflTransGen]
    induction leads with
    | refl => exact .refl
    | tail _ link ih => exact .head (tree.nodeLink_iff.1 link).2 ih
  · intro above
    rw [Path.mem_lineage_iff_reflTransGen] at above
    induction above with
    | refl => exact .refl
    | @tail middle ancestor climbs found ih =>
        have onLineage := Path.mem_lineage_iff_reflTransGen.2 climbs
        exact .head (tree.nodeLink_iff.2 ⟨tree.mem_ids_of_mem_lineage known onLineage, found⟩) ih

theorem exists_root (tree : index.IsTree) : ∃ root, index.root? = some root :=
  exists_node_of_mem_ids (tree.rootId_eq ▸ tree.root_mem)

theorem root_leads (tree : index.IsTree) {id : String} (known : id ∈ index.ids) :
    Relation.ReflTransGen index.NodeLink index.rootId id :=
  (tree.leads_iff known).2 (tree.rootId_eq ▸ Path.root_mem_lineage id)

end IsTree

end Index

end ScanTree

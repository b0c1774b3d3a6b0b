import ScanTree.Proofs.Builder.Description
import ScanTree.Proofs.Index.Links
import Mathlib.Data.List.Nodup

/-!
# Indices that are trees

An index is a tree if the parent of each of its paths is one of its paths, and
the children of a path are just the paths of the index that have it as parent,
each once.  Every path of a tree is reached from the root in one way, which is
its lineage read from the root.  The index of a trace is a tree over the paths
that the trace mentions.
-/

namespace ScanTree

namespace Index

/-- A chain of child links leads from the root to a path. -/
structure LeadsTo (index : Index) (id : String) (chain : List String) : Prop where
  starts : chain.head? = some Path.root
  ends : chain.getLast? = some id
  links : chain.IsChain index.ChildLink

/-- The paths of an index form a tree. -/
structure IsTree (index : Index) : Prop where
  rootId_eq : index.rootId = Path.root
  root_mem : Path.root ∈ index.ids
  parent_mem : ∀ {id parent}, id ∈ index.ids → Path.parent? id = some parent →
    parent ∈ index.ids
  name_eq : ∀ {id node}, index.find? id = some node → node.name = Path.name id
  mem_children_iff : ∀ {id node child}, index.find? id = some node →
    (child ∈ node.children ↔ child ∈ index.ids ∧ Path.parent? child = some id)
  nodup_children : ∀ {id node}, index.find? id = some node → node.children.Nodup
  kind_eq : ∀ {id node}, index.find? id = some node →
    id = Path.root ∨ node.children ≠ [] → node.kind = .dir

namespace IsTree

variable {index : Index}

theorem parent?_of_childLink (tree : index.IsTree) {parent child : String}
    (link : index.ChildLink parent child) : Path.parent? child = some parent := by
  obtain ⟨node, found, member⟩ := link
  exact ((tree.mem_children_iff found).1 member).2

theorem childLink_of_parent? (tree : index.IsTree) {parent child : String}
    (known : child ∈ index.ids) (found : Path.parent? child = some parent) :
    index.ChildLink parent child := by
  obtain ⟨node, parentFound⟩ :=
    Option.isSome_iff_exists.1 (find?_isSome_iff.2 (tree.parent_mem known found))
  exact ⟨node, parentFound, (tree.mem_children_iff parentFound).2 ⟨known, found⟩⟩

theorem mem_ids_of_mem_lineage (tree : index.IsTree) {id other : String}
    (known : id ∈ index.ids) (above : other ∈ Path.lineage id) : other ∈ index.ids := by
  rw [Path.mem_lineage_iff_reflTransGen] at above
  induction above with
  | refl => exact known
  | tail _ found ih => exact tree.parent_mem ih found

/-- The root is nobody's child. -/
theorem root_notMem_children (tree : index.IsTree) {id : String} {node : Node}
    (found : index.find? id = some node) : Path.root ∉ node.children := by
  intro member
  exact Path.ne_root_of_parent? ((tree.mem_children_iff found).1 member).2 rfl

/-- Every other path is a child of its parent, once, and of no other path. -/
theorem count_children (tree : index.IsTree) {id : String} (known : id ∈ index.ids)
    (notRoot : id ≠ Path.root) :
    ∃ parent node, Path.parent? id = some parent ∧ index.find? parent = some node ∧
      node.children.count id = 1 ∧
        ∀ other otherNode, index.find? other = some otherNode → id ∈ otherNode.children →
          other = parent := by
  obtain ⟨parent, found⟩ := Path.exists_parent_of_ne_root notRoot
  obtain ⟨node, parentFound, member⟩ := tree.childLink_of_parent? known found
  refine ⟨parent, node, found, parentFound, ?_, ?_⟩
  · exact List.count_eq_one_of_mem (tree.nodup_children parentFound) member
  · intro other otherNode otherFound otherMember
    have alsoParent := tree.parent?_of_childLink ⟨otherNode, otherFound, otherMember⟩
    exact Option.some.inj (alsoParent.symm.trans found)

theorem leadsTo_lineage (tree : index.IsTree) {id : String} (known : id ∈ index.ids) :
    index.LeadsTo id (Path.lineage id).reverse where
  starts := by rw [List.head?_reverse, Path.getLast?_lineage]
  ends := by rw [List.getLast?_reverse, Path.head?_lineage]
  links := by
    rw [List.isChain_reverse]
    induction id using Path.climb with
    | atRoot => simp
    | below id parent found ih =>
        rw [Path.lineage_eq_cons found, List.isChain_cons]
        refine ⟨?_, ih (tree.parent_mem known found)⟩
        intro next isNext
        obtain rfl : parent = next := by simpa using isNext
        exact tree.childLink_of_parent? known found

/-- Every path is reached from the root by just one chain of child links. -/
theorem existsUnique_leadsTo (tree : index.IsTree) {id : String} (known : id ∈ index.ids) :
    ∃! chain, index.LeadsTo id chain := by
  refine ⟨_, tree.leadsTo_lineage known, fun chain leads => ?_⟩
  rw [← List.reverse_eq_iff]
  apply Path.eq_lineage_of_isChain
  · rw [List.head?_reverse, leads.ends]
  · rw [List.getLast?_reverse, leads.starts]
  · exact List.isChain_reverse.2 (leads.links.imp fun _ _ => tree.parent?_of_childLink)

end IsTree

theorem isTree_ofEvents (events : List Event) : (ofEvents events).IsTree where
  rootId_eq := rfl
  root_mem := by
    rw [ids_ofEvents]
    exact Trace.root_mem_mentioned events
  parent_mem := by
    intro id parent known found
    rw [ids_ofEvents] at known ⊢
    exact Trace.parent_mem_mentioned known found
  name_eq := by
    intro id node found
    rw [eq_nodeAt_of_find? found]
    rfl
  mem_children_iff := by
    intro id node child found
    rw [eq_nodeAt_of_find? found, ids_ofEvents]
    exact Trace.mem_childrenAt_iff
  nodup_children := by
    intro id node found
    rw [eq_nodeAt_of_find? found]
    exact (Trace.nodup_mentioned events).filter _
  kind_eq := by
    intro id node found isParent
    rw [eq_nodeAt_of_find? found] at isParent ⊢
    exact if_pos isParent

/-- The index of a trace is a tree over the paths that the trace mentions: its
paths are the root and the lineages of the paths of the events; its nodes carry
their own ids and names; every child is a path of the index; every path but the
root is a child of its parent, once, and of no other path, while the root is
nobody's child; every path is reached from the root by one chain of child
links; and the root and every path with children is a directory. -/
theorem ofEvents_tree_over_mentioned (events : List Event) :
    (ofEvents events).rootId = Path.root ∧
    (∀ id, id ∈ (ofEvents events).ids ↔
      id = Path.root ∨ ∃ event ∈ events, event.action ≠ .summarized ∧
        id ∈ Path.lineage (Path.normalize event.path)) ∧
    (∀ id node, (ofEvents events).find? id = some node →
      node.id = id ∧ node.name = Path.name id ∧
        (∀ child ∈ node.children, child ∈ (ofEvents events).ids) ∧
        Path.root ∉ node.children ∧
        (id = Path.root ∨ node.children ≠ [] → node.kind = .dir)) ∧
    (∀ id ∈ (ofEvents events).ids, id ≠ Path.root →
      ∃ parent node, Path.parent? id = some parent ∧
        (ofEvents events).find? parent = some node ∧ node.children.count id = 1 ∧
          ∀ other otherNode, (ofEvents events).find? other = some otherNode →
            id ∈ otherNode.children → other = parent) ∧
    (∀ id ∈ (ofEvents events).ids, ∃! chain, (ofEvents events).LeadsTo id chain) := by
  have tree := isTree_ofEvents events
  refine ⟨tree.rootId_eq, ?_, ?_, ?_, ?_⟩
  · intro id
    rw [ids_ofEvents]
    exact Trace.mem_mentioned_iff
  · intro id node found
    exact ⟨id_of_find? found, tree.name_eq found,
      fun child member => ((tree.mem_children_iff found).1 member).1,
      tree.root_notMem_children found, tree.kind_eq found⟩
  · intro id known notRoot
    exact tree.count_children known notRoot
  · intro id known
    exact tree.existsUnique_leadsTo known

end Index

end ScanTree

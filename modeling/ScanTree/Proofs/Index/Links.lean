import ScanTree.Index
import Mathlib.Data.Option.Defs
import Mathlib.Logic.Relation

/-!
# Links between the nodes of an index

Children are given by id, and nothing forces them to be nodes.  Where they are,
they link nodes with nodes, and what a node leads to is met by following the
links.  An index is acyclic if no node leads back to itself.
-/

namespace ScanTree

namespace Index

/-- One path is among the children of another one. -/
def ChildLink (index : Index) (parent child : String) : Prop :=
  ∃ node, index.find? parent = some node ∧ child ∈ node.children

/-- One node is among the children of another one. -/
def NodeLink (index : Index) (parent child : String) : Prop :=
  index.ChildLink parent child ∧ child ∈ index.ids

/-- No node leads back to itself. -/
def Acyclic (index : Index) : Prop :=
  ∀ id, ¬ Relation.TransGen index.NodeLink id id

variable {index : Index}

theorem exists_node_of_mem_ids {id : String} (known : id ∈ index.ids) :
    ∃ node, index.find? id = some node :=
  Option.isSome_iff_exists.1 (find?_isSome_iff.2 known)

/-- Indices whose nodes are related have the same ids. -/
theorem mem_ids_iff_of_rel {first second : Index} {related : Node → Node → Prop} {id : String}
    (same : Option.Rel related (first.find? id) (second.find? id)) :
    id ∈ first.ids ↔ id ∈ second.ids := by
  rw [← find?_isSome_iff, ← find?_isSome_iff]
  generalize first.find? id = node, second.find? id = other at same
  cases same <;> simp

theorem nodeLink_of_find? {id child : String} {node : Node} (found : index.find? id = some node)
    (member : child ∈ node.children) (known : child ∈ index.ids) : index.NodeLink id child :=
  ⟨⟨node, found, member⟩, known⟩

theorem mem_children_of_nodeLink {id child : String} {node : Node}
    (link : index.NodeLink id child) (found : index.find? id = some node) :
    child ∈ node.children := by
  obtain ⟨⟨other, otherFound, member⟩, _⟩ := link
  obtain rfl := Option.some.inj (found.symm.trans otherFound)
  exact member

/-- The order of the nodes does not matter to what is found. -/
theorem find?_eq_of_perm {first second : Index}
    (same : first.nodes.entries.Perm second.nodes.entries) (id : String) :
    first.find? id = second.find? id := by
  cases found : second.find? id with
  | some node =>
      have member := same.mem_iff.2 (Table.mem_of_find? found)
      rw [← id_of_find? found]
      exact Table.find?_key_of_mem member
  | none =>
      have unknown := Table.find?_eq_none_iff.1 found
      exact Table.find?_eq_none_iff.2 fun known => unknown ((same.map _).mem_iff.1 known)

theorem nodeLink_congr {first second : Index} (same : ∀ id, first.find? id = second.find? id) :
    first.NodeLink = second.NodeLink := by
  funext parent child
  simp only [NodeLink, ChildLink, same, ← find?_isSome_iff]

/-- An index whose links all lead upwards in some ranking is acyclic. -/
theorem acyclic_of_rank (rank : String → Nat)
    (ascends : ∀ {parent child}, index.NodeLink parent child → rank parent < rank child) :
    index.Acyclic := by
  have ascendsFurther {first last : String}
      (leads : Relation.TransGen index.NodeLink first last) : rank first < rank last := by
    induction leads with
    | single link => exact ascends link
    | tail _ link ih => exact Nat.lt_trans ih (ascends link)
  exact fun id leads => Nat.lt_irrefl _ (ascendsFurther leads)

end Index

end ScanTree

import ScanTree.Stats
import ScanTree.Proofs.Builder.Description
import ScanTree.Proofs.Merge.Union
import ScanTree.Proofs.Subtree.Fold

/-!
# Comparing two traces and reading them one after the other

The comparison of the indices of two traces has the same paths in the same
order as the index of the first trace followed by the second one, with the same
names and children, and calls the same paths directories.  So both count the
same nodes, files and directories in every subtree.
-/

namespace ScanTree

namespace Trace

/-- What makes the node of a path a directory. -/
def IsDirectoryAt (events : List Event) (id : String) : Prop :=
  id = Path.root ∨ childrenAt events id ≠ [] ∨ (eventsAt events id).any Event.isDirectory

theorem kind_nodeAt_eq_dir_iff {events : List Event} {id : String} :
    (nodeAt events id).kind = .dir ↔ IsDirectoryAt events id := by
  rw [kind_nodeAt, IsDirectoryAt]
  split
  · rename_i isParent
    simpa using isParent.imp_right Or.inl
  · rename_i isLeaf
    rw [not_or] at isLeaf
    simp only [kindOf_eq_dir_iff, isLeaf.1, isLeaf.2, false_or]

theorem nodup_childrenAt (events : List Event) (id : String) : (childrenAt events id).Nodup :=
  (nodup_mentioned events).filter _

/-- The children of a path in two traces are those in the first one and what is
new in the second one. -/
theorem childrenAt_append (first second : List Event) (id : String) :
    childrenAt (first ++ second) id =
      unionChildren (childrenAt first id) (childrenAt second id) := by
  rw [unionChildren_eq (nodup_childrenAt second id)]
  simp only [childrenAt, mentioned_append, List.filter_append, List.filter_filter]
  congr 1
  apply List.filter_congr
  intro child _
  by_cases isChild : Path.parent? child = some id <;> simp [isChild]

/-- A path that a trace does not mention has no children in it. -/
theorem childrenAt_eq_nil_of_notMem {events : List Event} {id : String}
    (unknown : id ∉ mentioned events) : childrenAt events id = [] := by
  refine List.eq_nil_iff_forall_not_mem.2 fun child member => unknown ?_
  obtain ⟨known, isChild⟩ := mem_childrenAt_iff.1 member
  exact parent_mem_mentioned known isChild

theorem not_isDirectoryAt_of_notMem {events : List Event} {id : String}
    (unknown : id ∉ mentioned events) : ¬ IsDirectoryAt events id := by
  have notRoot : id ≠ Path.root := fun isRoot => unknown (isRoot ▸ root_mem_mentioned events)
  simp [IsDirectoryAt, notRoot, childrenAt_eq_nil_of_notMem unknown,
    eventsAt_eq_nil_of_notMem unknown]

/-- A path is a directory in two traces if it is one in either of them. -/
theorem isDirectoryAt_append {first second : List Event} {id : String} :
    IsDirectoryAt (first ++ second) id ↔
      IsDirectoryAt first id ∨ IsDirectoryAt second id := by
  have hasChild : childrenAt (first ++ second) id ≠ [] ↔
      childrenAt first id ≠ [] ∨ childrenAt second id ≠ [] := by
    rw [childrenAt_append, ne_eq, unionChildren_eq_nil_iff (nodup_childrenAt second id),
      not_and_or]
  rw [IsDirectoryAt, IsDirectoryAt, IsDirectoryAt, hasChild, eventsAt_append, List.any_append,
    Bool.or_eq_true]
  tauto

end Trace

namespace Node

/-- Two nodes that agree in everything that the shape of a tree is made of. -/
structure SameShape (first second : Node) : Prop where
  name_eq : first.name = second.name
  children_eq : first.children = second.children
  kind_iff : first.kind = .dir ↔ second.kind = .dir

theorem SameShape.isDir_eq {first second : Node} (same : first.SameShape second) :
    first.isDir = second.isDir := by
  simp only [isDir, same.children_eq, same.kind_iff]

end Node

namespace Index

/-- The node of a path in the comparison of two traces has the shape of its node
in the index of both. -/
theorem find?_merge_ofEvents {first second : List Event} {merged : Index}
    (merges : (ofEvents first).merge (ofEvents second) = .ok merged) (id : String) :
    Option.Rel Node.SameShape (merged.find? id) ((ofEvents (first ++ second)).find? id) := by
  have known : id ∈ Trace.mentioned (first ++ second) ↔
      id ∈ Trace.mentioned first ∨ id ∈ Trace.mentioned second := by
    rw [Trace.mentioned_append, List.mem_append, List.mem_filter, decide_eq_true_eq]
    tauto
  have children := Trace.childrenAt_append first second id
  have kind := @Trace.isDirectoryAt_append first second id
  simp only [← Trace.kind_nodeAt_eq_dir_iff] at kind
  rw [find?_of_merge merges, find?_ofEvents, find?_ofEvents, find?_ofEvents]
  by_cases inFirst : id ∈ Trace.mentioned first <;>
    by_cases inSecond : id ∈ Trace.mentioned second
  · rw [if_pos inFirst, if_pos inSecond, if_pos (known.2 (Or.inl inFirst))]
    refine .some ⟨rfl, children.symm, ?_⟩
    rw [Node.kind_merge_eq_dir_iff, kind]
  · rw [if_pos inFirst, if_neg inSecond, if_pos (known.2 (Or.inl inFirst))]
    rw [Trace.childrenAt_eq_nil_of_notMem inSecond] at children
    refine .some ⟨rfl, children.symm, ?_⟩
    have notSecond := Trace.not_isDirectoryAt_of_notMem inSecond
    rw [← Trace.kind_nodeAt_eq_dir_iff] at notSecond
    rw [kind, Node.onlyOn]
    simp only [notSecond, or_false]
  · rw [if_neg inFirst, if_pos inSecond, if_pos (known.2 (Or.inr inSecond))]
    rw [Trace.childrenAt_eq_nil_of_notMem inFirst,
      unionChildren_eq (Trace.nodup_childrenAt second id)] at children
    refine .some ⟨rfl, by simpa [Node.onlyOn] using children.symm, ?_⟩
    have notFirst := Trace.not_isDirectoryAt_of_notMem inFirst
    rw [← Trace.kind_nodeAt_eq_dir_iff] at notFirst
    rw [kind, Node.onlyOn]
    simp only [notFirst, false_or]
  · rw [if_neg inFirst, if_neg inSecond, if_neg (by simp [known, inFirst, inSecond])]
    exact .none

end Index

/-- The same numbers of nodes, files and directories. -/
structure SubtreeStats.SameSize (first second : SubtreeStats) : Prop where
  totalNodes_eq : first.totalNodes = second.totalNodes
  totalFiles_eq : first.totalFiles = second.totalFiles
  totalDirs_eq : first.totalDirs = second.totalDirs

namespace SubtreeStats.SameSize

theorem ofNode {first second : Node} (same : first.SameShape second) :
    (SubtreeStats.ofNode first).SameSize (SubtreeStats.ofNode second) where
  totalNodes_eq := rfl
  totalFiles_eq := by simp only [SubtreeStats.ofNode, same.isDir_eq]
  totalDirs_eq := by simp only [SubtreeStats.ofNode, same.isDir_eq]

theorem add {first second third fourth : SubtreeStats} (left : first.SameSize second)
    (right : third.SameSize fourth) : (first + third).SameSize (second + fourth) where
  totalNodes_eq := congrArg₂ (· + ·) left.totalNodes_eq right.totalNodes_eq
  totalFiles_eq := congrArg₂ (· + ·) left.totalFiles_eq right.totalFiles_eq
  totalDirs_eq := congrArg₂ (· + ·) left.totalDirs_eq right.totalDirs_eq

end SubtreeStats.SameSize

namespace Index

/-- Indices with the same paths and nodes of the same shape count the same
sizes of all subtrees. -/
theorem stats_sameSize {first second : Index} (ids_eq : first.ids = second.ids)
    (nodes : ∀ id, Option.Rel Node.SameShape (first.find? id) (second.find? id)) {id : String}
    (known : id ∈ first.ids) :
    ∃ stats other, first.stats.lookup id = some stats ∧ second.stats.lookup id = some other ∧
      stats.SameSize other := by
  have shape : first.SameShape second SubtreeStats.ofNode SubtreeStats.ofNode
      SubtreeStats.SameSize := fun id =>
    rel_imp (fun same => ⟨same.children_eq, .ofNode same⟩) (nodes id)
  have tables : FoldedRelated SubtreeStats.SameSize first.stats second.stats := by
    rw [stats, stats, ← ids_eq]
    exact foldFrom_related shape SubtreeStats.SameSize.add ⟨rfl, rfl, rfl⟩ first.ids
  obtain ⟨stats, found⟩ := Option.isSome_iff_exists.1
    (first.isSome_lookup_foldFrom SubtreeStats.ofNode (· + ·) 0 known known)
  have same := lookup_of_foldedRelated tables id
  rw [Index.stats, found] at same
  obtain ⟨other, otherFound, sameSize⟩ := exists_of_rel_some same
  exact ⟨stats, other, found, otherFound, sameSize⟩

/-- Comparing the indices of two traces succeeds, and the comparison has the
paths of the index of both traces in the same order, each with the same name,
the same children in the same order and the same answer to whether it is a
directory; so the statistics count the same nodes, files and directories below
every path. -/
theorem merge_ofEvents_like_append (first second : List Event) :
    ∃ merged, (ofEvents first).merge (ofEvents second) = .ok merged ∧
      merged.ids = (ofEvents (first ++ second)).ids ∧
      (∀ id ∈ merged.ids, ∃ node whole, merged.find? id = some node ∧
        (ofEvents (first ++ second)).find? id = some whole ∧
          node.name = whole.name ∧ node.children = whole.children ∧
            (node.kind = .dir ↔ whole.kind = .dir)) ∧
      ∀ id ∈ merged.ids, ∃ stats whole, merged.stats.lookup id = some stats ∧
        (ofEvents (first ++ second)).stats.lookup id = some whole ∧
          stats.totalNodes = whole.totalNodes ∧ stats.totalFiles = whole.totalFiles ∧
            stats.totalDirs = whole.totalDirs := by
  obtain ⟨merged, merges⟩ : ∃ merged, (ofEvents first).merge (ofEvents second) = .ok merged :=
    ⟨_, merge_eq_ok_iff.2 ⟨rfl, rfl⟩⟩
  have nodes := find?_merge_ofEvents merges
  have ids_eq : merged.ids = (ofEvents (first ++ second)).ids := by
    rw [ids_of_merge merges, ids_ofEvents, ids_ofEvents, ids_ofEvents, Trace.mentioned_append]
  refine ⟨merged, merges, ids_eq, ?_, ?_⟩
  · intro id known
    obtain ⟨node, found⟩ := Option.isSome_iff_exists.1 (find?_isSome_iff.2 known)
    obtain ⟨whole, wholeFound, shape⟩ := exists_of_rel_some (found ▸ nodes id)
    exact ⟨node, whole, found, wholeFound, shape.name_eq, shape.children_eq, shape.kind_iff⟩
  · intro id known
    obtain ⟨stats, whole, found, wholeFound, size⟩ := stats_sameSize ids_eq nodes known
    exact ⟨stats, whole, found, wholeFound, size.totalNodes_eq, size.totalFiles_eq,
      size.totalDirs_eq⟩

end Index

end ScanTree

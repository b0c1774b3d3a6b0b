import ScanTree.Stats
import ScanTree.Proofs.Index.Links
import ScanTree.Proofs.Merge.Union
import ScanTree.Proofs.Subtree.Fold

/-!
# Comparing comparisons

A comparison is an index and can be compared again, and then its second place is
overwritten.  What stands in the first place is put together path by path: where
one index has the path, its node is taken over, and where both have it, the nodes
are laid over each other, which is associative.  So the first place, the order of
the paths and the statistics do not depend on which two of three indices are
compared first.
-/

namespace ScanTree

namespace Node

/-- What stands in the first place of a node: all but the second decision and the
origin. -/
def primary (node : Node) : Node :=
  { node with second := {}, origin := none }

/-- The first place of a node that two indices have. -/
def overlay (first second : Node) : Node :=
  (first.merge second).primary

theorem primary_eq_iff {node other : Node} :
    node.primary = other.primary ↔
      node.id = other.id ∧ node.name = other.name ∧ node.kind = other.kind ∧
        node.decision = other.decision ∧ node.lastEvent = other.lastEvent ∧
          node.children = other.children := by
  simp only [primary, Node.mk.injEq, and_true]

theorem overlay_assoc (first second third : Node) :
    (first.overlay second).overlay third = first.overlay (second.overlay third) := by
  simp only [overlay, primary, merge, unionChildren_assoc, Node.mk.injEq, true_and, and_true]
  -- A directory in any of the three is one in the end, else the first kind stays.
  by_cases isDir : third.kind = .dir
  · simp only [isDir, if_true]
  · simp only [isDir, if_false]

instance : Std.Associative overlay :=
  ⟨overlay_assoc⟩

end Node

theorem Counts.add_assoc (first second third : Counts) :
    first + second + third = first + (second + third) :=
  ext_get fun category => by simp only [get_add, Int.add_assoc]

namespace Index

variable {first second merged : Index}

theorem ids_of_merge_eq_union (merges : first.merge second = .ok merged) :
    merged.ids = unionChildren first.ids second.ids := by
  rw [ids_of_merge merges, unionChildren_eq second.ids_nodup]

/-- The first place of a path in a comparison. -/
theorem primary_of_merge (merges : first.merge second = .ok merged) (id : String) :
    (merged.find? id).map Node.primary =
      ((first.find? id).map Node.primary).merge Node.overlay
        ((second.find? id).map Node.primary) := by
  rw [find?_of_merge merges]
  cases first.find? id <;> cases second.find? id <;> rfl

/-- Indices whose nodes have the same first places have the same statistics. -/
theorem stats_eq_of_primary (sameIds : first.ids = second.ids)
    (nodes : ∀ id, Option.Rel (fun node other => node.primary = other.primary)
      (first.find? id) (second.find? id)) : first.stats = second.stats := by
  rw [stats, stats, sameIds]
  apply foldFrom_congr
  intro id
  exact rel_imp (fun {node other} (same : node.primary = other.primary) =>
    ⟨(congrArg Node.children same :), (congrArg SubtreeStats.ofNode same :)⟩) (nodes id)

/-- Of three indices with the same root, it does not matter for the first place which two
are compared first.  Both ways, the comparison has the same paths in the same order, the
same counts and the same statistics, and each path has the same name, kind, decision, last
event and children. -/
theorem merge_nested_either_way {third : Index} (sameRoot : first.rootId = second.rootId)
    (thirdRoot : second.rootId = third.rootId) :
    ∃ firstTwo lastTwo left right,
      first.merge second = .ok firstTwo ∧ firstTwo.merge third = .ok left ∧
      second.merge third = .ok lastTwo ∧ first.merge lastTwo = .ok right ∧
      left.ids = right.ids ∧ left.counts = right.counts ∧
      (∀ id ∈ left.ids, ∃ node other, left.find? id = some node ∧ right.find? id = some other ∧
        node.name = other.name ∧ node.kind = other.kind ∧
        node.status = other.status ∧ node.decision.reason = other.decision.reason ∧
        node.decision.pattern = other.decision.pattern ∧ node.lastEvent = other.lastEvent ∧
        node.children = other.children) ∧
      left.stats = right.stats := by
  obtain ⟨firstTwo, mergesFirst⟩ : ∃ firstTwo, first.merge second = .ok firstTwo :=
    ⟨_, merge_eq_ok_iff.2 ⟨sameRoot, rfl⟩⟩
  obtain ⟨lastTwo, mergesLast⟩ : ∃ lastTwo, second.merge third = .ok lastTwo :=
    ⟨_, merge_eq_ok_iff.2 ⟨thirdRoot, rfl⟩⟩
  have firstEq := (merge_eq_ok_iff.1 mergesFirst).2
  have lastEq := (merge_eq_ok_iff.1 mergesLast).2
  obtain ⟨left, mergesLeft⟩ : ∃ left, firstTwo.merge third = .ok left :=
    ⟨_, merge_eq_ok_iff.2 ⟨by rw [firstEq, sameRoot, thirdRoot], rfl⟩⟩
  obtain ⟨right, mergesRight⟩ : ∃ right, first.merge lastTwo = .ok right :=
    ⟨_, merge_eq_ok_iff.2 ⟨by rw [lastEq, sameRoot], rfl⟩⟩
  have ids : left.ids = right.ids := by
    rw [ids_of_merge_eq_union mergesLeft, ids_of_merge_eq_union mergesFirst,
      ids_of_merge_eq_union mergesRight, ids_of_merge_eq_union mergesLast, unionChildren_assoc]
  have counts : left.counts = right.counts := by
    rw [(merge_eq_ok_iff.1 mergesLeft).2, (merge_eq_ok_iff.1 mergesRight).2, firstEq, lastEq]
    exact Counts.add_assoc first.counts second.counts third.counts
  have nodes (id : String) : Option.Rel (fun node other => node.primary = other.primary)
      (left.find? id) (right.find? id) := by
    apply rel_of_map_eq
    rw [primary_of_merge mergesLeft, primary_of_merge mergesFirst, primary_of_merge mergesRight,
      primary_of_merge mergesLast]
    exact Std.Associative.assoc _ _ _
  refine ⟨firstTwo, lastTwo, left, right, mergesFirst, mergesLeft, mergesLast, mergesRight, ids,
    counts, ?_, stats_eq_of_primary ids nodes⟩
  intro id known
  obtain ⟨node, found⟩ := exists_node_of_mem_ids known
  obtain ⟨other, otherFound, same⟩ := exists_of_rel_some (found ▸ nodes id)
  obtain ⟨_, name, kind, decision, lastEvent, children⟩ := Node.primary_eq_iff.1 same
  exact ⟨node, other, found, otherFound, name, kind, congrArg Decision.status decision,
    congrArg Decision.reason decision, congrArg Decision.pattern decision, lastEvent, children⟩

/-- A path that is a file, a link and a directory in three indices, and children that these
list in different orders. -/
theorem merge_nested_of_three_kinds :
    let index (nodes : List Node) (counts : Counts) : Index :=
      { rootId := ".", nodes := Table.ofList nodes, counts }
    let first := index
      [{ id := ".", name := ".", kind := .dir, children := ["b", "a"] },
        { id := "b", name := "b", kind := .file, decision := ⟨.ignored, some "rule", none⟩ },
        { id := "a", name := "a", kind := .file, decision := ⟨.included, none, none⟩ }]
      ⟨1, 1, 0⟩
    let second := index
      [{ id := ".", name := ".", kind := .dir, children := ["c", "a"] },
        { id := "c", name := "c", kind := .symlink, decision := ⟨.included, none, none⟩ },
        { id := "a", name := "a", kind := .symlink, decision := ⟨.ignored, some "error", none⟩ }]
      ⟨1, 1, 0⟩
    let third := index
      [{ id := ".", name := ".", kind := .dir, children := ["d", "c", "b"] },
        { id := "b", name := "b", kind := .dir, children := ["b/x"] },
        { id := "b/x", name := "x", kind := .file, decision := ⟨.included, none, none⟩ },
        { id := "d", name := "d", kind := .dir, decision := ⟨.skipped, none, some "d"⟩ },
        { id := "c", name := "c", kind := .file }]
      ⟨1, 0, 1⟩
    first.rootId = second.rootId ∧ second.rootId = third.rootId ∧
      ∃ firstTwo lastTwo left right,
        first.merge second = .ok firstTwo ∧ firstTwo.merge third = .ok left ∧
        second.merge third = .ok lastTwo ∧ first.merge lastTwo = .ok right ∧
        left.ids = right.ids ∧ right.ids = [".", "b", "a", "c", "b/x", "d"] ∧
        left.counts = right.counts ∧ right.counts = ⟨3, 2, 1⟩ ∧
        (∃ node other, left.find? "b" = some node ∧ right.find? "b" = some other ∧
          node.kind = other.kind ∧ other.kind = .dir ∧
          node.children = other.children ∧ other.children = ["b/x"]) ∧
        left.stats = right.stats := by
  intro index first second third
  obtain ⟨firstTwo, lastTwo, left, right, mergesFirst, mergesLeft, mergesLast, mergesRight, ids,
    counts, nodes, stats⟩ := merge_nested_either_way (show first.rootId = second.rootId from rfl)
      (show second.rootId = third.rootId from rfl)
  obtain rfl := (merge_eq_ok_iff.1 mergesLast).2
  obtain rfl := (merge_eq_ok_iff.1 mergesRight).2
  let lastTwo : Index :=
    ⟨second.rootId, mergedNodes second third, second.counts + third.counts, true⟩
  let right : Index :=
    ⟨first.rootId, mergedNodes first lastTwo, first.counts + lastTwo.counts, true⟩
  have rightIds : right.ids = [".", "b", "a", "c", "b/x", "d"] := by decide +kernel
  obtain ⟨node, other, found, otherFound, _, kind, _, _, _, _, children⟩ :=
    nodes "b" (by rw [ids, rightIds]; decide)
  have rightB : (right.find? "b").map (fun node => (node.kind, node.children)) =
      some (.dir, ["b/x"]) := by
    decide +kernel
  rw [otherFound, Option.map_some, Option.some_inj, Prod.mk.injEq] at rightB
  exact ⟨rfl, rfl, firstTwo, lastTwo, left, right, mergesFirst, mergesLeft, mergesLast,
    mergesRight, ids, rightIds, counts, by decide +kernel,
    ⟨node, other, found, otherFound, kind, rightB.1, children, rightB.2⟩, stats⟩

end Index

end ScanTree

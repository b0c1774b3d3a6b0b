import ScanTree.Proofs.Index.Comparison
import ScanTree.Proofs.Merge.Concatenation
import ScanTree.Proofs.Subtree.Statistics

/-!
# Statistics of trees

In a tree the nodes below a path are those below its children, each of them
below one child only.  So the sum that makes up the statistics of a path counts
every node at the path and below it once.  Traces and their comparisons call
every skipped path a directory, so no more directories are skipped than there
are.
-/

namespace ScanTree

/-- Statistics that count the nodes of a list. -/
structure SubtreeStats.CountsNodes (stats : SubtreeStats) (nodes : List Node) : Prop where
  totalNodes_eq : stats.totalNodes = nodes.length
  totalFiles_eq : stats.totalFiles = nodes.countP (!·.isDir)
  totalDirs_eq : stats.totalDirs = nodes.countP (·.isDir)
  ignored_eq : stats.ignored = nodes.countP (·.status = .ignored)
  skipped_eq : stats.skipped = nodes.countP (·.status = .skipped)

namespace SubtreeStats

theorem CountsNodes.cons {stats : SubtreeStats} {nodes : List Node}
    (counts : stats.CountsNodes nodes) (node : Node) :
    (ofNode node + stats).CountsNodes (node :: nodes) := by
  obtain ⟨totalNodes, totalFiles, totalDirs, ignored, skipped⟩ := counts
  constructor
  · simp only [totalNodes_add, ofNode, totalNodes, List.length_cons]
    omega
  · simp only [totalFiles_add, ofNode, totalFiles, List.countP_cons]
    cases node.isDir <;> simp [add_comm]
  · simp only [totalDirs_add, ofNode, totalDirs, List.countP_cons]
    cases node.isDir <;> simp [add_comm]
  · simp only [ignored_add, ofNode, ignored, List.countP_cons]
    by_cases isIgnored : node.status = .ignored <;> simp [isIgnored, add_comm]
  · simp only [skipped_add, ofNode, skipped, List.countP_cons]
    by_cases isSkipped : node.status = .skipped <;> simp [isSkipped, add_comm]

theorem countsNodes_sum (nodes : List Node) : (nodes.map ofNode).sum.CountsNodes nodes := by
  induction nodes with
  | nil => constructor <;> rfl
  | cons node rest ih =>
      rw [List.map_cons, List.sum_cons]
      exact ih.cons node

end SubtreeStats

namespace Index

variable {index : Index}

/-- The nodes at a path and below it. -/
def below (index : Index) (id : String) : List Node :=
  index.nodes.entries.filter fun node => id ∈ Path.lineage node.id

theorem mem_below_iff {id : String} {node : Node} :
    node ∈ index.below id ↔ index.find? node.id = some node ∧ id ∈ Path.lineage node.id := by
  rw [below, List.mem_filter, decide_eq_true_eq]
  refine and_congr_left fun _ => ⟨Table.find?_key_of_mem, Table.mem_of_find?⟩

theorem nodup_ids_below (index : Index) (id : String) : ((index.below id).map (·.id)).Nodup :=
  index.ids_nodup.sublist (List.filter_sublist.map _)

namespace IsTree

/-- The nodes below different children of one path are different. -/
theorem disjoint_below (tree : index.IsTree) {id : String} {node : Node}
    (found : index.find? id = some node) {first second : String}
    (firstMember : first ∈ node.children) (secondMember : second ∈ node.children)
    (different : first ≠ second) : List.Disjoint (index.below first) (index.below second) := by
  intro lower belowFirst belowSecond
  exact different <| Path.eq_of_mem_lineage_of_mem_lineage
    ((tree.mem_children_iff found).1 firstMember).2
    ((tree.mem_children_iff found).1 secondMember).2
    (mem_below_iff.1 belowFirst).2 (mem_below_iff.1 belowSecond).2

/-- At a path and below it are its node and the nodes below its children. -/
theorem below_perm (tree : index.IsTree) {id : String} {node : Node}
    (found : index.find? id = some node) :
    (index.below id).Perm (node :: node.children.flatMap index.below) := by
  obtain rfl := id_of_find? found
  apply (List.perm_ext_iff_of_nodup (index.nodup_ids_below node.id).of_map ?_).2
  · intro lower
    rw [List.mem_cons, List.mem_flatMap, mem_below_iff]
    constructor
    · rintro ⟨lowerFound, above⟩
      rcases ((tree.leads_iff (mem_ids_of_find? lowerFound)).2 above).cases_head with
        same | ⟨child, link, further⟩
      · rw [← same, found] at lowerFound
        exact Or.inl (Option.some.inj lowerFound).symm
      · have onLineage := (tree.leads_iff (mem_ids_of_find? lowerFound)).1 further
        exact Or.inr ⟨child, mem_children_of_nodeLink link found,
          mem_below_iff.2 ⟨lowerFound, onLineage⟩⟩
    · rintro (rfl | ⟨child, member, isBelow⟩)
      · exact ⟨found, Path.self_mem_lineage _⟩
      · obtain ⟨lowerFound, onLineage⟩ := mem_below_iff.1 isBelow
        have parent := ((tree.mem_children_iff found).1 member).2
        exact ⟨lowerFound, Path.parent_mem_lineage onLineage parent⟩
  · rw [List.nodup_cons, List.nodup_flatMap]
    refine ⟨fun member => ?_, fun child _ => (index.nodup_ids_below child).of_map, ?_⟩
    · obtain ⟨child, isChild, isBelow⟩ := List.mem_flatMap.1 member
      have parent := ((tree.mem_children_iff found).1 isChild).2
      exact Path.self_notMem_lineage_parent parent (mem_below_iff.1 isBelow).2
    · exact (tree.nodup_children found).imp_of_mem fun first second different =>
        tree.disjoint_below found first second different

theorem below_rootId (tree : index.IsTree) : index.below index.rootId = index.nodes.entries := by
  rw [below, tree.rootId_eq, List.filter_eq_self]
  exact fun node _ => decide_eq_true (Path.root_mem_lineage node.id)

theorem isDir_iff (tree : index.IsTree) {id : String} {node : Node}
    (found : index.find? id = some node) : node.isDir = true ↔ node.kind = .dir := by
  have ofChildren : node.children ≠ [] → node.kind = .dir :=
    fun isParent => tree.kind_eq found (Or.inr isParent)
  simp only [Node.isDir, Bool.or_eq_true, decide_eq_true_eq, Bool.not_eq_true',
    List.isEmpty_eq_false_iff]
  tauto

end IsTree

/-- What a solved table has for a node of a tree is the sum over the nodes at it and below
it. -/
theorem Solved.lookup_eq_sum (tree : index.IsTree) {folded : Folded SubtreeStats}
    (solved : index.Solved SubtreeStats.ofNode (· + ·) folded) {id : String}
    (complete : id ∈ completed folded) :
    folded.lookup id = some ((index.below id).map SubtreeStats.ofNode).sum := by
  induction solved generalizing id with
  | nil => simp at complete
  | @concat folded last node before found new children ih =>
      rw [completed_concat, List.mem_append, List.mem_singleton] at complete
      rcases complete with earlier | rfl
      · have different : id ≠ last := fun same => new (same ▸ earlier)
        rw [lookup_concat_other different, ih earlier]
      · have ofChildren : node.children.filterMap (fun child => folded.lookup child) =
            node.children.map fun child => ((index.below child).map SubtreeStats.ofNode).sum := by
          rw [← List.filterMap_eq_map]
          apply List.filterMap_congr
          intro child member
          have known := ((tree.mem_children_iff found).1 member).1
          exact ih (children (nodeLink_of_find? found member known))
        rw [lookup_concat_self new, gather, SubtreeStats.foldl_add, ofChildren,
          ((tree.below_perm found).map _).sum_eq, List.map_cons, List.sum_cons, List.map_flatMap,
          List.flatMap_def, List.sum_flatten, List.map_map]
        rfl

theorem IsTree.lookup_stats_eq_sum (tree : index.IsTree) {id : String} (known : id ∈ index.ids) :
    index.stats.lookup id = some ((index.below id).map SubtreeStats.ofNode).sum :=
  (solved_stats tree.acyclic).lookup_eq_sum tree (mem_completed_stats known)

end Index

/-- Events that come to a skipped path show that it is a directory. -/
theorem Trace.any_isDirectory_of_skipped {events : List Event}
    (skipped : (decisionOf events).status = .skipped) : events.any Event.isDirectory = true := by
  unfold decisionOf at skipped
  split at skipped
  · rename_i decision last
    obtain ⟨event, member, decides⟩ := List.mem_filterMap.1 (List.mem_of_getLast? last)
    have isSkip : event.action = .skipped := by
      unfold Event.verdict? at decides
      split at decides <;> simp_all <;> (subst decision; simp at skipped)
    exact List.any_eq_true.2 ⟨event, member, by simp [Event.isDirectory, isSkip]⟩
  · split at skipped <;> simp at skipped

namespace Index

variable {index : Index}

/-- Traces and their comparisons call every skipped path a directory. -/
theorem FromTraces.kind_of_skipped (traced : index.FromTraces) {id : String} {node : Node}
    (found : index.find? id = some node) (skipped : node.status = .skipped) :
    node.kind = .dir := by
  induction traced generalizing id node with
  | ofEvents events =>
      rw [eq_nodeAt_of_find? found] at skipped ⊢
      apply Trace.kind_nodeAt_eq_dir_iff.2
      exact Or.inr (Or.inr (Trace.any_isDirectory_of_skipped skipped))
  | merge _ _ merges left right =>
      rcases find?_merge_cases merges found with
        ⟨one, other, inFirst, _, rfl⟩ | ⟨one, inFirst, _, rfl⟩ | ⟨other, _, inSecond, rfl⟩
      · exact (Node.kind_merge_eq_dir_iff one other).2 (Or.inl (left inFirst skipped))
      · exact (left inFirst skipped :)
      · exact (right inSecond skipped :)

/-- The statistics of a trace, or of comparisons of traces, count what is at a path and below
it, no node twice: all nodes, the directories among them and the others, and those that were
ignored and skipped.  So the root counts all nodes, and no more directories are skipped than
there are. -/
theorem stats_count_below (traced : index.FromTraces) :
    (∀ id ∈ index.ids, ∃ stats, index.stats.lookup id = some stats ∧
      ((index.below id).map (·.id)).Nodup ∧
      stats.totalNodes = (index.below id).length ∧
      stats.totalDirs = (index.below id).countP (·.kind = .dir) ∧
      stats.totalFiles = (index.below id).countP (·.kind ≠ .dir) ∧
      stats.ignored = (index.below id).countP (·.status = .ignored) ∧
      stats.skipped = (index.below id).countP (·.status = .skipped) ∧
      0 ≤ stats.traversedDirs) ∧
    ∃ stats, index.stats.lookup index.rootId = some stats ∧ stats.totalNodes = index.size := by
  have tree := traced.isTree
  have counts (id : String) := SubtreeStats.countsNodes_sum (index.below id)
  have rootKnown : index.rootId ∈ index.ids := tree.rootId_eq ▸ tree.root_mem
  have isDir {id : String} {node : Node} (member : node ∈ index.below id) :
      node.isDir = true ↔ node.kind = .dir := tree.isDir_iff (mem_below_iff.1 member).1
  refine ⟨fun id known => ?_, ?_⟩
  · obtain ⟨totalNodes, totalFiles, totalDirs, ignored, skipped⟩ := counts id
    refine ⟨_, tree.lookup_stats_eq_sum known, index.nodup_ids_below id, totalNodes, ?_, ?_,
      ignored, skipped, ?_⟩
    · refine totalDirs.trans (congrArg _ (List.countP_congr fun node member => ?_))
      rw [isDir member, decide_eq_true_eq]
    · refine totalFiles.trans (congrArg _ (List.countP_congr fun node member => ?_))
      rw [Bool.not_eq_true', ← Bool.not_eq_true, isDir member, decide_eq_true_eq]
    · have fewer : (index.below id).countP (·.status = .skipped) ≤
          (index.below id).countP (·.isDir) := by
        apply List.countP_mono_left
        intro node member isSkipped
        have found := (mem_below_iff.1 member).1
        exact (isDir member).2 (traced.kind_of_skipped found (of_decide_eq_true isSkipped))
      rw [SubtreeStats.traversedDirs, totalDirs, skipped]
      omega
  · refine ⟨_, tree.lookup_stats_eq_sum rootKnown, ?_⟩
    rw [(counts index.rootId).totalNodes_eq, tree.below_rootId]
    rfl

/-- A directory with a skipped one below it, in a trace that includes one of its paths as a
file and a trace that enters the same path and ignores another one. -/
theorem stats_of_skipped_directory :
    let first := ofEvents
      [{ tag := some "include", path := some "src/a" },
        { tag := some "skip", path := some "src/lib" }]
    let second := ofEvents
      [{ tag := some "ignore", path := some "src/b" },
        { tag := some "enter", path := some "src/a" }]
    ∃ merged stats, first.merge second = .ok merged ∧ merged.FromTraces ∧
      merged.stats.lookup "src" = some stats ∧ stats.totalNodes = 4 ∧ stats.totalDirs = 3 ∧
        stats.totalFiles = 1 ∧ stats.ignored = 1 ∧ stats.skipped = 1 ∧
          0 ≤ stats.traversedDirs := by
  intro first second
  let merged : Index :=
    ⟨first.rootId, mergedNodes first second, first.counts + second.counts, true⟩
  have sameRoot : first.rootId = second.rootId :=
    (isTree_ofEvents _).rootId_eq.trans (isTree_ofEvents _).rootId_eq.symm
  have merges : first.merge second = .ok merged := merge_eq_ok_iff.2 ⟨sameRoot, rfl⟩
  have traced : merged.FromTraces := .merge (.ofEvents _) (.ofEvents _) merges
  obtain ⟨counted, _⟩ := stats_count_below traced
  obtain ⟨stats, found, _, totalNodes, totalDirs, totalFiles, ignored, skipped, traversed⟩ :=
    counted "src" (by decide +kernel)
  refine ⟨merged, stats, merges, traced, found, ?_, ?_, ?_, ?_, ?_, traversed⟩
  · exact totalNodes.trans (by decide +kernel)
  · exact totalDirs.trans (by decide +kernel)
  · exact totalFiles.trans (by decide +kernel)
  · exact ignored.trans (by decide +kernel)
  · exact skipped.trans (by decide +kernel)

end Index

end ScanTree

import ScanTree.Proofs.Subtree.Cardinality
import ScanTree.Proofs.View.Sorting

/-!
# Directories

Statistics count a path as a directory by its kind or for its children, and an
ordering also if it was skipped.  In an index of a trace, and in whatever is made
of such indices by comparing them, both come to the kind alone: a path is made a
directory when it gets a child and when it is skipped, no later event takes that
back, and a comparison calls a path a directory if one of its sides does.
-/

namespace ScanTree

namespace Index

variable {index : Index} {id : String} {node : Node}

theorem FromTraces.isDirectoryLike_iff (traced : index.FromTraces)
    (found : index.find? id = some node) : node.isDirectoryLike = true ↔ node.kind = .dir := by
  rw [← traced.isTree.isDir_iff found]
  simp only [Node.isDirectoryLike, Node.isDir, Bool.or_eq_true, decide_eq_true_eq]
  constructor
  · rintro ((isDir | skipped) | isParent)
    · exact Or.inl isDir
    · exact Or.inl (traced.kind_of_skipped found skipped)
    · exact Or.inr isParent
  · rintro (isDir | isParent)
    · exact Or.inl (Or.inl isDir)
    · exact Or.inr isParent

/-- Where children are ordered, those of kind directory come first. -/
theorem FromTraces.exists_groups_by_kind (traced : index.FromTraces) {order : OrderBy}
    {stats : StatsTable} {metric : CostMetric} {children : List String} {ordered : List Node}
    (orders : orderChildren index order stats metric children = .ok ordered) :
    ∃ dirs files, ordered = dirs ++ files ∧ (∀ child ∈ dirs, child.kind = .dir) ∧
      ∀ child ∈ files, child.kind ≠ .dir := by
  obtain ⟨dirs, files, split, dirsPerm, filesPerm⟩ := exists_groups_of_orderChildren orders
  have byKind {child : Node} (member : child ∈ children.filterMap index.find?) :
      child.isDirectoryLike = true ↔ child.kind = .dir := by
    obtain ⟨id, _, found⟩ := List.mem_filterMap.1 member
    exact traced.isDirectoryLike_iff found
  refine ⟨dirs, files, split, fun child member => ?_, fun child member => ?_⟩
  · obtain ⟨isChild, listed⟩ := List.mem_filter.1 (dirsPerm.mem_iff.1 member)
    exact (byKind isChild).1 listed
  · obtain ⟨isChild, unlisted⟩ := List.mem_filter.1 (filesPerm.mem_iff.1 member)
    rw [Bool.not_eq_true', ← Bool.not_eq_true] at unlisted
    exact mt (byKind isChild).2 unlisted

/-- In the index of a trace, and in comparisons of such indices again and again, the
notions of a directory agree: a path is counted as one if it is of that kind, and it is
listed and marked as one if it is.  So what has children or was skipped is of that kind,
and children of that kind come first in every ordering. -/
theorem directories_are_of_kind_dir (traced : index.FromTraces) :
    (∀ id node, index.find? id = some node →
      (node.isDir = true ↔ node.kind = .dir) ∧
      (node.isDirectoryLike = true ↔ node.kind = .dir) ∧
      (node.children ≠ [] ∨ node.status = .skipped → node.kind = .dir)) ∧
    ∀ order stats metric children ordered,
      orderChildren index order stats metric children = .ok ordered →
        ∃ dirs files, ordered = dirs ++ files ∧ (∀ child ∈ dirs, child.kind = .dir) ∧
          ∀ child ∈ files, child.kind ≠ .dir := by
  refine ⟨fun id node found => ?_, fun _ _ _ _ _ orders => traced.exists_groups_by_kind orders⟩
  refine ⟨traced.isTree.isDir_iff found, traced.isDirectoryLike_iff found, ?_⟩
  rintro (isParent | skipped)
  · exact traced.isTree.kind_eq found (Or.inr isParent)
  · exact traced.kind_of_skipped found skipped

/-- A link in a first trace, which a second one skips and below which a third one has a
path: compared one after the other, they make it a directory with the status of a link. -/
theorem directory_of_skipped_link :
    let first := ofEvents
      [{ tag := some "include", path := some "vendor", kind := some "symlink" }]
    let second := ofEvents [{ tag := some "skip", path := some "vendor" }]
    let third := ofEvents [{ tag := some "ignore", path := some "vendor/x" }]
    ∃ compared index node, first.merge second = .ok compared ∧
      compared.merge third = .ok index ∧ index.FromTraces ∧
      (first.find? "vendor").map (·.kind) = some .symlink ∧
      index.find? "vendor" = some node ∧ node.status = .included ∧
      node.children = ["vendor/x"] ∧ node.kind = .dir ∧ node.isDirectoryLike = true := by
  intro first second third
  let compared : Index :=
    ⟨first.rootId, mergedNodes first second, first.counts + second.counts, true⟩
  let index : Index :=
    ⟨compared.rootId, mergedNodes compared third, compared.counts + third.counts, true⟩
  have merges : first.merge second = .ok compared := merge_eq_ok_iff.2 ⟨rfl, rfl⟩
  have mergesThird : compared.merge third = .ok index := merge_eq_ok_iff.2 ⟨rfl, rfl⟩
  have traced : index.FromTraces :=
    .merge (.merge (.ofEvents _) (.ofEvents _) merges) (.ofEvents _) mergesThird
  let node : Node :=
    { id := "vendor", name := "vendor", kind := .dir, decision := ⟨.included, none, none⟩
      lastEvent := some "include", children := ["vendor/x"]
      second := { status := some .unknown }, origin := some .both }
  have found : index.find? "vendor" = some node := by decide +kernel
  obtain ⟨_, listed, ofKind⟩ := (directories_are_of_kind_dir traced).1 "vendor" node found
  have isDir : node.kind = .dir := ofKind (Or.inl (by decide))
  exact ⟨compared, index, node, merges, mergesThird, traced, by decide +kernel, found, rfl, rfl,
    isDir, listed.2 isDir⟩

end Index

end ScanTree

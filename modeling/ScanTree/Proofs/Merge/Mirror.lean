import Mathlib.Algebra.Group.Prod
import ScanTree.Display.Row
import ScanTree.Proofs.Index.Comparison
import ScanTree.Proofs.Merge.Sides
import ScanTree.Proofs.View.Agreement

/-!
# Comparing the other way round

A comparison puts the first index in front: its decisions stand in the first
place, its paths and children come first, and it settles what a path is that is
no directory.  Everything else is the same whichever index comes first, with the
two sides exchanged: which paths there are and which are their children, what each
side has decided, which paths are to be seen, how large the subtrees are, and how
the sides are said to differ.
-/

namespace ScanTree

/-- The other one of two compared traces. -/
def Side.other : Side → Side
  | first => second
  | second => first

/-- The origin that a path has when the traces are compared the other way round. -/
def Origin.mirror : Origin → Origin
  | only side => only side.other
  | both => both

/-- The badge that a node has when the traces are compared the other way round. -/
def Badge.mirror : Badge → Badge
  | only side => only side.other
  | diff => diff

theorem unionChildren_perm {first second : List String} (firstDistinct : first.Nodup)
    (secondDistinct : second.Nodup) :
    (unionChildren first second).Perm (unionChildren second first) := by
  refine (List.perm_ext_iff_of_nodup (nodup_unionChildren firstDistinct)
    (nodup_unionChildren secondDistinct)).2 fun child => ?_
  rw [mem_unionChildren_iff, mem_unionChildren_iff, or_comm]

namespace Node

/-- Two nodes tell the same with the sides exchanged. -/
structure Mirrors (node mirror : Node) : Prop where
  id_eq : mirror.id = node.id
  kind_iff : mirror.kind = .dir ↔ node.kind = .dir
  children : node.children.Perm mirror.children
  sideStatus_eq : ∀ side, mirror.sideStatus side = node.sideStatus side.other
  origin_eq : mirror.origin = node.origin.map Origin.mirror
  visible_iff : mirror.isSelfVisible false ↔ node.isSelfVisible false

theorem mirrors_merge {first second : Node} (id_eq : second.id = first.id)
    (firstDistinct : first.children.Nodup) (secondDistinct : second.children.Nodup) :
    (first.merge second).Mirrors (second.merge first) where
  id_eq := id_eq
  kind_iff := by rw [kind_merge_eq_dir_iff, kind_merge_eq_dir_iff, or_comm]
  children := unionChildren_perm firstDistinct secondDistinct
  sideStatus_eq side := by cases side <;> rfl
  origin_eq := rfl
  visible_iff := by rw [isSelfVisible_merge_iff, isSelfVisible_merge_iff, or_comm]

theorem mirrors_onlyOn (node : Node) (side : Side) :
    (node.onlyOn side).Mirrors (node.onlyOn side.other) where
  id_eq := rfl
  kind_iff := .rfl
  children := .refl _
  sideStatus_eq other := by cases side <;> cases other <;> rfl
  origin_eq := rfl
  visible_iff := .rfl

namespace Mirrors

variable {node mirror : Node}

theorem isEmpty_children (mirrors : node.Mirrors mirror) :
    mirror.children.isEmpty = node.children.isEmpty :=
  mirrors.children.isEmpty_eq.symm

theorem isDir_eq (mirrors : node.Mirrors mirror) : mirror.isDir = node.isDir := by
  simp only [isDir, mirrors.kind_iff, mirrors.isEmpty_children]

theorem passes_eq (mirrors : node.Mirrors mirror) (showExcluded : Bool) (search : String) :
    mirror.passes showExcluded search = node.passes showExcluded search := by
  have visible : mirror.isSelfVisible showExcluded = node.isSelfVisible showExcluded := by
    cases showExcluded with
    | true => rfl
    | false => exact Bool.eq_iff_iff.mpr mirrors.visible_iff
  simp only [passes, isMatch, mirrors.id_eq, visible]

/-- The badge of a side becomes that of the other side, and every other badge stays. -/
theorem badge?_eq (mirrors : node.Mirrors mirror) (hasChildren : Bool)
    (firstStats secondStats : Option SubtreeStats) :
    mirror.badge? hasChildren secondStats firstStats =
      (node.badge? hasChildren firstStats secondStats).map Badge.mirror := by
  have first : mirror.sideStatus .first = node.sideStatus .second := mirrors.sideStatus_eq .first
  have second : mirror.sideStatus .second = node.sideStatus .first :=
    mirrors.sideStatus_eq .second
  -- Where the sides agree on whether the path is included, only the statistics count.
  have differs (one two : SubtreeStats) :
      (if hasChildren && two ≠ one then some Badge.diff else none) =
        (if hasChildren && one ≠ two then some Badge.diff else none).map Badge.mirror := by
    have same : decide (two ≠ one) = decide (one ≠ two) := decide_eq_decide.2 ne_comm
    rw [same]
    split <;> rfl
  unfold badge?
  rw [first, second]
  by_cases inFirst : node.sideStatus .first = .included <;>
    by_cases inSecond : node.sideStatus .second = .included
  all_goals simp only [inFirst, inSecond]
  · cases firstStats <;> cases secondStats <;> first | rfl | exact differs _ _
  · rfl
  · rfl
  · cases firstStats <;> cases secondStats <;> first | rfl | exact differs _ _

end Mirrors

end Node

namespace SubtreeStats

/-- The numbers of all nodes, of the files and of the directories. -/
def sizes (stats : SubtreeStats) : Int × Int × Int :=
  (stats.totalNodes, stats.totalFiles, stats.totalDirs)

theorem sizes_add (first second : SubtreeStats) :
    (first + second).sizes = first.sizes + second.sizes :=
  rfl

theorem sizes_ofNode {node mirror : Node} (mirrors : node.Mirrors mirror) :
    (ofNode mirror).sizes = (ofNode node).sizes := by
  simp only [sizes, ofNode, mirrors.isDir_eq]

end SubtreeStats

namespace Index

section Trees

variable {first second merged mirrored : Index}

/-- The node of a path in one comparison tells the same as in the other one, with the
sides exchanged. -/
theorem find?_mirrors (tree : first.IsTree) (other : second.IsTree)
    (merges : first.merge second = .ok merged) (mirrors : second.merge first = .ok mirrored)
    (id : String) : Option.Rel Node.Mirrors (merged.find? id) (mirrored.find? id) := by
  rw [find?_of_merge merges, find?_of_merge mirrors]
  cases inFirst : first.find? id with
  | none =>
      cases inSecond : second.find? id with
      | none => exact .none
      | some node => exact .some (node.mirrors_onlyOn .second)
  | some node =>
      cases inSecond : second.find? id with
      | none => exact .some (node.mirrors_onlyOn .first)
      | some otherNode =>
          have id_eq : otherNode.id = node.id := by
            rw [id_of_find? inFirst, id_of_find? inSecond]
          exact .some (Node.mirrors_merge id_eq (tree.nodup_children inFirst)
            (other.nodup_children inSecond))

/-- Trees whose nodes tell the same with the sides exchanged count the same sizes of
all subtrees. -/
theorem IsTree.lookup_sizes_eq (tree : merged.IsTree) (other : mirrored.IsTree)
    (nodes : ∀ id, Option.Rel Node.Mirrors (merged.find? id) (mirrored.find? id)) (id : String) :
    (merged.stats.lookup id).map SubtreeStats.sizes =
      (mirrored.stats.lookup id).map SubtreeStats.sizes := by
  have solved := (solved_stats tree.acyclic).map SubtreeStats.sizes_add
  have otherSolved := (solved_stats other.acyclic).map SubtreeStats.sizes_add
  rw [← lookup_mapValues, ← lookup_mapValues]
  by_cases known : id ∈ merged.ids
  · refine solved.lookup_eq_of_related otherSolved ?_ (fun other => ?_) ?_
    · intro other otherKnown
      rw [completed_mapValues]
      exact mem_completed_stats otherKnown
    · exact rel_imp (fun mirrors => ⟨(SubtreeStats.sizes_ofNode mirrors).symm, mirrors.children⟩)
        (nodes other)
    · rw [completed_mapValues]
      exact mem_completed_stats known
  · have unknown : id ∉ mirrored.ids := by rwa [← mem_ids_iff_of_rel (nodes id)]
    rw [lookup_eq_none_iff.2 fun member => known (solved.known member),
      lookup_eq_none_iff.2 fun member => unknown (otherSolved.known member)]

end Trees

/-- Comparing two traces the other way round exchanges the sides and changes nothing
else of what does not tell which comes first.  The comparisons have the same paths and
counts, and each path has the same children in both, is a directory in both or in neither,
and has the statuses of the sides and the origin exchanged; its subtree has as many nodes,
files and directories; it is to be seen in both or in neither; and the badge that tells how
the sides differ, given the statistics of each side, names the other side. -/
theorem merge_mirrored (first second : List Event) :
    ∃ merged mirrored, (ofEvents first).merge (ofEvents second) = .ok merged ∧
      (ofEvents second).merge (ofEvents first) = .ok mirrored ∧
      (∀ id, id ∈ merged.ids ↔ id ∈ mirrored.ids) ∧
      merged.counts = mirrored.counts ∧
      (∀ id ∈ merged.ids, ∃ node mirror, merged.find? id = some node ∧
        mirrored.find? id = some mirror ∧
        (∀ child, child ∈ node.children ↔ child ∈ mirror.children) ∧
        (node.kind = .dir ↔ mirror.kind = .dir) ∧
        mirror.sideStatus .first = node.sideStatus .second ∧
        mirror.sideStatus .second = node.sideStatus .first ∧
        mirror.origin = node.origin.map Origin.mirror ∧
        mirror.badge? (!mirror.children.isEmpty) ((ofEvents second).stats.lookup id)
            ((ofEvents first).stats.lookup id) =
          (node.badge? (!node.children.isEmpty) ((ofEvents first).stats.lookup id)
            ((ofEvents second).stats.lookup id)).map Badge.mirror) ∧
      (∀ id ∈ merged.ids, ∃ stats other, merged.stats.lookup id = some stats ∧
        mirrored.stats.lookup id = some other ∧ stats.totalNodes = other.totalNodes ∧
          stats.totalFiles = other.totalFiles ∧ stats.totalDirs = other.totalDirs) ∧
      ∀ showExcluded search id, (merged.visibility showExcluded search).lookup id =
        (mirrored.visibility showExcluded search).lookup id := by
  obtain ⟨merged, merges⟩ : ∃ merged, (ofEvents first).merge (ofEvents second) = .ok merged :=
    ⟨_, merge_eq_ok_iff.2 ⟨rfl, rfl⟩⟩
  obtain ⟨mirrored, mirrors⟩ :
      ∃ mirrored, (ofEvents second).merge (ofEvents first) = .ok mirrored :=
    ⟨_, merge_eq_ok_iff.2 ⟨rfl, rfl⟩⟩
  have firstTree := isTree_ofEvents first
  have secondTree := isTree_ofEvents second
  have tree := firstTree.merge secondTree merges
  have mirrorTree := secondTree.merge firstTree mirrors
  have nodes := find?_mirrors firstTree secondTree merges mirrors
  refine ⟨merged, mirrored, merges, mirrors, fun id => mem_ids_iff_of_rel (nodes id), ?_, ?_, ?_,
    ?_⟩
  · rw [(merge_eq_ok_iff.1 merges).2, (merge_eq_ok_iff.1 mirrors).2]
    exact Counts.add_comm _ _
  · intro id known
    obtain ⟨node, found⟩ := exists_node_of_mem_ids known
    obtain ⟨mirror, mirrorFound, same⟩ := exists_of_rel_some (found ▸ nodes id)
    refine ⟨node, mirror, found, mirrorFound, fun child => same.children.mem_iff,
      same.kind_iff.symm, same.sideStatus_eq .first, same.sideStatus_eq .second, same.origin_eq,
      ?_⟩
    rw [same.isEmpty_children, same.badge?_eq]
  · intro id known
    have mirrorKnown := (mem_ids_iff_of_rel (nodes id)).1 known
    obtain ⟨stats, found⟩ := exists_lookup_of_mem (mem_completed_stats known)
    obtain ⟨other, otherFound⟩ := exists_lookup_of_mem (mem_completed_stats mirrorKnown)
    have sizes := tree.lookup_sizes_eq mirrorTree nodes id
    rw [found, otherFound, Option.map_some, Option.map_some, Option.some_inj] at sizes
    obtain ⟨totalNodes, totalFiles, totalDirs⟩ : _ ∧ _ ∧ _ := by
      simpa [SubtreeStats.sizes] using sizes
    exact ⟨stats, other, found, otherFound, totalNodes, totalFiles, totalDirs⟩
  · intro showExcluded search id
    refine tree.lookup_visibility_eq_of_related mirrorTree showExcluded search (fun other => ?_) id
    exact rel_imp (fun same => ⟨(same.passes_eq showExcluded search).symm, same.children⟩)
      (nodes other)

end Index

end ScanTree

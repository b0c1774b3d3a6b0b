import ScanTree.Proofs.Merge.Mirror
import ScanTree.Proofs.Subtree.Cardinality

/-!
# Badges

The badge of a row is read off the node of the comparison, and off the statistics of
the two indices that are compared.  It tells how these differ: on a path that only
one of them includes it names that one, and otherwise it marks a path with children
that both have and that does not have the same statistics in both.
-/

namespace ScanTree

theorem Badge.label_injective : Function.Injective Badge.label := by
  rintro ((_ | _) | _) ((_ | _) | _) same
  all_goals first
    | rfl
    | exact absurd same (by decide)

theorem Badge.map_label_eq_some_iff {badge : Option Badge} {shown : Badge} :
    badge.map label = some shown.label ↔ badge = some shown :=
  (Option.map_injective label_injective).eq_iff' rfl

theorem Badge.map_label_cases (badge : Option Badge) :
    badge.map label = none ∨ badge.map label = some "A only" ∨
      badge.map label = some "B only" ∨ badge.map label = some "Diff" := by
  rcases badge with _ | (_ | _) | _ <;> decide

namespace Node

variable {node : Node} {hasChildren : Bool} {firstStats secondStats : Option SubtreeStats}

theorem badge?_eq_only_iff {side : Side} :
    node.badge? hasChildren firstStats secondStats = some (.only side) ↔
      node.sideStatus side = .included ∧ node.sideStatus side.other ≠ .included := by
  unfold badge?
  cases side <;> by_cases inFirst : node.sideStatus .first = .included <;>
    by_cases inSecond : node.sideStatus .second = .included
  all_goals
    simp only [inFirst, Side.other]
    cases firstStats <;> cases secondStats <;> simp [inFirst, inSecond]

theorem badge?_eq_diff_iff :
    node.badge? hasChildren firstStats secondStats = some .diff ↔
      (node.sideStatus .first = .included ↔ node.sideStatus .second = .included) ∧
        hasChildren = true ∧ firstStats.isSome = true ∧ secondStats.isSome = true ∧
          firstStats ≠ secondStats := by
  unfold badge?
  by_cases inFirst : node.sideStatus .first = .included <;>
    by_cases inSecond : node.sideStatus .second = .included
  all_goals
    simp only [inFirst, inSecond]
    cases firstStats <;> cases secondStats <;> simp

end Node

namespace Index

/-- An index includes a path. -/
def Includes (index : Index) (id : String) : Prop :=
  ∃ node, index.find? id = some node ∧ node.status = .included

variable {index : Index} {id : String}

theorem status_decisionAt_iff : (index.decisionAt id).status = .included ↔ index.Includes id := by
  cases found : index.find? id with
  | none => simp [decisionAt_of_missing found, Includes, found]
  | some node => simp [decisionAt_of_find? found, Includes, found]

section Tells

variable {sides : Side → Index} {node : Node} (tells : Tells sides id node)

include tells

theorem Tells.sideStatus_eq_included_iff (side : Side) :
    node.sideStatus side = .included ↔ (sides side).Includes id := by
  rw [← Node.status_sideDecision, tells.decision, status_decisionAt_iff]

theorem Tells.badge?_eq_only_iff {hasChildren : Bool}
    {firstStats secondStats : Option SubtreeStats} (side : Side) :
    node.badge? hasChildren firstStats secondStats = some (.only side) ↔
      (sides side).Includes id ∧ ¬ (sides side.other).Includes id := by
  rw [Node.badge?_eq_only_iff, ne_eq, tells.sideStatus_eq_included_iff,
    tells.sideStatus_eq_included_iff]

/-- A node has the badge of a difference if the indices agree on whether its path is
included, and if it has children and the indices have different statistics for it. -/
theorem Tells.badge?_eq_diff_iff :
    node.badge? (!node.children.isEmpty) ((sides .first).stats.lookup id)
        ((sides .second).stats.lookup id) = some .diff ↔
      ((sides .first).Includes id ↔ (sides .second).Includes id) ∧ node.children ≠ [] ∧
        id ∈ (sides .first).ids ∧ id ∈ (sides .second).ids ∧
          (sides .first).stats.lookup id ≠ (sides .second).stats.lookup id := by
  rw [Node.badge?_eq_diff_iff, tells.sideStatus_eq_included_iff,
    tells.sideStatus_eq_included_iff, isSome_lookup_stats_iff, isSome_lookup_stats_iff,
    Bool.not_eq_true', List.isEmpty_eq_false_iff]

end Tells

theorem exists_side_of_merge {sides : Side → Index} {merged : Index}
    (merges : (sides .first).merge (sides .second) = .ok merged) (known : id ∈ merged.ids) :
    ∃ side, id ∈ (sides side).ids := by
  rw [ids_of_merge merges, List.mem_append, List.mem_filter] at known
  exact Side.exists_iff.2 (known.imp_right And.left)

/-- In a comparison, badges tell how the two indices differ.  A row has the badge of one
side if the index at this side includes its path and the other one does not.  It has the
badge of a difference if neither is so, its node has children, both indices have the
path and they have different statistics for it.  There is no other badge, and none at all
where an index is compared with itself. -/
theorem merge_badges {first second : Index} (sameRoot : first.rootId = second.rootId) :
    ∃ merged, first.merge second = .ok merged ∧
      ∀ id node, merged.find? id = some node →
        ∀ (view : View) (depth : Nat) (style : RowStyle),
          let label := ((view.row node depth).badge? { style with
            compare := true, firstStats := first.stats, secondStats := second.stats }).map
              Badge.label
          (label = some "A only" ↔ first.Includes id ∧ ¬ second.Includes id) ∧
          (label = some "B only" ↔ second.Includes id ∧ ¬ first.Includes id) ∧
          (label = some "Diff" ↔ (first.Includes id ↔ second.Includes id) ∧
            node.children ≠ [] ∧ id ∈ first.ids ∧ id ∈ second.ids ∧
            first.stats.lookup id ≠ second.stats.lookup id) ∧
          (label = none ∨ label = some "A only" ∨ label = some "B only" ∨
            label = some "Diff") ∧
          (first = second → label = none) := by
  let sides := Side.pick first second
  obtain ⟨merged, merges⟩ : ∃ merged, first.merge second = .ok merged :=
    ⟨_, merge_eq_ok_iff.2 ⟨sameRoot, rfl⟩⟩
  refine ⟨merged, merges, fun id node found view depth style => ?_⟩
  obtain ⟨_, nodeFound, tells⟩ : ∃ node, merged.find? id = some node ∧ Tells sides id node :=
    exists_tells merges (exists_side_of_merge merges (mem_ids_of_find? found))
  obtain rfl := Option.some.inj (found.symm.trans nodeFound)
  obtain rfl := id_of_find? found
  intro label
  have onlyFirst : label = some "A only" ↔
      first.Includes node.id ∧ ¬ second.Includes node.id :=
    Badge.map_label_eq_some_iff.trans (tells.badge?_eq_only_iff .first)
  have onlySecond : label = some "B only" ↔
      second.Includes node.id ∧ ¬ first.Includes node.id :=
    Badge.map_label_eq_some_iff.trans (tells.badge?_eq_only_iff .second)
  have differs : label = some "Diff" ↔ (first.Includes node.id ↔ second.Includes node.id) ∧
      node.children ≠ [] ∧ node.id ∈ first.ids ∧ node.id ∈ second.ids ∧
        first.stats.lookup node.id ≠ second.stats.lookup node.id :=
    Badge.map_label_eq_some_iff.trans tells.badge?_eq_diff_iff
  have known := Badge.map_label_cases ((view.row node depth).badge? { style with
    compare := true, firstStats := first.stats, secondStats := second.stats })
  refine ⟨onlyFirst, onlySecond, differs, known, ?_⟩
  -- Each badge tells of something that one index has and the other one does not.
  rintro rfl
  rcases known with nothing | isFirst | isSecond | isDiff
  · exact nothing
  · exact absurd (onlyFirst.1 isFirst).1 (onlyFirst.1 isFirst).2
  · exact absurd (onlySecond.1 isSecond).1 (onlySecond.1 isSecond).2
  · exact absurd rfl (differs.1 isDiff).2.2.2.2

/-- A path that only the first trace includes, one that only the second one includes, and
a directory that neither includes and below which they differ. -/
theorem merge_badges_of_disagreement :
    let first := ofEvents
      [{ tag := some "include", path := some "a" },
        { tag := some "include", path := some "src/x" }]
    let second := ofEvents
      [{ tag := some "ignore", path := some "a" }, { tag := some "include", path := some "b" },
        { tag := some "include", path := some "src/x" },
        { tag := some "ignore", path := some "src/y" }]
    let label (node : Node) := ((({} : View).row node 0).badge?
      { compare := true, firstStats := first.stats, secondStats := second.stats }).map Badge.label
    first.rootId = second.rootId ∧
      ∃ merged a b src, first.merge second = .ok merged ∧ merged.find? "a" = some a ∧
        merged.find? "b" = some b ∧ merged.find? "src" = some src ∧
        label a = some "A only" ∧ label b = some "B only" ∧ label src = some "Diff" := by
  intro first second label
  have sameRoot : first.rootId = second.rootId := by decide +kernel
  have included {index : Index} {id : String} :
      (index.decisionAt id).status = .included → index.Includes id := status_decisionAt_iff.1
  have excluded {index : Index} {id : String} :
      (index.decisionAt id).status ≠ .included → ¬ index.Includes id :=
    mt status_decisionAt_iff.2
  have inFirst : "src" ∈ first.ids := by decide +kernel
  have inSecond : "src" ∈ second.ids := by decide +kernel
  have differ : first.stats.lookup "src" ≠ second.stats.lookup "src" := by
    rw [(isTree_ofEvents _).lookup_stats_eq_sum inFirst,
      (isTree_ofEvents _).lookup_stats_eq_sum inSecond]
    decide +kernel
  obtain ⟨merged, merges, badges⟩ := merge_badges sameRoot
  obtain rfl := (merge_eq_ok_iff.1 merges).2
  let merged : Index :=
    ⟨first.rootId, mergedNodes first second, first.counts + second.counts, true⟩
  obtain ⟨a, foundA⟩ : ∃ a, merged.find? "a" = some a :=
    exists_node_of_mem_ids (by decide +kernel)
  obtain ⟨b, foundB⟩ : ∃ b, merged.find? "b" = some b :=
    exists_node_of_mem_ids (by decide +kernel)
  obtain ⟨src, foundSrc⟩ : ∃ src, merged.find? "src" = some src :=
    exists_node_of_mem_ids (by decide +kernel)
  have children : (merged.find? "src").map (·.children) = some ["src/x", "src/y"] := by
    decide +kernel
  rw [foundSrc, Option.map_some, Option.some_inj] at children
  obtain ⟨onlyFirst, _⟩ := badges "a" a foundA {} 0 {}
  obtain ⟨_, onlySecond, _⟩ := badges "b" b foundB {} 0 {}
  obtain ⟨_, _, differs, _⟩ := badges "src" src foundSrc {} 0 {}
  refine ⟨sameRoot, merged, a, b, src, merges, foundA, foundB, foundSrc, ?_, ?_, ?_⟩
  · exact onlyFirst.2 ⟨included (by decide +kernel), excluded (by decide +kernel)⟩
  · exact onlySecond.2 ⟨included (by decide +kernel), excluded (by decide +kernel)⟩
  · have neither : first.Includes "src" ↔ second.Includes "src" :=
      iff_of_false (excluded (by decide +kernel)) (excluded (by decide +kernel))
    exact differs.2 ⟨neither, by simp [children], inFirst, inSecond, differ⟩

end Index

end ScanTree

import ScanTree.Proofs.Builder.Tally
import ScanTree.Proofs.View.Agreement
import ScanTree.Proofs.View.Refusal

/-!
# Interleavings of a trace

Events on different paths may be recorded in any order: what an index tells of a
path comes from the events on that path, and which paths it has does not depend
on the order of their first mention.  So two traces with the same events on each
path, in the same order, lead to indices that are alike, and a view that sorts
by names shows the same of both.
-/

namespace ScanTree

namespace Trace

/-- Two traces have the same events on each path, in the same order. -/
def Interleaves (first second : List Event) : Prop :=
  ∀ id, eventsAt first id = eventsAt second id

/-- A path is mentioned if it is the root or some path below it has events. -/
theorem mem_mentioned_iff_eventsAt {events : List Event} {id : String} :
    id ∈ mentioned events ↔ id = Path.root ∨
      ∃ other, eventsAt events other ≠ [] ∧ id ∈ Path.lineage other := by
  rw [mem_mentioned_iff]
  refine or_congr_right ⟨?_, ?_⟩
  · rintro ⟨event, member, counts, onLineage⟩
    have there : event ∈ eventsAt events event.target :=
      List.mem_filter.2 ⟨member, by simp [counts]⟩
    exact ⟨event.target, List.ne_nil_of_mem there, onLineage⟩
  · rintro ⟨other, hasEvents, onLineage⟩
    obtain ⟨event, there⟩ := List.exists_mem_of_ne_nil _ hasEvents
    obtain ⟨member, holds⟩ := List.mem_filter.1 there
    obtain ⟨counts, rfl⟩ := of_decide_eq_true holds
    exact ⟨event, member, counts, onLineage⟩

namespace Interleaves

variable {first second : List Event}

theorem mentioned_perm (same : Interleaves first second) :
    (mentioned first).Perm (mentioned second) := by
  refine (List.perm_ext_iff_of_nodup (nodup_mentioned _) (nodup_mentioned _)).2 fun id => ?_
  simp only [mem_mentioned_iff_eventsAt, same _]

theorem nodeAt_alike (same : Interleaves first second) (id : String) :
    (nodeAt first id).Alike (nodeAt second id) := by
  have children : (childrenAt first id).Perm (childrenAt second id) :=
    same.mentioned_perm.filter _
  have sameLeaf : childrenAt first id ≠ [] ↔ childrenAt second id ≠ [] :=
    not_congr ⟨fun nothing => (nothing ▸ children).symm.eq_nil,
      fun nothing => (nothing ▸ children).eq_nil⟩
  refine ⟨?_, children⟩
  rw [nodeAt, nodeAt, toldAt, toldAt, same id]
  simp only [sameLeaf]

theorem tally_eq (same : Interleaves first second) (category : Category) :
    tally first category = tally second category := by
  rw [tally, tally, same.mentioned_perm.countP_eq]
  simp only [same _]

end Interleaves

end Trace

namespace Index

variable {first second : List Event}

theorem alike_ofEvents (same : Trace.Interleaves first second) :
    (ofEvents first).Alike (ofEvents second) where
  rootId_eq := rfl
  nodes := by
    intro id
    have sameMentioned := same.mentioned_perm.mem_iff (a := id)
    rw [find?_ofEvents, find?_ofEvents]
    by_cases known : id ∈ Trace.mentioned first
    · rw [if_pos known, if_pos (sameMentioned.1 known)]
      exact .some (same.nodeAt_alike id)
    · rw [if_neg known, if_neg fun other => known (sameMentioned.2 other)]
      exact .none

theorem counts_ofEvents_eq (same : Trace.Interleaves first second) :
    (ofEvents first).counts = (ofEvents second).counts :=
  Counts.ext_get fun category => by
    rw [counts_ofEvents, counts_ofEvents, same.tally_eq]

/-- Traces that differ only in how the events on different paths are interleaved
lead to indices with the same paths, the same nodes up to the order of children,
the same counts, statistics and visibility.  If no two children of the root have
the same name and no name holds the null character, a view that sorts by names
or costs shows the same of both, whatever statistics it is given, as long as
they are the same. -/
theorem ofEvents_of_interleaving (same : Trace.Interleaves first second) :
    (ofEvents first).rootId = (ofEvents second).rootId ∧
    (∀ id, id ∈ (ofEvents first).ids ↔ id ∈ (ofEvents second).ids) ∧
    (∀ id node other, (ofEvents first).find? id = some node →
      (ofEvents second).find? id = some other →
        other = { node with children := other.children } ∧
          node.children.Perm other.children) ∧
    (ofEvents first).counts = (ofEvents second).counts ∧
    (∀ id, (ofEvents first).stats.lookup id = (ofEvents second).stats.lookup id) ∧
    (∀ showExcluded search id, ((ofEvents first).visibility showExcluded search).lookup id =
      ((ofEvents second).visibility showExcluded search).lookup id) ∧
    ((∀ root, (ofEvents first).root? = some root →
        ((root.children.filterMap (ofEvents first).find?).map (·.name)).Nodup) →
      (∀ node ∈ (ofEvents first).nodes.entries, '\x00' ∉ node.name.toList) →
      ∀ (view : View) (stats otherStats : Option StatsTable), view.orderBy ≠ .scan →
        (∀ id, (stats.getD (ofEvents first).stats).lookup id =
          (otherStats.getD (ofEvents second).stats).lookup id) →
        ∃ rows otherRows, view.rows (ofEvents first) stats = .ok rows ∧
          view.rows (ofEvents second) otherStats = .ok otherRows ∧
          rows.map View.outline = otherRows.map View.outline) := by
  have alike := alike_ofEvents same
  have tree := isTree_ofEvents first
  have otherTree := isTree_ofEvents second
  refine ⟨rfl, fun id => alike.mem_ids_iff, fun id node other found otherFound => ?_,
    counts_ofEvents_eq same, alike.lookup_stats tree otherTree,
    alike.lookup_visibility tree otherTree, ?_⟩
  · obtain ⟨counterpart, counterpartFound, nodesAlike⟩ :=
      exists_of_rel_some (found ▸ alike.nodes id)
    obtain rfl := Option.some.inj (counterpartFound.symm.trans otherFound)
    exact ⟨nodesAlike.eq, nodesAlike.children⟩
  · intro topNames noNull view stats otherStats sorted sameStats
    have returns : ∃ rows, view.rows (ofEvents first) stats = .ok rows := View.exists_rows noNull
    obtain ⟨rows, shown⟩ := returns
    obtain ⟨otherRows, otherShown, sameRows⟩ :=
      View.exists_rows_of_alike alike tree otherTree sorted sameStats topNames shown
    exact ⟨rows, otherRows, shown, otherShown, sameRows.symm⟩

/-- Two events on different paths may change places: the root lists its children
the other way round, and a view that sorts them by names shows the same. -/
theorem ofEvents_of_swapped_events :
    let first : List Event :=
      [{ tag := some "include", path := some "b/x" },
        { tag := some "ignore", path := some "A", reason := some "rule" }]
    let second : List Event :=
      [{ tag := some "ignore", path := some "A", reason := some "rule" },
        { tag := some "include", path := some "b/x" }]
    Trace.Interleaves first second ∧
      (ofEvents first).root?.map (·.children) = some ["b", "A"] ∧
      (ofEvents second).root?.map (·.children) = some ["A", "b"] ∧
      (ofEvents first).counts = (ofEvents second).counts ∧
      ∃ rows otherRows,
        ({ orderBy := .alpha } : View).rows (ofEvents first) none = .ok rows ∧
          ({ orderBy := .alpha } : View).rows (ofEvents second) none = .ok otherRows ∧
          rows.map View.outline = otherRows.map View.outline := by
  intro first second
  have same : Trace.Interleaves first second := by
    intro id
    by_cases isFirst : id = "b/x"
    · subst isFirst
      decide +kernel
    · have elsewhere : Event.target { tag := some "include", path := some "b/x" } ≠ id :=
        fun equal => isFirst (equal.symm.trans (by decide))
      simp [Trace.eventsAt, first, second, elsewhere, List.filter_cons]
  obtain ⟨_, _, _, counts, _, _, shows⟩ := ofEvents_of_interleaving same
  have topNames : ∀ root, (ofEvents first).root? = some root →
      ((root.children.filterMap (ofEvents first).find?).map (·.name)).Nodup := by
    intro root found
    have children : (ofEvents first).root?.map (·.children) = some ["b", "A"] := by
      decide +kernel
    rw [found, Option.map_some, Option.some.injEq] at children
    rw [children]
    decide +kernel
  have noNull : ∀ node ∈ (ofEvents first).nodes.entries, '\x00' ∉ node.name.toList := by
    decide +kernel
  obtain ⟨rows, otherRows, shown, otherShown, sameRows⟩ :=
    shows topNames noNull { orderBy := .alpha } none none (by decide)
      (fun id => ((alike_ofEvents same).lookup_stats (isTree_ofEvents first)
        (isTree_ofEvents second) id))
  exact ⟨same, by decide +kernel, by decide +kernel, counts, rows, otherRows, shown, otherShown,
    sameRows⟩

end Index

end ScanTree

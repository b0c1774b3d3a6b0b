import ScanTree.Proofs.Path.Segment

/-!
# Climbing to the root

Taking the parent again and again leads through the lineage of a path.  Each step
takes a slash away, or else leads to the root, so it is over after one step more
than the path has slashes, however many of its segments are empty.
-/

namespace ScanTree

namespace Path

/-- The path that is met by taking the parent so many times, none if that passes
the root. -/
def ancestor? : Nat → String → Option String
  | 0, id => some id
  | steps + 1, id => (parent? id).bind (ancestor? steps)

theorem getElem?_lineage (id : String) (steps : Nat) :
    (lineage id)[steps]? = ancestor? steps id := by
  induction steps generalizing id with
  | zero => rfl
  | succ steps ih =>
      by_cases isRoot : id = root
      · subst isRoot
        simp [ancestor?]
      · obtain ⟨parent, found⟩ := exists_parent_of_ne_root isRoot
        rw [lineage_eq_cons found, List.getElem?_cons_succ, ih, ancestor?, found,
          Option.bind_some]

theorem mem_ancestors_of_ancestor? {id upper : String} {steps : Nat}
    (met : ancestor? (steps + 1) id = some upper) : upper ∈ ancestors id := by
  rw [← getElem?_lineage, lineage, List.getElem?_cons_succ] at met
  exact List.mem_of_getElem? met

/-- The root is met after as many steps as there are ancestors, and nothing is met
after it. -/
theorem ancestor?_length_ancestors (id : String) :
    ancestor? (ancestors id).length id = some root ∧
      ancestor? ((ancestors id).length + 1) id = none := by
  rw [← getElem?_lineage, ← getElem?_lineage]
  constructor
  · rw [← getLast?_lineage id, List.getLast?_eq_getElem?]
    rfl
  · exact List.getElem?_eq_none (Nat.le_refl _)

theorem length_ancestors_le (id : String) :
    (ancestors id).length ≤ id.toList.count '/' + 1 := by
  induction id using climb with
  | atRoot => simp
  | below id parent found ih =>
      rw [ancestors_of_parent?_eq_some found, List.length_cons]
      by_cases isRoot : parent = root
      · subst isRoot
        simp
      · have slashes : id.toList.count '/' = parent.toList.count '/' + 1 := by
          rw [(toList_eq_of_parent? found isRoot).1, List.count_append, List.count_cons_self,
            List.count_eq_zero_of_not_mem (slash_notMem_lastSegment _)]
        omega

theorem empty_notMem_ancestors (id : String) : "" ∉ ancestors id := by
  by_cases isRoot : id = root
  · subst isRoot
    simp
  · obtain ⟨parent, found⟩ := exists_parent_of_ne_root isRoot
    rw [ancestors_eq_lineage found]
    exact empty_notMem_lineage (parent_ne_empty found)

end Path

end ScanTree

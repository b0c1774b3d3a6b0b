import ScanTree.Proofs.Index.Comparison
import ScanTree.Proofs.Path.Climbing

/-!
# Ancestors and siblings

A path below another one than the root is that one, a slash and its name, or is
named by the whole of it.  So what lies between a path and the root are beginnings
of it, and siblings are told apart by their names, unless they are children of the
root: there `a` and `/a` both are named `a`.
-/

namespace ScanTree

/-- In a tree the nodes that are children of another path than the root have
different names. -/
theorem Index.IsTree.nodup_names_children {index : Index} (tree : index.IsTree) {id : String}
    {node : Node} (found : index.find? id = some node) (notRoot : id ≠ Path.root) :
    ((node.children.filterMap index.find?).map (·.name)).Nodup := by
  have distinct : (node.children.filterMap index.find?).Nodup := by
    refine (tree.nodup_children found).filterMap ?_
    intro first second child firstFound secondFound
    rw [← id_of_find? firstFound, ← id_of_find? secondFound]
  refine distinct.map_on ?_
  intro child childMem other otherMem sameName
  obtain ⟨childId, isChild, childFound⟩ := List.mem_filterMap.1 childMem
  obtain ⟨otherId, otherIsChild, otherFound⟩ := List.mem_filterMap.1 otherMem
  rw [tree.name_eq childFound, tree.name_eq otherFound] at sameName
  have parent := ((tree.mem_children_iff found).1 isChild).2
  have otherParent := ((tree.mem_children_iff found).1 otherIsChild).2
  obtain rfl := Path.eq_of_name_eq parent otherParent notRoot sameName
  exact Option.some.inj (childFound.symm.trans otherFound)

namespace Path

/-- Taking the parent again and again leads from every text to the root, after at
most one step more than it has slashes, and ends there.  The empty text is never met,
and what is met before the root is the text cut before one of its slashes.  Different
paths with the same parent have different names, unless that is the root, and so have
siblings in the index of a trace and in comparisons of such indices again and again. -/
theorem climbs_to_root_by_cutting :
    (∀ id,
      (∃ steps ≤ id.toList.count '/' + 1,
        ancestor? steps id = some root ∧ ancestor? (steps + 1) id = none) ∧
      ∀ step upper, ancestor? (step + 1) id = some upper →
        upper ≠ "" ∧ (upper ≠ root → ∃ rest, id = upper ++ "/" ++ rest)) ∧
    (∀ parent first second, parent? first = some parent → parent? second = some parent →
      parent ≠ root → first ≠ second → name first ≠ name second) ∧
    ∀ index : Index, index.FromTraces → ∀ id node, index.find? id = some node → id ≠ root →
      ((node.children.filterMap index.find?).map (·.name)).Nodup := by
  refine ⟨fun id => ⟨?_, fun step upper met => ?_⟩, ?_, ?_⟩
  · exact ⟨(ancestors id).length, length_ancestors_le id, ancestor?_length_ancestors id⟩
  · have above := mem_ancestors_of_ancestor? met
    refine ⟨?_, exists_cut_of_mem_ancestors above⟩
    rintro rfl
    exact empty_notMem_ancestors id above
  · intro parent first second found secondFound notRoot different sameName
    exact different (eq_of_name_eq found secondFound notRoot sameName)
  · intro index traced id node found notRoot
    exact traced.isTree.nodup_names_children found notRoot

/-- Empty segments: the way from `.//a/` leads through `./`, and below `a/` the path
`a//` is named by the whole of it. -/
theorem climbs_through_empty_segments :
    let index := Index.ofEvents
      [{ tag := some "include", path := some "a//" },
        { tag := some "ignore", path := some "a//b" }]
    (∃ steps ≤ ".//a/".toList.count '/' + 1,
        ancestor? steps ".//a/" = some root ∧ ancestor? (steps + 1) ".//a/" = none) ∧
      ancestor? 2 ".//a/" = some "./" ∧ "./" ≠ root ∧ (∃ rest, ".//a/" = "./" ++ "/" ++ rest) ∧
      parent? "a//" = some "a/" ∧ parent? "a//b" = some "a/" ∧ name "a//" ≠ name "a//b" ∧
      ∃ node, index.find? "a/" = some node ∧ node.children = ["a//", "a//b"] ∧
        ((node.children.filterMap index.find?).map (·.name)).Nodup := by
  intro index
  obtain ⟨climbs, names, siblings⟩ := climbs_to_root_by_cutting
  obtain ⟨reaches, cut⟩ := climbs ".//a/"
  have met : ancestor? 2 ".//a/" = some "./" := by decide +kernel
  have notRoot : "./" ≠ root := by decide
  have found : parent? "a//" = some "a/" := by decide +kernel
  have secondFound : parent? "a//b" = some "a/" := by decide +kernel
  let node : Node :=
    { id := "a/", name := "a/", kind := .dir, children := ["a//", "a//b"] }
  have nodeFound : index.find? "a/" = some node := by decide +kernel
  exact ⟨reaches, met, notRoot, (cut 1 "./" met).2 notRoot, found, secondFound,
    names "a/" "a//" "a//b" found secondFound (by decide) (by decide),
    node, nodeFound, rfl, siblings index (.ofEvents _) "a/" node nodeFound (by decide)⟩

example : parent? "a" = some root ∧ parent? "/a" = some root ∧ name "a" = name "/a" := by
  decide +kernel

end Path

end ScanTree

import ScanTree.Proofs.Path.Lineage
import Mathlib.Data.List.TakeWhile

/-!
# Segments of paths

A path below another one than the root is the parent, a slash and its last
segment, which holds no slash.  So a path begins with each of its ancestors but
the root and ends with its name, and the name tells it from all other paths with
the same parent, unless that is the root: there a path may have no name of its
own and be named like another one.
-/

namespace ScanTree

namespace Path

theorem slash_notMem_lastSegment (path : List Char) : '/' ∉ lastSegment path := by
  intro member
  have passes := List.mem_takeWhile_imp (List.mem_reverse.1 member)
  simp at passes

/-- A path with a slash is cut at the last one. -/
theorem eq_stem_append {path : List Char} (nonempty : stem path ≠ []) :
    path = stem path ++ '/' :: lastSegment path := by
  have cut := List.takeWhile_append_dropWhile (p := (· ≠ '/')) (l := path.reverse)
  cases dropped : path.reverse.dropWhile (· ≠ '/') with
  | nil => exact absurd (by rw [stem, dropped]; rfl) nonempty
  | cons c rest =>
      have isSlash : c = '/' := by
        have first := List.head?_dropWhile_not (· ≠ '/') path.reverse
        rw [dropped] at first
        simpa using first
      have stemEq : stem path = rest.reverse := by rw [stem, dropped]; rfl
      rw [dropped, isSlash] at cut
      calc
        path = path.reverse.reverse := (List.reverse_reverse path).symm
        _ = (path.reverse.takeWhile (· ≠ '/') ++ '/' :: rest).reverse := by rw [cut]
        _ = stem path ++ '/' :: lastSegment path := by
          rw [stemEq, lastSegment, List.reverse_append, List.reverse_cons, List.append_assoc]
          rfl

/-- A path below another one than the root is that one, a slash and the last
segment. -/
theorem toList_eq_of_parent? {id parent : String} (found : parent? id = some parent)
    (notRoot : parent ≠ root) :
    id.toList = parent.toList ++ '/' :: lastSegment id.toList ∧
      name id = if lastSegment id.toList = [] then id
        else String.ofList (lastSegment id.toList) := by
  unfold parent? at found
  split at found
  · simp at found
  · rename_i idNotRoot
    split at found
    · exact absurd (Option.some.inj found).symm notRoot
    · rename_i nonempty
      obtain rfl := Option.some.inj found
      constructor
      · rw [String.toList_ofList]
        exact eq_stem_append (by simpa using nonempty)
      · simp only [name, idNotRoot, if_false, List.isEmpty_iff]

/-- Every ancestor but the root is the path cut before one of its slashes. -/
theorem exists_cut_of_mem_ancestors {id upper : String} (above : upper ∈ ancestors id)
    (notRoot : upper ≠ root) : ∃ rest, id = upper ++ "/" ++ rest := by
  induction id using climb with
  | atRoot => simp at above
  | below id parent found ih =>
      have cut (parentNotRoot : parent ≠ root) : ∃ segment, id = parent ++ "/" ++ segment := by
        refine ⟨String.ofList (lastSegment id.toList), String.toList_inj.1 ?_⟩
        simpa using (toList_eq_of_parent? found parentNotRoot).1
      rw [ancestors_of_parent?_eq_some found] at above
      rcases List.mem_cons.1 above with rfl | further
      · exact cut notRoot
      · have parentNotRoot : parent ≠ root := by
          rintro rfl
          simp at further
        obtain ⟨segment, idCut⟩ := cut parentNotRoot
        obtain ⟨rest, parentCut⟩ := ih further
        refine ⟨rest ++ "/" ++ segment, ?_⟩
        rw [idCut, parentCut]
        simp only [String.append_assoc]

/-- Every path begins with each of its ancestors but the root. -/
theorem isPrefix_of_mem_lineage {id other : String} (member : other ∈ lineage id)
    (notRoot : other ≠ root) : other.toList <+: id.toList := by
  rcases List.mem_cons.1 member with rfl | above
  · exact List.prefix_rfl
  · obtain ⟨rest, cut⟩ := exists_cut_of_mem_ancestors above notRoot
    rw [cut, String.append_assoc, String.toList_append]
    exact List.prefix_append _ _

/-- Every path ends with its name. -/
theorem name_isSuffix (id : String) : (name id).toList <:+ id.toList := by
  unfold name
  split
  · rename_i isRoot
    subst isRoot
    exact List.suffix_rfl
  · split
    · exact List.suffix_rfl
    · rw [String.toList_ofList, lastSegment, ← List.reverse_prefix, List.reverse_reverse]
      exact List.takeWhile_prefix _

/-- Two paths with the same parent and the same name are the same, unless the
parent is the root. -/
theorem eq_of_name_eq {id other parent : String} (found : parent? id = some parent)
    (otherFound : parent? other = some parent) (notRoot : parent ≠ root)
    (sameName : name id = name other) : id = other := by
  obtain ⟨idEq, idName⟩ := toList_eq_of_parent? found notRoot
  obtain ⟨otherEq, otherName⟩ := toList_eq_of_parent? otherFound notRoot
  have noSlash (path : String) : '/' ∉ (String.ofList (lastSegment path.toList)).toList := by
    rw [String.toList_ofList]
    exact slash_notMem_lastSegment path.toList
  -- A path without a last segment is its own name, which no segment can be.
  have slash {path : String} (eq : path.toList = parent.toList ++ '/' :: lastSegment path.toList) :
      '/' ∈ path.toList := by
    rw [eq]
    simp
  rw [idName, otherName] at sameName
  split at sameName
  · split at sameName
    · exact sameName
    · exact absurd (sameName ▸ slash idEq) (noSlash other)
  · split at sameName
    · exact absurd (sameName ▸ slash otherEq) (noSlash id)
    · have sameSegment := String.ofList_injective sameName
      rw [← String.toList_inj, idEq, otherEq, sameSegment]

end Path

end ScanTree

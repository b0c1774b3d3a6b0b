import ScanTree.Path
import Mathlib.Data.List.Chain
import Mathlib.Logic.Relation

/-!
# Lineages of paths

The lineage of a path leads from the path itself to the root, one parent after
the other.  It ends at the root, names no path twice, and is closed under
taking parents, so whatever stands on it has its own lineage as a final part
of it.
-/

namespace ScanTree

namespace Path

theorem parent?_eq_none_iff {id : String} : parent? id = none ↔ id = root := by
  constructor
  · intro orphan
    unfold parent? at orphan
    split at orphan
    · assumption
    · split at orphan <;> simp at orphan
  · rintro rfl
    exact parent?_root

theorem exists_parent_of_ne_root {id : String} (notRoot : id ≠ root) :
    ∃ parent, parent? id = some parent :=
  Option.ne_none_iff_exists'.1 fun orphan => notRoot (parent?_eq_none_iff.1 orphan)

theorem ne_root_of_parent? {id parent : String} (found : parent? id = some parent) :
    id ≠ root := by
  rintro rfl
  simp at found

@[simp]
theorem lineage_root : lineage root = [root] := by
  simp [lineage]

theorem ancestors_eq_lineage {id parent : String} (found : parent? id = some parent) :
    ancestors id = lineage parent :=
  ancestors_of_parent?_eq_some found

theorem lineage_eq_cons {id parent : String} (found : parent? id = some parent) :
    lineage id = id :: lineage parent := by
  rw [lineage, ancestors_eq_lineage found]

@[simp]
theorem self_mem_lineage (id : String) : id ∈ lineage id :=
  List.mem_cons_self

theorem mem_lineage_iff {id other : String} :
    other ∈ lineage id ↔ other = id ∨ ∃ parent, parent? id = some parent ∧
      other ∈ lineage parent := by
  by_cases isRoot : id = root
  · subst id
    simp
  · obtain ⟨parent, found⟩ := exists_parent_of_ne_root isRoot
    simp [lineage_eq_cons found, found]

/-- Statements about paths are proved by climbing: for the root, and for a path
from its parent. -/
theorem climb {motive : String → Prop} (id : String) (atRoot : motive root)
    (below : ∀ id parent, parent? id = some parent → motive parent → motive id) :
    motive id := by
  induction id using ancestors.induct with
  | case1 id orphan =>
      rw [parent?_eq_none_iff.1 orphan]
      exact atRoot
  | case2 id parent found ih => exact below id parent found ih

theorem lineage_suffix_of_mem {id other : String} (member : other ∈ lineage id) :
    lineage other <:+ lineage id := by
  induction id using climb with
  | atRoot =>
      obtain rfl : other = root := by simpa using member
      exact List.suffix_rfl
  | below id parent found ih =>
      rw [lineage_eq_cons found] at member
      rcases List.mem_cons.1 member with rfl | above
      · exact List.suffix_rfl
      · rw [lineage_eq_cons found]
        exact (ih above).trans (List.suffix_cons id _)

theorem parent_mem_lineage {id other parent : String} (member : other ∈ lineage id)
    (found : parent? other = some parent) : parent ∈ lineage id := by
  apply (lineage_suffix_of_mem member).subset
  rw [lineage_eq_cons found]
  exact List.mem_cons_of_mem other (self_mem_lineage parent)

theorem height_le_of_mem_lineage {id other : String} (member : other ∈ lineage id) :
    height other ≤ height id := by
  induction id using climb with
  | atRoot =>
      obtain rfl : other = root := by simpa using member
      exact Nat.le_refl _
  | below id parent found ih =>
      rw [lineage_eq_cons found] at member
      rcases List.mem_cons.1 member with rfl | above
      · exact Nat.le_refl _
      · exact Nat.le_of_lt (Nat.lt_of_le_of_lt (ih above) (height_parent_lt found))

theorem self_notMem_lineage_parent {id parent : String} (found : parent? id = some parent) :
    id ∉ lineage parent := by
  intro member
  have bounded := height_le_of_mem_lineage member
  have lower := height_parent_lt found
  omega

theorem nodup_lineage (id : String) : (lineage id).Nodup := by
  induction id using climb with
  | atRoot => simp
  | below id parent found ih =>
      rw [lineage_eq_cons found]
      exact List.nodup_cons.2 ⟨self_notMem_lineage_parent found, ih⟩

/-- What a lineage adds to some paths that do not hold its first path: that one,
and what the rest of it adds to them and to that one. -/
theorem filter_lineage_of_notMem {ids : List String} {id : String} (unknown : id ∉ ids) :
    (lineage id).filter (· ∉ ids) = id :: (ancestors id).filter (· ∉ ids ++ [id]) := by
  rw [lineage, List.filter_cons_of_pos (by simpa using unknown)]
  congr 1
  apply List.filter_congr
  intro other above
  have different : other ≠ id := by
    rintro rfl
    exact (List.nodup_cons.1 (nodup_lineage other)).1 above
  simp [different]

/-- A lineage holds exactly what is met by taking parents again and again. -/
theorem mem_lineage_iff_reflTransGen {id other : String} :
    other ∈ lineage id ↔
      Relation.ReflTransGen (fun child parent => parent? child = some parent) id other := by
  constructor
  · intro member
    induction id using climb with
    | atRoot =>
        obtain rfl : other = root := by simpa using member
        exact .refl
    | below id parent found ih =>
        rw [lineage_eq_cons found] at member
        rcases List.mem_cons.1 member with rfl | above
        · exact .refl
        · exact .head found (ih above)
  · intro climbs
    induction climbs with
    | refl => exact self_mem_lineage id
    | tail _ found ih => exact parent_mem_lineage ih found

@[simp]
theorem head?_lineage (id : String) : (lineage id).head? = some id :=
  rfl

@[simp]
theorem getLast?_lineage (id : String) : (lineage id).getLast? = some root := by
  induction id using climb with
  | atRoot => simp
  | below id parent found ih =>
      rw [lineage_eq_cons found, List.getLast?_cons, ih, Option.getD_some]

theorem root_mem_lineage (id : String) : root ∈ lineage id :=
  List.mem_of_getLast? (getLast?_lineage id)

/-- Of two paths with the same parent, none is on the lineage of the other
one. -/
theorem eq_of_mem_lineage_of_parent?_eq {id other parent : String}
    (found : parent? id = some parent) (otherFound : parent? other = some parent)
    (member : other ∈ lineage id) : other = id := by
  rw [lineage_eq_cons found] at member
  rcases List.mem_cons.1 member with same | above
  · exact same
  · exact absurd above (self_notMem_lineage_parent otherFound)

/-- No lineage holds two paths with the same parent. -/
theorem eq_of_mem_lineage_of_mem_lineage {id first second parent : String}
    (firstFound : parent? first = some parent) (secondFound : parent? second = some parent)
    (firstMember : first ∈ lineage id) (secondMember : second ∈ lineage id) : first = second := by
  rcases List.suffix_or_suffix_of_suffix (lineage_suffix_of_mem firstMember)
    (lineage_suffix_of_mem secondMember) with inside | inside
  · exact eq_of_mem_lineage_of_parent?_eq secondFound firstFound
      (inside.subset (self_mem_lineage first))
  · exact (eq_of_mem_lineage_of_parent?_eq firstFound secondFound
      (inside.subset (self_mem_lineage second))).symm

/-- The lineage of a path is the only way to the root that goes from every path
to its parent. -/
theorem eq_lineage_of_isChain {chain : List String} {id : String}
    (starts : chain.head? = some id) (ends : chain.getLast? = some root)
    (climbs : chain.IsChain fun child parent => parent? child = some parent) :
    chain = lineage id := by
  induction chain generalizing id with
  | nil => simp at starts
  | cons head rest ih =>
      obtain rfl : head = id := by simpa using starts
      cases rest with
      | nil =>
          obtain rfl : head = root := by simpa using ends
          simp
      | cons next rest =>
          obtain ⟨found, above⟩ := List.isChain_cons_cons.1 climbs
          rw [lineage_eq_cons found]
          congr 1
          exact ih rfl (by simpa using ends) above

/-! ## The empty text -/

theorem normalize_ne_empty (path : Option String) : normalize path ≠ "" := by
  unfold normalize
  split
  · decide
  · split
    · decide
    · split
      · decide
      · rename_i rest _ nonempty
        intro isEmpty
        have noRest : rest = [] := String.ofList_injective isEmpty
        exact nonempty (List.isEmpty_iff.2 noRest)
    · rename_i nonempty _
      rintro rfl
      exact nonempty rfl

theorem parent_ne_empty {id parent : String} (found : parent? id = some parent) :
    parent ≠ "" := by
  unfold parent? at found
  split at found
  · simp at found
  · split at found
    · obtain rfl := Option.some.inj found
      decide
    · rename_i nonempty
      obtain rfl := Option.some.inj found
      intro isEmpty
      have noStem : stem id.toList = [] := String.ofList_injective isEmpty
      exact nonempty (List.isEmpty_iff.2 noStem)

/-- No path but the empty text itself has the empty text on its lineage. -/
theorem empty_notMem_lineage {id : String} (nonempty : id ≠ "") : "" ∉ lineage id := by
  induction id using climb with
  | atRoot =>
      rw [lineage_root, List.mem_singleton]
      exact nonempty.symm
  | below id parent found ih =>
      rw [lineage_eq_cons found]
      exact List.not_mem_cons_of_ne_of_not_mem nonempty.symm (ih (parent_ne_empty found))

end Path

end ScanTree

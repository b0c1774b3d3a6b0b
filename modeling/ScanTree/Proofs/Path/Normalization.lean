import ScanTree.Proofs.Path.Segment

/-!
# Ids that are kept

Normalizing drops one leading `./` and no more.  So it keeps just the ids that do not
begin with it, and a path that begins with it twice gives an id that is not kept.  The
ancestors of an id are kept with it, since each of them is a beginning of it or the root.
-/

namespace ScanTree

namespace Path

/-- An id begins with what normalizing drops. -/
def IsDotted (id : String) : Prop :=
  ['.', '/'] <+: id.toList

instance (id : String) : Decidable (IsDotted id) :=
  inferInstanceAs (Decidable (['.', '/'] <+: id.toList))

theorem not_isDotted_root : ¬ IsDotted root := by
  decide

theorem isDotted_iff_exists {id : String} :
    IsDotted id ↔ ∃ rest, id.toList = '.' :: '/' :: rest := by
  constructor
  · rintro ⟨rest, cut⟩
    exact ⟨rest, cut.symm⟩
  · rintro ⟨rest, cut⟩
    exact ⟨rest, cut.symm⟩

theorem normalize_of_isDotted {path : String} {rest : List Char}
    (cut : path.toList = '.' :: '/' :: rest) :
    normalize (some path) = if rest = [] then root else String.ofList rest := by
  simp only [normalize, cut, List.isEmpty_iff]

theorem normalize_of_not_isDotted {path : String} (nonempty : path ≠ "")
    (plain : ¬ IsDotted path) : normalize (some path) = path := by
  unfold normalize
  split
  · contradiction
  · rename_i raw isPath
    obtain rfl := Option.some.inj isPath
    split
    · rename_i empty
      exact absurd (String.toList_inj.1 empty) nonempty
    · rename_i rest cut
      exact absurd (isDotted_iff_exists.2 ⟨rest, cut⟩) plain
    · rfl

/-- Normalizing keeps an id unless it begins with what is dropped. -/
theorem normalize_eq_self_iff {id : String} (nonempty : id ≠ "") :
    normalize (some id) = id ↔ ¬ IsDotted id := by
  refine ⟨fun kept dotted => ?_, normalize_of_not_isDotted nonempty⟩
  obtain ⟨rest, cut⟩ := isDotted_iff_exists.1 dotted
  have sameLength := congrArg (fun id : String => id.toList.length) kept
  rw [normalize_of_isDotted cut] at sameLength
  split at sameLength
  · simp [cut, root] at sameLength
  · simp only [String.toList_ofList, cut, List.length_cons] at sameLength
    omega

/-- What is left begins with `./` just if the path begins with it twice. -/
theorem isDotted_normalize_iff {path : String} :
    IsDotted (normalize (some path)) ↔ ['.', '/', '.', '/'] <+: path.toList := by
  by_cases dotted : IsDotted path
  · obtain ⟨rest, cut⟩ := isDotted_iff_exists.1 dotted
    rw [normalize_of_isDotted cut, cut]
    split
    · rename_i empty
      subst empty
      decide
    · simp [IsDotted]
  · have notTwice : ¬ ['.', '/', '.', '/'] <+: path.toList := fun twice =>
      dotted ((List.prefix_append ['.', '/'] ['.', '/']).trans twice)
    refine iff_of_false ?_ notTwice
    by_cases empty : path = ""
    · subst empty
      decide
    · rwa [normalize_of_not_isDotted empty dotted]

theorem isDotted_of_mem_lineage {id other : String} (member : other ∈ lineage id)
    (dotted : IsDotted other) : IsDotted id := by
  have notRoot : other ≠ root := by
    rintro rfl
    exact not_isDotted_root dotted
  exact dotted.trans (isPrefix_of_mem_lineage member notRoot)

end Path

end ScanTree

import ScanTree.Text.Search
import Mathlib.Data.List.Infix

/-!
# Occurrences of a text in a text

The place that a search finds is the first one at which the searched text
stands, and a search finds nothing only where the searched text occurs nowhere.
-/

namespace ScanTree

namespace Text

/-- A text stands at a place of another one, and at no earlier place. -/
structure IsLeftmost (needle text : List Char) (place : Nat) : Prop where
  stands : needle <+: text.drop place
  first : ∀ earlier < place, ¬ needle <+: text.drop earlier

theorem isLeftmost_of_occurrence? {needle text : List Char} {place : Nat}
    (found : occurrence? needle text = some place) : IsLeftmost needle text place := by
  induction text generalizing place with
  | nil =>
      obtain ⟨isEmpty, same⟩ := Option.ite_none_right_eq_some.1 found
      obtain rfl := Option.some.inj same
      rw [List.isEmpty_iff] at isEmpty
      exact ⟨isEmpty ▸ List.nil_prefix, fun _ before => absurd before (Nat.not_lt_zero _)⟩
  | cons c rest ih =>
      rw [occurrence?] at found
      split at found
      · rename_i standsHere
        obtain rfl := Option.some.inj found
        exact ⟨List.isPrefixOf_iff_prefix.1 standsHere,
          fun _ before => absurd before (Nat.not_lt_zero _)⟩
      · rename_i notHere
        obtain ⟨later, foundLater, rfl⟩ := Option.map_eq_some_iff.1 found
        obtain ⟨stands, first⟩ := ih foundLater
        refine ⟨stands, fun earlier before => ?_⟩
        cases earlier with
        | zero => exact mt List.isPrefixOf_iff_prefix.2 notHere
        | succ earlier => exact first earlier (by omega)

theorem occurrence?_eq_none_iff {needle text : List Char} :
    occurrence? needle text = none ↔ ¬ needle <:+: text := by
  induction text with
  | nil =>
      rw [occurrence?, List.infix_nil]
      cases needle <;> simp
  | cons c rest ih =>
      rw [occurrence?, List.infix_cons_iff, ← List.isPrefixOf_iff_prefix]
      split
      · rename_i standsHere
        simp [standsHere]
      · rename_i notHere
        rw [Option.map_eq_none_iff, ih, not_or]
        exact (and_iff_right notHere).symm

theorem occurs_iff_isInfix {needle text : List Char} :
    occurs needle text = true ↔ needle <:+: text := by
  rw [occurs, ← not_iff_not, ← occurrence?_eq_none_iff, Option.not_isSome_iff_eq_none]

end Text

end ScanTree

import ScanTree.Display.Theme
import ScanTree.Text.Casefold
import ScanTree.Text.Search

/-!
# Highlighting

The first occurrence of a searched text is highlighted, regardless of case.
Folding may turn one character into several, so every folded character knows
the place of the character that it came from.
-/

namespace ScanTree

/-- The folded characters of a text, each with the place of its origin, counted
from `place`. -/
def foldedPlaces (place : Nat) : List Char → List (Char × Nat)
  | [] => []
  | c :: rest =>
    (Text.foldChar c).map (fun image => (image, place)) ++ foldedPlaces (place + 1) rest

/-- The first and the last place of the leftmost occurrence of a folded text. -/
def occurrenceBounds? (query text : List Char) : Option (Nat × Nat) := do
  let folded := foldedPlaces 0 text
  let hit ← Text.occurrence? query (folded.map (·.1))
  let first ← folded[hit]?
  let last ← folded[hit + query.length - 1]?
  pure (first.2, last.2)

/-- A text with the first occurrence of the searched text highlighted.  After
it the colour before it is restored. -/
def Theme.highlightIn (theme : Theme) (text search restore : String) : String :=
  let query := Text.foldChars (Text.stripChars search.toList)
  if query.isEmpty || theme.highlight.isEmpty then text
  else
    match occurrenceBounds? query text.toList with
    | none => text
    | some (first, last) =>
      let chars := text.toList
      String.ofList (chars.take first) ++ theme.highlight
        ++ String.ofList ((chars.take (last + 1)).drop first) ++ theme.reset ++ restore
        ++ String.ofList (chars.drop (last + 1))

theorem map_fst_foldedPlaces (place : Nat) (text : List Char) :
    (foldedPlaces place text).map (·.1) = Text.foldChars text := by
  induction text generalizing place with
  | nil => rfl
  | cons c rest ih => simp [foldedPlaces, ih, Function.comp_def]

end ScanTree

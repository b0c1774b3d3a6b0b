/-!
# Splitting a text

The pieces of a text between separators.  Every separator ends a piece, so a
text with `n` separators has `n + 1` pieces, some of them possibly empty.
-/

namespace ScanTree

namespace Text

/-- The pieces between the characters that satisfy `isSeparator`, empty pieces
included. -/
def piecesBy (isSeparator : Char → Bool) (text : List Char) : List (List Char) :=
  text.foldr
    (fun c pieces =>
      if isSeparator c then [] :: pieces
      else
        match pieces with
        | [] => [[c]]
        | piece :: rest => (c :: piece) :: rest)
    [[]]

@[simp]
theorem piecesBy_nil (isSeparator : Char → Bool) : piecesBy isSeparator [] = [[]] :=
  rfl

theorem piecesBy_ne_nil (isSeparator : Char → Bool) (text : List Char) :
    piecesBy isSeparator text ≠ [] := by
  cases text with
  | nil => simp
  | cons c text =>
    simp only [piecesBy, List.foldr_cons]
    split
    · simp
    · split <;> simp

theorem piecesBy_cons_separator {isSeparator : Char → Bool} {c : Char}
    (separator : isSeparator c = true) (text : List Char) :
    piecesBy isSeparator (c :: text) = [] :: piecesBy isSeparator text := by
  simp [piecesBy, separator]

theorem piecesBy_cons_other {isSeparator : Char → Bool} {c : Char} {text piece : List Char}
    {rest : List (List Char)} (other : isSeparator c = false)
    (pieces : piecesBy isSeparator text = piece :: rest) :
    piecesBy isSeparator (c :: text) = (c :: piece) :: rest := by
  simp only [piecesBy, List.foldr_cons, other] at pieces ⊢
  simp [pieces]

/-- The lines of a text: its pieces between line feeds. -/
def lines (text : String) : List String :=
  (piecesBy (· == '\n') text.toList).map String.ofList

/-- Write every line end, a carriage return with or without a line feed after
it, as a line feed. -/
def unifyLineEnds (text : String) : String :=
  let step := fun (state : List Char × Bool) (c : Char) =>
    if c == '\r' then ('\n' :: state.1, true)
    else if c == '\n' && state.2 then (state.1, false)
    else (c :: state.1, false)
  String.ofList (text.toList.foldl step ([], false)).1.reverse

end Text

end ScanTree

import ScanTree.Text.CellWidth

/-!
# Text with escape sequences

A styled text consists of glyphs and of complete escape sequences, which take
no room.  An escape character that begins no complete sequence is a glyph.  A
tab reaches to the next multiple of eight columns.
-/

namespace ScanTree

namespace Terminal

/-- The escape character. -/
def esc : Char := '\x1b'

/-- A part of a styled text. -/
inductive Piece where
  /-- A complete escape sequence. -/
  | escape (sequence : List Char)
  /-- A character that is shown. -/
  | glyph (c : Char)
deriving DecidableEq, Repr

/-- Whether a character may stand among the parameters of a sequence. -/
def isParameter (c : Char) : Bool :=
  ('0' ≤ c && c ≤ '9') || c == ';' || c == '?'

/-- Whether a character may stand between the parameters and the end of a
sequence. -/
def isIntermediate (c : Char) : Bool :=
  ' ' ≤ c && c ≤ '/'

/-- Whether a character ends a sequence. -/
def isFinal (c : Char) : Bool :=
  '@' ≤ c && c ≤ '~'

/-- The complete escape sequence at an escape character, given what follows it,
and the rest of the text. -/
def escape? : List Char → Option (List Char × List Char)
  | '[' :: body =>
    let parameters := body.takeWhile isParameter
    let afterParameters := body.dropWhile isParameter
    let intermediates := afterParameters.takeWhile isIntermediate
    match afterParameters.dropWhile isIntermediate with
    | final :: rest =>
      if isFinal final then
        some (esc :: '[' :: parameters ++ intermediates ++ [final], rest)
      else none
    | [] => none
  | _ => none

theorem esc_cons_eq_of_escape? {text sequence rest : List Char}
    (found : escape? text = some (sequence, rest)) : esc :: text = sequence ++ rest := by
  unfold escape? at found
  split at found
  · rename_i body
    simp only at found
    split at found
    · rename_i final after atFinal
      split at found
      · simp only [Option.some.injEq, Prod.mk.injEq] at found
        obtain ⟨rfl, rfl⟩ := found
        have bodyEq := List.takeWhile_append_dropWhile (p := isParameter) (l := body)
        have restEq := List.takeWhile_append_dropWhile (p := isIntermediate)
          (l := body.dropWhile isParameter)
        rw [atFinal] at restEq
        rw [← restEq] at bodyEq
        simp only [List.cons_append, List.append_assoc, List.nil_append]
        rw [bodyEq]
      · simp at found
    · simp at found
  · simp at found

theorem sequence_ne_nil_of_escape? {text sequence rest : List Char}
    (found : escape? text = some (sequence, rest)) : sequence ≠ [] := by
  unfold escape? at found
  split at found
  · simp only at found
    split at found
    · split at found
      · simp only [Option.some.injEq, Prod.mk.injEq] at found
        obtain ⟨rfl, rfl⟩ := found
        simp
      · simp at found
    · simp at found
  · simp at found

theorem length_le_of_escape? {text sequence rest : List Char}
    (found : escape? text = some (sequence, rest)) : rest.length ≤ text.length := by
  have lengths := congrArg List.length (esc_cons_eq_of_escape? found)
  have positive := List.length_pos_iff.2 (sequence_ne_nil_of_escape? found)
  simp only [List.length_cons, List.length_append] at lengths
  omega

/-- The parts of a styled text in order. -/
def pieces : List Char → List Piece
  | [] => []
  | c :: text =>
    if c = esc then
      match _found : escape? text with
      | some (sequence, rest) => .escape sequence :: pieces rest
      | none => .glyph c :: pieces text
    else .glyph c :: pieces text
termination_by text => text.length
decreasing_by
  · have := length_le_of_escape? (by assumption)
    simp only [List.length_cons]
    omega
  · simp
  · simp

/-- The shown character of a part. -/
def Piece.glyph? : Piece → Option Char
  | .glyph c => some c
  | .escape _ => none

/-- The characters of a part. -/
def Piece.chars : Piece → List Char
  | .glyph c => [c]
  | .escape sequence => sequence

/-- A text without its complete escape sequences. -/
def stripChars (text : List Char) : List Char :=
  (pieces text).filterMap Piece.glyph?

/-- A text without its complete escape sequences. -/
def strip (text : String) : String :=
  String.ofList (stripChars text.toList)

/-- The distance of two tab stops. -/
def tabStop : Nat := 8

/-- The cells that a character takes at a column. -/
def widthAt (c : Char) (column : Nat) : Nat :=
  if c = '\t' then tabStop - column % tabStop else Text.cellWidth c

/-- The column after a character. -/
def advance (column : Nat) (c : Char) : Nat :=
  column + widthAt c column

/-- The column after a text that begins at the left edge. -/
def width (text : String) : Nat :=
  (stripChars text.toList).foldl advance 0

/-- The parts that fit between a column and the right edge.  Tabs become
blanks.  From the first glyph on that does not fit no glyph is kept; sequences
always are. -/
def clipPieces (edge column : Nat) : List Piece → List Char
  | [] => []
  | .escape sequence :: rest => sequence ++ clipPieces edge column rest
  | .glyph c :: rest =>
    if edge ≤ column then clipPieces edge column rest
    else
      let cells := widthAt c column
      if edge < column + cells then clipPieces edge edge rest
      else
        (if c = '\t' then List.replicate cells ' ' else [c])
          ++ clipPieces edge (column + cells) rest

/-- A text cut to at most `edge` columns, and the empty text if that is not
positive. -/
def clip (text : String) (edge : Int) : String :=
  if edge ≤ 0 then ""
  else String.ofList (clipPieces edge.toNat 0 (pieces text.toList))

@[simp]
theorem pieces_nil : pieces [] = [] := by
  rw [pieces]

theorem pieces_glyph {c : Char} {text : List Char} (notEsc : c ≠ esc) :
    pieces (c :: text) = .glyph c :: pieces text := by
  rw [pieces, if_neg notEsc]

theorem pieces_escape {text sequence rest : List Char}
    (found : escape? text = some (sequence, rest)) :
    pieces (esc :: text) = .escape sequence :: pieces rest := by
  rw [pieces, if_pos rfl]
  split
  · rename_i found'
    rw [found] at found'
    obtain ⟨rfl, rfl⟩ := Prod.mk.inj (Option.some.inj found')
    rfl
  · rename_i missing
    rw [found] at missing
    cases missing

theorem pieces_esc_glyph {text : List Char} (missing : escape? text = none) :
    pieces (esc :: text) = .glyph esc :: pieces text := by
  rw [pieces, if_pos rfl]
  split
  · rename_i found
    rw [missing] at found
    cases found
  · rfl

/-- The parts of a text make up the text. -/
theorem flatMap_chars_pieces (text : List Char) : (pieces text).flatMap Piece.chars = text := by
  fun_induction pieces text with
  | case1 => rfl
  | case2 text sequence rest found ih =>
    rw [List.flatMap_cons, ih]
    exact (esc_cons_eq_of_escape? found).symm
  | case3 text _ ih => simp [Piece.chars, ih]
  | case4 c text _ ih => simp [Piece.chars, ih]

end Terminal

end ScanTree

import ScanTree.Proofs.Display.Clipping
import Mathlib.Data.List.Infix

/-!
# Styled lines

What a line is styled with has no bearing on where it is cut: the glyphs that
are kept depend on the glyphs alone, and all sequences are kept.  Where no
escape character is a glyph, the kept parts are also what their text is read as.
So a styled line may be clipped before or after its sequences are taken out, and
it loses none of them by clipping.
-/

namespace ScanTree

namespace Terminal

/-- The escape sequence of a part. -/
def Piece.sequence? : Piece → Option (List Char)
  | .escape sequence => some sequence
  | .glyph _ => none

/-- The escape sequences among some parts, in order. -/
def sequences (parts : List Piece) : List (List Char) :=
  parts.filterMap Piece.sequence?

@[simp]
theorem sequences_nil : sequences [] = [] :=
  rfl

@[simp]
theorem sequences_glyph_cons {c : Char} {parts : List Piece} :
    sequences (.glyph c :: parts) = sequences parts :=
  rfl

@[simp]
theorem sequences_escape_cons {sequence : List Char} {parts : List Piece} :
    sequences (.escape sequence :: parts) = sequence :: sequences parts :=
  rfl

theorem sequences_map_glyph_append (text : List Char) (parts : List Piece) :
    sequences (text.map .glyph ++ parts) = sequences parts := by
  simp [sequences, List.filterMap_map, Function.comp_def, Piece.sequence?]

section Keeping

variable {edge column : Nat} {c : Char} {rest : List Piece}

theorem keptPieces_of_fits (left : column < edge) (fits : column + widthAt c column ≤ edge) :
    keptPieces edge column (.glyph c :: rest) =
      (shown c column).map .glyph ++ keptPieces edge (column + widthAt c column) rest := by
  rw [keptPieces, if_neg (by omega), if_neg (by omega)]

/-- Right of the edge only sequences are kept. -/
theorem keptPieces_of_full (full : edge ≤ column) (parts : List Piece) :
    keptPieces edge column parts = (sequences parts).map .escape := by
  induction parts with
  | nil => rfl
  | cons part parts ih =>
      cases part with
      | escape sequence =>
          rw [keptPieces, ih]
          rfl
      | glyph c =>
          rw [keptPieces, if_pos full, ih]
          rfl

/-- After a glyph that does not fit only sequences are kept. -/
theorem keptPieces_of_not_fits
    (overlaps : ¬ (column < edge ∧ column + widthAt c column ≤ edge)) :
    keptPieces edge column (.glyph c :: rest) = (sequences rest).map .escape := by
  by_cases full : edge ≤ column
  · exact keptPieces_of_full full _
  · rw [keptPieces, if_neg full, if_pos (by omega)]
    exact keptPieces_of_full (Nat.le_refl edge) rest

theorem keptPieces_map_escape (sequences : List (List Char)) :
    keptPieces edge column (sequences.map .escape) = sequences.map .escape := by
  induction sequences with
  | nil => rfl
  | cons sequence sequences ih => rw [List.map_cons, keptPieces, ih]

theorem sequences_keptPieces (edge column : Nat) (parts : List Piece) :
    sequences (keptPieces edge column parts) = sequences parts := by
  fun_induction keptPieces edge column parts with
  | case1 => rfl
  | case2 column sequence rest ih => rw [sequences_escape_cons, ih, sequences_escape_cons]
  | case3 column c rest full ih => exact ih
  | case4 column c rest notFull overlaps ih => exact ih
  | case5 column c rest notFull fits ih =>
      rw [sequences_map_glyph_append, ih, sequences_glyph_cons]

/-- The glyphs that are kept depend on the glyphs alone. -/
theorem glyphs_keptPieces (edge column : Nat) (parts : List Piece) :
    glyphs (keptPieces edge column parts) =
      glyphs (keptPieces edge column ((glyphs parts).map .glyph)) := by
  fun_induction keptPieces edge column parts with
  | case1 => rfl
  | case2 column sequence rest ih => exact ih
  | case3 column c rest full ih =>
      rw [glyphs_glyph_cons, List.map_cons, keptPieces, if_pos full, ih]
  | case4 column c rest notFull overlaps ih =>
      rw [glyphs_glyph_cons, List.map_cons, keptPieces, if_neg notFull, if_pos overlaps, ih]
  | case5 column c rest notFull fits ih =>
      rw [glyphs_glyph_cons, List.map_cons, keptPieces_of_fits (by omega) (by omega),
        glyphs_append, glyphs_append, ih]

end Keeping

theorem esc_notMem_shown {c : Char} (notEsc : c ≠ esc) (column : Nat) : esc ∉ shown c column := by
  unfold shown
  split
  · intro member
    exact absurd (List.eq_of_mem_replicate member) (by decide)
  · simpa using Ne.symm notEsc

theorem esc_notMem_glyphs_keptPieces {parts : List Piece} (noEsc : esc ∉ glyphs parts)
    (edge column : Nat) : esc ∉ glyphs (keptPieces edge column parts) := by
  fun_induction keptPieces edge column parts with
  | case1 => simp
  | case2 column sequence rest ih => exact ih noEsc
  | case3 column c rest full ih => exact ih (mt (List.mem_cons_of_mem c) noEsc)
  | case4 column c rest notFull overlaps ih => exact ih (mt (List.mem_cons_of_mem c) noEsc)
  | case5 column c rest notFull fits ih =>
      rw [glyphs_glyph_cons, List.mem_cons, not_or] at noEsc
      rw [glyphs_append, glyphs_map_glyph, List.mem_append, not_or]
      exact ⟨esc_notMem_shown (Ne.symm noEsc.1) column, ih noEsc.2⟩

theorem flatMap_chars_of_sequences_eq_nil {parts : List Piece} (unstyled : sequences parts = []) :
    parts.flatMap Piece.chars = glyphs parts := by
  induction parts with
  | nil => rfl
  | cons part parts ih =>
      cases part with
      | escape sequence => cases unstyled
      | glyph c =>
          rw [List.flatMap_cons, ih unstyled, glyphs_glyph_cons]
          rfl

theorem clip_of_pos {edge : Int} (positive : 1 ≤ edge) (text : String) :
    clip text edge =
      String.ofList ((keptPieces edge.toNat 0 (pieces text.toList)).flatMap Piece.chars) := by
  rw [clip, if_neg (by omega), clipPieces_eq_flatMap_chars]

/-- Some parts are what their text is read as. -/
def Legible (parts : List Piece) : Prop :=
  pieces (parts.flatMap Piece.chars) = parts

theorem legible_pieces (text : List Char) : Legible (pieces text) := by
  rw [Legible, flatMap_chars_pieces]

theorem Legible.complete {parts : List Piece} (legible : Legible parts) : Complete parts :=
  legible ▸ complete_pieces _

@[simp]
theorem legible_nil : Legible [] :=
  pieces_nil

theorem legible_escape_cons {sequence : List Char} {parts : List Piece} :
    Legible (.escape sequence :: parts) ↔ IsSequence sequence ∧ Legible parts := by
  constructor
  · intro legible
    have complete := (complete_escape_cons.1 legible.complete).1
    refine ⟨complete, ?_⟩
    rw [Legible, List.flatMap_cons, Piece.chars, pieces_sequence_append complete] at legible
    exact (List.cons.inj legible).2
  · rintro ⟨complete, legible⟩
    rw [Legible, List.flatMap_cons, Piece.chars, pieces_sequence_append complete, legible]

theorem legible_glyph_cons {c : Char} {parts : List Piece} (notEsc : c ≠ esc) :
    Legible (.glyph c :: parts) ↔ Legible parts := by
  rw [Legible, List.flatMap_cons, Piece.chars, List.singleton_append, pieces_glyph notEsc,
    List.cons_inj_right, Legible]

/-- An escape character is a glyph where it begins no sequence. -/
theorem legible_esc_cons {parts : List Piece} :
    Legible (.glyph esc :: parts) ↔
      escape? (parts.flatMap Piece.chars) = none ∧ Legible parts := by
  rw [Legible, List.flatMap_cons, Piece.chars, List.singleton_append]
  cases found : escape? (parts.flatMap Piece.chars) with
  | none => rw [pieces_esc_glyph found, List.cons_inj_right, Legible, eq_self, true_and]
  | some cut => simp [pieces_escape found]

theorem legible_of_esc_notMem {parts : List Piece} (complete : Complete parts)
    (noEsc : esc ∉ glyphs parts) : Legible parts := by
  induction parts with
  | nil => exact legible_nil
  | cons part parts ih =>
      cases part with
      | escape sequence =>
          obtain ⟨isSequence, complete⟩ := complete_escape_cons.1 complete
          exact legible_escape_cons.2 ⟨isSequence, ih complete noEsc⟩
      | glyph c =>
          rw [glyphs_glyph_cons, List.mem_cons, not_or] at noEsc
          exact (legible_glyph_cons (Ne.symm noEsc.1)).2 (ih (complete_glyph_cons.1 complete) noEsc.2)

theorem pieces_of_esc_notMem {text : List Char} (noEsc : esc ∉ text) :
    pieces text = text.map .glyph := by
  have legible : Legible (text.map .glyph) :=
    legible_of_esc_notMem (complete_map_glyph text) (by rwa [glyphs_map_glyph])
  rwa [Legible, flatMap_chars_map_glyph] at legible

/-- Every escape character of a text begins a complete sequence. -/
def Unbroken (text : List Char) : Prop :=
  ∀ after, esc :: after <:+ text → (escape? after).isSome

instance (text : List Char) : Decidable (Unbroken text) :=
  decidable_of_iff
    (∀ rest ∈ text.tails, rest.head? = some esc → (escape? rest.tail).isSome)
    ⟨fun all after isSuffix => all (esc :: after) ((List.mem_tails _ _).2 isSuffix) rfl,
      fun unbroken rest isTail begins => by
        obtain ⟨after, rfl⟩ := List.head?_eq_some_iff.1 begins
        exact unbroken after ((List.mem_tails _ _).1 isTail)⟩

theorem esc_notMem_glyphs_pieces {text : List Char} (unbroken : Unbroken text) :
    esc ∉ glyphs (pieces text) := by
  fun_induction pieces text with
  | case1 => simp
  | case2 text sequence rest found ih =>
      refine ih fun after isSuffix => unbroken after (isSuffix.trans ?_)
      exact ⟨sequence, (esc_cons_eq_of_escape? found).symm⟩
  | case3 text missing ih =>
      have begins := unbroken text (List.suffix_refl _)
      rw [missing] at begins
      cases begins
  | case4 c text notEsc ih =>
      rw [glyphs_glyph_cons, List.mem_cons, not_or]
      exact ⟨Ne.symm notEsc, ih fun after isSuffix =>
        unbroken after (isSuffix.trans (List.suffix_cons c text))⟩

/-- Where every escape character begins a complete sequence, a line may be
clipped before or after its sequences are taken out, and clipping keeps all of
them in their order. -/
theorem strip_clip (text : String) (edge : Int) (positive : 1 ≤ edge)
    (unbroken : Unbroken text.toList) :
    strip (clip text edge) = clip (strip text) edge ∧
      sequences (pieces (clip text edge).toList) = sequences (pieces text.toList) := by
  let parts := pieces text.toList
  let kept := keptPieces edge.toNat 0 parts
  have noEsc : esc ∉ glyphs parts := esc_notMem_glyphs_pieces unbroken
  have legible : Legible kept :=
    legible_of_esc_notMem (complete_keptPieces (complete_pieces _) _ _)
      (esc_notMem_glyphs_keptPieces noEsc _ _)
  have read : pieces (clip text edge).toList = kept := by
    rw [clip_of_pos positive, String.toList_ofList]
    exact legible
  constructor
  · let unstyled := keptPieces edge.toNat 0 ((glyphs parts).map .glyph)
    have bare : sequences unstyled = [] := by
      rw [sequences_keptPieces]
      simpa using sequences_map_glyph_append (glyphs parts) []
    calc strip (clip text edge)
        = String.ofList (glyphs kept) := by rw [strip, stripChars, read, glyphs]
      _ = String.ofList (glyphs unstyled) := by rw [glyphs_keptPieces]
      _ = String.ofList (unstyled.flatMap Piece.chars) := by
          rw [flatMap_chars_of_sequences_eq_nil bare]
      _ = clip (strip text) edge := by
          rw [clip_of_pos positive, strip, String.toList_ofList]
          exact congrArg (fun read => String.ofList
            ((keptPieces edge.toNat 0 read).flatMap Piece.chars)) (pieces_of_esc_notMem noEsc).symm
  · rw [read]
    exact sequences_keptPieces _ _ _

/-- A red line with a tab is cut to nine columns. -/
theorem strip_clip_of_styled_tab :
    (1 : Int) ≤ 9 ∧ Unbroken "\x1b[31ma\tbc\x1b[0m".toList ∧
      strip (clip "\x1b[31ma\tbc\x1b[0m" 9) = clip (strip "\x1b[31ma\tbc\x1b[0m") 9 ∧
        sequences (pieces (clip "\x1b[31ma\tbc\x1b[0m" 9).toList) =
          sequences (pieces "\x1b[31ma\tbc\x1b[0m".toList) :=
  have unbroken : Unbroken "\x1b[31ma\tbc\x1b[0m".toList := by decide +kernel
  ⟨by decide, unbroken, strip_clip _ 9 (by decide) unbroken⟩

-- The tab becomes blanks, and the reset after the cut is kept.
example : clip "\x1b[31ma\tbc\x1b[0m" 9 = "\x1b[31ma       b\x1b[0m" := by decide +kernel

end Terminal

end ScanTree

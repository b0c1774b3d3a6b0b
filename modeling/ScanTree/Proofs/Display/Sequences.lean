import ScanTree.Display.Terminal
import Mathlib.Data.List.TakeWhile

/-!
# Reading a styled text again

A complete escape sequence holds no escape character after its first one.  So
where the parts of a text are put together and read again, a sequence is found
where it stood, and an escape character that was a glyph can at most become a
sequence with the glyphs right after it.
-/

namespace ScanTree

namespace Terminal

theorem isParameter_iff {c : Char} :
    isParameter c = true ↔ 48 ≤ c.toNat ∧ c.toNat ≤ 57 ∨ c.toNat = 59 ∨ c.toNat = 63 := by
  simp [isParameter, Char.le_def, UInt32.le_iff_toNat_le, ← Char.toNat_inj, or_assoc]

theorem isIntermediate_iff {c : Char} :
    isIntermediate c = true ↔ 32 ≤ c.toNat ∧ c.toNat ≤ 47 := by
  simp [isIntermediate, Char.le_def, UInt32.le_iff_toNat_le]

theorem isFinal_iff {c : Char} : isFinal c = true ↔ 64 ≤ c.toNat ∧ c.toNat ≤ 126 := by
  simp [isFinal, Char.le_def, UInt32.le_iff_toNat_le]

theorem isParameter_eq_false {c : Char}
    (other : isIntermediate c = true ∨ isFinal c = true) : isParameter c = false := by
  rw [isIntermediate_iff, isFinal_iff] at other
  rw [← Bool.not_eq_true, isParameter_iff]
  omega

theorem isIntermediate_eq_false {c : Char} (final : isFinal c = true) :
    isIntermediate c = false := by
  rw [isFinal_iff] at final
  rw [← Bool.not_eq_true, isIntermediate_iff]
  omega

/-- An escape character, a bracket, parameters, intermediate characters and a
final one. -/
def IsSequence (sequence : List Char) : Prop :=
  ∃ parameters intermediates final,
    (∀ c ∈ parameters, isParameter c = true) ∧
      (∀ c ∈ intermediates, isIntermediate c = true) ∧ isFinal final = true ∧
        sequence = esc :: '[' :: parameters ++ intermediates ++ [final]

theorem cut_run {p : Char → Bool} {run rest : List Char} (all : ∀ c ∈ run, p c = true)
    (ends : ∀ c ∈ rest.head?, p c = false) :
    (run ++ rest).takeWhile p = run ∧ (run ++ rest).dropWhile p = rest := by
  rw [List.takeWhile_append_of_pos all, List.dropWhile_append_of_pos all]
  cases rest with
  | nil => simp
  | cons c rest => simp [ends c rfl]

theorem escape?_sequence {sequence text rest : List Char} (complete : IsSequence sequence)
    (textEq : esc :: text = sequence ++ rest) : escape? text = some (sequence, rest) := by
  obtain ⟨parameters, intermediates, final, allParameters, allIntermediates, isFinal, rfl⟩ :=
    complete
  have textEq : text = '[' :: (parameters ++ (intermediates ++ final :: rest)) := by
    simpa using textEq
  have afterParameters : ∀ c ∈ (intermediates ++ final :: rest).head?, isParameter c = false := by
    intro c isHead
    apply isParameter_eq_false
    cases intermediates with
    | nil => exact .inr (by simp_all)
    | cons first intermediates => exact .inl (by simp_all)
  have afterIntermediates : ∀ c ∈ (final :: rest).head?, isIntermediate c = false := by
    intro c isHead
    obtain rfl : final = c := by simpa using isHead
    exact isIntermediate_eq_false isFinal
  rw [textEq]
  simp [escape?, cut_run allParameters afterParameters,
    cut_run allIntermediates afterIntermediates, isFinal]

theorem isSequence_of_escape? {text sequence rest : List Char}
    (found : escape? text = some (sequence, rest)) : IsSequence sequence := by
  unfold escape? at found
  split at found
  · rename_i body
    simp only at found
    split at found
    · rename_i final after _
      split at found
      · rename_i isFinal
        obtain ⟨rfl, rfl⟩ := Prod.mk.inj (Option.some.inj found)
        exact ⟨_, _, final, fun _ => List.mem_takeWhile_imp, fun _ => List.mem_takeWhile_imp,
          isFinal, rfl⟩
      · cases found
    · cases found
  · cases found

theorem IsSequence.exists_eq_cons {sequence : List Char} (complete : IsSequence sequence) :
    ∃ tail, sequence = esc :: tail ∧ esc ∉ tail := by
  obtain ⟨parameters, intermediates, final, allParameters, allIntermediates, isFinal, rfl⟩ :=
    complete
  refine ⟨'[' :: (parameters ++ intermediates ++ [final]), by simp, fun member => ?_⟩
  have code : esc.toNat = 27 := rfl
  rw [isFinal_iff] at isFinal
  simp only [List.append_assoc, List.mem_cons, List.mem_append, List.not_mem_nil,
    or_false] at member
  rcases member with isBracket | isParameter | isIntermediate | rfl
  · cases isBracket
  · have := isParameter_iff.1 (allParameters _ isParameter)
    omega
  · have := isIntermediate_iff.1 (allIntermediates _ isIntermediate)
    omega
  · omega

theorem pieces_sequence_append {sequence : List Char} (complete : IsSequence sequence)
    (rest : List Char) : pieces (sequence ++ rest) = .escape sequence :: pieces rest := by
  obtain ⟨tail, rfl, -⟩ := complete.exists_eq_cons
  exact pieces_escape (escape?_sequence complete rfl)

/-- All sequences among the parts are complete. -/
def Complete (parts : List Piece) : Prop :=
  ∀ sequence, .escape sequence ∈ parts → IsSequence sequence

@[simp]
theorem complete_nil : Complete [] := by
  simp [Complete]

@[simp]
theorem complete_glyph_cons {c : Char} {parts : List Piece} :
    Complete (.glyph c :: parts) ↔ Complete parts := by
  simp [Complete]

@[simp]
theorem complete_escape_cons {sequence : List Char} {parts : List Piece} :
    Complete (.escape sequence :: parts) ↔ IsSequence sequence ∧ Complete parts := by
  simp [Complete]

@[simp]
theorem complete_append {parts later : List Piece} :
    Complete (parts ++ later) ↔ Complete parts ∧ Complete later := by
  simp only [Complete, List.mem_append]
  exact ⟨fun all => ⟨fun _ member => all _ (.inl member), fun _ member => all _ (.inr member)⟩,
    fun both _ => Or.rec (both.1 _) (both.2 _)⟩

theorem complete_map_glyph (text : List Char) : Complete (text.map .glyph) := by
  simp [Complete]

theorem complete_pieces (text : List Char) : Complete (pieces text) := by
  fun_induction pieces text with
  | case1 => exact complete_nil
  | case2 text sequence rest found ih =>
      exact complete_escape_cons.2 ⟨isSequence_of_escape? found, ih⟩
  | case3 text _ ih => exact complete_glyph_cons.2 ih
  | case4 c text _ ih => exact complete_glyph_cons.2 ih

theorem exists_rest_of_flatMap_chars {parts : List Piece} (complete : Complete parts)
    {run rest : List Char} (noEsc : esc ∉ run)
    (textEq : parts.flatMap Piece.chars = run ++ rest) :
    ∃ later, parts = run.map .glyph ++ later ∧ later.flatMap Piece.chars = rest := by
  induction run generalizing parts with
  | nil => exact ⟨parts, rfl, textEq⟩
  | cons c run ih =>
      obtain ⟨isOther, noEsc'⟩ := not_or.1 (mt List.mem_cons.2 noEsc)
      cases parts with
      | nil => simp at textEq
      | cons part parts =>
          cases part with
          | escape sequence =>
              obtain ⟨tail, rfl, -⟩ := (complete_escape_cons.1 complete).1.exists_eq_cons
              exact absurd (List.cons.inj textEq).1 isOther
          | glyph d =>
              obtain ⟨rfl, restEq⟩ := List.cons.inj textEq
              obtain ⟨later, rfl, laterEq⟩ := ih (complete_glyph_cons.1 complete) noEsc' restEq
              exact ⟨later, rfl, laterEq⟩

/-- A sequence found after an escape character in the text of some parts takes
up glyphs only. -/
theorem exists_run_of_escape? {parts : List Piece} (complete : Complete parts)
    {sequence rest : List Char}
    (found : escape? (parts.flatMap Piece.chars) = some (sequence, rest)) :
    ∃ run later, parts = run.map .glyph ++ later ∧ sequence = esc :: run ∧
      rest = later.flatMap Piece.chars := by
  obtain ⟨run, rfl, noEsc⟩ := (isSequence_of_escape? found).exists_eq_cons
  have textEq := (List.cons.inj (esc_cons_eq_of_escape? found)).2
  obtain ⟨later, partsEq, restEq⟩ := exists_rest_of_flatMap_chars complete noEsc textEq
  exact ⟨run, later, partsEq, rfl, restEq.symm⟩

/-- The characters that are shown for some parts. -/
def glyphs (parts : List Piece) : List Char :=
  parts.filterMap Piece.glyph?

@[simp]
theorem glyphs_nil : glyphs [] = [] :=
  rfl

@[simp]
theorem glyphs_glyph_cons {c : Char} {parts : List Piece} :
    glyphs (.glyph c :: parts) = c :: glyphs parts :=
  rfl

@[simp]
theorem glyphs_escape_cons {sequence : List Char} {parts : List Piece} :
    glyphs (.escape sequence :: parts) = glyphs parts :=
  rfl

@[simp]
theorem glyphs_append (parts later : List Piece) :
    glyphs (parts ++ later) = glyphs parts ++ glyphs later :=
  List.filterMap_append

@[simp]
theorem glyphs_map_glyph (text : List Char) : glyphs (text.map .glyph) = text := by
  simp [glyphs, List.filterMap_map, Function.comp_def, Piece.glyph?]

theorem stripChars_sequence_append {sequence : List Char} (complete : IsSequence sequence)
    (rest : List Char) : stripChars (sequence ++ rest) = stripChars rest := by
  rw [stripChars, pieces_sequence_append complete]
  rfl

theorem stripChars_escape {text sequence rest : List Char}
    (found : escape? text = some (sequence, rest)) :
    stripChars (esc :: text) = stripChars rest := by
  rw [stripChars, pieces_escape found]
  rfl

theorem stripChars_glyph {c : Char} {text : List Char} (notEsc : c ≠ esc) :
    stripChars (c :: text) = c :: stripChars text := by
  rw [stripChars, pieces_glyph notEsc]
  rfl

theorem stripChars_esc_glyph {text : List Char} (missing : escape? text = none) :
    stripChars (esc :: text) = esc :: stripChars text := by
  rw [stripChars, pieces_esc_glyph missing]
  rfl

/-- Where the parts of a text are put together and read again, no glyph is
shown that was none before. -/
theorem stripChars_sublist_glyphs {parts : List Piece} (complete : Complete parts) :
    List.Sublist (stripChars (parts.flatMap Piece.chars)) (glyphs parts) := by
  -- By the number of parts, since a new sequence takes up several glyphs at once.
  induction count : parts.length using Nat.strongRecOn generalizing parts with
  | ind number ih =>
      cases parts with
      | nil => simp [stripChars]
      | cons part parts =>
          subst count
          cases part with
          | escape sequence =>
              obtain ⟨isSequence, complete⟩ := complete_escape_cons.1 complete
              rw [List.flatMap_cons, Piece.chars, stripChars_sequence_append isSequence]
              exact ih _ (Nat.lt_succ_self _) complete rfl
          | glyph c =>
              replace complete := complete_glyph_cons.1 complete
              rw [List.flatMap_cons, Piece.chars, List.singleton_append, glyphs_glyph_cons]
              by_cases isEsc : c = esc
              · subst c
                cases found : escape? (parts.flatMap Piece.chars) with
                | none =>
                    rw [stripChars_esc_glyph found]
                    exact (ih _ (Nat.lt_succ_self _) complete rfl).cons_cons _
                | some cut =>
                    obtain ⟨sequence, rest⟩ := cut
                    obtain ⟨run, later, rfl, _, rfl⟩ := exists_run_of_escape? complete found
                    have fewer : later.length <
                        (Piece.glyph esc :: (run.map .glyph ++ later)).length := by
                      rw [List.length_cons, List.length_append]
                      omega
                    have sublist := ih _ fewer (complete_append.1 complete).2 rfl
                    rw [stripChars_escape found, glyphs_append, glyphs_map_glyph]
                    exact (sublist.trans (List.sublist_append_right run _)).cons _
              · rw [stripChars_glyph isEsc]
                exact (ih _ (Nat.lt_succ_self _) complete rfl).cons_cons _

end Terminal

end ScanTree

import ScanTree.Proofs.Display.Styling

/-!
# Lines that fit

A line fits where each of its glyphs begins left of the edge and ends there at
the latest; such a line is not changed by clipping.  A line without tabs that is
narrower than the edge fits.  A line that reaches the edge fits unless its last
glyph takes no cell: such a glyph begins at the edge, and clipping takes it away
although there is room for it.
-/

namespace ScanTree

namespace Terminal

/-- Every one of the characters, none of them a tab, begins left of the edge and
ends there at the latest. -/
def Fits (edge : Nat) : Nat → List Char → Prop
  | _, [] => True
  | column, c :: text =>
    (column < edge ∧ column + Text.cellWidth c ≤ edge) ∧
      Fits edge (column + Text.cellWidth c) text

theorem Fits.of_sublist {edge : Nat} {text longer : List Char}
    (sublist : List.Sublist text longer) {column right : Nat} (fits : Fits edge right longer)
    (left : column ≤ right) : Fits edge column text := by
  induction sublist generalizing column right with
  | slnil => trivial
  | cons c _ ih => exact ih fits.2 (by omega)
  | cons_cons c _ ih =>
      obtain ⟨⟨begins, ends⟩, fits⟩ := fits
      exact ⟨⟨by omega, by omega⟩, ih fits (by omega)⟩

theorem fits_append {edge column : Nat} {text later : List Char} :
    Fits edge column (text ++ later) ↔
      Fits edge column text ∧ Fits edge (column + room text) later := by
  induction text generalizing column with
  | nil => simp [Fits, room]
  | cons c text ih => rw [List.cons_append, Fits, Fits, ih, room, Nat.add_assoc, ← and_assoc]

theorem fits_of_room_lt {edge column : Nat} {text : List Char}
    (narrow : column + room text < edge) : Fits edge column text := by
  induction text generalizing column with
  | nil => trivial
  | cons c text ih =>
      rw [room] at narrow
      exact ⟨⟨by omega, by omega⟩, ih (by omega)⟩

theorem fits_concat {edge column : Nat} {text : List Char} {last : Char} :
    Fits edge column (text ++ [last]) ↔
      column + room text < edge ∧ column + room text + Text.cellWidth last ≤ edge := by
  rw [fits_append]
  constructor
  · exact fun fits => fits.2.1
  · exact fun ends => ⟨fits_of_room_lt ends.1, ends, trivial⟩

/-- Characters that have room fit if they stay left of the edge or the last of
them takes a cell. -/
theorem fits_iff {edge : Nat} {text : List Char} (narrow : room text ≤ edge) :
    Fits edge 0 text ↔ room text < edge ∨ ∀ c ∈ text.getLast?, Text.cellWidth c ≠ 0 := by
  rcases List.eq_nil_or_concat text with rfl | ⟨text, last, rfl⟩
  · simp [Fits]
  · rw [List.concat_eq_append] at narrow ⊢
    rw [fits_concat, List.getLast?_concat]
    simp only [room_append, room, Option.mem_some_iff, forall_eq'] at narrow ⊢
    omega

theorem fits_replicate_blank {edge column count : Nat} (ends : column + count ≤ edge) :
    Fits edge column (List.replicate count ' ') := by
  have blank : Text.cellWidth ' ' = 1 := Text.cellWidth_eq_one_of_ascii (by decide)
  induction count generalizing column with
  | zero => trivial
  | succ count ih =>
      rw [List.replicate_succ, Fits, blank]
      exact ⟨⟨by omega, by omega⟩, ih (by omega)⟩

theorem fits_shown {edge column : Nat} {c : Char} (left : column < edge)
    (ends : column + widthAt c column ≤ edge) : Fits edge column (shown c column) := by
  unfold shown
  split
  · exact fits_replicate_blank ends
  · rename_i notTab
    rw [widthAt, if_neg notTab] at ends
    exact ⟨⟨left, ends⟩, trivial⟩

theorem fits_glyphs_keptPieces (edge column : Nat) (parts : List Piece) :
    Fits edge column (glyphs (keptPieces edge column parts)) := by
  fun_induction keptPieces edge column parts with
  | case1 => trivial
  | case2 column sequence rest ih => exact ih
  | case3 column c rest full ih => exact ih
  | case4 column c rest notFull overlaps ih =>
      exact ih.of_sublist (List.Sublist.refl _) (by omega)
  | case5 column c rest notFull fits ih =>
      rw [glyphs_append, glyphs_map_glyph, fits_append, room_shown]
      exact ⟨fits_shown (by omega) (by omega), ih⟩

theorem tab_notMem_glyphs_cons {c : Char} {parts : List Piece} :
    '\t' ∉ glyphs (.glyph c :: parts) ↔ c ≠ '\t' ∧ '\t' ∉ glyphs parts := by
  rw [glyphs_glyph_cons, List.mem_cons, not_or, ne_comm]

theorem keptPieces_of_fits_of_ne_tab {edge column : Nat} {c : Char} {rest : List Piece}
    (notTab : c ≠ '\t') (fits : column < edge ∧ column + widthAt c column ≤ edge) :
    keptPieces edge column (.glyph c :: rest) =
      .glyph c :: keptPieces edge (column + widthAt c column) rest := by
  have same : shown c column = [c] := if_neg notTab
  rw [keptPieces_of_fits fits.1 fits.2, same, List.map_singleton, List.singleton_append]

theorem keptPieces_eq_self {edge column : Nat} {parts : List Piece}
    (noTab : '\t' ∉ glyphs parts) (fits : Fits edge column (glyphs parts)) :
    keptPieces edge column parts = parts := by
  induction parts generalizing column with
  | nil => rfl
  | cons part parts ih =>
      cases part with
      | escape sequence => rw [keptPieces, ih noTab fits]
      | glyph c =>
          obtain ⟨notTab, noTab⟩ := tab_notMem_glyphs_cons.1 noTab
          have cells : widthAt c column = Text.cellWidth c := if_neg notTab
          rw [keptPieces_of_fits_of_ne_tab notTab (cells ▸ fits.1), cells, ih noTab fits.2]

theorem clip_of_fits {text : String} {edge : Int} (positive : 1 ≤ edge)
    (noTab : '\t' ∉ stripChars text.toList)
    (fits : Fits edge.toNat 0 (stripChars text.toList)) : clip text edge = text := by
  rw [clip_of_pos positive, keptPieces_eq_self noTab fits, flatMap_chars_pieces,
    String.ofList_toList]

theorem legible_map_sequences {parts : List Piece} (complete : Complete parts) :
    Legible ((sequences parts).map .escape) := by
  induction parts with
  | nil => exact legible_nil
  | cons part parts ih =>
      cases part with
      | escape sequence =>
          obtain ⟨isSequence, complete⟩ := complete_escape_cons.1 complete
          exact legible_escape_cons.2 ⟨isSequence, ih complete⟩
      | glyph c => exact ih (complete_glyph_cons.1 complete)

/-- Without tabs the glyphs at the beginning of a clipped line are those at the
beginning of the line. -/
theorem map_glyph_prefix_of_keptPieces {edge column : Nat} {run : List Char}
    {parts : List Piece} (noTab : '\t' ∉ glyphs parts)
    (begins : run.map .glyph <+: keptPieces edge column parts) :
    run.map .glyph <+: parts := by
  induction parts generalizing run column with
  | nil => exact begins
  | cons part parts ih =>
      cases run with
      | nil => exact List.nil_prefix
      | cons d run =>
          cases part with
          | escape sequence => cases (List.cons_prefix_cons.1 begins).1
          | glyph c =>
              obtain ⟨notTab, noTab⟩ := tab_notMem_glyphs_cons.1 noTab
              by_cases fits : column < edge ∧ column + widthAt c column ≤ edge
              · rw [keptPieces_of_fits_of_ne_tab notTab fits] at begins
                obtain ⟨isHead, begins⟩ := List.cons_prefix_cons.1 begins
                exact List.cons_prefix_cons.2 ⟨isHead, ih noTab begins⟩
              · rw [keptPieces_of_not_fits fits] at begins
                cases remaining : sequences parts with
                | nil => simp [remaining] at begins
                | cons sequence sequences => simp [remaining] at begins

/-- Without tabs clipping makes no broken sequence complete. -/
theorem escape?_keptPieces {parts : List Piece} (complete : Complete parts)
    (noTab : '\t' ∉ glyphs parts) (missing : escape? (parts.flatMap Piece.chars) = none)
    (edge column : Nat) :
    escape? ((keptPieces edge column parts).flatMap Piece.chars) = none := by
  by_contra found
  obtain ⟨⟨sequence, rest⟩, found⟩ := Option.ne_none_iff_exists'.1 found
  obtain ⟨run, later, keptEq, rfl, -⟩ :=
    exists_run_of_escape? (complete_keptPieces complete edge column) found
  obtain ⟨after, rfl⟩ := map_glyph_prefix_of_keptPieces noTab ⟨later, keptEq.symm⟩
  have found' : escape? (run ++ after.flatMap Piece.chars) =
      some (esc :: run, after.flatMap Piece.chars) :=
    escape?_sequence (isSequence_of_escape? found) rfl
  rw [List.flatMap_append, flatMap_chars_map_glyph, found'] at missing
  cases missing

/-- Without tabs the parts of a clipped line are what it is read as. -/
theorem legible_keptPieces {parts : List Piece} (legible : Legible parts)
    (noTab : '\t' ∉ glyphs parts) (edge column : Nat) :
    Legible (keptPieces edge column parts) := by
  induction parts generalizing column with
  | nil => exact legible_nil
  | cons part parts ih =>
      cases part with
      | escape sequence =>
          obtain ⟨isSequence, legible⟩ := legible_escape_cons.1 legible
          rw [keptPieces]
          exact legible_escape_cons.2 ⟨isSequence, ih legible noTab column⟩
      | glyph c =>
          have complete := complete_glyph_cons.1 legible.complete
          obtain ⟨notTab, noTab'⟩ := tab_notMem_glyphs_cons.1 noTab
          by_cases fits : column < edge ∧ column + widthAt c column ≤ edge
          · rw [keptPieces_of_fits_of_ne_tab notTab fits]
            by_cases isEsc : c = esc
            · subst c
              obtain ⟨missing, legible⟩ := legible_esc_cons.1 legible
              exact legible_esc_cons.2
                ⟨escape?_keptPieces complete noTab' missing edge _, ih legible noTab' _⟩
            · exact (legible_glyph_cons isEsc).2
                (ih ((legible_glyph_cons isEsc).1 legible) noTab' _)
          · rw [keptPieces_of_not_fits fits]
            exact legible_map_sequences complete

theorem stripChars_sublist (text : List Char) : List.Sublist (stripChars text) text := by
  have sublist := stripChars_sublist_glyphs (complete_map_glyph text)
  rwa [flatMap_chars_map_glyph, glyphs_map_glyph] at sublist

theorem width_eq_room {text : String} (noTab : '\t' ∉ stripChars text.toList) :
    width text = room (stripChars text.toList) := by
  rw [width, foldl_advance noTab, Nat.zero_add]

theorem room_of_ascii {text : List Char} (ascii : ∀ c ∈ text, c.toNat < 0x80) :
    room text = text.length := by
  induction text with
  | nil => rfl
  | cons c text ih =>
      obtain ⟨asciiHead, asciiRest⟩ := List.forall_mem_cons.1 ascii
      rw [room, Text.cellWidth_eq_one_of_ascii asciiHead, ih asciiRest, List.length_cons,
        Nat.add_comm]

theorem room_acuteAccent : room ['\u0301'] = 0 := by
  have combining : Text.isCombining '\u0301' = true := by
    unfold Text.isCombining Text.combiningRanges Text.CodeRanges.ofText Text.tableEntries
    -- Without this the characters of the table's text are looked up one by one.
    rw [String.toList_ofList]
    decide +kernel
  rw [room, room, Text.cellWidth, if_pos combining]

/-- A line without tabs that is no wider than the edge is left as it is by
clipping if and only if it stays left of the edge or its last glyph takes a
cell. -/
theorem clip_eq_self_iff (text : String) (edge : Int) (noTab : '\t' ∉ text.toList)
    (positive : 1 ≤ edge) (narrow : (width text : Int) ≤ edge) :
    clip text edge = text ↔
      (width text : Int) < edge ∨
        ∀ c ∈ (stripChars text.toList).getLast?, Text.cellWidth c ≠ 0 := by
  have noTab' : '\t' ∉ stripChars text.toList := mt (stripChars_sublist _).mem noTab
  have fitsIff : Fits edge.toNat 0 (stripChars text.toList) ↔
      (width text : Int) < edge ∨
        ∀ c ∈ (stripChars text.toList).getLast?, Text.cellWidth c ≠ 0 := by
    have widthEq := width_eq_room noTab'
    rw [fits_iff (by omega), ← widthEq]
    exact or_congr_left (by omega)
  rw [← fitsIff]
  constructor
  · intro same
    -- The line is read as the kept parts, and those fit.
    have legible := legible_keptPieces (legible_pieces text.toList) noTab' edge.toNat 0
    have keptEq : keptPieces edge.toNat 0 (pieces text.toList) = pieces text.toList := by
      rw [← legible, ← String.toList_ofList (l := List.flatMap _ _), ← clip_of_pos positive, same]
    have fits := fits_glyphs_keptPieces edge.toNat 0 (pieces text.toList)
    rwa [keptEq] at fits
  · exact clip_of_fits positive noTab'

/-- A bold letter with an accent and a letter after it fit into two columns: the last
letter takes a cell, so nothing of the line is dropped. -/
theorem clip_of_accent_within :
    '\t' ∉ "\x1b[1me\u0301a\x1b[0m".toList ∧ (1 : Int) ≤ 2 ∧
      (width "\x1b[1me\u0301a\x1b[0m" : Int) ≤ 2 ∧
        clip "\x1b[1me\u0301a\x1b[0m" 2 = "\x1b[1me\u0301a\x1b[0m" := by
  have noTab : '\t' ∉ "\x1b[1me\u0301a\x1b[0m".toList := by decide
  have read : stripChars "\x1b[1me\u0301a\x1b[0m".toList = ['e'] ++ (['\u0301'] ++ ['a']) := by
    decide +kernel
  have widthEq : width "\x1b[1me\u0301a\x1b[0m" = 2 := by
    rw [width_eq_room (mt (stripChars_sublist _).mem noTab), read, room_append, room_append,
      room_acuteAccent, room_of_ascii (by simp), room_of_ascii (by simp)]
    rfl
  have narrow : (width "\x1b[1me\u0301a\x1b[0m" : Int) ≤ 2 := by omega
  refine ⟨noTab, by decide, narrow, (clip_eq_self_iff _ 2 noTab (by decide) narrow).2 (.inr ?_)⟩
  rw [read]
  simp [Text.cellWidth_eq_one_of_ascii]

/-- The accent of the last letter has room and is cut off. -/
theorem clip_of_accent_at_edge :
    '\t' ∉ "cafe\u0301".toList ∧ (1 : Int) ≤ 4 ∧ (width "cafe\u0301" : Int) ≤ 4 ∧
      clip "cafe\u0301" 4 = "cafe" ∧ clip "cafe\u0301" 4 ≠ "cafe\u0301" := by
  have noTab : '\t' ∉ "cafe\u0301".toList := by decide
  have read : stripChars "cafe\u0301".toList = ['c', 'a', 'f', 'e'] ++ ['\u0301'] := by
    decide +kernel
  have widthEq : width "cafe\u0301" = 4 := by
    rw [width_eq_room (mt (stripChars_sublist _).mem noTab), read, room_append,
      room_acuteAccent, room_of_ascii (by simp)]
    rfl
  have narrow : (width "cafe\u0301" : Int) ≤ 4 := by omega
  exact ⟨noTab, by decide, narrow, by decide +kernel, by decide +kernel⟩

end Terminal

end ScanTree

import ScanTree.Proofs.Display.Sequences

/-!
# Clipped lines

What is kept of a line is again a list of parts: its sequences, and glyphs up to
the right edge, with blanks in place of tabs.  The kept glyphs take no more room
than there is.  A broken sequence may become a complete one where a tab between
its characters becomes blanks; then the line is narrower still.
-/

namespace ScanTree

namespace Terminal

/-- The cells that characters other than tabs take together. -/
def room : List Char → Nat
  | [] => 0
  | c :: text => Text.cellWidth c + room text

@[simp]
theorem room_append (text later : List Char) : room (text ++ later) = room text + room later := by
  induction text with
  | nil => simp [room]
  | cons c text ih => rw [List.cons_append, room, room, ih, Nat.add_assoc]

theorem room_replicate (count : Nat) (c : Char) :
    room (List.replicate count c) = count * Text.cellWidth c := by
  induction count with
  | zero => simp [room]
  | succ count ih => rw [List.replicate_succ, room, ih, Nat.succ_mul, Nat.add_comm]

theorem room_le_of_sublist {text longer : List Char} (sublist : List.Sublist text longer) :
    room text ≤ room longer := by
  induction sublist with
  | slnil => exact Nat.le_refl _
  | cons c _ ih =>
      rw [room]
      omega
  | cons_cons c _ ih =>
      rw [room, room]
      omega

theorem foldl_advance {text : List Char} (noTab : '\t' ∉ text) (column : Nat) :
    text.foldl advance column = column + room text := by
  induction text generalizing column with
  | nil => simp [room]
  | cons c text ih =>
      rw [List.mem_cons, not_or] at noTab
      rw [List.foldl_cons, ih noTab.2, advance, widthAt, if_neg (Ne.symm noTab.1)]
      simp [room, Nat.add_assoc]

/-- The characters that a clipped line holds for a glyph. -/
def shown (c : Char) (column : Nat) : List Char :=
  if c = '\t' then List.replicate (widthAt c column) ' ' else [c]

theorem tab_notMem_shown (c : Char) (column : Nat) : '\t' ∉ shown c column := by
  unfold shown
  split
  · simp [List.mem_replicate]
  · rename_i notTab
    simpa using Ne.symm notTab

theorem room_shown (c : Char) (column : Nat) : room (shown c column) = widthAt c column := by
  unfold shown
  split
  · have blank : Text.cellWidth ' ' = 1 := Text.cellWidth_eq_one_of_ascii (by decide)
    rw [room_replicate, blank, Nat.mul_one]
  · rename_i notTab
    simp [room, widthAt, notTab]

/-- The parts of a clipped line. -/
def keptPieces (edge column : Nat) : List Piece → List Piece
  | [] => []
  | .escape sequence :: rest => .escape sequence :: keptPieces edge column rest
  | .glyph c :: rest =>
    if edge ≤ column then keptPieces edge column rest
    else if edge < column + widthAt c column then keptPieces edge edge rest
    else (shown c column).map .glyph ++ keptPieces edge (column + widthAt c column) rest

@[simp]
theorem flatMap_chars_map_glyph (text : List Char) :
    (text.map Piece.glyph).flatMap Piece.chars = text := by
  simp [List.flatMap_map, Piece.chars]

theorem clipPieces_eq_flatMap_chars (edge column : Nat) (parts : List Piece) :
    clipPieces edge column parts = (keptPieces edge column parts).flatMap Piece.chars := by
  fun_induction keptPieces edge column parts with
  | case1 => rfl
  | case2 column sequence rest ih =>
      rw [clipPieces, ih]
      rfl
  | case3 column c rest full ih => rw [clipPieces, if_pos full, ih]
  | case4 column c rest notFull overlaps ih =>
      rw [clipPieces, if_neg notFull]
      simp only [overlaps, if_true, ih]
  | case5 column c rest notFull fits ih =>
      rw [clipPieces, if_neg notFull, List.flatMap_append, flatMap_chars_map_glyph]
      simp only [fits, if_false, ih, shown]

theorem complete_keptPieces {parts : List Piece} (complete : Complete parts)
    (edge column : Nat) : Complete (keptPieces edge column parts) := by
  fun_induction keptPieces edge column parts with
  | case1 => exact complete_nil
  | case2 column sequence rest ih =>
      obtain ⟨isSequence, complete⟩ := complete_escape_cons.1 complete
      exact complete_escape_cons.2 ⟨isSequence, ih complete⟩
  | case3 column c rest full ih => exact ih (complete_glyph_cons.1 complete)
  | case4 column c rest notFull overlaps ih => exact ih (complete_glyph_cons.1 complete)
  | case5 column c rest notFull fits ih =>
      exact complete_append.2 ⟨complete_map_glyph _, ih (complete_glyph_cons.1 complete)⟩

theorem tab_notMem_glyphs_keptPieces (edge column : Nat) (parts : List Piece) :
    '\t' ∉ glyphs (keptPieces edge column parts) := by
  fun_induction keptPieces edge column parts with
  | case1 => simp
  | case2 column sequence rest ih => exact ih
  | case3 column c rest full ih => exact ih
  | case4 column c rest notFull overlaps ih => exact ih
  | case5 column c rest notFull fits ih =>
      rw [glyphs_append, glyphs_map_glyph, List.mem_append, not_or]
      exact ⟨tab_notMem_shown c column, ih⟩

theorem column_add_room_keptPieces_le {edge column : Nat} (within : column ≤ edge)
    (parts : List Piece) :
    column + room (glyphs (keptPieces edge column parts)) ≤ edge := by
  fun_induction keptPieces edge column parts with
  | case1 => simpa [room] using within
  | case2 column sequence rest ih => exact ih within
  | case3 column c rest full ih => exact ih within
  | case4 column c rest notFull overlaps ih =>
      have := ih (le_refl edge)
      omega
  | case5 column c rest notFull fits ih =>
      have := ih (by omega)
      rw [glyphs_append, glyphs_map_glyph, room_append, room_shown]
      omega

/-- A clipped line is no wider than asked for, whatever sequences, broken
sequences and tabs the text holds. -/
theorem width_clip_le (text : String) (edge : Int) :
    (width (clip text edge) : Int) ≤ max edge 0 := by
  unfold clip
  split
  · have nothing : width "" = 0 := by simp [width, stripChars]
    rw [nothing]
    omega
  · let kept := keptPieces edge.toNat 0 (pieces text.toList)
    have sublist : List.Sublist (stripChars (kept.flatMap Piece.chars)) (glyphs kept) :=
      stripChars_sublist_glyphs (complete_keptPieces (complete_pieces _) _ _)
    have noTab : '\t' ∉ stripChars (kept.flatMap Piece.chars) := fun member =>
      tab_notMem_glyphs_keptPieces _ _ _ (sublist.subset member)
    have fits : 0 + room (glyphs kept) ≤ edge.toNat :=
      column_add_room_keptPieces_le (Nat.zero_le _) _
    have narrower := room_le_of_sublist sublist
    rw [width, String.toList_ofList, clipPieces_eq_flatMap_chars, foldl_advance noTab]
    omega

-- The blanks of the tab complete the sequence.
example : width "\x1b[\tm" = 9 ∧ width (clip "\x1b[\tm" 9) = 0 := by decide +kernel

end Terminal

end ScanTree

import ScanTree.Proofs.Display.Fitting

/-!
# Lines clipped twice

A line without tabs that is clipped twice is cut at the nearer of the two edges.
Blanks in place of a tab may complete a broken sequence, so a line with tabs can
be read as a narrower one after it has been clipped; but then all of it fits,
and clipping it to the same edge again changes nothing.
-/

namespace ScanTree

namespace Terminal

theorem keptPieces_keptPieces {parts : List Piece} (noTab : '\t' ∉ glyphs parts)
    (first second column : Nat) :
    keptPieces second column (keptPieces first column parts) =
      keptPieces (min first second) column parts := by
  induction parts generalizing column with
  | nil => rfl
  | cons part parts ih =>
      cases part with
      | escape sequence => rw [keptPieces, keptPieces, keptPieces, ih noTab]
      | glyph c =>
          obtain ⟨notTab, noTab⟩ := tab_notMem_glyphs_cons.1 noTab
          by_cases fitsFirst : column < first ∧ column + widthAt c column ≤ first
          · rw [keptPieces_of_fits_of_ne_tab notTab fitsFirst]
            by_cases fitsSecond : column < second ∧ column + widthAt c column ≤ second
            · rw [keptPieces_of_fits_of_ne_tab notTab fitsSecond, ih noTab,
                keptPieces_of_fits_of_ne_tab notTab (by omega)]
            · rw [keptPieces_of_not_fits fitsSecond, sequences_keptPieces,
                keptPieces_of_not_fits (by omega)]
          · rw [keptPieces_of_not_fits fitsFirst, keptPieces_map_escape,
              keptPieces_of_not_fits (by omega)]

theorem clip_of_nonpos {edge : Int} (nonpositive : edge ≤ 0) (text : String) :
    clip text edge = "" :=
  if_pos nonpositive

@[simp]
theorem clip_empty (edge : Int) : clip "" edge = "" := by
  by_cases positive : 1 ≤ edge
  · simp [clip_of_pos positive, keptPieces]
  · exact clip_of_nonpos (by omega) ""

/-- Clipping a clipped line to the same edge changes nothing. -/
theorem clip_clip_self (text : String) (edge : Int) :
    clip (clip text edge) edge = clip text edge := by
  by_cases positive : 1 ≤ edge
  · let kept := keptPieces edge.toNat 0 (pieces text.toList)
    have clipped : (clip text edge).toList = kept.flatMap Piece.chars := by
      rw [clip_of_pos positive, String.toList_ofList]
    -- The clipped line shows no glyph that was not kept, and those that were fit.
    have sublist : List.Sublist (stripChars (clip text edge).toList) (glyphs kept) := by
      rw [clipped]
      exact stripChars_sublist_glyphs (complete_keptPieces (complete_pieces _) _ _)
    have fits : Fits edge.toNat 0 (glyphs kept) := fits_glyphs_keptPieces _ _ _
    have noTab : '\t' ∉ glyphs kept := tab_notMem_glyphs_keptPieces _ _ _
    exact clip_of_fits positive (mt sublist.mem noTab) (fits.of_sublist sublist (Nat.le_refl 0))
  · rw [clip_of_nonpos (by omega) text, clip_empty]

/-- A line without tabs that is clipped twice is cut at the nearer edge. -/
theorem clip_clip_of_tab_notMem {text : String} (noTab : '\t' ∉ text.toList)
    (first second : Int) : clip (clip text first) second = clip text (min first second) := by
  by_cases positive : 1 ≤ first
  · by_cases positive' : 1 ≤ second
    · have noTab' : '\t' ∉ glyphs (pieces text.toList) := mt (stripChars_sublist _).mem noTab
      have read := legible_keptPieces (legible_pieces text.toList) noTab' first.toNat 0
      have nearer : (min first second).toNat = min first.toNat second.toNat := by omega
      rw [clip_of_pos positive', clip_of_pos positive, String.toList_ofList, read,
        keptPieces_keptPieces noTab', clip_of_pos (by omega), nearer]
    · rw [clip_of_nonpos (by omega), clip_of_nonpos (by omega)]
  · rw [clip_of_nonpos (by omega) text, clip_empty, clip_of_nonpos (by omega)]

/-- A line that is clipped twice is cut at the nearer edge if it holds no tab,
and to one and the same edge whatever it holds. -/
theorem clip_clip (text : String) (first second : Int) :
    ('\t' ∉ text.toList → clip (clip text first) second = clip text (min first second)) ∧
      clip (clip text first) first = clip text first :=
  ⟨fun noTab => clip_clip_of_tab_notMem noTab first second, clip_clip_self text first⟩

/-- A line with a sequence that another one breaks off is cut to five columns and then to
four, and to five columns twice. -/
theorem clip_clip_of_broken_sequence :
    '\t' ∉ "\x1b[3\x1b[1mabc\x1b[0m".toList ∧
      clip (clip "\x1b[3\x1b[1mabc\x1b[0m" 5) 4 = clip "\x1b[3\x1b[1mabc\x1b[0m" (min 5 4) ∧
        clip (clip "\x1b[3\x1b[1mabc\x1b[0m" 5) 5 = clip "\x1b[3\x1b[1mabc\x1b[0m" 5 :=
  have noTab : '\t' ∉ "\x1b[3\x1b[1mabc\x1b[0m".toList := by decide
  ⟨noTab, (clip_clip _ 5 4).1 noTab, (clip_clip _ 5 4).2⟩

end Terminal

end ScanTree

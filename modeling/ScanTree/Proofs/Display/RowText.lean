import Mathlib.Data.List.Forall2
import ScanTree.Display.Row
import ScanTree.Proofs.Display.Highlighting
import ScanTree.Proofs.Display.Styling
import ScanTree.Proofs.Outcome

/-!
# What themes add to a row

A row is put together from codes, of which nothing is shown, and from texts
without escape characters.  Where no escape character is left over, taking the
sequences out of two texts side by side is taking them out of each, so what is
shown of a row is put together in the same way from what is shown of its parts:
it is the row without colours.
-/

namespace ScanTree

namespace Terminal

theorem pieces_append {text : List Char} (noEsc : esc ∉ glyphs (pieces text))
    (later : List Char) : pieces (text ++ later) = pieces text ++ pieces later := by
  fun_induction pieces text with
  | case1 => rfl
  | case2 text sequence rest found ih =>
      rw [esc_cons_eq_of_escape? found, List.append_assoc,
        pieces_sequence_append (isSequence_of_escape? found), ih noEsc, List.cons_append]
  | case3 text missing ih => exact absurd List.mem_cons_self noEsc
  | case4 c text notEsc ih =>
      rw [List.cons_append, pieces_glyph notEsc, ih (mt (List.mem_cons_of_mem c) noEsc),
        List.cons_append]

/-- A styled text dresses the text that is left of it without its sequences, if
no escape character is left. -/
structure Dresses (styled plain : String) : Prop where
  strip_eq : strip styled = plain
  noEsc : esc ∉ plain.toList

namespace Dresses

variable {styled plain styled' plain' : String}

theorem esc_notMem_glyphs (dresses : Dresses styled plain) :
    esc ∉ glyphs (pieces styled.toList) := by
  have left := dresses.noEsc
  rwa [← dresses.strip_eq, strip, String.toList_ofList] at left

theorem append (first : Dresses styled plain) (second : Dresses styled' plain') :
    Dresses (styled ++ styled') (plain ++ plain') where
  strip_eq := by
    have parts := pieces_append first.esc_notMem_glyphs styled'.toList
    rw [strip, String.toList_append, stripChars, parts, List.filterMap_append,
      String.ofList_append]
    exact congrArg₂ (· ++ ·) first.strip_eq second.strip_eq
  noEsc := by
    rw [String.toList_append, List.mem_append, not_or]
    exact ⟨first.noEsc, second.noEsc⟩

theorem refl {text : String} (noEsc : esc ∉ text.toList) : Dresses text text where
  strip_eq := by
    rw [strip, stripChars, pieces_of_esc_notMem noEsc]
    exact congrArg String.ofList (glyphs_map_glyph _) |>.trans String.ofList_toList
  noEsc := noEsc

theorem intercalate {separator : String} (bare : esc ∉ separator.toList)
    {texts plains : List String} (all : List.Forall₂ Dresses texts plains) :
    Dresses (separator.intercalate texts) (separator.intercalate plains) := by
  induction all with
  | nil => exact .refl (by simp)
  | @cons _ _ texts plains first rest ih =>
      cases rest with
      | nil => simpa using first
      | cons second rest =>
          rw [String.intercalate_cons_cons, String.intercalate_cons_cons]
          exact (first.append (.refl bare)).append ih

end Dresses

end Terminal

open Terminal (esc Dresses)

theorem esc_notMem_intChars (value : Int) : esc ∉ intChars value := by
  intro member
  rcases List.mem_append.1 member with inSign | inDigits
  · split at inSign <;> simp [esc] at inSign
  · have isDigit := Nat.isDigit_of_mem_toDigits (by omega) (by omega) inDigits
    exact absurd isDigit (by decide)

namespace Theme

/-- What a theme puts around the parts of a row. -/
def codes (theme : Theme) : List String :=
  [theme.reset, theme.dim, theme.highlight, theme.treeMarker, theme.treeDir, theme.treeFile,
    theme.statusIncluded, theme.statusIgnored, theme.statusSkipped, theme.statusUnknown,
    theme.badgeOnlyFirst, theme.badgeOnlySecond, theme.badgeDiff, theme.costLow, theme.costMid,
    theme.costHigh]

/-- Nothing is shown of the codes of a theme. -/
def IsStyling (theme : Theme) : Prop :=
  ∀ code ∈ theme.codes, Terminal.strip code = ""

instance (theme : Theme) : Decidable theme.IsStyling :=
  inferInstanceAs (Decidable (∀ code ∈ theme.codes, Terminal.strip code = ""))

theorem isStyling_of_mem_coloured {theme : Theme} (coloured : theme ∈ coloured) :
    theme.IsStyling := by
  have all : ∀ theme ∈ Theme.coloured, theme.IsStyling := by decide +kernel
  exact all theme coloured

variable {theme : Theme}

theorem IsStyling.dresses (styling : theme.IsStyling) {code : String} (isCode : code ∈ theme.codes) :
    Dresses code "" :=
  ⟨styling code isCode, by simp⟩

/-- Of a text in which something is highlighted the text is shown. -/
theorem IsStyling.dresses_highlightIn (styling : theme.IsStyling) {text restore : String}
    (noEsc : esc ∉ text.toList) (restores : Dresses restore "") (search : String) :
    Dresses (theme.highlightIn text search restore) text := by
  rcases highlightIn_cases theme text search restore with same | ⟨first, last, ordered, eq⟩
  · rw [same]
    exact .refl noEsc
  · have part {chars : List Char} (inText : chars.Sublist text.toList) :
        Dresses (String.ofList chars) (String.ofList chars) :=
      .refl (by
        rw [String.toList_ofList]
        exact fun member => noEsc (inText.subset member))
    have before := part (List.take_sublist first text.toList)
    have middle := part ((List.drop_sublist first _).trans (List.take_sublist last text.toList))
    have after := part (List.drop_sublist last text.toList)
    have highlight : Dresses theme.highlight "" := styling.dresses (by simp [codes])
    have reset : Dresses theme.reset "" := styling.dresses (by simp [codes])
    have whole : text.toList.take first ++ (text.toList.take last).drop first
        ++ text.toList.drop last = text.toList := by
      have takes : (text.toList.take last).take first = text.toList.take first := by
        rw [List.take_take, Nat.min_eq_left ordered]
      rw [← takes, List.take_append_drop, List.take_append_drop]
    have shown := (before.append highlight).append middle |>.append reset |>.append restores
      |>.append after
    simp only [String.append_empty, ← String.ofList_append, whole, String.ofList_toList] at shown
    rw [eq]
    exact shown

/-- Nothing is shown of the colours of the parts of a row. -/
theorem IsStyling.dresses_statusColor (styling : theme.IsStyling) (status : Status) :
    Dresses (theme.statusColor status) (plain.statusColor status) := by
  cases status <;> exact styling.dresses (by simp [codes, statusColor])

theorem IsStyling.dresses_costColor (styling : theme.IsStyling) (cost : Int) :
    Dresses (theme.costColor cost) (plain.costColor cost) := by
  unfold costColor
  split
  · exact styling.dresses (by simp [codes])
  · split <;> exact styling.dresses (by simp [codes])

theorem IsStyling.dresses_badgeColor (styling : theme.IsStyling) (badge : Badge) :
    Dresses (badge.color theme) (badge.color plain) := by
  rcases badge with (_ | _) | _ <;> exact styling.dresses (by simp [codes, Badge.color])

end Theme

namespace Row

open Theme (plain IsStyling)

/-- Under a metric that exists, a row has a text just if the cost that it shows can be
written. -/
theorem exists_text_iff {row : Row} {style : RowStyle} {metric : CostMetric}
    (isMetric : style.metric = metric.name) :
    (∃ text, row.text style = .ok text) ↔
      ∀ shown ∈ row.shownStats? style, intFits (shown.cost metric) = true := by
  rw [text, isMetric]
  cases row.shownStats? style with
  | none => exact ⟨fun _ => nofun, fun _ => ⟨_, rfl⟩⟩
  | some shown =>
      have cost : ((some shown).mapM fun stats =>
          (costOf (some stats) metric.name).mapError RowError.view) =
            .ok (some (shown.cost metric)) := by
        rw [Option.mapM_some, costOf, CostMetric.ofName_name]
        rfl
      simp only [cost, Option.mem_some_iff, forall_eq', ← exists_intText_iff, costText, bind,
        Except.bind, Option.mapM_some]
      cases intText (shown.cost metric) with
      | error error => exact ⟨fun ⟨_, shows⟩ => (nomatch shows), fun ⟨_, shows⟩ => (nomatch shows)⟩
      | ok digits => exact ⟨fun _ => ⟨digits, rfl⟩, fun _ => ⟨_, rfl⟩⟩

variable {theme : Theme}

theorem dresses_badgeText (styling : theme.IsStyling) (badge : Badge) :
    Dresses (badgeText theme badge) (badgeText plain badge) := by
  have opening : Dresses "[" "[" := .refl (by decide)
  have label : Dresses badge.label badge.label := .refl (by
    rcases badge with (_ | _) | _ <;> decide)
  have closing : Dresses "]" "]" := .refl (by decide)
  have reset : Dresses theme.reset plain.reset := styling.dresses (by simp [Theme.codes])
  exact (styling.dresses_badgeColor badge).append opening |>.append label |>.append closing
    |>.append reset

/-- A cost has a text in the colours of a theme if it has one without colours, which is
what is shown of it. -/
theorem costText_cases (styling : theme.IsStyling) (cost : Int) :
    (∃ text shown, costText theme cost = .ok text ∧ costText plain cost = .ok shown ∧
      Dresses text shown) ∨
    ∃ error, costText theme cost = .error error ∧ costText plain cost = .error error := by
  cases fits : intFits cost with
  | false =>
      right
      simp only [costText, intText, fits]
      exact ⟨_, rfl, rfl⟩
  | true =>
      left
      simp only [costText, intText_of_fits fits]
      refine ⟨_, _, rfl, rfl, ?_⟩
      have opening : Dresses "[" "[" := .refl (by decide)
      have digits : Dresses (String.ofList (intChars cost)) (String.ofList (intChars cost)) :=
        .refl (by simpa using esc_notMem_intChars cost)
      have closing : Dresses "]" "]" := .refl (by decide)
      have reset : Dresses theme.reset plain.reset := styling.dresses (by simp [Theme.codes])
      exact (styling.dresses_costColor cost).append opening |>.append digits |>.append closing
        |>.append reset

theorem dresses_headText (styling : theme.IsStyling) {row : Row}
    (noEsc : esc ∉ row.node.name.toList) (style : RowStyle) :
    Dresses (row.headText { style with theme := theme })
      (row.headText { style with theme := plain }) := by
  have reset : Dresses theme.reset plain.reset := styling.dresses (by simp [Theme.codes])
  have indent : Dresses (String.ofList (List.replicate (2 * row.depth) ' '))
      (String.ofList (List.replicate (2 * row.depth) ' ')) :=
    .refl (by simp [List.mem_replicate, esc])
  have treeMarker : Dresses theme.treeMarker plain.treeMarker :=
    styling.dresses (by simp [Theme.codes])
  have marker : Dresses row.marker row.marker := by
    unfold marker
    split
    · split <;> exact .refl (by decide)
    · exact .refl (by decide)
  have status := styling.dresses_statusColor row.node.status
  have dot : Dresses "●" "●" := .refl (by decide)
  have blank : Dresses " " " " := .refl (by decide)
  have color : Dresses
      (if row.dimmed then theme.dim
        else if row.node.isDirectoryLike then theme.treeDir else theme.treeFile) "" := by
    split
    · exact styling.dresses (by simp [Theme.codes])
    · split <;> exact styling.dresses (by simp [Theme.codes])
  have uncoloured : (if row.dimmed then plain.dim
      else if row.node.isDirectoryLike then plain.treeDir else plain.treeFile) = "" := by
    split
    · rfl
    · split <;> rfl
  have name := styling.dresses_highlightIn noEsc color style.search
  have slash : Dresses (if row.node.isDirectoryLike then "/" else "")
      (if row.node.isDirectoryLike then "/" else "") := by
    split <;> exact .refl (by decide)
  have unstyled : plain.highlight = "" := rfl
  unfold headText
  simp only [uncoloured, Theme.highlightIn_of_unstyled unstyled]
  exact indent.append treeMarker |>.append marker |>.append reset |>.append status
    |>.append dot |>.append reset |>.append blank |>.append color |>.append name
    |>.append slash |>.append reset

/-- Of a row in the colours of a theme the row without colours is shown, and it is
refused for the same reasons. -/
theorem text_plain (styling : theme.IsStyling) {row : Row} (noEsc : esc ∉ row.node.name.toList)
    (style : RowStyle) :
    row.text { style with theme := plain } =
      (row.text { style with theme := theme }).map Terminal.strip := by
  have head := dresses_headText styling noEsc style
  have badges : List.Forall₂ Dresses ((row.badge? style).map (badgeText theme)).toList
      ((row.badge? style).map (badgeText plain)).toList := by
    cases row.badge? style with
    | none => exact .nil
    | some badge => exact .cons (dresses_badgeText styling badge) .nil
  have joined {costs shown : List String} (dressed : List.Forall₂ Dresses costs shown) :=
    (Dresses.intercalate (by decide : esc ∉ " ".toList)
      (List.Forall₂.cons head (List.rel_append badges dressed))).strip_eq.symm
  have sameStats (theme : Theme) :
      row.shownStats? { style with theme := theme } = row.shownStats? style := rfl
  simp only [text, sameStats]
  cases (row.shownStats? style).mapM fun stats =>
      (costOf (some stats) style.metric).mapError RowError.view with
  | error error => rfl
  | ok cost =>
      cases cost with
      | none => exact congrArg Except.ok (joined .nil)
      | some cost =>
          simp only [bind, Except.bind, Option.mapM_some]
          rcases costText_cases styling cost with
            ⟨text, shown, isText, isShown, dressed⟩ | ⟨error, refused, refusedToo⟩
          · rw [isText, isShown]
            exact congrArg Except.ok (joined (.cons dressed .nil))
          · rw [refused, refusedToo]
            rfl

/-- Themes only add styling: what is left of a row in the colours of a theme without its
escape sequences is the row under the plain theme, unless the name itself holds an escape
character, and if one is refused so is the other.  Under a metric that exists, both have
a text just if the cost that they show has few enough digits. -/
theorem strip_text_of_coloured (coloured : theme ∈ Theme.coloured) {row : Row}
    (noEsc : esc ∉ row.node.name.toList) {style : RowStyle} {metric : CostMetric}
    (isMetric : style.metric = metric.name) :
    row.text { style with theme := .plain } =
        (row.text { style with theme := theme }).map Terminal.strip ∧
      ((∃ text, row.text { style with theme := theme } = .ok text) ↔
        ∀ shown ∈ row.shownStats? style, intFits (shown.cost metric) = true) :=
  ⟨text_plain (Theme.isStyling_of_mem_coloured coloured) noEsc style,
    exists_text_iff (show { style with theme := theme }.metric = metric.name from isMetric)⟩

/-- A dimmed directory with a highlighted name, a badge and a cost. -/
theorem strip_text_of_dimmed_match :
    let node : Node :=
      { id := "a/Lib", name := "Lib", kind := .dir, decision := { status := .skipped } }
    let row : Row :=
      { node := node, depth := 1, hasChildren := true, isExpanded := false, dimmed := true }
    let stats : StatsTable := [("a/Lib", ⟨2, 1, 1, 0, 1⟩)]
    let style : RowStyle :=
      { compare := true, stats := stats, firstStats := stats,
        secondStats := [("a/Lib", ⟨1, 0, 1, 0, 1⟩)], search := "LI" }
    Theme.ocean ∈ Theme.coloured ∧ esc ∉ row.node.name.toList ∧
      style.metric = CostMetric.total.name ∧
      row.text { style with theme := .plain } = .ok "  ▸ ● Lib/ [Diff] [2]" ∧
      ∃ text, row.text { style with theme := .ocean } = .ok text ∧
        row.text { style with theme := .plain } = .ok (Terminal.strip text) := by
  intro node row stats style
  have coloured : Theme.ocean ∈ Theme.coloured := by decide
  have noEsc : esc ∉ row.node.name.toList := by decide
  have isMetric : style.metric = CostMetric.total.name := rfl
  obtain ⟨stripped, written⟩ := strip_text_of_coloured coloured noEsc isMetric
  have short : ∀ shown ∈ row.shownStats? style, intFits (shown.cost .total) = true := by
    intro shown isShown
    obtain rfl : ⟨2, 1, 1, 0, 1⟩ = shown := Option.some.inj isShown
    decide +kernel
  obtain ⟨text, isText⟩ := written.2 short
  refine ⟨coloured, noEsc, isMetric, by decide +kernel, text, isText, ?_⟩
  rw [stripped, isText]
  rfl

end Row

end ScanTree

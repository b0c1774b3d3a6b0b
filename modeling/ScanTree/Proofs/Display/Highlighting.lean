import ScanTree.Display.Highlight
import ScanTree.Proofs.Text.Occurrence

/-!
# Highlighted texts

Folding turns every character into at least one, so a place in the folded text
belongs to exactly one character.  What is highlighted is the shortest part of a
text whose folded characters include the leftmost occurrence of the folded
query, and every look-up on the way to it is within range.
-/

namespace ScanTree

section Places

variable {text : List Char}

/-- How many folded characters come from the characters before a place. -/
def foldedBefore (text : List Char) (place : Nat) : Nat :=
  (Text.foldChars (text.take place)).length

@[simp]
theorem foldedBefore_zero (text : List Char) : foldedBefore text 0 = 0 :=
  rfl

theorem foldedBefore_cons_succ (c : Char) (text : List Char) (place : Nat) :
    foldedBefore (c :: text) (place + 1) = (Text.foldChar c).length + foldedBefore text place := by
  rw [foldedBefore, List.take_succ_cons, Text.foldChars_cons, List.length_append, foldedBefore]

theorem foldedBefore_mono (text : List Char) {place later : Nat} (before : place ≤ later) :
    foldedBefore text place ≤ foldedBefore text later := by
  obtain ⟨rest, restEq⟩ := List.take_prefix_take_left (l := text) before
  rw [foldedBefore, foldedBefore, ← restEq, Text.foldChars_append, List.length_append]
  exact Nat.le_add_right _ _

theorem foldedBefore_of_length_le {place : Nat} (past : text.length ≤ place) :
    foldedBefore text place = (Text.foldChars text).length := by
  rw [foldedBefore, List.take_of_length_le past]

theorem lt_of_foldedBefore_lt {place later : Nat}
    (before : foldedBefore text place < foldedBefore text later) : place < later := by
  by_contra notBefore
  have := foldedBefore_mono text (Nat.le_of_not_lt notBefore)
  omega

/-- A folded character is told to come from the character among whose images it
is. -/
theorem exists_origin (place : Nat) {index : Nat}
    (inside : index < (Text.foldChars text).length) :
    ∃ image origin, (foldedPlaces place text)[index]? = some (image, place + origin) ∧
      foldedBefore text origin ≤ index ∧ index < foldedBefore text (origin + 1) := by
  induction text generalizing index place with
  | nil => cases inside
  | cons c rest ih =>
      by_cases ofHead : index < (Text.foldChar c).length
      · refine ⟨(Text.foldChar c)[index], 0, ?_, Nat.zero_le _, ?_⟩
        · rw [foldedPlaces, List.getElem?_append_left (by simpa using ofHead), List.getElem?_map,
            List.getElem?_eq_getElem ofHead]
          rfl
        · rw [foldedBefore_cons_succ]
          omega
      · rw [Text.foldChars_cons, List.length_append] at inside
        have past : (Text.foldChar c).length ≤ index := Nat.le_of_not_lt ofHead
        have insideRest : index - (Text.foldChar c).length < (Text.foldChars rest).length := by
          omega
        obtain ⟨image, origin, found, begins, ends⟩ := ih (place + 1) insideRest
        refine ⟨image, origin + 1, ?_, ?_, ?_⟩
        · rw [foldedPlaces, List.getElem?_append_right (by simpa using past), List.length_map,
            found, Nat.add_right_comm, Nat.add_assoc]
        · rw [foldedBefore_cons_succ]
          omega
        · rw [foldedBefore_cons_succ]
          omega

/-- The images of the characters from `first` up to `last` cover the folded
characters from `start` up to `stop`. -/
def Covers (text : List Char) (first last start stop : Nat) : Prop :=
  foldedBefore text first ≤ start ∧ stop ≤ foldedBefore text last

/-- The characters from `first` up to `last` cover the folded characters from
`start` up to `stop`, and lie within any characters that do. -/
structure IsShortestCover (text : List Char) (first last start stop : Nat) : Prop where
  covers : Covers text first last start stop
  within : ∀ other otherLast, Covers text other otherLast start stop →
    other ≤ first ∧ last ≤ otherLast

theorem isShortestCover_of_origins {first final start stop : Nat}
    (begins : foldedBefore text first ≤ start) (within : start < foldedBefore text (first + 1))
    (begins' : foldedBefore text final < stop) (ends : stop ≤ foldedBefore text (final + 1)) :
    IsShortestCover text first (final + 1) start stop where
  covers := ⟨begins, ends⟩
  within := by
    rintro other otherLast ⟨otherBegins, otherEnds⟩
    have notAfter := lt_of_foldedBefore_lt (Nat.lt_of_le_of_lt otherBegins within)
    have notBefore := lt_of_foldedBefore_lt (Nat.lt_of_lt_of_le begins' otherEnds)
    exact ⟨Nat.le_of_lt_succ notAfter, notBefore⟩

end Places

/-- The places of the characters that the folded characters come from. -/
def owners (text : List Char) : List Nat :=
  (foldedPlaces 0 text).map (·.2)

/-- What is looked up for an occurrence of a query is there, and tells the
shortest part of the text that covers the occurrence. -/
theorem exists_occurrenceBounds {query text : List Char} (nonempty : query ≠ []) {start : Nat}
    (found : Text.occurrence? query (Text.foldChars text) = some start) :
    ∃ first final, occurrenceBounds? query text = some (first, final) ∧
      (owners text)[start]? = some first ∧
        (owners text)[start + query.length - 1]? = some final ∧
          IsShortestCover text first (final + 1) start (start + query.length) ∧
            first ≤ final ∧ final < text.length := by
  have positive : 0 < query.length := List.length_pos_iff.2 nonempty
  have inside : start + query.length ≤ (Text.foldChars text).length := by
    have fits := (Text.isLeftmost_of_occurrence? found).stands.length_le
    rw [List.length_drop] at fits
    omega
  have startInside : start < (Text.foldChars text).length := by omega
  have stopInside : start + query.length - 1 < (Text.foldChars text).length := by omega
  obtain ⟨_, first, foundFirst, begins, within⟩ := exists_origin 0 startInside
  obtain ⟨_, final, foundFinal, begins', within'⟩ := exists_origin 0 stopInside
  rw [Nat.zero_add] at foundFirst foundFinal
  have ordered : first < final + 1 := by
    have before : foldedBefore text first < foldedBefore text (final + 1) := by omega
    exact lt_of_foldedBefore_lt before
  have finalInside : final < text.length := by
    by_contra past
    have := foldedBefore_of_length_le (Nat.le_of_not_lt past)
    omega
  refine ⟨first, final, ?_, ?_, ?_, isShortestCover_of_origins begins within (by omega) (by omega),
    Nat.le_of_lt_succ ordered, finalInside⟩
  · simp [occurrenceBounds?, map_fst_foldedPlaces, found, foundFirst, foundFinal]
  · simp [owners, foundFirst]
  · simp [owners, foundFinal]

theorem occurrenceBounds?_eq_none {query text : List Char}
    (absent : ¬ query <:+: Text.foldChars text) : occurrenceBounds? query text = none := by
  have missing := Text.occurrence?_eq_none_iff.2 absent
  simp [occurrenceBounds?, map_fst_foldedPlaces, missing]

namespace Theme

/-- The folded form of a searched text without the blanks at its ends. -/
def foldedQuery (search : String) : List Char :=
  Text.foldChars (Text.stripChars search.toList)

theorem foldedQuery_eq_nil_iff {search : String} :
    foldedQuery search = [] ↔ Text.strip search = "" := by
  rw [foldedQuery, Text.foldChars_eq_nil_iff, Text.strip, String.ofList_eq_empty_iff]

theorem highlightIn_of_blank {search : String} (blank : Text.strip search = "") (theme : Theme)
    (text restore : String) : theme.highlightIn text search restore = text := by
  have isEmpty : (foldedQuery search).isEmpty := List.isEmpty_iff.2 (foldedQuery_eq_nil_iff.2 blank)
  rw [foldedQuery] at isEmpty
  simp [highlightIn, isEmpty]

theorem highlightIn_of_absent {text search : String}
    (absent : ¬ foldedQuery search <:+: Text.foldChars text.toList) (theme : Theme)
    (restore : String) : theme.highlightIn text search restore = text := by
  have missing := occurrenceBounds?_eq_none absent
  rw [foldedQuery] at missing
  simp [highlightIn, missing]

theorem highlightIn_of_bounds {theme : Theme} (styled : theme.highlight ≠ "")
    {text search : String} (notBlank : Text.strip search ≠ "") {first final : Nat}
    (bounds : occurrenceBounds? (foldedQuery search) text.toList = some (first, final))
    (restore : String) :
    theme.highlightIn text search restore =
      String.ofList (text.toList.take first) ++ theme.highlight
        ++ String.ofList ((text.toList.take (final + 1)).drop first) ++ theme.reset ++ restore
        ++ String.ofList (text.toList.drop (final + 1)) := by
  have nonempty : foldedQuery search ≠ [] := mt foldedQuery_eq_nil_iff.1 notBlank
  rw [foldedQuery] at nonempty bounds
  simp [highlightIn, nonempty, styled, bounds]

theorem highlightIn_of_unstyled {theme : Theme} (unstyled : theme.highlight = "")
    (text search restore : String) : theme.highlightIn text search restore = text := by
  simp [highlightIn, unstyled]

/-- A text stays as it is, or some part of it is highlighted. -/
theorem highlightIn_cases (theme : Theme) (text search restore : String) :
    theme.highlightIn text search restore = text ∨
      ∃ first last, first ≤ last ∧ theme.highlightIn text search restore =
        String.ofList (text.toList.take first) ++ theme.highlight
          ++ String.ofList ((text.toList.take last).drop first) ++ theme.reset ++ restore
          ++ String.ofList (text.toList.drop last) := by
  by_cases unstyled : theme.highlight = ""
  · exact Or.inl (highlightIn_of_unstyled unstyled text search restore)
  by_cases blank : Text.strip search = ""
  · exact Or.inl (highlightIn_of_blank blank theme text restore)
  cases found : Text.occurrence? (foldedQuery search) (Text.foldChars text.toList) with
  | none =>
      have absent := Text.occurrence?_eq_none_iff.1 found
      exact Or.inl (highlightIn_of_absent absent theme restore)
  | some start =>
      have nonempty : foldedQuery search ≠ [] := mt foldedQuery_eq_nil_iff.1 blank
      obtain ⟨first, final, bounds, -, -, -, ordered, -⟩ := exists_occurrenceBounds nonempty found
      exact Or.inr ⟨first, final + 1, Nat.le_succ_of_le ordered,
        highlightIn_of_bounds unstyled blank bounds restore⟩

/-- A text in which the leftmost occurrence of a folded query is highlighted:
the occurrence begins at the folded character `start`, and the shortest part of
the text that covers it goes from `first` up to `last`. -/
structure Highlights (theme : Theme) (text restore : String) (query : List Char)
    (start first last : Nat) (result : String) : Prop where
  leftmost : Text.IsLeftmost query (Text.foldChars text.toList) start
  shortest : IsShortestCover text.toList first last start (start + query.length)
  ordered : first < last
  inside : last ≤ text.length
  query_ne_nil : query ≠ []
  firstOwner : (owners text.toList)[start]? = some first
  lastOwner : (owners text.toList)[start + query.length - 1]? = some (last - 1)
  result_eq : result =
    String.ofList (text.toList.take first) ++ theme.highlight
      ++ String.ofList ((text.toList.take last).drop first) ++ theme.reset ++ restore
      ++ String.ofList (text.toList.drop last)

/-- A text stays as it is if the query is blank or does not occur in it,
regardless of case, and otherwise the leftmost occurrence is highlighted. -/
theorem highlightIn_leftmost (theme : Theme) (styled : theme.highlight ≠ "")
    (text search restore : String) :
    (Text.strip search = "" ∨ ¬ foldedQuery search <:+: Text.foldChars text.toList →
      theme.highlightIn text search restore = text) ∧
    (Text.strip search ≠ "" → foldedQuery search <:+: Text.foldChars text.toList →
      ∃ start first last, theme.Highlights text restore (foldedQuery search) start first last
        (theme.highlightIn text search restore)) := by
  constructor
  · rintro (blank | absent)
    · exact highlightIn_of_blank blank theme text restore
    · exact highlightIn_of_absent absent theme restore
  · intro notBlank occurs
    have nonempty : foldedQuery search ≠ [] := mt foldedQuery_eq_nil_iff.1 notBlank
    obtain ⟨start, found⟩ := Option.ne_none_iff_exists'.1
      (mt Text.occurrence?_eq_none_iff.1 (not_not_intro occurs))
    obtain ⟨first, final, bounds, firstOwner, lastOwner, shortest, ordered, inside⟩ :=
      exists_occurrenceBounds nonempty found
    exact ⟨start, first, final + 1, {
      leftmost := Text.isLeftmost_of_occurrence? found
      shortest := shortest
      ordered := Nat.lt_succ_of_le ordered
      inside := by rwa [← String.length_toList]
      query_ne_nil := nonempty
      firstOwner := firstOwner
      lastOwner := lastOwner
      result_eq := highlightIn_of_bounds styled notBlank bounds restore }⟩

-- The query occurs in the name whatever the sharp s is folded to.
theorem highlightIn_sharpS :
    standard.highlight ≠ "" ∧ Text.strip " ßE " ≠ "" ∧
      foldedQuery " ßE " <:+: Text.foldChars "Straße.py".toList ∧
        ∃ start first last, standard.Highlights "Straße.py" "" (foldedQuery " ßE ") start first last
          (standard.highlightIn "Straße.py" " ßE " "") := by
  have styled : standard.highlight ≠ "" := by decide
  have notBlank : Text.strip " ßE " ≠ "" := by decide +kernel
  have queryEq : foldedQuery " ßE " = Text.foldChars ['ß', 'e'] := by
    have stripped : Text.stripChars " ßE ".toList = ['ß', 'E'] := by decide
    have lower : Text.foldChar 'E' = Text.foldChar 'e' := by decide
    rw [foldedQuery, stripped, Text.foldChars_cons, Text.foldChars_cons, lower,
      ← Text.foldChars_cons, ← Text.foldChars_cons]
  have occurs : foldedQuery " ßE " <:+: Text.foldChars "Straße.py".toList := by
    refine ⟨Text.foldChars "Stra".toList, Text.foldChars ".py".toList, ?_⟩
    rw [queryEq, ← Text.foldChars_append, ← Text.foldChars_append]
    exact congrArg Text.foldChars (by decide)
  exact ⟨styled, notBlank, occurs, (highlightIn_leftmost _ styled _ _ _).2 notBlank occurs⟩

example : standard.highlightIn "Notes.MD" " md " "" = "Notes.\x1b[7;1mMD\x1b[0m" := by
  decide +kernel

end Theme

end ScanTree

import ScanTree.Json.Decode
import ScanTree.Json.Print

/-!
# Layouts of written JSON

The same value may be written over several lines or in one: between its tokens
stand blanks, and which ones is up to the layout.  Everything else about the
written form is the same in all layouts.
-/

namespace ScanTree

namespace Json

/-- The blanks between the tokens of written values.  Inner values are one level
deeper than the list or the object that holds them. -/
structure Layout where
  /-- The blanks between an opening bracket and the first inner value. -/
  opening : Nat → List Char
  /-- The blanks between a comma and the next inner value. -/
  between : Nat → List Char
  /-- The blanks before a closing bracket. -/
  closing : Nat → List Char
  /-- The blanks between a colon and the value of the member. -/
  colon : List Char
  opening_blank : ∀ level, ∀ c ∈ opening level, isTokenBlank c
  between_blank : ∀ level, ∀ c ∈ between level, isTokenBlank c
  closing_blank : ∀ level, ∀ c ∈ closing level, isTokenBlank c
  colon_blank : ∀ c ∈ colon, isTokenBlank c

theorem isTokenBlank_of_mem_lineStart (level : Nat) :
    ∀ c ∈ lineStart level, isTokenBlank c := by
  intro c member
  rcases List.mem_cons.1 member with rfl | inner
  · rfl
  · rw [List.eq_of_mem_replicate inner]
    rfl

namespace Layout

/-- One line, with a blank after every comma and colon. -/
def inLine : Layout where
  opening _ := []
  between _ := [' ']
  closing _ := []
  colon := [' ']
  opening_blank := by simp
  between_blank := by simp [isTokenBlank]
  closing_blank := by simp
  colon_blank := by simp [isTokenBlank]

/-- A line for every inner value, with two blanks of indentation for each
level. -/
def indented : Layout where
  opening := lineStart
  between := lineStart
  closing := lineStart
  colon := [' ']
  opening_blank := isTokenBlank_of_mem_lineStart
  between_blank := isTokenBlank_of_mem_lineStart
  closing_blank := isTokenBlank_of_mem_lineStart
  colon_blank := by simp [isTokenBlank]

end Layout

mutual

/-- The written form of a value in a layout. -/
def laidOut (layout : Layout) (level : Nat) : Json → List Char
  | arr items =>
    if items.isEmpty then ['[', ']']
    else
      '[' :: layout.opening (level + 1) ++ laidOutItems layout (level + 1) items
        ++ layout.closing level ++ [']']
  | obj members =>
    if members.isEmpty then ['{', '}']
    else
      '{' :: layout.opening (level + 1) ++ laidOutMembers layout (level + 1) members
        ++ layout.closing level ++ ['}']
  | scalar => written level scalar

/-- The items of a list from the first one to the last one. -/
def laidOutItems (layout : Layout) (level : Nat) : List Json → List Char
  | [] => []
  | item :: rest =>
    laidOut layout level item
      ++ (if rest.isEmpty then [] else ',' :: layout.between level
        ++ laidOutItems layout level rest)

/-- The members of an object from the first one to the last one. -/
def laidOutMembers (layout : Layout) (level : Nat) : List (String × Json) → List Char
  | [] => []
  | (name, value) :: rest =>
    stringText name ++ ':' :: layout.colon ++ laidOut layout level value
      ++ (if rest.isEmpty then [] else ',' :: layout.between level
        ++ laidOutMembers layout level rest)

end

/-- The text of a value in a layout, if all its integers may be written. -/
def textIn (layout : Layout) (value : Json) : Except IntegerError String :=
  if fits value then .ok (String.ofList (laidOut layout 0 value)) else .error .tooLong

section

variable (layout : Layout) (level : Nat)

theorem laidOut_arr {items : List Json} (nonempty : items ≠ []) :
    laidOut layout level (arr items) =
      '[' :: (layout.opening (level + 1) ++ (laidOutItems layout (level + 1) items
        ++ (layout.closing level ++ [']']))) := by
  simp [laidOut, nonempty]

theorem laidOut_obj {members : List (String × Json)} (nonempty : members ≠ []) :
    laidOut layout level (obj members) =
      '{' :: (layout.opening (level + 1) ++ (laidOutMembers layout (level + 1) members
        ++ (layout.closing level ++ ['}']))) := by
  simp [laidOut, nonempty]

theorem laidOutItems_singleton (item : Json) :
    laidOutItems layout level [item] = laidOut layout level item := by
  simp [laidOutItems]

theorem laidOutItems_cons_cons (item next : Json) (rest : List Json) :
    laidOutItems layout level (item :: next :: rest) =
      laidOut layout level item
        ++ ',' :: (layout.between level ++ laidOutItems layout level (next :: rest)) := by
  simp [laidOutItems]

theorem laidOutMembers_singleton (name : String) (value : Json) :
    laidOutMembers layout level [(name, value)] =
      stringText name ++ ':' :: (layout.colon ++ laidOut layout level value) := by
  simp [laidOutMembers]

theorem laidOutMembers_cons_cons (name : String) (value : Json) (next : String × Json)
    (rest : List (String × Json)) :
    laidOutMembers layout level ((name, value) :: next :: rest) =
      stringText name ++ ':' :: (layout.colon ++ (laidOut layout level value
        ++ ',' :: (layout.between level ++ laidOutMembers layout level (next :: rest)))) := by
  simp [laidOutMembers]

end

mutual

/-- The indented layout is that of the text over several lines. -/
theorem laidOut_indented (level : Nat) :
    ∀ value, laidOut .indented level value = written level value
  | null | bool _ | int _ | real _ | str _ => rfl
  | arr items => by
      rw [laidOut, written]
      split
      · rfl
      · rename_i nonempty
        rw [← opening_append_laidOutItems (level + 1) items (by simpa using nonempty)]
        rfl
  | obj members => by
      rw [laidOut, written]
      split
      · rfl
      · rename_i nonempty
        rw [← opening_append_laidOutMembers (level + 1) members (by simpa using nonempty)]
        rfl

theorem opening_append_laidOutItems (level : Nat) :
    ∀ items, items ≠ [] →
      lineStart level ++ laidOutItems .indented level items = writtenItems level items
  | [], nonempty => absurd rfl nonempty
  | item :: rest, _ => by
      rw [laidOutItems, writtenItems, laidOut_indented level item]
      cases rest with
      | nil => simp
      | cons next rest =>
          rw [← opening_append_laidOutItems level (next :: rest) (by simp)]
          simp [Layout.indented]

theorem opening_append_laidOutMembers (level : Nat) :
    ∀ members, members ≠ [] →
      lineStart level ++ laidOutMembers .indented level members = writtenMembers level members
  | [], nonempty => absurd rfl nonempty
  | (name, value) :: rest, _ => by
      rw [laidOutMembers, writtenMembers, laidOut_indented level value]
      cases rest with
      | nil => simp [Layout.indented]
      | cons next rest =>
          rw [← opening_append_laidOutMembers level (next :: rest) (by simp)]
          simp [Layout.indented]

end

theorem textIn_indented (value : Json) : textIn .indented value = pretty value := by
  rw [textIn, pretty, laidOut_indented]

end Json

end ScanTree

import ScanTree.Proofs.Json.RoundTrip

/-!
# Nesting

A reader gives up where the next list or object finds no room.  So a text that
begins with more brackets than there is room for is refused as too deep, whatever
comes after them.  On the other hand, what is nested was opened: a reader that
gives up has passed so many opening brackets as there was room for, or three less,
since what is malformed can only be told with some room left.

That brackets are not counted twice rests on what a reader leaves: it is always a
part of the text up to its end.
-/

namespace ScanTree

namespace Json

/-- The number of brackets in a text that open a list or an object. -/
def openings (text : List Char) : Nat :=
  text.countP fun c => c = '[' ∨ c = '\x7b'

theorem openings_le_of_suffix {rest text : List Char} (left : rest <:+ text) :
    openings rest ≤ openings text :=
  left.sublist.countP_le

/-! ## What is left of a text -/

/-- A reader leaves the end of its text, and finds too little room only if `deep`. -/
def Leaves {α : Type} (deep : Prop) (text : List Char) : Except Fault (α × List Char) → Prop
  | .ok (_, rest) => rest <:+ text
  | .error (.tooDeep _) => deep
  | .error _ => True

namespace Leaves

variable {α β : Type} {deep : Prop} {text : List Char}

theorem mono {deeper : Prop} {longer : List Char} {read : Except Fault (α × List Char)}
    (leaves : Leaves deep text read) (weaker : deep → deeper) (part : text <:+ longer) :
    Leaves deeper longer read := by
  rcases read with (_ | _ | _) | ⟨_, rest⟩
  · trivial
  · trivial
  · exact weaker leaves
  · exact List.IsSuffix.trans leaves part

/-- A reader may go on with what another one has left. -/
theorem bind {read : Except Fault (α × List Char)}
    {next : α × List Char → Except Fault (β × List Char)} (leaves : Leaves deep text read)
    (goesOn : ∀ value rest, rest <:+ text → Leaves deep text (next (value, rest))) :
    Leaves deep text (read >>= next) := by
  rcases read with (_ | _ | _) | ⟨value, rest⟩
  · trivial
  · trivial
  · exact leaves
  · exact goesOn value rest leaves

/-- What is malformed is found too deep only where there is little room. -/
theorem told {read : Except Fault (α × List Char)} (leaves : Leaves False text read)
    (room : Nat) : Leaves (room < 3) text (read.mapError (.told room)) := by
  rcases read with (⟨cause, left⟩ | _ | _) | ⟨value, rest⟩
  · by_cases enough : 3 ≤ room
    · simp [Fault.told, enough, Leaves]
    · simp only [mapError_error, Fault.told, enough, if_false]
      exact Nat.lt_of_not_le enough
  · trivial
  · exact leaves.elim
  · exact leaves

end Leaves

theorem skipBlanks_suffix (text : List Char) : skipBlanks text <:+ text :=
  List.dropWhile_suffix _

section Strings

theorem suffix_of_fourHexDigits? {text rest : List Char} {unit : Nat}
    (found : fourHexDigits? text = some (unit, rest)) : rest <:+ text := by
  unfold fourHexDigits? at found
  split at found
  · simp only [Option.bind_eq_bind, Option.bind_eq_some_iff, Option.pure_def, Option.some.injEq,
      Prod.mk.injEq] at found
    obtain ⟨_, _, _, _, _, _, _, _, _, rfl⟩ := found
    exact ⟨[_, _, _, _], rfl⟩
  · cases found

theorem leaves_codeUnit (text : List Char) : Leaves False text (codeUnit text) := by
  unfold codeUnit
  split
  · rename_i found
    exact suffix_of_fourHexDigits? found
  · trivial

theorem leaves_unicodeEscape (text : List Char) : Leaves False text (unicodeEscape text) := by
  unfold unicodeEscape
  refine (leaves_codeUnit text).bind fun unit rest left => ?_
  dsimp only
  split
  · split
    · rename_i low
      split
      · have part : low <:+ text := List.IsSuffix.trans ⟨['\\', 'u'], rfl⟩ left
        refine ((leaves_codeUnit low).mono id part).bind fun second after after_left => ?_
        dsimp only
        split
        · exact after_left
        · exact left
      · exact left
    · exact left
  · split
    · exact left
    · exact left

theorem leaves_escape (opening text : List Char) : Leaves False text (escape opening text) := by
  unfold escape
  split
  · trivial
  · rename_i c rest
    split
    · exact (leaves_unicodeEscape rest).mono id (List.suffix_cons c rest)
    · split
      · exact List.suffix_cons c rest
      · trivial

theorem leaves_stringBody (opening : List Char) (budget : Nat) (read text : List Char) :
    Leaves False text (stringBody opening budget read text) := by
  fun_induction stringBody opening budget read text with
  | case1 => trivial
  | case2 => trivial
  | case3 budget read rest => exact List.suffix_cons '"' rest
  | case4 budget read rest _ ih =>
      refine ((leaves_escape opening rest).mono id (List.suffix_cons _ rest)).bind
        fun decoded after left => ?_
      exact (ih decoded after).mono id left
  | case5 => trivial
  | case6 budget read c rest _ _ _ ih => exact ih.mono id (List.suffix_cons c rest)

theorem leaves_string (budget : Nat) (text : List Char) :
    Leaves False text (string budget text) :=
  leaves_stringBody _ budget [] text

theorem leaves_memberName (budget : Nat) (text : List Char) :
    Leaves False text (memberName budget text) := by
  unfold memberName
  split
  · rename_i rest
    refine ((leaves_string budget rest).mono id (List.suffix_cons '"' rest)).bind
      fun name after left => ?_
    dsimp only
    split
    · rename_i value found
      have afterBlanks : ':' :: value <:+ after := found ▸ skipBlanks_suffix after
      exact (skipBlanks_suffix value).trans ((List.suffix_cons ':' value).trans
        (afterBlanks.trans left))
    · trivial
  · trivial

end Strings

section Numbers

variable {text rest : List Char}

theorem suffix_of_wholePart? {whole : List Char} (found : wholePart? text = some (whole, rest)) :
    rest <:+ text := by
  unfold wholePart? at found
  split at found
  · cases found
    exact List.suffix_cons '0' _
  · split at found
    · cases found
    · cases found
      exact List.dropWhile_suffix _

theorem digitRun_suffix {digits after : List Char} (run : digitRun text = (digits, after)) :
    after <:+ text := by
  cases run
  exact List.dropWhile_suffix _

theorem fractionPart_suffix (text : List Char) : (fractionPart text).2 <:+ text := by
  fun_cases fractionPart text with
  | case1 => exact List.suffix_rfl
  | case2 rest digits after _ run =>
      exact (digitRun_suffix run).trans (List.suffix_cons '.' rest)
  | case3 => exact List.suffix_rfl

theorem exponentPart_suffix (text : List Char) : (exponentPart text).2 <:+ text := by
  fun_cases exponentPart text with
  | case1 => exact List.suffix_rfl
  | case2 c rest _ negative unsigned isSigned digits after _ run =>
      have left : unsigned <:+ rest := by
        split at isSigned <;> cases isSigned
        · exact List.suffix_cons '-' _
        · exact List.suffix_cons '+' _
        · exact List.suffix_rfl
      exact (digitRun_suffix run).trans (left.trans (List.suffix_cons c rest))
  | case3 => exact List.suffix_rfl
  | case4 => exact List.suffix_rfl

theorem suffix_of_numeral? {numeral : Numeral} (found : numeral? text = some (numeral, rest)) :
    rest <:+ text := by
  revert found
  fun_cases numeral? text with
  | case1 negative unsigned isSigned =>
      intro found
      simp only [Option.bind_eq_bind, Option.bind_eq_some_iff, Option.pure_def,
        Option.some.injEq, Prod.mk.injEq] at found
      obtain ⟨⟨whole, afterWhole⟩, isWhole, _, rfl⟩ := found
      have left : unsigned <:+ text := by
        split at isSigned <;> cases isSigned
        · exact List.suffix_cons '-' _
        · exact List.suffix_rfl
      exact (exponentPart_suffix _).trans ((fractionPart_suffix _).trans
        ((suffix_of_wholePart? isWhole).trans left))

theorem suffix_of_word? {word : Json} (found : word? text = some (word, rest)) :
    rest <:+ text := by
  obtain ⟨_, _, same⟩ := Option.map_eq_some_iff.1 found
  cases same
  exact List.drop_suffix _ _

theorem leaves_scalar (text : List Char) : Leaves False text (scalar text) := by
  unfold scalar
  split
  · rename_i found
    exact suffix_of_word? found
  · split
    · rename_i numeral rest isNumeral
      unfold Numeral.value
      split
      · split
        · trivial
        · exact suffix_of_numeral? isNumeral
      · exact suffix_of_numeral? isNumeral
    · trivial

end Numbers

/-! ## Lists and objects -/

/-- Within a budget, a reader that gives up has passed nearly so many opening brackets
as there was room for. -/
structure CountsRoom (budget : Nat) : Prop where
  value : ∀ room text, Leaves (room < openings text + 3) text (value room budget text)
  items : ∀ room read text, Leaves (room < openings text + 3) text (items room budget read text)
  members : ∀ room read text,
    Leaves (room < openings text + 3) text (members room budget read text)

section Room

variable {room budget : Nat} {text rest : List Char}

theorem Leaves.of_part {α : Type} {read : Except Fault (α × List Char)}
    (leaves : Leaves (room < openings rest + 3) rest read) (part : rest <:+ text) :
    Leaves (room < openings text + 3) text read := by
  have fewer := openings_le_of_suffix part
  exact leaves.mono (fun less => by omega) part

/-- Behind a bracket there is room for one call less. -/
theorem Leaves.of_bracket {bracket : Char} (opens : bracket = '[' ∨ bracket = '\x7b')
    {read : Except Fault (Json × List Char)}
    (leaves : Leaves (room < openings (skipBlanks rest) + 3) (skipBlanks rest) read) :
    Leaves (room + 1 < openings (bracket :: rest) + 3) (bracket :: rest) read := by
  have fewer := openings_le_of_suffix (skipBlanks_suffix rest)
  have more : openings (bracket :: rest) = openings rest + 1 :=
    List.countP_cons_of_pos (decide_eq_true opens)
  exact leaves.mono (fun less => by omega)
    ((skipBlanks_suffix rest).trans (List.suffix_cons bracket rest))

theorem CountsRoom.value_succ (less : CountsRoom budget) (room : Nat) (text : List Char) :
    Leaves (room < openings text + 3) text (Json.value room (budget + 1) text) := by
  unfold Json.value
  split
  · rename_i rest
    refine Leaves.bind (((leaves_string budget rest).told room).mono (fun less => by omega)
      (List.suffix_cons '"' rest)) fun read after left => left
  · split
    · exact Nat.succ_pos _
    · refine .of_bracket (.inl rfl) ?_
      split
      · rename_i after closes
        rw [closes]
        exact List.suffix_cons ']' after
      · exact less.items _ [] _
  · split
    · exact Nat.succ_pos _
    · refine .of_bracket (.inr rfl) ?_
      split
      · rename_i after closes
        rw [closes]
        exact List.suffix_cons _ after
      · exact less.members _ [] _
  · exact (leaves_scalar text).mono False.elim List.suffix_rfl

/-- Behind an item there is its end, a comma and the next item, or a fault. -/
theorem leaves_told (room : Nat) (cause : Cause) (left text : List Char) :
    Leaves (room < openings text + 3) text
      (.error (.told room (.malformed cause left)) : Except Fault (Json × List Char)) := by
  have leaves : Leaves False text (.error (.malformed cause left) :
      Except Fault (Json × List Char)) := trivial
  exact (leaves.told room).mono (fun less => by omega) List.suffix_rfl

theorem CountsRoom.items_succ (less : CountsRoom budget) (room : Nat) (read : List Json)
    (text : List Char) :
    Leaves (room < openings text + 3) text (Json.items room (budget + 1) read text) := by
  unfold Json.items
  refine (less.value room text).bind fun item after left => ?_
  have blanks := (skipBlanks_suffix after).trans left
  dsimp only
  split
  · rename_i rest closes
    exact (List.suffix_cons _ rest).trans (closes ▸ blanks)
  · rename_i rest goesOn
    exact (less.items room _ _).of_part ((skipBlanks_suffix rest).trans
      ((List.suffix_cons _ rest).trans (goesOn ▸ blanks)))
  · exact leaves_told room _ _ text

theorem CountsRoom.members_succ (less : CountsRoom budget) (room : Nat)
    (read : List (String × Json)) (text : List Char) :
    Leaves (room < openings text + 3) text (Json.members room (budget + 1) read text) := by
  unfold Json.members
  refine Leaves.bind (((leaves_memberName budget text).told room).mono (fun less => by omega)
    List.suffix_rfl) fun name afterName leftByName => ?_
  refine ((less.value room afterName).of_part leftByName).bind fun item after left => ?_
  have blanks := (skipBlanks_suffix after).trans left
  dsimp only
  split
  · rename_i rest closes
    exact (List.suffix_cons _ rest).trans (closes ▸ blanks)
  · rename_i rest goesOn
    exact (less.members room _ _).of_part ((skipBlanks_suffix rest).trans
      ((List.suffix_cons _ rest).trans (goesOn ▸ blanks)))
  · exact leaves_told room _ _ text

end Room

theorem countsRoom (budget : Nat) : CountsRoom budget := by
  induction budget with
  | zero => exact ⟨fun _ _ => trivial, fun _ _ _ => trivial, fun _ _ _ => trivial⟩
  | succ budget ih => exact ⟨ih.value_succ, ih.items_succ, ih.members_succ⟩

/-- A text that is found too deep opens nearly so many lists and objects as there is
room for. -/
theorem room_lt_of_tooDeep {room : Nat} {text : String} {overrun : Overrun}
    (deep : decodeWithin room text = .error (.tooDeep overrun)) :
    room < openings text.toList + 3 := by
  have isDocument : document room text.toList = .error (.tooDeep overrun) := by
    cases read : document room text.toList with
    | ok content => simp [decodeWithin, read] at deep
    | error fault => cases fault <;> simp_all [decodeWithin, Fault.locate]
  unfold document at isDocument
  split at isDocument
  · cases isDocument
  · have leaves := (countsRoom (2 * text.toList.length + 1)).value room (skipBlanks text.toList)
    rcases error_cases_of_bind_eq_error isDocument with tooDeep | ⟨⟨content, rest⟩, _, stops⟩
    · rw [tooDeep] at leaves
      have fewer := openings_le_of_suffix (skipBlanks_suffix text.toList)
      exact Nat.lt_of_lt_of_le leaves (by omega)
    · dsimp only at stops
      split at stops <;> cases stops

/-! ## Too many brackets -/

theorem value_brackets {room budget : Nat} (enough : 2 * room < budget) (rest : List Char) :
    value room budget (List.replicate (room + 1) '[' ++ rest) = .error (.tooDeep .list) := by
  induction room generalizing budget with
  | zero =>
      obtain ⟨budget, rfl⟩ : ∃ less, budget = less + 1 := ⟨budget - 1, by omega⟩
      rfl
  | succ room ih =>
      obtain ⟨budget, rfl⟩ : ∃ less, budget = less + 2 := ⟨budget - 2, by omega⟩
      have inner : value room budget (List.replicate (room + 1) '[' ++ rest) =
          .error (.tooDeep .list) := ih (by omega)
      have begins : BeginsValue (List.replicate (room + 1) '[' ++ rest) :=
        ⟨'[', List.replicate room '[' ++ rest, rfl, by decide⟩
      have opened : value (room + 1) (budget + 2)
          ('[' :: (List.replicate (room + 1) '[' ++ rest)) =
            items room (budget + 1) [] (List.replicate (room + 1) '[' ++ rest) :=
        value_bracket (List.forall_mem_nil _) begins (budget + 1)
      rw [List.replicate_succ, List.cons_append, opened, items, inner]
      rfl

/-- A text that begins with more brackets than there is room for is found too deep. -/
theorem decodeWithin_of_brackets (room : Nat) (rest : List Char) :
    decodeWithin room (String.ofList (List.replicate (room + 1) '[' ++ rest)) =
      .error (.tooDeep .list) := by
  have begins : BeginsValue (List.replicate (room + 1) '[' ++ rest) :=
    ⟨'[', List.replicate room '[' ++ rest, rfl, by decide⟩
  have enough : 2 * room < 2 * (List.replicate (room + 1) '[' ++ rest).length + 1 := by
    rw [List.length_append, List.length_replicate]
    omega
  have isDocument : document room (List.replicate (room + 1) '[' ++ rest) =
      .error (.tooDeep .list) := by
    unfold document
    split
    · rename_i same
      cases same
    · rw [begins.skipBlanks_eq, value_brackets enough]
      rfl
  rw [decodeWithin, String.toList_ofList, isDocument]
  rfl

end Json

end ScanTree

import ScanTree.Json.Decode
import ScanTree.Json.Print

/-!
# Strings read back

A character is written as itself, as a letter escape, or by its code units.  All
three are read as that character, whatever follows, so a written string is read
back up to its closing quote.
-/

namespace ScanTree

namespace Json

theorem fourHexDigits?_hexDigits {unit : Nat} (small : unit < 0x10000) (rest : List Char) :
    fourHexDigits? (Text.hexDigits 4 unit ++ rest) = some (unit, rest) := by
  have digit (value : Nat) : Text.hexDigit? (Text.hexDigit (value % 16)) = some (value % 16) :=
    Text.hexDigit?_hexDigit (Nat.mod_lt value (by omega))
  simp only [Text.hexDigits, List.nil_append, List.cons_append, fourHexDigits?, digit,
    Option.bind_eq_bind, Option.bind_some, Option.pure_def, Option.some.injEq, Prod.mk.injEq,
    and_true]
  omega

theorem codeUnit_hexDigits {unit : Nat} (small : unit < 0x10000) {rest : List Char}
    (more : rest ≠ []) : codeUnit (Text.hexDigits 4 unit ++ rest) = .ok (unit, rest) := by
  obtain ⟨next, rest, rfl⟩ := List.exists_cons_of_ne_nil more
  rw [codeUnit, fourHexDigits?_hexDigits small]

theorem unicodeEscape_of_unit {unit : Nat} (small : unit < 0x10000)
    (whole : unit < 0xD800 ∨ 0xDFFF < unit) {rest : List Char} (more : rest ≠ []) :
    unicodeEscape (Text.hexDigits 4 unit ++ rest) = .ok (Char.ofNat unit, rest) := by
  have notHigh : ¬ (0xD800 ≤ unit ∧ unit ≤ 0xDBFF) := by omega
  have notLow : ¬ (0xDC00 ≤ unit ∧ unit ≤ 0xDFFF) := by omega
  simp only [unicodeEscape, codeUnit_hexDigits small more, bind, Except.bind, notHigh, notLow,
    if_false]
  rfl

theorem unicodeEscape_of_pair {high low : Nat} (isHigh : 0xD800 ≤ high ∧ high ≤ 0xDBFF)
    (isLow : 0xDC00 ≤ low ∧ low ≤ 0xDFFF) {rest : List Char} (more : rest ≠ []) :
    unicodeEscape (Text.hexDigits 4 high ++ (unitEscape low ++ rest)) =
      .ok (Char.ofNat (0x10000 + (high - 0xD800) * 0x400 + (low - 0xDC00)), rest) := by
  have highSmall : high < 0x10000 := by omega
  have lowSmall : low < 0x10000 := by omega
  have second : unitEscape low ++ rest = '\\' :: 'u' :: (Text.hexDigits 4 low ++ rest) := rfl
  -- The second escape is read only if something follows its four digits.
  have followed : (Text.hexDigits 4 low ++ rest).drop 4 ≠ [] := by
    rw [List.drop_left' (Text.length_hexDigits 4 low)]
    exact more
  simp only [unicodeEscape, second, codeUnit_hexDigits highSmall (List.cons_ne_nil _ _), bind,
    Except.bind, isHigh, and_self, if_true, followed, ne_eq, not_false_eq_true,
    codeUnit_hexDigits lowSmall more, isLow]
  rfl

theorem escape_unicode (opening : List Char) (rest : List Char) :
    escape opening ('u' :: rest) = unicodeEscape rest :=
  rfl

theorem toNat_valid (c : Char) : c.toNat < 0xD800 ∨ 0xDFFF < c.toNat ∧ c.toNat < 0x110000 :=
  c.valid

/-- A character is written raw, where that is possible, or as an escape that is
read as the character. -/
theorem stringChar_cases (c : Char) :
    (stringChar c = [c] ∧ c ≠ '"' ∧ c ≠ '\\' ∧ ¬ c.toNat < 0x20) ∨
      ∃ escaped, stringChar c = '\\' :: escaped ∧
        ∀ opening rest, rest ≠ [] → escape opening (escaped ++ rest) = .ok (c, rest) := by
  have valid := toNat_valid c
  unfold stringChar
  split
  · rename_i marked
    rcases marked with rfl | rfl <;> exact Or.inr ⟨_, rfl, fun _ _ _ => rfl⟩
  rename_i unmarked
  iterate 5
    split
    · subst c
      exact Or.inr ⟨_, rfl, fun _ _ _ => rfl⟩
  split
  · rename_i printable
    exact Or.inl ⟨rfl, (not_or.1 unmarked).1, (not_or.1 unmarked).2, by omega⟩
  split
  · rename_i small
    refine Or.inr ⟨'u' :: Text.hexDigits 4 c.toNat, rfl, fun opening rest more => ?_⟩
    rw [List.cons_append, escape_unicode, unicodeEscape_of_unit small (by omega) more,
      Char.ofNat_toNat]
  · let high := 0xD800 + (c.toNat - 0x10000) / 0x400
    let low := 0xDC00 + (c.toNat - 0x10000) % 0x400
    refine Or.inr ⟨'u' :: (Text.hexDigits 4 high ++ unitEscape low), rfl,
      fun opening rest more => ?_⟩
    have joined : 0x10000 + (high - 0xD800) * 0x400 + (low - 0xDC00) = c.toNat := by
      omega
    rw [List.cons_append, List.append_assoc, escape_unicode,
      unicodeEscape_of_pair (by omega) (by omega) more, joined, Char.ofNat_toNat]

theorem stringBody_stringChar (opening : List Char) (budget : Nat) (read : List Char) (c : Char)
    {rest : List Char} (more : rest ≠ []) :
    stringBody opening (budget + 1) read (stringChar c ++ rest) =
      stringBody opening budget (c :: read) rest := by
  rcases stringChar_cases c with ⟨raw, notQuote, notBackslash, notControl⟩ | ⟨escaped, eq, reads⟩
  · simp only [raw, List.singleton_append, stringBody, notQuote, notBackslash, notControl,
      if_false]
  · simp only [eq, List.cons_append, stringBody, Char.reduceEq, if_false, if_true,
      reads opening rest more]
    rfl

theorem stringBody_flatMap (opening : List Char) (chars rest : List Char) {budget : Nat}
    (enough : chars.length < budget) (read : List Char) :
    stringBody opening budget read (chars.flatMap stringChar ++ '"' :: rest) =
      .ok (String.ofList (read.reverse ++ chars), rest) := by
  induction chars generalizing budget read with
  | nil =>
      obtain ⟨budget, rfl⟩ := Nat.exists_eq_add_of_lt enough
      simp [stringBody]
  | cons c chars ih =>
      obtain ⟨budget, rfl⟩ := Nat.exists_eq_add_of_lt enough
      rw [List.flatMap_cons, List.append_assoc, stringBody_stringChar opening _ read c (by simp),
        ih (by simp only [List.length_cons]; omega), List.reverse_cons, List.append_assoc,
        List.singleton_append]

/-- A written string is read back up to its closing quote. -/
theorem string_stringText (value : String) (rest : List Char) {budget : Nat}
    (enough : value.toList.length < budget) :
    string budget (value.toList.flatMap stringChar ++ '"' :: rest) = .ok (value, rest) := by
  rw [string, stringBody_flatMap _ _ _ enough]
  simp

theorem stringText_append (value : String) (rest : List Char) :
    stringText value ++ rest = '"' :: (value.toList.flatMap stringChar ++ '"' :: rest) := by
  simp [stringText]

/-- Every character takes place in the written string, and so do the quotes. -/
theorem length_add_two_le_length_stringText (value : String) :
    value.toList.length + 2 ≤ (stringText value).length := by
  have covered (chars : List Char) : chars.length ≤ (chars.flatMap stringChar).length := by
    induction chars with
    | nil => simp
    | cons c chars ih =>
        have positive : 1 ≤ (stringChar c).length := by
          rcases stringChar_cases c with ⟨raw, _⟩ | ⟨escaped, eq, _⟩ <;> simp [*]
        rw [List.flatMap_cons, List.length_append, List.length_cons]
        omega
  have inner := covered value.toList
  simp only [stringText, List.length_append, List.length_cons, List.length_nil]
  omega

end Json

end ScanTree

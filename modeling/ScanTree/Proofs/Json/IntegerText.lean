import ScanTree.Json.Decode
import Mathlib.Algebra.Group.Nat.Defs

/-!
# Integers read back

The decimal form of an integer begins with no superfluous zero.  Where nothing
follows that could go on with the numeral, it is read as that integer, unless it
has too many digits.
-/

namespace ScanTree

namespace Json

/-- What follows a numeral does not go on with it. -/
def EndsNumeral (rest : List Char) : Prop :=
  ∀ c ∈ rest.head?, c.isDigit = false ∧ c ≠ '.' ∧ c ≠ 'e' ∧ c ≠ 'E'

/-- What follows digits does not begin with a digit. -/
def EndsDigits (rest : List Char) : Prop :=
  ∀ c ∈ rest.head?, c.isDigit = false

theorem endsNumeral_cons {c : Char} {rest : List Char} :
    EndsNumeral (c :: rest) ↔ c.isDigit = false ∧ c ≠ '.' ∧ c ≠ 'e' ∧ c ≠ 'E' := by
  simp [EndsNumeral]

theorem endsDigits_cons {c : Char} {rest : List Char} :
    EndsDigits (c :: rest) ↔ c.isDigit = false := by
  simp [EndsDigits]

theorem EndsNumeral.endsDigits {rest : List Char} (ends : EndsNumeral rest) : EndsDigits rest :=
  fun c isHead => (ends c isHead).1

theorem digitRun_append {digits rest : List Char} (allDigits : ∀ c ∈ digits, c.isDigit = true)
    (ends : EndsDigits rest) : digitRun (digits ++ rest) = (digits, rest) := by
  rw [digitRun, List.takeWhile_append_of_pos allDigits, List.dropWhile_append_of_pos allDigits]
  cases rest with
  | nil => simp
  | cons c rest => simp [endsDigits_cons.1 ends]

theorem fractionPart_of_ends {rest : List Char} (ends : EndsNumeral rest) :
    fractionPart rest = (none, rest) := by
  unfold fractionPart
  split
  · exact absurd rfl (endsNumeral_cons.1 ends).2.1
  · rfl

theorem exponentPart_of_ends {rest : List Char} (ends : EndsNumeral rest) :
    exponentPart rest = (none, rest) := by
  cases rest with
  | nil => rfl
  | cons c rest =>
      obtain ⟨_, _, notSmall, notLarge⟩ := endsNumeral_cons.1 ends
      simp [exponentPart, notSmall, notLarge]

theorem readDigits_toDigits (number : Nat) : readDigits (Nat.toDigits 10 number) = number := by
  rw [readDigits, ← Nat.ofDigitChars_eq_foldl, Nat.ofDigitChars_ten_toDigits]

theorem isDigit_of_mem_toDigits {number : Nat} {c : Char} (member : c ∈ Nat.toDigits 10 number) :
    c.isDigit = true :=
  Nat.isDigit_of_mem_toDigits (by omega) (by omega) member

theorem exists_toDigits_eq_cons {number : Nat} (positive : 0 < number) :
    ∃ first digits, Nat.toDigits 10 number = first :: digits ∧ first ≠ '0' := by
  induction number using Nat.strongRecOn with
  | ind number ih =>
      by_cases small : number < 10
      · refine ⟨number.digitChar, [], Nat.toDigits_of_lt_base small, ?_⟩
        have nonzero : ∀ digit < 10, 0 < digit → digit.digitChar ≠ '0' := by decide
        exact nonzero number small positive
      · obtain ⟨first, digits, eq, nonzero⟩ := ih (number / 10) (by omega) (by omega)
        refine ⟨first, digits ++ [(number % 10).digitChar], ?_, nonzero⟩
        rw [Nat.toDigits_of_base_le (by omega) (by omega), eq, List.cons_append]

/-- The digits are read as the part of a numeral before the point. -/
structure ReadsWhole (digits : List Char) : Prop where
  begins : ∃ first rest, digits = first :: rest ∧ first.isDigit = true
  reads : ∀ {rest}, EndsDigits rest → wholePart? (digits ++ rest) = some (digits, rest)

theorem readsWhole_zero : ReadsWhole ['0'] where
  begins := ⟨'0', [], rfl, rfl⟩
  reads _ := rfl

theorem readsWhole_of_ne_zero {first : Char} {digits : List Char} (nonzero : first ≠ '0')
    (allDigits : ∀ c ∈ first :: digits, c.isDigit = true) : ReadsWhole (first :: digits) where
  begins := ⟨first, digits, rfl, allDigits first List.mem_cons_self⟩
  reads := by
    intro rest ends
    have run := digitRun_append allDigits ends
    rw [List.cons_append] at run ⊢
    unfold wholePart?
    split
    · rename_i same
      exact absurd (List.cons.inj same).1 nonzero
    · rw [run]

theorem readsWhole_toDigits (number : Nat) : ReadsWhole (Nat.toDigits 10 number) := by
  -- Only zero is written with a zero in front, and then the zero stands alone.
  rcases Nat.eq_zero_or_pos number with rfl | positive
  · exact readsWhole_zero
  · obtain ⟨first, digits, eq, nonzero⟩ := exists_toDigits_eq_cons positive
    rw [eq]
    exact readsWhole_of_ne_zero nonzero fun c member => isDigit_of_mem_toDigits (eq ▸ member)

/-- The sign of a numeral. -/
def signChars (negative : Bool) : List Char :=
  if negative then ['-'] else []

theorem word?_signed (negative : Bool) {first : Char} (isDigit : first.isDigit = true)
    (text : List Char) : word? (signChars negative ++ first :: text) = none := by
  have other (c : Char) (noDigit : c.isDigit = false) : (c == first) = false := by
    rw [beq_eq_false_iff_ne]
    rintro rfl
    simp [isDigit] at noDigit
  cases negative
  · simp [word?, words, signChars, List.isPrefixOf, other]
  · simp [word?, words, signChars, List.isPrefixOf, other]

/-- A numeral is read part by part. -/
theorem scalar_signed (negative : Bool) {whole afterWhole afterFraction rest : List Char}
    {fraction : Option (List Char)} {exponent : Option Int} (isWhole : ReadsWhole whole)
    (ends : EndsDigits afterWhole)
    (isFraction : fractionPart afterWhole = (fraction, afterFraction))
    (isExponent : exponentPart afterFraction = (exponent, rest)) :
    scalar (signChars negative ++ (whole ++ afterWhole)) =
      (Numeral.value ⟨negative, whole, fraction, exponent⟩).map fun value => (value, rest) := by
  have reads := isWhole.reads ends
  obtain ⟨first, digits, rfl, isDigit⟩ := isWhole.begins
  have unsigned : first ≠ '-' := by
    rintro rfl
    simp at isDigit
  have isNumeral : numeral? (signChars negative ++ (first :: digits ++ afterWhole)) =
      some (⟨negative, first :: digits, fraction, exponent⟩, rest) := by
    rw [List.cons_append] at reads ⊢
    cases negative
    · simp [numeral?, signChars, unsigned, reads, isFraction, isExponent]
    · simp [numeral?, signChars, reads, isFraction, isExponent]
  rw [scalar, List.cons_append, word?_signed negative isDigit, ← List.cons_append, isNumeral]

theorem length_toDigits_le {number limit : Nat} (positive : 0 < limit)
    (small : number < Nat.pow 10 limit) : (Nat.toDigits 10 number).length ≤ limit :=
  (Nat.length_toDigits_le_iff (by omega) positive).2 small

theorem intChars_eq (number : Int) :
    intChars number = signChars (number < 0) ++ Nat.toDigits 10 number.natAbs := by
  simp [intChars, signChars]

/-- An integer that is short enough is read back. -/
theorem scalar_intChars {number : Int} (fits : intFits number = true) {rest : List Char}
    (ends : EndsNumeral rest) : scalar (intChars number ++ rest) = .ok (.int number, rest) := by
  have short : (Nat.toDigits 10 number.natAbs).length ≤ digitLimit :=
    length_toDigits_le (Nat.succ_pos 4299) (of_decide_eq_true fits)
  have signed : (if number < 0 then -(number.natAbs : Int) else number.natAbs) = number := by
    omega
  rw [intChars_eq, List.append_assoc, scalar_signed _ (readsWhole_toDigits number.natAbs)
    ends.endsDigits (fractionPart_of_ends ends) (exponentPart_of_ends ends)]
  simp only [Numeral.value, Option.isNone_none, and_self, if_true, Nat.not_lt.2 short, if_false,
    readDigits_toDigits, decide_eq_true_eq, signed]
  rfl

end Json

end ScanTree

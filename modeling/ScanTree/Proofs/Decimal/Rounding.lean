import ScanTree.Decimal.Shortest
import Mathlib.Algebra.Group.Nat.Defs

/-!
# Rounding to a number

The number nearest to a fraction depends on the value of the fraction alone and
has the one form in which numbers are kept.  A number of that form is the
nearest to itself, so its shortest numeral, or else its exact one, denotes it
again.
-/

namespace ScanTree

namespace Binary64

/-! ## Quotients -/

theorem roundHalfEven_mul (dividend divisor : Nat) {scale : Nat} (positive : 0 < scale) :
    roundHalfEven (dividend * scale) (divisor * scale) = roundHalfEven dividend divisor := by
  have twice : 2 * (dividend % divisor * scale) = 2 * (dividend % divisor) * scale :=
    (Nat.mul_assoc _ _ _).symm
  simp only [roundHalfEven, Nat.mul_div_mul_right _ _ positive, Nat.mul_mod_mul_right, twice,
    Nat.mul_lt_mul_right positive, Nat.mul_left_inj (Nat.ne_of_gt positive)]

theorem roundHalfEven_mul_self (number : Nat) {divisor : Nat} (positive : 0 < divisor) :
    roundHalfEven (number * divisor) divisor = number := by
  simp [roundHalfEven, positive, Nat.ne_of_lt positive]

theorem roundHalfEven_bounds (dividend divisor : Nat) :
    dividend / divisor ≤ roundHalfEven dividend divisor ∧
      roundHalfEven dividend divisor ≤ dividend / divisor + 1 := by
  unfold roundHalfEven
  dsimp only
  split <;> omega

/-! ## The form of finite numbers -/

/-- The form in which finite numbers are kept.  The significand has at most 53
bits, and it has all of them unless the unit is the least one. -/
structure IsCanonical (significand shift : Nat) : Prop where
  short : significand < 2 ^ 53
  full : shift = 0 ∨ 2 ^ 52 ≤ significand
  inRange : shift ≤ 2045

theorem isCanonical_zero : IsCanonical 0 0 where
  short := Nat.two_pow_pos 53
  full := Or.inl rfl
  inRange := Nat.zero_le 2045

/-- A number as rounding yields it. -/
inductive IsRounded : Binary64 → Prop
  | nan : IsRounded nan
  | infinite (negative : Bool) : IsRounded (infinite negative)
  | finite (negative : Bool) {significand shift : Nat}
      (canonical : IsCanonical significand shift) : IsRounded (finite negative significand shift)

/-- The shift by which a number has a significand of 53 bits brings that
significand between its bounds. -/
theorem div_two_pow_bounds (number : Nat) :
    number / 2 ^ (number.log2 - 52) < 2 ^ 53 ∧
      (number.log2 - 52 = 0 ∨ 2 ^ 52 ≤ number / 2 ^ (number.log2 - 52)) := by
  constructor
  · rw [Nat.div_lt_iff_lt_mul (Nat.two_pow_pos _), ← Nat.pow_add]
    exact Nat.lt_of_lt_of_le Nat.lt_log2_self (Nat.pow_le_pow_right (by omega) (by omega))
  · by_cases small : number.log2 ≤ 52
    · exact Or.inl (by omega)
    · have nonzero : number ≠ 0 := by
        rintro rfl
        simp at small
      refine Or.inr ?_
      rw [Nat.le_div_iff_mul_le (Nat.two_pow_pos _), ← Nat.pow_add,
        show 52 + (number.log2 - 52) = number.log2 by omega]
      exact Nat.log2_self_le nonzero

/-- The shift that a canonical significand had before it was shifted. -/
theorem IsCanonical.log2_sub {significand shift : Nat} (canonical : IsCanonical significand shift) :
    (significand * 2 ^ shift).log2 - 52 = shift := by
  rcases canonical.full with rfl | full
  · by_cases zero : significand = 0
    · simp [zero]
    · have := (Nat.log2_lt zero).2 canonical.short
      rw [Nat.pow_zero, Nat.mul_one]
      omega
  · have positive := Nat.two_pow_pos shift
    have nonzero : significand * 2 ^ shift ≠ 0 :=
      Nat.mul_ne_zero (by omega) (Nat.ne_of_gt positive)
    have log : (significand * 2 ^ shift).log2 = 52 + shift := by
      rw [Nat.log2_eq_iff nonzero, Nat.add_right_comm 52 shift 1, Nat.pow_add, Nat.pow_add]
      exact ⟨Nat.mul_le_mul_right _ full, Nat.mul_lt_mul_of_pos_right canonical.short positive⟩
    omega

/-! ## Fractions -/

/-- The same number with a given sign. -/
def withSign (negative : Bool) : Binary64 → Binary64
  | nan => nan
  | infinite _ => infinite negative
  | finite _ significand shift => finite negative significand shift

theorem withSign_ofUnits (negative other : Bool) (numerator denominator : Nat) :
    (ofUnits other numerator denominator).withSign negative =
      ofUnits negative numerator denominator := by
  unfold ofUnits
  dsimp only
  rw [apply_ite (withSign negative)]
  rfl

theorem ofUnits_mul (negative : Bool) (numerator denominator : Nat) {scale : Nat}
    (positive : 0 < scale) :
    ofUnits negative (numerator * scale) (denominator * scale) =
      ofUnits negative numerator denominator := by
  simp only [ofUnits, Nat.mul_right_comm denominator scale, Nat.mul_div_mul_right _ _ positive,
    roundHalfEven_mul _ _ positive]

/-- Fractions of one value have the same nearest number. -/
theorem ofUnits_congr (negative : Bool) {numerator denominator otherNumerator
      otherDenominator : Nat} (positive : 0 < denominator) (otherPositive : 0 < otherDenominator)
    (same : numerator * otherDenominator = otherNumerator * denominator) :
    ofUnits negative numerator denominator =
      ofUnits negative otherNumerator otherDenominator := by
  rw [← ofUnits_mul negative numerator denominator otherPositive, same,
    Nat.mul_comm denominator, ofUnits_mul negative _ _ positive]

theorem isRounded_ofUnits (negative : Bool) (numerator denominator : Nat) :
    (ofUnits negative numerator denominator).IsRounded := by
  obtain ⟨short, full⟩ := div_two_pow_bounds (numerator / denominator)
  have bounds := roundHalfEven_bounds numerator
    (denominator * 2 ^ ((numerator / denominator).log2 - 52))
  rw [← Nat.div_div_eq_div_mul] at bounds
  simp only [ofUnits, Nat.pow_eq]
  generalize roundHalfEven numerator _ = rounded at bounds ⊢
  generalize (numerator / denominator).log2 - 52 = place at bounds short full ⊢
  -- A significand that was rounded up to one more bit is halved.
  by_cases carry : rounded = 2 ^ 53
  · rw [if_pos carry]
    split
    · exact .infinite negative
    · have isPower : 2 ^ 52 < 2 ^ 53 := Nat.pow_lt_pow_right (by omega) (by omega)
      exact .finite negative ⟨isPower, Or.inr (Nat.le_refl _), by omega⟩
  · rw [if_neg carry]
    split
    · exact .infinite negative
    · exact .finite negative ⟨by omega, full.imp_right fun full => by omega, by omega⟩

/-- A number is the nearest to every fraction of its value. -/
theorem IsCanonical.ofUnits_eq {significand shift : Nat}
    (canonical : IsCanonical significand shift) (negative : Bool) {denominator : Nat}
    (positive : 0 < denominator) :
    ofUnits negative (significand * 2 ^ shift * denominator) denominator =
      finite negative significand shift := by
  have short := canonical.short
  have inRange := canonical.inRange
  have exactly : roundHalfEven (significand * 2 ^ shift * denominator) (denominator * 2 ^ shift) =
      significand := by
    rw [Nat.mul_assoc, Nat.mul_comm (2 ^ shift)]
    exact roundHalfEven_mul_self significand (Nat.mul_pos positive (Nat.two_pow_pos shift))
  simp only [ofUnits, Nat.pow_eq, Nat.mul_div_cancel _ positive, canonical.log2_sub, exactly]
  rw [if_neg (Nat.ne_of_lt short), if_neg (Nat.not_lt.2 inRange)]

/-! ## Numerals -/

theorem digitCount_mul_pow {number : Nat} (positive : 0 < number) (places : Nat) :
    digitCount (number * 10 ^ places) = digitCount number + places := by
  induction places with
  | zero => simp
  | succ places ih =>
      have more : 10 ≤ number * 10 ^ places * 10 :=
        Nat.le_mul_of_pos_left 10 (Nat.mul_pos positive (Nat.pow_pos (by omega)))
      rw [Nat.pow_succ, ← Nat.mul_assoc, digitCount, Nat.toDigits_of_base_le (by omega) more,
        List.length_append, Nat.mul_div_cancel _ (by omega), ← digitCount, ih]
      rfl

theorem withSign_ofDecimal (negative other : Bool) (digits : Nat) (exponent : Int) :
    (ofDecimal other digits exponent).withSign negative = ofDecimal negative digits exponent := by
  unfold ofDecimal
  dsimp only
  repeat' split
  · rfl
  · rfl
  · exact withSign_ofUnits negative other _ _
  · exact withSign_ofUnits negative other _ _

theorem ofDecimal_zero (negative : Bool) (exponent : Int) :
    ofDecimal negative 0 exponent = finite negative 0 0 := by
  simp [ofDecimal]

/-- A numeral denotes the number nearest to its fraction unless its size alone
settles it. -/
theorem ofDecimal_eq (negative : Bool) {digits : Nat} (positive : 0 < digits) (exponent : Int) :
    ofDecimal negative digits exponent =
      if exponent + digitCount digits < -330 then finite negative 0 0
      else if 310 < exponent + digitCount digits then infinite negative
      else ofFraction negative (digits * 10 ^ exponent.toNat) (10 ^ (-exponent).toNat) := by
  simp only [ofDecimal, Nat.ne_of_gt positive, false_or, Nat.pow_eq]
  by_cases below : exponent < 0
  · rw [if_pos below, show exponent.natAbs = (-exponent).toNat by omega,
      show exponent.toNat = 0 by omega, Nat.pow_zero, Nat.mul_one]
  · rw [if_neg below, show exponent.natAbs = exponent.toNat by omega,
      show (-exponent).toNat = 0 by omega, Nat.pow_zero]

/-- Zeros at the end of the digits count as well in the exponent. -/
theorem ofDecimal_mul_pow (negative : Bool) (digits places : Nat) (exponent : Int) :
    ofDecimal negative (digits * 10 ^ places) exponent =
      ofDecimal negative digits (exponent + places) := by
  rcases Nat.eq_zero_or_pos digits with rfl | positive
  · rw [Nat.zero_mul, ofDecimal_zero, ofDecimal_zero]
  · have powers (power : Nat) : 0 < 10 ^ power := Nat.pow_pos (by omega)
    have size : exponent + ((digitCount digits + places : Nat) : Int) =
        exponent + places + digitCount digits := by omega
    have same : ofFraction negative (digits * 10 ^ places * 10 ^ exponent.toNat)
          (10 ^ (-exponent).toNat) =
        ofFraction negative (digits * 10 ^ (exponent + places).toNat)
          (10 ^ (-(exponent + places)).toNat) := by
      unfold ofFraction
      generalize Nat.pow 2 1074 = unit
      refine ofUnits_congr negative (powers _) (powers _) ?_
      rw [Nat.mul_right_comm _ unit, Nat.mul_right_comm _ unit]
      simp only [Nat.mul_assoc digits, ← Nat.pow_add]
      rw [show places + exponent.toNat + (-(exponent + places)).toNat =
        (exponent + places).toNat + (-exponent).toNat by omega]
    rw [ofDecimal_eq negative (Nat.mul_pos positive (powers places)),
      ofDecimal_eq negative positive, digitCount_mul_pow positive, size, same]

theorem isRounded_ofDecimal (negative : Bool) (digits : Nat) (exponent : Int) :
    (ofDecimal negative digits exponent).IsRounded := by
  unfold ofDecimal
  dsimp only
  repeat' split
  · exact .finite negative isCanonical_zero
  · exact .infinite negative
  · exact isRounded_ofUnits negative _ _
  · exact isRounded_ofUnits negative _ _

/-! ## The shortest numeral -/

theorem ofDecimal_of_gridDigits? {number : Binary64} {numerator denominator digits : Nat}
    {exponent : Int} (found : gridDigits? number numerator denominator exponent = some digits) :
    ofDecimal false digits exponent = number := by
  unfold gridDigits? at found
  extract_lets power dividend divisor low nearest other readsBack at found
  split at found
  · rename_i nearestReads
    rw [← Option.some.inj found]
    exact eq_of_beq nearestReads
  · split at found
    · rename_i otherReads
      rw [← Option.some.inj found]
      exact eq_of_beq otherReads
    · cases found

theorem lt_digitCount_mul {number : Nat} (positive : 0 < number) (factor : Nat) {count : Nat}
    (some : 0 < count) (many : Nat.pow 10 count ≤ factor) :
    count < digitCount (number * factor) := by
  rw [← Nat.not_le, digitCount, Nat.length_toDigits_le_iff (by omega) some, Nat.not_lt]
  exact Nat.le_trans many (Nat.le_mul_of_pos_left factor positive)

theorem digitCount_mul_le {number bound : Nat} (le : number ≤ bound) (factor : Nat) {count : Nat}
    (some : 0 < count) (few : bound * factor < Nat.pow 10 count) :
    digitCount (number * factor) ≤ count :=
  (Nat.length_toDigits_le_iff (by omega) some).2
    (Nat.lt_of_le_of_lt (Nat.mul_le_mul_right factor le) few)

theorem IsCanonical.magnitude_le {significand shift : Nat}
    (canonical : IsCanonical significand shift) :
    significand * Nat.pow 2 shift ≤ Nat.pow 2 (53 + 2045) := by
  have bounded (bound : Nat) (le : shift ≤ bound) :
      significand * Nat.pow 2 shift ≤ Nat.pow 2 (53 + bound) := by
    simp only [Nat.pow_eq, Nat.pow_add]
    exact Nat.mul_le_mul (Nat.le_of_lt canonical.short) (Nat.pow_le_pow_right Nat.two_pos le)
  exact bounded 2045 canonical.inRange

/-- A numeral of the value of a number denotes the number if it is neither so
small nor so large that its size settles it. -/
theorem IsCanonical.ofDecimal_of_places {significand shift : Nat}
    (canonical : IsCanonical significand shift) (positive : 0 < significand) (negative : Bool)
    (factor units least greatest places : Nat)
    (exactly : factor * units = Nat.pow 10 places) (some : 0 < least ∧ 0 < greatest ∧ 0 < places)
    (many : Nat.pow 10 least ≤ factor) (notSmall : places ≤ least + 330)
    (few : Nat.pow 2 (53 + 2045) * factor < Nat.pow 10 greatest)
    (notLarge : greatest ≤ places + 310) (isUnits : units = Nat.pow 2 1074) :
    ofDecimal negative (significand * Nat.pow 2 shift * factor) (-places) =
      finite negative significand shift := by
  have isPositive : 0 < significand * Nat.pow 2 shift :=
    Nat.mul_pos positive (Nat.two_pow_pos shift)
  have powerPositive : 0 < Nat.pow 10 places := Nat.pow_pos (by omega)
  have factorPositive : 0 < factor := Nat.lt_of_lt_of_le (Nat.pow_pos (by omega)) many
  have lower := lt_digitCount_mul isPositive factor some.1 many
  have upper := digitCount_mul_le canonical.magnitude_le factor some.2.1 few
  rw [ofDecimal_eq negative (Nat.mul_pos isPositive factorPositive), if_neg (by omega),
    if_neg (by omega), show (-(places : Int)).toNat = 0 by omega,
    show (-(-(places : Int))).toNat = places by omega, Nat.pow_zero, Nat.mul_one, ofFraction,
    ← isUnits, Nat.mul_assoc _ factor, exactly]
  exact canonical.ofUnits_eq negative powerPositive

/-- The exact numeral of a number denotes the number. -/
theorem IsCanonical.ofDecimal_exact {significand shift : Nat}
    (canonical : IsCanonical significand shift) (positive : 0 < significand) (negative : Bool) :
    ofDecimal negative (significand * Nat.pow 2 shift * Nat.pow 5 1074) (-1074) =
      finite negative significand shift :=
  canonical.ofDecimal_of_places positive negative (Nat.pow 5 1074) (Nat.pow 2 1074) 744 1384 1074
    (by decide +kernel) (by decide) (by decide +kernel) (by decide) (by decide +kernel)
    (by decide) rfl

/-- The shortest numeral of a number denotes the number. -/
theorem IsCanonical.ofDecimal_shortest {significand shift : Nat}
    (canonical : IsCanonical significand shift) (positive : 0 < significand) (negative : Bool) :
    ofDecimal negative (shortest significand shift).1 (shortest significand shift).2 =
      finite negative significand shift := by
  unfold shortest
  extract_lets numerator denominator place search
  cases found : search with
  | none => exact canonical.ofDecimal_exact positive negative
  | some numeral =>
      obtain ⟨count, _, onGrid⟩ := List.exists_of_findSome?_eq_some found
      obtain ⟨digits, isDigits, rfl⟩ := Option.map_eq_some_iff.1 onGrid
      rw [Option.getD_some, ← withSign_ofDecimal negative false,
        ofDecimal_of_gridDigits? isDigits]
      rfl

end Binary64

end ScanTree

import ScanTree.Json.Print
import ScanTree.Proofs.Decimal.Rounding
import ScanTree.Proofs.Json.IntegerText

/-!
# Real numbers read back

The digits of a finite number are laid out in one of four forms, all of which
have a point or an exponent and denote the same number.  Where nothing follows
that could go on with the numeral, the number is read back.
-/

namespace ScanTree

namespace Json

open Binary64 (ofDecimal ofDecimal_mul_pow layOut)

/-! ## Digits -/

theorem readDigits_append (digits more : List Char) :
    readDigits (digits ++ more) = readDigits digits * 10 ^ more.length + readDigits more := by
  simp only [readDigits, ← Nat.ofDigitChars_eq_foldl, Nat.ofDigitChars_append]
  rw [Nat.ofDigitChars_eq_ofDigitChars_zero, Nat.mul_comm]

theorem readDigits_replicate (places : Nat) : readDigits (List.replicate places '0') = 0 := by
  rw [readDigits, ← Nat.ofDigitChars_eq_foldl, Nat.ofDigitChars_replicate_zero, Nat.mul_zero]

theorem readDigits_replicate_append (places : Nat) (digits : List Char) :
    readDigits (List.replicate places '0' ++ digits) = readDigits digits := by
  rw [readDigits_append, readDigits_replicate, Nat.zero_mul, Nat.zero_add]

theorem readDigits_append_replicate (digits : List Char) (places : Nat) :
    readDigits (digits ++ List.replicate places '0') = readDigits digits * 10 ^ places := by
  rw [readDigits_append, readDigits_replicate, List.length_replicate, Nat.add_zero]

theorem isDigit_of_mem_replicate {places : Nat} {c : Char}
    (member : c ∈ List.replicate places '0') : c.isDigit = true := by
  rw [List.eq_of_mem_replicate member]
  rfl

/-! ## Fractions and exponents -/

theorem fractionPart_point {digits rest : List Char} (nonempty : digits ≠ [])
    (allDigits : ∀ c ∈ digits, c.isDigit = true) (ends : EndsDigits rest) :
    fractionPart ('.' :: (digits ++ rest)) = (some digits, rest) := by
  obtain ⟨first, digits, rfl⟩ := List.exists_cons_of_ne_nil nonempty
  rw [fractionPart, digitRun_append allDigits ends]

theorem exponentPart_signed (negative : Bool) {digits rest : List Char} (nonempty : digits ≠ [])
    (allDigits : ∀ c ∈ digits, c.isDigit = true) (ends : EndsDigits rest) :
    exponentPart ('e' :: (if negative then '-' else '+') :: (digits ++ rest)) =
      (some (if negative then -(readDigits digits : Int) else readDigits digits), rest) := by
  obtain ⟨first, digits, rfl⟩ := List.exists_cons_of_ne_nil nonempty
  cases negative
  · simp only [exponentPart, true_or, if_true, Bool.false_eq_true, if_false,
      digitRun_append allDigits ends]
  · simp only [exponentPart, true_or, if_true, digitRun_append allDigits ends]

/-! ## Numerals of real numbers -/

/-- With either sign before it, the text is read as the real number nearest to
`digits * 10 ^ power`. -/
structure DenotesReal (text : List Char) (digits : Nat) (power : Int) : Prop where
  begins : ∃ first rest, text = first :: rest ∧ first.isDigit = true
  reads : ∀ negative {rest}, EndsNumeral rest →
    scalar (signChars negative ++ (text ++ rest)) =
      .ok (.real (ofDecimal negative digits power), rest)

theorem ReadsWhole.begins_append {whole : List Char} (isWhole : ReadsWhole whole)
    (after : List Char) : ∃ first rest, whole ++ after = first :: rest ∧ first.isDigit = true := by
  obtain ⟨first, rest, rfl, isDigit⟩ := isWhole.begins
  exact ⟨first, rest ++ after, rfl, isDigit⟩

/-- Digits with a point among them. -/
theorem denotesReal_point {whole fraction : List Char} (isWhole : ReadsWhole whole)
    (nonempty : fraction ≠ []) (allDigits : ∀ c ∈ fraction, c.isDigit = true) :
    DenotesReal (whole ++ '.' :: fraction) (readDigits (whole ++ fraction))
      (-(fraction.length : Int)) where
  begins := isWhole.begins_append _
  reads := by
    intro negative rest ends
    rw [List.append_assoc, List.cons_append, scalar_signed negative isWhole
      (endsDigits_cons.2 rfl) (fractionPart_point nonempty allDigits ends.endsDigits)
      (exponentPart_of_ends ends)]
    simp [Numeral.value, Except.map]

/-- The fraction after the point, if there are digits for it. -/
def pointed (fraction : List Char) : List Char :=
  if fraction.isEmpty then [] else '.' :: fraction

theorem fractionPart_pointed_e {fraction : List Char}
    (allDigits : ∀ c ∈ fraction, c.isDigit = true) (rest : List Char) :
    fractionPart (pointed fraction ++ 'e' :: rest) =
      (if fraction.isEmpty then none else some fraction, 'e' :: rest) := by
  cases fraction with
  | nil => rfl
  | cons first digits =>
      exact fractionPart_point (List.cons_ne_nil first digits) allDigits (endsDigits_cons.2 rfl)

/-- Digits with an exponent after them. -/
theorem denotesReal_exponent {whole fraction power : List Char} (isWhole : ReadsWhole whole)
    (allDigits : ∀ c ∈ fraction, c.isDigit = true) (nonempty : power ≠ [])
    (powerDigits : ∀ c ∈ power, c.isDigit = true) (below : Bool) :
    DenotesReal (whole ++ (pointed fraction ++ 'e' :: (if below then '-' else '+') :: power))
      (readDigits (whole ++ fraction))
      ((if below then -(readDigits power : Int) else readDigits power) - fraction.length) where
  begins := isWhole.begins_append _
  reads := by
    intro negative rest ends
    have endsWhole : EndsDigits
        (pointed fraction ++ 'e' :: (if below then '-' else '+') :: (power ++ rest)) := by
      cases fraction
      · exact endsDigits_cons.2 rfl
      · exact endsDigits_cons.2 rfl
    simp only [List.append_assoc, List.cons_append]
    rw [scalar_signed negative isWhole endsWhole (fractionPart_pointed_e allDigits _)
      (exponentPart_signed below nonempty powerDigits ends.endsDigits)]
    cases fraction with
    | nil => simp [Numeral.value, Except.map]
    | cons first digits => simp [Numeral.value, Except.map]

theorem DenotesReal.of_eq {text : List Char} {digits other : Nat} {power otherPower : Int}
    (denotes : DenotesReal text digits power)
    (same : ∀ negative, ofDecimal negative digits power = ofDecimal negative other otherPower) :
    DenotesReal text other otherPower where
  begins := denotes.begins
  reads := by
    intro negative rest ends
    rw [denotes.reads negative ends, same]

/-! ## The four forms -/

section

variable {first : Char} {digits : List Char}

theorem denotesReal_below_one (allDigits : ∀ c ∈ digits, c.isDigit = true)
    (nonempty : digits ≠ []) (zeros : Nat) :
    DenotesReal (['0', '.'] ++ List.replicate zeros '0' ++ digits) (readDigits digits)
      (-(zeros : Int) - digits.length) := by
  have shown : ∀ c ∈ List.replicate zeros '0' ++ digits, c.isDigit = true := fun c member =>
    (List.mem_append.1 member).elim isDigit_of_mem_replicate (allDigits c)
  have denotes := denotesReal_point readsWhole_zero (by simp [nonempty]) shown
  have value : readDigits (['0'] ++ (List.replicate zeros '0' ++ digits)) = readDigits digits := by
    rw [← List.append_assoc, ← List.replicate_one, List.replicate_append_replicate,
      readDigits_replicate_append]
  have power : -((List.replicate zeros '0' ++ digits).length : Int) =
      -(zeros : Int) - digits.length := by
    rw [List.length_append, List.length_replicate]
    omega
  rw [value, power] at denotes
  simpa using denotes

variable (nonzero : first ≠ '0') (allDigits : ∀ c ∈ first :: digits, c.isDigit = true)
include nonzero allDigits

theorem denotesReal_whole (zeros : Nat) :
    DenotesReal (first :: digits ++ List.replicate zeros '0' ++ ['.', '0'])
      (readDigits (first :: digits)) zeros := by
  have shown : ∀ c ∈ first :: (digits ++ List.replicate zeros '0'), c.isDigit = true :=
    fun c member => (List.mem_append.1 (List.cons_append ▸ member)).elim (allDigits c)
      isDigit_of_mem_replicate
  have onlyZero : ∀ c ∈ ['0'], c.isDigit = true := by simp
  have denotes := denotesReal_point (readsWhole_of_ne_zero nonzero shown)
    (List.cons_ne_nil '0' []) onlyZero
  refine DenotesReal.of_eq denotes fun negative => ?_
  have value : readDigits (first :: digits ++ List.replicate zeros '0' ++ ['0']) =
      readDigits (first :: digits) * 10 ^ (zeros + 1) := by
    rw [List.append_assoc, ← List.replicate_succ', readDigits_append_replicate]
  have power : -((['0'] : List Char).length : Int) + ((zeros + 1 : Nat) : Int) = zeros := by
    rw [List.length_singleton]
    omega
  rw [← List.cons_append, value, ofDecimal_mul_pow, power]

theorem denotesReal_between {place : Nat} (positive : 0 < place)
    (within : place < (first :: digits).length) :
    DenotesReal ((first :: digits).take place ++ ['.'] ++ (first :: digits).drop place)
      (readDigits (first :: digits)) (place - (first :: digits).length) := by
  obtain ⟨place, rfl⟩ : ∃ less, place = less + 1 := ⟨place - 1, by omega⟩
  have before : ∀ c ∈ first :: digits.take place, c.isDigit = true := fun c member =>
    allDigits c (List.take_subset (place + 1) (first :: digits) member)
  have behind : ∀ c ∈ digits.drop place, c.isDigit = true := fun c member =>
    allDigits c (List.drop_subset (place + 1) (first :: digits) member)
  have nonempty : digits.drop place ≠ [] := by
    rw [ne_eq, List.drop_eq_nil_iff]
    simp only [List.length_cons] at within
    omega
  have denotes := denotesReal_point (readsWhole_of_ne_zero nonzero before) nonempty behind
  have power : -((digits.drop place).length : Int) =
      ((place + 1 : Nat) : Int) - (first :: digits).length := by
    simp only [List.length_cons] at within
    rw [List.length_drop, List.length_cons]
    omega
  have joined : first :: digits.take place ++ digits.drop place = first :: digits := by
    rw [List.cons_append, List.take_append_drop]
  rw [joined, power] at denotes
  simpa using denotes

theorem denotesReal_scientific (power : Nat) (below : Bool) (padding : Nat) :
    DenotesReal ((if digits.length = 0 then first :: digits
        else (first :: digits).take 1 ++ ['.'] ++ (first :: digits).drop 1)
        ++ ['e', if below then '-' else '+'] ++ List.replicate padding '0'
        ++ Nat.toDigits 10 power)
      (readDigits (first :: digits))
      ((if below then -(power : Int) else power) - digits.length) := by
  have shown : ∀ c ∈ List.replicate padding '0' ++ Nat.toDigits 10 power, c.isDigit = true :=
    fun c member => (List.mem_append.1 member).elim isDigit_of_mem_replicate
      isDigit_of_mem_toDigits
  have whole : ReadsWhole [first] := readsWhole_of_ne_zero nonzero fun c member =>
    allDigits c (List.mem_of_mem_head? (by simpa using (List.mem_singleton.1 member).symm))
  have denotes := denotesReal_exponent whole (fun c member => allDigits c (.tail first member))
    (by simp [Nat.toDigits_ne_nil]) shown below
  rw [readDigits_replicate_append, readDigits_toDigits] at denotes
  cases digits with
  | nil => simpa [pointed] using denotes
  | cons second digits => simpa [pointed] using denotes

/-- In whichever form digits are laid out, they denote the same number. -/
theorem denotesReal_layOut (place : Int) :
    DenotesReal (layOut (first :: digits) place) (readDigits (first :: digits))
      (place - (first :: digits).length) := by
  unfold layOut
  extract_lets count exponent power mantissa
  split
  · split
    · have denotes := denotesReal_below_one allDigits (List.cons_ne_nil first digits) place.natAbs
      rwa [show -(place.natAbs : Int) = place by omega] at denotes
    · split
      · have denotes := denotesReal_whole nonzero allDigits (place.natAbs - count)
        rwa [show ((place.natAbs - count : Nat) : Int) = place - (first :: digits).length by
          omega] at denotes
      · have denotes := denotesReal_between nonzero allDigits (by omega : 0 < place.natAbs)
          (by omega)
        rwa [show (place.natAbs : Int) = place by omega] at denotes
  · have denotes := denotesReal_scientific nonzero allDigits exponent.natAbs (exponent < 0)
      (2 - power.length)
    have magnitude : (if decide (exponent < 0) = true then -(exponent.natAbs : Int)
        else exponent.natAbs) - digits.length = place - (first :: digits).length := by
      simp only [decide_eq_true_eq, List.length_cons]
      omega
    have single : (count ≤ 1) = (digits.length = 0) := by simp [count]
    rw [magnitude] at denotes
    simp only [mantissa, single]
    simpa only [decide_eq_true_eq] using denotes

end

/-! ## Numbers -/

/-- Digits are what is kept of them when the zeros at their end are taken away,
and those zeros. -/
theorem exists_append_replicate (digits : List Char) :
    ∃ zeros, digits = (digits.reverse.dropWhile (· == '0')).reverse
      ++ List.replicate zeros '0' := by
  refine ⟨(digits.reverse.takeWhile (· == '0')).length, ?_⟩
  have zeros : digits.reverse.takeWhile (· == '0') =
      List.replicate (digits.reverse.takeWhile (· == '0')).length '0' :=
    List.eq_replicate_of_mem fun c member =>
      eq_of_beq (List.all_eq_true.1 List.all_takeWhile c member)
  rw [← List.reverse_replicate, ← zeros, ← List.reverse_append, List.takeWhile_append_dropWhile,
    List.reverse_reverse]

/-- The text of a positive number denotes the number. -/
theorem denotesReal_of_pos {significand shift : Nat}
    (canonical : Binary64.IsCanonical significand shift) (positive : 0 < significand) :
    ∃ digits power, DenotesReal (Binary64.magnitudeText significand shift) digits power ∧
      ∀ negative, ofDecimal negative digits power = .finite negative significand shift := by
  have exact := canonical.ofDecimal_shortest positive
  unfold Binary64.magnitudeText
  rw [if_neg (Nat.ne_of_gt positive)]
  generalize Binary64.shortest significand shift = numeral at exact
  obtain ⟨digits, exponent⟩ := numeral
  dsimp only at exact ⊢
  have digitsPositive : 0 < digits := by
    rcases Nat.eq_zero_or_pos digits with rfl | found
    · have zero := (Binary64.ofDecimal_zero false exponent).symm.trans (exact false)
      cases zero
      omega
    · exact found
  obtain ⟨first, others, eq, nonzero⟩ := exists_toDigits_eq_cons digitsPositive
  obtain ⟨zeros, split⟩ := exists_append_replicate (Nat.toDigits 10 digits)
  generalize ((Nat.toDigits 10 digits).reverse.dropWhile (· == '0')).reverse = kept at split ⊢
  cases kept with
  | nil =>
      -- The first digit would be one of the zeros.
      have isFirst : first ∈ List.replicate zeros '0' := by
        rw [List.nil_append] at split
        rw [← split, eq]
        exact List.mem_cons_self
      exact absurd (List.eq_of_mem_replicate isFirst) nonzero
  | cons c kept =>
      have same : c = first := (List.cons.inj (split.symm.trans eq)).1
      have allDigits : ∀ d ∈ c :: kept, d.isDigit = true := fun d member =>
        isDigit_of_mem_toDigits (split ▸ List.mem_append_left _ member)
      have power : exponent + (Nat.toDigits 10 digits).length - (c :: kept).length =
          exponent + zeros := by
        rw [split, List.length_append, List.length_replicate]
        omega
      have read : readDigits (c :: kept) * 10 ^ zeros = digits := by
        rw [← readDigits_append_replicate, ← split, readDigits_toDigits]
      have denotes := denotesReal_layOut (same ▸ nonzero) allDigits
        (exponent + (Nat.toDigits 10 digits).length)
      refine ⟨_, _, denotes, fun negative => ?_⟩
      rw [power, ← ofDecimal_mul_pow, read, exact]

theorem denotesReal_magnitudeText {significand shift : Nat}
    (canonical : Binary64.IsCanonical significand shift) :
    ∃ digits power, DenotesReal (Binary64.magnitudeText significand shift) digits power ∧
      ∀ negative, ofDecimal negative digits power = .finite negative significand shift := by
  rcases Nat.eq_zero_or_pos significand with rfl | positive
  · obtain rfl : shift = 0 := canonical.full.resolve_right (by omega)
    exact ⟨0, -1, denotesReal_point readsWhole_zero (List.cons_ne_nil '0' []) (by simp),
      fun negative => Binary64.ofDecimal_zero negative (-1)⟩
  · exact denotesReal_of_pos canonical positive

theorem scalar_nan (rest : List Char) : scalar ("NaN".toList ++ rest) = .ok (.real .nan, rest) :=
  rfl

theorem scalar_infinity (negative : Bool) (rest : List Char) :
    scalar (signChars negative ++ ("Infinity".toList ++ rest)) =
      .ok (.real (.infinite negative), rest) := by
  cases negative <;> rfl

/-- A number as rounding yields it is read back. -/
theorem scalar_text {number : Binary64} (rounded : number.IsRounded) {rest : List Char}
    (ends : EndsNumeral rest) :
    scalar (number.text "NaN".toList "Infinity".toList ++ rest) = .ok (.real number, rest) := by
  cases rounded with
  | nan => exact scalar_nan rest
  | infinite negative =>
      rw [Binary64.text, List.append_assoc]
      exact scalar_infinity negative rest
  | @finite negative significand shift canonical =>
      rw [Binary64.text, List.append_assoc]
      obtain ⟨digits, power, denotes, same⟩ := denotesReal_magnitudeText canonical
      rw [← same negative]
      exact denotes.reads negative ends

end Json

end ScanTree

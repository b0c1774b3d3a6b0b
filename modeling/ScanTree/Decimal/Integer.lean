/-!
# Integers in texts

An integer is written in decimal with a sign if it is negative.  Reading and
writing are limited to 4300 digits.
-/

namespace ScanTree

/-- The greatest number of digits of an integer in a text. -/
def digitLimit : Nat := 4300

/-- The decimal form of an integer. -/
def intChars (value : Int) : List Char :=
  (if value < 0 then ['-'] else []) ++ Nat.toDigits 10 value.natAbs

/-- Whether an integer may be written. -/
def intFits (value : Int) : Bool :=
  decide (value.natAbs < Nat.pow 10 digitLimit)

/-- Why an integer cannot be written. -/
inductive IntegerError where
  | tooLong
deriving DecidableEq, Repr

/-- The wording of a refusal. -/
def IntegerError.message : IntegerError → String
  | tooLong =>
    s!"Exceeds the limit ({digitLimit} digits) for integer string conversion; " ++
      "use sys.set_int_max_str_digits() to increase the limit"

/-- The text of an integer, if it may be written. -/
def intText (value : Int) : Except IntegerError String :=
  if intFits value then .ok (String.ofList (intChars value)) else .error .tooLong

theorem intText_of_fits {value : Int} (fits : intFits value = true) :
    intText value = .ok (String.ofList (intChars value)) := by
  rw [intText, if_pos fits]

theorem exists_intText_iff {value : Int} :
    (∃ text, intText value = .ok text) ↔ intFits value = true := by
  refine ⟨fun ⟨text, isText⟩ => ?_, fun fits => ⟨_, intText_of_fits fits⟩⟩
  cases fits : intFits value with
  | true => rfl
  | false =>
      rw [intText, fits] at isText
      cases isText

end ScanTree

import ScanTree.Decimal.Integer
import ScanTree.Json.Basic
import ScanTree.Text.Hex

/-!
# Reading JSON

A text is read from left to right, and the first fault ends the reading.  A
fault is told by its cause and by the characters that were left when it was
found; the public reader turns that into an offset, a line and a column.
Besides the standard grammar, `NaN`, `Infinity` and `-Infinity` are numbers,
and an integer may have at most 4300 digits.

Every list and every object is read by a call of its own within the call for
the value around it, and calls may not be nested without end.  So a reader is
told for how many further calls there is room, and gives up where there is none.
The call that a word such as `NaN` takes for itself is not counted: it only matters
in the innermost place that there is room for.
-/

namespace ScanTree

namespace Json

/-- Why a text is not JSON. -/
inductive Cause where
  /-- No value begins here. -/
  | expectingValue
  /-- No quoted member name begins here. -/
  | expectingName
  /-- A member name is not followed by a colon. -/
  | expectingColon
  /-- An item or a member is followed neither by a comma nor by the end. -/
  | expectingComma
  /-- The text ends within a string. -/
  | unterminatedString
  /-- A string holds a raw control character. -/
  | controlCharacter
  /-- A backslash is followed by no escape. -/
  | invalidEscape
  /-- A four-digit escape is incomplete. -/
  | invalidUnicodeEscape
  /-- The value is followed by something else. -/
  | extraData
  /-- The text begins with a byte order mark. -/
  | byteOrderMark
deriving DecidableEq, Repr

/-- The wording of a cause. -/
def Cause.message : Cause → String
  | expectingValue => "Expecting value"
  | expectingName => "Expecting property name enclosed in double quotes"
  | expectingColon => "Expecting ':' delimiter"
  | expectingComma => "Expecting ',' delimiter"
  | unterminatedString => "Unterminated string starting at"
  | controlCharacter => "Invalid control character at"
  | invalidEscape => "Invalid \\escape"
  | invalidUnicodeEscape => "Invalid \\uXXXX escape"
  | extraData => "Extra data"
  | byteOrderMark => "Unexpected UTF-8 BOM (decode using utf-8-sig)"

/-- What was to be done when there was no room for a further call. -/
inductive Overrun where
  /-- A list was to be read. -/
  | list
  /-- An object was to be read. -/
  | object
  /-- Something built in was to be called. -/
  | builtIn
  /-- The body of a function was to be run. -/
  | body
deriving DecidableEq, Repr

/-- The wording of an overrun. -/
def Overrun.message : Overrun → String
  | list => "maximum recursion depth exceeded while decoding a JSON array from a unicode string"
  | object => "maximum recursion depth exceeded while decoding a JSON object from a unicode string"
  | builtIn => "maximum recursion depth exceeded while calling a Python object"
  | body => "maximum recursion depth exceeded"

/-- A fault within a text. -/
inductive Fault where
  /-- The text is malformed where the given characters are left. -/
  | malformed (cause : Cause) (left : List Char)
  /-- An integer has too many digits. -/
  | integerTooLong (digits : Nat)
  /-- There was no room for a further call. -/
  | tooDeep (overrun : Overrun)
deriving DecidableEq, Repr

/-- A fault that is found where there is room for so many further calls.  To say
what is malformed takes three calls in one another: one that makes the message,
the body of its initialization, and one in that body which counts lines. -/
def Fault.told (room : Nat) : Fault → Fault
  | malformed cause left =>
    if 3 ≤ room then malformed cause left
    else tooDeep (if room = 1 then .body else .builtIn)
  | fault => fault

/-- The blanks between tokens: space, tab, line feed and carriage return. -/
def isTokenBlank (c : Char) : Bool :=
  c == ' ' || c == '\t' || c == '\n' || c == '\r'

/-- A text without the blanks at its start. -/
def skipBlanks (text : List Char) : List Char :=
  text.dropWhile isTokenBlank

/-! ## Strings -/

/-- The number written by the next four hexadecimal digits. -/
def fourHexDigits? : List Char → Option (Nat × List Char)
  | first :: second :: third :: fourth :: rest => do
    let first ← Text.hexDigit? first
    let second ← Text.hexDigit? second
    let third ← Text.hexDigit? third
    let fourth ← Text.hexDigit? fourth
    pure (((first * 16 + second) * 16 + third) * 16 + fourth, rest)
  | _ => none

/-- Read a four-digit escape after its `u`.  Something must follow it. -/
def codeUnit (text : List Char) : Except Fault (Nat × List Char) :=
  match fourHexDigits? text with
  | some (unit, next :: rest) => .ok (unit, next :: rest)
  | _ => .error (.malformed .invalidUnicodeEscape ('u' :: text))

/-- Read an escape by code units after its `u`.  Two halves of a surrogate pair
make one character.  A half alone is no character and no text here holds one: it is
read as the replacement character, so what is said about every text is said with
this reading of such escapes. -/
def unicodeEscape (text : List Char) : Except Fault (Char × List Char) := do
  let (unit, rest) ← codeUnit text
  if 0xD800 ≤ unit ∧ unit ≤ 0xDBFF then
    match rest with
    | '\\' :: 'u' :: low =>
      if low.drop 4 ≠ [] then
        let (second, after) ← codeUnit low
        if 0xDC00 ≤ second ∧ second ≤ 0xDFFF then
          return (Char.ofNat (0x10000 + (unit - 0xD800) * 0x400 + (second - 0xDC00)), after)
        else
          return ('\uFFFD', rest)
      else
        return ('\uFFFD', rest)
    | _ => return ('\uFFFD', rest)
  else if 0xDC00 ≤ unit ∧ unit ≤ 0xDFFF then
    return ('\uFFFD', rest)
  else
    return (Char.ofNat unit, rest)

/-- The character that a one-letter escape stands for. -/
def letterEscape? (c : Char) : Option Char :=
  if c = '"' ∨ c = '\\' ∨ c = '/' then some c
  else if c = 'b' then some '\x08'
  else if c = 'f' then some '\x0c'
  else if c = 'n' then some '\n'
  else if c = 'r' then some '\r'
  else if c = 't' then some '\t'
  else none

/-- Read an escape after its backslash.  `opening` is the text from the opening
quote on. -/
def escape (opening : List Char) : List Char → Except Fault (Char × List Char)
  | [] => .error (.malformed .unterminatedString opening)
  | c :: rest =>
    if c = 'u' then unicodeEscape rest
    else
      match letterEscape? c with
      | some decoded => .ok (decoded, rest)
      | none => .error (.malformed .invalidEscape ('\\' :: c :: rest))

/-- Read a string after its opening quote.  `read` holds what was read so far,
the last character first.  Each step takes a character, so a budget of one more
than the length of the text is enough. -/
def stringBody (opening : List Char) :
    Nat → List Char → List Char → Except Fault (String × List Char)
  | 0, _, _ => .error (.malformed .unterminatedString opening)
  | _ + 1, _, [] => .error (.malformed .unterminatedString opening)
  | budget + 1, read, c :: rest =>
    if c = '"' then .ok (String.ofList read.reverse, rest)
    else if c = '\\' then do
      let (decoded, rest) ← escape opening rest
      stringBody opening budget (decoded :: read) rest
    else if c.toNat < 0x20 then .error (.malformed .controlCharacter (c :: rest))
    else stringBody opening budget (c :: read) rest

/-- Read a string after its opening quote. -/
def string (budget : Nat) (text : List Char) : Except Fault (String × List Char) :=
  stringBody ('"' :: text) budget [] text

/-! ## Numbers -/

/-- The parts of a numeral. -/
structure Numeral where
  /-- Whether it begins with a minus sign. -/
  negative : Bool
  /-- The digits before the point. -/
  whole : List Char
  /-- The digits after the point, if there is one. -/
  fraction : Option (List Char)
  /-- The exponent, if there is one. -/
  exponent : Option Int
deriving DecidableEq, Repr

/-- The number that decimal digits write. -/
def readDigits (digits : List Char) : Nat :=
  digits.foldl (fun value c => 10 * value + (c.toNat - '0'.toNat)) 0

/-- The digits at the start of a text, and what follows them. -/
def digitRun (text : List Char) : List Char × List Char :=
  (text.takeWhile Char.isDigit, text.dropWhile Char.isDigit)

/-- The fraction at the start of a text: a point with a digit after it. -/
def fractionPart : List Char → Option (List Char) × List Char
  | '.' :: rest =>
    match digitRun rest with
    | ([], _) => (none, '.' :: rest)
    | (digits, after) => (some digits, after)
  | text => (none, text)

/-- The exponent at the start of a text: the letter, perhaps a sign, and a
digit. -/
def exponentPart (text : List Char) : Option Int × List Char :=
  match text with
  | c :: rest =>
    if c = 'e' ∨ c = 'E' then
      let (negative, unsigned) :=
        match rest with
        | '-' :: after => (true, after)
        | '+' :: after => (false, after)
        | after => (false, after)
      match digitRun unsigned with
      | ([], _) => (none, text)
      | (digits, after) =>
        let magnitude : Int := readDigits digits
        (some (if negative then -magnitude else magnitude), after)
    else (none, text)
  | [] => (none, text)

/-- The digits before the point: a zero alone, or digits that begin with no
zero. -/
def wholePart? : List Char → Option (List Char × List Char)
  | '0' :: rest => some (['0'], rest)
  | text =>
    match digitRun text with
    | ([], _) => none
    | run => some run

/-- The numeral at the start of a text. -/
def numeral? (text : List Char) : Option (Numeral × List Char) := do
  let (negative, unsigned) :=
    match text with
    | '-' :: rest => (true, rest)
    | _ => (false, text)
  let (whole, rest) ← wholePart? unsigned
  let (fraction, rest) := fractionPart rest
  let (exponent, rest) := exponentPart rest
  pure (⟨negative, whole, fraction, exponent⟩, rest)

/-- The number that a numeral denotes. -/
def Numeral.value (numeral : Numeral) : Except Fault Json :=
  if numeral.fraction.isNone ∧ numeral.exponent.isNone then
    if digitLimit < numeral.whole.length then
      .error (.integerTooLong numeral.whole.length)
    else
      let magnitude : Int := readDigits numeral.whole
      .ok (.int (if numeral.negative then -magnitude else magnitude))
  else
    let fraction := numeral.fraction.getD []
    let exponent := numeral.exponent.getD 0 - fraction.length
    .ok (.real (.ofDecimal numeral.negative (readDigits (numeral.whole ++ fraction)) exponent))

/-! ## Values -/

/-- The values that are written as words. -/
def words : List (List Char × Json) :=
  [("null".toList, .null), ("true".toList, .bool true), ("false".toList, .bool false),
    ("NaN".toList, .real .nan), ("Infinity".toList, .real (.infinite false)),
    ("-Infinity".toList, .real (.infinite true))]

/-- The word at the start of a text. -/
def word? (text : List Char) : Option (Json × List Char) :=
  (words.find? fun word => word.1.isPrefixOf text).map fun word =>
    (word.2, text.drop word.1.length)

/-- The word or the number at the start of a text. -/
def scalar (text : List Char) : Except Fault (Json × List Char) :=
  match word? text with
  | some found => .ok found
  | none =>
    match numeral? text with
    | some (numeral, rest) => numeral.value.map fun value => (value, rest)
    | none => .error (.malformed .expectingValue text)

/-- Read a member's name and the colon after it, up to the member's value. -/
def memberName (budget : Nat) (text : List Char) : Except Fault (String × List Char) :=
  match text with
  | '"' :: rest => do
    let (name, rest) ← string budget rest
    match skipBlanks rest with
    | ':' :: rest => pure (name, skipBlanks rest)
    | rest => .error (.malformed .expectingColon rest)
  | _ => .error (.malformed .expectingName text)

mutual

/-- Read a value where there is room for so many further calls.  Every value and
every further item takes a character and costs at most two units of the budget,
so a budget of one more than twice the length of the text is enough.

That a text breaks off or has no value in a place is said from outside the
value, where there is always room for it. -/
def value (room : Nat) : Nat → List Char → Except Fault (Json × List Char)
  | 0, text => .error (.malformed .expectingValue text)
  | budget + 1, text =>
    match text with
    | '"' :: rest => do
      let (read, rest) ← (string budget rest).mapError (.told room)
      pure (.str read, rest)
    | '[' :: rest =>
      match room with
      | 0 => .error (.tooDeep .list)
      | room + 1 =>
        match skipBlanks rest with
        | ']' :: rest => .ok (.arr [], rest)
        | rest => items room budget [] rest
    | '{' :: rest =>
      match room with
      | 0 => .error (.tooDeep .object)
      | room + 1 =>
        match skipBlanks rest with
        | '}' :: rest => .ok (.obj [], rest)
        | rest => members room budget [] rest
    | _ => scalar text

/-- Read the items of a list from its first or next item on.  `read` holds the
items read so far, the last one first. -/
def items (room : Nat) : Nat → List Json → List Char → Except Fault (Json × List Char)
  | 0, _, text => .error (.malformed .expectingValue text)
  | budget + 1, read, text => do
    let (item, rest) ← value room budget text
    match skipBlanks rest with
    | ']' :: rest => pure (.arr (item :: read).reverse, rest)
    | ',' :: rest => items room budget (item :: read) (skipBlanks rest)
    | rest => .error (.told room (.malformed .expectingComma rest))

/-- Read the members of an object from its first or next member on.  `read`
holds the members read so far, the last one first. -/
def members (room : Nat) :
    Nat → List (String × Json) → List Char → Except Fault (Json × List Char)
  | 0, _, text => .error (.malformed .expectingName text)
  | budget + 1, read, text => do
    let (name, rest) ← (memberName budget text).mapError (.told room)
    let (item, rest) ← value room budget rest
    match skipBlanks rest with
    | '}' :: rest => pure (.obj (Members.ofPairs ((name, item) :: read).reverse), rest)
    | ',' :: rest => members room budget ((name, item) :: read) (skipBlanks rest)
    | rest => .error (.told room (.malformed .expectingComma rest))

end

/-- Read a whole text as one value. -/
def document (room : Nat) (text : List Char) : Except Fault Json :=
  match text with
  | '\uFEFF' :: _ => .error (.malformed .byteOrderMark text)
  | _ => do
    let (read, rest) ← value room (2 * text.length + 1) (skipBlanks text)
    match skipBlanks rest with
    | [] => pure read
    | rest => .error (.malformed .extraData rest)

/-! ## Faults with positions -/

/-- Why a text was refused. -/
inductive DecodeError where
  /-- The text is malformed at an offset, which lies in the given line and
  column, both counted from one. -/
  | malformed (cause : Cause) (offset line column : Nat)
  /-- An integer has too many digits. -/
  | integerTooLong (digits : Nat)
  /-- There was no room for a further call. -/
  | tooDeep (overrun : Overrun)
deriving DecidableEq, Repr

/-- A fault with its position in the text. -/
def Fault.locate (text : List Char) : Fault → DecodeError
  | malformed cause left =>
    let offset := text.length - left.length
    let before := text.take offset
    .malformed cause offset (before.count '\n' + 1)
      ((before.reverse.takeWhile (· ≠ '\n')).length + 1)
  | integerTooLong digits => .integerTooLong digits
  | tooDeep overrun => .tooDeep overrun

/-- The wording of a refusal. -/
def DecodeError.message : DecodeError → String
  | malformed cause offset line column =>
    s!"{cause.message}: line {line} column {column} (char {offset})"
  | integerTooLong digits =>
    s!"Exceeds the limit ({digitLimit} digits) for integer string conversion: " ++
      s!"value has {digits} digits; use sys.set_int_max_str_digits() to increase the limit"
  | tooDeep overrun => overrun.message

/-- Read a text as one JSON value where there is room for so many further calls. -/
def decodeWithin (room : Nat) (text : String) : Except DecodeError Json :=
  (document room text.toList).mapError (Fault.locate text.toList)

/-- How many lists and objects may be open in one another when a text is read by
a caller that is itself near the outermost one: a thousand calls may be under way,
and seven are. -/
def nestingLimit : Nat := 993

/-- Read a text as one JSON value. -/
def decode (text : String) : Except DecodeError Json :=
  decodeWithin nestingLimit text

end Json

end ScanTree

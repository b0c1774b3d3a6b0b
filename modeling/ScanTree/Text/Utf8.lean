/-!
# Decoding UTF-8

Bytes are read into characters and faults.  A fault stands for a maximal run of
bytes that begins a character and does not finish it, or for one byte that
cannot begin any.  A strict reading refuses every fault, a lenient one puts the
replacement character in its place.
-/

namespace ScanTree

namespace Text

/-- A character that has begun: the bytes still owed, the bounds of the next
one, and the bits read so far. -/
structure PartialChar where
  /-- The number of bytes still owed. -/
  owed : Nat
  /-- The least value of the next byte. -/
  low : Nat
  /-- The greatest value of the next byte. -/
  high : Nat
  /-- The bits of the bytes read so far. -/
  bits : Nat

/-- The state between two bytes: what was read, the last first, and the
character that has begun. -/
structure Utf8State where
  /-- The characters and faults read so far, the last one first. -/
  done : List (Option Char)
  /-- The character that has begun. -/
  begun : Option PartialChar

/-- Read a byte that does not continue a character. -/
def Utf8State.start (done : List (Option Char)) (byte : Nat) : Utf8State :=
  if byte < 0x80 then ⟨some (Char.ofNat byte) :: done, none⟩
  else if 0xC2 ≤ byte ∧ byte ≤ 0xDF then ⟨done, some ⟨1, 0x80, 0xBF, byte - 0xC0⟩⟩
  else if 0xE0 ≤ byte ∧ byte ≤ 0xEF then
    let low := if byte = 0xE0 then 0xA0 else 0x80
    let high := if byte = 0xED then 0x9F else 0xBF
    ⟨done, some ⟨2, low, high, byte - 0xE0⟩⟩
  else if 0xF0 ≤ byte ∧ byte ≤ 0xF4 then
    let low := if byte = 0xF0 then 0x90 else 0x80
    let high := if byte = 0xF4 then 0x8F else 0xBF
    ⟨done, some ⟨3, low, high, byte - 0xF0⟩⟩
  else ⟨none :: done, none⟩

/-- Read one byte. -/
def Utf8State.read (state : Utf8State) (byte : UInt8) : Utf8State :=
  let byte := byte.toNat
  match state.begun with
  | none => start state.done byte
  | some begun =>
    if begun.low ≤ byte ∧ byte ≤ begun.high then
      let bits := begun.bits * 64 + (byte - 0x80)
      if begun.owed ≤ 1 then ⟨some (Char.ofNat bits) :: state.done, none⟩
      else ⟨state.done, some ⟨begun.owed - 1, 0x80, 0xBF, bits⟩⟩
    else
      start (none :: state.done) byte

/-- The characters that bytes stand for, with `none` for each fault. -/
def utf8Chars (bytes : List UInt8) : List (Option Char) :=
  let state := bytes.foldl Utf8State.read ⟨[], none⟩
  (match state.begun with
    | none => state.done
    | some _ => none :: state.done).reverse

/-- The text of bytes without a fault. -/
def decodeUtf8? (bytes : List UInt8) : Option String :=
  ((utf8Chars bytes).mapM id).map String.ofList

/-- The text of any bytes, with the replacement character for each fault. -/
def decodeUtf8 (bytes : List UInt8) : String :=
  String.ofList ((utf8Chars bytes).map (·.getD '\uFFFD'))

/-- The bytes of a text. -/
def encodeUtf8 (text : String) : List UInt8 :=
  text.toUTF8.data.toList

end Text

end ScanTree

import ScanTree.Text.Utf8

/-!
# Text through UTF-8

A character is encoded by one to four bytes, and reading these bytes yields the
character and nothing else.  So the bytes of a text are decoded as the text.
-/

namespace ScanTree

namespace Text

theorem encodeUtf8_eq (text : String) :
    encodeUtf8 text = text.toList.flatMap String.utf8EncodeChar := by
  have bytes : text.toByteArray = (text.toList.flatMap String.utf8EncodeChar).toByteArray := by
    rw [← List.utf8Encode, ← String.toByteArray_ofList, String.ofList_toList]
  rw [encodeUtf8, String.toUTF8, bytes, List.data_toByteArray]

section

variable (done : List (Option Char))

theorem read_none {byte : Nat} (small : byte < 0x100) :
    Utf8State.read ⟨done, none⟩ (UInt8.ofNat byte) = Utf8State.start done byte := by
  have same : (UInt8.ofNat byte).toNat = byte := by
    rw [UInt8.toNat_ofNat']
    omega
  simp only [Utf8State.read, same]

/-- A byte within the bounds adds six bits to the character that has begun. -/
theorem read_some {owed low high bits byte : Nat} (within : low ≤ byte ∧ byte ≤ high)
    (small : byte < 0x100) :
    Utf8State.read ⟨done, some ⟨owed, low, high, bits⟩⟩ (UInt8.ofNat byte) =
      if owed ≤ 1 then ⟨some (Char.ofNat (bits * 64 + (byte - 0x80))) :: done, none⟩
      else ⟨done, some ⟨owed - 1, 0x80, 0xBF, bits * 64 + (byte - 0x80)⟩⟩ := by
  have same : (UInt8.ofNat byte).toNat = byte := by
    rw [UInt8.toNat_ofNat']
    omega
  simp only [Utf8State.read, same, within, and_self, if_true]

theorem start_of_two {byte : Nat} (first : 0xC2 ≤ byte ∧ byte ≤ 0xDF) :
    Utf8State.start done byte = ⟨done, some ⟨1, 0x80, 0xBF, byte - 0xC0⟩⟩ := by
  rw [Utf8State.start, if_neg (by omega), if_pos first]

theorem start_of_three {byte : Nat} (first : 0xE0 ≤ byte ∧ byte ≤ 0xEF) :
    Utf8State.start done byte =
      ⟨done, some ⟨2, if byte = 0xE0 then 0xA0 else 0x80, if byte = 0xED then 0x9F else 0xBF,
        byte - 0xE0⟩⟩ := by
  rw [Utf8State.start, if_neg (by omega), if_neg (by omega), if_pos first]

theorem start_of_four {byte : Nat} (first : 0xF0 ≤ byte ∧ byte ≤ 0xF4) :
    Utf8State.start done byte =
      ⟨done, some ⟨3, if byte = 0xF0 then 0x90 else 0x80, if byte = 0xF4 then 0x8F else 0xBF,
        byte - 0xF0⟩⟩ := by
  rw [Utf8State.start, if_neg (by omega), if_neg (by omega), if_neg (by omega), if_pos first]

/-- The bytes of a character are read as the character. -/
theorem foldl_read_utf8EncodeChar (c : Char) :
    (String.utf8EncodeChar c).foldl Utf8State.read ⟨done, none⟩ = ⟨some c :: done, none⟩ := by
  have valid : c.toNat < 0xD800 ∨ 0xDFFF < c.toNat ∧ c.toNat < 0x110000 := c.valid
  have isChar {code : Nat} (same : code = c.toNat) : Char.ofNat code = c := by
    rw [same, Char.ofNat_toNat]
  simp only [String.utf8EncodeChar, Char.toNat_val]
  generalize c.toNat = code at valid isChar
  -- One case for each number of bytes.
  split
  · rw [List.foldl_cons, read_none done (by omega), Utf8State.start, if_pos (by omega), isChar rfl]
    rfl
  split
  · rw [List.foldl_cons, read_none done (by omega), start_of_two done (by omega), List.foldl_cons,
      read_some done (by omega) (by omega), if_pos (by omega), isChar (by omega)]
    rfl
  split
  · rw [List.foldl_cons, read_none done (by omega), start_of_three done (by omega),
      List.foldl_cons, read_some done (by split <;> split <;> omega) (by omega),
      if_neg (by omega), List.foldl_cons, read_some done (by omega) (by omega),
      if_pos (by omega), isChar (by omega)]
    rfl
  · rw [List.foldl_cons, read_none done (by omega), start_of_four done (by omega),
      List.foldl_cons, read_some done (by split <;> split <;> omega) (by omega),
      if_neg (by omega), List.foldl_cons, read_some done (by omega) (by omega),
      if_neg (by omega), List.foldl_cons, read_some done (by omega) (by omega),
      if_pos (by omega), isChar (by omega)]
    rfl

theorem foldl_read_flatMap (chars : List Char) :
    (chars.flatMap String.utf8EncodeChar).foldl Utf8State.read ⟨done, none⟩ =
      ⟨(chars.map some).reverse ++ done, none⟩ := by
  induction chars generalizing done with
  | nil => rfl
  | cons c chars ih =>
      rw [List.flatMap_cons, List.foldl_append, foldl_read_utf8EncodeChar, ih]
      simp

end

/-- The bytes of a text are decoded as the text. -/
theorem decodeUtf8?_encodeUtf8 (text : String) : decodeUtf8? (encodeUtf8 text) = some text := by
  have chars : utf8Chars (encodeUtf8 text) = text.toList.map some := by
    rw [encodeUtf8_eq, utf8Chars, foldl_read_flatMap]
    simp
  have all (chars : List Char) : (chars.map some).mapM id = some chars := by
    induction chars with
    | nil => rfl
    | cons c chars ih => simp [ih]
  rw [decodeUtf8?, chars, all, Option.map_some, String.ofList_toList]

end Text

end ScanTree

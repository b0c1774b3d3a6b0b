import ScanTree.Text.Hex
import ScanTree.Text.Pieces

/-!
# Tables over code points

A property of characters is kept as a sorted table of code points: ranges for
the characters that have it, or a map from characters to texts.  A table is
written as text: code points in hexadecimal, a range as `first-last`, an entry
of a map as `code=image,image`, separated by blanks.  Look-up is by binary
search.
-/

namespace ScanTree

namespace Text

/-- The non-empty pieces of a table's text. -/
def tableEntries (text : String) : List (List Char) :=
  (piecesBy (fun c => c == ' ' || c == '\n') text.toList).filter (· != [])

/-- The number of leading keys that are at most `code`, when the keys ascend.
The answer lies between `low` and `high`. -/
def countUpTo (keys : Array Nat) (code low high : Nat) : Nat :=
  if low < high then
    let middle := (low + high) / 2
    if (keys[middle]?.getD 0) ≤ code then countUpTo keys code (middle + 1) high
    else countUpTo keys code low middle
  else
    low
termination_by high - low

/-- Closed ranges of code points in ascending order. -/
structure CodeRanges where
  /-- The first code point of each range. -/
  firsts : Array Nat
  /-- The last code point of each range. -/
  lasts : Array Nat

namespace CodeRanges

/-- Read ranges from a table's text. -/
def ofText (text : String) : CodeRanges :=
  let ranges := (tableEntries text).map fun entry =>
    match piecesBy (· == '-') entry with
    | first :: last :: _ => (readHex first, readHex last)
    | _ => (readHex entry, readHex entry)
  ⟨(ranges.map (·.1)).toArray, (ranges.map (·.2)).toArray⟩

/-- The range that holds a character. -/
def rangeOf? (ranges : CodeRanges) (c : Char) : Option (Nat × Nat) :=
  match countUpTo ranges.firsts c.toNat 0 ranges.firsts.size with
  | 0 => none
  | index + 1 =>
    match ranges.firsts[index]?, ranges.lasts[index]? with
    | some first, some last => if c.toNat ≤ last then some (first, last) else none
    | _, _ => none

/-- Whether some range holds the character. -/
def contains (ranges : CodeRanges) (c : Char) : Bool :=
  (ranges.rangeOf? c).isSome

end CodeRanges

theorem ofNat_ne_null {code : Nat} (positive : 0 < code) (small : code < 0xD800) :
    Char.ofNat code ≠ '\x00' := by
  intro same
  have sameCode := congrArg Char.toNat same
  have valid : code.isValidChar := Or.inl small
  rw [Char.ofNat, dif_pos valid] at sameCode
  exact absurd sameCode (Nat.ne_of_gt positive)

/-- The character with a given code.  The null character, which a code that is
no character's comes out as, counts as none. -/
def readChar? (code : List Char) : Option Char :=
  let c := Char.ofNat (readHex code)
  if c = '\x00' then none else some c

theorem null_notMem_filterMap_readChar? (codes : List (List Char)) :
    '\x00' ∉ codes.filterMap readChar? := by
  simp [readChar?]

/-- A map from characters, in ascending order, to texts. -/
structure CodeMap where
  /-- The characters that have an image. -/
  keys : Array Nat
  /-- The images, in the order of the keys. -/
  images : Array (List Char)
  /-- No image holds the null character. -/
  null_notMem : ∀ image ∈ images, '\x00' ∉ image

namespace CodeMap

/-- Read one entry of a map from its text. -/
def readEntry (entry : List Char) : Nat × List Char :=
  match piecesBy (· == '=') entry with
  | key :: image :: _ => (readHex key, (piecesBy (· == ',') image).filterMap readChar?)
  | _ => (readHex entry, [])

theorem null_notMem_readEntry (entry : List Char) : '\x00' ∉ (readEntry entry).2 := by
  unfold readEntry
  split
  · exact null_notMem_filterMap_readChar? _
  · exact List.not_mem_nil

/-- Read a map from a table's text. -/
def ofText (text : String) : CodeMap where
  keys := ((tableEntries text).map fun entry => (readEntry entry).1).toArray
  images := ((tableEntries text).map fun entry => (readEntry entry).2).toArray
  null_notMem := by
    intro image member
    rw [List.mem_toArray] at member
    obtain ⟨entry, _, rfl⟩ := List.mem_map.1 member
    exact null_notMem_readEntry entry

/-- The image of a character, if it has an entry. -/
def find? (table : CodeMap) (c : Char) : Option (List Char) :=
  match countUpTo table.keys c.toNat 0 table.keys.size with
  | 0 => none
  | index + 1 => if table.keys[index]? = some c.toNat then table.images[index]? else none

theorem null_notMem_of_find? {table : CodeMap} {c : Char} {image : List Char}
    (found : table.find? c = some image) : '\x00' ∉ image := by
  unfold find? at found
  split at found
  · simp at found
  · split at found
    · exact table.null_notMem image (Array.mem_of_getElem? found)
    · simp at found

end CodeMap

end Text

end ScanTree

import ScanTree.Json.Layout
import ScanTree.Proofs.Json.RealText
import ScanTree.Proofs.Json.StringText
import ScanTree.Proofs.Outcome
import ScanTree.Table

/-!
# Values read back

A value is plain if its integers are of a length that may be written, its other
numbers are such as rounding yields, no object in it repeats a name, and its lists
and objects are nested only so deep as there is room for.  In whatever layout a
plain value is written, it is read back: what is read is the value, and what is
left is what followed it.
-/

namespace ScanTree

namespace Json

/-- A value without integers that are too long, without numbers that rounding
never yields, without repeated names and with no more lists and objects in one
another than there is room for. -/
inductive IsPlain : Nat → Json → Prop
  | null {room : Nat} : IsPlain room null
  | bool {room : Nat} (value : Bool) : IsPlain room (bool value)
  | int {room : Nat} {value : Int} (fits : intFits value = true) : IsPlain room (int value)
  | real {room : Nat} {value : Binary64} (rounded : value.IsRounded) : IsPlain room (real value)
  | str {room : Nat} (value : String) : IsPlain room (str value)
  | arr {room : Nat} {items : List Json} (plain : ∀ item ∈ items, IsPlain room item) :
      IsPlain (room + 1) (arr items)
  | obj {room : Nat} {members : Members} (distinct : (members.map Prod.fst).Nodup)
      (plain : ∀ member ∈ members, IsPlain room member.2) : IsPlain (room + 1) (obj members)

theorem itemsFit_iff {items : List Json} :
    itemsFit items = true ↔ ∀ item ∈ items, fits item = true := by
  induction items with
  | nil => simp [itemsFit]
  | cons item rest ih => simp [itemsFit, ih]

theorem membersFit_iff {members : Members} :
    membersFit members = true ↔ ∀ member ∈ members, fits member.2 = true := by
  induction members with
  | nil => simp [membersFit]
  | cons member rest ih => simp [membersFit, ih]

theorem IsPlain.fits {room : Nat} {content : Json} (plain : IsPlain room content) :
    Json.fits content = true := by
  induction plain with
  | null | bool _ | real _ | str _ => rfl
  | int fits => exact fits
  | arr _ ih => exact itemsFit_iff.2 ih
  | obj _ _ ih => exact membersFit_iff.2 ih

theorem IsPlain.mono {room larger : Nat} {content : Json} (plain : IsPlain room content)
    (le : room ≤ larger) : IsPlain larger content := by
  induction plain generalizing larger with
  | null => exact .null
  | bool value => exact .bool value
  | int fits => exact .int fits
  | real rounded => exact .real rounded
  | str value => exact .str value
  | arr _ ih =>
      obtain ⟨less, rfl⟩ := Nat.exists_eq_add_of_lt le
      exact .arr fun item member => ih item member (Nat.le_add_right _ less)
  | obj distinct _ ih =>
      obtain ⟨less, rfl⟩ := Nat.exists_eq_add_of_lt le
      exact .obj distinct fun member listed => ih member listed (Nat.le_add_right _ less)

end Json

namespace Members

theorem put_eq_putInto (members : Members) (name : String) (value : Json) :
    members.put name value = Table.putInto Prod.fst (name, value) members := by
  induction members with
  | nil => rfl
  | cons member rest ih =>
      obtain ⟨first, old⟩ := member
      rw [put, Table.putInto, ih]
      by_cases same : first = name
      · simp [same]
      · simp [same]

/-- Pairs with distinct names are the members of an object as they stand. -/
theorem ofPairs_eq_self {members : Members} (distinct : (members.map Prod.fst).Nodup) :
    ofPairs members = members := by
  simp only [ofPairs, put_eq_putInto]
  exact Table.foldl_putInto_of_nodup (by simpa using distinct)

end Members

namespace Json

/-! ## Blanks -/

theorem isTokenBlank_iff {c : Char} : isTokenBlank c = true ↔ c ∈ [' ', '\t', '\n', '\r'] := by
  simp [isTokenBlank, or_assoc]

theorem skipBlanks_append {blanks : List Char} (areBlank : ∀ c ∈ blanks, isTokenBlank c = true)
    (rest : List Char) : skipBlanks (blanks ++ rest) = skipBlanks rest :=
  List.dropWhile_append_of_pos areBlank

theorem skipBlanks_cons {c : Char} (other : isTokenBlank c = false) (rest : List Char) :
    skipBlanks (c :: rest) = c :: rest := by
  rw [skipBlanks, List.dropWhile_cons, other]
  rfl

theorem endsNumeral_blanks {blanks rest : List Char}
    (areBlank : ∀ c ∈ blanks, isTokenBlank c = true) (ends : EndsNumeral rest) :
    EndsNumeral (blanks ++ rest) := by
  cases blanks with
  | nil => exact ends
  | cons c blanks =>
      have blank := isTokenBlank_iff.1 (areBlank c List.mem_cons_self)
      have noPart : ∀ c ∈ [' ', '\t', '\n', '\r'],
          c.isDigit = false ∧ c ≠ '.' ∧ c ≠ 'e' ∧ c ≠ 'E' := by simp
      exact endsNumeral_cons.2 (noPart c blank)

/-- The text starts like a value: not with a blank, and with nothing that stands
between or behind values. -/
def BeginsValue (text : List Char) : Prop :=
  ∃ c rest, text = c :: rest ∧ isTokenBlank c = false ∧ c ∉ [']', '}', '\uFEFF']

theorem BeginsValue.append {text : List Char} (begins : BeginsValue text) (rest : List Char) :
    BeginsValue (text ++ rest) := by
  obtain ⟨c, after, rfl, isFirst⟩ := begins
  exact ⟨c, after ++ rest, rfl, isFirst⟩

theorem BeginsValue.skipBlanks_eq {text : List Char} (begins : BeginsValue text) :
    skipBlanks text = text := by
  obtain ⟨c, after, rfl, notBlank, _⟩ := begins
  exact skipBlanks_cons notBlank after

/-- In a layout, a value is read back whatever follows it.  Each character of its
text is good for two units of the budget. -/
structure ReadsBack (layout : Layout) (room : Nat) (content : Json) : Prop where
  begins : ∀ level, BeginsValue (laidOut layout level content)
  reads : ∀ level {budget rest}, 2 * (laidOut layout level content).length ≤ budget →
    EndsNumeral rest →
      value room budget (laidOut layout level content ++ rest) = .ok (content, rest)

variable {layout : Layout} {room : Nat}

theorem memberName_stringText {budget : Nat} {name : String} {text : List Char}
    (enough : name.toList.length < budget) (begins : BeginsValue text) :
    memberName budget (stringText name ++ ':' :: (layout.colon ++ text)) = .ok (name, text) := by
  rw [stringText_append]
  simp only [memberName, string_stringText name _ enough, bind, Except.bind]
  rw [skipBlanks_cons (by rfl)]
  simp only [skipBlanks_append layout.colon_blank, begins.skipBlanks_eq]
  rfl

theorem beginsValue_laidOutItems {item : Json} (readBack : ReadsBack layout room item)
    (others : List Json) (level : Nat) :
    BeginsValue (laidOutItems layout level (item :: others)) := by
  rw [laidOutItems]
  exact (readBack.begins level).append _

theorem beginsValue_stringText (name : String) : BeginsValue (stringText name) :=
  ⟨'"', _, rfl, by decide⟩

theorem beginsValue_laidOutMembers (layout : Layout) (member : String × Json) (others : Members)
    (level : Nat) : BeginsValue (laidOutMembers layout level (member :: others)) := by
  rw [laidOutMembers, List.append_assoc, List.append_assoc]
  exact (beginsValue_stringText member.1).append _

theorem items_laidOutItems {list : List Json}
    (readBack : ∀ item ∈ list, ReadsBack layout room item)
    (nonempty : list ≠ []) (level : Nat) {closing : List Char}
    (closingBlank : ∀ c ∈ closing, isTokenBlank c = true) (rest : List Char) {budget : Nat}
    (enough : 2 * (laidOutItems layout level list).length + 1 ≤ budget) (read : List Json) :
    items room budget read (laidOutItems layout level list ++ (closing ++ ']' :: rest)) =
      .ok (.arr (read.reverse ++ list), rest) := by
  -- One call is spent on the item and one on its value; the text of the item, which
  -- is not empty, and the comma after it pay for both.
  induction list generalizing budget read with
  | nil => exact absurd rfl nonempty
  | cons item others ih =>
      obtain ⟨budget, rfl⟩ : ∃ less, budget = less + 1 := ⟨budget - 1, by omega⟩
      have itemBack := readBack item List.mem_cons_self
      cases others with
      | nil =>
          have ends : EndsNumeral (closing ++ ']' :: rest) :=
            endsNumeral_blanks closingBlank (endsNumeral_cons.2 (by decide))
          rw [laidOutItems_singleton] at enough ⊢
          rw [items, itemBack.reads level (by omega) ends]
          simp only [bind, Except.bind, skipBlanks_append closingBlank,
            skipBlanks_cons (c := ']') rfl, List.reverse_cons]
          rfl
      | cons next others =>
          have othersBack : ∀ other ∈ next :: others, ReadsBack layout room other :=
            fun other member => readBack other (List.mem_cons_of_mem item member)
          have nextBegins := beginsValue_laidOutItems (readBack next (by simp)) others level
          rw [laidOutItems_cons_cons] at enough ⊢
          simp only [List.length_append, List.length_cons] at enough
          simp only [List.append_assoc, List.cons_append]
          rw [items, itemBack.reads level (by omega) (endsNumeral_cons.2 (by decide))]
          simp only [bind, Except.bind, skipBlanks_cons (c := ',') rfl,
            skipBlanks_append (layout.between_blank level), (nextBegins.append _).skipBlanks_eq]
          rw [ih othersBack (List.cons_ne_nil next others) (by omega), List.reverse_cons,
            List.append_assoc, List.singleton_append]

theorem members_laidOutMembers {list : Members}
    (readBack : ∀ member ∈ list, ReadsBack layout room member.2)
    (nonempty : list ≠ []) (level : Nat) {closing : List Char}
    (closingBlank : ∀ c ∈ closing, isTokenBlank c = true) (rest : List Char) {budget : Nat}
    (enough : 2 * (laidOutMembers layout level list).length + 1 ≤ budget) (read : Members) :
    members room budget read (laidOutMembers layout level list ++ (closing ++ '}' :: rest)) =
      .ok (.obj (Members.ofPairs (read.reverse ++ list)), rest) := by
  induction list generalizing budget read with
  | nil => exact absurd rfl nonempty
  | cons member others ih =>
      obtain ⟨name, item⟩ := member
      obtain ⟨budget, rfl⟩ : ∃ less, budget = less + 1 := ⟨budget - 1, by omega⟩
      have itemBack : ReadsBack layout room item := readBack (name, item) List.mem_cons_self
      have nameLength := length_add_two_le_length_stringText name
      cases others with
      | nil =>
          have ends : EndsNumeral (closing ++ '}' :: rest) :=
            endsNumeral_blanks closingBlank (endsNumeral_cons.2 (by decide))
          rw [laidOutMembers_singleton] at enough ⊢
          simp only [List.length_append, List.length_cons] at enough
          simp only [List.append_assoc, List.cons_append]
          rw [members, memberName_stringText (by omega) ((itemBack.begins level).append _)]
          simp only [mapError_ok, bind, Except.bind]
          rw [itemBack.reads level (by omega) ends]
          simp only [skipBlanks_append closingBlank, skipBlanks_cons (c := '}') rfl,
            List.reverse_cons]
          rfl
      | cons next others =>
          have othersBack : ∀ other ∈ next :: others, ReadsBack layout room other.2 :=
            fun other member => readBack other (List.mem_cons_of_mem (name, item) member)
          have nextBegins := beginsValue_laidOutMembers layout next others level
          rw [laidOutMembers_cons_cons] at enough ⊢
          simp only [List.length_append, List.length_cons] at enough
          simp only [List.append_assoc, List.cons_append]
          rw [members, memberName_stringText (by omega) ((itemBack.begins level).append _)]
          simp only [mapError_ok, bind, Except.bind]
          rw [itemBack.reads level (by omega) (endsNumeral_cons.2 (by decide))]
          simp only [skipBlanks_cons (c := ',') rfl,
            skipBlanks_append (layout.between_blank level), (nextBegins.append _).skipBlanks_eq]
          rw [ih othersBack (List.cons_ne_nil next others) (by omega), List.reverse_cons,
            List.append_assoc, List.singleton_append]

/-! ## Values -/

/-- What a word or a number begins with. -/
def BeginsScalar (c : Char) : Prop :=
  c.isDigit = true ∨ c ∈ ['-', 'n', 't', 'f', 'N', 'I']

theorem readsBack_of_scalar {content : Json} {form : List Char}
    (isForm : ∀ level, laidOut layout level content = form)
    (begins : ∃ c rest, form = c :: rest ∧ BeginsScalar c)
    (reads : ∀ {rest}, EndsNumeral rest → scalar (form ++ rest) = .ok (content, rest)) :
    ReadsBack layout room content := by
  obtain ⟨c, form, rfl, isFirst⟩ := begins
  have notBlank : isTokenBlank c = false := by
    rw [Bool.eq_false_iff]
    intro blank
    have noFirst : ∀ c ∈ [' ', '\t', '\n', '\r'], ¬ BeginsScalar c := by simp [BeginsScalar]
    exact noFirst c (isTokenBlank_iff.1 blank) isFirst
  -- The reader looks for quotes and brackets before it tries numbers and words.
  have other : ∀ d ∈ [']', '}', '\uFEFF', '"', '[', '{'], c ≠ d := by
    rintro d listed rfl
    have noFirst : ∀ c ∈ [']', '}', '\uFEFF', '"', '[', '{'], ¬ BeginsScalar c := by
      simp [BeginsScalar]
    exact noFirst c listed isFirst
  have notClosing : c ∉ [']', '}', '\uFEFF'] := fun closing =>
    other c (List.mem_append_left ['"', '[', '{'] closing) rfl
  refine ⟨fun level => ⟨c, form, isForm level, notBlank, notClosing⟩,
    fun level budget rest enough ends => ?_⟩
  rw [isForm] at enough ⊢
  obtain ⟨budget, rfl⟩ : ∃ less, budget = less + 1 :=
    ⟨budget - 1, by simp only [List.length_cons] at enough; omega⟩
  rw [List.cons_append, value, ← List.cons_append, reads ends]
  · intro rest same
    exact other '"' (by decide) (List.cons.inj same).1
  · intro rest same
    exact other '[' (by decide) (List.cons.inj same).1
  · intro rest same
    exact other '{' (by decide) (List.cons.inj same).1

theorem beginsScalar_signed (negative : Bool) {text : List Char}
    (begins : ∃ c rest, text = c :: rest ∧ BeginsScalar c) :
    ∃ c rest, signChars negative ++ text = c :: rest ∧ BeginsScalar c := by
  cases negative
  · exact begins
  · exact ⟨'-', text, rfl, Or.inr (by decide)⟩

theorem readsBack_int {number : Int} (fits : intFits number = true) :
    ReadsBack layout room (int number) := by
  obtain ⟨first, digits, eq, isDigit⟩ := (readsWhole_toDigits number.natAbs).begins
  have begins : ∃ c rest, intChars number = c :: rest ∧ BeginsScalar c := by
    rw [intChars_eq]
    exact beginsScalar_signed _ ⟨first, digits, eq, Or.inl isDigit⟩
  exact readsBack_of_scalar (fun _ => rfl) begins (scalar_intChars fits)

theorem readsBack_real {number : Binary64} (rounded : number.IsRounded) :
    ReadsBack layout room (real number) := by
  refine readsBack_of_scalar (fun _ => rfl) ?_ (scalar_text rounded)
  cases rounded with
  | nan => exact ⟨'N', _, rfl, Or.inr (by decide)⟩
  | infinite negative =>
      exact beginsScalar_signed negative ⟨'I', _, rfl, Or.inr (by decide)⟩
  | finite negative canonical =>
      obtain ⟨digits, power, denotes, _⟩ := denotesReal_magnitudeText canonical
      obtain ⟨first, rest, eq, isDigit⟩ := denotes.begins
      exact beginsScalar_signed negative ⟨first, rest, eq, Or.inl isDigit⟩

theorem readsBack_str (content : String) : ReadsBack layout room (str content) where
  begins level := beginsValue_stringText content
  reads := by
    intro level budget rest enough ends
    have length := length_add_two_le_length_stringText content
    change 2 * (stringText content).length ≤ budget at enough
    change value room budget (stringText content ++ rest) = _
    obtain ⟨budget, rfl⟩ : ∃ less, budget = less + 1 := ⟨budget - 1, by omega⟩
    rw [stringText_append, value, string_stringText content rest (by omega)]
    rfl

theorem value_bracket {blanks text : List Char} (areBlank : ∀ c ∈ blanks, isTokenBlank c = true)
    (begins : BeginsValue text) (budget : Nat) :
    value (room + 1) (budget + 1) ('[' :: (blanks ++ text)) = items room budget [] text := by
  obtain ⟨c, after, rfl, notBlank, unlisted⟩ := begins
  rw [value, skipBlanks_append areBlank, skipBlanks_cons notBlank]
  split
  · simp_all
  · rfl

theorem value_brace {blanks text : List Char} (areBlank : ∀ c ∈ blanks, isTokenBlank c = true)
    (begins : BeginsValue text) (budget : Nat) :
    value (room + 1) (budget + 1) ('{' :: (blanks ++ text)) = members room budget [] text := by
  obtain ⟨c, after, rfl, notBlank, unlisted⟩ := begins
  rw [value, skipBlanks_append areBlank, skipBlanks_cons notBlank]
  split
  · simp_all
  · rfl

theorem readsBack_arr {list : List Json}
    (readBack : ∀ item ∈ list, ReadsBack layout room item) :
    ReadsBack layout (room + 1) (arr list) := by
  cases list with
  | nil =>
      refine ⟨fun level => ⟨'[', [']'], rfl, by decide⟩, fun level budget rest enough _ => ?_⟩
      obtain ⟨budget, rfl⟩ : ∃ less, budget = less + 1 :=
        ⟨budget - 1, by simp [laidOut] at enough; omega⟩
      rfl
  | cons item others =>
      have nonempty := List.cons_ne_nil item others
      refine ⟨fun level => ⟨'[', _, laidOut_arr layout level nonempty, by decide⟩,
        fun level budget rest enough _ => ?_⟩
      have begins := beginsValue_laidOutItems (readBack item List.mem_cons_self) others (level + 1)
      rw [laidOut_arr layout level nonempty] at enough ⊢
      simp only [List.length_append, List.length_cons] at enough
      obtain ⟨budget, rfl⟩ : ∃ less, budget = less + 1 := ⟨budget - 1, by omega⟩
      simp only [List.cons_append, List.append_assoc, List.nil_append]
      rw [value_bracket (layout.opening_blank _) (begins.append _),
        items_laidOutItems readBack nonempty _ (layout.closing_blank level) rest (by omega) []]
      rfl

theorem readsBack_obj {list : Members} (distinct : (list.map Prod.fst).Nodup)
    (readBack : ∀ member ∈ list, ReadsBack layout room member.2) :
    ReadsBack layout (room + 1) (obj list) := by
  cases list with
  | nil =>
      refine ⟨fun level => ⟨'{', ['}'], rfl, by decide⟩, fun level budget rest enough _ => ?_⟩
      obtain ⟨budget, rfl⟩ : ∃ less, budget = less + 1 :=
        ⟨budget - 1, by simp [laidOut] at enough; omega⟩
      rfl
  | cons member others =>
      have nonempty := List.cons_ne_nil member others
      refine ⟨fun level => ⟨'{', _, laidOut_obj layout level nonempty, by decide⟩,
        fun level budget rest enough _ => ?_⟩
      have begins := beginsValue_laidOutMembers layout member others (level + 1)
      rw [laidOut_obj layout level nonempty] at enough ⊢
      simp only [List.length_append, List.length_cons] at enough
      obtain ⟨budget, rfl⟩ : ∃ less, budget = less + 1 := ⟨budget - 1, by omega⟩
      simp only [List.cons_append, List.append_assoc, List.nil_append]
      rw [value_brace (layout.opening_blank _) (begins.append _),
        members_laidOutMembers readBack nonempty _ (layout.closing_blank level) rest (by omega) [],
        List.reverse_nil, List.nil_append, Members.ofPairs_eq_self distinct]

/-- Plain values are read back in every layout. -/
theorem IsPlain.readsBack {content : Json} (plain : IsPlain room content) (layout : Layout) :
    ReadsBack layout room content := by
  induction plain with
  | null =>
      exact readsBack_of_scalar (fun _ => rfl) ⟨'n', _, rfl, Or.inr (by decide)⟩ fun _ => rfl
  | bool value =>
      cases value
      · exact readsBack_of_scalar (fun _ => rfl) ⟨'f', _, rfl, Or.inr (by decide)⟩ fun _ => rfl
      · exact readsBack_of_scalar (fun _ => rfl) ⟨'t', _, rfl, Or.inr (by decide)⟩ fun _ => rfl
  | int fits => exact readsBack_int fits
  | real rounded => exact readsBack_real rounded
  | str value => exact readsBack_str value
  | arr _ ih => exact readsBack_arr ih
  | obj distinct _ ih => exact readsBack_obj distinct ih

/-- Blanks after a value are no part of it. -/
theorem document_of_readsBack {content : Json} (readBack : ReadsBack layout room content)
    {blanks : List Char} (areBlank : ∀ c ∈ blanks, isTokenBlank c = true) :
    document room (laidOut layout 0 content ++ blanks) = .ok content := by
  have ends : EndsNumeral blanks := by
    have nothing : EndsNumeral [] := by simp [EndsNumeral]
    simpa using endsNumeral_blanks areBlank nothing
  have enough : 2 * (laidOut layout 0 content).length ≤
      2 * (laidOut layout 0 content ++ blanks).length + 1 := by
    rw [List.length_append]
    omega
  have rest : skipBlanks blanks = [] := by
    rw [← List.append_nil blanks, skipBlanks_append areBlank]
    rfl
  unfold document
  split
  · rename_i same
    obtain ⟨c, rest, isForm, _, unlisted⟩ := readBack.begins 0
    simp_all
  · rw [((readBack.begins 0).append blanks).skipBlanks_eq, readBack.reads 0 enough ends]
    simp only [bind, Except.bind, rest]
    rfl

theorem decode_laidOut_append {content : Json} (plain : IsPlain nestingLimit content)
    (layout : Layout) {blanks : String} (areBlank : ∀ c ∈ blanks.toList, isTokenBlank c = true) :
    decode (String.ofList (laidOut layout 0 content) ++ blanks) = .ok content := by
  rw [decode, decodeWithin, String.toList_append, String.toList_ofList,
    document_of_readsBack (plain.readsBack layout) areBlank]
  rfl

/-- The text of a plain value is read as that value. -/
theorem decode_of_textIn {content : Json} (plain : IsPlain nestingLimit content)
    (layout : Layout) :
    ∃ text, textIn layout content = .ok text ∧ decode text = .ok content := by
  refine ⟨String.ofList (laidOut layout 0 content), by rw [textIn, if_pos plain.fits], ?_⟩
  rw [← String.append_empty (s := String.ofList _)]
  exact decode_laidOut_append plain layout (by simp)

/-- The text of a plain value over several lines is read as that value, also
with a line feed after it. -/
theorem decode_of_pretty {content : Json} (plain : IsPlain nestingLimit content) :
    ∃ text, pretty content = .ok text ∧ decode (text ++ "\n") = .ok content := by
  refine ⟨String.ofList (laidOut .indented 0 content), ?_,
    decode_laidOut_append plain .indented (by simp [isTokenBlank])⟩
  rw [← textIn_indented, textIn, if_pos plain.fits]

end Json

end ScanTree

import ScanTree.Proofs.Json.RoundTrip

/-!
# Values that are read

Whatever is read is plain: integers that are too long are refused, other numbers
come from rounding, of members with the same name only one is kept, and a reader
gives up where lists and objects are nested deeper than there is room for.  So the
text of a value that was read is read as that value again.
-/

namespace ScanTree

namespace Members

theorem nodup_put {members : Members} (distinct : (members.map Prod.fst).Nodup) (name : String)
    (value : Json) : ((members.put name value).map Prod.fst).Nodup := by
  rw [put_eq_putInto]
  exact Table.nodup_map_key_putInto (name, value) distinct

theorem mem_of_mem_put {members : Members} {name : String} {value : Json}
    {member : String × Json} (isMember : member ∈ members.put name value) :
    member = (name, value) ∨ member ∈ members := by
  rw [put_eq_putInto] at isMember
  exact Table.mem_of_mem_putInto isMember

end Members

namespace Json

variable {room : Nat}

/-- Setting a member to a plain value keeps an object plain. -/
theorem isPlain_put {members : Members} (plain : IsPlain (room + 1) (obj members)) (name : String)
    {value : Json} (plainValue : IsPlain room value) :
    IsPlain (room + 1) (obj (members.put name value)) := by
  cases plain with
  | obj distinct plainMembers =>
      refine .obj (Members.nodup_put distinct name value) fun member isMember => ?_
      rcases Members.mem_of_mem_put isMember with rfl | old
      · exact plainValue
      · exact plainMembers member old

theorem isPlain_ofPairs {pairs : List (String × Json)}
    (plain : ∀ pair ∈ pairs, IsPlain room pair.2) :
    IsPlain (room + 1) (obj (Members.ofPairs pairs)) := by
  have fold (members : Members) (known : IsPlain (room + 1) (obj members)) :
      IsPlain (room + 1)
        (obj (pairs.foldl (fun members pair => Members.put members pair.1 pair.2) members)) := by
    induction pairs generalizing members with
    | nil => exact known
    | cons pair pairs ih =>
        exact ih (fun other member => plain other (List.mem_cons_of_mem pair member)) _
          (isPlain_put known pair.1 (plain pair List.mem_cons_self))
  exact fold [] (.obj List.nodup_nil (by simp))

/-! ## Numbers -/

theorem readDigits_lt {digits : List Char} (allDigits : ∀ c ∈ digits, c.isDigit = true) :
    readDigits digits < 10 ^ digits.length := by
  induction digits with
  | nil => simp [readDigits]
  | cons c digits ih =>
      have others := ih fun d member => allDigits d (List.mem_cons_of_mem c member)
      have isDigit := allDigits c List.mem_cons_self
      have first : readDigits [c] ≤ 9 := by
        simp only [Char.isDigit, Bool.and_eq_true, decide_eq_true_eq, UInt32.le_iff_toNat_le]
          at isDigit
        have last : c.toNat ≤ 57 := isDigit.2
        change 10 * 0 + (c.toNat - 48) ≤ 9
        omega
      have leading : readDigits [c] * 10 ^ digits.length ≤ 9 * 10 ^ digits.length :=
        Nat.mul_le_mul_right _ first
      rw [← List.singleton_append, readDigits_append, List.length_append, List.length_singleton,
        Nat.add_comm 1, Nat.pow_succ]
      omega

theorem isDigit_of_wholePart? {text whole rest : List Char}
    (found : wholePart? text = some (whole, rest)) : ∀ c ∈ whole, c.isDigit = true := by
  unfold wholePart? at found
  split at found
  · cases found
    simp
  · split at found
    · cases found
    · have run : (digitRun text).1 = whole := congrArg Prod.fst (Option.some.inj found)
      subst run
      exact List.all_eq_true.1 List.all_takeWhile

theorem isDigit_of_numeral? {text rest : List Char} {numeral : Numeral}
    (found : numeral? text = some (numeral, rest)) : ∀ c ∈ numeral.whole, c.isDigit = true := by
  simp only [numeral?, Option.bind_eq_bind, Option.bind_eq_some_iff, Option.pure_def,
    Option.some.injEq, Prod.mk.injEq] at found
  obtain ⟨⟨whole, afterWhole⟩, isWhole, rfl, _⟩ := found
  exact isDigit_of_wholePart? isWhole

theorem isPlain_of_numeral {numeral : Numeral} {number : Json}
    (allDigits : ∀ c ∈ numeral.whole, c.isDigit = true) (denotes : numeral.value = .ok number) :
    IsPlain room number := by
  unfold Numeral.value at denotes
  split at denotes
  · split at denotes
    · cases denotes
    · rename_i short
      cases denotes
      refine .int (decide_eq_true ?_)
      have size : (if numeral.negative then -(readDigits numeral.whole : Int)
          else readDigits numeral.whole).natAbs = readDigits numeral.whole := by
        split <;> omega
      have bounded (limit : Nat) (within : numeral.whole.length ≤ limit) :
          readDigits numeral.whole < Nat.pow 10 limit :=
        Nat.lt_of_lt_of_le (readDigits_lt allDigits) (Nat.pow_le_pow_right (by omega) within)
      rw [size]
      exact bounded digitLimit (Nat.le_of_not_lt short)
  · cases denotes
    exact .real (Binary64.isRounded_ofDecimal _ _ _)

theorem isPlain_of_scalar {text rest : List Char} {content : Json}
    (reads : scalar text = .ok (content, rest)) : IsPlain room content := by
  unfold scalar at reads
  split at reads
  · rename_i found isWord
    obtain ⟨word, isFound, eq⟩ := Option.map_eq_some_iff.1 isWord
    have allPlain : ∀ word ∈ words, IsPlain room word.2 := by
      simp only [words, List.forall_mem_cons, List.not_mem_nil, false_imp_iff, implies_true,
        and_true]
      exact ⟨.null, .bool true, .bool false, .real .nan, .real (.infinite false),
        .real (.infinite true)⟩
    obtain rfl : word.2 = content :=
      congrArg Prod.fst (eq.trans (Except.ok.inj reads))
    exact allPlain word (List.mem_of_find?_eq_some isFound)
  · split at reads
    · rename_i numeral rest' isNumeral
      obtain ⟨number, denotes, eq⟩ := exists_of_map_eq_ok reads
      obtain rfl : number = content := congrArg Prod.fst eq
      exact isPlain_of_numeral (isDigit_of_numeral? isNumeral) denotes
    · cases reads

/-! ## Lists and objects -/

/-- All that is read within a budget is plain.  The items and the members of what is
read have one call less of room than the whole. -/
structure ReadsPlain (budget : Nat) : Prop where
  value : ∀ {room text rest content}, value room budget text = .ok (content, rest) →
    IsPlain room content
  items : ∀ {room read text rest content}, (∀ item ∈ read, IsPlain room item) →
    items room budget read text = .ok (content, rest) → IsPlain (room + 1) content
  members : ∀ {room read text rest content}, (∀ member ∈ read, IsPlain room member.2) →
    members room budget read text = .ok (content, rest) → IsPlain (room + 1) content

variable {budget : Nat}

theorem ReadsPlain.value_succ (less : ReadsPlain budget) {text rest : List Char} {content : Json}
    (reads : Json.value room (budget + 1) text = .ok (content, rest)) : IsPlain room content := by
  unfold Json.value at reads
  split at reads
  · obtain ⟨⟨read, after⟩, _, done⟩ := exists_of_bind_eq_ok reads
    cases done
    exact .str read
  · split at reads
    · cases reads
    · split at reads
      · cases reads
        exact .arr (by simp)
      · exact less.items (by simp) reads
  · split at reads
    · cases reads
    · split at reads
      · cases reads
        exact .obj List.nodup_nil (by simp)
      · exact less.members (by simp) reads
  · exact isPlain_of_scalar reads

theorem ReadsPlain.items_succ (less : ReadsPlain budget) {read : List Json}
    {text rest : List Char} {content : Json} (known : ∀ item ∈ read, IsPlain room item)
    (reads : Json.items room (budget + 1) read text = .ok (content, rest)) :
    IsPlain (room + 1) content := by
  unfold Json.items at reads
  obtain ⟨⟨item, after⟩, isItem, reads⟩ := exists_of_bind_eq_ok reads
  have more : ∀ other ∈ item :: read, IsPlain room other :=
    List.forall_mem_cons.2 ⟨less.value isItem, known⟩
  dsimp only at reads
  split at reads
  · cases reads
    exact .arr fun other member => more other (List.mem_reverse.1 member)
  · exact less.items more reads
  · cases reads

theorem ReadsPlain.members_succ (less : ReadsPlain budget) {read : List (String × Json)}
    {text rest : List Char} {content : Json} (known : ∀ member ∈ read, IsPlain room member.2)
    (reads : Json.members room (budget + 1) read text = .ok (content, rest)) :
    IsPlain (room + 1) content := by
  unfold Json.members at reads
  obtain ⟨⟨name, afterName⟩, _, reads⟩ := exists_of_bind_eq_ok reads
  obtain ⟨⟨item, after⟩, isItem, reads⟩ := exists_of_bind_eq_ok reads
  have more : ∀ other ∈ (name, item) :: read, IsPlain room other.2 :=
    List.forall_mem_cons.2 ⟨less.value isItem, known⟩
  dsimp only at reads
  split at reads
  · cases reads
    exact isPlain_ofPairs fun other member => more other (List.mem_reverse.1 member)
  · exact less.members more reads
  · cases reads

theorem readsPlain (budget : Nat) : ReadsPlain budget := by
  induction budget with
  | zero =>
      refine ⟨fun reads => ?_, fun _ reads => ?_, fun _ reads => ?_⟩
      · simp [Json.value] at reads
      · simp [Json.items] at reads
      · simp [Json.members] at reads
  | succ budget ih => exact ⟨ih.value_succ, ih.items_succ, ih.members_succ⟩

/-- Whatever is read from a text is plain. -/
theorem isPlain_of_decode {text : String} {content : Json} (reads : decode text = .ok content) :
    IsPlain nestingLimit content := by
  have isDocument : document nestingLimit text.toList = .ok content :=
    mapError_eq_ok_iff.1 reads
  unfold document at isDocument
  split at isDocument
  · cases isDocument
  · obtain ⟨⟨read, rest⟩, isValue, done⟩ := exists_of_bind_eq_ok isDocument
    dsimp only at done
    split at done
    · cases done
      exact (readsPlain _).value isValue
    · cases done

end Json

end ScanTree

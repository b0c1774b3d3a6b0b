/-!
# Tables keyed by id

A table holds values that carry their own key, in the order in which their keys
were first put in.  No two values share a key, and a value is always found
under the key it carries.
-/

namespace ScanTree

/-- Values in order, no two of them with the same key. -/
structure Table (α : Type) (key : α → String) where
  /-- The values in order. -/
  entries : List α
  /-- Every key occurs once. -/
  keys_nodup : (entries.map key).Nodup

namespace Table

variable {α : Type} {key : α → String}

theorem ext_entries {first second : Table α key} (same : first.entries = second.entries) :
    first = second := by
  cases first
  cases second
  simp_all

instance [DecidableEq α] : DecidableEq (Table α key) := fun first second =>
  if same : first.entries = second.entries then .isTrue (ext_entries same)
  else .isFalse fun equal => same (equal ▸ rfl)

/-- The table without values. -/
def empty : Table α key := ⟨[], by simp⟩

/-- The keys in order. -/
def keys (table : Table α key) : List String :=
  table.entries.map key

/-- The number of values. -/
def size (table : Table α key) : Nat :=
  table.entries.length

/-- The value with the given key. -/
def find? (table : Table α key) (id : String) : Option α :=
  table.entries.find? fun value => key value = id

/-- Values with one more, which takes the place of the one with its key or
stands at the end if there is none. -/
def putInto (key : α → String) (value : α) : List α → List α
  | [] => [value]
  | old :: rest => if key old = key value then value :: rest else old :: putInto key value rest

theorem map_key_putInto (value : α) (entries : List α) :
    (putInto key value entries).map key =
      if key value ∈ entries.map key then entries.map key
      else entries.map key ++ [key value] := by
  induction entries with
  | nil => rfl
  | cons old rest ih =>
    by_cases same : key old = key value
    · simp [putInto, same]
    · have other : key value ≠ key old := fun equal => same equal.symm
      simp only [putInto, same, if_false, List.map_cons, ih, List.mem_cons, other, false_or]
      split <;> rfl

theorem find?_putInto (value : α) (entries : List α) (id : String) :
    (putInto key value entries).find? (fun old => key old = id) =
      if id = key value then some value else entries.find? fun old => key old = id := by
  induction entries with
  | nil =>
    by_cases same : id = key value
    · simp [putInto, same]
    · have other : key value ≠ id := fun equal => same equal.symm
      simp [putInto, same, other]
  | cons old rest ih =>
    by_cases found : id = key value
    · subst found
      by_cases same : key old = key value
      · simp [putInto, same]
      · simp only [putInto, same, if_false, List.find?_cons, decide_false, ih]
    · have other : key value ≠ id := fun equal => found equal.symm
      by_cases same : key old = key value
      · simp [putInto, same, found, other]
      · simp only [putInto, same, if_false, List.find?_cons, ih, found]

theorem putInto_eq_self {value : α} {entries : List α}
    (found : entries.find? (fun old => key old = key value) = some value) :
    putInto key value entries = entries := by
  induction entries with
  | nil => simp at found
  | cons old rest ih =>
    by_cases same : key old = key value
    · simp only [List.find?_cons, same, decide_true, Option.some.injEq] at found
      simp [putInto, found]
    · simp only [List.find?_cons, same, decide_false] at found
      simp [putInto, same, ih found]

theorem nodup_map_key_putInto (value : α) {entries : List α} (distinct : (entries.map key).Nodup) :
    ((putInto key value entries).map key).Nodup := by
  rw [map_key_putInto]
  split
  · exact distinct
  · rename_i absent
    rw [List.nodup_append]
    refine ⟨distinct, by simp, ?_⟩
    intro id idMem other otherMem same
    simp only [List.mem_singleton] at otherMem
    exact absent (by subst same otherMem; exact idMem)

theorem mem_of_mem_putInto {value other : α} {entries : List α}
    (member : other ∈ putInto key value entries) : other = value ∨ other ∈ entries := by
  induction entries with
  | nil => exact Or.inl (List.mem_singleton.1 member)
  | cons old rest ih =>
    rw [putInto] at member
    split at member
    · exact (List.mem_cons.1 member).imp_right (List.mem_cons_of_mem old)
    · rcases List.mem_cons.1 member with rfl | inRest
      · exact Or.inr List.mem_cons_self
      · exact (ih inRest).imp_right (List.mem_cons_of_mem old)

/-- Put a value in the place of the one with its key, or at the end if there is
none. -/
def put (table : Table α key) (value : α) : Table α key :=
  ⟨putInto key value table.entries, nodup_map_key_putInto value table.keys_nodup⟩

/-- The table that holds the given values, later ones in the place of earlier
ones with the same key. -/
def ofList (values : List α) : Table α key :=
  values.foldl put empty

/-- Change every value, keeping its key. -/
def map {β : Type} {key' : β → String} (table : Table α key) (f : α → β)
    (key_eq : ∀ value, key' (f value) = key value) : Table β key' :=
  ⟨table.entries.map f, by
    have sameKeys : (table.entries.map f).map key' = table.entries.map key := by
      rw [List.map_map]
      exact List.map_congr_left fun value _ => key_eq value
    rw [sameKeys]
    exact table.keys_nodup⟩

@[simp]
theorem keys_empty : (empty : Table α key).keys = [] :=
  rfl

@[simp]
theorem find?_empty (id : String) : (empty : Table α key).find? id = none :=
  rfl

theorem key_of_find? {table : Table α key} {id : String} {value : α}
    (found : table.find? id = some value) : key value = id := by
  have holds := List.find?_some found
  simpa using holds

theorem mem_of_find? {table : Table α key} {id : String} {value : α}
    (found : table.find? id = some value) : value ∈ table.entries :=
  List.mem_of_find?_eq_some found

theorem find?_eq_none_iff {table : Table α key} {id : String} :
    table.find? id = none ↔ id ∉ table.keys := by
  simp [find?, keys]

theorem mem_keys_of_find? {table : Table α key} {id : String} {value : α}
    (found : table.find? id = some value) : id ∈ table.keys :=
  List.mem_map.2 ⟨value, mem_of_find? found, key_of_find? found⟩

theorem find?_isSome_iff {table : Table α key} {id : String} :
    (table.find? id).isSome ↔ id ∈ table.keys := by
  simp [find?, keys]

/-- A table is determined by what is found under each key: a value in it is
found under its own key. -/
theorem find?_key_of_mem {table : Table α key} {value : α} (member : value ∈ table.entries) :
    table.find? (key value) = some value := by
  obtain ⟨entries, keys_nodup⟩ := table
  simp only [find?] at member ⊢
  induction entries with
  | nil => simp at member
  | cons head rest ih =>
    simp only [List.map_cons, List.nodup_cons] at keys_nodup
    rcases List.mem_cons.1 member with rfl | inRest
    · simp
    · have different : key head ≠ key value := fun same =>
        keys_nodup.1 (same ▸ List.mem_map_of_mem inRest)
      simp only [List.find?_cons, different, decide_false]
      exact ih keys_nodup.2 inRest

theorem keys_put (table : Table α key) (value : α) :
    (table.put value).keys =
      if key value ∈ table.keys then table.keys else table.keys ++ [key value] :=
  map_key_putInto value table.entries

@[simp]
theorem mem_keys_put {table : Table α key} {value : α} {id : String} :
    id ∈ (table.put value).keys ↔ id = key value ∨ id ∈ table.keys := by
  rw [keys_put]
  split
  · rename_i present
    constructor
    · exact Or.inr
    · rintro (rfl | member)
      · exact present
      · exact member
  · simp [or_comm]

theorem find?_put (table : Table α key) (value : α) (id : String) :
    (table.put value).find? id = if id = key value then some value else table.find? id :=
  find?_putInto value table.entries id

theorem keys_map {β : Type} {key' : β → String} (table : Table α key) (f : α → β)
    (key_eq : ∀ value, key' (f value) = key value) : (table.map f key_eq).keys = table.keys := by
  rw [keys, keys, map, List.map_map]
  exact List.map_congr_left fun value _ => key_eq value

theorem find?_map {β : Type} {key' : β → String} (table : Table α key) (f : α → β)
    (key_eq : ∀ value, key' (f value) = key value) (id : String) :
    (table.map f key_eq).find? id = (table.find? id).map f := by
  simp only [find?, map, List.find?_map, Function.comp_def, key_eq]

/-- Putting a value in its own place changes nothing. -/
theorem put_eq_self {table : Table α key} {value : α}
    (found : table.find? (key value) = some value) : table.put value = table :=
  ext_entries (putInto_eq_self found)

/-! ## Values with distinct keys -/

theorem putInto_of_notMem {value : α} {entries : List α} (new : key value ∉ entries.map key) :
    putInto key value entries = entries ++ [value] := by
  induction entries with
  | nil => rfl
  | cons old rest ih =>
    rw [List.map_cons, List.mem_cons, not_or] at new
    rw [putInto, if_neg (Ne.symm new.1), ih new.2, List.cons_append]

theorem foldl_putInto_of_nodup {entries values : List α}
    (distinct : ((entries ++ values).map key).Nodup) :
    values.foldl (fun known value => putInto key value known) entries = entries ++ values := by
  induction values generalizing entries with
  | nil => simp
  | cons value rest ih =>
    have apart := distinct
    rw [List.map_append, List.nodup_append] at apart
    have new : key value ∉ entries.map key := fun known =>
      apart.2.2 (key value) known (key value) List.mem_cons_self rfl
    rw [List.append_cons] at distinct
    rw [List.foldl_cons, putInto_of_notMem new, ih distinct, ← List.append_cons]

theorem entries_ofList (values : List α) :
    (ofList values : Table α key).entries =
      values.foldl (fun known value => putInto key value known) [] :=
  (List.foldl_hom entries fun _ _ => rfl).symm

theorem mem_of_mem_foldl_putInto {value : α} {entries values : List α}
    (member : value ∈ values.foldl (fun known value => putInto key value known) entries) :
    value ∈ entries ∨ value ∈ values := by
  induction values generalizing entries with
  | nil => exact Or.inl member
  | cons first rest ih =>
      rcases ih member with known | inRest
      · rcases mem_of_mem_putInto known with rfl | old
        · exact Or.inr List.mem_cons_self
        · exact Or.inl old
      · exact Or.inr (List.mem_cons_of_mem first inRest)

theorem mem_of_mem_ofList {value : α} {values : List α}
    (member : value ∈ (ofList values : Table α key).entries) : value ∈ values := by
  rw [entries_ofList] at member
  exact (mem_of_mem_foldl_putInto member).resolve_left List.not_mem_nil

/-- A table holds its own values in their order. -/
theorem ofList_entries (table : Table α key) : ofList table.entries = table :=
  ext_entries <| by rw [entries_ofList, foldl_putInto_of_nodup table.keys_nodup, List.nil_append]

end Table

end ScanTree

import ScanTree.Preferences
import ScanTree.Proofs.Json.Plainness
import ScanTree.Proofs.Text.Encoding
import Mathlib.Data.List.DropRight
import Mathlib.Data.Set.Defs
import Mathlib.Tactic.SplitIfs

/-!
# Preferences as a store

Whatever the file holds, its members can be written and are read back, so saving
a preference sets one member and leaves all others as they are.  Hence every
preference is what was last saved under its own name, whatever else was saved in
between.
-/

namespace ScanTree

namespace Members

end Members

/-! ## Forms of values -/

theorem mem_sortedIds {ids : List String} {id : String} : id ∈ sortedIds ids ↔ id ∈ ids := by
  rw [sortedIds, List.mem_mergeSort, List.mem_eraseDups]

/-- What is left of a text without blanks at its ends has none there. -/
theorem strip_strip (text : String) : Text.strip (Text.strip text) = Text.strip text := by
  have left (chars : List Char) :
      (Text.stripChars chars).dropWhile Text.isBlank = Text.stripChars chars := by
    have isPrefix : Text.stripChars chars <+: chars.dropWhile Text.isBlank :=
      List.rdropWhile_prefix Text.isBlank _
    rw [List.dropWhile_eq_self_iff]
    intro nonempty blank
    rw [isPrefix.getElem] at blank
    exact List.dropWhile_eq_self_iff.1 (List.dropWhile_idempotent Text.isBlank chars) _ blank
  have both (chars : List Char) :
      Text.stripChars (Text.stripChars chars) = Text.stripChars chars := by
    rw [Text.stripChars, left]
    exact List.rdropWhile_idempotent Text.isBlank _
  rw [Text.strip, Text.toList_strip, both, Text.strip]

namespace Storage

/-! ## One preference -/

/-- What a file holds can be written again. -/
theorem isPlain_load (storage : Storage) :
    Json.IsPlain Json.nestingLimit (.obj storage.load) := by
  have nothing : Json.IsPlain Json.nestingLimit (.obj []) := .obj List.nodup_nil (by simp)
  unfold load
  split
  · exact nothing
  · split
    · rename_i isObject
      exact Json.isPlain_of_decode isObject
    · exact nothing

variable {storage : Storage}

/-- A value that is saved is loaded. -/
theorem load_save (writable : storage ≠ blocked) {members : Members}
    (plain : Json.IsPlain Json.nestingLimit (.obj members)) :
    (storage.save (.obj members)).load = members := by
  obtain ⟨text, isText, decodes⟩ := Json.decode_of_pretty plain
  have saved : storage.save (.obj members) = stored (Text.encodeUtf8 (text ++ "\n")) := by
    cases storage with
    | blocked => exact absurd rfl writable
    | absent | stored _ => simp only [save, isText]
  rw [saved, load, bytes?, Option.bind_some, Text.decodeUtf8?_encodeUtf8]
  simp only [decodes]

theorem load_update (writable : storage ≠ blocked) (name : String) {value : Json}
    (plain : Json.IsPlain 1 value) :
    (storage.update name value).load = storage.load.put name value :=
  load_save writable (Json.isPlain_put storage.isPlain_load name (plain.mono (by decide)))

theorem save_ne_blocked (writable : storage ≠ blocked) (value : Json) :
    storage.save value ≠ blocked := by
  unfold save
  split
  · exact absurd rfl writable
  · simp
  · exact writable

end Storage

/-! ## A history of savings -/

/-- A preference that is saved. -/
inductive Saving where
  | expanded (ids : List String)
  | showExcluded (shown : Bool)
  | orderBy (name : String)
  | costMetric (name : String)
  | theme (name : String)

namespace Saving

/-- The name under which the preference is kept. -/
def name : Saving → String
  | expanded _ => "expanded"
  | showExcluded _ => "show_excluded"
  | orderBy _ => "order_by"
  | costMetric _ => "cost_metric"
  | theme _ => "theme"

/-- The value that is saved, unless it is rejected: there are only the listed
orderings and metrics, and a theme is not blank. -/
def value? : Saving → Option Json
  | expanded ids => some (.arr ((sortedIds (ids.filter (· ≠ ""))).map .str))
  | showExcluded shown => some (.bool shown)
  | orderBy text => if text ∈ OrderBy.all.map OrderBy.name then some (.str text) else none
  | costMetric text => if text ∈ CostMetric.all.map CostMetric.name then some (.str text) else none
  | theme text => if Text.strip text = "" then none else some (.str (Text.strip text))

theorem value?_orderBy (text : String) :
    (orderBy text).value? = (OrderBy.ofName text).toOption.map fun order => .str order.name := by
  rw [value?]
  by_cases listed : text ∈ OrderBy.all.map OrderBy.name
  · obtain ⟨order, _, rfl⟩ := List.mem_map.1 listed
    rw [if_pos listed, OrderBy.ofName_name]
    rfl
  · rw [if_neg listed, OrderBy.ofName_of_unlisted listed]
    rfl

theorem value?_costMetric (text : String) :
    (costMetric text).value? =
      (CostMetric.ofName text).toOption.map fun metric => .str metric.name := by
  rw [value?]
  by_cases listed : text ∈ CostMetric.all.map CostMetric.name
  · obtain ⟨metric, _, rfl⟩ := List.mem_map.1 listed
    rw [if_pos listed, CostMetric.ofName_name]
    rfl
  · rw [if_neg listed, CostMetric.ofName_of_unlisted listed]
    rfl

/-- The values that are saved are lists of texts, texts and truth values. -/
theorem isPlain_of_value? {saving : Saving} {value : Json}
    (isValue : saving.value? = some value) : Json.IsPlain 1 value := by
  cases saving with
  | expanded ids =>
      obtain rfl := Option.some.inj isValue
      refine .arr fun item listed => ?_
      obtain ⟨id, _, rfl⟩ := List.mem_map.1 listed
      exact .str id
  | showExcluded shown =>
      obtain rfl := Option.some.inj isValue
      exact .bool shown
  | orderBy text | costMetric text =>
      obtain ⟨_, same⟩ := Option.ite_none_right_eq_some.1 isValue
      obtain rfl := Option.some.inj same
      exact .str text
  | theme text =>
      obtain ⟨_, same⟩ := Option.ite_none_left_eq_some.1 isValue
      obtain rfl := Option.some.inj same
      exact .str (Text.strip text)

/-- The expanded ids that are saved. -/
def ids? : Saving → Option (Set String)
  | expanded ids => some {id | id ∈ ids ∧ id ≠ ""}
  | _ => none

/-- Whether excluded nodes are to be shown, if that is saved. -/
def shown? : Saving → Option Bool
  | showExcluded shown => some shown
  | _ => none

/-- The ordering that is saved. -/
def order? : Saving → Option OrderBy
  | orderBy name => (OrderBy.ofName name).toOption
  | _ => none

/-- The cost metric that is saved. -/
def metric? : Saving → Option CostMetric
  | costMetric name => (CostMetric.ofName name).toOption
  | _ => none

/-- The theme that is saved. -/
def theme? : Saving → Option (Option String)
  | theme name => if Text.strip name = "" then none else some (some (Text.strip name))
  | _ => none

end Saving

/-- The last value that a history saves, or the initial one if there is none. -/
def latest {α : Type} (saved? : Saving → Option α) (history : List Saving) (initial : α) : α :=
  (history.reverse.findSome? saved?).getD initial

namespace Storage

/-- Save one preference. -/
def perform (storage : Storage) : Saving → Storage
  | .expanded ids => storage.saveExpanded ids
  | .showExcluded shown => storage.saveShowExcluded shown
  | .orderBy name => storage.saveOrderBy name
  | .costMetric name => storage.saveCostMetric name
  | .theme name => storage.saveTheme name

/-- Save preferences one after the other. -/
def run (storage : Storage) (history : List Saving) : Storage :=
  history.foldl perform storage

theorem run_concat (storage : Storage) (history : List Saving) (saving : Saving) :
    storage.run (history ++ [saving]) = (storage.run history).perform saving := by
  simp [run]

theorem perform_eq (storage : Storage) (saving : Saving) :
    storage.perform saving =
      match saving.value? with
      | some value => storage.update saving.name value
      | none => storage := by
  cases saving with
  | expanded | showExcluded => rfl
  | orderBy text =>
      rw [Saving.value?_orderBy, perform, saveOrderBy]
      cases OrderBy.ofName text <;> rfl
  | costMetric text =>
      rw [Saving.value?_costMetric, perform, saveCostMetric]
      cases CostMetric.ofName text <;> rfl
  | theme text =>
      rw [Saving.value?, perform, saveTheme]
      split <;> rfl

theorem perform_ne_blocked {storage : Storage} (writable : storage ≠ blocked) (saving : Saving) :
    storage.perform saving ≠ blocked := by
  rw [perform_eq]
  split
  · exact save_ne_blocked writable _
  · exact writable

theorem run_ne_blocked {storage : Storage} (writable : storage ≠ blocked)
    (history : List Saving) : storage.run history ≠ blocked := by
  induction history generalizing storage with
  | nil => exact writable
  | cons saving history ih => exact ih (perform_ne_blocked writable saving)

theorem load_perform {storage : Storage} (writable : storage ≠ blocked) (saving : Saving) :
    (storage.perform saving).load =
      match saving.value? with
      | some value => storage.load.put saving.name value
      | none => storage.load := by
  rw [perform_eq]
  cases isValue : saving.value? with
  | none => rfl
  | some value => exact load_update writable saving.name (Saving.isPlain_of_value? isValue)

end Storage

/-! ## Preferences by name -/

/-- A preference that is kept under a name: how its value is read, and what a
saving says about it. -/
structure Preference (α : Type) where
  name : String
  read : Option Json → α
  saved? : Saving → Option α
  /-- What a saving of the preference says is what is read back, and savings of
  others say nothing. -/
  saved?_eq : ∀ saving, saved? saving =
    if saving.name = name then saving.value?.map fun value => read (some value) else none

namespace Preference

variable {α : Type} (preference : Preference α)

/-- The value of the preference. -/
def load (storage : Storage) : α :=
  preference.read (storage.load.get? preference.name)

theorem load_perform {storage : Storage} (writable : storage ≠ .blocked) (saving : Saving) :
    preference.load (storage.perform saving) =
      (preference.saved? saving).getD (preference.load storage) := by
  rw [load, Storage.load_perform writable, preference.saved?_eq]
  cases saving.value? with
  | none => simp only [Option.map_none, ite_self, Option.getD_none, load]
  | some value =>
      dsimp only [Option.map_some]
      rw [Members.get?_put]
      split <;> rfl

/-- A preference is what was last saved, or what it was in the beginning. -/
theorem load_run {storage : Storage} (writable : storage ≠ .blocked) (history : List Saving) :
    preference.load (storage.run history) =
      latest preference.saved? history (preference.load storage) := by
  induction history using List.reverseRecOn with
  | nil => rfl
  | append_singleton history saving ih =>
      rw [Storage.run_concat, load_perform preference (Storage.run_ne_blocked writable history), ih]
      cases isSaved : preference.saved? saving with
      | none => simp [latest, isSaved]
      | some value => simp [latest, isSaved]

/-- The ids of the expanded nodes. -/
def expanded : Preference (Set String) where
  name := "expanded"
  read json := {id | id ∈
    match json with
    | some (.arr items) => sortedIds ((items.filterMap Json.text?).filter (· ≠ ""))
    | _ => []}
  saved? := Saving.ids?
  saved?_eq saving := by
    cases saving with
    | expanded ids =>
        have texts : ((sortedIds (ids.filter (· ≠ ""))).map Json.str).filterMap Json.text? =
            sortedIds (ids.filter (· ≠ "")) := by
          rw [List.filterMap_map]
          exact List.filterMap_some
        have same : {id | id ∈ ids ∧ id ≠ ""} =
            {id | id ∈ sortedIds ((sortedIds (ids.filter (· ≠ ""))).filter (· ≠ ""))} := by
          simp [mem_sortedIds]
        rw [← texts] at same
        exact congrArg some same
    | _ => rfl

/-- Whether excluded nodes are shown. -/
def shown : Preference Bool where
  name := "show_excluded"
  read json := (json.bind Json.bool?).getD true
  saved? := Saving.shown?
  saved?_eq saving := by cases saving <;> rfl

/-- The ordering of children. -/
def order : Preference OrderBy where
  name := "order_by"
  read json :=
    ((json.bind Json.text?).bind fun name => (OrderBy.ofName name).toOption).getD .scan
  saved? := Saving.order?
  saved?_eq saving := by
    cases saving with
    | orderBy text =>
        rw [Saving.value?_orderBy, Saving.order?]
        cases OrderBy.ofName text with
        | ok order => cases order <;> rfl
        | error error => rfl
    | _ => rfl

/-- The cost metric. -/
def metric : Preference CostMetric where
  name := "cost_metric"
  read json :=
    ((json.bind Json.text?).bind fun name => (CostMetric.ofName name).toOption).getD .total
  saved? := Saving.metric?
  saved?_eq saving := by
    cases saving with
    | costMetric text =>
        rw [Saving.value?_costMetric, Saving.metric?]
        cases CostMetric.ofName text with
        | ok metric => cases metric <;> rfl
        | error error => rfl
    | _ => rfl

/-- The name of the theme. -/
def theme : Preference (Option String) where
  name := "theme"
  read json := ((json.bind Json.text?).map Text.strip).filter (· ≠ "")
  saved? := Saving.theme?
  saved?_eq saving := by
    cases saving with
    | theme text =>
        rw [Saving.value?, Saving.theme?]
        split
        · rfl
        · rename_i named
          have kept : some (Text.strip text) =
              (some (Text.strip (Text.strip text))).filter (· ≠ "") := by
            simp [strip_strip, Option.filter, named]
          exact congrArg some kept
    | _ => rfl

end Preference

namespace Storage

variable {storage : Storage}

end Storage

end ScanTree

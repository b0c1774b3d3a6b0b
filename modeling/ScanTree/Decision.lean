/-!
# Decisions

What a scanner decided about a path: its status, and the reason and the pattern
that led to it.  Every status but `unknown` is a category, and paths are
counted by category.
-/

namespace ScanTree

/-- The decision about a path. -/
inductive Status where
  | unknown
  | included
  | ignored
  | skipped
deriving DecidableEq, Repr

/-- A status that stands for a decision. -/
inductive Category where
  | included
  | ignored
  | skipped
deriving DecidableEq, Repr

/-- The written name of a category. -/
def Category.name : Category → String
  | included => "included"
  | ignored => "ignored"
  | skipped => "skipped"

namespace Status

/-- The written name of a status. -/
def name : Status → String
  | unknown => "unknown"
  | included => "included"
  | ignored => "ignored"
  | skipped => "skipped"

/-- The status of a written name. -/
def ofName? (text : String) : Option Status :=
  if text = "unknown" then some unknown
  else if text = "included" then some included
  else if text = "ignored" then some ignored
  else if text = "skipped" then some skipped
  else none

@[simp]
theorem ofName?_name (status : Status) : ofName? status.name = some status := by
  cases status <;> decide

/-- Whether the status keeps a path out of the scan's result. -/
def isExcluded (status : Status) : Bool :=
  status = ignored || status = skipped

end Status

/-- A decision with its reason and pattern. -/
structure Decision where
  status : Status := .unknown
  reason : Option String := none
  pattern : Option String := none
deriving DecidableEq, Repr

/-- Numbers of paths by category. -/
structure Counts where
  included : Int := 0
  ignored : Int := 0
  skipped : Int := 0
deriving DecidableEq, Repr

namespace Counts

/-- The number for one category. -/
def get (counts : Counts) : Category → Int
  | .included => counts.included
  | .ignored => counts.ignored
  | .skipped => counts.skipped

/-- One more path in a category. -/
def increment (counts : Counts) : Category → Counts
  | .included => { counts with included := counts.included + 1 }
  | .ignored => { counts with ignored := counts.ignored + 1 }
  | .skipped => { counts with skipped := counts.skipped + 1 }

instance : Add Counts where
  add first second :=
    ⟨first.included + second.included, first.ignored + second.ignored,
      first.skipped + second.skipped⟩

/-- Counts are told by the number for each category. -/
theorem ext_get {first second : Counts}
    (same : ∀ category, first.get category = second.get category) : first = second := by
  have included := same .included
  have ignored := same .ignored
  have skipped := same .skipped
  cases first
  cases second
  simp_all [get]

theorem get_increment (counts : Counts) (category other : Category) :
    (counts.increment category).get other =
      counts.get other + if category = other then 1 else 0 := by
  cases category <;> cases other <;> simp [increment, get]

@[simp]
theorem get_add (first second : Counts) (category : Category) :
    (first + second).get category = first.get category + second.get category := by
  cases category <;> rfl

theorem add_comm (first second : Counts) : first + second = second + first :=
  ext_get fun category => by rw [get_add, get_add, Int.add_comm]

end Counts

end ScanTree

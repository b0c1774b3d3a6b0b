/-!
# Path ids

Every path of a scanned tree has an id: its text relative to the root, which is
itself written `.`.  The parent of a path is its text before the last slash,
and the root for paths with a single segment, so climbing from any id ends at
the root.
-/

namespace ScanTree

namespace Path

/-- The id of the root. -/
def root : String := "."

/-- The id of a path as an event gives it.  A missing or empty path is the
root, and one leading `./` is dropped. -/
def normalize : Option String → String
  | none => root
  | some raw =>
    match raw.toList with
    | [] => root
    | '.' :: '/' :: rest => if rest.isEmpty then root else String.ofList rest
    | _ => raw

/-- The characters before the last slash, none if there is no slash. -/
def stem (path : List Char) : List Char :=
  ((path.reverse.dropWhile (· ≠ '/')).drop 1).reverse

/-- The characters after the last slash, all of them if there is no slash. -/
def lastSegment (path : List Char) : List Char :=
  (path.reverse.takeWhile (· ≠ '/')).reverse

/-- The id of the parent.  The root has none. -/
def parent? (id : String) : Option String :=
  if id = root then none
  else if (stem id.toList).isEmpty then some root
  else some (String.ofList (stem id.toList))

/-- The name of a path: its last segment, or the whole id if that is empty. -/
def name (id : String) : String :=
  if id = root then root
  else if (lastSegment id.toList).isEmpty then id
  else String.ofList (lastSegment id.toList)

/-- A bound on the number of ancestors: none for the root, and otherwise one
more than the number of characters. -/
def height (id : String) : Nat :=
  if id = root then 0 else id.toList.length + 1

theorem length_stem_le (path : List Char) : (stem path).length ≤ path.length - 1 := by
  have dropped := (List.dropWhile_sublist (· ≠ '/') (l := path.reverse)).length_le
  simp only [List.length_reverse] at dropped
  simp only [stem, List.length_reverse, List.length_drop]
  omega

@[simp]
theorem parent?_root : parent? root = none := by
  simp [parent?]

@[simp]
theorem height_root : height root = 0 := by
  simp [height]

theorem height_parent_lt {id parent : String} (found : parent? id = some parent) :
    height parent < height id := by
  unfold parent? at found
  split at found
  · simp at found
  · rename_i notRoot
    have idHeight : height id = id.toList.length + 1 := by simp [height, notRoot]
    split at found
    · obtain rfl := Option.some.inj found
      simp [idHeight]
    · rename_i nonempty
      obtain rfl := Option.some.inj found
      have shorter := length_stem_le id.toList
      have positive : 0 < (stem id.toList).length := by
        simpa [List.length_pos_iff] using nonempty
      rw [idHeight]
      unfold height
      split
      · omega
      · simp only [String.toList_ofList]
        omega

/-- The proper ancestors of a path, the nearest first. -/
def ancestors (id : String) : List String :=
  match _found : parent? id with
  | none => []
  | some parent => parent :: ancestors parent
termination_by height id
decreasing_by exact height_parent_lt (by assumption)

/-- The path itself and its proper ancestors, the nearest first. -/
def lineage (id : String) : List String :=
  id :: ancestors id

theorem ancestors_of_parent?_eq_none {id : String} (none : parent? id = none) :
    ancestors id = [] := by
  rw [ancestors]
  split <;> simp_all

theorem ancestors_of_parent?_eq_some {id parent : String}
    (found : parent? id = some parent) :
    ancestors id = parent :: ancestors parent := by
  rw [ancestors]
  split <;> simp_all

@[simp]
theorem ancestors_root : ancestors root = [] :=
  ancestors_of_parent?_eq_none parent?_root

end Path

end ScanTree

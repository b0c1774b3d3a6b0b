import ScanTree.Json.Decode
import ScanTree.Json.Print
import ScanTree.Text.Blank
import ScanTree.Text.Utf8
import ScanTree.View.Ordering

/-!
# Preferences

The preferences of a user are the members of one JSON object in a file.  A file
that is missing or does not hold an object stands for no preferences at all, and
a preference of a wrong form counts as missing.  Saving one preference keeps
all others and their order; where the file cannot be written, saving does
nothing.
-/

namespace ScanTree

/-- The place where preferences are kept. -/
inductive Storage where
  /-- There is no file. -/
  | absent
  /-- There is a file with the given bytes. -/
  | stored (bytes : List UInt8)
  /-- There is no file, and none can be written. -/
  | blocked
deriving DecidableEq, Repr

/-- Ids in ascending order, each of them once. -/
def sortedIds (ids : List String) : List String :=
  ids.eraseDups.mergeSort (fun first second => decide (first ≤ second))

namespace Storage

/-- The bytes of the file, if there is one. -/
def bytes? : Storage → Option (List UInt8)
  | stored bytes => some bytes
  | _ => none

/-- All preferences. -/
def load (storage : Storage) : Members :=
  match storage.bytes?.bind Text.decodeUtf8? with
  | none => []
  | some text =>
    match Json.decode text with
    | .ok (.obj members) => members
    | _ => []

/-- Replace the file by one that holds the given value. -/
def save (storage : Storage) (value : Json) : Storage :=
  match storage, value.pretty with
  | blocked, _ => blocked
  | _, .ok text => stored (Text.encodeUtf8 (text ++ "\n"))
  | unchanged, .error _ => unchanged

/-- Set one preference. -/
def update (storage : Storage) (name : String) (value : Json) : Storage :=
  storage.save (.obj (storage.load.put name value))

/-- The ids of the expanded nodes, in ascending order. -/
def loadExpanded (storage : Storage) : List String :=
  match storage.load.get? "expanded" with
  | some (.arr items) => sortedIds ((items.filterMap Json.text?).filter (· ≠ ""))
  | _ => []

/-- Save the ids of the expanded nodes in ascending order. -/
def saveExpanded (storage : Storage) (ids : List String) : Storage :=
  storage.update "expanded" (.arr ((sortedIds (ids.filter (· ≠ ""))).map .str))

/-- Whether excluded nodes are shown, as they are unless told otherwise. -/
def loadShowExcluded (storage : Storage) : Bool :=
  ((storage.load.get? "show_excluded").bind Json.bool?).getD true

/-- Save whether excluded nodes are shown. -/
def saveShowExcluded (storage : Storage) (shown : Bool) : Storage :=
  storage.update "show_excluded" (.bool shown)

/-- The ordering, which is by discovery unless told otherwise. -/
def loadOrderBy (storage : Storage) : OrderBy :=
  (((storage.load.get? "order_by").bind Json.text?).bind
    fun name => (OrderBy.ofName name).toOption).getD .scan

/-- Save the ordering of a name, if there is one. -/
def saveOrderBy (storage : Storage) (name : String) : Storage :=
  match OrderBy.ofName name with
  | .ok order => storage.update "order_by" (.str order.name)
  | .error _ => storage

/-- The cost metric, which counts all nodes unless told otherwise. -/
def loadCostMetric (storage : Storage) : CostMetric :=
  (((storage.load.get? "cost_metric").bind Json.text?).bind
    fun name => (CostMetric.ofName name).toOption).getD .total

/-- Save the cost metric of a name, if there is one. -/
def saveCostMetric (storage : Storage) (name : String) : Storage :=
  match CostMetric.ofName name with
  | .ok metric => storage.update "cost_metric" (.str metric.name)
  | .error _ => storage

/-- The name of the theme, without blanks at its ends. -/
def loadTheme (storage : Storage) : Option String :=
  (((storage.load.get? "theme").bind Json.text?).map Text.strip).filter (· ≠ "")

/-- Save the name of a theme without blanks at its ends, unless it is blank. -/
def saveTheme (storage : Storage) (name : String) : Storage :=
  if Text.strip name = "" then storage else storage.update "theme" (.str (Text.strip name))

end Storage

end ScanTree

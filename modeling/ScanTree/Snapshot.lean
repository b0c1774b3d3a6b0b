import ScanTree.Index
import ScanTree.Json.Display

/-!
# Indices as JSON

An index is written as an object with its root, its nodes by id and its counts.
Members without a value are left out, and so is everything about the second
trace where nothing was compared.  Reading such an object back accepts missing
members and refuses members of a wrong form.
-/

namespace ScanTree

/-- Why an object is not an index. -/
inductive SnapshotError where
  | indexNotObject
  | missingRoot
  | missingNodes
  | invalidCounts
  | invalidCount (category : Category)
  | invalidCompare
  | nodeNotObject (id : String)
  | invalidMeta (id : String)
  | invalidChildren (id : String)
  | invalidChoice (what shown : String)
  | expectedText (member typeName : String)
deriving DecidableEq, Repr

/-- The wording of a refusal. -/
def SnapshotError.message : SnapshotError → String
  | indexNotObject => "serialized index must be an object"
  | missingRoot => "serialized index is missing rootId"
  | missingNodes => "serialized index is missing nodes"
  | invalidCounts => "serialized index has invalid counts"
  | invalidCount category => s!"serialized index has invalid {category.name} count"
  | invalidCompare => "serialized index has invalid compare flag"
  | nodeNotObject id => s!"node {Text.quoted id} is not an object"
  | invalidMeta id => s!"node {Text.quoted id} has invalid meta"
  | invalidChildren id => s!"node {Text.quoted id} has invalid children"
  | invalidChoice what shown => s!"invalid {what}: {shown}"
  | expectedText member typeName => s!"expected string for {Text.quoted member}, got {typeName}"

/-! ## Writing -/

/-- A member, if it has a value. -/
def optionalMember (name : String) (value : Option String) : Members :=
  (value.map fun text => (name, Json.str text)).toList

namespace Node

/-- What is known about a node beside its place in the tree. -/
def metaToJson (node : Node) : Members :=
  ("status", .str node.status.name)
    :: optionalMember "reason" node.decision.reason
    ++ optionalMember "pattern" node.decision.pattern
    ++ optionalMember "lastEvent" node.lastEvent
    ++ match node.origin with
      | none => []
      | some origin =>
        ("statusB", .str (node.second.status.getD .unknown).name)
          :: optionalMember "reasonB" node.second.reason
          ++ optionalMember "patternB" node.second.pattern
          ++ [("origin", .str origin.name)]

/-- A node as an object. -/
def toJson (node : Node) : Json :=
  .obj [("id", .str node.id), ("name", .str node.name), ("path", .str node.id),
    ("kind", .str node.kind.name), ("meta", .obj node.metaToJson),
    ("children", .arr (node.children.map .str))]

end Node

/-- Counts as an object. -/
def Counts.toJson (counts : Counts) : Json :=
  .obj [("included", .int counts.included), ("ignored", .int counts.ignored),
    ("skipped", .int counts.skipped)]

/-- An index as an object. -/
def Index.toJson (index : Index) : Json :=
  .obj [("rootId", .str index.rootId), ("compare", .bool index.compare),
    ("nodes", .obj (index.nodes.entries.map fun node => (node.id, node.toJson))),
    ("counts", index.counts.toJson)]

/-! ## Reading -/

/-- A text member that may be missing or null. -/
def readText (members : Members) (name : String) : Except SnapshotError (Option String) :=
  match members.get? name with
  | none | some .null => .ok none
  | some (.str text) => .ok (some text)
  | some other => .error (.expectedText name other.typeName)

/-- A value that has to be a name that `ofName?` knows. -/
def readChoice {α : Type} (ofName? : String → Option α) (what : String) (value : Json) :
    Except SnapshotError α :=
  match value.text?.bind ofName? with
  | some choice => .ok choice
  | none => .error (.invalidChoice what value.display)

/-- A name that may be missing or null. -/
def readOptionalChoice {α : Type} (ofName? : String → Option α) (what : String) :
    Option Json → Except SnapshotError (Option α)
  | none | some .null => .ok none
  | some value => (readChoice ofName? what value).map some

/-- A member, or the given value if the member is missing, null, false, zero or
empty. -/
def presentOr (members : Members) (name : String) (default : Json) : Json :=
  ((members.get? name).filter Json.isTruthy).getD default

/-- Texts without those that came before. -/
def firstOccurrences (texts : List String) : List String :=
  texts.foldl (fun kept text => if text ∈ kept then kept else kept ++ [text]) []

/-- The node of an object, under the id that it is listed by. -/
def Node.ofJson (id : String) (raw : Json) : Except SnapshotError Node := do
  let .obj members := raw | throw (.nodeNotObject id)
  let .obj about := presentOr members "meta" (.obj []) | throw (.invalidMeta id)
  let some children := (presentOr members "children" (.arr [])).texts?
    | throw (.invalidChildren id)
  let kind ← readChoice Kind.ofName? "kind"
    ((Members.get? members "kind").getD (.str Kind.file.name))
  let status ← readChoice Status.ofName? "status"
    ((Members.get? about "status").getD (.str Status.unknown.name))
  let reason ← readText about "reason"
  let pattern ← readText about "pattern"
  let lastEvent ← readText about "lastEvent"
  let secondStatus ← readOptionalChoice Status.ofName? "statusB" (Members.get? about "statusB")
  let secondReason ← readText about "reasonB"
  let secondPattern ← readText about "patternB"
  let origin ← readOptionalChoice Origin.ofName? "origin" (Members.get? about "origin")
  return {
    id
    name := ((Members.get? members "name").bind Json.text?).getD id
    kind
    decision := ⟨status, reason, pattern⟩
    lastEvent
    children := firstOccurrences children
    second := ⟨secondStatus, secondReason, secondPattern⟩
    origin }

/-- The count of a category, zero if it is missing. -/
def readCount (members : Members) (category : Category) : Except SnapshotError Int :=
  match members.get? category.name with
  | none => .ok 0
  | some (.int count) => .ok count
  | some _ => .error (.invalidCount category)

/-- The index of an object. -/
def Index.ofJson (raw : Json) : Except SnapshotError Index := do
  let .obj members := raw | throw .indexNotObject
  let some (.str rootId) := Members.get? members "rootId" | throw .missingRoot
  if rootId = "" then throw .missingRoot
  let some (.obj rawNodes) := Members.get? members "nodes" | throw .missingNodes
  let nodes ← rawNodes.mapM fun member => Node.ofJson member.1 member.2
  let .obj rawCounts := presentOr members "counts" (.obj []) | throw .invalidCounts
  let included ← readCount rawCounts .included
  let ignored ← readCount rawCounts .ignored
  let skipped ← readCount rawCounts .skipped
  let .bool compare := (Members.get? members "compare").getD (.bool false)
    | throw .invalidCompare
  return ⟨rootId, .ofList nodes, ⟨included, ignored, skipped⟩, compare⟩

end ScanTree

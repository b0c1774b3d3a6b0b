import ScanTree.Decision
import ScanTree.Kind
import ScanTree.Path

/-!
# Nodes

A node is one path of a tree with what the trace says about it.  A tree that
compares two traces keeps the second trace's decision beside the first one's,
and says which of the two mention the path.  What only one trace decided stands
in the first place, whichever trace that was.
-/

namespace ScanTree

/-- One of two compared traces. -/
inductive Side where
  | first
  | second
deriving DecidableEq, Repr

/-- The letter of a side in texts. -/
def Side.label : Side → String
  | first => "A"
  | second => "B"

/-- Which of two compared traces mention a path. -/
inductive Origin where
  | only (side : Side)
  | both
deriving DecidableEq, Repr

namespace Origin

/-- The written name of an origin. -/
def name : Origin → String
  | only .first => "a"
  | only .second => "b"
  | both => "both"

/-- The origin of a written name. -/
def ofName? (text : String) : Option Origin :=
  if text = "a" then some (only .first)
  else if text = "b" then some (only .second)
  else if text = "both" then some both
  else none

@[simp]
theorem ofName?_name (origin : Origin) : ofName? origin.name = some origin := by
  rcases origin with (_ | _) | _ <;> decide

end Origin

/-- The decision of the second of two compared traces.  The status is absent
where nothing was compared. -/
structure SecondDecision where
  status : Option Status := none
  reason : Option String := none
  pattern : Option String := none
deriving DecidableEq, Repr

/-- One path of a tree: what was decided about it, the tag of the last event on it,
its children in order and, in a comparison, what the second trace decided and which
traces mention it. -/
structure Node where
  id : String
  name : String
  kind : Kind
  decision : Decision := {}
  lastEvent : Option String := none
  children : List String := []
  second : SecondDecision := {}
  origin : Option Origin := none
deriving DecidableEq, Repr

namespace Node

/-- The status of the decision. -/
abbrev status (node : Node) : Status :=
  node.decision.status

/-- Whether statistics count the path as a directory. -/
def isDir (node : Node) : Bool :=
  node.kind = .dir || !node.children.isEmpty

/-- Whether the path is listed among directories. -/
def isDirectoryLike (node : Node) : Bool :=
  node.kind = .dir || node.status = .skipped || !node.children.isEmpty

/-- The status that one side of a comparison gave the path. -/
def sideStatus (node : Node) (side : Side) : Status :=
  match node.origin, side with
  | none, .first => node.status
  | none, .second => .unknown
  | some .both, .first => node.status
  | some .both, .second => node.second.status.getD .unknown
  | some (.only origin), side => if origin = side then node.status else .unknown

/-- A node about which nothing is known but its kind. -/
def fresh (id : String) (kind : Kind) : Node where
  id := id
  name := Path.name id
  kind := kind

end Node

end ScanTree

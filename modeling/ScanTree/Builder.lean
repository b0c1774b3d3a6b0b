import ScanTree.Event
import ScanTree.Index

/-!
# Building an index from events

Events are recorded one after the other.  The last decision on a path wins, and
a path is counted once in every category that it ever enters.  A path that is
mentioned for the first time is put under its parent, and missing ancestors are
put in as directories.
-/

namespace ScanTree

/-- A node under construction. -/
structure Draft where
  /-- The node as it is so far. -/
  node : Node
  /-- The categories in which the node has been counted. -/
  counted : List Category := []
deriving DecidableEq, Repr

namespace Draft

/-- The id of the node. -/
def id (draft : Draft) : String :=
  draft.node.id

/-- Make the node a directory if `kind` says so; no kind takes that back. -/
def raise (draft : Draft) (kind : Kind) : Draft :=
  if kind = .dir then { draft with node := { draft.node with kind := .dir } } else draft

/-- Append a child. -/
def addChild (draft : Draft) (child : String) : Draft :=
  { draft with node := { draft.node with children := draft.node.children ++ [child] } }

@[simp]
theorem id_raise (draft : Draft) (kind : Kind) : (draft.raise kind).id = draft.id := by
  unfold raise
  split <;> rfl

@[simp]
theorem id_addChild (draft : Draft) (child : String) : (draft.addChild child).id = draft.id :=
  rfl

end Draft

namespace Node

/-- The node after an event on it, and the category that the event put it in.
A temporary path is ignored unless something was decided before. -/
def after (node : Node) (event : Event) : Node × Option Category :=
  match event.action with
  | .included =>
    ({ node with
        decision := ⟨.included, none, none⟩
        kind := if node.kind = .dir then .dir else event.impliedKind },
      some .included)
  | .ignored =>
    ({ node with decision := ⟨.ignored, event.reason, event.pattern⟩ }, some .ignored)
  | .skipped =>
    ({ node with decision := ⟨.skipped, event.reason, event.pattern⟩, kind := .dir },
      some .skipped)
  | .temporary =>
    if node.status = .unknown then
      ({ node with
          decision := { node.decision with status := .ignored, reason := some "temporary" } },
        some .ignored)
    else (node, none)
  | .failed => ({ node with decision := ⟨.ignored, some "error", none⟩ }, some .ignored)
  | .entered => ({ node with kind := .dir }, none)
  | .summarized | .mentioned => (node, none)

@[simp]
theorem id_after (node : Node) (event : Event) : (node.after event).1.id = node.id := by
  unfold after
  split <;> try rfl
  split <;> rfl

end Node

/-- Nodes under construction. -/
abbrev Drafts := Table Draft Draft.id

namespace Drafts

/-- The draft of an id, made a directory if `kind` says so, or a fresh one of
that kind. -/
def draftFor (drafts : Drafts) (id : String) (kind : Kind) : Draft :=
  match drafts.find? id with
  | some draft => draft.raise kind
  | none => ⟨.fresh id kind, []⟩

/-- Put a path under the nearest of its ancestors, and that under the next one,
until a path is met that is in its place already. -/
def link (drafts : Drafts) (child : String) : List String → Drafts
  | [] => drafts
  | parent :: ancestors =>
    let draft := drafts.draftFor parent .dir
    if child ∈ draft.node.children then drafts.put draft
    else link (drafts.put (draft.addChild child)) parent ancestors

@[simp]
theorem id_draftFor (drafts : Drafts) (id : String) (kind : Kind) :
    (drafts.draftFor id kind).id = id := by
  unfold draftFor
  split
  · rename_i draft found
    simpa using Table.key_of_find? found
  · rfl

end Drafts

/-- The state of a construction. -/
structure Builder where
  /-- The nodes so far. -/
  drafts : Drafts
  /-- The counts so far. -/
  counts : Counts
deriving DecidableEq

namespace Builder

/-- The construction that knows only the root. -/
def empty : Builder :=
  ⟨Table.empty.put ⟨.fresh Path.root .dir, []⟩, {}⟩

/-- Record one event.  A summary concerns no path and changes nothing. -/
def record (builder : Builder) (event : Event) : Builder :=
  if event.action = .summarized then builder
  else
    let id := Path.normalize event.path
    let draft := builder.drafts.draftFor id event.impliedKind
    let (node, category) := { draft.node with lastEvent := event.tag }.after event
    let newly := category.filter (· ∉ draft.counted)
    let drafts := builder.drafts.put ⟨node, draft.counted ++ newly.toList⟩
    ⟨Drafts.link drafts id (Path.ancestors id),
      newly.elim builder.counts builder.counts.increment⟩

/-- Record events in order. -/
def recordAll (builder : Builder) (events : List Event) : Builder :=
  events.foldl record builder

/-- The index of the nodes so far. -/
def index (builder : Builder) : Index where
  rootId := Path.root
  nodes := builder.drafts.map Draft.node fun _ => rfl
  counts := builder.counts

@[simp]
theorem recordAll_nil (builder : Builder) : builder.recordAll [] = builder :=
  rfl

@[simp]
theorem recordAll_cons (builder : Builder) (event : Event) (events : List Event) :
    builder.recordAll (event :: events) = (builder.record event).recordAll events :=
  rfl

theorem recordAll_append (builder : Builder) (first second : List Event) :
    builder.recordAll (first ++ second) = (builder.recordAll first).recordAll second :=
  List.foldl_append

end Builder

/-- The index of a list of events. -/
def Index.ofEvents (events : List Event) : Index :=
  (Builder.empty.recordAll events).index

/-- Why a construction refuses to go on. -/
inductive BuilderError where
  /-- The index was taken before. -/
  | alreadyFinished
deriving DecidableEq, Repr

/-- The wording of a refusal. -/
def BuilderError.message : BuilderError → String
  | alreadyFinished => "index builder already finished"

/-- A construction that ends when its index is taken. -/
structure BuilderSession where
  /-- The state of the construction. -/
  builder : Builder := .empty
  /-- Whether the index was taken. -/
  finished : Bool := false

namespace BuilderSession

/-- Record one event, unless the index was taken. -/
def record (session : BuilderSession) (event : Event) : Except BuilderError BuilderSession :=
  if session.finished then .error .alreadyFinished
  else .ok { session with builder := session.builder.record event }

/-- Record events in order, unless the index was taken. -/
def recordAll (session : BuilderSession) (events : List Event) :
    Except BuilderError BuilderSession :=
  events.foldlM record session

/-- Take the index. -/
def finish (session : BuilderSession) : Except BuilderError (Index × BuilderSession) :=
  if session.finished then .error .alreadyFinished
  else .ok (session.builder.index, { session with finished := true })

end BuilderSession

end ScanTree

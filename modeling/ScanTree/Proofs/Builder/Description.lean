import ScanTree.Proofs.Builder.Verdict

/-!
# What an index tells

Recording the events of a trace one after the other comes to the same as
collecting, for every path that the trace mentions, the events on that path.
The index that is built lists the mentioned paths in order, and its node for a
path is described by the events on it and by the mentioned paths that have it
as parent.
-/

namespace ScanTree

namespace Trace

/-- The children of a path: the mentioned paths that have it as parent. -/
def childrenAt (events : List Event) (id : String) : List String :=
  (mentioned events).filter fun child => Path.parent? child = some id

/-- What the events on a path tell about it, its place apart. -/
def toldAt (events : List Event) (id : String) : Node where
  id := id
  name := Path.name id
  kind := .file
  decision := decisionOf (eventsAt events id)
  lastEvent := lastTagOf (eventsAt events id)

/-- The node of a path. -/
def nodeAt (events : List Event) (id : String) : Node :=
  { toldAt events id with
    kind :=
      if id = Path.root ∨ childrenAt events id ≠ [] then .dir
      else kindOf (eventsAt events id)
    children := childrenAt events id }

@[simp]
theorem children_nodeAt (events : List Event) (id : String) :
    (nodeAt events id).children = childrenAt events id :=
  rfl

theorem kind_nodeAt (events : List Event) (id : String) :
    (nodeAt events id).kind =
      if id = Path.root ∨ childrenAt events id ≠ [] then .dir
      else kindOf (eventsAt events id) :=
  rfl

theorem mem_childrenAt_iff {events : List Event} {id child : String} :
    child ∈ childrenAt events id ↔
      child ∈ mentioned events ∧ Path.parent? child = some id := by
  simp [childrenAt]

end Trace

namespace Drafts

/-- The draft of the path of an event, changed as the event says. -/
def drafted (drafts : Drafts) (event : Event) : Draft :=
  let draft := drafts.draftFor event.target event.impliedKind
  let changed := { draft.node with lastEvent := event.tag }.after event
  ⟨changed.1, draft.counted ++ (changed.2.filter (· ∉ draft.counted)).toList⟩

theorem node_drafted (drafts : Drafts) (event : Event) :
    (drafts.drafted event).node =
      ({ (drafts.draftFor event.target event.impliedKind).node with
          lastEvent := event.tag }.after event).1 :=
  rfl

@[simp]
theorem id_drafted (drafts : Drafts) (event : Event) :
    (drafts.drafted event).id = event.target := by
  rw [Draft.id, node_drafted, Node.id_after]
  exact id_draftFor drafts event.target event.impliedKind

theorem children_drafted (drafts : Drafts) (event : Event) :
    (drafts.drafted event).node.children =
      (drafts.draftFor event.target event.impliedKind).node.children := by
  rw [node_drafted, Node.after_eq]

/-- The event changes the decision and the last event of its path, its place
apart. -/
theorem node_detached_drafted (drafts : Drafts) (event : Event) :
    (drafts.drafted event).detached.node =
      { (drafts.detachedFor event.target).node with
        decision := (drafts.drafted event).node.decision
        lastEvent := event.tag } := by
  rw [← detached_draftFor drafts event.target event.impliedKind, Draft.detached,
    node_drafted, Node.after_eq]
  rfl

theorem kind_drafted_of_find? {drafts : Drafts} {event : Event} {draft : Draft}
    (found : drafts.find? event.target = some draft) :
    (drafts.drafted event).node.kind =
      if event.isDirectory ∨ draft.node.kind = .dir then .dir
      else if event.action = .included then event.leafKind
      else draft.node.kind := by
  rw [node_drafted, Node.kind_after, draftFor_of_find? found]
  simp only [Draft.kind_raise, Event.impliedKind_eq_dir_iff]
  have implied := event.impliedKind_eq
  by_cases shows : event.isDirectory = true <;>
    by_cases included : event.action = .included <;>
    by_cases isDir : draft.node.kind = .dir <;>
    simp_all

theorem kind_drafted_of_notMem {drafts : Drafts} {event : Event}
    (unknown : event.target ∉ drafts.keys) :
    (drafts.drafted event).node.kind =
      if event.isDirectory then .dir
      else if event.action = .included then event.leafKind
      else .file := by
  rw [node_drafted, Node.kind_after, draftFor_of_notMem unknown]
  simp only [Node.fresh]
  have implied := event.impliedKind_eq
  by_cases shows : event.isDirectory = true <;>
    by_cases included : event.action = .included <;>
    simp_all

/-- Changing the draft of a path leaves every path in its place. -/
theorem Placed.drafted {drafts : Drafts} (placed : drafts.Placed drafts.keys) (event : Event) :
    Placed (drafts.put (drafts.drafted event)) drafts.keys where
  root_mem := placed.root_mem
  parent_mem := fun member found => Table.mem_keys_put.2 (Or.inr (placed.parent_mem member found))
  children_eq := by
    intro id draft found
    rw [Table.find?_put, id_drafted] at found
    split at found
    · rename_i same
      obtain rfl := Option.some.inj found
      rw [children_drafted, placed.children_draftFor, same]
    · exact placed.children_eq found
  kind_eq := by
    intro id draft found isParent
    rw [Table.find?_put, id_drafted] at found
    split at found
    · rename_i same
      subst id
      obtain rfl := Option.some.inj found
      rw [children_drafted, placed.children_draftFor] at isParent
      have known : event.target ∈ drafts.keys := by
        rcases isParent with isRoot | hasChild
        · exact isRoot ▸ placed.root_mem
        · obtain ⟨child, member⟩ := List.exists_mem_of_ne_nil _ hasChild
          obtain ⟨childKnown, isChild⟩ := List.mem_filter.1 member
          exact placed.parent_mem childKnown (of_decide_eq_true isChild)
      obtain ⟨draft, before⟩ := Option.isSome_iff_exists.1 (Table.find?_isSome_iff.2 known)
      have isDir : draft.node.kind = .dir := by
        apply placed.kind_eq before
        rwa [placed.children_eq before]
      rw [kind_drafted_of_find? before, if_pos (Or.inr isDir)]
    · exact placed.kind_eq found isParent

end Drafts

namespace Builder

theorem record_of_summary {event : Event} (summary : event.action = .summarized)
    (builder : Builder) : builder.record event = builder := by
  simp [record, summary]

theorem drafts_record {event : Event} (counts : event.action ≠ .summarized)
    (builder : Builder) :
    (builder.record event).drafts =
      Drafts.link (builder.drafts.put (builder.drafts.drafted event)) event.target
        (Path.ancestors event.target) := by
  simp only [record, counts, if_false]
  rfl

/-- Recording an event puts its path and the ancestors of it in their places. -/
theorem placed_record {builder : Builder} (placed : builder.drafts.Placed builder.drafts.keys)
    (event : Event) :
    (builder.record event).drafts.Placed (builder.record event).drafts.keys ∧
      (builder.record event).drafts.keys = Trace.mention builder.drafts.keys event := by
  by_cases summary : event.action = .summarized
  · rw [record_of_summary summary]
    exact ⟨placed, by simp [Trace.mention, summary]⟩
  · rw [drafts_record summary]
    have drafted := placed.drafted event
    have keysEq := Table.keys_put builder.drafts (builder.drafts.drafted event)
    rw [Drafts.id_drafted] at keysEq
    rw [Trace.mention, if_neg summary]
    by_cases known : event.target ∈ builder.drafts.keys
    · rw [if_pos known] at keysEq
      rw [← keysEq] at drafted
      rw [drafted.link_eq_self (keysEq.symm ▸ known), placed.filter_lineage_of_mem known,
        List.append_nil]
      exact ⟨drafted, keysEq⟩
    · rw [if_neg known] at keysEq
      obtain ⟨linked, keysLinked⟩ := drafted.link keysEq
      refine ⟨linked, ?_⟩
      rw [keysLinked, keysEq, Path.filter_lineage_of_notMem known, List.append_assoc,
        List.singleton_append]

/-- A construction tells what a trace tells: it knows the paths that the trace
mentions, has them in their places, and says of each what the events on it come
to. -/
structure Tells (builder : Builder) (events : List Event) : Prop where
  placed : builder.drafts.Placed builder.drafts.keys
  keys_eq : builder.drafts.keys = Trace.mentioned events
  node_eq : ∀ id, (builder.drafts.detachedFor id).node = Trace.toldAt events id
  kind_eq : ∀ {id draft}, builder.drafts.find? id = some draft → id ≠ Path.root →
    draft.node.children = [] → draft.node.kind = Trace.kindOf (Trace.eventsAt events id)

theorem tells_empty : empty.Tells [] where
  placed :=
    { root_mem := by simp [empty]
      parent_mem := by
        intro id parent known found
        obtain rfl : id = Path.root := by simpa [empty] using known
        simp at found
      children_eq := by
        intro id draft found
        simp only [empty, Table.find?_put] at found
        split at found
        · obtain rfl := Option.some.inj found
          simp [empty, Table.keys_put, Node.fresh, Draft.id]
        · simp at found
      kind_eq := by
        intro id draft found _
        simp only [empty, Table.find?_put] at found
        split at found
        · obtain rfl := Option.some.inj found
          rfl
        · simp at found }
  keys_eq := rfl
  node_eq := by
    intro id
    rw [empty, Drafts.detachedFor_put]
    split
    · rename_i same
      rw [same]
      rfl
    · rfl
  kind_eq := by
    intro id draft found notRoot _
    simp only [empty, Table.find?_put] at found
    split at found
    · rename_i same
      exact absurd same notRoot
    · simp at found

namespace Tells

variable {builder : Builder} {events : List Event}

theorem decision_draftFor (tells : builder.Tells events) (id : String) (kind : Kind) :
    (builder.drafts.draftFor id kind).node.decision =
      Trace.decisionOf (Trace.eventsAt events id) := by
  have told := congrArg Node.decision (tells.node_eq id)
  rwa [← Drafts.detached_draftFor builder.drafts id kind] at told

theorem node_eq_record (tells : builder.Tells events) {event : Event}
    (counts : event.action ≠ .summarized) (id : String) :
    ((builder.record event).drafts.detachedFor id).node =
      Trace.toldAt (events ++ [event]) id := by
  rw [drafts_record counts, Drafts.detachedFor_link, Drafts.detachedFor_put, Drafts.id_drafted]
  split
  · rename_i same
    subst id
    have before : Node.decision
        { (builder.drafts.draftFor event.target event.impliedKind).node with
          lastEvent := event.tag } =
        Trace.decisionOf (Trace.eventsAt events event.target) :=
      tells.decision_draftFor event.target event.impliedKind
    have decision := Node.decision_after before event
    rw [← Drafts.node_drafted] at decision
    rw [Drafts.node_detached_drafted, tells.node_eq, decision, Trace.toldAt, Trace.toldAt,
      Trace.eventsAt_concat_self counts, Trace.lastTagOf_concat]
  · rename_i other
    rw [tells.node_eq, Trace.toldAt, Trace.toldAt, Trace.eventsAt_concat_other (Or.inr other)]

theorem kind_eq_record (tells : builder.Tells events) {event : Event}
    (counts : event.action ≠ .summarized) {id : String} {draft : Draft}
    (found : (builder.record event).drafts.find? id = some draft) (notRoot : id ≠ Path.root)
    (leaf : draft.node.children = []) :
    draft.node.kind = Trace.kindOf (Trace.eventsAt (events ++ [event]) id) := by
  rw [drafts_record counts] at found
  have before := Drafts.find?_of_find?_link found leaf
  rw [Table.find?_put, Drafts.id_drafted] at before
  split at before
  · rename_i same
    subst id
    obtain rfl := Option.some.inj before
    rw [Trace.eventsAt_concat_self counts, Trace.kindOf_concat]
    by_cases known : event.target ∈ builder.drafts.keys
    · obtain ⟨draft, earlier⟩ := Option.isSome_iff_exists.1 (Table.find?_isSome_iff.2 known)
      have earlierLeaf : draft.node.children = [] := by
        rw [← leaf, Drafts.children_drafted, Drafts.draftFor_of_find? earlier,
          Draft.children_raise]
      rw [Drafts.kind_drafted_of_find? earlier, tells.kind_eq earlier notRoot earlierLeaf]
    · have noEvents := Trace.eventsAt_eq_nil_of_notMem (tells.keys_eq ▸ known)
      rw [Drafts.kind_drafted_of_notMem known, noEvents]
      simp
  · rename_i other
    rw [Trace.eventsAt_concat_other (Or.inr other)]
    exact tells.kind_eq before notRoot leaf

/-- Recording one more event keeps the construction telling. -/
theorem record (tells : builder.Tells events) (event : Event) :
    (builder.record event).Tells (events ++ [event]) := by
  obtain ⟨placed, keysEq⟩ := placed_record tells.placed event
  rw [tells.keys_eq, ← Trace.mentioned_concat] at keysEq
  by_cases summary : event.action = .summarized
  · have sameEvents (id : String) :
        Trace.eventsAt (events ++ [event]) id = Trace.eventsAt events id :=
      Trace.eventsAt_concat_other (Or.inl summary)
    rw [record_of_summary summary] at placed keysEq ⊢
    refine ⟨placed, keysEq, fun id => ?_, fun found notRoot leaf => ?_⟩
    · rw [tells.node_eq, Trace.toldAt, Trace.toldAt, sameEvents]
    · rw [sameEvents]
      exact tells.kind_eq found notRoot leaf
  · exact ⟨placed, keysEq, tells.node_eq_record summary, tells.kind_eq_record summary⟩

/-- The node of a known path is the one that the trace describes. -/
theorem node_of_find? (tells : builder.Tells events) {id : String} {draft : Draft}
    (found : builder.drafts.find? id = some draft) :
    draft.node = Trace.nodeAt events id := by
  have told := tells.node_eq id
  rw [Drafts.detachedFor_of_find? found] at told
  have children : draft.node.children = Trace.childrenAt events id := by
    rw [tells.placed.children_eq found, tells.keys_eq, Trace.childrenAt]
  have kind : draft.node.kind = (Trace.nodeAt events id).kind := by
    simp only [Trace.nodeAt]
    split
    · rename_i isParent
      exact tells.placed.kind_eq found (children ▸ isParent)
    · rename_i isLeaf
      rw [not_or, not_not] at isLeaf
      exact tells.kind_eq found isLeaf.1 (children ▸ isLeaf.2)
  calc
    draft.node = { draft.detached.node with
        kind := draft.node.kind
        children := draft.node.children } := rfl
    _ = Trace.nodeAt events id := by
      rw [told, kind, children]
      rfl

end Tells

/-- Recording a whole trace tells what the trace tells. -/
theorem tells_recordAll (events : List Event) : (empty.recordAll events).Tells events := by
  induction events using List.reverseRecOn with
  | nil => exact tells_empty
  | append_singleton events event ih =>
      rw [recordAll_append, recordAll_cons, recordAll_nil]
      exact ih.record event

end Builder

namespace Index

/-- The nodes of an index are those that its trace describes, in the order in
which the trace mentions their paths. -/
theorem entries_ofEvents (events : List Event) :
    (ofEvents events).nodes.entries = (Trace.mentioned events).map (Trace.nodeAt events) := by
  have tells := Builder.tells_recordAll events
  rw [← tells.keys_eq, Table.keys, List.map_map]
  refine List.map_congr_left fun draft member => ?_
  exact tells.node_of_find? (Table.find?_key_of_mem member)

theorem ids_ofEvents (events : List Event) :
    (ofEvents events).ids = Trace.mentioned events := by
  rw [ids, Table.keys, entries_ofEvents, List.map_map]
  exact List.map_id _

theorem find?_ofEvents (events : List Event) (id : String) :
    (ofEvents events).find? id =
      if id ∈ Trace.mentioned events then some (Trace.nodeAt events id) else none := by
  split
  · rename_i known
    have member : Trace.nodeAt events id ∈ (ofEvents events).nodes.entries := by
      rw [entries_ofEvents]
      exact List.mem_map_of_mem known
    exact Table.find?_key_of_mem member
  · rename_i unknown
    rw [← ids_ofEvents] at unknown
    exact Table.find?_eq_none_iff.2 unknown

theorem eq_nodeAt_of_find? {events : List Event} {id : String} {node : Node}
    (found : (ofEvents events).find? id = some node) : node = Trace.nodeAt events id := by
  rw [find?_ofEvents] at found
  split at found
  · exact (Option.some.inj found).symm
  · simp at found

/-- What an index says about a path comes from the events on that path alone,
and its kind also from whether it has children: the decision is that of the last
event that decides, and else that of a temporary path if some event calls it so;
the last event is the last one; and the path is a directory if it is the root,
has children or is shown to be one, and else what its last inclusion tells. -/
theorem told_by_events_on_path {events : List Event} {id : String} {node : Node}
    (found : (ofEvents events).find? id = some node) :
    node.decision = Trace.decisionOf (Trace.eventsAt events id) ∧
      node.lastEvent = Trace.lastTagOf (Trace.eventsAt events id) ∧
      node.kind =
        if id = Path.root ∨ node.children ≠ [] ∨
            (Trace.eventsAt events id).any Event.isDirectory then .dir
        else Trace.leafKindOf (Trace.eventsAt events id) := by
  rw [eq_nodeAt_of_find? found]
  refine ⟨rfl, rfl, ?_⟩
  rw [Trace.kind_nodeAt, Trace.children_nodeAt, Trace.kindOf, ← ite_or]
  exact if_congr or_assoc rfl rfl

/-- A path that is called temporary, included as a link, ignored and called
temporary again stays ignored, and stays a link. -/
theorem told_of_ignored_link :
    let events : List Event :=
      [{ tag := some "temp", path := some "./a/b" },
        { tag := some "include", path := some "a/b", kind := some "symlink" },
        { tag := some "include", path := some "a", kind := some "file" },
        { tag := some "ignore", path := some "a/b", reason := some "rule", pattern := some "b" },
        { tag := some "temp", path := some "a/b" }]
    let node : Node :=
      { id := "a/b", name := "b", kind := .symlink
        decision := ⟨.ignored, some "rule", some "b"⟩, lastEvent := some "temp" }
    (ofEvents events).find? "a/b" = some node ∧
      node.decision = Trace.decisionOf (Trace.eventsAt events "a/b") ∧
      node.lastEvent = Trace.lastTagOf (Trace.eventsAt events "a/b") ∧
      node.kind =
        if "a/b" = Path.root ∨ node.children ≠ [] ∨
            (Trace.eventsAt events "a/b").any Event.isDirectory then .dir
        else Trace.leafKindOf (Trace.eventsAt events "a/b") := by
  intro events node
  have found : (ofEvents events).find? "a/b" = some node := by decide +kernel
  exact ⟨found, told_by_events_on_path found⟩

end Index

end ScanTree

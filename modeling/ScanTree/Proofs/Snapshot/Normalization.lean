import ScanTree.Snapshot
import ScanTree.Proofs.Merge.Union
import ScanTree.Proofs.Outcome

/-!
# Indices rebuilt from their objects

The object of a node says nothing of the second trace where nothing was compared,
and where something was it always says a status.  So what is rebuilt from it is
the node in a normal form.  An index whose nodes list no child twice is rebuilt
with all its nodes in normal form, in their order.
-/

namespace ScanTree

/-! ## Members of written objects -/

namespace Members

theorem get?_append (first second : Members) (name : String) :
    get? (first ++ second) name = (get? first name).or (get? second name) := by
  induction first with
  | nil => rfl
  | cons member rest ih =>
      rw [List.cons_append, get?_cons, get?_cons, ih]
      split <;> rfl

@[simp]
theorem get?_optionalMember (name other : String) (value : Option String) :
    get? (optionalMember name value) other =
      if name = other then value.map Json.str else none := by
  cases value <;> simp [optionalMember]

end Members

theorem readText_of_get? {members : Members} {name : String} {value : Option String}
    (found : members.get? name = value.map Json.str) : readText members name = .ok value := by
  rw [readText, found]
  cases value <;> rfl

theorem readChoice_name {α : Type} {name : α → String} {ofName? : String → Option α}
    (inverse : ∀ choice, ofName? (name choice) = some choice) (what : String) (choice : α) :
    readChoice ofName? what (.str (name choice)) = .ok choice := by
  simp [readChoice, Json.text?, inverse]

theorem readOptionalChoice_name {α : Type} {name : α → String} {ofName? : String → Option α}
    (inverse : ∀ choice, ofName? (name choice) = some choice) (what : String)
    (choice : Option α) :
    readOptionalChoice ofName? what (choice.map fun known => .str (name known)) = .ok choice := by
  cases choice with
  | none => rfl
  | some known =>
      rw [Option.map_some, readOptionalChoice, readChoice_name inverse]
      · rfl
      · exact Json.noConfusion

theorem texts?_map_str (texts : List String) : (Json.arr (texts.map .str)).texts? = some texts := by
  induction texts with
  | nil => rfl
  | cons text rest ih =>
      simp only [Json.texts?, List.map_cons, List.mapM_cons] at ih ⊢
      rw [ih]
      rfl

theorem texts?_presentOr {members : Members} {name : String} {texts : List String}
    (found : members.get? name = some (.arr (texts.map .str))) :
    (presentOr members name (.arr [])).texts? = some texts := by
  rw [presentOr, found]
  -- An empty list counts as missing, and the default is empty as well.
  cases texts with
  | nil => rfl
  | cons text rest => exact texts?_map_str (text :: rest)

theorem firstOccurrences_eq_union (texts : List String) :
    firstOccurrences texts = unionChildren [] texts :=
  rfl

theorem firstOccurrences_of_nodup {texts : List String} (distinct : texts.Nodup) :
    firstOccurrences texts = texts := by
  rw [firstOccurrences_eq_union, unionChildren_eq distinct]
  simp

theorem nodup_firstOccurrences (texts : List String) : (firstOccurrences texts).Nodup := by
  rw [firstOccurrences_eq_union]
  exact nodup_unionChildren List.nodup_nil

/-! ## Nodes -/

namespace Node

/-- The node as it is rebuilt: it knows of a second trace only if it knows where it
comes from, and then it knows a status. -/
def normalized (node : Node) : Node :=
  { node with
    second :=
      if node.origin.isSome then
        { node.second with status := some (node.second.status.getD .unknown) }
      else {} }

/-- What is found under the names of what is known about a node. -/
theorem get?_metaToJson (node : Node) :
    Members.get? node.metaToJson "status" = some (.str node.status.name) ∧
    Members.get? node.metaToJson "reason" = node.decision.reason.map .str ∧
    Members.get? node.metaToJson "pattern" = node.decision.pattern.map .str ∧
    Members.get? node.metaToJson "lastEvent" = node.lastEvent.map .str ∧
    Members.get? node.metaToJson "statusB" =
      node.normalized.second.status.map (fun status => .str status.name) ∧
    Members.get? node.metaToJson "reasonB" = node.normalized.second.reason.map .str ∧
    Members.get? node.metaToJson "patternB" = node.normalized.second.pattern.map .str ∧
    Members.get? node.metaToJson "origin" = node.origin.map fun origin => .str origin.name := by
  cases compared : node.origin <;>
    simp [metaToJson, Members.get?_append, normalized, compared]

theorem ofJson_toJson {node : Node} (distinct : node.children.Nodup) :
    ofJson node.id node.toJson = .ok node.normalized := by
  obtain ⟨status, reason, pattern, lastEvent, secondStatus, secondReason, secondPattern,
    origin⟩ := node.get?_metaToJson
  obtain ⟨members, isObject, name, kind, about, children⟩ : ∃ members,
      node.toJson = .obj members ∧
      Members.get? members "name" = some (.str node.name) ∧
      Members.get? members "kind" = some (.str node.kind.name) ∧
      Members.get? members "meta" = some (.obj node.metaToJson) ∧
      Members.get? members "children" = some (.arr (node.children.map .str)) :=
    ⟨_, rfl, rfl, rfl, rfl, rfl⟩
  have present : presentOr members "meta" (.obj []) = .obj node.metaToJson := by
    rw [presentOr, about]
    rfl
  simp only [ofJson, isObject, present, texts?_presentOr children, name, kind, status,
    readText_of_get? reason, readText_of_get? pattern, readText_of_get? lastEvent,
    readText_of_get? secondReason, readText_of_get? secondPattern, secondStatus, origin,
    readChoice_name Kind.ofName?_name, readChoice_name Status.ofName?_name,
    readOptionalChoice_name Status.ofName?_name, readOptionalChoice_name Origin.ofName?_name,
    Option.getD_some, Option.bind_some, Json.text?, firstOccurrences_of_nodup distinct, bind,
    Except.bind, pure, Except.pure]
  rfl

end Node

/-! ## Indices -/

namespace Index

/-- The index with its nodes as they are rebuilt. -/
def normalized (index : Index) : Index :=
  { index with nodes := index.nodes.map Node.normalized fun _ => rfl }

/-- An index whose nodes list no child twice is rebuilt with its nodes in normal
form. -/
theorem ofJson_toJson {index : Index} (rooted : index.rootId ≠ "")
    (distinct : ∀ node ∈ index.nodes.entries, node.children.Nodup) :
    ofJson index.toJson = .ok index.normalized := by
  have nodes : (index.nodes.entries.map fun node => (node.id, node.toJson)).mapM
      (fun member => Node.ofJson member.1 member.2) =
        .ok (index.nodes.entries.map Node.normalized) := by
    rw [List.mapM_map]
    exact mapM_eq_ok fun node member => Node.ofJson_toJson (distinct node member)
  obtain ⟨members, isObject, root, compare, nodesFound, counts⟩ : ∃ members,
      index.toJson = .obj members ∧
      Members.get? members "rootId" = some (.str index.rootId) ∧
      Members.get? members "compare" = some (.bool index.compare) ∧
      Members.get? members "nodes" =
        some (.obj (index.nodes.entries.map fun node => (node.id, node.toJson))) ∧
      Members.get? members "counts" = some index.counts.toJson :=
    ⟨_, rfl, rfl, rfl, rfl, rfl⟩
  have rebuilt : Table.ofList (index.nodes.entries.map Node.normalized) = index.normalized.nodes :=
    Table.ofList_entries index.normalized.nodes
  have present : presentOr members "counts" (.obj []) = index.counts.toJson := by
    rw [presentOr, counts]
    rfl
  simp only [ofJson, isObject, root, compare, nodesFound, nodes, present, rebuilt, rooted,
    if_false, Counts.toJson, bind, Except.bind]
  rfl

theorem normalized_eq_self {index : Index}
    (normal : ∀ node ∈ index.nodes.entries, node.normalized = node) :
    index.normalized = index := by
  have sameEntries : index.nodes.entries.map Node.normalized = index.nodes.entries :=
    (List.map_congr_left normal).trans (List.map_id' _)
  have sameNodes : index.normalized.nodes = index.nodes := Table.ext_entries sameEntries
  calc
    index.normalized = { index with nodes := index.normalized.nodes } := rfl
    _ = index := by rw [sameNodes]

end Index

end ScanTree

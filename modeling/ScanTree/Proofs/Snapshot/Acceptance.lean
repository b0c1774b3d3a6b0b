import ScanTree.Proofs.Snapshot.Normalization

/-!
# Indices of accepted objects

Far more objects are accepted than are written.  The index of any of them has a root
and lists no child twice, so it is rebuilt from its own object in normal form.  The
object of a node already says what its normal form says, so the object of the rebuilt
index is the same, and rebuilding once more changes nothing.
-/

namespace ScanTree

namespace Node

theorem nodup_children_of_ofJson {id : String} {raw : Json} {node : Node}
    (accepted : ofJson id raw = .ok node) : node.children.Nodup := by
  unfold ofJson at accepted
  split at accepted
  case h_2 => cases accepted
  split at accepted
  case h_2 => cases accepted
  split at accepted
  case h_2 => cases accepted
  -- Whatever the other members are, the children that are kept are first occurrences.
  obtain ⟨kind, _, accepted⟩ := exists_of_bind_eq_ok accepted
  obtain ⟨status, _, accepted⟩ := exists_of_bind_eq_ok accepted
  obtain ⟨reason, _, accepted⟩ := exists_of_bind_eq_ok accepted
  obtain ⟨pattern, _, accepted⟩ := exists_of_bind_eq_ok accepted
  obtain ⟨lastEvent, _, accepted⟩ := exists_of_bind_eq_ok accepted
  obtain ⟨secondStatus, _, accepted⟩ := exists_of_bind_eq_ok accepted
  obtain ⟨secondReason, _, accepted⟩ := exists_of_bind_eq_ok accepted
  obtain ⟨secondPattern, _, accepted⟩ := exists_of_bind_eq_ok accepted
  obtain ⟨origin, _, accepted⟩ := exists_of_bind_eq_ok accepted
  obtain rfl := Except.ok.inj accepted
  exact nodup_firstOccurrences _

theorem toJson_normalized (node : Node) : node.normalized.toJson = node.toJson := by
  cases compared : node.origin <;> simp [toJson, metaToJson, normalized, compared]

end Node

namespace Index

variable {index : Index} {raw : Json}

theorem rooted_and_distinct_of_ofJson (accepted : ofJson raw = .ok index) :
    index.rootId ≠ "" ∧ ∀ node ∈ index.nodes.entries, node.children.Nodup := by
  unfold ofJson at accepted
  split at accepted
  case h_2 => cases accepted
  split at accepted
  case h_2 => cases accepted
  rename_i rootId _
  by_cases rootless : rootId = ""
  · rw [if_pos rootless] at accepted
    cases accepted
  rw [if_neg rootless] at accepted
  split at accepted
  case h_2 => cases accepted
  obtain ⟨nodes, reads, accepted⟩ := exists_of_bind_eq_ok accepted
  split at accepted
  case h_2 => cases accepted
  obtain ⟨included, _, accepted⟩ := exists_of_bind_eq_ok accepted
  obtain ⟨ignored, _, accepted⟩ := exists_of_bind_eq_ok accepted
  obtain ⟨skipped, _, accepted⟩ := exists_of_bind_eq_ok accepted
  split at accepted
  case h_2 => cases accepted
  obtain rfl := Except.ok.inj accepted
  refine ⟨rootless, fun node member => ?_⟩
  obtain ⟨⟨id, rawNode⟩, _, isNode⟩ := exists_of_mapM_eq_ok reads (Table.mem_of_mem_ofList member)
  exact Node.nodup_children_of_ofJson isNode

theorem rebuilds_of_ofJson (accepted : ofJson raw = .ok index) :
    ofJson index.toJson = .ok index.normalized := by
  obtain ⟨rooted, distinct⟩ := rooted_and_distinct_of_ofJson accepted
  exact ofJson_toJson rooted distinct

theorem toJson_normalized (index : Index) : index.normalized.toJson = index.toJson := by
  have nodes : index.normalized.nodes.entries.map (fun node => (node.id, node.toJson)) =
      index.nodes.entries.map fun node => (node.id, node.toJson) := by
    change (index.nodes.entries.map Node.normalized).map _ = _
    rw [List.map_map]
    apply List.map_congr_left
    intro node _
    exact congrArg (Prod.mk node.id) node.toJson_normalized
  rw [toJson, nodes]
  rfl

theorem ids_normalized (index : Index) : index.normalized.ids = index.ids :=
  Table.keys_map index.nodes Node.normalized fun _ => rfl

theorem find?_normalized (index : Index) (id : String) :
    index.normalized.find? id = (index.find? id).map Node.normalized :=
  Table.find?_map index.nodes Node.normalized (fun _ => rfl) id

/-- The index of an accepted object is rebuilt from its own object with the same root, the
same counts and the same nodes in the same order, except that a node without origin loses
its second decision, and one with an origin but no second status is given an unknown one.
The object of the rebuilt index is the same, so the rebuilt index is rebuilt unchanged. -/
theorem rebuilds_once_and_for_all (accepted : ofJson raw = .ok index) :
    ∃ rebuilt, ofJson index.toJson = .ok rebuilt ∧
      rebuilt.rootId = index.rootId ∧ rebuilt.compare = index.compare ∧
      rebuilt.counts = index.counts ∧ rebuilt.ids = index.ids ∧
      (∀ id node, index.find? id = some node → node.origin = none →
        rebuilt.find? id = some { node with second := {} }) ∧
      (∀ id node origin, index.find? id = some node → node.origin = some origin →
        rebuilt.find? id = some { node with second :=
          { node.second with status := some (node.second.status.getD .unknown) } }) ∧
      rebuilt.toJson = index.toJson ∧ ofJson rebuilt.toJson = .ok rebuilt := by
  have rebuilds := rebuilds_of_ofJson accepted
  have nodes {id : String} {node : Node} (found : index.find? id = some node) :
      index.normalized.find? id = some node.normalized := by
    rw [find?_normalized, found, Option.map_some]
  refine ⟨index.normalized, rebuilds, rfl, rfl, rfl, index.ids_normalized, ?_, ?_,
    index.toJson_normalized, ?_⟩
  · intro id node found uncompared
    rw [nodes found, Node.normalized, uncompared]
    rfl
  · intro id node origin found compared
    rw [nodes found, Node.normalized, compared]
    rfl
  · rw [toJson_normalized]
    exact rebuilds

/-- An object that leaves most members out, repeats a child, and has a node with a second
decision but no origin and another one with an origin but no second decision. -/
theorem rebuilds_of_missing_members :
    let raw := Json.obj [("rootId", .str "."), ("nodes", .obj [
      (".", .obj [("kind", .str "dir"), ("children", .arr [.str "b", .str "a", .str "b"])]),
      ("a", .obj [("meta", .obj [("statusB", .str "included"), ("reasonB", .str "rule")])]),
      ("b", .obj [("meta", .obj [("status", .str "ignored"), ("origin", .str "a")]),
        ("children", .null)])])]
    let plain (id : String) : Node := { id, name := id, kind := .file }
    ∃ index, ofJson raw = .ok index ∧
      index.find? "a" = some { plain "a" with second := ⟨some .included, some "rule", none⟩ } ∧
      ∃ rebuilt, ofJson index.toJson = .ok rebuilt ∧ rebuilt.ids = [".", "a", "b"] ∧
        rebuilt.find? "a" = some (plain "a") ∧
        rebuilt.find? "b" = some
          { plain "b" with
            decision := { status := .ignored }
            second := { status := some .unknown }
            origin := some (.only .first) } ∧
        rebuilt.toJson = index.toJson ∧ ofJson rebuilt.toJson = .ok rebuilt := by
  intro raw plain
  let index : Index :=
    { rootId := "."
      nodes := .ofList
        [{ plain "." with kind := .dir, children := ["b", "a"] },
          { plain "a" with second := ⟨some .included, some "rule", none⟩ },
          { plain "b" with decision := { status := .ignored }, origin := some (.only .first) }]
      counts := {} }
  have accepted : ofJson raw = .ok index := rfl
  obtain ⟨rebuilt, rebuilds, _, _, _, ids, uncompared, compared, again, unchanged⟩ :=
    rebuilds_once_and_for_all accepted
  exact ⟨index, accepted, rfl, rebuilt, rebuilds, ids, uncompared "a" _ rfl rfl,
    compared "b" _ (.only .first) rfl rfl, again, unchanged⟩

end Index

end ScanTree

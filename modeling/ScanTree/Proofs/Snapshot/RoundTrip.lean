import ScanTree.Proofs.Index.Comparison
import ScanTree.Proofs.Ingest.Account
import ScanTree.Proofs.Json.RoundTrip
import ScanTree.Proofs.Snapshot.Normalization

/-!
# Indices read back from text

The object of an index is a plain value if its counts have few enough digits, and it
nests four deep, so it is read back from its text.  The nodes of an index of a trace know of no second
trace, and those of a comparison always know a status, so the nodes of both are in
normal form, and what is rebuilt is the index itself.
-/

namespace ScanTree

/-! ## Objects of indices are plain -/

theorem names_optionalMember_sublist (name : String) (value : Option String) :
    ((optionalMember name value).map Prod.fst).Sublist [name] := by
  cases value
  · exact List.nil_sublist _
  · exact List.Sublist.refl _

theorem isPlain_optionalMember (room : Nat) (name : String) (value : Option String) :
    ∀ member ∈ optionalMember name value, Json.IsPlain room member.2 := by
  intro member listed
  obtain ⟨text, _, rfl⟩ := Option.map_eq_some_iff.1 (Option.mem_toList.1 listed)
  exact .str text

namespace Node

theorem nodup_names_metaToJson (node : Node) : (node.metaToJson.map Prod.fst).Nodup := by
  have listed : ["status", "reason", "pattern", "lastEvent", "statusB", "reasonB", "patternB",
      "origin"].Nodup := by decide
  have told := ((names_optionalMember_sublist "reason" node.decision.reason).append
    (names_optionalMember_sublist "pattern" node.decision.pattern)).append
      (names_optionalMember_sublist "lastEvent" node.lastEvent)
  have toldOfSecond := (names_optionalMember_sublist "reasonB" node.second.reason).append
    (names_optionalMember_sublist "patternB" node.second.pattern)
  refine listed.sublist ?_
  cases compared : node.origin with
  | none =>
      simp only [metaToJson, compared, List.map_append, List.map_cons, List.map_nil]
      exact (told.append (List.nil_sublist _)).cons_cons "status"
  | some origin =>
      simp only [metaToJson, compared, List.map_append, List.map_cons, List.map_nil]
      exact (told.append ((toldOfSecond.append (.refl ["origin"])).cons_cons "statusB")).cons_cons
        "status"

theorem isPlain_metaToJson (node : Node) : Json.IsPlain 1 (.obj node.metaToJson) := by
  refine .obj node.nodup_names_metaToJson ?_
  have told := isPlain_optionalMember 0
  cases compared : node.origin with
  | none =>
      simp only [metaToJson, compared, List.forall_mem_append, List.forall_mem_cons]
      exact ⟨⟨⟨⟨.str _, told _ _⟩, told _ _⟩, told _ _⟩, List.forall_mem_nil _⟩
  | some origin =>
      simp only [metaToJson, compared, List.forall_mem_append, List.forall_mem_cons]
      exact ⟨⟨⟨⟨.str _, told _ _⟩, told _ _⟩, told _ _⟩, ⟨⟨.str _, told _ _⟩, told _ _⟩,
        .str _, List.forall_mem_nil _⟩

theorem isPlain_toJson (node : Node) : Json.IsPlain 2 node.toJson := by
  have children : Json.IsPlain 1 (.arr (node.children.map .str)) := by
    refine .arr fun item listed => ?_
    obtain ⟨child, _, rfl⟩ := List.mem_map.1 listed
    exact .str child
  refine .obj (by simp) ?_
  simp only [List.forall_mem_cons]
  exact ⟨.str _, .str _, .str _, .str _, node.isPlain_metaToJson, children, List.forall_mem_nil _⟩

end Node

theorem Counts.isPlain_toJson {counts : Counts} (room : Nat)
    (short : ∀ category, intFits (counts.get category) = true) :
    Json.IsPlain (room + 1) counts.toJson := by
  refine .obj (by simp) ?_
  simp only [List.forall_mem_cons]
  exact ⟨.int (short .included), .int (short .ignored), .int (short .skipped),
    List.forall_mem_nil _⟩

namespace Index

theorem isPlain_toJson {index : Index}
    (short : ∀ category, intFits (index.counts.get category) = true) :
    Json.IsPlain 4 index.toJson := by
  have nodes : Json.IsPlain 3
      (.obj (index.nodes.entries.map fun node => (node.id, node.toJson))) := by
    refine .obj ?_ fun member listed => ?_
    · rw [List.map_map]
      exact index.nodes.keys_nodup
    · obtain ⟨node, _, rfl⟩ := List.mem_map.1 listed
      exact node.isPlain_toJson
  refine .obj (by simp) ?_
  simp only [List.forall_mem_cons]
  exact ⟨.str _, .bool _, nodes, Counts.isPlain_toJson 2 short, List.forall_mem_nil _⟩

/-! ## Indices in normal form -/

namespace FromTraces

variable {index : Index}

theorem normalized_eq (traced : index.FromTraces) {id : String} {node : Node}
    (found : index.find? id = some node) : node.normalized = node := by
  induction traced generalizing id node with
  | ofEvents events =>
      rw [eq_nodeAt_of_find? found]
      rfl
  | merge _ _ merges _ _ =>
      -- Whatever the parts were like, a comparison sets the origin and the second status.
      rcases find?_merge_cases merges found with
        ⟨one, other, _, _, rfl⟩ | ⟨one, _, _, rfl⟩ | ⟨other, _, _, rfl⟩
      · rfl
      · rfl
      · rfl

theorem ofJson_toJson (traced : index.FromTraces) : ofJson index.toJson = .ok index := by
  have tree := traced.isTree
  have rooted : index.rootId ≠ "" := by
    rw [tree.rootId_eq]
    decide
  rw [Index.ofJson_toJson rooted, normalized_eq_self]
  · exact fun node member => traced.normalized_eq (Table.find?_key_of_mem member)
  · exact fun node member => tree.nodup_children (Table.find?_key_of_mem member)

end FromTraces

/-- An index of events, of a trace that is read, or of such indices compared again
and again. -/
inductive Arises : Index → Prop
  | ofEvents (events : List Event) : Arises (ofEvents events)
  | read {room : Nat} {text label : String} {result : Ingest.Result}
      (reads : Ingest.read room text label = .ok result) : Arises result.index
  | finished {room every : Nat} {text label : String} {answer : Nat → Bool}
      {result : Ingest.Result}
      (finishes : ((Ingest.Program.ofTrace room every text label).run answer 0).outcome =
        .finished result) : Arises result.index
  | merge {first second merged : Index} (left : Arises first) (right : Arises second)
      (merges : first.merge second = .ok merged) : Arises merged

theorem Arises.fromTraces {index : Index} (arises : index.Arises) : index.FromTraces := by
  induction arises with
  | ofEvents events => exact .ofEvents events
  | read reads =>
      rw [Ingest.index_of_read reads]
      exact .ofEvents _
  | finished finishes =>
      rw [Ingest.index_of_read (Ingest.Program.read_of_finished finishes)]
      exact .ofEvents _
  | merge _ _ merges left right => exact left.merge right merges

/-- An index that is built from events, read from a trace or made of such indices by
comparing them is written in any layout, if its counts have few enough digits, and
what is read back from the text is the same index. -/
theorem reads_back_from_text {index : Index} (arises : index.Arises)
    (short : ∀ category, intFits (index.counts.get category) = true) (layout : Json.Layout) :
    ∃ text read, Json.textIn layout index.toJson = .ok text ∧ Json.decode text = .ok read ∧
      ofJson read = .ok index := by
  have plain : Json.IsPlain Json.nestingLimit index.toJson :=
    (isPlain_toJson short).mono (by decide)
  obtain ⟨text, isText, decodes⟩ := Json.decode_of_textIn plain layout
  exact ⟨text, index.toJson, isText, decodes, arises.fromTraces.ofJson_toJson⟩

/-- A comparison in which one trace gives an empty reason and the other one a reason
in quotes is read back from its text in one line. -/
theorem reads_back_of_comparison :
    let first := ofEvents [{ tag := some "include", path := some "x/\u03b1", reason := some "" }]
    let second := ofEvents
      [{ tag := some "ignore", path := some "x/\u03b1", reason := some "a \"rule\"" }]
    ∃ index, first.merge second = .ok index ∧ index.Arises ∧ index.counts = ⟨1, 1, 0⟩ ∧
      ∃ text read, Json.textIn .inLine index.toJson = .ok text ∧ Json.decode text = .ok read ∧
        ofJson read = .ok index := by
  intro first second
  let index : Index :=
    ⟨first.rootId, mergedNodes first second, first.counts + second.counts, true⟩
  have sameRoot : first.rootId = second.rootId :=
    (isTree_ofEvents _).rootId_eq.trans (isTree_ofEvents _).rootId_eq.symm
  have merges : first.merge second = .ok index := merge_eq_ok_iff.2 ⟨sameRoot, rfl⟩
  have arises : index.Arises := .merge (.ofEvents _) (.ofEvents _) merges
  have counts : index.counts = ⟨1, 1, 0⟩ := by decide +kernel
  have short (category : Category) : intFits (index.counts.get category) = true := by
    rw [counts]
    cases category <;> decide +kernel
  exact ⟨index, merges, arises, counts, reads_back_from_text arises short .inLine⟩

end Index

end ScanTree

import ScanTree.CommandLine.Run
import ScanTree.Proofs.Display.Details
import ScanTree.Proofs.Index.Comparison
import ScanTree.Proofs.Path.Normalization

/-!
# Nodes addressed by their ids

The details of a node, the nodes to expand and the items of a summary are given as
paths, and these are normalized before a node is looked up.  So a node is addressed by
its own id just if normalizing keeps the id.  It keeps the ids of all nodes of a trace
unless some path in the trace begins with `./` twice.
-/

namespace ScanTree

namespace CommandLine.Options

variable {index : Index} {path : String}

theorem detailLines_of_find? {node : Node}
    (found : index.find? (Path.normalize (some path)) = some node) :
    detailLines path index =
      (node.details (index.stats.lookup (Path.normalize (some path))) index.compare).mapError
        fun error => .failed (.integer error) := by
  simp only [detailLines, found]

theorem detailLines_of_missing (missing : index.find? (Path.normalize (some path)) = none) :
    detailLines path index =
      .error (.refused s!"Node not found: {Path.normalize (some path)}") := by
  simp only [detailLines, missing]

end CommandLine.Options

namespace Index

open CommandLine (Options)

variable {index : Index} {id : String} {node : Node}

theorem detailLines_own_id (found : index.find? id = some node)
    (kept : Path.normalize (some id) = id) :
    Options.detailLines id index =
      (node.details (index.stats.lookup id) index.compare).mapError
        fun error => .failed (.integer error) := by
  have named : index.find? (Path.normalize (some id)) = some node := by rw [kept, found]
  rw [Options.detailLines_of_find? named, kept]

theorem detailLines_own_id_iff (found : index.find? id = some node) {lines : List String}
    (written : node.details (index.stats.lookup id) index.compare = .ok lines) :
    Options.detailLines id index = .ok lines ↔ Path.normalize (some id) = id := by
  constructor
  · intro shown
    cases named : index.find? (Path.normalize (some id)) with
    | none =>
        rw [Options.detailLines_of_missing named] at shown
        cases shown
    | some other =>
        rw [Options.detailLines_of_find? named, mapError_eq_ok_iff] at shown
        rw [← id_of_find? named, Node.id_eq_of_details written shown, id_of_find? found]
  · intro kept
    rw [detailLines_own_id found kept, written, mapError_ok]

theorem mem_expandedIds_own_id_iff {options : Options} {preferences : Storage}
    (chosen : options.expandAll = false) (expand : options.expand = some [id]) :
    id ∈ options.expandedIds preferences index ↔ Path.normalize (some id) = id := by
  rw [Options.expandedIds, chosen, expand]
  simp [eq_comm]

theorem statusOf?_own_id (found : index.find? id = some node)
    (kept : Path.normalize (some id) = id) : index.statusOf? id = some node.status := by
  rw [statusOf?, kept, found, Option.map_some]

theorem FromTraces.normalize_id_iff (traced : index.FromTraces) (known : id ∈ index.ids) :
    Path.normalize (some id) = id ↔ ¬ Path.IsDotted id :=
  Path.normalize_eq_self_iff fun isEmpty => traced.empty_notMem_ids (isEmpty ▸ known)

/-- All ids of a trace are kept just if no path in it begins with `./` twice. -/
theorem ids_kept_iff (events : List Event) :
    (∀ id ∈ (ofEvents events).ids, Path.normalize (some id) = id) ↔
      ∀ event ∈ events, event.action ≠ .summarized → ∀ path, event.path = some path →
        ¬ ['.', '/', '.', '/'] <+: path.toList := by
  have known (id : String) : id ∈ (ofEvents events).ids ↔ id = Path.root ∨
      ∃ event ∈ events, event.action ≠ .summarized ∧ id ∈ Path.lineage event.target := by
    rw [ids_ofEvents, Trace.mem_mentioned_iff]
  have kept {id : String} (member : id ∈ (ofEvents events).ids) :=
    (FromTraces.ofEvents events).normalize_id_iff member
  constructor
  · intro allKept event member counts path isPath twice
    have inIndex : event.target ∈ (ofEvents events).ids :=
      (known event.target).2 (Or.inr ⟨event, member, counts, Path.self_mem_lineage _⟩)
    refine (kept inIndex).1 (allKept event.target inIndex) ?_
    rw [Event.target, isPath]
    exact Path.isDotted_normalize_iff.2 twice
  · intro noneTwice id member
    refine (kept member).2 fun dotted => ?_
    rcases (known id).1 member with rfl | ⟨event, eventMember, counts, onLineage⟩
    · exact Path.not_isDotted_root dotted
    · have targetDotted := Path.isDotted_of_mem_lineage onLineage dotted
      rw [Event.target] at targetDotted
      cases isPath : event.path with
      | none =>
          rw [isPath] at targetDotted
          exact Path.not_isDotted_root targetDotted
      | some path =>
          rw [isPath] at targetDotted
          exact noneTwice event eventMember counts path isPath
            (Path.isDotted_normalize_iff.1 targetDotted)

/-- Every node of a trace is addressed by its own id if no path in the trace begins with `./`
twice, and otherwise some node is not.  Whatever the trace, an id is kept just if it does not
begin with `./`; just then the details that are shown for it are those of its node, if
these can be written, and the node is the one that is expanded for it; and then an item of
a summary with that path is compared with the status of the node. -/
theorem addressed_by_own_id (events : List Event) :
    ((∀ id ∈ (ofEvents events).ids, Path.normalize (some id) = id) ↔
      ∀ event ∈ events, event.action ≠ .summarized → ∀ path, event.path = some path →
        ¬ ['.', '/', '.', '/'] <+: path.toList) ∧
    ∀ id node, (ofEvents events).find? id = some node →
      (Path.normalize (some id) = id ↔ ¬ ['.', '/'] <+: id.toList) ∧
      (∀ lines,
        node.details ((ofEvents events).stats.lookup id) (ofEvents events).compare = .ok lines →
          (Options.detailLines id (ofEvents events) = .ok lines ↔
            Path.normalize (some id) = id)) ∧
      (Path.normalize (some id) = id →
        Options.detailLines id (ofEvents events) =
          (node.details ((ofEvents events).stats.lookup id) (ofEvents events).compare).mapError
            fun error => .failed (.integer error)) ∧
      (∀ (options : Options) (preferences : Storage), options.expandAll = false →
        options.expand = some [id] →
          (id ∈ options.expandedIds preferences (ofEvents events) ↔
            Path.normalize (some id) = id)) ∧
      (Path.normalize (some id) = id →
        (ofEvents events).statusOf? id = some node.status) := by
  refine ⟨ids_kept_iff events, fun id node found => ?_⟩
  exact ⟨(FromTraces.ofEvents events).normalize_id_iff (mem_ids_of_find? found),
    fun _ => detailLines_own_id_iff found, detailLines_own_id found, fun _ _ => mem_expandedIds_own_id_iff, statusOf?_own_id found⟩

/-- A path that begins with `./` twice has a node that is neither shown nor expanded for its
own id, and that a summary is told to be missing. -/
theorem not_addressed_of_path_dotted_twice :
    let index := ofEvents [{ tag := some "include", path := some "././a" }]
    ∃ node, index.find? "./a" = some node ∧ node.status = .included ∧
      Path.normalize (some "./a") ≠ "./a" ∧
      Options.detailLines "./a" index = .error (.refused "Node not found: a") ∧
      (∀ preferences, "./a" ∉ ({ expand := some ["./a"] } : Options).expandedIds
        preferences index) ∧
      index.checkSummary { included := [⟨"./a", none, none⟩] } =
        [⟨"./a", .included, none, none⟩] := by
  intro index
  have moved : Path.normalize (some "./a") = "a" := by decide
  have missing : index.find? (Path.normalize (some "./a")) = none := by
    rw [moved]
    decide +kernel
  have refused := Options.detailLines_of_missing missing
  rw [moved] at refused
  let node : Node :=
    { id := "./a", name := "a", kind := .file, decision := { status := .included },
      lastEvent := some "include" }
  have found : index.find? "./a" = some node := by decide +kernel
  refine ⟨node, found, rfl, by decide, refused, fun preferences expanded => ?_,
    by decide +kernel⟩
  have kept := (mem_expandedIds_own_id_iff rfl rfl).1 expanded
  exact absurd kept (by decide)

end Index

end ScanTree

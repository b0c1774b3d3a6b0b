import ScanTree.Proofs.Snapshot.Acceptance
import ScanTree.Proofs.View.Images
import ScanTree.Proofs.View.Refusal

/-!
# How rebuilt indices are shown

A view reads the second status of a node without asking where the node comes from,
and a node that is rebuilt without an origin has no second status.  So a node may be
visible only before it is rebuilt.  The table of visibility stays the same just if
every such node is visible for another reason, and the rows of a view stay the same
just if what has a row stays visible.
-/

namespace ScanTree

namespace Node

theorem status_second_normalized_iff {node : Node} :
    node.normalized.second.status = some .included ↔
      node.origin ≠ none ∧ node.second.status = some .included := by
  cases compared : node.origin with
  | none => simp [normalized, compared]
  | some origin => cases told : node.second.status <;> simp [normalized, compared, told]

/-- A node passes a test if its normal form does, and only an included second status
without an origin lets it pass otherwise. -/
theorem passes_iff_normalized {node : Node} {showExcluded : Bool} {search : String} :
    node.passes showExcluded search = true ↔
      node.normalized.passes showExcluded search = true ∨
        isSearching search = false ∧ node.origin = none ∧ node.second.status = some .included := by
  by_cases searching : isSearching search = true
  · have sameMatch : node.normalized.isMatch = node.isMatch := rfl
    simp only [Node.passes, searching, if_true, sameMatch, Bool.true_eq_false, false_and, or_false]
  · have notSearching : isSearching search = false := by simpa using searching
    have sameStatus : node.normalized.status = node.status := rfl
    simp only [Node.passes, notSearching, Bool.false_eq_true, if_false, isSelfVisible,
      Bool.or_eq_true, decide_eq_true_eq, sameStatus, status_second_normalized_iff, true_and]
    by_cases uncompared : node.origin = none
    · simp [uncompared]
    · simp [uncompared]

theorem passes_of_normalized {showExcluded : Bool} {search : String} (node : Node)
    (passes : node.normalized.passes showExcluded search = true) :
    node.passes showExcluded search = true :=
  passes_iff_normalized.2 (Or.inl passes)

end Node

namespace Index

theorem sameShape_normalized {α : Type} (index : Index) {own other : Node → α}
    (keeps : ∀ node : Node, own node.normalized = other node) :
    index.normalized.SameShape index own other Eq := by
  intro id
  rw [find?_normalized]
  cases index.find? id with
  | none => exact .none
  | some node => exact .some ⟨rfl, keeps node⟩

theorem stats_normalized (index : Index) : index.normalized.stats = index.stats := by
  rw [stats, stats, ids_normalized]
  exact foldFrom_congr (index.sameShape_normalized fun _ => rfl) index.ids

variable (index : Index) (showExcluded : Bool) (search : String)

theorem visibility_normalized :
    index.normalized.visibility showExcluded search =
      index.foldFrom (·.normalized.passes showExcluded search) (· || ·) false [index.rootId] :=
  foldFrom_congr (index.sameShape_normalized fun _ => rfl) [index.rootId]

variable {index showExcluded search}

theorem visible_of_visible_normalized {id : String}
    (visible : (index.normalized.visibility showExcluded search).lookup id = some true) :
    (index.visibility showExcluded search).lookup id = some true := by
  rw [visibility_normalized] at visible
  exact lookup_foldFrom_mono Node.passes_of_normalized visible

/-- The table of visibility is the same for an index and its normal form just if excluded
nodes are shown, or something is searched for, or every node with an included second status
and no origin that is looked at is visible in normal form as well. -/
theorem visibility_normalized_eq_iff :
    index.normalized.visibility showExcluded search = index.visibility showExcluded search ↔
      showExcluded = true ∨ isSearching search = true ∨
        ∀ id node, index.find? id = some node → node.origin = none →
          node.second.status = some .included →
            (index.normalized.visibility showExcluded search).lookup id ≠ some false := by
  have upheld := index.upholds_foldFrom (·.normalized.passes showExcluded search) [index.rootId]
  rw [← visibility_normalized] at upheld
  rw [eq_comm, visibility, visibility_normalized,
    foldFrom_eq_iff_upholds Node.passes_of_normalized, ← visibility_normalized]
  constructor
  · intro upholds
    by_cases searching : isSearching search = true
    · exact Or.inr (Or.inl searching)
    · refine Or.inr (Or.inr fun id node found uncompared told isHidden => ?_)
      have passes : node.passes showExcluded search = true :=
        Node.passes_iff_normalized.2 (Or.inr ⟨by simpa using searching, uncompared, told⟩)
      exact Bool.false_ne_true (upholds id node false isHidden found passes)
  · intro kept id node value complete found passes
    rcases Node.passes_iff_normalized.1 passes with normal | ⟨notSearching, uncompared, told⟩
    · exact upheld id node value complete found normal
    · rcases kept with shown | searching | visible
      · refine upheld id node value complete found ?_
        simp [Node.passes, notSearching, Node.isSelfVisible, shown]
      · exact absurd (notSearching.symm.trans searching) Bool.false_ne_true
      · exact Bool.eq_true_of_not_eq_false fun isHidden =>
          visible id node found uncompared told (isHidden ▸ complete)

end Index

namespace View

variable {view : View} {index : Index} {stats : Option StatsTable} {rows : List Row}

theorem ordered_normalized (view : View) (index : Index) (stats : Option StatsTable)
    (node : Node) :
    view.ordered index.normalized stats node.normalized =
      (view.ordered index stats node).map (·.map Node.normalized) := by
  have nodes : node.children.filterMap index.normalized.find? =
      (node.children.filterMap index.find?).map Node.normalized := by
    rw [List.map_filterMap]
    exact congrArg (fun find => node.children.filterMap find) (funext index.find?_normalized)
  have group (table : StatsTable) (test : Node → Bool)
      (keepsTest : ∀ node : Node, test node.normalized = test node) :
      orderGroup view.orderBy table view.metric
          ((node.children.filterMap index.normalized.find?).filter test) =
        (orderGroup view.orderBy table view.metric
          ((node.children.filterMap index.find?).filter test)).map (·.map Node.normalized) := by
    have sameTest : test ∘ Node.normalized = test := funext keepsTest
    rw [nodes, List.filter_map, sameTest]
    exact orderGroup_map fun _ _ => ⟨rfl, rfl⟩
  rw [ordered, ordered, Index.stats_normalized]
  exact orderChildren_eq_map (group _ _ fun _ => rfl) (group _ _ fun _ => rfl)

/-- The node that a row is of, and its depth. -/
def place (row : Row) : String × Nat :=
  (row.node.id, row.depth)

theorem rowIds_eq_map_place (rows : List Row) : rowIds rows = (rows.map place).map Prod.fst := by
  rw [List.map_map]
  rfl

/-- The rows of a view in the order of discovery, before and after an index is rebuilt, are
of the same nodes at the same depths just if every node with a row stays visible. -/
theorem exists_rows_normalized (scans : view.orderBy = .scan) :
    ∃ rows others, view.rows index stats = .ok rows ∧
      view.rows index.normalized stats = .ok others ∧
      (others.map place = rows.map place ↔
        ∀ row ∈ rows, (view.visibility index.normalized).lookup row.node.id = some true) := by
  obtain ⟨rows, shown⟩ : ∃ rows, view.rows index stats = .ok rows :=
    exists_rows_iff.2 (Or.inl scans)
  obtain ⟨others, othersShown⟩ : ∃ others, view.rows index.normalized stats = .ok others :=
    exists_rows_iff.2 (Or.inl scans)
  refine ⟨rows, others, shown, othersShown, ?_, ?_⟩
  · intro same row member
    apply visible_of_mem_rowIds othersShown
    rw [rowIds_eq_map_place, same, ← rowIds_eq_map_place]
    exact List.mem_map_of_mem member
  · intro stay
    have images : ∃ images, view.rows index.normalized stats = .ok images ∧
        images.map place = rows.map place := by
      have sameRoot : index.normalized.rootId = index.rootId := rfl
      refine exists_rows_of_images sameRoot index.find?_normalized (fun _ => rfl)
        (fun _ _ _ => rfl) (fun node _ => ordered_normalized view index stats node)
        (fun _ => Index.visible_of_visible_normalized) shown fun id member => ?_
      obtain ⟨row, inRows, rfl⟩ := List.mem_map.1 member
      exact stay row inRows
    obtain ⟨images, imagesShown, same⟩ := images
    obtain rfl := Except.ok.inj (imagesShown.symm.trans othersShown)
    exact same

end View

namespace Index

/-- The index of an accepted object and what is rebuilt from its own object have the same
visibility just if excluded nodes are shown, or something is searched for, or no node with an
included second status and no origin becomes hidden.  Their rows in the order of discovery
are of the same nodes at the same depths just if every node with a row stays visible, and so
they are if the visibility is the same. -/
theorem shown_alike_when_rebuilt {raw : Json} {index : Index}
    (accepted : ofJson raw = .ok index) :
    ∃ rebuilt, ofJson index.toJson = .ok rebuilt ∧
      (∀ showExcluded search,
        rebuilt.visibility showExcluded search = index.visibility showExcluded search ↔
          showExcluded = true ∨ isSearching search = true ∨
            ∀ id node, index.find? id = some node → node.origin = none →
              node.second.status = some .included →
                (rebuilt.visibility showExcluded search).lookup id ≠ some false) ∧
      ∀ (view : View) (stats : Option StatsTable), view.orderBy = .scan →
        ∃ rows others, view.rows index stats = .ok rows ∧ view.rows rebuilt stats = .ok others ∧
          (others.map View.place = rows.map View.place ↔
            ∀ row ∈ rows,
              (rebuilt.visibility view.showExcluded view.search).lookup row.node.id =
                some true) ∧
          (rebuilt.visibility view.showExcluded view.search =
              index.visibility view.showExcluded view.search →
            others.map View.place = rows.map View.place) := by
  refine ⟨index.normalized, rebuilds_of_ofJson accepted,
    fun _ _ => visibility_normalized_eq_iff, fun view stats scans => ?_⟩
  obtain ⟨rows, others, shown, othersShown, sameRows⟩ := View.exists_rows_normalized scans
  refine ⟨rows, others, shown, othersShown, sameRows, fun sameVisibility => ?_⟩
  refine sameRows.2 fun row member => ?_
  rw [View.visibility, sameVisibility]
  exact View.visible_of_mem_rowIds shown (List.mem_map_of_mem member)

/-- A node that is included in the second of two traces, and another one that only the
second one mentions, whose second status is missing. -/
theorem shown_alike_of_compared_nodes :
    let raw := Json.obj [("rootId", .str "."), ("compare", .bool true), ("nodes", .obj [
      (".", .obj [("kind", .str "dir"), ("children", .arr [.str "a", .str "b"])]),
      ("a", .obj [("meta", .obj [("status", .str "ignored"), ("statusB", .str "included"),
        ("origin", .str "both")])]),
      ("b", .obj [("meta", .obj [("status", .str "included"), ("origin", .str "b")])])])]
    let view : View := { showExcluded := false }
    ∃ index rebuilt, ofJson raw = .ok index ∧ ofJson index.toJson = .ok rebuilt ∧
      rebuilt ≠ index ∧ rebuilt.visibility false "" = index.visibility false "" ∧
      ∃ rows others, view.rows index none = .ok rows ∧ view.rows rebuilt none = .ok others ∧
        others.map View.place = rows.map View.place := by
  intro raw view
  let plain (id : String) : Node := { id, name := id, kind := .file }
  let index : Index :=
    { rootId := "."
      nodes := .ofList
        [{ plain "." with kind := .dir, children := ["a", "b"] },
          { plain "a" with
            decision := { status := .ignored }
            second := { status := some .included }
            origin := some .both },
          { plain "b" with
            decision := { status := .included }
            origin := some (.only .second) }]
      counts := {}
      compare := true }
  have accepted : ofJson raw = .ok index := rfl
  obtain ⟨rebuilt, rebuilds, visibility, rows⟩ := shown_alike_when_rebuilt accepted
  have changed : rebuilt ≠ index := by
    have normal := Except.ok.inj (rebuilds.symm.trans (rebuilds_of_ofJson accepted))
    intro same
    have sameStatus := congrArg (fun index => (index.find? "b").map (·.second.status))
      (normal.symm.trans same)
    exact absurd sameStatus (by decide +kernel)
  have compared : ∀ node ∈ index.nodes.entries, node.origin = none →
      node.second.status ≠ some .included := by decide +kernel
  have sameVisibility : rebuilt.visibility false "" = index.visibility false "" :=
    (visibility false "").2 (Or.inr (Or.inr fun id node found uncompared told =>
      absurd told (compared node (Table.mem_of_find? found) uncompared)))
  obtain ⟨rows, others, shown, othersShown, _, sameRows⟩ := rows view none rfl
  exact ⟨index, rebuilt, accepted, rebuilds, changed, sameVisibility, rows, others, shown,
    othersShown, sameRows sameVisibility⟩

/-- A root with one child, which is a leaf. -/
theorem visibility_of_only_child {index : Index} {root child : Node}
    (rootFound : index.root? = some root) (found : index.find? child.id = some child)
    (only : root.children = [child.id]) (leaf : child.children = [])
    (notRoot : child.id ≠ index.rootId) (showExcluded : Bool) (search : String) :
    index.visibility showExcluded search =
      [(child.id, child.passes showExcluded search),
        (index.rootId, root.passes showExcluded search || child.passes showExcluded search)] := by
  rw [visibility, foldFrom, foldChildren_of_new [] rfl rootFound List.not_mem_nil, foldChildren_nil,
    only, foldChildren_of_new [] rfl found (by simpa using notRoot), leaf, foldChildren_nil,
    foldChildren_nil]
  rfl

/-- A leaf that is ignored, and included by a second status without an origin, is visible
until its index is rebuilt. -/
theorem hidden_when_rebuilt :
    let raw := Json.obj [("rootId", .str "."), ("nodes", .obj [
      (".", .obj [("kind", .str "dir"), ("children", .arr [.str "a"])]),
      ("a", .obj [("meta", .obj [("status", .str "ignored"), ("statusB", .str "included")])])])]
    let view : View := { showExcluded := false }
    ∃ index rebuilt, ofJson raw = .ok index ∧ ofJson index.toJson = .ok rebuilt ∧
      index.visibility false "" = [("a", true), (".", true)] ∧
      rebuilt.visibility false "" = [("a", false), (".", false)] ∧
      ∃ rows, view.rows index none = .ok rows ∧ rows.map View.place = [("a", 0)] ∧
        view.rows rebuilt none = .ok [] := by
  intro raw view
  let root : Node := { id := ".", name := ".", kind := .dir, children := ["a"] }
  let leaf (second : SecondDecision) : Node :=
    { id := "a", name := "a", kind := .file, decision := { status := .ignored }, second }
  let index (second : SecondDecision) : Index :=
    { rootId := ".", nodes := .ofList [root, leaf second], counts := {} }
  have rootFound (second : SecondDecision) : (index second).root? = some root := rfl
  have leafFound (second : SecondDecision) : (index second).find? (leaf second).id =
      some (leaf second) := rfl
  have notRoot : "a" ≠ "." := by decide
  have visibility (second : SecondDecision) :=
    visibility_of_only_child (rootFound second) (leafFound second) rfl rfl notRoot false ""
  have seen : (index { status := some .included }).visibility false "" =
      [("a", true), (".", true)] := visibility _
  have unseen : (index {}).visibility false "" = [("a", false), (".", false)] := visibility _
  have orders (second : SecondDecision) :
      view.ordered (index second) none root = .ok [leaf second] := rfl
  refine ⟨index { status := some .included }, index {}, rfl, rfl, seen, unseen,
    [view.row (leaf { status := some .included }) 0], ?_, rfl, ?_⟩
  · rw [View.rows_of_ordered (rootFound _) (orders _), View.rowsFrom_eq_ok_iff, View.visibility,
      seen]
    exact .shown ⟨rfl, by decide⟩ rfl .nil
  · rw [View.rows_of_ordered (rootFound _) (orders _), View.rowsFrom_eq_ok_iff, View.visibility,
      unseen]
    exact .hidden (fun shows => absurd shows.1 (by decide)) .nil

end Index

end ScanTree

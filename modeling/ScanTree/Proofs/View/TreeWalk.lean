import ScanTree.Proofs.Index.Comparison
import ScanTree.Proofs.View.Revelation

/-!
# The rows of a tree

In a tree no path that is still to be shown has a row below it, so nothing is
passed over but what is hidden.  The rows are therefore those of the walk that
shows every node that leads to one that passes the test, and the rows below it
before its next sibling.  The depth of a row is the number of ancestors below
the root.
-/

namespace ScanTree

namespace View

section Definition

variable (view : View) (shows : Node → Prop) (ordered : Node → Except ViewError (List Node))

/-- The rows of a walk through nodes with depths: for each node that is shown its
row, then the rows of the children that are shown below it, and then the rows of
the nodes after it. -/
inductive Walk : List (Node × Nat) → List Row → Prop
  | nil : Walk [] []
  | shown {node : Node} {depth : Nat} {rest : List (Node × Nat)} {children : List Node}
      {inner outer : List Row} (isShown : shows node)
      (opens : view.opened ordered node = .ok children)
      (below : Walk (atDepth children (depth + 1)) inner) (after : Walk rest outer) :
      Walk ((node, depth) :: rest) (view.row node depth :: inner ++ outer)
  | hidden {node : Node} {depth : Nat} {rest : List (Node × Nat)} {rows : List Row}
      (isHidden : ¬ shows node) (after : Walk rest rows) : Walk ((node, depth) :: rest) rows

/-- A path or one below it passes the test of a view. -/
def PassesBelow (index : Index) (id : String) : Prop :=
  ∃ other node, index.find? other = some node ∧ id ∈ Path.lineage other ∧
    node.passes view.showExcluded view.search = true

end Definition

variable {view : View} {shows : Node → Prop} {ordered : Node → Except ViewError (List Node)}
  {visible : VisibilityTable} {index : Index} {emitted : List String} {rows : List Row}

/-- The walk through two lists is that through the first one and then through the
second one. -/
theorem Walk.exists_append {first second : List (Node × Nat)}
    (walk : view.Walk shows ordered (first ++ second) rows) :
    ∃ before after, rows = before ++ after ∧ view.Walk shows ordered first before ∧
      view.Walk shows ordered second after := by
  induction first generalizing rows with
  | nil => exact ⟨[], rows, rfl, .nil, walk⟩
  | cons entry first ih =>
      cases walk with
      | shown isShown opens below others =>
          obtain ⟨before, after, rfl, firstWalk, secondWalk⟩ := ih others
          refine ⟨_, after, ?_, .shown isShown opens below firstWalk, secondWalk⟩
          rw [List.append_assoc]
      | hidden isHidden others =>
          obtain ⟨before, after, rfl, firstWalk, secondWalk⟩ := ih others
          exact ⟨before, after, rfl, .hidden isHidden firstWalk, secondWalk⟩

/-- Nodes are apart from those with rows and from each other: none of them is on
the lineage of another one. -/
structure Apart (emitted : List String) (stack : List (Node × Nat)) : Prop where
  fresh : ∀ entry ∈ stack, ∀ id ∈ emitted, entry.1.id ∉ Path.lineage id
  apart : stack.Pairwise fun first second =>
    first.1.id ∉ Path.lineage second.1.id ∧ second.1.id ∉ Path.lineage first.1.id

namespace Apart

variable {node : Node} {depth : Nat} {rest : List (Node × Nat)}

theorem tail (apart : Apart emitted ((node, depth) :: rest)) : Apart emitted rest where
  fresh := (List.forall_mem_cons.1 apart.fresh).2
  apart := (List.pairwise_cons.1 apart.apart).2

theorem notMem_emitted (apart : Apart emitted ((node, depth) :: rest)) : node.id ∉ emitted :=
  fun member => apart.fresh (node, depth) List.mem_cons_self node.id member
    (Path.self_mem_lineage node.id)

theorem siblings {children : List Node} {parent : String} (level : Nat)
    (areChildren : ∀ child ∈ children, Path.parent? child.id = some parent)
    (distinct : (children.map (·.id)).Nodup) :
    (atDepth children level).Pairwise fun first second =>
      first.1.id ∉ Path.lineage second.1.id ∧ second.1.id ∉ Path.lineage first.1.id := by
  rw [atDepth, List.pairwise_map]
  refine (List.pairwise_map.1 distinct).imp_of_mem fun inFirst inSecond different => ?_
  have firstParent := areChildren _ inFirst
  have secondParent := areChildren _ inSecond
  constructor
  · exact fun above =>
      different (Path.eq_of_mem_lineage_of_parent?_eq secondParent firstParent above)
  · exact fun above =>
      different (Path.eq_of_mem_lineage_of_parent?_eq firstParent secondParent above).symm

/-- The children of the node that gets the next row take its place. -/
theorem descend (apart : Apart emitted ((node, depth) :: rest)) {children : List Node}
    (areChildren : ∀ child ∈ children, Path.parent? child.id = some node.id)
    (distinct : (children.map (·.id)).Nodup) :
    Apart (node.id :: emitted) (atDepth children (depth + 1) ++ rest) := by
  obtain ⟨apartFromRest, apartRest⟩ := List.pairwise_cons.1 apart.apart
  -- Whatever has a child of the node on its lineage has the node on it.
  have climb {child : Node} {id : String} (isChild : child ∈ children)
      (above : child.id ∈ Path.lineage id) : node.id ∈ Path.lineage id :=
    Path.parent_mem_lineage above (areChildren child isChild)
  constructor
  · intro entry member id known
    rcases List.mem_append.1 member with inChildren | inRest
    · have isChild := (mem_atDepth_iff.1 inChildren).1
      rcases List.mem_cons.1 known with rfl | earlier
      · exact Path.self_notMem_lineage_parent (areChildren entry.1 isChild)
      · exact fun above =>
          apart.fresh (node, depth) List.mem_cons_self id earlier (climb isChild above)
    · rcases List.mem_cons.1 known with rfl | earlier
      · exact (apartFromRest entry inRest).2
      · exact apart.tail.fresh entry inRest id earlier
  · refine List.pairwise_append.2 ⟨siblings _ areChildren distinct, apartRest, ?_⟩
    intro child inChildren other inRest
    have isChild := (mem_atDepth_iff.1 inChildren).1
    obtain ⟨notBelow, notAbove⟩ := apartFromRest other inRest
    refine ⟨fun above => notBelow (climb isChild above), fun above => ?_⟩
    rw [Path.lineage_eq_cons (areChildren child.1 isChild)] at above
    rcases List.mem_cons.1 above with same | further
    · exact notBelow (climb isChild (same ▸ Path.self_mem_lineage _))
    · exact notAbove further

end Apart

theorem map_id_filterMap_find? (index : Index) (children : List String) :
    (children.filterMap index.find?).map (·.id) = children.filter (· ∈ index.ids) := by
  induction children with
  | nil => rfl
  | cons child rest ih =>
      cases found : index.find? child with
      | none =>
          have unknown : child ∉ index.ids := Table.find?_eq_none_iff.1 found
          rw [List.filterMap_cons_none found, List.filter_cons_of_neg (by simpa using unknown), ih]
      | some node =>
          have known := Index.mem_ids_of_find? found
          rw [List.filterMap_cons_some found, List.filter_cons_of_pos (by simpa using known),
            List.map_cons, ih, Index.id_of_find? found]

section Tree

variable {node : Node} {children : List Node}

theorem Lists.nodup_ids (lists : Lists index ordered) (distinct : node.children.Nodup)
    (orders : ordered node = .ok children) : (children.map (·.id)).Nodup := by
  have same := (lists orders).map (·.id)
  rw [map_id_filterMap_find?] at same
  exact same.nodup_iff.2 (distinct.filter _)

/-- The children that are shown below a node of a tree. -/
theorem Lists.children_of_opened (lists : Lists index ordered) (tree : index.IsTree)
    (found : index.find? node.id = some node) (opens : view.opened ordered node = .ok children) :
    (∀ child ∈ children, Path.parent? child.id = some node.id) ∧
      (children.map (·.id)).Nodup := by
  constructor
  · intro child isChild
    obtain ⟨member, _, _⟩ := lists.of_opened opens isChild
    exact ((tree.mem_children_iff found).1 member).2
  · unfold opened at opens
    split at opens
    · exact lists.nodup_ids (tree.nodup_children found) opens
    · obtain rfl := Except.ok.inj opens
      exact List.nodup_nil

/-- In a tree the rows come from the walk. -/
theorem Unrolls.walk {stack : List (Node × Nat)} (tree : index.IsTree)
    (lists : Lists index ordered)
    (seen : ∀ node, index.find? node.id = some node →
      (visible.lookup node.id = some true ↔ shows node))
    (unrolls : view.Unrolls visible ordered emitted stack rows) (apart : Apart emitted stack)
    (known : Known index stack) : view.Walk shows ordered stack rows := by
  induction unrolls with
  | nil => exact .nil
  | @shown emitted node depth rest children rows nodeShows opens _ ih =>
      obtain ⟨areChildren, distinct⟩ := lists.children_of_opened tree known.head opens
      have walkFurther := ih (apart.descend areChildren distinct) (known.descend lists opens)
      obtain ⟨inner, outer, rfl, below, after⟩ := walkFurther.exists_append
      exact .shown ((seen node known.head).1 nodeShows.1) opens below after
  | @hidden emitted node depth rest rows hides _ ih =>
      have isHidden : ¬ shows node := fun isShown =>
        hides ⟨(seen node known.head).2 isShown, apart.notMem_emitted⟩
      exact .hidden isHidden (ih apart.tail known.tail)

/-- In a tree a path is visible if it or one below it passes the test. -/
theorem visible_iff_passesBelow (tree : index.IsTree) {id : String} (known : id ∈ index.ids) :
    (view.visibility index).lookup id = some true ↔ view.PassesBelow index id := by
  obtain ⟨root, rootFound⟩ := tree.exists_root
  rw [Index.visible_iff tree.acyclic rootFound (tree.root_leads known)]
  constructor
  · rintro ⟨other, node, further, found, passes⟩
    exact ⟨other, node, found, (tree.leads_iff (Index.mem_ids_of_find? found)).1 further, passes⟩
  · rintro ⟨other, node, found, onLineage, passes⟩
    exact ⟨other, node, (tree.leads_iff (Index.mem_ids_of_find? found)).2 onLineage, found,
      passes⟩

theorem PassesBelow.of_mem_lineage {id above : String} (passes : view.PassesBelow index id)
    (member : above ∈ Path.lineage id) : view.PassesBelow index above := by
  obtain ⟨other, node, found, onLineage, nodePasses⟩ := passes
  exact ⟨other, node, found, (Path.lineage_suffix_of_mem onLineage).subset member, nodePasses⟩

theorem reveals_iff (tree : index.IsTree) {parent id : String} :
    view.Reveals index parent id ↔ id ∈ index.ids ∧ Path.parent? id = some parent ∧
      view.PassesBelow index id := by
  constructor
  · rintro ⟨link, isVisible, _⟩
    obtain ⟨known, found⟩ := tree.nodeLink_iff.1 link
    exact ⟨known, found, (visible_iff_passesBelow tree known).1 isVisible⟩
  · rintro ⟨known, found, passes⟩
    refine ⟨tree.nodeLink_iff.2 ⟨known, found⟩, (visible_iff_passesBelow tree known).2 passes, ?_⟩
    rw [List.mem_singleton, tree.rootId_eq]
    exact Path.ne_root_of_parent? found

/-- In a tree a path is revealed if it or one below it passes the test and every
ancestor below the root is open. -/
theorem revealed_iff (tree : index.IsTree) {id : String} :
    view.Revealed index id ↔ id ∈ index.ids ∧ id ≠ Path.root ∧ view.PassesBelow index id ∧
      ∀ above ∈ Path.ancestors id, above ≠ Path.root →
        above ∈ view.expanded ∨ isSearching view.search = true := by
  constructor
  · intro revealed
    induction revealed with
    | @top id link =>
        obtain ⟨known, found, passes⟩ := (reveals_iff tree).1 link
        rw [tree.rootId_eq] at found
        refine ⟨known, Path.ne_root_of_parent? found, passes, fun above member => ?_⟩
        rw [Path.ancestors_eq_lineage found, Path.lineage_root, List.mem_singleton] at member
        exact fun notRoot => absurd member notRoot
    | @under parent id _ opens link ih =>
        obtain ⟨known, found, passes⟩ := (reveals_iff tree).1 link
        refine ⟨known, Path.ne_root_of_parent? found, passes, fun above member => ?_⟩
        rw [Path.ancestors_eq_lineage found, Path.lineage] at member
        rcases List.mem_cons.1 member with rfl | further
        · exact fun _ => opens
        · exact ih.2.2.2 above further
  · rintro ⟨known, notRoot, passes, opened⟩
    induction id using Path.climb with
    | atRoot => exact absurd rfl notRoot
    | below id parent found ih =>
        have link : view.Reveals index parent id := (reveals_iff tree).2 ⟨known, found, passes⟩
        rw [Path.ancestors_eq_lineage found] at opened
        by_cases top : parent = Path.root
        · rw [top, ← tree.rootId_eq] at link
          exact .top link
        · have parentPasses : view.PassesBelow index parent := passes.of_mem_lineage
            (Path.lineage_eq_cons found ▸ List.mem_cons_of_mem id (Path.self_mem_lineage parent))
          have parentRevealed := ih (tree.parent_mem known found) top parentPasses
            fun above member => opened above (List.mem_cons_of_mem parent member)
          exact .under parentRevealed (opened parent List.mem_cons_self top) link

/-- The number of ancestors of a path below the root. -/
def depthOf (id : String) : Nat :=
  (Path.ancestors id).countP (· ≠ Path.root)

theorem depthOf_of_parent_root {id : String} (found : Path.parent? id = some Path.root) :
    depthOf id = 0 := by
  simp [depthOf, Path.ancestors_eq_lineage found]

theorem depthOf_of_parent {id parent : String} (found : Path.parent? id = some parent)
    (notRoot : parent ≠ Path.root) : depthOf id = depthOf parent + 1 := by
  rw [depthOf, Path.ancestors_eq_lineage found, Path.lineage,
    List.countP_cons_of_pos (by simpa using notRoot), depthOf]

/-- The rows of a tree come from the walk through the ordered children of its
root. -/
theorem exists_walk (tree : index.IsTree) {stats : Option StatsTable}
    (shown : view.rows index stats = .ok rows) :
    ∃ root children, index.find? Path.root = some root ∧
      view.ordered index stats root = .ok children ∧
      view.Unrolls (view.visibility index) (view.ordered index stats) [Path.root]
        (atDepth children 0) rows ∧
      view.Walk (fun node => view.PassesBelow index node.id) (view.ordered index stats)
        (atDepth children 0) rows := by
  rcases rows_cases shown with ⟨missing, _⟩ | ⟨root, children, found, orders, unrolls⟩
  · obtain ⟨root, found⟩ := tree.exists_root
    exact absurd (found.symm.trans missing) (Option.some_ne_none root)
  · rw [Index.root?, tree.rootId_eq] at found
    rw [tree.rootId_eq] at unrolls
    have areChildren : ∀ child ∈ children, Path.parent? child.id = some Path.root :=
      fun child isChild =>
        ((tree.mem_children_iff found).1 ((lists_ordered.mem_iff orders).1 isChild).1).2
    have apart : Apart [Path.root] (atDepth children 0) := by
      refine ⟨fun entry member id isRoot => ?_, Apart.siblings 0 areChildren
        (lists_ordered.nodup_ids (tree.nodup_children found) orders)⟩
      have parent := areChildren entry.1 (mem_atDepth_iff.1 member).1
      rw [List.mem_singleton.1 isRoot]
      exact Path.self_notMem_lineage_parent parent
    have seen (node : Node) (nodeFound : index.find? node.id = some node) :
        (view.visibility index).lookup node.id = some true ↔ view.PassesBelow index node.id :=
      visible_iff_passesBelow tree (Index.mem_ids_of_find? nodeFound)
    exact ⟨root, children, found, orders, unrolls,
      unrolls.walk tree lists_ordered seen apart (known_of_ordered orders 0)⟩

/-- Every row is the row of a node of the tree, at the depth of its path. -/
theorem row_eq (tree : index.IsTree) {stats : Option StatsTable}
    (shown : view.rows index stats = .ok rows) :
    ∀ row ∈ rows, index.find? row.node.id = some row.node ∧
      row = view.row row.node (depthOf row.node.id) := by
  obtain ⟨root, children, found, orders, unrolls, _⟩ := exists_walk tree shown
  -- The depth of a node in the list is that of its path, and so is its child's.
  have start : ∀ entry ∈ atDepth children 0,
      index.find? entry.1.id = some entry.1 ∧ entry.2 = depthOf entry.1.id := by
    intro entry member
    obtain ⟨isChild, isTop⟩ := mem_atDepth_iff.1 member
    obtain ⟨inChildren, childFound⟩ := (lists_ordered.mem_iff orders).1 isChild
    have parent := ((tree.mem_children_iff found).1 inChildren).2
    exact ⟨childFound, by rw [isTop, depthOf_of_parent_root parent]⟩
  have invariant := unrolls.forall_rows (motive := fun node depth =>
    index.find? node.id = some node ∧ depth = depthOf node.id) start
  intro row member
  obtain ⟨node, depth, rfl, ⟨nodeFound, rfl⟩, _⟩ := invariant
    (fun {node depth below} holds shows opens child isChild => by
      obtain ⟨inChildren, childFound, _⟩ := lists_ordered.of_opened opens isChild
      have parent := ((tree.mem_children_iff holds.1).1 inChildren).2
      have notRoot : node.id ≠ Path.root := fun isRoot => shows.2 (by simp [isRoot])
      exact ⟨childFound, by rw [holds.2, depthOf_of_parent parent notRoot]⟩) row member
  exact ⟨nodeFound, rfl⟩

end Tree

/-- The rows of the index of a trace, or of a comparison of such indices, are
those of the walk through the tree: it shows each path that passes the test or
has one below it that does, followed by what is shown below it, and orders
siblings as the view says.  So a path has a row if it is not the root, one of
the paths from it downwards passes, and all of its ancestors below the root are
open; no path has two; and a row holds the node of its path, the number of its
ancestors below the root, and what the view says of it.  Downwards is where the
links lead. -/
theorem rows_walk_tree {index : Index} (traced : index.FromTraces) {view : View}
    {stats : Option StatsTable} {rows : List Row} (shown : view.rows index stats = .ok rows) :
    (∃ root children, index.find? Path.root = some root ∧
      view.ordered index stats root = .ok children ∧
      view.Walk (fun node => view.PassesBelow index node.id) (view.ordered index stats)
        (atDepth children 0) rows) ∧
    (∀ id, id ∈ rowIds rows ↔ id ∈ index.ids ∧ id ≠ Path.root ∧ view.PassesBelow index id ∧
      ∀ above ∈ Path.ancestors id, above ≠ Path.root →
        above ∈ view.expanded ∨ isSearching view.search = true) ∧
    (rowIds rows).Nodup ∧
    (∀ row ∈ rows, index.find? row.node.id = some row.node ∧
      row.depth = (Path.ancestors row.node.id).countP (· ≠ Path.root) ∧
      row.hasChildren = !row.node.children.isEmpty ∧
      row.isExpanded = decide (row.node.id ∈ view.expanded) ∧
      row.dimmed = (view.showExcluded &&
        (row.node.status = .ignored || row.node.status = .skipped))) ∧
    ∀ id other, other ∈ index.ids →
      (id ∈ Path.lineage other ↔ Relation.ReflTransGen index.NodeLink id other) := by
  have tree := traced.isTree
  obtain ⟨root, children, found, orders, _, walk⟩ := exists_walk tree shown
  refine ⟨⟨root, children, found, orders, walk⟩, fun id => ?_, nodup_rowIds shown,
    fun row member => ?_, fun id other known => (tree.leads_iff known).symm⟩
  · rw [mem_rowIds_iff shown, revealed_iff tree]
  · obtain ⟨rowFound, isRow⟩ := row_eq tree shown row member
    refine ⟨rowFound, ?_, ?_, ?_, ?_⟩
    · exact congrArg Row.depth isRow
    · exact congrArg Row.hasChildren isRow
    · rw [isRow]
      exact List.contains_eq_mem _ _
    · rw [isRow]
      rfl

/-- Of two compared traces, the first of which includes one path of a directory
and ignores another one, only what is included is shown, below the directories
that lead to it and are expanded. -/
theorem rows_of_comparison :
    let first := Index.ofEvents
      [{ tag := some "include", path := some "src/a" },
        { tag := some "ignore", path := some "src/b" }]
    let second := Index.ofEvents [{ tag := some "include", path := some "lib/c" }]
    let view : View := { expanded := ["src"], showExcluded := false }
    ∃ index rows, first.merge second = .ok index ∧ view.rows index none = .ok rows ∧
      rows.map (fun row => (row.node.id, row.depth)) = [("src", 0), ("src/a", 1), ("lib", 0)] ∧
      index.FromTraces ∧ (rowIds rows).Nodup ∧ ¬ view.PassesBelow index "src/b" := by
  intro first second view
  let index : Index :=
    ⟨first.rootId, Index.mergedNodes first second, first.counts + second.counts, true⟩
  have sameRoot : first.rootId = second.rootId :=
    (Index.isTree_ofEvents _).rootId_eq.trans (Index.isTree_ofEvents _).rootId_eq.symm
  have merges : first.merge second = .ok index := Index.merge_eq_ok_iff.2 ⟨sameRoot, rfl⟩
  have traced : index.FromTraces := .merge (.ofEvents _) (.ofEvents _) merges
  have tree := traced.isTree
  let root : Node :=
    { id := ".", name := ".", kind := .dir, children := ["src", "lib"]
      second := { status := some .unknown }, origin := some .both }
  let source : Node :=
    { id := "src", name := "src", kind := .dir, children := ["src/a", "src/b"]
      second := { status := some .unknown }, origin := some (.only .first) }
  let included : Node :=
    { id := "src/a", name := "a", kind := .file, decision := ⟨.included, none, none⟩
      lastEvent := some "include", second := { status := some .unknown }
      origin := some (.only .first) }
  let ignored : Node :=
    { id := "src/b", name := "b", kind := .file, decision := ⟨.ignored, none, none⟩
      lastEvent := some "ignore", second := { status := some .unknown }
      origin := some (.only .first) }
  let library : Node :=
    { id := "lib", name := "lib", kind := .dir, children := ["lib/c"]
      second := { status := some .unknown }, origin := some (.only .second) }
  have foundRoot : index.root? = some root := by decide +kernel
  have foundSource : index.find? "src" = some source := by decide +kernel
  have foundIncluded : index.find? "src/a" = some included := by decide +kernel
  have foundIgnored : index.find? "src/b" = some ignored := by decide +kernel
  have foundLibrary : index.find? "lib" = some library := by decide +kernel
  have seen {id other : String} {node : Node} (found : index.find? other = some node)
      (known : id ∈ index.ids) (above : id ∈ Path.lineage other)
      (passes : node.passes false "" = true) : (view.visibility index).lookup id = some true :=
    (visible_iff_passesBelow tree known).2 ⟨other, node, found, above, passes⟩
  have seenSource : (view.visibility index).lookup "src" = some true :=
    seen foundIncluded (by decide +kernel)
      (Path.mem_lineage_iff.2 (Or.inr ⟨"src", by decide, Path.self_mem_lineage _⟩)) (by decide)
  have seenIncluded : (view.visibility index).lookup "src/a" = some true :=
    seen foundIncluded (by decide +kernel) (Path.self_mem_lineage _) (by decide)
  have seenLibrary : (view.visibility index).lookup "lib" = some true := by
    have foundBelow : ∃ node, index.find? "lib/c" = some node ∧ node.passes false "" = true :=
      ⟨{ library with
          id := "lib/c", name := "c", kind := .file, decision := ⟨.included, none, none⟩
          lastEvent := some "include", children := [] }, by decide +kernel, by decide⟩
    obtain ⟨node, found, passes⟩ := foundBelow
    exact seen found (by decide +kernel)
      (Path.mem_lineage_iff.2 (Or.inr ⟨"lib", by decide, Path.self_mem_lineage _⟩)) passes
  have unseenIgnored : ¬ view.PassesBelow index "src/b" := by
    rintro ⟨other, node, found, above, passes⟩
    have leads := (tree.leads_iff (Index.mem_ids_of_find? found)).2 above
    rcases leads.cases_head with rfl | ⟨child, link, _⟩
    · obtain rfl := Option.some.inj (foundIgnored.symm.trans found)
      exact absurd passes (by decide)
    · exact absurd (Index.mem_children_of_nodeLink link foundIgnored) List.not_mem_nil
  have orders : view.ordered index none root = .ok [source, library] := by decide +kernel
  have opensSource : view.opened (view.ordered index none) source = .ok [included, ignored] := by
    decide +kernel
  have opensIncluded : view.opened (view.ordered index none) included = .ok [] := rfl
  have opensLibrary : view.opened (view.ordered index none) library = .ok [] := rfl
  have unrolls : view.Unrolls (view.visibility index) (view.ordered index none) ["."]
      [(source, 0), (library, 0)]
      [view.row source 0, view.row included 1, view.row library 0] := by
    refine .shown ⟨seenSource, by decide⟩ opensSource ?_
    refine .shown ⟨seenIncluded, by decide⟩ opensIncluded ?_
    refine .hidden (fun shows => unseenIgnored
      ((visible_iff_passesBelow tree (by decide +kernel)).1 shows.1)) ?_
    exact .shown ⟨seenLibrary, by decide⟩ opensLibrary .nil
  have shown : view.rows index none =
      .ok [view.row source 0, view.row included 1, view.row library 0] := by
    rw [rows_of_ordered foundRoot orders]
    exact rowsFrom_eq_ok_iff.2 unrolls
  obtain ⟨_, _, distinct, _⟩ := rows_walk_tree traced shown
  exact ⟨index, _, merges, shown, by decide, traced, distinct, unseenIgnored⟩

end View

end ScanTree

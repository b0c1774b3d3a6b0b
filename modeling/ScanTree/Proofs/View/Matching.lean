import ScanTree.Proofs.Display.Highlighting
import ScanTree.Proofs.Path.Segment
import ScanTree.Proofs.View.Loops
import ScanTree.Proofs.View.Refusal
import ScanTree.Proofs.View.TreeWalk

/-!
# Matches of a search

A search looks at whole paths, and a row marks what it finds in the name of its
path.  A path begins with its ancestors and ends with its name, and folding a
text folds its parts.  So whatever matches has only matches below it, all of
which are shown, and nothing is marked in the name of a path that does not match.
-/

namespace ScanTree

theorem isSearching_iff {search : String} :
    isSearching search = true ↔ Text.strip search ≠ "" := by
  rw [isSearching, Bool.not_eq_true', List.isEmpty_eq_false_iff, Text.strip, ne_eq, ne_eq,
    String.ofList_eq_empty_iff]

theorem Text.isInfix_foldChars {part text : List Char} (inside : part <:+: text) :
    foldChars part <:+: foldChars text :=
  inside.flatMap foldChar

namespace Node

variable {node other : Node} {query : List Char}

theorem isMatch_iff :
    node.isMatch query = true ↔ query <:+: Text.foldChars node.id.toList :=
  Text.occurs_iff_isInfix

/-- Whatever is below a match matches. -/
theorem isMatch_of_mem_lineage (isMatch : node.isMatch query = true)
    (above : node.id ∈ Path.lineage other.id) (notRoot : node.id ≠ Path.root) :
    other.isMatch query = true := by
  rw [isMatch_iff] at isMatch ⊢
  have begins := Path.isPrefix_of_mem_lineage above notRoot
  exact isMatch.trans (Text.isInfix_foldChars begins.isInfix)

/-- What is found in the name of a path is found in the path. -/
theorem isMatch_of_name (named : node.name = Path.name node.id)
    (inName : query <:+: Text.foldChars node.name.toList) : node.isMatch query = true := by
  rw [isMatch_iff]
  rw [named] at inName
  exact inName.trans (Text.isInfix_foldChars (Path.name_isSuffix node.id).isInfix)

end Node

namespace Theme

/-- A styled theme changes just the texts in which it finds what is searched for. -/
theorem highlightIn_ne_self_iff {theme : Theme} (styled : theme.highlight ≠ "")
    {text search restore : String} (notBlank : Text.strip search ≠ "") :
    theme.highlightIn text search restore ≠ text ↔
      foldedQuery search <:+: Text.foldChars text.toList := by
  constructor
  · intro marked
    by_contra absent
    exact marked (highlightIn_of_absent absent theme restore)
  · intro occurs same
    have nonempty : foldedQuery search ≠ [] := mt foldedQuery_eq_nil_iff.1 notBlank
    obtain ⟨start, found⟩ := Option.ne_none_iff_exists'.1
      (mt Text.occurrence?_eq_none_iff.1 (not_not_intro occurs))
    obtain ⟨first, final, bounds, _, _, _, ordered, _⟩ :=
      exists_occurrenceBounds nonempty found
    rw [highlightIn_of_bounds styled notBlank bounds] at same
    -- The parts of the text are all kept, so the escape sequence makes it longer.
    have sameLength := congrArg (fun text : String => text.toList.length) same
    have positive : 0 < theme.highlight.toList.length :=
      List.length_pos_iff.2 fun empty => styled (String.toList_eq_nil_iff.1 empty)
    simp only [String.toList_append, String.toList_ofList, List.length_append, List.length_take,
      List.length_drop] at sameLength
    omega

end Theme

namespace Index

/-- What the children of a node and theirs lead to has the node on its lineage. -/
theorem IsTree.mem_lineage_of_leads {index : Index} (tree : index.IsTree) {id other : String}
    (known : id ∈ index.ids) (leads : Relation.ReflTransGen index.ChildLink id other) :
    other ∈ index.ids ∧ id ∈ Path.lineage other := by
  induction leads with
  | refl => exact ⟨known, Path.self_mem_lineage id⟩
  | @tail parent child _ link ih =>
      obtain ⟨node, found, member⟩ := link
      obtain ⟨childKnown, isChild⟩ := (tree.mem_children_iff found).1 member
      refine ⟨childKnown, ?_⟩
      rw [Path.lineage_eq_cons isChild]
      exact List.mem_cons_of_mem child ih.2

end Index

namespace View

variable {view : View} {index : Index}

/-- While something is searched for, every match in a tree but the root has one row,
and that row holds it. -/
theorem count_row_of_match (tree : index.IsTree) {stats : Option StatsTable} {rows : List Row}
    (shown : view.rows index stats = .ok rows) (searching : isSearching view.search = true)
    {node : Node} (found : index.find? node.id = some node) (notRoot : node.id ≠ Path.root)
    (isMatch : node.isMatch (searchQuery view.search) = true) :
    (rowIds rows).count node.id = 1 ∧ ∀ row ∈ rows, row.node.id = node.id → row.node = node := by
  constructor
  · rw [← tree.rootId_eq] at notRoot
    exact count_match_eq_one shown searching found notRoot
      (tree.root_leads (Index.mem_ids_of_find? found)) isMatch
  · intro row member same
    have rowFound := (row_eq tree shown row member).1
    rw [same, found] at rowFound
    exact (Option.some.inj rowFound).symm

/-- In the index of a trace, or in comparisons of such indices, everything below a match
of a search matches too, and the match and everything below it has one row, whatever is
expanded, whether excluded paths are shown, and in every ordering.  Where a theme marks
something in the name of a path, the path matches. -/
theorem rows_below_match (traced : index.FromTraces) {search : String}
    (notBlank : Text.strip search ≠ "") {id : String} {node : Node}
    (found : index.find? id = some node) (notRoot : id ≠ Path.root) :
    (node.isMatch (searchQuery search) = true →
      ∀ other, Relation.ReflTransGen index.ChildLink id other →
        ∃ below, index.find? other = some below ∧
          below.isMatch (searchQuery search) = true ∧
          ∀ (view : View) (stats : Option StatsTable) (rows : List Row), view.search = search →
            view.rows index stats = .ok rows →
              (rowIds rows).count other = 1 ∧
                ∀ row ∈ rows, row.node.id = other → row.node = below) ∧
    ∀ (theme : Theme) (restore : String), theme.highlight ≠ "" →
      theme.highlightIn node.name search restore ≠ node.name →
        node.isMatch (searchQuery search) = true := by
  have tree := traced.isTree
  obtain rfl := Index.id_of_find? found
  constructor
  · intro isMatch other leads
    obtain ⟨known, above⟩ := tree.mem_lineage_of_leads (Index.mem_ids_of_find? found) leads
    obtain ⟨below, belowFound⟩ := Index.exists_node_of_mem_ids known
    obtain rfl := Index.id_of_find? belowFound
    have belowMatches := Node.isMatch_of_mem_lineage isMatch above notRoot
    have belowNotRoot : below.id ≠ Path.root := by
      intro isRoot
      rw [isRoot, Path.lineage_root, List.mem_singleton] at above
      exact notRoot above
    refine ⟨below, belowFound, belowMatches, ?_⟩
    rintro view stats rows rfl shown
    exact count_row_of_match tree shown (isSearching_iff.2 notBlank) belowFound belowNotRoot
      belowMatches
  · intro theme restore styled marked
    have inName := (Theme.highlightIn_ne_self_iff styled notBlank).1 marked
    exact Node.isMatch_of_name (tree.name_eq found) inName

/-- A search for a directory in the comparison of two traces shows what only the second
one skipped below it, although neither includes that and excluded paths are hidden. -/
theorem rows_below_matching_directory :
    let first := Index.ofEvents
      [{ tag := some "include", path := some "Src/LIB/a.py" },
        { tag := some "ignore", path := some "Src/b" }]
    let second := Index.ofEvents [{ tag := some "skip", path := some "Src/LIB/old" }]
    let view : View := { showExcluded := false, search := " lib ", orderBy := .alpha }
    ∃ index rows, first.merge second = .ok index ∧ index.FromTraces ∧
      Text.strip " lib " ≠ "" ∧ view.rows index none = .ok rows ∧
      (∃ node, index.find? "Src/LIB" = some node ∧
        Theme.standard.highlightIn node.name " lib " "" ≠ node.name ∧
        node.isMatch (searchQuery " lib ") = true) ∧
      (rowIds rows).count "Src/LIB/old" = 1 := by
  intro first second view
  let index : Index :=
    ⟨first.rootId, Index.mergedNodes first second, first.counts + second.counts, true⟩
  have merges : first.merge second = .ok index := Index.merge_eq_ok_iff.2 ⟨rfl, rfl⟩
  have traced : index.FromTraces := .merge (.ofEvents _) (.ofEvents _) merges
  let node : Node :=
    { id := "Src/LIB", name := "LIB", kind := .dir, children := ["Src/LIB/a.py", "Src/LIB/old"]
      second := { status := some .unknown }, origin := some .both }
  have notBlank : Text.strip " lib " ≠ "" := by decide +kernel
  have found : index.find? "Src/LIB" = some node := by decide +kernel
  have marked : Theme.standard.highlightIn node.name " lib " "" ≠ node.name := by decide +kernel
  have noNull : ∀ node ∈ index.nodes.entries, '\x00' ∉ node.name.toList := by decide +kernel
  have returns : ∃ rows, view.rows index none = .ok rows := exists_rows noNull
  obtain ⟨rows, shown⟩ := returns
  obtain ⟨ofMatch, ofMark⟩ := rows_below_match traced notBlank found (by decide)
  have isMatch := ofMark Theme.standard "" (by decide) marked
  have leads : Relation.ReflTransGen index.ChildLink "Src/LIB" "Src/LIB/old" :=
    .single ⟨node, found, by decide⟩
  obtain ⟨_, _, _, shownOnce⟩ := ofMatch isMatch "Src/LIB/old" leads
  exact ⟨index, rows, merges, traced, notBlank, shown, ⟨node, found, marked, isMatch⟩,
    (shownOnce view none rows rfl shown).1⟩

end View

end ScanTree

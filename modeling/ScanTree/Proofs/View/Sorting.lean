import ScanTree.Proofs.Outcome
import ScanTree.View.Ordering
import Mathlib.Data.List.Nodup
import Mathlib.Data.Prod.Lex
import Mathlib.Data.String.Basic

/-!
# Sorting children

Merge sort is stable: its result ascends in the keys and holds the values of each key
in the order in which they were given.  Keys are compared part after part, which
orders them linearly, and keys of different names differ.  A name can be sorted unless
its letters hold the null character, which they do just if the name does.  So a list
of children that can be sorted is sorted by a linear order on names, and the order of
a group does not depend on that in which the children are listed if these are told
apart by their names.
-/

namespace ScanTree

/-- A list is the stable sort of another one by a key. -/
structure IsStableSort {α κ : Type} [LinearOrder κ] (key : α → κ) (values sorted : List α) :
    Prop where
  perm : sorted.Perm values
  ascending : sorted.Pairwise fun first second => key first ≤ key second
  stable : ∀ rank, sorted.filter (key · = rank) = values.filter (key · = rank)

theorem isStableSort_mergeSort {α κ : Type} [LinearOrder κ] {key : α → κ}
    {le : α → α → Bool}
    (le_iff : ∀ first second, le first second = true ↔ key first ≤ key second)
    (values : List α) : IsStableSort key values (values.mergeSort le) := by
  have trans : ∀ a b c, le a b = true → le b c = true → le a c = true :=
    fun a b c lower upper =>
      (le_iff a c).2 (((le_iff a b).1 lower).trans ((le_iff b c).1 upper))
  have total : ∀ a b, (le a b || le b a) = true := by
    intro a b
    rw [Bool.or_eq_true, le_iff, le_iff]
    exact le_total (key a) (key b)
  have perm := List.mergeSort_perm values le
  refine ⟨perm, (List.pairwise_mergeSort trans total values).imp (le_iff _ _).1, fun rank => ?_⟩
  -- Values of one key are sorted as they stand, so merge sort keeps them in place.
  have level : (values.filter (key · = rank)).Pairwise fun a b => le a b = true := by
    refine List.pairwise_of_forall_mem_list fun a aMem b bMem => (le_iff a b).2 ?_
    rw [of_decide_eq_true (List.mem_filter.1 aMem).2, of_decide_eq_true (List.mem_filter.1 bMem).2]
  have kept := (List.sublist_mergeSort trans total level List.filter_sublist).filter (key · = rank)
  rw [List.filter_filter, funext fun value => Bool.and_self _] at kept
  exact (kept.eq_of_length (perm.filter _).length_eq.symm).symm

/-- The letters of a name hold the null character just if the name does. -/
theorem null_mem_collationBase_iff {name : String} :
    '\x00' ∈ collationBase name ↔ '\x00' ∈ name.toList := by
  constructor
  · intro member
    obtain ⟨c, inFolded, inImage⟩ := List.mem_flatMap.1 (List.mem_filter.1 member).1
    by_contra notNull
    refine Text.null_notMem_decompose (fun isNull => ?_) inImage
    exact Text.null_notMem_foldChars notNull (isNull ▸ inFolded)
  · intro member
    have ascii : '\x00'.toNat < 0x80 := by decide
    have folded : '\x00' ∈ Text.foldChars name.toList :=
      List.mem_flatMap.2 ⟨'\x00', member, by decide⟩
    have decomposed : '\x00' ∈ (Text.foldChars name.toList).flatMap Text.decompose :=
      List.mem_flatMap.2 ⟨'\x00', folded, by simp [Text.decompose_of_ascii ascii]⟩
    exact List.mem_filter.2 ⟨decomposed, by simp [Text.isCombining_eq_false_of_ascii ascii]⟩

namespace NameKey

/-- The key of a name that can be sorted. -/
def of (name : String) : NameKey :=
  ⟨String.ofList (collationBase name), Text.casefold name, name⟩

theorem ofName_eq (name : String) :
    ofName name = if '\x00' ∉ name.toList then .ok (of name) else .error .nullInName := by
  simp only [ofName, List.contains_iff_mem, null_mem_collationBase_iff]
  split <;> simp_all [of]

/-- The parts of a key in the order in which they count. -/
def lex (key : NameKey) : String ×ₗ String ×ₗ String :=
  toLex (key.base, toLex (key.folded, key.raw))

theorem le_iff {first second : NameKey} : first.le second = true ↔ first.lex ≤ second.lex := by
  simp only [le, lex, Prod.Lex.toLex_le_toLex]
  by_cases sameBase : first.base = second.base
  · by_cases sameFolded : first.folded = second.folded
    · simp [sameBase, sameFolded]
    · simp [sameBase, sameFolded, lt_iff_le_and_ne]
  · simp [sameBase, lt_iff_le_and_ne]

theorem lex_injective {first second : NameKey} (same : first.lex = second.lex) :
    first = second := by
  obtain ⟨sameBase, sameRest⟩ := Prod.mk.inj (toLex.injective same)
  obtain ⟨sameFolded, sameRaw⟩ := Prod.mk.inj (toLex.injective sameRest)
  cases first
  cases second
  simp_all

end NameKey

namespace ChildKey

/-- The key of a node whose name can be sorted. -/
def of (cost : Node → Int) (node : Node) : ChildKey :=
  ⟨-cost node, NameKey.of node.name⟩

/-- The parts of a key in the order in which they count. -/
def lex (key : ChildKey) : Int ×ₗ String ×ₗ String ×ₗ String :=
  toLex (key.rank, key.name.lex)

theorem le_iff {first second : ChildKey} : first.le second = true ↔ first.lex ≤ second.lex := by
  simp only [le, lex, Prod.Lex.toLex_le_toLex]
  by_cases sameRank : first.rank = second.rank
  · simp [sameRank, NameKey.le_iff]
  · simp [sameRank, lt_iff_le_and_ne]

theorem name_eq_of_lex {cost otherCost : Node → Int} {node other : Node}
    (same : (of cost node).lex = (of otherCost other).lex) : node.name = other.name := by
  have sameName := NameKey.lex_injective (Prod.mk.inj (toLex.injective same)).2
  exact congrArg NameKey.raw sameName

end ChildKey

theorem mapM_ite {α β ε : Type} (passes : α → Prop) [DecidablePred passes] (image : α → β)
    (error : ε) (values : List α) :
    values.mapM (fun value => if passes value then Except.ok (image value) else .error error) =
      if ∀ value ∈ values, passes value then .ok (values.map image) else .error error := by
  induction values with
  | nil => rfl
  | cons value rest ih =>
      rw [List.mapM_cons, ih]
      by_cases first : passes value
      · by_cases others : ∀ value ∈ rest, passes value
        · rw [if_pos first, if_pos others, if_pos (List.forall_mem_cons.2 ⟨first, others⟩)]
          rfl
        · rw [if_pos first, if_neg others,
            if_neg fun all => others (List.forall_mem_cons.1 all).2]
          rfl
      · rw [if_neg first, if_neg fun all => first (List.forall_mem_cons.1 all).1]
        rfl

/-- Nodes whose names can be sorted are sorted by their keys. -/
theorem sortNodes_eq (cost : Node → Int) (nodes : List Node) :
    sortNodes cost nodes =
      if ∀ node ∈ nodes, '\x00' ∉ node.name.toList then
        .ok (nodes.mergeSort fun first second =>
          (ChildKey.of cost first).le (ChildKey.of cost second))
      else .error .nullInName := by
  have keyed : (fun node => (ChildKey.ofNode cost node).map fun key => (key, node)) =
      fun node : Node => if '\x00' ∉ node.name.toList
        then Except.ok (ChildKey.of cost node, node) else .error .nullInName := by
    funext node
    rw [ChildKey.ofNode, NameKey.ofName_eq]
    split <;> rfl
  rw [sortNodes, keyed, mapM_ite]
  split
  · have sorted := List.map_mergeSort (f := fun node => (ChildKey.of cost node, node))
      (r := fun first second => (ChildKey.of cost first).le (ChildKey.of cost second))
      (s := fun first second => first.1.le second.1) (l := nodes) fun _ _ _ _ => rfl
    change Except.ok (((nodes.map fun node => (ChildKey.of cost node, node)).mergeSort
      fun first second => first.1.le second.1).map (·.2)) = _
    rw [← sorted, List.map_map]
    exact congrArg Except.ok (List.map_id _)
  · rfl

/-- Nodes that are told apart by their names are sorted in one way, however they are
listed. -/
theorem mergeSort_eq_of_perm (cost : Node → Int) {nodes others : List Node}
    (same : nodes.Perm others) (distinct : Set.InjOn Node.name {node | node ∈ nodes}) :
    (nodes.mergeSort fun first second => (ChildKey.of cost first).le (ChildKey.of cost second)) =
      others.mergeSort fun first second =>
        (ChildKey.of cost first).le (ChildKey.of cost second) := by
  have le_iff (first second : Node) :
      (ChildKey.of cost first).le (ChildKey.of cost second) = true ↔
        (ChildKey.of cost first).lex ≤ (ChildKey.of cost second).lex := ChildKey.le_iff
  have sorts (list : List Node) := isStableSort_mergeSort le_iff list
  have permuted := ((sorts nodes).perm.trans same).trans (sorts others).perm.symm
  refine permuted.eq_of_pairwise (fun first second inFirst inSecond lower upper => ?_)
    (sorts nodes).ascending (sorts others).ascending
  have firstMem := (sorts nodes).perm.mem_iff.1 inFirst
  have secondMem := same.mem_iff.2 ((sorts others).perm.mem_iff.1 inSecond)
  exact distinct firstMem secondMem (ChildKey.name_eq_of_lex (le_antisymm lower upper))

theorem sortNodes_eq_of_perm (cost : Node → Int) {nodes others : List Node}
    (same : nodes.Perm others) (distinct : Set.InjOn Node.name {node | node ∈ nodes}) :
    sortNodes cost nodes = sortNodes cost others := by
  have sameTest : (∀ node ∈ nodes, '\x00' ∉ node.name.toList) ↔
      ∀ node ∈ others, '\x00' ∉ node.name.toList :=
    forall_congr' fun node => imp_congr_left same.mem_iff
  rw [sortNodes_eq, sortNodes_eq, mergeSort_eq_of_perm cost same distinct]
  exact if_congr sameTest rfl rfl

/-- Sorting only looks at names and costs. -/
theorem sortNodes_map {cost otherCost : Node → Int} {image : Node → Node} {nodes : List Node}
    (keeps : ∀ node ∈ nodes, (image node).name = node.name ∧ otherCost (image node) = cost node) :
    sortNodes otherCost (nodes.map image) = (sortNodes cost nodes).map (·.map image) := by
  have sameKey : ∀ node ∈ nodes,
      ChildKey.of otherCost (image node) = ChildKey.of cost node := by
    intro node member
    rw [ChildKey.of, ChildKey.of, (keeps node member).1, (keeps node member).2]
  have sameTest : (∀ node ∈ nodes.map image, '\x00' ∉ node.name.toList) ↔
      ∀ node ∈ nodes, '\x00' ∉ node.name.toList := by
    rw [List.forall_mem_map]
    exact forall₂_congr fun node member => by rw [(keeps node member).1]
  rw [sortNodes_eq, sortNodes_eq, if_congr sameTest rfl rfl]
  split
  · rw [← List.map_mergeSort (f := image)
      (r := fun first second => (ChildKey.of cost first).le (ChildKey.of cost second))]
    · rfl
    · intro first firstMem second secondMem
      rw [sameKey first firstMem, sameKey second secondMem]
  · rfl

theorem sortNodes_perm {cost : Node → Int} {nodes sorted : List Node}
    (sorts : sortNodes cost nodes = .ok sorted) : sorted.Perm nodes := by
  rw [sortNodes_eq] at sorts
  split at sorts
  · obtain rfl := Except.ok.inj sorts
    exact List.mergeSort_perm _ _
  · simp at sorts

section Group

variable {order : OrderBy} {stats : StatsTable} {metric : CostMetric} {nodes : List Node}

theorem orderGroup_perm {ordered : List Node}
    (sorts : orderGroup order stats metric nodes = .ok ordered) : ordered.Perm nodes := by
  cases order with
  | scan =>
      obtain rfl := Except.ok.inj sorts
      exact .refl _
  | alpha => exact sortNodes_perm sorts
  | cost => exact sortNodes_perm sorts

/-- Where groups are sorted, it does not matter how nodes that are told apart by
their names are listed. -/
theorem orderGroup_eq_of_perm (sorted : order ≠ .scan) {others : List Node}
    (same : nodes.Perm others) (distinct : Set.InjOn Node.name {node | node ∈ nodes}) :
    orderGroup order stats metric nodes = orderGroup order stats metric others := by
  cases order with
  | scan => exact absurd rfl sorted
  | alpha => exact sortNodes_eq_of_perm _ same distinct
  | cost => exact sortNodes_eq_of_perm _ same distinct

/-- Ordering a group only looks at names and costs. -/
theorem orderGroup_map {otherStats : StatsTable} {image : Node → Node}
    (keeps : ∀ node ∈ nodes, (image node).name = node.name ∧
      otherStats.cost metric (image node) = stats.cost metric node) :
    orderGroup order otherStats metric (nodes.map image) =
      (orderGroup order stats metric nodes).map (·.map image) := by
  cases order with
  | scan => rfl
  | alpha => exact sortNodes_map fun node member => ⟨(keeps node member).1, rfl⟩
  | cost => exact sortNodes_map keeps

/-- A group can be ordered unless it is sorted and some name holds the null
character. -/
theorem exists_orderGroup_iff :
    (∃ ordered, orderGroup order stats metric nodes = .ok ordered) ↔
      order = .scan ∨ ∀ node ∈ nodes, '\x00' ∉ node.name.toList := by
  have sorts (cost : Node → Int) : (∃ ordered, sortNodes cost nodes = .ok ordered) ↔
      ∀ node ∈ nodes, '\x00' ∉ node.name.toList := by
    rw [sortNodes_eq]
    split <;> simp_all
  cases order with
  | scan => exact iff_of_true ⟨nodes, rfl⟩ (Or.inl rfl)
  | alpha => simpa [orderGroup] using sorts _
  | cost => simpa [orderGroup] using sorts _

theorem eq_nullInName_of_orderGroup {error : ViewError}
    (refuses : orderGroup order stats metric nodes = .error error) : error = .nullInName := by
  have sorts (cost : Node → Int) (refuses : sortNodes cost nodes = .error error) :
      error = .nullInName := by
    rw [sortNodes_eq] at refuses
    split at refuses
    · cases refuses
    · exact (Except.error.inj refuses).symm
  cases order with
  | scan => cases refuses
  | alpha => exact sorts _ refuses
  | cost => exact sorts _ refuses

end Group

/-- Ordered children come in two groups, those listed among directories first. -/
theorem exists_groups_of_orderChildren {index : Index} {order : OrderBy} {stats : StatsTable}
    {metric : CostMetric} {children : List String} {ordered : List Node}
    (orders : orderChildren index order stats metric children = .ok ordered) :
    ∃ dirs files, ordered = dirs ++ files ∧
      dirs.Perm ((children.filterMap index.find?).filter (·.isDirectoryLike)) ∧
      files.Perm ((children.filterMap index.find?).filter (!·.isDirectoryLike)) := by
  obtain ⟨dirs, dirsOk, rest⟩ := exists_of_bind_eq_ok orders
  obtain ⟨files, filesOk, done⟩ := exists_of_bind_eq_ok rest
  exact ⟨dirs, files, (Except.ok.inj done).symm, orderGroup_perm dirsOk, orderGroup_perm filesOk⟩

/-- Ordering children keeps just those that are nodes. -/
theorem orderChildren_perm {index : Index} {order : OrderBy} {stats : StatsTable}
    {metric : CostMetric} {children : List String} {ordered : List Node}
    (orders : orderChildren index order stats metric children = .ok ordered) :
    ordered.Perm (children.filterMap index.find?) := by
  obtain ⟨dirs, files, rfl, dirsPerm, filesPerm⟩ := exists_groups_of_orderChildren orders
  exact (dirsPerm.append filesPerm).trans (List.filter_append_perm _ _)

section Children

variable {index : Index} {order : OrderBy} {stats : StatsTable} {metric : CostMetric}
  {children : List String}

/-- Children are ordered as their images are if both groups of them are. -/
theorem orderChildren_eq_map {other : Index} {otherStats : StatsTable} {others : List String}
    {image : Node → Node}
    (dirs : orderGroup order otherStats metric
        ((others.filterMap other.find?).filter (·.isDirectoryLike)) =
      (orderGroup order stats metric
        ((children.filterMap index.find?).filter (·.isDirectoryLike))).map (·.map image))
    (files : orderGroup order otherStats metric
        ((others.filterMap other.find?).filter (!·.isDirectoryLike)) =
      (orderGroup order stats metric
        ((children.filterMap index.find?).filter (!·.isDirectoryLike))).map (·.map image)) :
    orderChildren other order otherStats metric others =
      (orderChildren index order stats metric children).map (·.map image) := by
  simp only [orderChildren, dirs, files]
  cases orderGroup order stats metric
      ((children.filterMap index.find?).filter (·.isDirectoryLike)) with
  | error error => rfl
  | ok dirs =>
      cases orderGroup order stats metric
          ((children.filterMap index.find?).filter (!·.isDirectoryLike)) with
      | error error => rfl
      | ok files => exact congrArg Except.ok List.map_append.symm

/-- Children can be ordered unless they are sorted and the name of one that is a node
holds the null character. -/
theorem exists_orderChildren_iff :
    (∃ ordered, orderChildren index order stats metric children = .ok ordered) ↔
      order = .scan ∨ ∀ node ∈ children.filterMap index.find?, '\x00' ∉ node.name.toList := by
  constructor
  · rintro ⟨ordered, orders⟩
    obtain ⟨dirs, dirsOk, rest⟩ := exists_of_bind_eq_ok orders
    obtain ⟨files, filesOk, _⟩ := exists_of_bind_eq_ok rest
    rcases exists_orderGroup_iff.1 ⟨dirs, dirsOk⟩ with scan | dirsClean
    · exact Or.inl scan
    rcases exists_orderGroup_iff.1 ⟨files, filesOk⟩ with scan | filesClean
    · exact Or.inl scan
    refine Or.inr fun node member => ?_
    by_cases isDir : node.isDirectoryLike = true
    · exact dirsClean node (List.mem_filter.2 ⟨member, isDir⟩)
    · exact filesClean node (List.mem_filter.2 ⟨member, by simpa using isDir⟩)
  · intro sortable
    have sorts (test : Node → Bool) : ∃ ordered, orderGroup order stats metric
        ((children.filterMap index.find?).filter test) = .ok ordered :=
      exists_orderGroup_iff.2 (sortable.imp_right fun clean node member =>
        clean node (List.mem_filter.1 member).1)
    obtain ⟨dirs, dirsOk⟩ := sorts (·.isDirectoryLike)
    obtain ⟨files, filesOk⟩ := sorts (!·.isDirectoryLike)
    refine ⟨dirs ++ files, ?_⟩
    simp only [orderChildren, dirsOk, filesOk]
    rfl

theorem eq_nullInName_of_orderChildren {error : ViewError}
    (refuses : orderChildren index order stats metric children = .error error) :
    error = .nullInName := by
  rcases error_cases_of_bind_eq_error refuses with dirs | ⟨_, _, refuses⟩
  · exact eq_nullInName_of_orderGroup dirs
  rcases error_cases_of_bind_eq_error refuses with files | ⟨_, _, refuses⟩
  · exact eq_nullInName_of_orderGroup files
  · cases refuses

end Children

end ScanTree

import ScanTree.Builder
import ScanTree.Proofs.View.Sorting

/-!
# Children in order

The children of a node come in two groups, directories first, and each group is the
given one or its stable sort by names, or by falling cost and then by names.  Where
names tell children apart, a sorted group does not depend on how they are given.
-/

namespace ScanTree

/-- How a group of children is ordered: as it is given, or by a stable sort. -/
def OrderBy.Sorts (order : OrderBy) (stats : StatsTable) (metric : CostMetric)
    (nodes ordered : List Node) : Prop :=
  match order with
  | .scan => ordered = nodes
  | .alpha => IsStableSort (fun node => (NameKey.of node.name).lex) nodes ordered
  | .cost =>
    IsStableSort (fun node => toLex (-stats.cost metric node, (NameKey.of node.name).lex))
      nodes ordered

variable {order : OrderBy} {stats : StatsTable} {metric : CostMetric}

theorem isStableSort_of_sortNodes {κ : Type} [LinearOrder κ] {key : Node → κ}
    {cost : Node → Int} {nodes sorted : List Node}
    (le_iff : ∀ first second, (ChildKey.of cost first).le (ChildKey.of cost second) = true ↔
      key first ≤ key second)
    (sorts : sortNodes cost nodes = .ok sorted) : IsStableSort key nodes sorted := by
  rw [sortNodes_eq] at sorts
  split at sorts
  · obtain rfl := Except.ok.inj sorts
    exact isStableSort_mergeSort le_iff nodes
  · cases sorts

theorem sorts_of_orderGroup {nodes ordered : List Node}
    (orders : orderGroup order stats metric nodes = .ok ordered) :
    order.Sorts stats metric nodes ordered := by
  cases order with
  | scan => exact (Except.ok.inj orders).symm
  | alpha =>
      refine isStableSort_of_sortNodes (fun first second => ?_) orders
      simp only [ChildKey.le, ChildKey.of, if_true]
      exact NameKey.le_iff
  | cost => exact isStableSort_of_sortNodes (fun _ _ => ChildKey.le_iff) orders

/-- Where children are sorted, it does not matter how those that are told apart by
their names are listed. -/
theorem orderChildren_eq_of_perm {index : Index} {children others : List String}
    (sorted : order ≠ .scan) (same : others.Perm children)
    (distinct : Set.InjOn Node.name {node | node ∈ children.filterMap index.find?}) :
    orderChildren index order stats metric others =
      orderChildren index order stats metric children := by
  have group (test : Node → Bool) :
      orderGroup order stats metric ((others.filterMap index.find?).filter test) =
        orderGroup order stats metric ((children.filterMap index.find?).filter test) := by
    have told : Set.InjOn Node.name
        {node | node ∈ (children.filterMap index.find?).filter test} :=
      fun _ firstMem _ secondMem =>
        distinct (List.mem_filter.1 firstMem).1 (List.mem_filter.1 secondMem).1
    exact (orderGroup_eq_of_perm sorted ((same.filterMap _).filter test).symm told).symm
  rw [orderChildren, orderChildren, group, group]

/-- Where no name of a child holds the null character, children can be ordered.  The
result lists those that are nodes as often as they are given: the directories, then
the others, each group ordered on its own.  Where children are sorted and different
ones have different names, the order in which they are given does not matter. -/
theorem orderChildren_in_groups {index : Index} {children : List String}
    (noNull : ∀ node ∈ children.filterMap index.find?, '\x00' ∉ node.name.toList) :
    ∃ dirs files, orderChildren index order stats metric children = .ok (dirs ++ files) ∧
      (dirs ++ files).Perm (children.filterMap index.find?) ∧
      (∀ node ∈ dirs, node.isDirectoryLike = true) ∧
      (∀ node ∈ files, node.isDirectoryLike = false) ∧
      order.Sorts stats metric
        ((children.filterMap index.find?).filter (·.isDirectoryLike)) dirs ∧
      order.Sorts stats metric
        ((children.filterMap index.find?).filter (!·.isDirectoryLike)) files ∧
      (order ≠ .scan → Set.InjOn Node.name {node | node ∈ children.filterMap index.find?} →
        ∀ others : List String, others.Perm children →
          orderChildren index order stats metric others = .ok (dirs ++ files)) := by
  have orders : ∃ ordered, orderChildren index order stats metric children = .ok ordered :=
    exists_orderChildren_iff.2 (Or.inr noNull)
  obtain ⟨ordered, orders⟩ := orders
  obtain ⟨dirs, dirsOk, rest⟩ := exists_of_bind_eq_ok orders
  obtain ⟨files, filesOk, done⟩ := exists_of_bind_eq_ok rest
  obtain rfl := Except.ok.inj done
  refine ⟨dirs, files, orders, orderChildren_perm orders, fun node member => ?_,
    fun node member => ?_, sorts_of_orderGroup dirsOk, sorts_of_orderGroup filesOk,
    fun sorted distinct others same => ?_⟩
  · exact (List.mem_filter.1 ((orderGroup_perm dirsOk).mem_iff.1 member)).2
  · have isFile := (List.mem_filter.1 ((orderGroup_perm filesOk).mem_iff.1 member)).2
    rwa [Bool.not_eq_true'] at isFile
  · rw [orderChildren_eq_of_perm sorted same distinct, orders]

/-- Names that differ in an accent or in case only, a child that is given twice and one
that is no node: the children come in one order, whichever way they are given. -/
theorem orderChildren_of_accented_names :
    let index := Index.ofEvents
      [{ tag := some "include", path := some "é" }, { tag := some "include", path := some "E" },
        { tag := some "include", path := some "e" },
        { tag := some "include", path := some "z/x" }]
    let children := ["E", "é", "missing", "e", "z", "E"]
    (∀ node ∈ children.filterMap index.find?, '\x00' ∉ node.name.toList) ∧
      ∃ dirs files, orderChildren index .alpha [] .total children = .ok (dirs ++ files) ∧
        ((dirs ++ files).map (·.id)).Perm ["E", "é", "e", "z", "E"] ∧
        IsStableSort (fun node => (NameKey.of node.name).lex)
          ((children.filterMap index.find?).filter (!·.isDirectoryLike)) files ∧
        orderChildren index .alpha [] .total children.reverse = .ok (dirs ++ files) := by
  intro index children
  have noNull : ∀ node ∈ children.filterMap index.find?, '\x00' ∉ node.name.toList := by
    decide +kernel
  have distinct : ∀ first ∈ children.filterMap index.find?,
      ∀ second ∈ children.filterMap index.find?, first.name = second.name → first = second := by
    decide +kernel
  have ids : (children.filterMap index.find?).map (·.id) = ["E", "é", "e", "z", "E"] := by
    decide +kernel
  obtain ⟨dirs, files, orders, perm, _, _, _, sorted, others⟩ :=
    @orderChildren_in_groups .alpha [] .total index children noNull
  exact ⟨noNull, dirs, files, orders, ids ▸ perm.map (·.id), sorted,
    others (by decide) distinct _ (List.reverse_perm children)⟩

end ScanTree

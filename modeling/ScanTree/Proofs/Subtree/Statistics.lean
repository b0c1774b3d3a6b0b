import ScanTree.Stats
import ScanTree.Proofs.Subtree.Recurrence
import Mathlib.Algebra.BigOperators.Group.List.Basic

/-!
# Sums over subtrees

Statistics are added field by field.  In an acyclic index the statistics of a
node are its own part and those of its children, whether or not other nodes
have the same children, so they do not depend on the order in which the nodes
are walked.
-/

namespace ScanTree

attribute [ext] SubtreeStats

namespace SubtreeStats

@[simp]
theorem totalNodes_add (first second : SubtreeStats) :
    (first + second).totalNodes = first.totalNodes + second.totalNodes :=
  rfl

@[simp]
theorem totalFiles_add (first second : SubtreeStats) :
    (first + second).totalFiles = first.totalFiles + second.totalFiles :=
  rfl

@[simp]
theorem totalDirs_add (first second : SubtreeStats) :
    (first + second).totalDirs = first.totalDirs + second.totalDirs :=
  rfl

@[simp]
theorem ignored_add (first second : SubtreeStats) :
    (first + second).ignored = first.ignored + second.ignored :=
  rfl

@[simp]
theorem skipped_add (first second : SubtreeStats) :
    (first + second).skipped = first.skipped + second.skipped :=
  rfl

instance : AddCommMonoid SubtreeStats where
  add := (· + ·)
  zero := 0
  add_assoc first second third := by ext <;> exact Int.add_assoc _ _ _
  zero_add stats := by ext <;> exact Int.zero_add _
  add_zero stats := by ext <;> exact Int.add_zero _
  add_comm first second := by ext <;> exact Int.add_comm _ _
  nsmul := nsmulRec

theorem foldl_add (total : SubtreeStats) (parts : List SubtreeStats) :
    parts.foldl (· + ·) total = total + parts.sum := by
  induction parts generalizing total with
  | nil => simp
  | cons part rest ih => rw [List.foldl_cons, ih, List.sum_cons, add_assoc]

end SubtreeStats

namespace Index

variable {index : Index}

theorem mem_completed_stats {id : String} (known : id ∈ index.ids) :
    id ∈ completed index.stats :=
  isSome_lookup_iff.1 (index.isSome_lookup_foldFrom _ _ _ known known)

/-- Every node has one entry. -/
theorem completed_stats_perm (index : Index) : (completed index.stats).Perm index.ids := by
  have settled := index.settled_foldFrom SubtreeStats.ofNode (· + ·) 0 index.ids
  exact (List.perm_ext_iff_of_nodup settled.nodup index.ids_nodup).2
    fun id => ⟨settled.known, mem_completed_stats⟩

theorem isSome_lookup_stats_iff {id : String} :
    (index.stats.lookup id).isSome = true ↔ id ∈ index.ids :=
  isSome_lookup_iff.trans index.completed_stats_perm.mem_iff

theorem solved_stats (acyclic : index.Acyclic) :
    index.Solved SubtreeStats.ofNode (· + ·) index.stats :=
  solved_foldFrom acyclic _ _ _ _

/-- The entries of the children that are nodes, once for each time they are
listed. -/
theorem forall₂_lookup_stats (index : Index) (children : List String) :
    List.Forall₂ (fun child entry => index.stats.lookup child = some entry)
      (children.filter (· ∈ index.ids))
      (children.filterMap fun child => index.stats.lookup child) := by
  have settled := index.settled_foldFrom SubtreeStats.ofNode (· + ·) 0 index.ids
  induction children with
  | nil => exact .nil
  | cons child rest ih =>
      by_cases known : child ∈ index.ids
      · obtain ⟨entry, found⟩ := exists_lookup_of_mem (mem_completed_stats known)
        rw [List.filter_cons_of_pos (by simpa using known)]
        simp only [List.filterMap_cons, found]
        exact .cons found ih
      · have missing : index.stats.lookup child = none :=
          lookup_eq_none_iff.2 fun member => known (settled.known member)
        rw [List.filter_cons_of_neg (by simpa using known)]
        simp only [List.filterMap_cons, missing]
        exact ih

theorem lookup_stats (acyclic : index.Acyclic) {id : String} {node : Node}
    (found : index.find? id = some node) :
    index.stats.lookup id =
      some (SubtreeStats.ofNode node +
        (node.children.filterMap fun child => index.stats.lookup child).sum) := by
  rw [(solved_stats acyclic).lookup_eq (mem_completed_stats (mem_ids_of_find? found)) found,
    gather, SubtreeStats.foldl_add]

/-- Acyclic indices with the same nodes up to the order of children have the
same statistics. -/
theorem lookup_stats_eq_of_related {other : Index} (acyclic : index.Acyclic)
    (otherAcyclic : other.Acyclic)
    (nodes : ∀ id, Option.Rel
      (fun node otherNode => SubtreeStats.ofNode node = SubtreeStats.ofNode otherNode ∧
        node.children.Perm otherNode.children)
      (index.find? id) (other.find? id)) (id : String) :
    index.stats.lookup id = other.stats.lookup id := by
  have solved := solved_stats acyclic
  have otherSolved := solved_stats otherAcyclic
  by_cases known : id ∈ index.ids
  · exact solved.lookup_eq_of_related otherSolved mem_completed_stats nodes
      (mem_completed_stats known)
  · have unknown : id ∉ other.ids := by rwa [← mem_ids_iff_of_rel (nodes id)]
    rw [lookup_eq_none_iff.2 fun member => known (solved.known member),
      lookup_eq_none_iff.2 fun member => unknown (otherSolved.known member)]

/-- In an acyclic index every node has just one entry of statistics, and it is
the node's own part and the sum of the entries of the children that are nodes,
each counted as often as it is listed.  The entries do not depend on the order
of the nodes, and children come before their parents. -/
theorem stats_sum_over_children (acyclic : index.Acyclic) :
    (completed index.stats).Perm index.ids ∧
    (∀ id node, index.find? id = some node →
      ∃ stats entries, index.stats.lookup id = some stats ∧
        List.Forall₂ (fun child entry => index.stats.lookup child = some entry)
          (node.children.filter (· ∈ index.ids)) entries ∧
        stats = SubtreeStats.ofNode node + entries.sum) ∧
    (∀ other : Index, other.nodes.entries.Perm index.nodes.entries →
      ∀ id, other.stats.lookup id = index.stats.lookup id) ∧
    ∀ before id stats after, index.stats = before ++ (id, stats) :: after →
      ∀ child, index.NodeLink id child → child ∈ completed before := by
  refine ⟨index.completed_stats_perm, ?_, ?_, ?_⟩
  · intro id node found
    exact ⟨_, _, lookup_stats acyclic found, index.forall₂_lookup_stats node.children, rfl⟩
  · intro other same id
    have otherFind := find?_eq_of_perm same
    have otherAcyclic : other.Acyclic := by
      unfold Acyclic
      rw [nodeLink_congr otherFind]
      exact acyclic
    refine lookup_stats_eq_of_related otherAcyclic acyclic (fun id => ?_) id
    rw [otherFind id]
    cases index.find? id with
    | none => exact .none
    | some node => exact .some ⟨rfl, .refl _⟩
  · intro before id stats after split child link
    exact (solved_stats acyclic).child_mem_before split link

/-- A file below two directories, one of which also lists a path that is no
node, counts in both of them and twice at the root. -/
theorem stats_of_shared_file :
    let index : Index :=
      { rootId := "."
        nodes := Table.ofList
          [{ id := ".", name := ".", kind := .dir, children := ["a", "b"] },
            { id := "b", name := "b", kind := .dir, children := ["c"] },
            { id := "a", name := "a", kind := .dir, children := ["x", "c"] },
            { id := "c", name := "c", kind := .file, decision := ⟨.ignored, none, none⟩ }]
        counts := {} }
    index.Acyclic ∧ index.stats.lookup "c" = some ⟨1, 1, 0, 1, 0⟩ ∧
      index.stats.lookup "a" = some ⟨2, 1, 1, 1, 0⟩ ∧
      index.stats.lookup "b" = some ⟨2, 1, 1, 1, 0⟩ ∧
      index.stats.lookup "." = some ⟨5, 2, 3, 2, 0⟩ := by
  intro index
  have acyclic : index.Acyclic := by
    let rank : String → Nat := fun id => if id = "." then 0 else if id = "c" then 2 else 1
    have ascends : ∀ node ∈ index.nodes.entries, ∀ child ∈ node.children, child ∈ index.ids →
        rank node.id < rank child := by decide +kernel
    refine acyclic_of_rank rank fun {parent child} link => ?_
    obtain ⟨⟨node, found, member⟩, known⟩ := link
    rw [← id_of_find? found]
    exact ascends node (Table.mem_of_find? found) child member known
  obtain ⟨_, recurrence, _⟩ := stats_sum_over_children acyclic
  obtain ⟨statsC, ofC, foundC, eachC, sumC⟩ := recurrence "c" _ rfl
  obtain ⟨statsA, ofA, foundA, eachA, sumA⟩ := recurrence "a" _ rfl
  obtain ⟨statsB, ofB, foundB, eachB, sumB⟩ := recurrence "b" _ rfl
  obtain ⟨statsRoot, ofRoot, foundRoot, eachRoot, sumRoot⟩ := recurrence "." _ rfl
  have childrenC : List.Forall₂ (fun child entry => index.stats.lookup child = some entry)
      [] ofC := eachC
  have childrenA : List.Forall₂ (fun child entry => index.stats.lookup child = some entry)
      ["c"] ofA := eachA
  have childrenB : List.Forall₂ (fun child entry => index.stats.lookup child = some entry)
      ["c"] ofB := eachB
  have childrenRoot : List.Forall₂ (fun child entry => index.stats.lookup child = some entry)
      ["a", "b"] ofRoot := eachRoot
  simp only [List.forall₂_nil_left_iff, List.forall₂_cons_left_iff, foundA, foundB, foundC,
    Option.some.injEq] at childrenC childrenA childrenB childrenRoot
  obtain rfl := childrenC
  obtain ⟨_, _, rfl, rfl, rfl⟩ := childrenA
  obtain ⟨_, _, rfl, rfl, rfl⟩ := childrenB
  obtain ⟨_, _, rfl, ⟨_, _, rfl, rfl, rfl⟩, rfl⟩ := childrenRoot
  rw [foundC, foundA, foundB, foundRoot, sumRoot, sumA, sumB, sumC]
  exact ⟨acyclic, by decide, by decide, by decide, by decide⟩

end Index

end ScanTree

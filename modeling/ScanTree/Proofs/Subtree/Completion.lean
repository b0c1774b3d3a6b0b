import ScanTree.Proofs.Index.Links
import ScanTree.Proofs.Subtree.Fold
import Mathlib.Data.List.Nodup

/-!
# What is complete

While a path is walked, what is complete and what is on the path are apart, and
every child of a complete node is complete or on the path.  This is what the
walk over a list of children preserves.  So when nothing is on the path, what is
complete is closed under following links.
-/

namespace ScanTree

namespace Index

variable {α : Type}

/-- The ids that have a value. -/
def completed (folded : Folded α) : List String :=
  folded.map (·.1)

@[simp]
theorem completed_nil : completed ([] : Folded α) = [] :=
  rfl

@[simp]
theorem completed_concat (folded : Folded α) (id : String) (value : α) :
    completed (folded ++ [(id, value)]) = completed folded ++ [id] := by
  simp [completed]

theorem isSome_lookup_iff {folded : Folded α} {id : String} :
    (folded.lookup id).isSome ↔ id ∈ completed folded := by
  simp only [List.lookup_isSome_iff, completed, List.mem_map, beq_iff_eq, eq_comm (a := id)]

theorem lookup_eq_none_iff {folded : Folded α} {id : String} :
    folded.lookup id = none ↔ id ∉ completed folded := by
  rw [← isSome_lookup_iff, Option.not_isSome_iff_eq_none]

theorem exists_lookup_of_mem {folded : Folded α} {id : String}
    (complete : id ∈ completed folded) : ∃ value, folded.lookup id = some value :=
  Option.isSome_iff_exists.1 (isSome_lookup_iff.2 complete)

theorem mem_completed_of_lookup {folded : Folded α} {id : String} {value : α}
    (found : folded.lookup id = some value) : id ∈ completed folded :=
  isSome_lookup_iff.1 (Option.isSome_iff_exists.2 ⟨value, found⟩)

theorem mem_of_lookup {folded : Folded α} {id : String} {value : α}
    (found : folded.lookup id = some value) : (id, value) ∈ folded := by
  obtain ⟨_, _, split, _⟩ := List.lookup_eq_some_iff.1 found
  rw [split]
  exact List.mem_append_right _ List.mem_cons_self

/-- The value that is added for a new id is found under it. -/
theorem lookup_concat_self {folded : Folded α} {id : String} (new : id ∉ completed folded)
    (value : α) : (folded ++ [(id, value)]).lookup id = some value := by
  rw [List.lookup_append, lookup_eq_none_iff.2 new]
  simp

theorem lookup_concat_other {folded : Folded α} {id other : String} (different : other ≠ id)
    (value : α) : (folded ++ [(id, value)]).lookup other = folded.lookup other := by
  have elsewhere : (other == id) = false := beq_eq_false_iff_ne.2 different
  rw [List.lookup_append, List.lookup_cons, elsewhere]
  simp

/-- Where a list with one more entry is split, the split is at that entry or
before it. -/
theorem split_concat {β : Type} {entries before after : List β} {last entry : β}
    (split : entries ++ [last] = before ++ entry :: after) :
    (before = entries ∧ entry = last) ∨ ∃ rest, entries = before ++ entry :: rest := by
  rcases List.eq_nil_or_concat after with rfl | ⟨rest, other, rfl⟩
  · obtain ⟨same, lastEq⟩ := List.append_inj' split rfl
    exact Or.inl ⟨same.symm, (List.singleton_inj.1 lastEq).symm⟩
  · rw [List.concat_eq_append, ← List.cons_append, ← List.append_assoc] at split
    exact Or.inr ⟨rest, (List.append_inj' split rfl).1⟩

/-- While a path is walked, the complete nodes are off the path, and their
children are complete or on it. -/
structure Settled (index : Index) (path : List String) (folded : Folded α) : Prop where
  nodup : (completed folded).Nodup
  known : ∀ {id}, id ∈ completed folded → id ∈ index.ids
  off_path : ∀ {id}, id ∈ completed folded → id ∉ path
  closed : ∀ {id child}, id ∈ completed folded → index.NodeLink id child →
    child ∈ completed folded ∨ child ∈ path

namespace Settled

variable {index : Index} {path : List String} {folded : Folded α} {id : String}

theorem nil (index : Index) (path : List String) : index.Settled path ([] : Folded α) where
  nodup := List.nodup_nil
  known := fun member => absurd member List.not_mem_nil
  off_path := fun member => absurd member List.not_mem_nil
  closed := fun member => absurd member List.not_mem_nil

/-- The walk goes down to a node that is not complete. -/
theorem enter (settled : index.Settled path folded) (new : id ∉ completed folded) :
    index.Settled (id :: path) folded where
  nodup := settled.nodup
  known := settled.known
  off_path := by
    intro other complete onPath
    rcases List.mem_cons.1 onPath with rfl | above
    · exact new complete
    · exact settled.off_path complete above
  closed := fun complete link =>
    (settled.closed complete link).imp_right (List.mem_cons_of_mem id)

/-- The walk goes up from a node that is complete now. -/
theorem leave (settled : index.Settled (id :: path) folded) (known : id ∈ index.ids)
    (offPath : id ∉ path)
    (covered : ∀ {child}, index.NodeLink id child →
      child ∈ completed folded ∨ child ∈ id :: path) (value : α) :
    index.Settled path (folded ++ [(id, value)]) := by
  have upOneLevel {child : String} (met : child ∈ completed folded ∨ child ∈ id :: path) :
      child ∈ completed (folded ++ [(id, value)]) ∨ child ∈ path := by
    rw [completed_concat, List.mem_append, List.mem_singleton]
    rcases met with complete | onPath
    · exact Or.inl (Or.inl complete)
    · exact (List.mem_cons.1 onPath).imp_left Or.inr
  have new : id ∉ completed folded := fun complete =>
    settled.off_path complete List.mem_cons_self
  refine ⟨?_, ?_, ?_, ?_⟩
  · rw [completed_concat]
    exact settled.nodup.append (List.nodup_singleton id) (List.disjoint_singleton.2 new)
  · intro other complete
    rw [completed_concat, List.mem_append, List.mem_singleton] at complete
    rcases complete with before | rfl
    · exact settled.known before
    · exact known
  · intro other complete
    rw [completed_concat, List.mem_append, List.mem_singleton] at complete
    rcases complete with before | rfl
    · exact fun above => settled.off_path before (List.mem_cons_of_mem id above)
    · exact offPath
  · intro other child complete link
    rw [completed_concat, List.mem_append, List.mem_singleton] at complete
    rcases complete with before | rfl
    · exact upOneLevel (settled.closed before link)
    · exact upOneLevel (covered link)

end Settled

section Walk

variable {index : Index} {own : Node → α} {combine : α → α → α} {path : List String}
  {folded final : Folded α} {total result : α} {children : List String}

/-- The children that the walk begins at are complete at its end, those on the
path apart. -/
theorem Walks.mem_completed
    (walks : index.Walks own combine path folded total children result final) {child : String}
    (member : child ∈ children) (known : child ∈ index.ids) :
    child ∈ completed final ∨ child ∈ path := by
  by_cases onPath : child ∈ path
  · exact Or.inr onPath
  · exact Or.inl (isSome_lookup_iff.1 (walks.isSome_lookup member known onPath))

/-- Where the walk comes up from a node again, everything is settled with it. -/
theorem Settled.ascend {child : String} {node : Node} {value : α} {below : Folded α}
    (settled : index.Settled (child :: path) below) (found : index.find? child = some node)
    (offPath : child ∉ path)
    (down : index.Walks own combine (child :: path) folded (own node) node.children value below) :
    child ∉ completed below ∧ index.Settled path (below ++ [(child, value)]) := by
  have covered {other : String} (link : index.NodeLink child other) :
      other ∈ completed below ∨ other ∈ child :: path :=
    down.mem_completed (mem_children_of_nodeLink link found) link.2
  exact ⟨fun complete => settled.off_path complete List.mem_cons_self,
    settled.leave (mem_ids_of_find? found) offPath covered value⟩

/-- The walk over a list of children keeps what is complete settled. -/
theorem Walks.settled
    (walks : index.Walks own combine path folded total children result final)
    (settled : index.Settled path folded) : index.Settled path final := by
  induction walks with
  | nil => exact settled
  | complete _ _ ih => exact ih settled
  | missing _ _ _ ih => exact ih settled
  | walked _ _ _ _ ih => exact ih settled
  | new incomplete found offPath down _ ihDown ihFurther =>
      have settledBelow := ihDown (settled.enter (lookup_eq_none_iff.1 incomplete))
      exact ihFurther (settledBelow.ascend found offPath down).2

/-- Where the walk goes down to a node and comes up again, the node was not
complete before and everything is settled with it. -/
theorem Settled.descend {child : String} {node : Node} {value : α} {below : Folded α}
    (settled : index.Settled path folded) (incomplete : folded.lookup child = none)
    (found : index.find? child = some node) (offPath : child ∉ path)
    (down : index.Walks own combine (child :: path) folded (own node) node.children value below) :
    child ∉ completed below ∧ index.Settled path (below ++ [(child, value)]) :=
  (down.settled (settled.enter (lookup_eq_none_iff.1 incomplete))).ascend found offPath down

/-- One of the children leads to everything that the walk completes. -/
theorem Walks.exists_leads
    (walks : index.Walks own combine path folded total children result final) {id : String}
    (complete : id ∈ completed final) (new : id ∉ completed folded) :
    ∃ child ∈ children, child ∈ index.ids ∧ Relation.ReflTransGen index.NodeLink child id := by
  have later {child : String} {rest : List String} (leads : ∃ other ∈ rest, other ∈ index.ids ∧
      Relation.ReflTransGen index.NodeLink other id) :
      ∃ other ∈ child :: rest, other ∈ index.ids ∧
        Relation.ReflTransGen index.NodeLink other id := by
    obtain ⟨other, member, leads⟩ := leads
    exact ⟨other, List.mem_cons_of_mem child member, leads⟩
  induction walks with
  | nil => exact absurd complete new
  | complete _ _ ih => exact later (ih complete new)
  | missing _ _ _ ih => exact later (ih complete new)
  | walked _ _ _ _ ih => exact later (ih complete new)
  | @new _ _ below _ _ _ value _ child _ _ found _ _ _ ihDown ihFurther =>
      by_cases early : id ∈ completed (below ++ [(child, value)])
      · refine ⟨child, List.mem_cons_self, mem_ids_of_find? found, ?_⟩
        rw [completed_concat, List.mem_append, List.mem_singleton] at early
        rcases early with inside | rfl
        · obtain ⟨other, member, known, leads⟩ := ihDown inside new
          exact .head (nodeLink_of_find? found member known) leads
        · exact .refl
      · exact later (ihFurther complete early)

theorem settled_foldFrom (index : Index) (own : Node → α) (combine : α → α → α) (unit : α)
    (starts : List String) : index.Settled [] (index.foldFrom own combine unit starts) := by
  obtain ⟨_, walks⟩ := index.walks_foldFrom own combine unit starts
  exact walks.settled (Settled.nil index [])

/-- Everything that the starts lead to is complete at the end. -/
theorem mem_completed_foldFrom (index : Index) (own : Node → α) (combine : α → α → α) (unit : α)
    {starts : List String} {start id : String} (member : start ∈ starts)
    (known : start ∈ index.ids) (leads : Relation.ReflTransGen index.NodeLink start id) :
    id ∈ completed (index.foldFrom own combine unit starts) := by
  induction leads with
  | refl => exact isSome_lookup_iff.1 (index.isSome_lookup_foldFrom own combine unit member known)
  | tail _ link ih =>
      exact ((index.settled_foldFrom own combine unit starts).closed ih link).resolve_right
        List.not_mem_nil

/-- Nothing else is complete at the end. -/
theorem mem_completed_foldFrom_iff (index : Index) (own : Node → α) (combine : α → α → α)
    (unit : α) {starts : List String} {id : String} :
    id ∈ completed (index.foldFrom own combine unit starts) ↔
      ∃ start ∈ starts, start ∈ index.ids ∧ Relation.ReflTransGen index.NodeLink start id := by
  constructor
  · intro complete
    obtain ⟨_, walks⟩ := index.walks_foldFrom own combine unit starts
    exact walks.exists_leads complete List.not_mem_nil
  · rintro ⟨start, member, known, leads⟩
    exact index.mem_completed_foldFrom own combine unit member known leads

end Walk

end Index

end ScanTree

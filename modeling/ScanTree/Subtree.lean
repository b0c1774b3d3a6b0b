import ScanTree.Index

/-!
# Folding over subtrees

A value for every node that combines the node's own part with the values of its
children.  The nodes are walked depth first, and the value of a node is kept
when it is complete, so every node is combined once however many parents it
has.  Children that are not nodes are passed over, and so is a child on the path
that is being walked, so that cycles end.
-/

namespace ScanTree

namespace Index

/-- The number of nodes that are not on a path. -/
def unvisited (index : Index) (path : List String) : Nat :=
  index.ids.countP (· ∉ path)

theorem countP_notMem_cons_lt {ids path : List String} {id : String}
    (member : id ∈ ids) (fresh : id ∉ path) :
    ids.countP (· ∉ id :: path) < ids.countP (· ∉ path) := by
  have fewer : ∀ rest : List String,
      rest.countP (· ∉ id :: path) ≤ rest.countP (· ∉ path) := fun rest =>
    List.countP_mono_left fun other _ outside => by
      simp only [List.mem_cons, not_or, decide_eq_true_eq] at outside ⊢
      exact outside.2
  induction ids with
  | nil => simp at member
  | cons head rest ih =>
    by_cases same : head = id
    · subst same
      rw [List.countP_cons_of_neg (by simp), List.countP_cons_of_pos (by simpa using fresh)]
      exact Nat.lt_succ_of_le (fewer rest)
    · have inRest : id ∈ rest := by
        rcases List.mem_cons.1 member with equal | inRest
        · exact absurd equal.symm same
        · exact inRest
      have smaller := ih inRest
      by_cases headMem : head ∈ path
      · rwa [List.countP_cons_of_neg (by simp [headMem]),
          List.countP_cons_of_neg (by simp [headMem])]
      · rw [List.countP_cons_of_pos (by simp [headMem, same]),
          List.countP_cons_of_pos (by simp [headMem])]
        omega

theorem unvisited_cons_lt {index : Index} {path : List String} {id : String}
    (member : id ∈ index.ids) (fresh : id ∉ path) :
    index.unvisited (id :: path) < index.unvisited path :=
  countP_notMem_cons_lt member fresh

/-- The values that are complete, in the order in which they were completed. -/
abbrev Folded (α : Type) := List (String × α)

/-- Walk a list of children below a path, adding their values to `total`. -/
def foldChildren {α : Type} (index : Index) (own : Node → α) (combine : α → α → α)
    (path : List String) (folded : Folded α) (total : α) :
    List String → α × Folded α
  | [] => (total, folded)
  | child :: rest =>
    match folded.lookup child with
    | some value => index.foldChildren own combine path folded (combine total value) rest
    | none =>
      match _found : index.find? child with
      | none => index.foldChildren own combine path folded total rest
      | some node =>
        if _walked : child ∈ path then
          index.foldChildren own combine path folded total rest
        else
          let (value, below) :=
            index.foldChildren own combine (child :: path) folded (own node) node.children
          index.foldChildren own combine path (below ++ [(child, value)])
            (combine total value) rest
termination_by children => (index.unvisited path, children.length)
decreasing_by
  all_goals simp_wf
  all_goals first
    | (apply Prod.Lex.right; simp)
    | (apply Prod.Lex.left
       exact unvisited_cons_lt (mem_ids_of_find? (by assumption)) (by assumption))

/-- The values of all nodes that can be reached from the given ones, children
before parents. -/
def foldFrom {α : Type} (index : Index) (own : Node → α) (combine : α → α → α)
    (unit : α) (starts : List String) : Folded α :=
  (index.foldChildren own combine [] [] unit starts).2

end Index

end ScanTree

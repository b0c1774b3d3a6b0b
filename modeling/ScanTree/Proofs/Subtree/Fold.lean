import ScanTree.Subtree
import Mathlib.Data.List.Forall2

/-!
# Laws of folding over subtrees

The walk over a list of children has four cases, one for each way in which a
child is met, and what it preserves is proved by induction on how it goes.
Complete values stay what they are, every node that the walk begins at gets one,
and walks over two indices of the same shape complete related values in the same
order.
-/

namespace ScanTree

namespace Index

section Cases

variable {α : Type} {index : Index} {own : Node → α} {combine : α → α → α}
  {path : List String} {folded : Folded α} {total : α} {child : String}

@[simp]
theorem foldChildren_nil :
    index.foldChildren own combine path folded total [] = (total, folded) := by
  rw [foldChildren]

theorem foldChildren_of_complete {value : α} (rest : List String)
    (complete : folded.lookup child = some value) :
    index.foldChildren own combine path folded total (child :: rest) =
      index.foldChildren own combine path folded (combine total value) rest := by
  rw [foldChildren, complete]

theorem foldChildren_of_missing (rest : List String) (incomplete : folded.lookup child = none)
    (missing : index.find? child = none) :
    index.foldChildren own combine path folded total (child :: rest) =
      index.foldChildren own combine path folded total rest := by
  rw [foldChildren]
  simp only [incomplete]
  split
  · rfl
  · simp_all

theorem foldChildren_of_walked (rest : List String) (incomplete : folded.lookup child = none)
    (walked : child ∈ path) :
    index.foldChildren own combine path folded total (child :: rest) =
      index.foldChildren own combine path folded total rest := by
  rw [foldChildren]
  simp only [incomplete]
  split
  · rfl
  · simp only [walked, dif_pos]

theorem foldChildren_of_new {node : Node} (rest : List String)
    (incomplete : folded.lookup child = none) (found : index.find? child = some node)
    (new : child ∉ path) :
    index.foldChildren own combine path folded total (child :: rest) =
      index.foldChildren own combine path
        ((index.foldChildren own combine (child :: path) folded (own node) node.children).2 ++
          [(child,
            (index.foldChildren own combine (child :: path) folded (own node)
              node.children).1)])
        (combine total
          (index.foldChildren own combine (child :: path) folded (own node) node.children).1)
        rest := by
  rw [foldChildren]
  simp only [incomplete]
  split
  · simp_all
  · rename_i other otherFound
    obtain rfl := Option.some.inj (found.symm.trans otherFound)
    simp only [new, dif_neg, not_false_eq_true]

end Cases

section Walks

variable {α : Type} (index : Index) (own : Node → α) (combine : α → α → α)

/-- The ways a walk can go over a list of children: one for each way in which a
child is met.  The last two arguments are the total and the complete values that
it ends with. -/
inductive Walks : List String → Folded α → α → List String → α → Folded α → Prop
  | nil {path : List String} {folded : Folded α} {total : α} :
      Walks path folded total [] total folded
  | complete {path : List String} {folded final : Folded α} {total result value : α}
      {child : String} {rest : List String} (complete : folded.lookup child = some value)
      (further : Walks path folded (combine total value) rest result final) :
      Walks path folded total (child :: rest) result final
  | missing {path : List String} {folded final : Folded α} {total result : α}
      {child : String} {rest : List String} (incomplete : folded.lookup child = none)
      (missing : index.find? child = none) (further : Walks path folded total rest result final) :
      Walks path folded total (child :: rest) result final
  | walked {path : List String} {folded final : Folded α} {total result : α} {node : Node}
      {child : String} {rest : List String} (incomplete : folded.lookup child = none)
      (found : index.find? child = some node) (onPath : child ∈ path)
      (further : Walks path folded total rest result final) :
      Walks path folded total (child :: rest) result final
  | new {path : List String} {folded below final : Folded α} {total result value : α}
      {node : Node} {child : String} {rest : List String}
      (incomplete : folded.lookup child = none) (found : index.find? child = some node)
      (offPath : child ∉ path)
      (down : Walks (child :: path) folded (own node) node.children value below)
      (further : Walks path (below ++ [(child, value)]) (combine total value) rest result final) :
      Walks path folded total (child :: rest) result final

theorem walks_foldChildren (path : List String) (folded : Folded α) (total : α)
    (children : List String) :
    index.Walks own combine path folded total children
      (index.foldChildren own combine path folded total children).1
      (index.foldChildren own combine path folded total children).2 := by
  induction path, folded, total, children using foldChildren.induct index own combine with
  | case1 path folded total =>
      rw [foldChildren_nil]
      exact .nil
  | case2 path folded total child rest value complete ih =>
      rw [foldChildren_of_complete rest complete]
      exact .complete complete ih
  | case3 path folded total child rest incomplete missing ih =>
      rw [foldChildren_of_missing rest incomplete missing]
      exact .missing incomplete missing ih
  | case4 path folded total child rest incomplete node found walked ih =>
      rw [foldChildren_of_walked rest incomplete walked]
      exact .walked incomplete found walked ih
  | case5 path folded total child rest incomplete node found new value below walk ihBelow ihRest =>
      rw [foldChildren_of_new rest incomplete found new]
      rw [walk] at ihBelow ⊢
      exact .new incomplete found new ihBelow ihRest

theorem walks_foldFrom (unit : α) (starts : List String) :
    ∃ result, index.Walks own combine [] [] unit starts result
      (index.foldFrom own combine unit starts) :=
  ⟨_, index.walks_foldChildren own combine [] [] unit starts⟩

variable {index own combine} {path : List String} {folded final : Folded α} {total result : α}
  {children : List String}

/-- Complete values are kept as they are. -/
theorem Walks.isPrefix
    (walks : index.Walks own combine path folded total children result final) :
    folded <+: final := by
  induction walks with
  | nil => exact List.prefix_rfl
  | complete _ _ ih => exact ih
  | missing _ _ _ ih => exact ih
  | walked _ _ _ _ ih => exact ih
  | new _ _ _ _ _ ihDown ihFurther =>
      exact (ihDown.trans (List.prefix_append _ _)).trans ihFurther

/-- Every node that the walk begins at has a value at its end. -/
theorem Walks.isSome_lookup
    (walks : index.Walks own combine path folded total children result final) {id : String}
    (member : id ∈ children) (known : id ∈ index.ids) (offPath : id ∉ path) :
    (final.lookup id).isSome := by
  induction walks with
  | nil => simp at member
  | complete complete further ih =>
      rcases List.mem_cons.1 member with rfl | later
      · exact further.isPrefix.sublist.lookup_isSome (by simp [complete])
      · exact ih later offPath
  | missing _ missing _ ih =>
      rcases List.mem_cons.1 member with rfl | later
      · rw [← find?_isSome_iff, missing] at known
        simp at known
      · exact ih later offPath
  | walked _ _ onPath _ ih =>
      rcases List.mem_cons.1 member with rfl | later
      · exact absurd onPath offPath
      · exact ih later offPath
  | new _ _ _ _ further _ ih =>
      rcases List.mem_cons.1 member with rfl | later
      · exact further.isPrefix.sublist.lookup_isSome (by simp [List.lookup_append])
      · exact ih later offPath

theorem isSome_lookup_foldFrom (index : Index) (own : Node → α) (combine : α → α → α) (unit : α)
    {starts : List String} {id : String} (member : id ∈ starts) (known : id ∈ index.ids) :
    ((index.foldFrom own combine unit starts).lookup id).isSome := by
  obtain ⟨_, walks⟩ := index.walks_foldFrom own combine unit starts
  exact walks.isSome_lookup member known List.not_mem_nil

end Walks

section Related

variable {α β : Type} {related : α → β → Prop}

theorem exists_of_rel_some {value : α} {other : Option β}
    (same : Option.Rel related (some value) other) :
    ∃ otherValue, other = some otherValue ∧ related value otherValue := by
  cases same with
  | some valuesRelated => exact ⟨_, rfl, valuesRelated⟩

theorem eq_none_of_rel_none {other : Option β}
    (same : Option.Rel related none other) : other = none := by
  cases same
  rfl

theorem rel_imp {other : α → β → Prop} {first : Option α} {second : Option β}
    (implies : ∀ {a b}, related a b → other a b) (same : Option.Rel related first second) :
    Option.Rel other first second := by
  cases same with
  | none => exact .none
  | some valuesRelated => exact .some (implies valuesRelated)

theorem rel_of_map_eq {γ : Type} {image : α → γ} {otherImage : β → γ} {first : Option α}
    {second : Option β} (same : first.map image = second.map otherImage) :
    Option.Rel (fun value other => image value = otherImage other) first second := by
  cases first with
  | none =>
      rw [Option.map_eq_none_iff.1 same.symm]
      exact .none
  | some value =>
      obtain ⟨other, rfl, sameImage⟩ := Option.map_eq_some_iff.1 same.symm
      exact .some sameImage.symm

/-- The same ids in the same order, with related values. -/
abbrev FoldedRelated (related : α → β → Prop) : Folded α → Folded β → Prop :=
  List.Forall₂ fun first second => first.1 = second.1 ∧ related first.2 second.2

theorem lookup_of_foldedRelated {first : Folded α} {second : Folded β}
    (same : FoldedRelated related first second) (id : String) :
    Option.Rel related (first.lookup id) (second.lookup id) := by
  induction same with
  | nil => exact .none
  | @cons firstEntry secondEntry firstRest secondRest entries _ ih =>
      obtain ⟨key, value⟩ := firstEntry
      obtain ⟨otherKey, otherValue⟩ := secondEntry
      obtain ⟨rfl, valuesRelated⟩ := entries
      by_cases here : id = key
      · subst id
        simpa using Option.Rel.some valuesRelated
      · have elsewhere : (id == key) = false := by simpa using here
        simpa only [List.lookup_cons, elsewhere] using ih

/-- Two indices have the same shape: the same nodes with the same children, and
related parts of their own. -/
def SameShape (first second : Index) (firstOwn : Node → α) (secondOwn : Node → β)
    (related : α → β → Prop) : Prop :=
  ∀ id, Option.Rel
    (fun node other => node.children = other.children ∧
      related (firstOwn node) (secondOwn other))
    (first.find? id) (second.find? id)

/-- Walks over two indices of the same shape complete related values in the same
order. -/
theorem foldChildren_related {first second : Index} {firstOwn : Node → α}
    {secondOwn : Node → β} {firstCombine : α → α → α} {secondCombine : β → β → β}
    (shape : first.SameShape second firstOwn secondOwn related)
    (combines : ∀ {a b c d}, related a b → related c d →
      related (firstCombine a c) (secondCombine b d))
    {path : List String} {folded : Folded α} {otherFolded : Folded β}
    {total : α} {otherTotal : β} {children : List String}
    (sameFolded : FoldedRelated related folded otherFolded)
    (sameTotal : related total otherTotal) :
    related (first.foldChildren firstOwn firstCombine path folded total children).1
        (second.foldChildren secondOwn secondCombine path otherFolded otherTotal children).1 ∧
      FoldedRelated related
        (first.foldChildren firstOwn firstCombine path folded total children).2
        (second.foldChildren secondOwn secondCombine path otherFolded otherTotal children).2 := by
  have sameLookup {folded : Folded α} {otherFolded : Folded β} (child : String)
      (same : FoldedRelated related folded otherFolded) {found : Option α}
      (lookup : folded.lookup child = found) :
      Option.Rel related found (otherFolded.lookup child) :=
    lookup ▸ lookup_of_foldedRelated same child
  have sameNode (child : String) {found : Option Node} (find : first.find? child = found) :=
    find ▸ shape child
  induction path, folded, total, children using foldChildren.induct first firstOwn firstCombine
    generalizing otherFolded otherTotal with
  | case1 path folded total =>
      simp only [foldChildren_nil]
      exact ⟨sameTotal, sameFolded⟩
  | case2 path folded total child rest value complete ih =>
      obtain ⟨otherValue, otherComplete, valuesRelated⟩ :=
        exists_of_rel_some (sameLookup child sameFolded complete)
      rw [foldChildren_of_complete rest complete, foldChildren_of_complete rest otherComplete]
      exact ih sameFolded (combines sameTotal valuesRelated)
  | case3 path folded total child rest incomplete missing ih =>
      have otherIncomplete := eq_none_of_rel_none (sameLookup child sameFolded incomplete)
      have otherMissing := eq_none_of_rel_none (sameNode child missing)
      rw [foldChildren_of_missing rest incomplete missing,
        foldChildren_of_missing rest otherIncomplete otherMissing]
      exact ih sameFolded sameTotal
  | case4 path folded total child rest incomplete node found walked ih =>
      have otherIncomplete := eq_none_of_rel_none (sameLookup child sameFolded incomplete)
      rw [foldChildren_of_walked rest incomplete walked,
        foldChildren_of_walked rest otherIncomplete walked]
      exact ih sameFolded sameTotal
  | case5 path folded total child rest incomplete node found new value below walk ihBelow ihRest =>
      have otherIncomplete := eq_none_of_rel_none (sameLookup child sameFolded incomplete)
      obtain ⟨other, otherFound, sameChildren, ownRelated⟩ :=
        exists_of_rel_some (sameNode child found)
      have belowRelated := ihBelow sameFolded ownRelated
      rw [foldChildren_of_new rest incomplete found new,
        foldChildren_of_new rest otherIncomplete otherFound new, ← sameChildren]
      rw [walk] at belowRelated ⊢
      obtain ⟨valueRelated, belowFolded⟩ := belowRelated
      refine ihRest (List.rel_append belowFolded ?_) (combines sameTotal valueRelated)
      exact .cons ⟨rfl, valueRelated⟩ .nil

theorem foldFrom_related {first second : Index} {firstOwn : Node → α} {secondOwn : Node → β}
    {firstCombine : α → α → α} {secondCombine : β → β → β} {unit : α} {otherUnit : β}
    (shape : first.SameShape second firstOwn secondOwn related)
    (combines : ∀ {a b c d}, related a b → related c d →
      related (firstCombine a c) (secondCombine b d))
    (units : related unit otherUnit) (starts : List String) :
    FoldedRelated related (first.foldFrom firstOwn firstCombine unit starts)
      (second.foldFrom secondOwn secondCombine otherUnit starts) :=
  (foldChildren_related shape combines .nil units).2

/-- Indices of the same shape whose nodes have the same parts of their own have the
same table. -/
theorem foldFrom_congr {first second : Index} {firstOwn secondOwn : Node → α}
    {combine : α → α → α} {unit : α} (shape : first.SameShape second firstOwn secondOwn Eq)
    (starts : List String) :
    first.foldFrom firstOwn combine unit starts = second.foldFrom secondOwn combine unit starts := by
  have related : FoldedRelated Eq (first.foldFrom firstOwn combine unit starts)
      (second.foldFrom secondOwn combine unit starts) :=
    foldFrom_related shape (congrArg₂ combine) rfl starts
  exact List.forall₂_eq_eq_eq ▸ related.imp fun _ _ same => Prod.ext same.1 same.2

end Related

end Index

end ScanTree

import ScanTree.Proofs.Subtree.Completion
import Mathlib.Data.List.Perm.Basic

/-!
# Values that solve the recurrence

A table solves the recurrence of a fold if it was put together node by node,
each one after all of its children and with the values of its children combined
into its own part.  The fold over an acyclic index ends with such a table, and
two of them agree wherever their indices have the same nodes up to the order of
children.
-/

namespace ScanTree

namespace Index

variable {α : Type}

/-- A total with the values of all children that have one. -/
def gather (combine : α → α → α) (folded : Folded α) (total : α) (children : List String) : α :=
  (children.filterMap fun child => folded.lookup child).foldl combine total

/-- A table with every value replaced by what a function makes of it. -/
def mapValues {β : Type} (image : α → β) (folded : Folded α) : Folded β :=
  folded.map fun entry => (entry.1, image entry.2)

/-- The ways to put a table together from values that combine those of the
children. -/
inductive Solved (index : Index) (own : Node → α) (combine : α → α → α) : Folded α → Prop
  | nil : Solved index own combine []
  | concat {folded : Folded α} {id : String} {node : Node}
      (before : Solved index own combine folded) (found : index.find? id = some node)
      (new : id ∉ completed folded)
      (children : ∀ {child}, index.NodeLink id child → child ∈ completed folded) :
      Solved index own combine
        (folded ++ [(id, gather combine folded (own node) node.children)])

section Gather

variable {combine : α → α → α} {folded : Folded α} {total : α} {child : String}

theorem gather_cons_of_complete {value : α} (rest : List String)
    (complete : folded.lookup child = some value) :
    gather combine folded total (child :: rest) =
      gather combine folded (combine total value) rest := by
  simp [gather, complete]

theorem gather_cons_of_incomplete (rest : List String)
    (incomplete : child ∉ completed folded) :
    gather combine folded total (child :: rest) = gather combine folded total rest := by
  simp [gather, lookup_eq_none_iff.2 incomplete]

/-- Tables that agree on the children give the same total. -/
theorem gather_congr {other : Folded α} {children : List String}
    (agree : ∀ child ∈ children, folded.lookup child = other.lookup child) :
    gather combine folded total children = gather combine other total children := by
  rw [gather, gather, List.filterMap_congr agree]

/-- The order of the children does not matter if that of combined values does
not. -/
theorem gather_perm [RightCommutative combine] {children others : List String}
    (same : children.Perm others) :
    gather combine folded total children = gather combine folded total others :=
  (same.filterMap _).foldl_eq total

section MapValues

variable {β : Type} {combineImages : β → β → β} {image : α → β}

@[simp]
theorem completed_mapValues (image : α → β) (folded : Folded α) :
    completed (mapValues image folded) = completed folded :=
  List.map_map

@[simp]
theorem lookup_mapValues (image : α → β) (folded : Folded α) (id : String) :
    (mapValues image folded).lookup id = (folded.lookup id).map image := by
  induction folded with
  | nil => rfl
  | cons entry rest ih =>
      rw [mapValues, List.map_cons, List.lookup_cons, List.lookup_cons, ← mapValues, ih]
      split <;> rfl

/-- Where a function on values keeps how they are combined, what it makes of a total is
the total of what it makes of the values. -/
theorem map_gather
    (keeps : ∀ value other, image (combine value other) =
      combineImages (image value) (image other))
    (folded : Folded α) (total : α) (children : List String) :
    image (gather combine folded total children) =
      gather combineImages (mapValues image folded) (image total) children := by
  rw [gather, gather]
  simp only [lookup_mapValues]
  rw [← List.map_filterMap, List.foldl_map]
  exact (List.foldl_hom image fun total value => (keeps total value).symm).symm

end MapValues

end Gather

namespace Solved

variable {index : Index} {own : Node → α} {combine : α → α → α} {folded : Folded α}

theorem nodup (solved : index.Solved own combine folded) : (completed folded).Nodup := by
  induction solved with
  | nil => exact List.nodup_nil
  | concat _ _ new _ ih =>
      rw [completed_concat]
      exact ih.append (List.nodup_singleton _) (List.disjoint_singleton.2 new)

theorem known (solved : index.Solved own combine folded) {id : String}
    (complete : id ∈ completed folded) : id ∈ index.ids := by
  induction solved with
  | nil => simp at complete
  | concat _ found _ _ ih =>
      rw [completed_concat, List.mem_append, List.mem_singleton] at complete
      rcases complete with earlier | rfl
      · exact ih earlier
      · exact mem_ids_of_find? found

theorem closed (solved : index.Solved own combine folded) {id child : String}
    (complete : id ∈ completed folded) (link : index.NodeLink id child) :
    child ∈ completed folded := by
  induction solved with
  | nil => simp at complete
  | concat _ _ _ children ih =>
      rw [completed_concat, List.mem_append, List.mem_singleton] at complete ⊢
      rcases complete with earlier | rfl
      · exact Or.inl (ih earlier)
      · exact Or.inl (children link)

/-- One more value does not change what the children of a complete node come
to. -/
theorem gather_concat {id other : String} {node : Node} (found : index.find? id = some node)
    (children : ∀ {child}, index.NodeLink id child → child ∈ completed folded)
    (known : other ∈ index.ids) (new : other ∉ completed folded) (value total : α) :
    gather combine (folded ++ [(other, value)]) total node.children =
      gather combine folded total node.children := by
  refine gather_congr fun child member => lookup_concat_other ?_ value
  rintro rfl
  exact new (children (nodeLink_of_find? found member known))

/-- The value of a node is its own part combined with the values of its
children. -/
theorem lookup_eq (solved : index.Solved own combine folded) {id : String} {node : Node}
    (complete : id ∈ completed folded) (found : index.find? id = some node) :
    folded.lookup id = some (gather combine folded (own node) node.children) := by
  induction solved with
  | nil => simp at complete
  | @concat folded other otherNode before otherFound new children ih =>
      have otherKnown := mem_ids_of_find? otherFound
      rw [completed_concat, List.mem_append, List.mem_singleton] at complete
      rcases complete with earlier | rfl
      · have different : id ≠ other := fun same => new (same ▸ earlier)
        rw [lookup_concat_other different, ih earlier,
          gather_concat found (before.closed earlier) otherKnown new]
      · obtain rfl := Option.some.inj (found.symm.trans otherFound)
        rw [lookup_concat_self new, gather_concat found children otherKnown new]

/-- Children come before their parents. -/
theorem child_mem_before (solved : index.Solved own combine folded) {before after : Folded α}
    {id child : String} {value : α} (split : folded = before ++ (id, value) :: after)
    (link : index.NodeLink id child) : child ∈ completed before := by
  induction solved generalizing after with
  | nil => simp at split
  | concat _ _ _ children ih =>
      rcases split_concat split with ⟨rfl, lastEq⟩ | ⟨rest, earlier⟩
      · obtain ⟨rfl, _⟩ := Prod.mk.inj lastEq
        exact children link
      · exact ih earlier

/-- What a function that keeps how values are combined makes of a solution is a solution
too. -/
theorem map {β : Type} {combineImages : β → β → β} {image : α → β}
    (keeps : ∀ value other, image (combine value other) =
      combineImages (image value) (image other))
    (solved : index.Solved own combine folded) :
    index.Solved (fun node => image (own node)) combineImages
      (mapValues image folded) := by
  induction solved with
  | nil => exact .nil
  | @concat folded id node before found new children ih =>
      have same := completed_mapValues image folded
      rw [mapValues, List.map_append, List.map_singleton, map_gather keeps]
      exact ih.concat found (same ▸ new) fun link => same ▸ children link

/-- Solutions for indices with the same nodes up to the order of children have
the same values. -/
theorem lookup_eq_of_related [RightCommutative combine] {other : Index}
    {otherFolded : Folded α} (solved : index.Solved own combine folded)
    (otherSolved : other.Solved own combine otherFolded)
    (complete : ∀ {id}, id ∈ other.ids → id ∈ completed otherFolded)
    (nodes : ∀ id, Option.Rel
      (fun node otherNode => own node = own otherNode ∧
        node.children.Perm otherNode.children)
      (index.find? id) (other.find? id))
    {id : String} (member : id ∈ completed folded) :
    folded.lookup id = otherFolded.lookup id := by
  induction solved generalizing id with
  | nil => simp at member
  | @concat folded last node before found new children ih =>
      rw [completed_concat, List.mem_append, List.mem_singleton] at member
      rcases member with earlier | rfl
      · have different : id ≠ last := fun same => new (same ▸ earlier)
        rw [lookup_concat_other different, ih earlier]
      · obtain ⟨otherNode, otherFound, sameOwn, sameChildren⟩ :=
          exists_of_rel_some (found ▸ nodes id)
        have otherKnown := mem_ids_of_find? otherFound
        rw [lookup_concat_self new, otherSolved.lookup_eq (complete otherKnown) otherFound,
          ← sameOwn, ← gather_perm sameChildren]
        refine congrArg some (gather_congr fun child childMember => ?_)
        by_cases childKnown : child ∈ index.ids
        · exact ih (children (nodeLink_of_find? found childMember childKnown))
        · have unknown : child ∉ other.ids := by
            rwa [← mem_ids_iff_of_rel (nodes child)]
          rw [lookup_eq_none_iff.2 fun member => childKnown (before.known member),
            lookup_eq_none_iff.2 fun member => unknown (otherSolved.known member)]

end Solved

section Walk

variable {index : Index} {own : Node → α} {combine : α → α → α}

/-- A path leads to some children: each of its nodes leads to those that are
nodes. -/
def LeadsDown (index : Index) (path children : List String) : Prop :=
  ∀ {id child}, id ∈ path → child ∈ children → child ∈ index.ids →
    Relation.TransGen index.NodeLink id child

theorem LeadsDown.tail {path rest : List String} {child : String}
    (leads : index.LeadsDown path (child :: rest)) : index.LeadsDown path rest :=
  fun onPath member known => leads onPath (List.mem_cons_of_mem child member) known

theorem LeadsDown.enter {path rest : List String} {child : String} {node : Node}
    (leads : index.LeadsDown path (child :: rest)) (found : index.find? child = some node) :
    index.LeadsDown (child :: path) node.children := by
  intro id grandchild onPath member known
  have link := nodeLink_of_find? found member known
  rcases List.mem_cons.1 onPath with rfl | above
  · exact .single link
  · exact (leads above List.mem_cons_self (mem_ids_of_find? found)).tail link

/-- Nothing that some starts lead to leads back to itself. -/
def AcyclicFrom (index : Index) (starts : List String) : Prop :=
  ∀ {start id}, start ∈ starts → start ∈ index.ids →
    Relation.ReflTransGen index.NodeLink start id → ¬ Relation.TransGen index.NodeLink id id

theorem Acyclic.acyclicFrom (acyclic : index.Acyclic) (starts : List String) :
    index.AcyclicFrom starts :=
  fun _ _ _ => acyclic _

theorem AcyclicFrom.tail {rest : List String} {child : String}
    (acyclic : index.AcyclicFrom (child :: rest)) : index.AcyclicFrom rest :=
  fun member => acyclic (List.mem_cons_of_mem child member)

theorem AcyclicFrom.enter {rest : List String} {child : String} {node : Node}
    (acyclic : index.AcyclicFrom (child :: rest)) (found : index.find? child = some node) :
    index.AcyclicFrom node.children :=
  fun member known leads => acyclic List.mem_cons_self (mem_ids_of_find? found)
    (leads.head (nodeLink_of_find? found member known))

/-- Where the children lead to no circle, the walk never meets a child on the
path, so it solves the recurrence, and its total is that of the children. -/
theorem Walks.solved {path : List String} {folded final : Folded α}
    {total result : α} {children : List String}
    (walks : index.Walks own combine path folded total children result final)
    (acyclic : index.AcyclicFrom children) (solved : index.Solved own combine folded)
    (settled : index.Settled path folded) (leads : index.LeadsDown path children) :
    index.Solved own combine final ∧ result = gather combine final total children := by
  induction walks with
  | nil => exact ⟨solved, rfl⟩
  | @complete _ _ _ _ _ _ _ rest complete further ih =>
      obtain ⟨solvedRest, totalRest⟩ := ih acyclic.tail solved settled leads.tail
      have kept := further.isPrefix.lookup_eq_some complete
      rw [gather_cons_of_complete rest kept]
      exact ⟨solvedRest, totalRest⟩
  | @missing _ _ _ _ _ child rest _ missing _ ih =>
      obtain ⟨solvedRest, totalRest⟩ := ih acyclic.tail solved settled leads.tail
      have unknown : child ∉ index.ids := Table.find?_eq_none_iff.1 missing
      rw [gather_cons_of_incomplete rest fun complete => unknown (solvedRest.known complete)]
      exact ⟨solvedRest, totalRest⟩
  | @walked _ _ _ _ _ _ child _ _ found onPath =>
      have known := mem_ids_of_find? found
      exact absurd (leads onPath List.mem_cons_self known)
        (acyclic List.mem_cons_self known .refl)
  | @new _ _ below _ _ _ value _ child rest incomplete found offPath down further ihDown
      ihFurther =>
      obtain ⟨childNew, settledChild⟩ := settled.descend incomplete found offPath down
      obtain ⟨solvedBelow, totalBelow⟩ := ihDown (acyclic.enter found) solved
        (settled.enter (lookup_eq_none_iff.1 incomplete)) (leads.enter found)
      -- A child on the path would lead back to itself.
      have complete {other : String} (link : index.NodeLink child other) :
          other ∈ completed below := by
        have member := mem_children_of_nodeLink link found
        refine (down.mem_completed member link.2).resolve_right fun onPath => ?_
        exact acyclic.enter found member link.2 .refl (leads.enter found onPath member link.2)
      have solvedChild := solvedBelow.concat found childNew complete
      rw [← totalBelow] at solvedChild
      obtain ⟨solvedRest, totalRest⟩ :=
        ihFurther acyclic.tail solvedChild settledChild leads.tail
      have kept := further.isPrefix.lookup_eq_some (lookup_concat_self childNew value)
      rw [gather_cons_of_complete rest kept]
      exact ⟨solvedRest, totalRest⟩

theorem solved_foldFrom_of_acyclicFrom {starts : List String}
    (acyclic : index.AcyclicFrom starts) (own : Node → α) (combine : α → α → α) (unit : α) :
    index.Solved own combine (index.foldFrom own combine unit starts) := by
  obtain ⟨_, walks⟩ := index.walks_foldFrom own combine unit starts
  exact (walks.solved acyclic .nil (Settled.nil index [])
    fun onPath => absurd onPath List.not_mem_nil).1

theorem solved_foldFrom (acyclic : index.Acyclic) (own : Node → α) (combine : α → α → α)
    (unit : α) (starts : List String) :
    index.Solved own combine (index.foldFrom own combine unit starts) :=
  solved_foldFrom_of_acyclicFrom (acyclic.acyclicFrom starts) own combine unit

end Walk

end Index

end ScanTree

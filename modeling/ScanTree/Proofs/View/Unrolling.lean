import ScanTree.Proofs.View.Sorting
import ScanTree.View.Rows

/-!
# How rows come about

The rows of a list of nodes come about node by node: a node that is hidden or
was shown before is passed over, and another one gets a row, with its children
in front of the rest if it is open.  So no node has two rows, every visible
node that is met has one, and a row below another one belongs to a child of the
last row before it that is one level higher.
-/

namespace ScanTree

namespace View

section Relation

variable (view : View) (visible : VisibilityTable)
  (ordered : Node → Except ViewError (List Node))

/-- The children that are shown below a node: those in order if it is open. -/
def opened (node : Node) : Except ViewError (List Node) :=
  if view.opens node then ordered node else .ok []

/-- Whether a node is shown, given the nodes that have rows already. -/
def Shows (emitted : List String) (node : Node) : Prop :=
  visible.lookup node.id = some true ∧ node.id ∉ emitted

/-- Nodes with the depth of their rows. -/
def atDepth (nodes : List Node) (depth : Nat) : List (Node × Nat) :=
  nodes.map fun node => (node, depth)

/-- The rows that a list of nodes with depths comes to. -/
inductive Unrolls : List String → List (Node × Nat) → List Row → Prop
  | nil {emitted : List String} : Unrolls emitted [] []
  | shown {emitted : List String} {node : Node} {depth : Nat} {rest : List (Node × Nat)}
      {children : List Node} {rows : List Row} (shows : Shows visible emitted node)
      (opens : view.opened ordered node = .ok children)
      (further : Unrolls (node.id :: emitted) (atDepth children (depth + 1) ++ rest) rows) :
      Unrolls emitted ((node, depth) :: rest) (view.row node depth :: rows)
  | hidden {emitted : List String} {node : Node} {depth : Nat} {rest : List (Node × Nat)}
      {rows : List Row} (hides : ¬ Shows visible emitted node)
      (further : Unrolls emitted rest rows) :
      Unrolls emitted ((node, depth) :: rest) rows

end Relation

variable {view : View} {visible : VisibilityTable}
  {ordered : Node → Except ViewError (List Node)} {emitted : List String}
  {stack : List (Node × Nat)} {rows : List Row}

theorem mem_atDepth_iff {nodes : List Node} {depth : Nat} {entry : Node × Nat} :
    entry ∈ atDepth nodes depth ↔ entry.1 ∈ nodes ∧ entry.2 = depth := by
  obtain ⟨node, level⟩ := entry
  simp only [atDepth, List.mem_map, Prod.mk.injEq]
  constructor
  · rintro ⟨_, member, rfl, rfl⟩
    exact ⟨member, rfl⟩
  · rintro ⟨member, rfl⟩
    exact ⟨node, member, rfl, rfl⟩

theorem forall_atDepth_append {motive : Node → Nat → Prop} {children : List Node} {depth : Nat}
    {rest : List (Node × Nat)} (below : ∀ child ∈ children, motive child depth)
    (others : ∀ entry ∈ rest, motive entry.1 entry.2) :
    ∀ entry ∈ atDepth children depth ++ rest, motive entry.1 entry.2 := by
  intro entry member
  rcases List.mem_append.1 member with inChildren | inRest
  · obtain ⟨isChild, sameDepth⟩ := mem_atDepth_iff.1 inChildren
    exact sameDepth ▸ below entry.1 isChild
  · exact others entry inRest

/-- Rows are found along the list of nodes, where the children of a node that is shown
come in front of the rest. -/
theorem rowsFrom_induction (visible : VisibilityTable)
    {motive : List String → List (Node × Nat) → Prop} (nil : ∀ emitted, motive emitted [])
    (shown : ∀ emitted node depth rest, Shows visible emitted node →
      (∀ children, motive (node.id :: emitted) (atDepth children (depth + 1) ++ rest)) →
        motive emitted ((node, depth) :: rest))
    (hidden : ∀ emitted node depth rest, ¬ Shows visible emitted node →
      motive emitted rest → motive emitted ((node, depth) :: rest))
    (emitted : List String) (stack : List (Node × Nat)) : motive emitted stack := by
  induction emitted, stack using rowsFrom.induct {} visible (fun _ => .ok []) with
  | case1 emitted => exact nil emitted
  | case2 emitted node depth rest shows _ ih => exact shown emitted node depth rest shows ih
  | case3 emitted node depth rest shows _ ih => exact shown emitted node depth rest shows ih
  | case4 emitted node depth rest hides ih => exact hidden emitted node depth rest hides ih

section Step

variable {node : Node} {depth : Nat} {rest : List (Node × Nat)}

@[simp]
theorem rowsFrom_nil : view.rowsFrom visible ordered emitted [] = .ok [] := by
  rw [rowsFrom]

theorem rowsFrom_of_shows (shows : Shows visible emitted node) :
    view.rowsFrom visible ordered emitted ((node, depth) :: rest) =
      view.opened ordered node >>= fun children =>
        view.rowsFrom visible ordered (node.id :: emitted)
          (atDepth children (depth + 1) ++ rest) >>= fun rows =>
            .ok (view.row node depth :: rows) := by
  unfold Shows at shows
  rw [rowsFrom, dif_pos shows]
  by_cases opens : view.opens node = true
  · simp only [opened, opens, if_true]
    rfl
  · simp only [opened, opens]
    rfl

theorem rowsFrom_of_hides (hides : ¬ Shows visible emitted node) :
    view.rowsFrom visible ordered emitted ((node, depth) :: rest) =
      view.rowsFrom visible ordered emitted rest := by
  unfold Shows at hides
  rw [rowsFrom, dif_neg hides]

end Step

/-- The rows are those that the list comes to. -/
theorem rowsFrom_eq_ok_iff :
    view.rowsFrom visible ordered emitted stack = .ok rows ↔
      view.Unrolls visible ordered emitted stack rows := by
  constructor
  · intro done
    induction emitted, stack using rowsFrom_induction visible generalizing rows with
    | nil emitted =>
        obtain rfl := Except.ok.inj (rowsFrom_nil.symm.trans done)
        exact .nil
    | shown emitted node depth rest shows ih =>
        rw [rowsFrom_of_shows shows] at done
        obtain ⟨children, opens, done⟩ := exists_of_bind_eq_ok done
        obtain ⟨others, othersOk, done⟩ := exists_of_bind_eq_ok done
        obtain rfl := Except.ok.inj done
        exact .shown shows opens (ih children othersOk)
    | hidden emitted node depth rest hides ih =>
        rw [rowsFrom_of_hides hides] at done
        exact .hidden hides (ih done)
  · intro unrolls
    induction unrolls with
    | nil => exact rowsFrom_nil
    | shown shows opens _ ih =>
        rw [rowsFrom_of_shows shows, opens]
        simp only [bind, Except.bind, ih]
    | hidden hides _ ih => rw [rowsFrom_of_hides hides, ih]

/-- The ids of some rows. -/
def rowIds (rows : List Row) : List String :=
  rows.map (·.node.id)

@[simp]
theorem rowIds_nil : rowIds [] = [] :=
  rfl

@[simp]
theorem rowIds_cons_row (node : Node) (depth : Nat) (rows : List Row) :
    rowIds (view.row node depth :: rows) = node.id :: rowIds rows :=
  rfl

/-- The last row of a level. -/
def lastAt (rows : List Row) (depth : Nat) : Option Row :=
  rows.reverse.find? (·.depth = depth)

theorem lastAt_concat (rows : List Row) (row : Row) (depth : Nat) :
    lastAt (rows ++ [row]) depth = if row.depth = depth then some row else lastAt rows depth := by
  simp only [lastAt, List.reverse_append, List.reverse_singleton, List.singleton_append,
    List.find?_cons]
  split <;> simp_all

/-- Nodes come in some order of their own children that are nodes. -/
def Lists (index : Index) (ordered : Node → Except ViewError (List Node)) : Prop :=
  ∀ {node children}, ordered node = .ok children →
    children.Perm (node.children.filterMap index.find?)

namespace Lists

variable {index : Index} {node child : Node} {children : List Node}

theorem mem_iff (lists : Lists index ordered) (opens : ordered node = .ok children) :
    child ∈ children ↔ child.id ∈ node.children ∧ index.find? child.id = some child := by
  rw [(lists opens).mem_iff, List.mem_filterMap]
  constructor
  · rintro ⟨id, member, found⟩
    obtain rfl := Index.id_of_find? found
    exact ⟨member, found⟩
  · rintro ⟨member, found⟩
    exact ⟨child.id, member, found⟩

/-- The children that are shown are children, and nodes of the index. -/
theorem of_opened (lists : Lists index ordered) (opens : view.opened ordered node = .ok children)
    (member : child ∈ children) :
    child.id ∈ node.children ∧ index.find? child.id = some child ∧ view.opens node = true := by
  unfold opened at opens
  split at opens
  · rename_i isOpen
    obtain ⟨inChildren, found⟩ := (lists.mem_iff opens).1 member
    exact ⟨inChildren, found, isOpen⟩
  · obtain rfl := Except.ok.inj opens
    simp at member

/-- All children of an open node that are nodes of the index are shown. -/
theorem mem_opened (lists : Lists index ordered) (opens : view.opened ordered node = .ok children)
    (isOpen : view.opens node = true) (member : child.id ∈ node.children)
    (found : index.find? child.id = some child) : child ∈ children := by
  rw [opened, if_pos isOpen] at opens
  exact (lists.mem_iff opens).2 ⟨member, found⟩

end Lists

/-- The nodes of a list are those of an index. -/
def Known (index : Index) (stack : List (Node × Nat)) : Prop :=
  ∀ entry ∈ stack, index.find? entry.1.id = some entry.1

namespace Known

variable {index : Index} {node : Node} {depth : Nat} {rest : List (Node × Nat)}

theorem head (known : Known index ((node, depth) :: rest)) : index.find? node.id = some node :=
  known (node, depth) List.mem_cons_self

theorem tail (known : Known index ((node, depth) :: rest)) : Known index rest :=
  fun entry member => known entry (List.mem_cons_of_mem _ member)

/-- The children that are shown below the first node take its place. -/
theorem descend (known : Known index ((node, depth) :: rest)) (lists : Lists index ordered)
    {children : List Node} (opens : view.opened ordered node = .ok children) :
    Known index (atDepth children (depth + 1) ++ rest) :=
  forall_atDepth_append (motive := fun child _ => index.find? child.id = some child)
    (fun _ isChild => (lists.of_opened opens isChild).2.1) known.tail

end Known

/-- If what holds of the nodes of a list passes from a node that is shown to its
children, and children can be ordered wherever it holds, the list comes to some
rows. -/
theorem exists_unrolls {motive : Node → Prop} {passed : List String}
    (orders : ∀ {node}, motive node → Shows visible passed node → view.opens node = true →
      ∃ children, ordered node = .ok children)
    (below : ∀ {node children}, motive node → Shows visible passed node →
      view.opened ordered node = .ok children → ∀ child ∈ children, motive child)
    (covers : passed ⊆ emitted) (start : ∀ entry ∈ stack, motive entry.1) :
    ∃ rows, view.Unrolls visible ordered emitted stack rows := by
  induction emitted, stack using rowsFrom_induction visible with
  | nil emitted => exact ⟨[], .nil⟩
  | shown emitted node depth rest shows ih =>
      obtain ⟨here, others⟩ := List.forall_mem_cons.1 start
      have showsFirst : Shows visible passed node := ⟨shows.1, fun met => shows.2 (covers met)⟩
      have opened : ∃ children, view.opened ordered node = .ok children := by
        unfold opened
        split
        · rename_i isOpen
          exact orders here showsFirst isOpen
        · exact ⟨[], rfl⟩
      obtain ⟨children, opens⟩ := opened
      have startBelow : ∀ entry ∈ atDepth children (depth + 1) ++ rest, motive entry.1 :=
        forall_atDepth_append (motive := fun child _ => motive child)
          (below here showsFirst opens) others
      obtain ⟨rows, further⟩ := ih children (List.subset_cons_of_subset _ covers) startBelow
      exact ⟨_, .shown shows opens further⟩
  | hidden emitted node depth rest hides ih =>
      obtain ⟨rows, further⟩ := ih covers (List.forall_mem_cons.1 start).2
      exact ⟨rows, .hidden hides further⟩

/-- A list of nodes comes to no rows only because children cannot be ordered. -/
theorem exists_ordered_eq_error {error : ViewError}
    (refuses : view.rowsFrom visible ordered emitted stack = .error error) :
    ∃ node, ordered node = .error error := by
  induction emitted, stack using rowsFrom_induction visible with
  | nil emitted =>
      rw [rowsFrom_nil] at refuses
      cases refuses
  | shown emitted node depth rest shows ih =>
      rw [rowsFrom_of_shows shows] at refuses
      rcases error_cases_of_bind_eq_error refuses with opens | ⟨children, _, refuses⟩
      · unfold opened at opens
        split at opens
        · exact ⟨node, opens⟩
        · cases opens
      · rcases error_cases_of_bind_eq_error refuses with further | ⟨_, _, done⟩
        · exact ih children further
        · cases done
  | hidden emitted node depth rest hides ih =>
      rw [rowsFrom_of_hides hides] at refuses
      exact ih refuses

/-- A list of nodes hangs below some rows: depths fall along it, and a node that
is not on the highest level is a child of the last row one level higher. -/
structure Hangs (before : List Row) (stack : List (Node × Nat)) : Prop where
  falls : stack.Pairwise fun first second => second.2 ≤ first.2
  parent : ∀ {node depth}, (node, depth + 1) ∈ stack →
    ∃ row, lastAt before depth = some row ∧ node.id ∈ row.node.children

namespace Hangs

variable {before : List Row} {node : Node} {depth : Nat} {rest : List (Node × Nat)}

theorem tail (hangs : Hangs before ((node, depth) :: rest)) : Hangs before rest where
  falls := (List.pairwise_cons.1 hangs.falls).2
  parent := fun member => hangs.parent (List.mem_cons_of_mem _ member)

/-- The children of the node that gets the next row take its place. -/
theorem descend (hangs : Hangs before ((node, depth) :: rest)) {children : List Node}
    (areChildren : ∀ child ∈ children, child.id ∈ node.children) :
    Hangs (before ++ [view.row node depth]) (atDepth children (depth + 1) ++ rest) where
  falls := by
    obtain ⟨lower, falls⟩ := List.pairwise_cons.1 hangs.falls
    refine List.pairwise_append.2 ⟨?_, falls, ?_⟩
    · exact List.pairwise_map.2 (List.pairwise_of_forall fun _ _ => Nat.le_refl _)
    · intro entry inChildren other inRest
      rw [(mem_atDepth_iff.1 inChildren).2]
      exact Nat.le_succ_of_le (lower other inRest)
  parent := by
    intro child level member
    rw [lastAt_concat]
    rcases List.mem_append.1 member with inChildren | inRest
    · obtain ⟨isChild, sameLevel⟩ := mem_atDepth_iff.1 inChildren
      obtain rfl : level = depth := Nat.succ.inj sameLevel
      exact ⟨view.row node level, if_pos rfl, areChildren child isChild⟩
    · have lower := (List.pairwise_cons.1 hangs.falls).1 _ inRest
      have notHere : (view.row node depth).depth ≠ level := Nat.ne_of_gt lower
      rw [if_neg notHere]
      exact hangs.parent (List.mem_cons_of_mem _ inRest)

end Hangs

namespace Unrolls

variable {index : Index}

/-- What holds of the nodes of a list and passes from a node that is shown to
its children holds of every node with a row. -/
theorem forall_rows {motive : Node → Nat → Prop}
    (unrolls : view.Unrolls visible ordered emitted stack rows)
    (start : ∀ entry ∈ stack, motive entry.1 entry.2)
    (below : ∀ {node depth children}, motive node depth → Shows visible emitted node →
      view.opened ordered node = .ok children → ∀ child ∈ children, motive child (depth + 1)) :
    ∀ row ∈ rows, ∃ node depth, row = view.row node depth ∧ motive node depth ∧
      Shows visible emitted node := by
  induction unrolls with
  | nil => simp
  | @shown emitted node depth rest children rows shows opens _ ih =>
      obtain ⟨here, others⟩ := List.forall_mem_cons.1 start
      have startBelow := forall_atDepth_append (below here shows opens) others
      intro row member
      rcases List.mem_cons.1 member with rfl | later
      · exact ⟨node, depth, rfl, here, shows⟩
      · obtain ⟨other, level, rfl, holds, otherShows⟩ := ih startBelow
          (fun holds shows => below holds ⟨shows.1, fun known =>
            shows.2 (List.mem_cons_of_mem _ known)⟩) row later
        exact ⟨other, level, rfl, holds, otherShows.1, fun known =>
          otherShows.2 (List.mem_cons_of_mem _ known)⟩
  | hidden _ _ ih => exact ih (List.forall_mem_cons.1 start).2 below

theorem notMem_emitted (unrolls : view.Unrolls visible ordered emitted stack rows) {id : String}
    (member : id ∈ rowIds rows) : id ∉ emitted := by
  obtain ⟨row, inRows, rfl⟩ := List.mem_map.1 member
  obtain ⟨node, depth, rfl, _, shows⟩ := unrolls.forall_rows (motive := fun _ _ => True)
    (fun _ _ => trivial) (fun _ _ _ _ _ => trivial) row inRows
  exact shows.2

/-- No node has two rows. -/
theorem nodup_rowIds (unrolls : view.Unrolls visible ordered emitted stack rows) :
    (rowIds rows).Nodup := by
  induction unrolls with
  | nil => exact List.nodup_nil
  | shown _ _ further ih =>
      rw [rowIds_cons_row]
      exact List.nodup_cons.2
        ⟨fun member => further.notMem_emitted member List.mem_cons_self, ih⟩
  | hidden _ _ ih => exact ih

/-- Every visible node of the list has a row in the end. -/
theorem mem_rowIds_of_visible (unrolls : view.Unrolls visible ordered emitted stack rows)
    {entry : Node × Nat} (member : entry ∈ stack)
    (isVisible : visible.lookup entry.1.id = some true) :
    entry.1.id ∈ emitted ∨ entry.1.id ∈ rowIds rows := by
  induction unrolls with
  | nil => simp at member
  | shown _ _ _ ih =>
      rw [rowIds_cons_row, List.mem_cons]
      rcases List.mem_cons.1 member with rfl | inRest
      · exact Or.inr (Or.inl rfl)
      · have := ih (List.mem_append_right _ inRest)
        rw [List.mem_cons] at this
        tauto
  | hidden hides _ ih =>
      rcases List.mem_cons.1 member with rfl | inRest
      · exact Or.inl (Classical.not_not.1 fun new => hides ⟨isVisible, new⟩)
      · exact ih inRest

/-- Every visible child of a node with a row has a row in the end if the node is
open. -/
theorem mem_rowIds_of_opened (unrolls : view.Unrolls visible ordered emitted stack rows)
    {row : Row} (member : row ∈ rows) :
    ∃ children, view.opened ordered row.node = .ok children ∧
      ∀ child ∈ children, visible.lookup child.id = some true →
        child.id ∈ emitted ∨ child.id ∈ rowIds rows := by
  induction unrolls with
  | nil => simp at member
  | @shown emitted node depth rest children rows _ opens further ih =>
      have regroup {id : String} (met : id ∈ node.id :: emitted ∨ id ∈ rowIds rows) :
          id ∈ emitted ∨ id ∈ rowIds (view.row node depth :: rows) := by
        rw [rowIds_cons_row, List.mem_cons]
        rw [List.mem_cons] at met
        tauto
      rcases List.mem_cons.1 member with rfl | later
      · refine ⟨children, opens, fun child isChild isVisible => regroup ?_⟩
        have inStack : (child, depth + 1) ∈ atDepth children (depth + 1) ++ rest :=
          List.mem_append_left _ (mem_atDepth_iff.2 ⟨isChild, rfl⟩)
        exact further.mem_rowIds_of_visible inStack isVisible
      · obtain ⟨below, opensBelow, covered⟩ := ih later
        exact ⟨below, opensBelow, fun child isChild isVisible =>
          regroup (covered child isChild isVisible)⟩
  | hidden _ _ ih => exact ih member

/-- A row that is not on the highest level belongs to a child of the last row
before it that is one level higher. -/
theorem parent_of_row (unrolls : view.Unrolls visible ordered emitted stack rows)
    (lists : Lists index ordered) {before : List Row} (hangs : Hangs before stack)
    {earlier later : List Row} {row : Row} (split : rows = earlier ++ row :: later) {depth : Nat}
    (lower : row.depth = depth + 1) :
    ∃ parent, lastAt (before ++ earlier) depth = some parent ∧
      row.node.id ∈ parent.node.children := by
  -- Every row that is passed joins those before it, so the list hangs below them.
  induction unrolls generalizing before earlier with
  | nil => simp at split
  | @shown emitted node level rest children rows _ opens _ ih =>
      cases earlier with
      | nil =>
          obtain ⟨rfl, rfl⟩ := List.cons.inj split
          obtain rfl : level = depth + 1 := lower
          rw [List.append_nil]
          exact hangs.parent List.mem_cons_self
      | cons first earlier =>
          obtain ⟨rfl, splitRest⟩ := List.cons.inj split
          have descended : Hangs (before ++ [view.row node level])
              (atDepth children (level + 1) ++ rest) :=
            hangs.descend fun child isChild => (lists.of_opened opens isChild).1
          rw [← List.singleton_append, ← List.append_assoc]
          exact ih descended splitRest
  | hidden _ _ ih => exact ih hangs.tail split

end Unrolls

end View

end ScanTree

import ScanTree.Proofs.Subtree.Recurrence
import ScanTree.View.Visibility

/-!
# What is visible

A visible node is reached from the root through visible nodes, whatever the
links are: the walk that finds it comes down to it from node to node, and all of
them become visible with it.  In an acyclic index a node is visible if it leads
to one that passes the test.
-/

namespace ScanTree

namespace Index

section Disjunction

variable {index : Index} {own : Node → Bool}

theorem gather_or_eq_true_iff {folded : Folded Bool} {total : Bool} {children : List String} :
    gather (· || ·) folded total children = true ↔
      total = true ∨ ∃ child ∈ children, folded.lookup child = some true := by
  induction children generalizing total with
  | nil => simp [gather]
  | cons child rest ih =>
      cases complete : folded.lookup child with
      | none =>
          rw [gather_cons_of_incomplete rest (lookup_eq_none_iff.1 complete), ih]
          simp [complete]
      | some value =>
          rw [gather_cons_of_complete rest complete, ih]
          simp [complete, or_assoc]

/-- A solved table says of its nodes whether they lead to one that passes. -/
theorem Solved.lookup_eq_true_iff {folded : Folded Bool}
    (solved : index.Solved own (· || ·) folded) {id : String}
    (complete : id ∈ completed folded) :
    folded.lookup id = some true ↔
      ∃ other node, Relation.ReflTransGen index.NodeLink id other ∧
        index.find? other = some node ∧ own node = true := by
  induction solved generalizing id with
  | nil => simp at complete
  | @concat folded last node before found new children ih =>
      rw [completed_concat, List.mem_append, List.mem_singleton] at complete
      rcases complete with earlier | rfl
      · have different : id ≠ last := fun same => new (same ▸ earlier)
        rw [lookup_concat_other different]
        exact ih earlier
      · rw [lookup_concat_self new, Option.some.injEq, gather_or_eq_true_iff]
        constructor
        · rintro (passes | ⟨child, member, visible⟩)
          · exact ⟨id, node, .refl, found, passes⟩
          · have childComplete := mem_completed_of_lookup visible
            have link := nodeLink_of_find? found member (before.known childComplete)
            obtain ⟨other, otherNode, leads, otherFound, passes⟩ :=
              (ih childComplete).1 visible
            exact ⟨other, otherNode, .head link leads, otherFound, passes⟩
        · rintro ⟨other, otherNode, leads, otherFound, passes⟩
          rcases leads.cases_head with rfl | ⟨child, link, further⟩
          · obtain rfl := Option.some.inj (found.symm.trans otherFound)
            exact Or.inl passes
          · refine Or.inr ⟨child, mem_children_of_nodeLink link found, ?_⟩
            exact (ih (children link)).2 ⟨other, otherNode, further, otherFound, passes⟩

section Walk

variable {path : List String} {folded final : Folded Bool} {total result : Bool}
  {children : List String}

/-- A total that is true stays true. -/
theorem Walks.result_eq_true
    (walks : index.Walks own (· || ·) path folded total children result final)
    (holds : total = true) : result = true := by
  induction walks with
  | nil => exact holds
  | complete _ _ ih => exact ih (by simp [holds])
  | missing _ _ _ ih => exact ih holds
  | walked _ _ _ _ ih => exact ih holds
  | new _ _ _ _ _ _ ihFurther => exact ihFurther (by simp [holds])

/-- Every complete node that passes has become visible. -/
def Upholds (index : Index) (own : Node → Bool) (folded : Folded Bool) : Prop :=
  ∀ id node value, folded.lookup id = some value → index.find? id = some node →
    own node = true → value = true

theorem Walks.upholds
    (walks : index.Walks own (· || ·) path folded total children result final)
    (upholds : index.Upholds own folded) (settled : index.Settled path folded) :
    index.Upholds own final := by
  induction walks with
  | nil => exact upholds
  | complete _ _ ih => exact ih upholds settled
  | missing _ _ _ ih => exact ih upholds settled
  | walked _ _ _ _ ih => exact ih upholds settled
  | @new _ _ _ _ _ _ value _ child _ incomplete found offPath down _ ihDown ihFurther =>
      have upholdsBelow := ihDown upholds (settled.enter (lookup_eq_none_iff.1 incomplete))
      obtain ⟨childNew, settledChild⟩ := settled.descend incomplete found offPath down
      refine ihFurther (fun id other kept complete otherFound passes => ?_) settledChild
      by_cases same : id = child
      · subst id
        obtain rfl := Option.some.inj (found.symm.trans otherFound)
        obtain rfl := Option.some.inj ((lookup_concat_self childNew value).symm.trans complete)
        exact down.result_eq_true passes
      · rw [lookup_concat_other same] at complete
        exact upholdsBelow id other kept complete otherFound passes

theorem upholds_foldFrom (index : Index) (own : Node → Bool) (starts : List String) :
    index.Upholds own (index.foldFrom own (· || ·) false starts) := by
  obtain ⟨_, walks⟩ := index.walks_foldFrom own (· || ·) false starts
  exact walks.upholds (fun _ _ _ complete => by simp at complete) (Settled.nil index [])

/-- Where the table of a walk upholds another test that lets more nodes pass, the walk by
that test goes the same way, from any total between the start and the result. -/
theorem Walks.foldChildren_eq_of_upholds {raised : Node → Bool} {table : Folded Bool}
    (walks : index.Walks own (· || ·) path folded total children result final)
    (settled : index.Settled path folded) (raises : ∀ node, own node = true → raised node = true)
    (grows : final <+: table) (upholds : index.Upholds raised table) {start : Bool}
    (above : total = true → start = true) (below : start = true → result = true) :
    index.foldChildren raised (· || ·) path folded start children = (result, final) := by
  -- The value of a child that becomes visible is in the result, so it may join both totals.
  have joins {total start value result : Bool} (above : total = true → start = true)
      (below : start = true → result = true) (visible : value = true → result = true) :
      ((total || value) = true → (start || value) = true) ∧
        ((start || value) = true → result = true) := by
    simp only [Bool.or_eq_true]
    exact ⟨Or.imp_left above, fun either => either.elim below visible⟩
  induction walks generalizing start with
  | nil => rw [foldChildren_nil, Bool.eq_iff_iff.2 ⟨below, above⟩]
  | @complete _ _ _ _ _ value _ rest complete further ih =>
      obtain ⟨above, below⟩ := joins above below fun visible : value = true =>
        further.result_eq_true (by simp [visible])
      rw [foldChildren_of_complete rest complete]
      exact ih settled grows above below
  | @missing _ _ _ _ _ _ rest incomplete missing _ ih =>
      rw [foldChildren_of_missing rest incomplete missing]
      exact ih settled grows above below
  | @walked _ _ _ _ _ _ _ rest incomplete _ onPath _ ih =>
      rw [foldChildren_of_walked rest incomplete onPath]
      exact ih settled grows above below
  | @new _ _ _ _ _ _ value node child rest incomplete found offPath down further ihDown
      ihFurther =>
      obtain ⟨childNew, settledChild⟩ := settled.descend incomplete found offPath down
      have growsChild := further.isPrefix.trans grows
      -- The other test lets the child pass only if the child is visible already.
      have passes : raised node = true → value = true :=
        upholds child node value
          (growsChild.lookup_eq_some (lookup_concat_self childNew value)) found
      obtain ⟨above, below⟩ := joins above below fun visible : value = true =>
        further.result_eq_true (by simp [visible])
      rw [foldChildren_of_new rest incomplete found offPath,
        ihDown (settled.enter (lookup_eq_none_iff.1 incomplete))
          ((List.prefix_append _ _).trans growsChild) (raises node) passes]
      exact ihFurther settledChild grows above below

/-- What is visible by a test is visible by one that lets more nodes pass. -/
theorem lookup_foldFrom_mono {raised : Node → Bool}
    (raises : ∀ node, own node = true → raised node = true) {starts : List String} {id : String}
    (visible : (index.foldFrom own (· || ·) false starts).lookup id = some true) :
    (index.foldFrom raised (· || ·) false starts).lookup id = some true := by
  have shape : index.SameShape index own raised (fun value other => value = true → other = true) := by
    intro id
    cases index.find? id with
    | none => exact .none
    | some node => exact .some ⟨rfl, raises node⟩
  have combines {a b c d : Bool} (ofFirst : a = true → b = true) (ofSecond : c = true → d = true) :
      (a || c) = true → (b || d) = true := by
    simp only [Bool.or_eq_true]
    exact Or.imp ofFirst ofSecond
  have units : false = true → false = true := fun holds => holds
  have related := lookup_of_foldedRelated (foldFrom_related shape combines units starts) id
  rw [visible] at related
  obtain ⟨value, found, implies⟩ := exists_of_rel_some related
  rw [found, implies rfl]

/-- A test that lets more nodes pass leads to the same table just if every complete node
that it lets pass is visible in that table. -/
theorem foldFrom_eq_iff_upholds {raised : Node → Bool}
    (raises : ∀ node, own node = true → raised node = true) {starts : List String} :
    index.foldFrom raised (· || ·) false starts = index.foldFrom own (· || ·) false starts ↔
      index.Upholds raised (index.foldFrom own (· || ·) false starts) := by
  constructor
  · intro same
    rw [← same]
    exact index.upholds_foldFrom raised starts
  · intro upholds
    obtain ⟨result, walks⟩ := index.walks_foldFrom own (· || ·) false starts
    have sameWay : index.foldChildren raised (· || ·) [] [] false starts = (result, _) :=
      walks.foldChildren_eq_of_upholds (Settled.nil index []) raises (List.prefix_refl _) upholds
        id fun holds => absurd holds (by decide)
    rw [foldFrom, sameWay]

/-- One visible node is among the children of another one, and off a path. -/
def VisibleLink (index : Index) (table : Folded Bool) (path : List String)
    (parent child : String) : Prop :=
  index.NodeLink parent child ∧ table.lookup child = some true ∧ child ∉ path

theorem VisibleLink.of_cons {table : Folded Bool} {path : List String}
    {id parent child : String} (link : index.VisibleLink table (id :: path) parent child) :
    index.VisibleLink table path parent child :=
  ⟨link.1, link.2.1, fun onPath => link.2.2 (List.mem_cons_of_mem id onPath)⟩

/-- One of some children leads to a node through nodes that are visible and off a
path. -/
def LeadsVisibly (index : Index) (table : Folded Bool) (path children : List String)
    (id : String) : Prop :=
  ∃ child ∈ children, child ∈ index.ids ∧ child ∉ path ∧ table.lookup child = some true ∧
    Relation.ReflTransGen (index.VisibleLink table path) child id

namespace LeadsVisibly

variable {table : Folded Bool} {child id : String} {rest : List String}

theorem cons (leads : index.LeadsVisibly table path rest id) :
    index.LeadsVisibly table path (child :: rest) id := by
  obtain ⟨start, member, chain⟩ := leads
  exact ⟨start, List.mem_cons_of_mem child member, chain⟩

/-- What the children of a visible node lead to, the node leads to. -/
theorem under {node : Node} (leads : index.LeadsVisibly table (child :: path) node.children id)
    (found : index.find? child = some node) (offPath : child ∉ path)
    (isVisible : table.lookup child = some true) :
    index.LeadsVisibly table path (child :: rest) id := by
  obtain ⟨start, member, known, startOff, startVisible, chain⟩ := leads
  have link : index.VisibleLink table path child start :=
    ⟨nodeLink_of_find? found member known, startVisible,
      fun onPath => startOff (List.mem_cons_of_mem child onPath)⟩
  have shorterPath := Relation.ReflTransGen.mono
    (fun _ _ (step : index.VisibleLink table (child :: path) _ _) => step.of_cons) _ _ chain
  exact ⟨child, List.mem_cons_self, mem_ids_of_find? found, offPath, isVisible,
    .head link shorterPath⟩

end LeadsVisibly

/-- What the walk makes visible makes its total true, and one of the children
leads to it through nodes that are visible at its end and off the path. -/
theorem Walks.leadsVisibly
    (walks : index.Walks own (· || ·) path folded total children result final)
    (settled : index.Settled path folded) {table : Folded Bool} (grows : final <+: table)
    {id : String} (isVisible : final.lookup id = some true) (new : id ∉ completed folded) :
    result = true ∧ index.LeadsVisibly table path children id := by
  induction walks with
  | nil => exact absurd (mem_completed_of_lookup isVisible) new
  | complete _ _ ih => exact (ih settled grows isVisible new).imp_right .cons
  | missing _ _ _ ih => exact (ih settled grows isVisible new).imp_right .cons
  | walked _ _ _ _ ih => exact (ih settled grows isVisible new).imp_right .cons
  | @new _ _ below _ _ _ value _ child rest incomplete found offPath down further ihDown
      ihFurther =>
      obtain ⟨childNew, settledChild⟩ := settled.descend incomplete found offPath down
      by_cases early : id ∈ completed (below ++ [(child, value)])
      · -- The node became visible at the child or below it, and the child with it.
        obtain ⟨held, heldFound⟩ := exists_lookup_of_mem early
        obtain rfl := Option.some.inj
          ((further.isPrefix.lookup_eq_some heldFound).symm.trans isVisible)
        have childVisible (holds : value = true) : table.lookup child = some true :=
          holds ▸ (further.isPrefix.trans grows).lookup_eq_some
            (lookup_concat_self childNew value)
        have resultHolds (holds : value = true) := further.result_eq_true (by simp [holds])
        by_cases same : id = child
        · subst id
          obtain rfl := Option.some.inj (heldFound.symm.trans (lookup_concat_self childNew value))
          exact ⟨resultHolds rfl, child, List.mem_cons_self, mem_ids_of_find? found, offPath,
            childVisible rfl, .refl⟩
        · rw [lookup_concat_other same] at heldFound
          have growsBelow := ((List.prefix_append _ _).trans further.isPrefix).trans grows
          obtain ⟨holds, leads⟩ := ihDown (settled.enter (lookup_eq_none_iff.1 incomplete))
            growsBelow heldFound new
          exact ⟨resultHolds holds, leads.under found offPath (childVisible holds)⟩
      · exact (ihFurther settledChild grows isVisible early).imp_right .cons

end Walk

end Disjunction

section Root

variable (index : Index) (showExcluded : Bool) (search : String)

/-- Everything that the root leads to is looked at. -/
theorem mem_completed_visibility {root : Node} (found : index.root? = some root) {id : String}
    (leads : Relation.ReflTransGen index.NodeLink index.rootId id) :
    id ∈ completed (index.visibility showExcluded search) :=
  index.mem_completed_foldFrom _ _ _ List.mem_cons_self (mem_ids_of_find? found) leads

/-- The root is looked at last, after a walk over its children. -/
theorem exists_walks_root {root : Node} (found : index.root? = some root) :
    ∃ value below, index.Walks (·.passes showExcluded search) (· || ·) [index.rootId] []
        (root.passes showExcluded search) root.children value below ∧
      index.visibility showExcluded search = below ++ [(index.rootId, value)] := by
  refine ⟨_, _, index.walks_foldChildren _ _ _ _ _ _, ?_⟩
  rw [visibility, foldFrom, foldChildren_of_new [] (by simp) found List.not_mem_nil,
    foldChildren_nil]

variable {index showExcluded search}

/-- A node that passes and that the root leads to is visible. -/
theorem visible_of_passes {root : Node} (rootFound : index.root? = some root) {id : String}
    {node : Node} (found : index.find? id = some node)
    (leads : Relation.ReflTransGen index.NodeLink index.rootId id)
    (passes : node.passes showExcluded search = true) :
    (index.visibility showExcluded search).lookup id = some true := by
  have upholds := index.upholds_foldFrom (·.passes showExcluded search) [index.rootId]
  obtain ⟨value, complete⟩ := exists_lookup_of_mem
    (index.mem_completed_visibility showExcluded search rootFound leads)
  rw [complete, upholds id node value complete found passes]

/-- A visible node other than the root is reached from a child of the root
through visible nodes other than the root. -/
theorem exists_visible_chain_of_root {root : Node} (found : index.root? = some root)
    {id : String} (visible : (index.visibility showExcluded search).lookup id = some true)
    (notRoot : id ≠ index.rootId) :
    ∃ child, index.VisibleLink (index.visibility showExcluded search) [index.rootId]
        index.rootId child ∧
      Relation.ReflTransGen
        (index.VisibleLink (index.visibility showExcluded search) [index.rootId]) child id := by
  obtain ⟨value, below, walks, eq⟩ := index.exists_walks_root showExcluded search found
  rw [eq, lookup_concat_other notRoot] at visible
  have grows : below <+: index.visibility showExcluded search := eq ▸ List.prefix_append _ _
  obtain ⟨_, child, member, known, offRoot, childVisible, chain⟩ :=
    walks.leadsVisibly (.nil index _) grows visible (by simp)
  exact ⟨child, ⟨nodeLink_of_find? found member known, childVisible, offRoot⟩, chain⟩

/-- In an acyclic index a node that the root leads to is visible if it leads to
one that passes. -/
theorem visible_iff (acyclic : index.Acyclic) {root : Node} (found : index.root? = some root)
    {id : String} (leads : Relation.ReflTransGen index.NodeLink index.rootId id) :
    (index.visibility showExcluded search).lookup id = some true ↔
      ∃ other node, Relation.ReflTransGen index.NodeLink id other ∧
        index.find? other = some node ∧ node.passes showExcluded search = true :=
  (solved_foldFrom acyclic _ _ _ _).lookup_eq_true_iff
    (index.mem_completed_visibility showExcluded search found leads)

end Root

end Index

end ScanTree

import ScanTree.Proofs.Subtree.Sweep
import ScanTree.Proofs.View.Loops

/-!
# What visibility depends on

Visibility is computed for the nodes that the root leads to and for no others.
A node is visible only if it leads to one that passes the test, whatever the
links are.  On a circle the converse can fail, as a node that is met again is
skipped; where the root leads to no circle it holds, even if nodes are shared or
children are missing.
-/

namespace ScanTree

open StateTransition

namespace Index

/-- A node leads to one that passes a test. -/
def LeadsToPassing (index : Index) (own : Node → Bool) (id : String) : Prop :=
  ∃ other node, Relation.ReflTransGen index.NodeLink id other ∧
    index.find? other = some node ∧ own node = true

section Disjunction

variable {index : Index} {own : Node → Bool} {path : List String} {folded final : Folded Bool}
  {total result : Bool} {children : List String}

theorem LeadsToPassing.mem_ids {id : String} (leads : index.LeadsToPassing own id) :
    id ∈ index.ids := by
  obtain ⟨other, node, further, found, _⟩ := leads
  rcases further.cases_head with rfl | ⟨_, ⟨⟨_, parentFound, _⟩, _⟩, _⟩
  · exact mem_ids_of_find? found
  · exact mem_ids_of_find? parentFound

theorem LeadsToPassing.of_child {id child : String} {node : Node}
    (leads : index.LeadsToPassing own child) (found : index.find? id = some node)
    (member : child ∈ node.children) : index.LeadsToPassing own id := by
  have link := nodeLink_of_find? found member leads.mem_ids
  obtain ⟨other, otherNode, further, otherFound, passes⟩ := leads
  exact ⟨other, otherNode, .head link further, otherFound, passes⟩

/-- Where every visible node leads to one that passes, the walk keeps this, and its total is
true only if it was so before or one of the children leads to a node that passes. -/
theorem Walks.leadsToPassing
    (walks : index.Walks own (· || ·) path folded total children result final)
    (before : ∀ entry ∈ folded, entry.2 = true → index.LeadsToPassing own entry.1) :
    (∀ entry ∈ final, entry.2 = true → index.LeadsToPassing own entry.1) ∧
      (result = true → total = true ∨ ∃ child ∈ children, index.LeadsToPassing own child) := by
  have later {child : String} {rest : List String} {start : Bool}
      (cause : start = true ∨ ∃ other ∈ rest, index.LeadsToPassing own other) :
      start = true ∨ ∃ other ∈ child :: rest, index.LeadsToPassing own other := by
    refine cause.imp_right ?_
    rintro ⟨other, member, leads⟩
    exact ⟨other, List.mem_cons_of_mem child member, leads⟩
  -- A total with the value of a child in it is true for one of both.
  have split {child : String} {rest : List String} {start value : Bool}
      (ofValue : value = true → index.LeadsToPassing own child)
      (cause : (start || value) = true ∨ ∃ other ∈ rest, index.LeadsToPassing own other) :
      start = true ∨ ∃ other ∈ child :: rest, index.LeadsToPassing own other := by
    rcases cause with either | below
    · rw [Bool.or_eq_true] at either
      exact either.imp_right fun holds => ⟨child, List.mem_cons_self, ofValue holds⟩
    · exact later (Or.inr below)
  induction walks with
  | nil => exact ⟨before, Or.inl⟩
  | complete complete _ ih =>
      obtain ⟨kept, cause⟩ := ih before
      exact ⟨kept, fun holds => split (before _ (mem_of_lookup complete)) (cause holds)⟩
  | missing _ _ _ ih => exact (ih before).imp_right fun cause holds => later (cause holds)
  | walked _ _ _ _ ih => exact (ih before).imp_right fun cause holds => later (cause holds)
  | @new _ _ below _ _ _ value node child _ _ found _ _ _ ihDown ihFurther =>
      obtain ⟨keptBelow, causeBelow⟩ := ihDown before
      have ofValue (holds : value = true) : index.LeadsToPassing own child := by
        rcases causeBelow holds with passes | ⟨grandchild, member, leads⟩
        · exact ⟨child, node, .refl, found, passes⟩
        · exact leads.of_child found member
      have keptChild : ∀ entry ∈ below ++ [(child, value)], entry.2 = true →
          index.LeadsToPassing own entry.1 :=
        List.forall_mem_append.2 ⟨keptBelow, List.forall_mem_singleton.2 ofValue⟩
      obtain ⟨kept, cause⟩ := ihFurther keptChild
      exact ⟨kept, fun holds => split ofValue (cause holds)⟩

end Disjunction

section Root

variable {index : Index} {showExcluded : Bool} {search : String}

theorem leadsToPassing_of_visible {id : String}
    (visible : (index.visibility showExcluded search).lookup id = some true) :
    index.LeadsToPassing (·.passes showExcluded search) id := by
  obtain ⟨_, walks⟩ := index.walks_foldFrom (·.passes showExcluded search) (· || ·) false
    [index.rootId]
  exact (walks.leadsToPassing fun _ nothing => absurd nothing List.not_mem_nil).1 _
    (mem_of_lookup visible) rfl

theorem mem_completed_visibility_iff (index : Index) (showExcluded : Bool) (search : String)
    {id : String} :
    id ∈ completed (index.visibility showExcluded search) ↔
      index.rootId ∈ index.ids ∧ Relation.ReflTransGen index.NodeLink index.rootId id := by
  rw [visibility, mem_completed_foldFrom_iff]
  simp only [List.mem_singleton, exists_eq_left]

theorem visibility_of_missing_root (missing : index.root? = none) :
    index.visibility showExcluded search = [] := by
  rw [visibility, foldFrom, foldChildren_of_missing [] rfl missing, foldChildren_nil]

/-- Where the root leads to no circle, what leads to a node that passes is visible. -/
theorem visible_iff_leadsToPassing (acyclic : index.AcyclicFrom [index.rootId]) {id : String}
    (complete : id ∈ completed (index.visibility showExcluded search)) :
    (index.visibility showExcluded search).lookup id = some true ↔
      index.LeadsToPassing (·.passes showExcluded search) id :=
  (solved_foldFrom_of_acyclicFrom acyclic _ _ _).lookup_eq_true_iff complete

end Root

/-- Whatever the links of an index are, the loop that computes visibility ends.  It looks at
the root and at everything that the root leads to, once each, and at nothing if there is no
root.  What it finds visible leads to a node that passes the test; and where the root leads to
no circle, everything that it leads to is visible if it leads to a node that passes. -/
theorem visibility_of_any_index (index : Index) (showExcluded : Bool) (search : String) :
    (∀ root, index.root? = some root →
      ⟨[], [], ∅, index.visibility showExcluded search⟩ ∈
        eval ((seeing showExcluded search).sweep index)
          ⟨[], [(seeing showExcluded search).enter root], {index.rootId}, []⟩) ∧
    (index.root? = none → index.visibility showExcluded search = []) ∧
    (completed (index.visibility showExcluded search)).Nodup ∧
    (∀ id, id ∈ completed (index.visibility showExcluded search) ↔
      index.rootId ∈ index.ids ∧ Relation.ReflTransGen index.NodeLink index.rootId id) ∧
    (∀ id, (index.visibility showExcluded search).lookup id = some true →
      index.LeadsToPassing (·.passes showExcluded search) id) ∧
    ((∀ id, Relation.ReflTransGen index.NodeLink index.rootId id →
        ¬ Relation.TransGen index.NodeLink id id) →
      ∀ id, id ∈ completed (index.visibility showExcluded search) →
        ((index.visibility showExcluded search).lookup id = some true ↔
          index.LeadsToPassing (·.passes showExcluded search) id)) := by
  refine ⟨fun root found => ?_, visibility_of_missing_root, ?_,
    fun _ => mem_completed_visibility_iff index showExcluded search,
    fun _ => leadsToPassing_of_visible, ?_⟩
  · have ends := mem_eval_sweep_of_find? (seeing showExcluded search) false found
    rwa [own_seeing] at ends
  · exact (index.settled_foldFrom _ _ _ _).nodup
  · intro noCircle id complete
    have acyclic : index.AcyclicFrom [index.rootId] := by
      intro start id member _ leads
      obtain rfl := List.mem_singleton.1 member
      exact noCircle id leads
    exact visible_iff_leadsToPassing acyclic complete

/-- A search for a file that two directories share makes both of them visible, one of them by
what is known of the file already.  A match that the root does not lead to is not looked at. -/
theorem visibility_of_shared_match :
    let index : Index :=
      { rootId := "."
        nodes := Table.ofList
          [{ id := ".", name := ".", kind := .dir, children := ["d", "e", "f"] },
            { id := "d", name := "d", kind := .dir, children := ["x"] },
            { id := "e", name := "e", kind := .dir, children := ["x", "gone"] },
            { id := "f", name := "f", kind := .file },
            { id := "x", name := "x", kind := .file },
            { id := "x/y", name := "y", kind := .file }]
        counts := {} }
    (∀ id, Relation.ReflTransGen index.NodeLink index.rootId id →
        ¬ Relation.TransGen index.NodeLink id id) ∧
      (index.visibility false " X ").lookup "d" = some true ∧
      (index.visibility false " X ").lookup "e" = some true ∧
      (index.visibility false " X ").lookup "f" ≠ some true ∧
      "x/y" ∉ completed (index.visibility false " X ") := by
  intro index
  let rank : String → Nat := fun id => if id = "." then 0 else if id = "x" then 2 else 1
  have acyclic : index.Acyclic := by
    have ascends : ∀ node ∈ index.nodes.entries, ∀ child ∈ node.children, child ∈ index.ids →
        rank node.id < rank child := by decide +kernel
    refine acyclic_of_rank rank fun {parent child} link => ?_
    obtain ⟨⟨node, found, member⟩, known⟩ := link
    rw [← id_of_find? found]
    exact ascends node (Table.mem_of_find? found) child member known
  have noCircle : ∀ id, Relation.ReflTransGen index.NodeLink index.rootId id →
      ¬ Relation.TransGen index.NodeLink id id := fun id _ => acyclic id
  obtain ⟨_, _, _, keys, _, visible⟩ := visibility_of_any_index index false " X "
  have link {parent child : String} (isLink : ∃ node, index.find? parent = some node ∧
      child ∈ node.children ∧ child ∈ index.ids) : index.NodeLink parent child := by
    obtain ⟨node, found, member, known⟩ := isLink
    exact nodeLink_of_find? found member known
  have below {id : String} (isChild : index.NodeLink index.rootId id) :
      id ∈ completed (index.visibility false " X ") :=
    (keys id).2 ⟨by decide +kernel, .single isChild⟩
  have hit : index.find? "x" = some { id := "x", name := "x", kind := .file } := by
    decide +kernel
  have passes : ({ id := "x", name := "x", kind := .file } : Node).passes false " X " = true := by
    decide +kernel
  refine ⟨noCircle, ?_, ?_, ?_, ?_⟩
  · refine (visible noCircle "d" (below (link ⟨_, rfl, by decide, by decide +kernel⟩))).2 ?_
    exact ⟨"x", _, .single (link ⟨_, rfl, by decide, by decide +kernel⟩), hit, passes⟩
  · refine (visible noCircle "e" (below (link ⟨_, rfl, by decide, by decide +kernel⟩))).2 ?_
    exact ⟨"x", _, .single (link ⟨_, rfl, by decide, by decide +kernel⟩), hit, passes⟩
  · intro isVisible
    obtain ⟨other, node, leads, found, nodePasses⟩ := leadsToPassing_of_visible isVisible
    rcases leads.cases_head with rfl | ⟨child, ⟨⟨parent, parentFound, member⟩, _⟩, _⟩
    · obtain rfl : node = { id := "f", name := "f", kind := .file } :=
        Option.some.inj (found.symm.trans (by decide +kernel))
      exact absurd nodePasses (by decide +kernel)
    · obtain rfl : parent = { id := "f", name := "f", kind := .file } :=
        Option.some.inj (parentFound.symm.trans (by decide +kernel))
      exact absurd member List.not_mem_nil
  · intro complete
    have nobody : ∀ node ∈ index.nodes.entries, "x/y" ∉ node.children := by decide +kernel
    have leads := ((keys "x/y").1 complete).2
    rcases leads.cases_tail with same | ⟨parent, _, ⟨⟨node, found, member⟩, _⟩⟩
    · exact absurd same (by decide)
    · exact nobody node (Table.mem_of_find? found) member

end Index

end ScanTree

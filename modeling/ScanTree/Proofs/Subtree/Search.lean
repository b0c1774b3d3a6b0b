import ScanTree.Proofs.Subtree.Recurrence

/-!
# The search behind a fold

A fold over subtrees is a depth-first search that adds values up on its way.
The search alone decides in which order nodes are left and which path leads to
each of them.  Whatever the links of an index are, the value of a node is then
its own part combined with the values of those of its children that are off the
path, and all of these were left before it.
-/

namespace ScanTree

namespace Index

variable {α : Type} {index : Index}

/-- A node that a search has left, and the path that led to it, the node's own
id in front. -/
structure Visit where
  node : Node
  path : List String

/-- The id of a visited node. -/
abbrev Visit.id (visit : Visit) : String :=
  visit.node.id

/-- Search depth first from a list of children below a path.  The children are
taken in order, and one that was visited, that is on the path or that is no node
is skipped. -/
def visitChildren (index : Index) (path : List String) (visits : List Visit) :
    List String → List Visit
  | [] => visits
  | child :: rest =>
    if _skipped : child ∈ visits.map Visit.id ∨ child ∈ path then
      index.visitChildren path visits rest
    else
      match _found : index.find? child with
      | none => index.visitChildren path visits rest
      | some node =>
        let below := index.visitChildren (child :: path) visits node.children
        index.visitChildren path (below ++ [⟨node, child :: path⟩]) rest
termination_by children => (index.unvisited path, children.length)
decreasing_by
  all_goals simp_wf
  all_goals first
    | (apply Prod.Lex.right; simp)
    | (apply Prod.Lex.left
       exact unvisited_cons_lt (mem_ids_of_find? (by assumption)) (by tauto))

/-- The visits of a search that starts from every node in turn. -/
def search (index : Index) : List Visit :=
  index.visitChildren [] [] index.ids

section Cases

variable {path : List String} {visits : List Visit} {child : String}

@[simp]
theorem visitChildren_nil : index.visitChildren path visits [] = visits := by
  rw [visitChildren]

theorem visitChildren_of_skipped (rest : List String)
    (skipped : child ∈ visits.map Visit.id ∨ child ∈ path ∨ index.find? child = none) :
    index.visitChildren path visits (child :: rest) = index.visitChildren path visits rest := by
  rw [visitChildren]
  split
  · rfl
  · rename_i met
    have missing : index.find? child = none := by tauto
    split
    · rfl
    · rename_i found
      rw [missing] at found
      cases found

theorem visitChildren_of_new {node : Node} (rest : List String)
    (new : child ∉ visits.map Visit.id) (offPath : child ∉ path)
    (found : index.find? child = some node) :
    index.visitChildren path visits (child :: rest) =
      index.visitChildren path
        (index.visitChildren (child :: path) visits node.children ++ [⟨node, child :: path⟩])
        rest := by
  rw [visitChildren, dif_neg (not_or.2 ⟨new, offPath⟩)]
  split
  · simp_all
  · rename_i other otherFound
    obtain rfl := Option.some.inj (found.symm.trans otherFound)
    rfl

end Cases

/-- A table accounts for some visits: it has their nodes in the same order, and
the value of a node combines its own part with the values of its children off
the path, all of which were visited before. -/
structure Accounts (index : Index) (own : Node → α) (combine : α → α → α)
    (visits : List Visit) (folded : Folded α) : Prop where
  completed_eq : completed folded = visits.map Visit.id
  found : ∀ {visit}, visit ∈ visits → index.find? visit.id = some visit.node
  earlier : ∀ {before visit after}, visits = before ++ visit :: after →
    ∀ {child}, index.NodeLink visit.id child → child ∉ visit.path →
      child ∈ before.map Visit.id
  lookup_eq : ∀ {visit}, visit ∈ visits → folded.lookup visit.id =
    some (gather combine folded (own visit.node) (visit.node.children.filter (· ∉ visit.path)))

namespace Accounts

variable {own : Node → α} {combine : α → α → α} {visits : List Visit} {folded : Folded α}

theorem nil : index.Accounts own combine [] ([] : Folded α) where
  completed_eq := rfl
  found := fun member => absurd member List.not_mem_nil
  earlier := fun split => by simp at split
  lookup_eq := fun member => absurd member List.not_mem_nil

theorem mem_completed_iff (accounts : index.Accounts own combine visits folded) {id : String} :
    id ∈ completed folded ↔ id ∈ visits.map Visit.id := by
  rw [accounts.completed_eq]

theorem child_mem_completed (accounts : index.Accounts own combine visits folded)
    {visit : Visit} (member : visit ∈ visits) {child : String}
    (link : index.NodeLink visit.id child) (offPath : child ∉ visit.path) :
    child ∈ completed folded := by
  obtain ⟨before, after, split⟩ := List.append_of_mem member
  have visited := accounts.earlier split link offPath
  rw [accounts.completed_eq, split, List.map_append]
  exact List.mem_append_left _ visited

/-- One more value does not change what the children off a path come to. -/
theorem gather_concat {visit : Visit} (found : index.find? visit.id = some visit.node)
    (children : ∀ {child}, index.NodeLink visit.id child → child ∉ visit.path →
      child ∈ completed folded)
    {other : String} (known : other ∈ index.ids) (new : other ∉ completed folded)
    (value total : α) :
    gather combine (folded ++ [(other, value)]) total
        (visit.node.children.filter (· ∉ visit.path)) =
      gather combine folded total (visit.node.children.filter (· ∉ visit.path)) := by
  apply gather_congr
  intro child counted
  obtain ⟨member, offPath⟩ := List.mem_filter.1 counted
  apply lookup_concat_other
  rintro rfl
  exact new (children (nodeLink_of_find? found member known) (of_decide_eq_true offPath))

theorem concat (accounts : index.Accounts own combine visits folded) {visit : Visit}
    (found : index.find? visit.id = some visit.node) (new : visit.id ∉ completed folded)
    (children : ∀ {child}, index.NodeLink visit.id child → child ∉ visit.path →
      child ∈ completed folded) :
    index.Accounts own combine (visits ++ [visit])
      (folded ++ [(visit.id, gather combine folded (own visit.node)
        (visit.node.children.filter (· ∉ visit.path)))]) := by
  have known := mem_ids_of_find? found
  refine ⟨?_, ?_, ?_, ?_⟩
  · rw [completed_concat, accounts.completed_eq, List.map_append, List.map_singleton]
  · intro other member
    rcases List.mem_append.1 member with earlier | last
    · exact accounts.found earlier
    · rwa [List.mem_singleton.1 last]
  · intro before other after split child link offPath
    rcases split_concat split with ⟨rfl, rfl⟩ | ⟨rest, before⟩
    · exact accounts.mem_completed_iff.1 (children link offPath)
    · exact accounts.earlier before link offPath
  · intro other member
    rcases List.mem_append.1 member with earlier | last
    · have complete := accounts.mem_completed_iff.2 (List.mem_map_of_mem earlier)
      have different : other.id ≠ visit.id := fun same => new (same ▸ complete)
      rw [lookup_concat_other different, accounts.lookup_eq earlier,
        gather_concat (accounts.found earlier) (accounts.child_mem_completed earlier) known new]
    · obtain rfl := List.mem_singleton.1 last
      rw [lookup_concat_self new, gather_concat found children known new]

end Accounts

section Walk

variable {own : Node → α} {combine : α → α → α}

/-- The walk over a list of children accounts for the search from them, and its
total combines the values of the children off the path. -/
theorem Walks.accounts {path : List String} {folded final : Folded α} {total result : α}
    {children : List String}
    (walks : index.Walks own combine path folded total children result final)
    (settled : index.Settled path folded) {visits : List Visit}
    (accounts : index.Accounts own combine visits folded) :
    index.Accounts own combine (index.visitChildren path visits children) final ∧
      result = gather combine final total (children.filter (· ∉ path)) := by
  induction walks generalizing visits with
  | nil =>
      rw [visitChildren_nil]
      exact ⟨accounts, rfl⟩
  | @complete path _ _ _ _ _ child rest complete further ih =>
      obtain ⟨accountsRest, totalRest⟩ := ih settled accounts
      have member := mem_completed_of_lookup complete
      have kept := further.isPrefix.lookup_eq_some complete
      rw [visitChildren_of_skipped rest (Or.inl (accounts.mem_completed_iff.1 member)),
        List.filter_cons_of_pos (by simpa using settled.off_path member),
        gather_cons_of_complete _ kept]
      exact ⟨accountsRest, totalRest⟩
  | @missing path _ _ _ _ child rest _ missing further ih =>
      obtain ⟨accountsRest, totalRest⟩ := ih settled accounts
      have incomplete : child ∉ completed _ := fun complete =>
        Table.find?_eq_none_iff.1 missing ((further.settled settled).known complete)
      rw [visitChildren_of_skipped rest (Or.inr (Or.inr missing)), List.filter_cons]
      refine ⟨accountsRest, ?_⟩
      split
      · rw [gather_cons_of_incomplete _ incomplete, totalRest]
      · exact totalRest
  | @walked path _ _ _ _ _ child rest _ _ onPath _ ih =>
      obtain ⟨accountsRest, totalRest⟩ := ih settled accounts
      rw [visitChildren_of_skipped rest (Or.inr (Or.inl onPath)),
        List.filter_cons_of_neg (by simpa using onPath)]
      exact ⟨accountsRest, totalRest⟩
  | @new path folded below _ _ _ value node child rest incomplete found offPath down further ihDown
      ihFurther =>
      have fresh := lookup_eq_none_iff.1 incomplete
      have settledBelow := settled.enter fresh
      obtain ⟨childNew, settledChild⟩ := settled.descend incomplete found offPath down
      obtain ⟨accountsBelow, totalBelow⟩ := ihDown settledBelow accounts
      obtain rfl := id_of_find? found
      have counted {other : String} (link : index.NodeLink node.id other)
          (otherOff : other ∉ node.id :: path) : other ∈ completed below :=
        (down.mem_completed (mem_children_of_nodeLink link found) link.2).resolve_right otherOff
      let visit : Visit := ⟨node, node.id :: path⟩
      have visitFound : index.find? visit.id = some visit.node := found
      have accountsChild := accountsBelow.concat visitFound childNew counted
      rw [← totalBelow] at accountsChild
      obtain ⟨accountsRest, totalRest⟩ := ihFurther settledChild accountsChild
      have kept := further.isPrefix.lookup_eq_some (lookup_concat_self childNew value)
      rw [visitChildren_of_new rest (fun visited => fresh (accounts.mem_completed_iff.2 visited))
          offPath found,
        List.filter_cons_of_pos (by simpa using offPath), gather_cons_of_complete _ kept]
      exact ⟨accountsRest, totalRest⟩

/-- A fold that starts from every node accounts for the search that does. -/
theorem accounts_foldFrom (index : Index) (own : Node → α) (combine : α → α → α) (unit : α) :
    index.Accounts own combine index.search (index.foldFrom own combine unit index.ids) := by
  obtain ⟨_, walks⟩ := index.walks_foldFrom own combine unit index.ids
  exact (walks.accounts (Settled.nil index []) Accounts.nil).1

end Walk

end Index

end ScanTree

import ScanTree.Builder
import ScanTree.Proofs.Path.Lineage

/-!
# Putting paths under their parents

While a path is put in its place, every path before it is in its place already,
and it is itself the last one known.  This is what one step of the walk up the
ancestors preserves, so the walk ends with every path in its place.  It stops
at the first path that was known before, since the ancestors of that one are
known as well.
-/

namespace ScanTree

namespace Draft

/-- The draft without what its place in the tree decides. -/
def detached (draft : Draft) : Draft :=
  { draft with node := { draft.node with kind := .file, children := [] } }

@[simp]
theorem id_fresh (id : String) (kind : Kind) (counted : List Category) :
    Draft.id ⟨.fresh id kind, counted⟩ = id :=
  rfl

@[simp]
theorem detached_raise (draft : Draft) (kind : Kind) :
    (draft.raise kind).detached = draft.detached := by
  unfold raise
  split <;> rfl

@[simp]
theorem detached_addChild (draft : Draft) (child : String) :
    (draft.addChild child).detached = draft.detached :=
  rfl

@[simp]
theorem children_raise (draft : Draft) (kind : Kind) :
    (draft.raise kind).node.children = draft.node.children := by
  unfold raise
  split <;> rfl

@[simp]
theorem children_addChild (draft : Draft) (child : String) :
    (draft.addChild child).node.children = draft.node.children ++ [child] :=
  rfl

theorem kind_raise (draft : Draft) (kind : Kind) :
    (draft.raise kind).node.kind = if kind = .dir then .dir else draft.node.kind := by
  unfold raise
  split <;> rfl

theorem raise_eq_self {draft : Draft} {kind : Kind}
    (settled : kind = .dir → draft.node.kind = .dir) : draft.raise kind = draft := by
  unfold raise
  split
  · rename_i isDir
    have kindEq := settled isDir
    obtain ⟨node, counted⟩ := draft
    obtain ⟨id, name, kind, decision, lastEvent, children, second, origin⟩ := node
    simp only at kindEq
    rw [kindEq]
  · rfl

end Draft

namespace Drafts

/-- What is told about a path, its place apart.  About a path that is not known
nothing is told. -/
def detachedFor (drafts : Drafts) (id : String) : Draft :=
  (drafts.draftFor id .file).detached

theorem draftFor_of_find? {drafts : Drafts} {id : String} {draft : Draft}
    (found : drafts.find? id = some draft) (kind : Kind) :
    drafts.draftFor id kind = draft.raise kind := by
  simp [draftFor, found]

theorem draftFor_of_notMem {drafts : Drafts} {id : String} (unknown : id ∉ drafts.keys)
    (kind : Kind) : drafts.draftFor id kind = ⟨.fresh id kind, []⟩ := by
  simp [draftFor, Table.find?_eq_none_iff.2 unknown]

@[simp]
theorem detached_draftFor (drafts : Drafts) (id : String) (kind : Kind) :
    (drafts.draftFor id kind).detached = drafts.detachedFor id := by
  unfold detachedFor draftFor
  split
  · simp
  · rfl

theorem detachedFor_of_find? {drafts : Drafts} {id : String} {draft : Draft}
    (found : drafts.find? id = some draft) : drafts.detachedFor id = draft.detached := by
  rw [detachedFor, draftFor_of_find? found, Draft.detached_raise]

theorem detachedFor_put (drafts : Drafts) (draft : Draft) (id : String) :
    detachedFor (drafts.put draft) id =
      if id = draft.id then draft.detached else drafts.detachedFor id := by
  by_cases same : id = draft.id
  · have found : (drafts.put draft).find? id = some draft := by
      rw [Table.find?_put, if_pos same]
    rw [detachedFor_of_find? found, if_pos same]
  · simp only [detachedFor, draftFor, Table.find?_put, same, if_false]

theorem kind_draftFor_dir (drafts : Drafts) (id : String) :
    (drafts.draftFor id .dir).node.kind = .dir := by
  unfold draftFor
  split
  · simp [Draft.kind_raise]
  · rfl

/-! ## One step of the walk -/

theorem link_cons_of_mem {drafts : Drafts} {child parent : String} (rest : List String)
    (linked : child ∈ (drafts.draftFor parent .dir).node.children) :
    drafts.link child (parent :: rest) = drafts.put (drafts.draftFor parent .dir) := by
  simp [link, linked]

theorem link_cons_of_notMem {drafts : Drafts} {child parent : String} (rest : List String)
    (unlinked : child ∉ (drafts.draftFor parent .dir).node.children) :
    drafts.link child (parent :: rest) =
      link (drafts.put ((drafts.draftFor parent .dir).addChild child)) parent rest := by
  simp [link, unlinked]

/-- The walk changes places only. -/
theorem detachedFor_link (drafts : Drafts) (child : String) (path : List String)
    (id : String) : (drafts.link child path).detachedFor id = drafts.detachedFor id := by
  induction path generalizing drafts child with
  | nil => rfl
  | cons parent rest ih =>
      by_cases linked : child ∈ (drafts.draftFor parent .dir).node.children
      · rw [link_cons_of_mem rest linked, detachedFor_put]
        split <;> simp_all
      · rw [link_cons_of_notMem rest linked, ih, detachedFor_put]
        split <;> simp_all

/-- Where the walk leaves a path without children, it has not touched it. -/
theorem find?_of_find?_link {drafts : Drafts} {child : String} {path : List String}
    {id : String} {draft : Draft} (found : (drafts.link child path).find? id = some draft)
    (leaf : draft.node.children = []) : drafts.find? id = some draft := by
  induction path generalizing drafts child with
  | nil => exact found
  | cons parent rest ih =>
      by_cases linked : child ∈ (drafts.draftFor parent .dir).node.children
      · rw [link_cons_of_mem rest linked, Table.find?_put] at found
        split at found
        · obtain rfl := Option.some.inj found
          simp [leaf] at linked
        · exact found
      · rw [link_cons_of_notMem rest linked] at found
        have before := ih found
        rw [Table.find?_put] at before
        split at before
        · obtain rfl := Option.some.inj before
          simp at leaf
        · exact before

/-! ## Places -/

/-- The listed paths are in their place: each under its parent, in the order of
the list, and every path with children is a directory. -/
structure Placed (drafts : Drafts) (linked : List String) : Prop where
  root_mem : Path.root ∈ linked
  parent_mem : ∀ {id parent}, id ∈ linked → Path.parent? id = some parent →
    parent ∈ drafts.keys
  children_eq : ∀ {id draft}, drafts.find? id = some draft →
    draft.node.children = linked.filter fun child => Path.parent? child = some id
  kind_eq : ∀ {id draft}, drafts.find? id = some draft →
    id = Path.root ∨ draft.node.children ≠ [] → draft.node.kind = .dir

namespace Placed

variable {drafts : Drafts} {linked : List String} {child parent : String}

theorem mem_keys_of_mem_lineage (placed : drafts.Placed drafts.keys) {id other : String}
    (known : id ∈ drafts.keys) (above : other ∈ Path.lineage id) : other ∈ drafts.keys := by
  induction id using Path.climb with
  | atRoot =>
      obtain rfl : other = Path.root := by simpa using above
      exact known
  | below id parent found ih =>
      rcases Path.mem_lineage_iff.1 above with rfl | ⟨_, found', above'⟩
      · exact known
      · obtain rfl := Option.some.inj (found.symm.trans found')
        exact ih (placed.parent_mem known found) above'

theorem filter_lineage_of_mem (placed : drafts.Placed drafts.keys) {id : String}
    (known : id ∈ drafts.keys) : (Path.lineage id).filter (· ∉ drafts.keys) = [] := by
  refine List.filter_eq_nil_iff.2 fun other above => ?_
  simpa using placed.mem_keys_of_mem_lineage known above

/-- The children of a path that is made known as a directory are those that are
in their place already. -/
theorem children_draftFor (placed : drafts.Placed linked) (id : String) (kind : Kind) :
    (drafts.draftFor id kind).node.children =
      linked.filter fun child => Path.parent? child = some id := by
  by_cases known : id ∈ drafts.keys
  · obtain ⟨draft, found⟩ := Option.isSome_iff_exists.1 (Table.find?_isSome_iff.2 known)
    rw [draftFor_of_find? found, Draft.children_raise, placed.children_eq found]
  · rw [draftFor_of_notMem known]
    refine (List.filter_eq_nil_iff.2 fun other member isChild => known ?_).symm
    exact placed.parent_mem member (of_decide_eq_true isChild)

/-- One step of the walk puts the last path that is known under its parent. -/
theorem adopt (placed : drafts.Placed linked) (last : drafts.keys = linked ++ [child])
    (found : Path.parent? child = some parent) :
    Placed (drafts.put ((drafts.draftFor parent .dir).addChild child)) drafts.keys where
  root_mem := by
    rw [last]
    exact List.mem_append_left _ placed.root_mem
  parent_mem := by
    intro id other member found'
    simp only [Table.mem_keys_put, Draft.id_addChild, id_draftFor]
    rw [last] at member
    rcases List.mem_append.1 member with before | isLast
    · exact Or.inr (placed.parent_mem before found')
    · obtain rfl : id = child := by simpa using isLast
      exact Or.inl (Option.some.inj (found'.symm.trans found))
  children_eq := by
    intro id draft found'
    rw [last, List.filter_append]
    rw [Table.find?_put, Draft.id_addChild, id_draftFor] at found'
    split at found'
    · rename_i same
      obtain rfl := Option.some.inj found'
      rw [Draft.children_addChild, placed.children_draftFor, same]
      simp [found]
    · rename_i other
      rw [placed.children_eq found']
      simp [found, Ne.symm other]
  kind_eq := by
    intro id draft found' isParent
    rw [Table.find?_put, Draft.id_addChild, id_draftFor] at found'
    split at found'
    · obtain rfl := Option.some.inj found'
      exact kind_draftFor_dir drafts parent
    · exact placed.kind_eq found' isParent

/-- The parent of a path that is in its place is a directory that lists it, so a
step of the walk changes nothing there. -/
theorem put_draftFor_parent (placed : drafts.Placed drafts.keys) (known : child ∈ drafts.keys)
    (found : Path.parent? child = some parent) :
    child ∈ (drafts.draftFor parent .dir).node.children ∧
      drafts.put (drafts.draftFor parent .dir) = drafts := by
  obtain ⟨draft, parentFound⟩ := Option.isSome_iff_exists.1
    (Table.find?_isSome_iff.2 (placed.parent_mem known found))
  have linked : child ∈ draft.node.children := by
    rw [placed.children_eq parentFound]
    exact List.mem_filter.2 ⟨known, decide_eq_true found⟩
  have isDir : draft.node.kind = .dir :=
    placed.kind_eq parentFound (Or.inr (List.ne_nil_of_mem linked))
  have unchanged : drafts.draftFor parent .dir = draft := by
    rw [draftFor_of_find? parentFound]
    exact Draft.raise_eq_self fun _ => isDir
  rw [unchanged]
  exact ⟨linked, Table.put_eq_self (Table.key_of_find? parentFound ▸ parentFound)⟩

/-- A path that is in its place stays there, and so does everything else. -/
theorem link_eq_self (placed : drafts.Placed drafts.keys) (known : child ∈ drafts.keys) :
    drafts.link child (Path.ancestors child) = drafts := by
  by_cases isRoot : child = Path.root
  · subst child
    rw [Path.ancestors_root]
    rfl
  · obtain ⟨parent, found⟩ := Path.exists_parent_of_ne_root isRoot
    obtain ⟨linked, unchanged⟩ := placed.put_draftFor_parent known found
    rw [Path.ancestors_of_parent?_eq_some found, link_cons_of_mem _ linked, unchanged]

/-- The walk from the last path that is known puts it and every ancestor that
was not known in its place. -/
theorem link (placed : drafts.Placed linked) (last : drafts.keys = linked ++ [child]) :
    Placed (drafts.link child (Path.ancestors child))
        (drafts.link child (Path.ancestors child)).keys ∧
      (drafts.link child (Path.ancestors child)).keys =
        drafts.keys ++ (Path.ancestors child).filter (· ∉ drafts.keys) := by
  have isNew : child ∉ linked := by
    have distinct : (linked ++ [child]).Nodup := last ▸ drafts.keys_nodup
    exact fun member => (List.nodup_append.1 distinct).2.2 child member child (by simp) rfl
  induction child using Path.climb generalizing drafts linked with
  | atRoot => exact absurd placed.root_mem isNew
  | below child parent found ih =>
      have unlinked : child ∉ (drafts.draftFor parent .dir).node.children := by
        rw [placed.children_draftFor]
        exact fun member => isNew (List.mem_filter.1 member).1
      have adopted := placed.adopt last found
      have keysEq := Table.keys_put drafts ((drafts.draftFor parent .dir).addChild child)
      rw [Draft.id_addChild, id_draftFor] at keysEq
      rw [Path.ancestors_of_parent?_eq_some found, link_cons_of_notMem _ unlinked]
      by_cases known : parent ∈ drafts.keys
      · rw [if_pos known] at keysEq
        rw [← keysEq] at adopted known
        rw [adopted.link_eq_self known]
        refine ⟨adopted, ?_⟩
        have nothingNew := adopted.filter_lineage_of_mem known
        rw [keysEq] at nothingNew ⊢
        rw [← Path.lineage, nothingNew, List.append_nil]
      · rw [if_neg known] at keysEq
        obtain ⟨placed', keysEq'⟩ := ih adopted keysEq known
        refine ⟨placed', ?_⟩
        rw [keysEq', keysEq, ← Path.lineage, Path.filter_lineage_of_notMem known,
          List.append_assoc, List.singleton_append]

end Placed

end Drafts

end ScanTree

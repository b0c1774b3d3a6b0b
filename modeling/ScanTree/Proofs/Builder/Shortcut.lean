import ScanTree.Proofs.Builder.Tally

/-!
# Stopping on the way to the root

The walk up the ancestors of a path stops where it meets a path that is in its
place already.  Between two events all paths are in their places, so from there on
a walk that went on to the root would find nothing to change.  While an event is
recorded its path may be known before its ancestors are, but then it is the last
one known, and each step of the walk hands that on to the parent.
-/

namespace ScanTree

/-- List a child, unless it is listed already. -/
def Draft.adopt (draft : Draft) (child : String) : Draft :=
  if child ∈ draft.node.children then draft else draft.addChild child

namespace Drafts

/-- Put a path under the nearest of its ancestors, and that under the next one, up
to the last of them, whatever is in its place already. -/
def linkToRoot (drafts : Drafts) (child : String) : List String → Drafts
  | [] => drafts
  | parent :: ancestors =>
    linkToRoot (drafts.put ((drafts.draftFor parent .dir).adopt child)) parent ancestors

theorem linkToRoot_cons_of_mem {drafts : Drafts} {child parent : String} (rest : List String)
    (linked : child ∈ (drafts.draftFor parent .dir).node.children) :
    drafts.linkToRoot child (parent :: rest) =
      linkToRoot (drafts.put (drafts.draftFor parent .dir)) parent rest := by
  rw [linkToRoot, Draft.adopt, if_pos linked]

theorem linkToRoot_cons_of_notMem {drafts : Drafts} {child parent : String} (rest : List String)
    (unlinked : child ∉ (drafts.draftFor parent .dir).node.children) :
    drafts.linkToRoot child (parent :: rest) =
      linkToRoot (drafts.put ((drafts.draftFor parent .dir).addChild child)) parent rest := by
  rw [linkToRoot, Draft.adopt, if_neg unlinked]

namespace Placed

variable {drafts : Drafts} {linked : List String} {child : String}

/-- Where all paths are in their places, going on to the root changes nothing. -/
theorem linkToRoot_eq_self (placed : drafts.Placed drafts.keys) (known : child ∈ drafts.keys) :
    drafts.linkToRoot child (Path.ancestors child) = drafts := by
  induction child using Path.climb with
  | atRoot =>
      rw [Path.ancestors_root]
      rfl
  | below child parent found ih =>
      obtain ⟨linked, unchanged⟩ := placed.put_draftFor_parent known found
      rw [Path.ancestors_of_parent?_eq_some found, linkToRoot_cons_of_mem _ linked, unchanged]
      exact ih (placed.parent_mem known found)

/-- If all paths are in their places, or all but the last one that is known, the
walk from that one may stop early. -/
theorem linkToRoot_eq_link (placed : drafts.Placed linked)
    (keys_eq : drafts.keys = if child ∈ linked then linked else linked ++ [child]) :
    drafts.linkToRoot child (Path.ancestors child) =
      drafts.link child (Path.ancestors child) := by
  induction child using Path.climb generalizing drafts linked with
  | atRoot =>
      rw [Path.ancestors_root]
      rfl
  | below child parent found ih =>
      by_cases known : child ∈ linked
      · rw [if_pos known] at keys_eq
        rw [← keys_eq] at placed known
        rw [placed.linkToRoot_eq_self known, placed.link_eq_self known]
      · rw [if_neg known] at keys_eq
        have unlinked : child ∉ (drafts.draftFor parent .dir).node.children := by
          rw [placed.children_draftFor]
          exact fun member => known (List.mem_filter.1 member).1
        -- The parent takes over: it is the last one known, or is in its place.
        have adopted := placed.adopt keys_eq found
        rw [Path.ancestors_of_parent?_eq_some found, linkToRoot_cons_of_notMem _ unlinked,
          link_cons_of_notMem _ unlinked]
        apply ih adopted
        rw [Table.keys_put, Draft.id_addChild, id_draftFor]

end Placed

end Drafts

namespace Builder

/-- Record one event as `record` does, but put its path under its ancestors by
another walk. -/
def recordWith (walk : Drafts → String → List String → Drafts) (builder : Builder)
    (event : Event) : Builder :=
  if event.action = .summarized then builder
  else
    ⟨walk (builder.drafts.put (builder.drafts.drafted event)) event.target
        (Path.ancestors event.target),
      (Tallies.newly builder event).elim builder.counts builder.counts.increment⟩

theorem recordWith_link (builder : Builder) (event : Event) :
    builder.recordWith Drafts.link event = builder.record event :=
  rfl

/-- Where all paths are in their places, an event may be recorded by either walk. -/
theorem recordWith_linkToRoot {builder : Builder}
    (placed : builder.drafts.Placed builder.drafts.keys) (event : Event) :
    builder.recordWith Drafts.linkToRoot event = builder.record event := by
  have walks := (placed.drafted event).linkToRoot_eq_link
    (by rw [Table.keys_put, Drafts.id_drafted])
  rw [← recordWith_link, recordWith, recordWith, walks]

/-- Stopping at the first path that is in its place is safe: after any events, one
more leaves the same construction as if the walk went on to the root, and so does
a whole trace. -/
theorem record_as_walking_to_root (events : List Event) :
    (∀ event, (empty.recordAll events).record event =
      (empty.recordAll events).recordWith Drafts.linkToRoot event) ∧
    empty.recordAll events = events.foldl (recordWith Drafts.linkToRoot) empty := by
  have sameStep (before : List Event) (event : Event) :
      (empty.recordAll before).record event =
        (empty.recordAll before).recordWith Drafts.linkToRoot event :=
    (recordWith_linkToRoot (tells_recordAll before).placed event).symm
  refine ⟨sameStep events, ?_⟩
  induction events using List.reverseRecOn with
  | nil => rfl
  | append_singleton events event ih =>
      rw [recordAll_append, recordAll_cons, recordAll_nil, List.foldl_append, ← ih]
      exact sameStep events event

/-- Drafts that no events lead to, where a path lists a child but is under nobody:
there the walk to the root would find more to do. -/
example :
    let drafts : Drafts := .ofList
      [⟨.fresh "." .dir, []⟩, ⟨{ Node.fresh "a/b" .dir with children := ["a/b/c"] }, []⟩]
    (drafts.link "a/b/c" (Path.ancestors "a/b/c")).keys = [".", "a/b"] ∧
      (drafts.linkToRoot "a/b/c" (Path.ancestors "a/b/c")).keys = [".", "a/b", "a"] := by
  decide +kernel

end Builder

end ScanTree

import ScanTree.Proofs.Builder.Description

/-!
# The order of discovery

An index lists its paths in the order in which its trace discovers them.  A path
that an earlier event mentions first stands before one that a later event
mentions first, and of the paths that one event is the first to mention, each
stands before its ancestors.  Of two children of one path none is an ancestor of
the other one, so children stand in the order of the events that mention them
first, and no later event changes it.
-/

namespace ScanTree

namespace Event

/-- An event mentions its path and the ancestors of it.  A summary mentions
nothing. -/
def Mentions (event : Event) (id : String) : Prop :=
  event.action ≠ .summarized ∧ id ∈ Path.lineage event.target

instance (event : Event) (id : String) : Decidable (event.Mentions id) :=
  inferInstanceAs (Decidable (_ ∧ _))

end Event

namespace Path

/-- On a lineage every path stands before its ancestors. -/
theorem pairwise_lineage (id : String) :
    (lineage id).Pairwise fun lower upper => upper ∈ ancestors lower := by
  induction id using climb with
  | atRoot => simp
  | below id parent found ih =>
      rw [lineage_eq_cons found]
      apply List.pairwise_cons.2
      refine ⟨fun upper above => ?_, ih⟩
      rwa [ancestors_eq_lineage found]

end Path

namespace Trace

/-- The position of the first event that mentions a path. -/
def firstMention (events : List Event) (id : String) : Nat :=
  events.findIdx fun event => event.Mentions id

/-- One path is discovered before another one: an event mentions it before any
event mentions the other one, or the event that is the first to mention both is
about a path below the other one. -/
def DiscoveredBefore (events : List Event) (first second : String) : Prop :=
  firstMention events first < firstMention events second ∨
    firstMention events first = firstMention events second ∧ second ∈ Path.ancestors first

section

variable {events : List Event} {event : Event} {id first second : String}

theorem exists_mentions (known : id ∈ mentioned events) (notRoot : id ≠ Path.root) :
    ∃ event ∈ events, event.Mentions id :=
  (mem_mentioned_iff.1 known).resolve_left notRoot

theorem firstMention_lt_length (known : id ∈ mentioned events) (notRoot : id ≠ Path.root) :
    firstMention events id < events.length := by
  apply List.findIdx_lt_length_of_exists
  obtain ⟨event, member, mentions⟩ := exists_mentions known notRoot
  exact ⟨event, member, decide_eq_true mentions⟩

/-- A later event does not change where a path is mentioned first. -/
theorem firstMention_concat_of_mem (known : id ∈ mentioned events) (notRoot : id ≠ Path.root) :
    firstMention (events ++ [event]) id = firstMention events id := by
  rw [firstMention, List.findIdx_append]
  exact if_pos (firstMention_lt_length known notRoot)

theorem firstMention_concat_of_notMem (unknown : id ∉ mentioned events)
    (mentions : event.Mentions id) :
    firstMention (events ++ [event]) id = events.length := by
  have nowhere : firstMention events id = events.length := by
    apply List.findIdx_eq_length.2
    intro earlier member
    apply decide_eq_false
    intro mentionsEarlier
    exact unknown (mem_mentioned_iff.2 (Or.inr ⟨earlier, member, mentionsEarlier⟩))
  rw [firstMention, List.findIdx_append, ← firstMention, nowhere, if_neg (Nat.lt_irrefl _)]
  simp [mentions]

theorem DiscoveredBefore.concat (before : DiscoveredBefore events first second)
    (firstKnown : first ∈ mentioned events) (firstNotRoot : first ≠ Path.root)
    (secondKnown : second ∈ mentioned events) (secondNotRoot : second ≠ Path.root) :
    DiscoveredBefore (events ++ [event]) first second := by
  rwa [DiscoveredBefore, firstMention_concat_of_mem firstKnown firstNotRoot,
    firstMention_concat_of_mem secondKnown secondNotRoot]

/-- What one event adds is discovered in the order of its lineage. -/
theorem pairwise_mention (counts : event.action ≠ .summarized) :
    ((Path.lineage event.target).filter (· ∉ mentioned events)).Pairwise
      (DiscoveredBefore (events ++ [event])) := by
  have position {id : String} (onLineage : id ∈ Path.lineage event.target)
      (new : decide (id ∉ mentioned events) = true) :
      firstMention (events ++ [event]) id = events.length :=
    firstMention_concat_of_notMem (of_decide_eq_true new) ⟨counts, onLineage⟩
  apply List.pairwise_filter.2
  apply (Path.pairwise_lineage event.target).imp_of_mem
  intro lower upper onLineage upperOnLineage above new upperNew
  right
  rw [position onLineage new, position upperOnLineage upperNew]
  exact ⟨rfl, above⟩

end

/-- A trace discovers the paths that it mentions in the order in which they are
listed.  The root is known from the beginning. -/
theorem pairwise_mentioned (events : List Event) :
    (mentioned events).Pairwise fun first second =>
      first ≠ Path.root → second ≠ Path.root → DiscoveredBefore events first second := by
  induction events using List.reverseRecOn with
  | nil => simp
  | append_singleton events event ih =>
      have kept : (mentioned events).Pairwise fun first second =>
          first ≠ Path.root → second ≠ Path.root →
            DiscoveredBefore (events ++ [event]) first second := by
        apply ih.imp_of_mem
        intro first second firstKnown secondKnown before firstNotRoot secondNotRoot
        exact (before firstNotRoot secondNotRoot).concat firstKnown firstNotRoot secondKnown
          secondNotRoot
      rw [mentioned_concat, mention]
      split
      · exact kept
      · rename_i counts
        have added := @pairwise_mention events event counts
        refine List.pairwise_append.2 ⟨kept, added.imp fun before _ _ => before, ?_⟩
        intro first known second isNew notRoot _
        obtain ⟨onLineage, new⟩ := List.mem_filter.1 isNew
        left
        rw [firstMention_concat_of_mem known notRoot,
          firstMention_concat_of_notMem (of_decide_eq_true new) ⟨counts, onLineage⟩]
        exact firstMention_lt_length known notRoot

/-- Children stand in the order of the events that mention them first. -/
theorem pairwise_childrenAt (events : List Event) (id : String) :
    (childrenAt events id).Pairwise fun first second =>
      firstMention events first < firstMention events second := by
  apply List.pairwise_filter.2
  apply (pairwise_mentioned events).imp
  intro first second before isChild secondIsChild
  have found := of_decide_eq_true isChild
  have secondFound := of_decide_eq_true secondIsChild
  rcases before (Path.ne_root_of_parent? found) (Path.ne_root_of_parent? secondFound) with
    earlier | ⟨_, above⟩
  · exact earlier
  · rw [Path.ancestors_eq_lineage found] at above
    have isAbove : second ∈ Path.lineage first := by
      rw [Path.lineage_eq_cons found]
      exact List.mem_cons_of_mem first above
    obtain rfl := Path.eq_of_mem_lineage_of_parent?_eq found secondFound isAbove
    exact absurd above (Path.self_notMem_lineage_parent found)

end Trace

namespace Index

/-- Paths are listed in the order of discovery.  An index without events has the
root only, and one more event adds its path if that is new, and then those of the
path's ancestors that are new, the nearest first.  The children of a path are the
mentioned paths that have it as parent, in the order of the events that mention
them first. -/
theorem ofEvents_in_order_of_discovery (events : List Event) :
    (ofEvents []).ids = [Path.root] ∧
    (∀ event, (ofEvents (events ++ [event])).ids =
      (ofEvents events).ids ++
        if event.action = .summarized then []
        else (event.target :: Path.ancestors event.target).filter
          (· ∉ (ofEvents events).ids)) ∧
    ∀ id node, (ofEvents events).find? id = some node →
      (∀ child, child ∈ node.children ↔
        Path.parent? child = some id ∧ ∃ event ∈ events, event.Mentions child) ∧
      node.children.Pairwise fun first second =>
        Trace.firstMention events first < Trace.firstMention events second := by
  refine ⟨ids_ofEvents [], fun event => ?_, fun id node found => ?_⟩
  · rw [ids_ofEvents, ids_ofEvents, Trace.mentioned_concat, Trace.mention]
    split
    · exact (List.append_nil _).symm
    · rfl
  · rw [eq_nodeAt_of_find? found, Trace.children_nodeAt]
    refine ⟨fun child => ?_, Trace.pairwise_childrenAt events id⟩
    rw [Trace.mem_childrenAt_iff, and_comm]
    apply and_congr_right
    intro isChild
    constructor
    · exact fun known => Trace.exists_mentions known (Path.ne_root_of_parent? isChild)
    · exact fun mentions => Trace.mem_mentioned_iff.2 (Or.inr mentions)

example :
    (ofEvents
      [{ tag := some "include", path := some "src/lib/a" },
        { tag := some "enter", path := some "./doc" },
        { tag := some "ignore", path := some "src/b" }]).ids =
      [".", "src/lib/a", "src/lib", "src", "doc", "src/b"] := by
  decide +kernel

end Index

end ScanTree

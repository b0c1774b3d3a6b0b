import ScanTree.Event
import ScanTree.Proofs.Path.Lineage
import Mathlib.Data.List.Induction

/-!
# The paths that a trace mentions

An event mentions the whole lineage of the path that it is about.  The paths
that a trace mentions are listed in the order in which they are met: the root,
and then for every event its path and the ancestors of it, the nearest first,
each where it is met for the first time.
-/

namespace ScanTree

/-- The id of the path that an event is about. -/
def Event.target (event : Event) : String :=
  Path.normalize event.path

namespace Trace

/-- The events about one path in order.  A summary is about none. -/
def eventsAt (events : List Event) (id : String) : List Event :=
  events.filter fun event => event.action ≠ .summarized ∧ event.target = id

/-- The ids that are mentioned once an event is added to those that are
mentioned before. -/
def mention (ids : List String) (event : Event) : List String :=
  if event.action = .summarized then ids
  else ids ++ (Path.lineage event.target).filter (· ∉ ids)

/-- The ids that a trace mentions in the order of their first mention. -/
def mentioned (events : List Event) : List String :=
  events.foldl mention [Path.root]

theorem eventsAt_append (first second : List Event) (id : String) :
    eventsAt (first ++ second) id = eventsAt first id ++ eventsAt second id :=
  List.filter_append first second

theorem eventsAt_concat_self {events : List Event} {event : Event}
    (counts : event.action ≠ .summarized) :
    eventsAt (events ++ [event]) event.target = eventsAt events event.target ++ [event] := by
  rw [eventsAt_append]
  simp [eventsAt, counts]

theorem eventsAt_concat_other {events : List Event} {event : Event} {id : String}
    (other : event.action = .summarized ∨ id ≠ event.target) :
    eventsAt (events ++ [event]) id = eventsAt events id := by
  rw [eventsAt_append]
  rcases other with summary | elsewhere
  · simp [eventsAt, summary]
  · simp [eventsAt, Ne.symm elsewhere]

@[simp]
theorem mentioned_nil : mentioned [] = [Path.root] :=
  rfl

theorem mentioned_concat (events : List Event) (event : Event) :
    mentioned (events ++ [event]) = mention (mentioned events) event := by
  simp [mentioned]

theorem mem_mention_iff {ids : List String} {event : Event} {id : String} :
    id ∈ mention ids event ↔
      id ∈ ids ∨ event.action ≠ .summarized ∧ id ∈ Path.lineage event.target := by
  unfold mention
  by_cases summary : event.action = .summarized
  · simp [summary]
  · by_cases known : id ∈ ids <;> simp [summary, known]

/-- A path is mentioned if it is the root or on the lineage of the path of an
event. -/
theorem mem_mentioned_iff {events : List Event} {id : String} :
    id ∈ mentioned events ↔ id = Path.root ∨
      ∃ event ∈ events, event.action ≠ .summarized ∧ id ∈ Path.lineage event.target := by
  induction events using List.reverseRecOn with
  | nil => simp
  | append_singleton events event ih =>
      rw [mentioned_concat, mem_mention_iff, ih]
      simp only [List.mem_append, List.mem_singleton, or_and_right, exists_or,
        exists_eq_left, or_assoc]

theorem root_mem_mentioned (events : List Event) : Path.root ∈ mentioned events :=
  mem_mentioned_iff.2 (Or.inl rfl)

theorem nodup_mention {ids : List String} (distinct : ids.Nodup) (event : Event) :
    (mention ids event).Nodup := by
  unfold mention
  split
  · exact distinct
  · refine List.nodup_append.2 ⟨distinct, (Path.nodup_lineage _).filter _, ?_⟩
    intro id known other added same
    have new : other ∉ ids := by simpa using (List.mem_filter.1 added).2
    exact new (same ▸ known)

theorem nodup_mentioned (events : List Event) : (mentioned events).Nodup := by
  induction events using List.reverseRecOn with
  | nil => simp
  | append_singleton events event ih =>
      rw [mentioned_concat]
      exact nodup_mention ih event

theorem parent_mem_mentioned {events : List Event} {id parent : String}
    (member : id ∈ mentioned events) (found : Path.parent? id = some parent) :
    parent ∈ mentioned events := by
  rcases mem_mentioned_iff.1 member with rfl | ⟨event, eventMem, counts, onLineage⟩
  · simp at found
  · exact mem_mentioned_iff.2 (Or.inr
      ⟨event, eventMem, counts, Path.parent_mem_lineage onLineage found⟩)

/-- A path that no event mentions has no event about it. -/
theorem eventsAt_eq_nil_of_notMem {events : List Event} {id : String}
    (unknown : id ∉ mentioned events) : eventsAt events id = [] := by
  refine List.filter_eq_nil_iff.2 fun event member holds => unknown ?_
  simp only [ne_eq, decide_eq_true_eq] at holds
  obtain ⟨counts, rfl⟩ := holds
  exact mem_mentioned_iff.2 (Or.inr ⟨event, member, counts, Path.self_mem_lineage _⟩)

/-- What a second trace adds to the mentioned paths, in its own order. -/
theorem mentioned_append (first second : List Event) :
    mentioned (first ++ second) =
      mentioned first ++ (mentioned second).filter (· ∉ mentioned first) := by
  induction second using List.reverseRecOn with
  | nil => simp [root_mem_mentioned]
  | append_singleton second event ih =>
      rw [← List.append_assoc, mentioned_concat, mentioned_concat, ih]
      unfold mention
      split
      · rfl
      · rw [List.append_assoc, List.filter_append, List.filter_filter]
        congr 2
        apply List.filter_congr
        intro id _
        by_cases known : id ∈ mentioned first <;> simp [known]

end Trace

end ScanTree

import ScanTree.Proofs.Builder.Tally
import Mathlib.Data.Finset.Card

/-!
# Counts are numbers of paths

The count of a category is the number of paths that events put in it, each of
them counted once.  Included and skipped paths are those with an event that says
so.  Ignored paths are those with an event that ignores them or fails on them,
and those that are called temporary before anything was decided about them.
-/

namespace ScanTree

namespace Event

/-- Whether an event decides about its path whatever was decided before. -/
def Decides (event : Event) : Prop :=
  event.action = .included ∨ event.action = .ignored ∨ event.action = .skipped ∨
    event.action = .failed

theorem isNone_verdict?_iff {event : Event} :
    event.verdict?.isNone = true ↔ ¬ event.Decides := by
  cases action : event.action <;> simp [verdict?, Decides, action]

end Event

namespace Trace

/-- An event of a trace puts a path in a category.  One that calls the path
temporary does so if no event before it decides about the path. -/
def PutsIn (events : List Event) (category : Category) (id : String) : Prop :=
  match category with
  | .included => ∃ event ∈ events, event.target = id ∧ event.action = .included
  | .skipped => ∃ event ∈ events, event.target = id ∧ event.action = .skipped
  | .ignored =>
    (∃ event ∈ events, event.target = id ∧
      (event.action = .ignored ∨ event.action = .failed)) ∨
    ∃ before event after, events = before ++ event :: after ∧
      event.target = id ∧ event.action = .temporary ∧
        ∀ earlier ∈ before, earlier.target = id → ¬ earlier.Decides

theorem eventsAt_cons (event : Event) (events : List Event) (id : String) :
    eventsAt (event :: events) id =
      if event.action ≠ .summarized ∧ event.target = id then event :: eventsAt events id
      else eventsAt events id := by
  simp only [eventsAt, List.filter_cons, decide_eq_true_eq]

theorem mem_eventsAt_iff {events : List Event} {event : Event} {id : String} :
    event ∈ eventsAt events id ↔
      event ∈ events ∧ event.action ≠ .summarized ∧ event.target = id := by
  simp [eventsAt]

theorem exists_position_cons {α : Type} {head : α} {rest : List α} {P : List α → α → Prop} :
    (∃ before value after, head :: rest = before ++ value :: after ∧ P before value) ↔
      P [] head ∨
        ∃ before value after, rest = before ++ value :: after ∧ P (head :: before) value := by
  constructor
  · rintro ⟨_ | ⟨first, before⟩, value, after, split, holds⟩
    · obtain ⟨rfl, rfl⟩ := List.cons.inj split
      exact Or.inl holds
    · obtain ⟨rfl, splitRest⟩ := List.cons.inj split
      exact Or.inr ⟨before, value, after, splitRest, holds⟩
  · rintro (holds | ⟨before, value, after, rfl, holds⟩)
    · exact ⟨[], head, rest, rfl, holds⟩
    · exact ⟨head :: before, value, after, rfl, holds⟩

/-- A path is called temporary among its events before the first one that
decides if it is at some position before which no event decides about it. -/
theorem any_temporary_undecided_iff {events : List Event} {id : String} :
    ((eventsAt events id).takeWhile (·.verdict?.isNone)).any (·.action = .temporary) = true ↔
      ∃ before event after, events = before ++ event :: after ∧
        event.target = id ∧ event.action = .temporary ∧
          ∀ earlier ∈ before, earlier.target = id → ¬ earlier.Decides := by
  induction events with
  | nil => simp [eventsAt]
  | cons head rest ih =>
      rw [exists_position_cons, eventsAt_cons]
      simp only [List.forall_mem_cons, List.not_mem_nil, false_implies, implies_true, and_true]
      by_cases here : head.target = id
      · by_cases decides : head.Decides
        · have decided : head.verdict?.isNone = false :=
            Bool.eq_false_iff.2 fun undecided => Event.isNone_verdict?_iff.1 undecided decides
          have counts : head.action ≠ .summarized := by
            rintro summary
            simp [Event.Decides, summary] at decides
          have notTemporary : head.action ≠ .temporary := by
            rintro temporary
            simp [Event.Decides, temporary] at decides
          rw [if_pos ⟨counts, here⟩]
          simp [decided, here, decides, notTemporary]
        · have undecided := Event.isNone_verdict?_iff.2 decides
          simp only [here, decides, not_false_eq_true, implies_true, true_and, ← ih]
          -- A summary is not among the events on the path, and calls nothing temporary.
          by_cases summary : head.action = .summarized
          · simp [summary]
          · rw [if_pos ⟨summary, trivial⟩]
            simp [undecided]
      · simp [here, ih]

theorem enters_eventsAt_iff {events : List Event} {category : Category} {id : String} :
    enters category (eventsAt events id) = true ↔ PutsIn events category id := by
  cases category with
  | included =>
      simp only [enters, PutsIn, List.any_eq_true, mem_eventsAt_iff, decide_eq_true_eq]
      grind
  | skipped =>
      simp only [enters, PutsIn, List.any_eq_true, mem_eventsAt_iff, decide_eq_true_eq]
      grind
  | ignored =>
      rw [enters, Bool.or_eq_true, any_temporary_undecided_iff, PutsIn]
      refine or_congr_left ?_
      simp only [List.any_eq_true, mem_eventsAt_iff, Bool.or_eq_true, decide_eq_true_eq]
      grind

theorem exists_card_eq_tally (events : List Event) (category : Category) :
    ∃ paths : Finset String, (∀ id, id ∈ paths ↔ PutsIn events category id) ∧
      paths.card = tally events category := by
  refine ⟨((mentioned events).filter fun id => enters category (eventsAt events id)).toFinset,
    fun id => ?_, ?_⟩
  · rw [List.mem_toFinset, List.mem_filter, enters_eventsAt_iff, and_iff_right_iff_imp]
    intro putsIn
    by_contra unknown
    rw [← enters_eventsAt_iff, enters_eventsAt_of_notMem unknown] at putsIn
    simp at putsIn
  · rw [List.toFinset_card_of_nodup ((nodup_mentioned events).filter _), tally,
      List.countP_eq_length_filter]

end Trace

namespace Builder

/-- The count of a category is the number of drafts that have been counted in
it. -/
theorem Tallies.get_counts {builder : Builder} {events : List Event}
    (tallies : builder.Tallies events) (tells : builder.Tells events) (category : Category) :
    builder.counts.get category =
      builder.drafts.entries.countP fun draft => category ∈ draft.counted := by
  have counted : ∀ draft ∈ builder.drafts.entries,
      (category ∈ draft.counted ↔
        Trace.enters category (Trace.eventsAt events draft.id) = true) := by
    intro draft member
    rw [← tallies.counted,
      Drafts.detachedFor_of_find? (Table.find?_key_of_mem member)]
    rfl
  rw [tallies.counts, Trace.tally, ← tells.keys_eq, Table.keys, List.countP_map]
  refine congrArg _ (List.countP_congr fun draft member => ?_)
  rw [decide_eq_true_eq, counted draft member]
  rfl

end Builder

namespace Index

/-- Every count of an index is the number of paths that events put in its
category.  While the index is being built, the count is after any number of
events the number of nodes that have been counted in the category. -/
theorem counts_number_of_paths (events : List Event) :
    (∀ category, ∃ paths : Finset String,
      (∀ id, id ∈ paths ↔ Trace.PutsIn events category id) ∧
        (ofEvents events).counts.get category = paths.card) ∧
    ∀ position category,
      (Builder.empty.recordAll (events.take position)).counts.get category =
        (Builder.empty.recordAll (events.take position)).drafts.entries.countP
          fun draft => category ∈ draft.counted := by
  refine ⟨fun category => ?_, fun position category => ?_⟩
  · obtain ⟨paths, members, card⟩ := Trace.exists_card_eq_tally events category
    exact ⟨paths, members, by rw [counts_ofEvents, card]⟩
  · exact (Builder.tallies_recordAll _).get_counts (Builder.tells_recordAll _) category

end Index

end ScanTree

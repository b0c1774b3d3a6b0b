import ScanTree.Proofs.Builder.Description
import Mathlib.Data.List.TakeWhile

/-!
# What the counts count

A path enters a category when an event on it decides so, and a temporary path
when nothing was decided about it before.  A construction keeps for each path
the categories that it has entered, and counts the paths in each of them.
-/

namespace ScanTree

namespace Trace

/-- Whether the events on one path ever put it in a category.  A call of the
path temporary counts where no event before it decides anything. -/
def enters (category : Category) (events : List Event) : Bool :=
  match category with
  | .included => events.any (·.action = .included)
  | .skipped => events.any (·.action = .skipped)
  | .ignored =>
    events.any (fun event => event.action = .ignored || event.action = .failed) ||
      (events.takeWhile (·.verdict?.isNone)).any (·.action = .temporary)

/-- The category that one more event on a path puts it in. -/
def categoryAfter (events : List Event) (event : Event) : Option Category :=
  match event.action with
  | .included => some .included
  | .ignored | .failed => some .ignored
  | .skipped => some .skipped
  | .temporary => if (decisionOf events).status = .unknown then some .ignored else none
  | _ => none

@[simp]
theorem enters_nil (category : Category) : enters category [] = false := by
  cases category <;> rfl

theorem status_decisionOf_eq_unknown_iff {events : List Event} :
    (decisionOf events).status = .unknown ↔
      events.all (·.verdict?.isNone) = true ∧ events.any (·.action = .temporary) = false := by
  cases last : (events.filterMap Event.verdict?).getLast? with
  | none =>
      have undecided : events.all (·.verdict?.isNone) = true := by
        simpa [List.getLast?_eq_none_iff, List.filterMap_eq_nil_iff] using last
      cases temporary : events.any (·.action = .temporary) <;>
        simp [decisionOf, last, undecided, temporary]
  | some decision =>
      obtain ⟨event, member, decides⟩ := List.mem_filterMap.1 (List.mem_of_getLast? last)
      have decided : events.all (·.verdict?.isNone) = false := by
        rw [List.all_eq_false]
        exact ⟨event, member, by simp [decides]⟩
      simp [decisionOf, last, decided, status_ne_unknown_of_verdict? decides]

theorem takeWhile_concat {α : Type} (test : α → Bool) (values : List α) (value : α) :
    (values ++ [value]).takeWhile test =
      if values.all test ∧ test value then values ++ [value] else values.takeWhile test := by
  induction values with
  | nil => cases passes : test value <;> simp [passes]
  | cons head rest ih =>
      cases passes : test head with
      | false => simp [passes]
      | true =>
          rw [List.cons_append, List.takeWhile_cons_of_pos passes, ih,
            List.takeWhile_cons_of_pos passes, List.all_cons, passes, Bool.true_and]
          split <;> rfl

theorem any_temporary_takeWhile_concat (events : List Event) (event : Event) :
    ((events ++ [event]).takeWhile (·.verdict?.isNone)).any (·.action = .temporary) =
      ((events.takeWhile (·.verdict?.isNone)).any (·.action = .temporary) ||
        decide (event.action = .temporary ∧ (decisionOf events).status = .unknown)) := by
  simp only [takeWhile_concat, status_decisionOf_eq_unknown_iff]
  cases undecided : events.all (·.verdict?.isNone) with
  | false => simp
  | true =>
      have whole : events.takeWhile (·.verdict?.isNone) = events :=
        List.takeWhile_eq_self_iff.2 (List.all_eq_true.1 undecided)
      rw [whole]
      cases decides : event.verdict? with
      | none =>
          by_cases temporary : event.action = .temporary <;>
            cases already : events.any (·.action = .temporary) <;>
            simp [temporary, already]
      | some decision =>
          have notTemporary : event.action ≠ .temporary := by
            intro temporary
            simp [Event.verdict?, temporary] at decides
          simp [notTemporary]

/-- One more event makes its path enter the category that it puts it in. -/
theorem enters_concat (category : Category) (events : List Event) (event : Event) :
    enters category (events ++ [event]) =
      (enters category events || categoryAfter events event = some category) := by
  cases category with
  | included =>
      simp only [enters, List.any_append]
      cases action : event.action <;> simp [categoryAfter, action]
  | skipped =>
      simp only [enters, List.any_append]
      cases action : event.action <;> simp [categoryAfter, action]
  | ignored =>
      simp only [enters, List.any_append, any_temporary_takeWhile_concat]
      cases action : event.action <;> simp [categoryAfter, action, Bool.or_assoc]

theorem enters_eventsAt_of_notMem {events : List Event} {id : String}
    (unknown : id ∉ mentioned events) (category : Category) :
    enters category (eventsAt events id) = false := by
  rw [eventsAt_eq_nil_of_notMem unknown, enters_nil]

/-- The number of mentioned paths that ever enter a category. -/
def tally (events : List Event) (category : Category) : Nat :=
  (mentioned events).countP fun id => enters category (eventsAt events id)

/-- A count over distinct ids goes up by one if it changes at one of them. -/
theorem countP_eq_add_one {ids : List String} {before after : String → Bool} {id : String}
    (distinct : ids.Nodup) (member : id ∈ ids)
    (same : ∀ other, other ≠ id → after other = before other)
    (was : before id = false) (now : after id = true) :
    ids.countP after = ids.countP before + 1 := by
  induction ids with
  | nil => simp at member
  | cons head rest ih =>
      obtain ⟨new, distinct⟩ := List.nodup_cons.1 distinct
      by_cases here : head = id
      · subst here
        have sameRest : rest.countP after = rest.countP before :=
          List.countP_congr fun other inRest => by
            rw [same other fun equal => new (equal ▸ inRest)]
        rw [List.countP_cons_of_pos now, List.countP_cons_of_neg (by simp [was]), sameRest]
      · have inRest : id ∈ rest :=
          (List.mem_cons.1 member).resolve_left fun equal => here equal.symm
        rw [List.countP_cons, List.countP_cons, ih distinct inRest, same head here]
        omega

/-- One more event puts its path in a category at most once. -/
theorem tally_concat {events : List Event} {event : Event} (counts : event.action ≠ .summarized)
    (category : Category) :
    tally (events ++ [event]) category = tally events category +
      if categoryAfter (eventsAt events event.target) event = some category ∧
          enters category (eventsAt events event.target) = false then 1 else 0 := by
  have growth : (mentioned (events ++ [event])).countP
        (fun id => enters category (eventsAt events id)) = tally events category := by
    rw [mentioned_concat, mention, if_neg counts, List.countP_append, tally,
      Nat.add_eq_left, List.countP_eq_zero]
    intro id member
    have unknown : id ∉ mentioned events := by simpa using (List.mem_filter.1 member).2
    simp [enters_eventsAt_of_notMem unknown]
  have target : event.target ∈ mentioned (events ++ [event]) := by
    rw [mentioned_concat, mem_mention_iff]
    exact Or.inr ⟨counts, Path.self_mem_lineage _⟩
  have elsewhere : ∀ id, id ≠ event.target →
      enters category (eventsAt (events ++ [event]) id) =
        enters category (eventsAt events id) := fun id other => by
    rw [eventsAt_concat_other (Or.inr other)]
  have here : enters category (eventsAt (events ++ [event]) event.target) =
      (enters category (eventsAt events event.target) ||
        categoryAfter (eventsAt events event.target) event = some category) := by
    rw [eventsAt_concat_self counts, enters_concat]
  rw [← growth, tally]
  split
  · rename_i newly
    refine countP_eq_add_one (nodup_mentioned _) target elsewhere newly.2 ?_
    rw [here, newly.2, newly.1]
    simp
  · rename_i notNewly
    refine List.countP_congr fun id _ => ?_
    by_cases other : id = event.target
    · subst other
      rw [here]
      cases already : enters category (eventsAt events event.target) <;> simp_all
    · rw [elsewhere id other]

end Trace

namespace Node

theorem category_after {node : Node} {events : List Event}
    (told : node.decision = Trace.decisionOf events) (event : Event) :
    (node.after event).2 = Trace.categoryAfter events event := by
  cases action : event.action with
  | temporary =>
      by_cases unknown : node.decision.status = .unknown <;>
        simp [after, Trace.categoryAfter, action, ← told, status, unknown]
  | _ => simp [after, Trace.categoryAfter, action]

end Node

namespace Builder

/-- A construction keeps the categories that each path has entered, and counts
the paths in each of them. -/
structure Tallies (builder : Builder) (events : List Event) : Prop where
  counted : ∀ id category, category ∈ (builder.drafts.detachedFor id).counted ↔
    Trace.enters category (Trace.eventsAt events id) = true
  counts : ∀ category, builder.counts.get category = Trace.tally events category

theorem tallies_empty : empty.Tallies [] where
  counted := by
    intro id category
    rw [empty, Drafts.detachedFor_put]
    split <;> simp [Trace.eventsAt, Draft.detached, Drafts.detachedFor, Drafts.draftFor]
  counts := by
    intro category
    cases category <;> rfl

namespace Tallies

variable {builder : Builder} {events : List Event}

/-- The category that an event newly puts its path in. -/
def newly (builder : Builder) (event : Event) : Option Category :=
  let draft := builder.drafts.draftFor event.target event.impliedKind
  ({ draft.node with lastEvent := event.tag }.after event).2.filter (· ∉ draft.counted)

theorem counts_record {event : Event} (counts : event.action ≠ .summarized) (builder : Builder) :
    (builder.record event).counts =
      (newly builder event).elim builder.counts builder.counts.increment := by
  simp only [record, counts, if_false]
  rfl

theorem counted_drafted (builder : Builder) (event : Event) :
    (builder.drafts.drafted event).detached.counted =
      (builder.drafts.detachedFor event.target).counted ++ (newly builder event).toList := by
  rw [← Drafts.detached_draftFor builder.drafts event.target event.impliedKind]
  rfl

theorem newly_eq_some_iff (tallies : builder.Tallies events) (tells : builder.Tells events)
    {event : Event} {category : Category} :
    newly builder event = some category ↔
      Trace.categoryAfter (Trace.eventsAt events event.target) event = some category ∧
        Trace.enters category (Trace.eventsAt events event.target) = false := by
  have before : Node.decision
      { (builder.drafts.draftFor event.target event.impliedKind).node with
        lastEvent := event.tag } =
      Trace.decisionOf (Trace.eventsAt events event.target) :=
    tells.decision_draftFor event.target event.impliedKind
  have counted : category ∈
      (builder.drafts.draftFor event.target event.impliedKind).counted ↔
      Trace.enters category (Trace.eventsAt events event.target) = true := by
    rw [← tallies.counted, ← Drafts.detached_draftFor builder.drafts _ event.impliedKind]
    rfl
  rw [newly, Node.category_after before, Option.filter_eq_some_iff, decide_eq_true_eq, counted,
    Bool.not_eq_true]

/-- Recording one more event keeps the tallies. -/
theorem record (tallies : builder.Tallies events) (tells : builder.Tells events)
    (event : Event) : (builder.record event).Tallies (events ++ [event]) := by
  by_cases summary : event.action = .summarized
  · have sameEvents (id : String) :
        Trace.eventsAt (events ++ [event]) id = Trace.eventsAt events id :=
      Trace.eventsAt_concat_other (Or.inl summary)
    have sameMentioned : Trace.mentioned (events ++ [event]) = Trace.mentioned events := by
      rw [Trace.mentioned_concat, Trace.mention, if_pos summary]
    rw [record_of_summary summary]
    refine ⟨fun id category => ?_, fun category => ?_⟩
    · rw [sameEvents, tallies.counted]
    · simp only [tallies.counts, Trace.tally, sameEvents, sameMentioned]
  · refine ⟨fun id category => ?_, fun category => ?_⟩
    · rw [drafts_record summary, Drafts.detachedFor_link, Drafts.detachedFor_put,
        Drafts.id_drafted]
      split
      · rename_i here
        subst here
        rw [counted_drafted, List.mem_append, tallies.counted, Option.mem_toList,
          tallies.newly_eq_some_iff tells, Trace.eventsAt_concat_self summary,
          Trace.enters_concat]
        cases Trace.enters category (Trace.eventsAt events event.target) <;> simp
      · rename_i other
        rw [Trace.eventsAt_concat_other (Or.inr other), tallies.counted]
    · rw [counts_record summary, Trace.tally_concat summary]
      simp only [← tallies.newly_eq_some_iff tells, Int.natCast_add]
      cases isNew : newly builder event with
      | none => simp [tallies.counts]
      | some other =>
          by_cases same : other = category <;>
            simp [Counts.get_increment, tallies.counts, same]

end Tallies

/-- Recording a whole trace tallies it. -/
theorem tallies_recordAll (events : List Event) : (empty.recordAll events).Tallies events := by
  induction events using List.reverseRecOn with
  | nil => exact tallies_empty
  | append_singleton events event ih =>
      rw [recordAll_append, recordAll_cons, recordAll_nil]
      exact ih.record (tells_recordAll events) event

end Builder

namespace Index

/-- The counts of an index are those of the paths that ever enter a category. -/
theorem counts_ofEvents (events : List Event) (category : Category) :
    (ofEvents events).counts.get category = Trace.tally events category :=
  (Builder.tallies_recordAll events).counts category

end Index

end ScanTree

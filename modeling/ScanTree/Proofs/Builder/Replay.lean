import ScanTree.Proofs.Builder.Tally
import Mathlib.Data.List.Basic

/-!
# Recording a trace again

What a construction tells of a path depends on the last of the events on it that
say something, and is the same if all of them come twice.  The categories that a
path has entered only ever grow, and a second pass over the same events adds
none: whatever decides anything the second time decided the same before.  So a
trace that is recorded again leaves a construction as it was.
-/

namespace ScanTree

namespace Table

variable {α : Type} {key : α → String}

theorem entries_eq_filterMap_find? (table : Table α key) :
    table.entries = table.keys.filterMap table.find? := by
  rw [keys, List.filterMap_map]
  symm
  calc
    table.entries.filterMap (table.find? ∘ key) = table.entries.filterMap some :=
      List.filterMap_congr fun value member => find?_key_of_mem member
    _ = table.entries := List.filterMap_some

/-- Tables with the same keys in the same order, under which the same is found,
are the same. -/
theorem ext_find? {first second : Table α key} (sameKeys : first.keys = second.keys)
    (sameFound : ∀ id, first.find? id = second.find? id) : first = second := by
  apply ext_entries
  rw [entries_eq_filterMap_find? first, entries_eq_filterMap_find? second, sameKeys,
    funext sameFound]

end Table

namespace Trace

/-! ## Events that come twice -/

theorem decisionOf_append_self (events : List Event) :
    decisionOf (events ++ events) = decisionOf events := by
  simp only [decisionOf, List.filterMap_append, List.getLast?_append, Option.or_self,
    List.any_append, Bool.or_self]

theorem kindOf_append_self (events : List Event) :
    kindOf (events ++ events) = kindOf events := by
  simp only [kindOf, leafKindOf, List.filter_append, List.getLast?_append, Option.or_self,
    List.any_append, Bool.or_self]

theorem lastTagOf_append_self (events : List Event) :
    lastTagOf (events ++ events) = lastTagOf events := by
  simp only [lastTagOf, List.getLast?_append, Option.or_self]

theorem mentioned_append_self (events : List Event) :
    mentioned (events ++ events) = mentioned events := by
  have nothingNew : (mentioned events).filter (· ∉ mentioned events) = [] :=
    List.filter_eq_nil_iff.2 fun id member => by simpa using member
  rw [mentioned_append, nothingNew, List.append_nil]

/-- A trace that comes twice describes every path as it does once. -/
theorem nodeAt_append_self (events : List Event) (id : String) :
    nodeAt (events ++ events) id = nodeAt events id := by
  have children : childrenAt (events ++ events) id = childrenAt events id := by
    rw [childrenAt, mentioned_append_self, childrenAt]
  rw [nodeAt, nodeAt, toldAt, toldAt, children, eventsAt_append, decisionOf_append_self,
    kindOf_append_self, lastTagOf_append_self]

theorem enters_append_of_subset {first second : List Event} (known : second ⊆ first)
    (category : Category) : enters category (first ++ second) = enters category first := by
  have anyAppend (test : Event → Bool) : (first ++ second).any test = first.any test := by
    rw [List.any_append, Bool.or_eq_left_iff_imp]
    intro holds
    obtain ⟨event, member, passes⟩ := List.any_eq_true.1 holds
    exact List.any_eq_true.2 ⟨event, known member, passes⟩
  cases category with
  | included => exact anyAppend _
  | skipped => exact anyAppend _
  | ignored =>
      rw [enters, enters, anyAppend, List.takeWhile_append]
      split
      · rename_i whole
        have undecided : first.takeWhile (·.verdict?.isNone) = first :=
          (List.takeWhile_prefix _).eq_of_length whole
        have fewer : (second.takeWhile (·.verdict?.isNone)).any (·.action = .temporary) = true →
            first.any (·.action = .temporary) = true := by
          intro holds
          obtain ⟨event, member, temporary⟩ := List.any_eq_true.1 holds
          exact List.any_eq_true.2
            ⟨event, known ((List.takeWhile_sublist _).subset member), temporary⟩
        rw [undecided, List.any_append, Bool.or_eq_left_iff_imp.2 fewer]
      · rfl

end Trace

namespace Builder

theorem find?_drafts_recordAll (events : List Event) (id : String) :
    (empty.recordAll events).drafts.find? id =
      if id ∈ Trace.mentioned events then
        some ⟨Trace.nodeAt events id, ((empty.recordAll events).drafts.detachedFor id).counted⟩
      else none := by
  have tells := tells_recordAll events
  split
  · rename_i known
    rw [← tells.keys_eq] at known
    obtain ⟨draft, found⟩ := Option.isSome_iff_exists.1 (Table.find?_isSome_iff.2 known)
    rw [found, Drafts.detachedFor_of_find? found, ← tells.node_of_find? found]
    rfl
  · rename_i unknown
    rw [← tells.keys_eq] at unknown
    exact Table.find?_eq_none_iff.2 unknown

variable {events before : List Event} {event : Event}

/-- An event of a trace that has been recorded puts its path in no category that
the path has not entered. -/
theorem newly_replayed (replayed : before ++ [event] <+: events)
    (counts : event.action ≠ .summarized) :
    Tallies.newly (empty.recordAll (events ++ before)) event = none := by
  refine Option.eq_none_iff_forall_ne_some.2 fun category isNew => ?_
  obtain ⟨puts, notYet⟩ := ((tallies_recordAll _).newly_eq_some_iff (tells_recordAll _)).1 isNew
  have known (id : String) :
      Trace.eventsAt (before ++ [event]) id ⊆ Trace.eventsAt events id :=
    (replayed.sublist.filter _).subset
  -- The same event has put the path in the category in the first pass.
  have entersAfter : Trace.enters category (Trace.eventsAt events event.target) = true := by
    rw [← Trace.enters_append_of_subset (known event.target), ← Trace.eventsAt_append,
      ← List.append_assoc, Trace.eventsAt_concat_self counts, Trace.enters_concat, puts]
    simp
  rw [Trace.eventsAt_append, Trace.enters_append_of_subset
    fun earlier member => known _ (by simp [Trace.eventsAt_append, member]), entersAfter] at notYet
  simp at notYet

/-- While a trace is recorded again, the counts and the categories that each path
has entered stay as they are. -/
theorem counted_replayed (replayed : before <+: events) :
    (empty.recordAll (events ++ before)).counts = (empty.recordAll events).counts ∧
      ∀ id, ((empty.recordAll (events ++ before)).drafts.detachedFor id).counted =
        ((empty.recordAll events).drafts.detachedFor id).counted := by
  induction before using List.reverseRecOn with
  | nil => simp
  | append_singleton before event ih =>
      obtain ⟨sameCounts, sameCounted⟩ := ih ((List.prefix_append before [event]).trans replayed)
      rw [← List.append_assoc, recordAll_append, recordAll_cons, recordAll_nil]
      by_cases summary : event.action = .summarized
      · rw [record_of_summary summary]
        exact ⟨sameCounts, sameCounted⟩
      · have nothingNew := newly_replayed replayed summary
        refine ⟨?_, fun id => ?_⟩
        · rw [Tallies.counts_record summary, nothingNew, Option.elim_none, sameCounts]
        · rw [drafts_record summary, Drafts.detachedFor_link, Drafts.detachedFor_put,
            Drafts.id_drafted]
          split
          · rename_i here
            rw [Tallies.counted_drafted, nothingNew, Option.toList_none, List.append_nil,
              ← here, sameCounted]
          · exact sameCounted id

/-- Recording a trace again leaves the construction that has just recorded it as
it was, and the index of a trace that comes twice is the index of the trace. -/
theorem recordAll_again (events : List Event) :
    (empty.recordAll events).recordAll events = empty.recordAll events ∧
      Index.ofEvents (events ++ events) = Index.ofEvents events := by
  have unchanged : empty.recordAll (events ++ events) = empty.recordAll events := by
    obtain ⟨sameCounts, sameCounted⟩ := counted_replayed (List.prefix_refl events)
    have sameDrafts : (empty.recordAll (events ++ events)).drafts =
        (empty.recordAll events).drafts := by
      apply Table.ext_find?
      · rw [(tells_recordAll _).keys_eq, (tells_recordAll _).keys_eq,
          Trace.mentioned_append_self]
      · intro id
        rw [find?_drafts_recordAll, find?_drafts_recordAll, Trace.mentioned_append_self,
          Trace.nodeAt_append_self, sameCounted]
    calc
      empty.recordAll (events ++ events) =
          ⟨(empty.recordAll (events ++ events)).drafts,
            (empty.recordAll (events ++ events)).counts⟩ := rfl
      _ = empty.recordAll events := by rw [sameDrafts, sameCounts]
  refine ⟨?_, congrArg Builder.index unchanged⟩
  rw [← recordAll_append, unchanged]

end Builder

end ScanTree

import ScanTree.SummaryCheck
import ScanTree.Proofs.Builder.Census
import ScanTree.Proofs.Builder.Discovery

/-!
# Summaries checked against events

What a summary is compared with is told by the events alone: the last event on a
path that decides about it, or else whether any event calls the path temporary.
So the mismatches that are reported are those of the events with the lists of
the summary, and a path without a status is one that no event mentions.
-/

namespace ScanTree

namespace Event

instance : DecidablePred Decides := fun event =>
  inferInstanceAs (Decidable (event.action = .included ∨ event.action = .ignored ∨
    event.action = .skipped ∨ event.action = .failed))

theorem exists_verdict_of_decides {event : Event} (decides : event.Decides) :
    ∃ decision, event.verdict? = some decision := by
  apply Option.ne_none_iff_exists'.1
  intro undecided
  exact isNone_verdict?_iff.1 (Option.isNone_iff_eq_none.2 undecided) decides

theorem verdict?_of_not_decides {event : Event} (undecided : ¬ event.Decides) :
    event.verdict? = none :=
  Option.isNone_iff_eq_none.1 (isNone_verdict?_iff.2 undecided)

theorem status_eq_included_iff {event : Event} {decision : Decision}
    (decides : event.verdict? = some decision) :
    decision.status = .included ↔ event.action = .included := by
  unfold verdict? at decides
  split at decides <;> simp_all <;> (subst decision; simp)

end Event

namespace Trace

/-- What the last of the events on a path that decide about it does. -/
def lastDeciding? (events : List Event) (id : String) : Option Action :=
  ((eventsAt events id).filter fun event => event.Decides).getLast?.map Event.action

section

variable {events : List Event} {event : Event} {id : String}

theorem filterMap_verdict?_filter (events : List Event) :
    (events.filter fun event => event.Decides).filterMap Event.verdict? =
      events.filterMap Event.verdict? := by
  rw [List.filterMap_filter]
  apply List.filterMap_congr
  intro event _
  by_cases decides : event.Decides
  · simp [decides]
  · simp [decides, Event.verdict?_of_not_decides decides]

/-- The decision is that of the last event that decides. -/
theorem verdict?_of_lastDeciding
    (last : (events.filter fun event => event.Decides).getLast? = some event) :
    event.verdict? = some (decisionOf events) := by
  obtain ⟨before, split⟩ := List.getLast?_eq_some_iff.1 last
  have decides : event.Decides :=
    of_decide_eq_true (List.mem_filter.1 (List.mem_of_getLast? last)).2
  obtain ⟨decision, verdict⟩ := Event.exists_verdict_of_decides decides
  rw [decisionOf, ← filterMap_verdict?_filter, split, List.filterMap_append]
  simp [verdict]

/-- A path is included if the last event that decides about it includes it. -/
theorem status_decisionOf_eq_included_iff :
    (decisionOf (eventsAt events id)).status = .included ↔
      lastDeciding? events id = some .included := by
  rw [lastDeciding?]
  cases last : ((eventsAt events id).filter fun event => event.Decides).getLast? with
  | some event =>
      rw [Event.status_eq_included_iff (verdict?_of_lastDeciding last), Option.map_some,
        Option.some.injEq]
  | none =>
      have noneDecides := List.getLast?_eq_none_iff.1 last
      rw [decisionOf, ← filterMap_verdict?_filter, noneDecides]
      simp only [List.filterMap_nil, List.getLast?_nil, Option.map_none, reduceCtorEq, iff_false]
      split <;> simp

theorem lastDeciding?_eq_none_iff :
    lastDeciding? events id = none ↔
      (eventsAt events id).all (·.verdict?.isNone) = true := by
  rw [lastDeciding?, Option.map_eq_none_iff, List.getLast?_eq_none_iff, List.filter_eq_nil_iff,
    List.all_eq_true]
  simp only [decide_eq_true_eq, Event.isNone_verdict?_iff]

theorem any_temporary_eventsAt_eq_false_iff :
    (eventsAt events id).any (·.action = .temporary) = false ↔
      ∀ event ∈ events, event.target = id → event.action ≠ .temporary := by
  simp only [List.any_eq_false, mem_eventsAt_iff, decide_eq_true_eq]
  constructor
  · intro noneCalls event member here temporary
    exact noneCalls event ⟨member, by simp [temporary], here⟩ temporary
  · rintro noneCalls event ⟨member, _, here⟩
    exact noneCalls event member here

/-- A path is left unknown if no event decides about it and none calls it
temporary. -/
theorem status_decisionOf_eventsAt_eq_unknown_iff :
    (decisionOf (eventsAt events id)).status = .unknown ↔
      lastDeciding? events id = none ∧
        ∀ event ∈ events, event.target = id → event.action ≠ .temporary := by
  rw [status_decisionOf_eq_unknown_iff, lastDeciding?_eq_none_iff,
    any_temporary_eventsAt_eq_false_iff]

end

end Trace

namespace Index

theorem mismatches_eq_map_filter (index : Index) (expected : Status)
    (accepts : Option Status → Bool) (items : List SummaryItem) :
    index.mismatches expected accepts items =
      (items.filter fun item => !accepts (index.statusOf? item.path)).map fun item =>
        ⟨item.path, expected, index.statusOf? item.path, item.reason⟩ := by
  induction items with
  | nil => rfl
  | cons item items ih =>
      rw [mismatches] at ih ⊢
      cases accepted : accepts (index.statusOf? item.path) <;> simp [accepted, ih]

theorem statusOf?_ofEvents (events : List Event) (path : String) :
    (ofEvents events).statusOf? path =
      if Path.normalize (some path) ∈ Trace.mentioned events then
        some (Trace.decisionOf (Trace.eventsAt events (Path.normalize (some path)))).status
      else none := by
  rw [statusOf?, find?_ofEvents]
  split <;> rfl

section

variable {events : List Event} {path : String}

theorem statusOf?_eq_none_iff :
    (ofEvents events).statusOf? path = none ↔
      Path.normalize (some path) ∉ Trace.mentioned events := by
  rw [statusOf?_ofEvents]
  split <;> simp_all

theorem statusOf?_eq_included_iff :
    (ofEvents events).statusOf? path = some .included ↔
      Trace.lastDeciding? events (Path.normalize (some path)) = some .included := by
  rw [statusOf?_ofEvents, ← Trace.status_decisionOf_eq_included_iff]
  split
  · rw [Option.some.injEq]
  · rename_i unknown
    rw [Trace.eventsAt_eq_nil_of_notMem unknown]
    simp [Trace.decisionOf]

theorem statusOf?_excluded_iff :
    (ofEvents events).statusOf? path = some .ignored ∨
        (ofEvents events).statusOf? path = some .skipped ↔
      ¬ (Trace.lastDeciding? events (Path.normalize (some path)) = some .included ∨
        Trace.lastDeciding? events (Path.normalize (some path)) = none ∧
          ∀ event ∈ events, event.target = Path.normalize (some path) →
            event.action ≠ .temporary) := by
  rw [← Trace.status_decisionOf_eq_included_iff, ← Trace.status_decisionOf_eventsAt_eq_unknown_iff,
    statusOf?_ofEvents]
  split
  · cases (Trace.decisionOf
      (Trace.eventsAt events (Path.normalize (some path)))).status <;> simp
  · rename_i unknown
    rw [Trace.eventsAt_eq_nil_of_notMem unknown]
    simp [Trace.decisionOf]

end

/-- The check of a summary reports, in the order of its lists, the paths listed
as included on which the last event that decides does not include them, or on
which none decides, and then the paths listed as ignored on which the last event
that decides includes them, or on which none decides and none calls them
temporary.  No status is reported just for paths other than the root that no
event mentions, and for all others that of the node, be it unknown or not. -/
theorem checkSummary_told_by_events (events : List Event) (summary : Summary) :
    (ofEvents events).checkSummary summary =
      ((summary.included.filter fun item =>
          Trace.lastDeciding? events (Path.normalize (some item.path)) ≠ some .included).map
        fun item => ⟨item.path, .included, (ofEvents events).statusOf? item.path, item.reason⟩) ++
      ((summary.ignored.filter fun item =>
          Trace.lastDeciding? events (Path.normalize (some item.path)) = some .included ∨
            Trace.lastDeciding? events (Path.normalize (some item.path)) = none ∧
              ∀ event ∈ events, event.target = Path.normalize (some item.path) →
                event.action ≠ .temporary).map
        fun item => ⟨item.path, .ignored, (ofEvents events).statusOf? item.path, item.reason⟩) ∧
    ∀ path,
      ((ofEvents events).statusOf? path = none ↔
        Path.normalize (some path) ≠ Path.root ∧
          ∀ event ∈ events, event.action ≠ .summarized →
            Path.normalize (some path) ∉ Path.lineage event.target) ∧
      ((ofEvents events).statusOf? path ≠ none ↔
        ∃ node, (ofEvents events).find? (Path.normalize (some path)) = some node ∧
          (ofEvents events).statusOf? path = some node.status) := by
  refine ⟨?_, fun path => ⟨?_, ?_⟩⟩
  · rw [checkSummary, mismatches_eq_map_filter, mismatches_eq_map_filter]
    congr 2
    · apply List.filter_congr
      intro item _
      simp [statusOf?_eq_included_iff]
    · apply List.filter_congr
      intro item _
      have excluded := @statusOf?_excluded_iff events item.path
      rw [← Bool.decide_or, ← decide_not, decide_eq_decide, excluded, not_not]
  · rw [statusOf?_eq_none_iff, Trace.mem_mentioned_iff]
    push Not
    rfl
  · rw [statusOf?]
    cases (ofEvents events).find? (Path.normalize (some path)) <;> simp

example :
    (ofEvents
      [{ tag := some "ignore", path := some "./a" }, { tag := some "include", path := some "a" },
        { tag := some "temp", path := some "a" }, { tag := some "enter", path := some "c/d" }]
      ).checkSummary
        { included := [⟨"./a", none, none⟩, ⟨"c", none, some "rule"⟩, ⟨"x", none, none⟩]
          ignored := [⟨"a", none, none⟩] } =
      [⟨"c", .included, some .unknown, some "rule"⟩, ⟨"x", .included, none, none⟩,
        ⟨"a", .ignored, some .included, none⟩] := by
  decide +kernel

end Index

end ScanTree

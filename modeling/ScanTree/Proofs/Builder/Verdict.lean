import ScanTree.Proofs.Builder.Link
import ScanTree.Proofs.Builder.Mention

/-!
# What the events on one path come to

The decision about a path is that of the last event that decides anything, and
a path that is only called temporary is ignored.  A path is a directory if one
of its events shows it to be one; otherwise its last inclusion tells a symbolic
link from a file.  Both are stated for a list of events and shown to be what
recording one more event makes of them.
-/

namespace ScanTree

namespace Event

/-- The decision that an event makes about its path, if it makes one that
stands whatever was decided before. -/
def verdict? (event : Event) : Option Decision :=
  match event.action with
  | .included => some ⟨.included, none, none⟩
  | .ignored => some ⟨.ignored, event.reason, event.pattern⟩
  | .skipped => some ⟨.skipped, event.reason, event.pattern⟩
  | .failed => some ⟨.ignored, some "error", none⟩
  | _ => none

/-- Whether an event shows that its path is a directory. -/
def isDirectory (event : Event) : Bool :=
  event.action = .entered || event.action = .skipped ||
    (event.action = .included && event.kind = some "dir")

/-- The kind that an inclusion tells of a path that is no directory. -/
def leafKind (event : Event) : Kind :=
  if event.kind = some "symlink" then .symlink else .file

theorem leafKind_ne_dir (event : Event) : event.leafKind ≠ .dir := by
  unfold leafKind
  split <;> simp

theorem impliedKind_eq (event : Event) :
    event.impliedKind =
      if event.isDirectory then .dir
      else if event.action = .included then event.leafKind
      else .file := by
  cases action : event.action with
  | included =>
      cases kind : event.kind with
      | none => simp [impliedKind, isDirectory, leafKind, action, kind]
      | some name =>
          by_cases isFile : name = "file" <;> by_cases isDir : name = "dir" <;>
            by_cases isLink : name = "symlink" <;>
            simp_all [impliedKind, isDirectory, leafKind, Kind.ofName?]
  | _ => simp [impliedKind, isDirectory, action]

theorem impliedKind_eq_dir_iff {event : Event} :
    event.impliedKind = .dir ↔ event.isDirectory = true := by
  rw [impliedKind_eq]
  split
  · simp_all
  · have notDir := leafKind_ne_dir event
    split <;> simp_all

end Event

namespace Trace

/-- The decision that the events on one path come to. -/
def decisionOf (events : List Event) : Decision :=
  match (events.filterMap Event.verdict?).getLast? with
  | some decision => decision
  | none =>
    if events.any (·.action = .temporary) then ⟨.ignored, some "temporary", none⟩ else {}

/-- The kind that the last inclusion tells of a path that is no directory. -/
def leafKindOf (events : List Event) : Kind :=
  match (events.filter (·.action = .included)).getLast? with
  | some event => event.leafKind
  | none => .file

/-- The kind that the events on one path come to. -/
def kindOf (events : List Event) : Kind :=
  if events.any Event.isDirectory then .dir else leafKindOf events

/-- The tag of the last of the events on one path. -/
def lastTagOf (events : List Event) : Option String :=
  events.getLast?.bind Event.tag

@[simp]
theorem kindOf_nil : kindOf [] = .file :=
  rfl

@[simp]
theorem lastTagOf_concat (events : List Event) (event : Event) :
    lastTagOf (events ++ [event]) = event.tag := by
  simp [lastTagOf]

theorem status_ne_unknown_of_verdict? {event : Event} {decision : Decision}
    (decides : event.verdict? = some decision) : decision.status ≠ .unknown := by
  unfold Event.verdict? at decides
  split at decides <;> simp_all <;> (subst decision; simp)

/-- Nothing but the absence of a decision leaves a path unknown. -/
theorem decisionOf_eq_default {events : List Event}
    (unknown : (decisionOf events).status = .unknown) : decisionOf events = {} := by
  unfold decisionOf at unknown ⊢
  split
  · rename_i decision last
    obtain ⟨event, _, decides⟩ := List.mem_filterMap.1 (List.mem_of_getLast? last)
    simp only [last] at unknown
    exact absurd unknown (status_ne_unknown_of_verdict? decides)
  · rename_i last
    simp only [last] at unknown
    split at unknown
    · simp at unknown
    · simp_all

theorem decisionOf_concat (events : List Event) (event : Event) :
    decisionOf (events ++ [event]) =
      match event.verdict? with
      | some decision => decision
      | none =>
        if event.action = .temporary ∧ (decisionOf events).status = .unknown then
          ⟨.ignored, some "temporary", none⟩
        else decisionOf events := by
  cases decides : event.verdict? with
  | some decision => simp [decisionOf, decides]
  | none =>
      have sameVerdicts : (events ++ [event]).filterMap Event.verdict? =
          events.filterMap Event.verdict? := by
        simp [decides]
      cases last : (events.filterMap Event.verdict?).getLast? with
      | some decision =>
          obtain ⟨decider, _, decided⟩ := List.mem_filterMap.1 (List.mem_of_getLast? last)
          have decidedStatus := status_ne_unknown_of_verdict? decided
          simp only [decisionOf, sameVerdicts, last, decidedStatus, and_false, if_false]
      | none =>
          simp only [decisionOf, sameVerdicts, last, List.any_append]
          by_cases already : events.any (·.action = .temporary) = true <;>
            by_cases temporary : event.action = .temporary <;>
            simp [already, temporary]

theorem leafKindOf_ne_dir (events : List Event) : leafKindOf events ≠ .dir := by
  unfold leafKindOf
  split
  · exact Event.leafKind_ne_dir _
  · simp

theorem kindOf_eq_dir_iff {events : List Event} :
    kindOf events = .dir ↔ events.any Event.isDirectory = true := by
  have notDir := leafKindOf_ne_dir events
  unfold kindOf
  split <;> simp_all

theorem kindOf_concat (events : List Event) (event : Event) :
    kindOf (events ++ [event]) =
      if event.isDirectory ∨ kindOf events = .dir then .dir
      else if event.action = .included then event.leafKind
      else kindOf events := by
  simp only [kindOf_eq_dir_iff]
  by_cases before : events.any Event.isDirectory = true <;>
    by_cases shows : event.isDirectory = true <;>
    by_cases included : event.action = .included <;>
    simp_all [kindOf, leafKindOf, List.filter_append]

end Trace

namespace Node

/-- Recording an event turns the decision that the earlier events come to into
the one that all of them come to. -/
theorem decision_after {node : Node} {events : List Event}
    (told : node.decision = Trace.decisionOf events) (event : Event) :
    (node.after event).1.decision = Trace.decisionOf (events ++ [event]) := by
  rw [Trace.decisionOf_concat, ← told]
  cases action : event.action with
  | temporary =>
      by_cases unknown : node.status = .unknown
      · have nothing : node.decision = {} := by
          rw [told]
          exact Trace.decisionOf_eq_default (told ▸ unknown)
        simp [after, Event.verdict?, action, status, nothing]
      · simp [after, Event.verdict?, action, unknown]
  | _ => simp [after, Event.verdict?, action]

theorem kind_after (node : Node) (event : Event) :
    (node.after event).1.kind =
      if event.action = .included then if node.kind = .dir then .dir else event.impliedKind
      else if event.isDirectory then .dir
      else node.kind := by
  cases action : event.action with
  | temporary =>
      by_cases unknown : node.status = .unknown <;>
        simp [after, Event.isDirectory, action, unknown]
  | _ => simp [after, Event.isDirectory, action]

/-- No event changes anything but the decision, the kind and the last event of
its node. -/
theorem after_eq (node : Node) (event : Event) :
    (node.after event).1 =
      { node with
        decision := (node.after event).1.decision
        kind := (node.after event).1.kind } := by
  unfold after
  split <;> try rfl
  split <;> rfl

end Node

end ScanTree

import ScanTree.Json.Basic
import ScanTree.Json.Decode
import ScanTree.Json.Display
import ScanTree.Kind

/-!
# Events

An event is one record of a scanner's trace: what happened to one path.  A
trace holds one JSON object per line.  A member of the wrong type counts as
absent, and a tag that is not known is kept as it is.
-/

namespace ScanTree

/-- One record of a trace. -/
structure Event where
  tag : Option String := none
  path : Option String := none
  kind : Option String := none
  reason : Option String := none
  pattern : Option String := none
  canSkipDir : Option Bool := none
  tempExpired : Option Bool := none
  normalizedPath : Option String := none
  autoNormalize : Option Bool := none
  message : Option String := none
deriving DecidableEq, Repr

/-- What an event does to its path. -/
inductive Action where
  /-- The path is included. -/
  | included
  /-- The path is ignored. -/
  | ignored
  /-- The directory is skipped. -/
  | skipped
  /-- The path is temporary. -/
  | temporary
  /-- The path could not be read. -/
  | failed
  /-- The directory is entered. -/
  | entered
  /-- The whole scan is summed up; no path is concerned. -/
  | summarized
  /-- The path is only mentioned. -/
  | mentioned
deriving DecidableEq, Repr

namespace Event

/-- What an event does, as its tag says. -/
def action (event : Event) : Action :=
  if event.tag = some "include" then .included
  else if event.tag = some "ignore" then .ignored
  else if event.tag = some "skip" then .skipped
  else if event.tag = some "temp" then .temporary
  else if event.tag = some "error" then .failed
  else if event.tag = some "enter" then .entered
  else if event.tag = some "summary" then .summarized
  else .mentioned

/-- The kind that an event implies for a path that it is the first to mention.
Only an inclusion can tell a symbolic link. -/
def impliedKind (event : Event) : Kind :=
  match event.action with
  | .included => (event.kind.bind Kind.ofName?).getD .file
  | .entered | .skipped => .dir
  | _ => .file

/-- The event of a record. -/
def ofMembers (members : Members) : Event where
  tag := (members.get? "event").bind Json.text?
  path := (members.get? "path").bind Json.text?
  kind := (members.get? "kind").bind Json.text?
  reason := (members.get? "reason").bind Json.text?
  pattern := (members.get? "pattern").bind Json.text?
  canSkipDir := (members.get? "canSkipDir").bind Json.bool?
  tempExpired := (members.get? "tempExpired").bind Json.bool?
  normalizedPath := (members.get? "normalizedPath").bind Json.text?
  autoNormalize := (members.get? "autoNormalize").bind Json.bool?
  message := (members.get? "message").bind Json.text?

end Event

/-- Why a line is not a record. -/
inductive RecordError where
  /-- The line is not JSON. -/
  | notJson (error : Json.DecodeError)
  /-- The line holds a value of another type than an object. -/
  | notAnObject (typeName : String)
deriving DecidableEq, Repr

/-- The wording of a refusal. -/
def RecordError.message : RecordError → String
  | notJson error => error.message
  | notAnObject typeName => s!"expected a JSON object, got {typeName}"

/-- What was to be done when the line was found to nest too deep, if it was. -/
def RecordError.overrun? : RecordError → Option Json.Overrun
  | notJson (.tooDeep overrun) => some overrun
  | _ => none

/-- Read a line of a trace as a record where there is room for so many further
calls. -/
def decodeRecord (room : Nat) (line : String) : Except RecordError Members :=
  match Json.decodeWithin room line with
  | .error error => .error (.notJson error)
  | .ok (.obj members) => .ok members
  | .ok other => .error (.notAnObject other.typeName)

end ScanTree

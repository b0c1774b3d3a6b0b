import ScanTree.Builder
import ScanTree.Summary
import ScanTree.Text.Blank
import ScanTree.Text.Pieces

/-!
# Reading a trace

A trace is read line by line.  A blank line is passed over, a line that is not
a record is reported with its number, a summary is kept aside, and every other
record is an event of the index.  A line that nests too deep for the room that
there is breaks the reading off.

A reading is also given as a program, which asks from time to time whether it
has been cancelled and then reports how far it has come.  What is done with the
questions and the reports is left to whoever runs the program.
-/

namespace ScanTree

namespace Ingest

/-- The number of lines from one report to the next. -/
def reportEvery : Nat := 5000

/-- How far a reading has come. -/
structure Progress where
  /-- The label of the trace. -/
  label : String
  /-- The number of lines read. -/
  processed : Nat
  /-- The number of all lines. -/
  total : Nat
deriving DecidableEq, Repr

/-- A line that is not a record. -/
structure LineError where
  /-- The number of the line, counted from one. -/
  line : Nat
  /-- What is wrong with it. -/
  message : String
deriving DecidableEq, Repr

/-- What a reading finds out. -/
structure Result where
  /-- The label of the trace. -/
  label : String
  /-- The index of the events. -/
  index : Index
  /-- The lines that are not records, in order. -/
  errors : List LineError
  /-- The last summary of the trace. -/
  summary : Option Summary
  /-- The number of lines. -/
  totalLines : Nat
deriving DecidableEq

/-- A reading that broke off. -/
structure Breakdown where
  /-- The label of the trace. -/
  label : String
  /-- The number of the line that nests too deep. -/
  line : Nat
  /-- What there was no room for. -/
  overrun : Json.Overrun
  /-- The lines before it that are not records, in order. -/
  errors : List LineError
  /-- The number of lines. -/
  totalLines : Nat
deriving DecidableEq

/-- The state of a reading between two lines. -/
structure Pass where
  /-- The index so far. -/
  builder : Builder := .empty
  /-- The lines that are not records, the last one first. -/
  errors : List LineError := []
  /-- The last summary so far. -/
  summary : Option Summary := none

/-- What one line of a trace is. -/
inductive Line where
  /-- The line is blank. -/
  | blank
  /-- The line is not a record. -/
  | malformed (error : RecordError)
  /-- The line holds a summary. -/
  | summary (summary : Summary)
  /-- The line holds an event. -/
  | event (event : Event)
  /-- The line nests too deep to be told apart. -/
  | tooDeep (overrun : Json.Overrun)

/-- Tell what a line is. -/
def Line.ofText (room : Nat) (text : String) : Line :=
  let stripped := Text.strip text
  if stripped = "" then blank
  else
    match decodeRecord room stripped with
    | .error error =>
      match error.overrun? with
      | some overrun => tooDeep overrun
      | none => malformed error
    | .ok members =>
      if (members.get? "event").bind Json.text? = some "summary" then
        summary (.ofMembers members)
      else event (.ofMembers members)

/-- The wording of a report about a line. -/
def lineMessage (number : Nat) (error : RecordError) : String :=
  s!"Failed to parse JSON on line {number}: {error.message}"

namespace Pass

/-- Take in the line of the given number.  One that nests too deep leaves nothing
behind. -/
def add (pass : Pass) (number : Nat) : Line → Pass
  | .blank | .tooDeep _ => pass
  | .malformed error =>
    { pass with errors := ⟨number, lineMessage number error⟩ :: pass.errors }
  | .summary summary => { pass with summary := some summary }
  | .event event => { pass with builder := pass.builder.record event }

/-- Read lines, the first of which has the number after `position`.  If one of them
nests too deep, the reading comes no further: its number is told, and what had been
taken in by then. -/
def readFrom (room : Nat) (pass : Pass) (position : Nat) :
    List String → Except (Pass × Nat × Json.Overrun) Pass
  | [] => .ok pass
  | text :: rest =>
    match Line.ofText room text with
    | .tooDeep overrun => .error (pass, position + 1, overrun)
    | line => (pass.add (position + 1) line).readFrom room (position + 1) rest

/-- What the reading has found out. -/
def result (pass : Pass) (label : String) (total : Nat) : Result where
  label := label
  index := pass.builder.index
  errors := pass.errors.reverse
  summary := pass.summary
  totalLines := total

end Pass

/-- Read a whole trace. -/
def read (room : Nat) (text label : String) : Except Breakdown Result :=
  let lines := Text.lines text
  match Pass.readFrom room {} 0 lines with
  | .ok pass => .ok (pass.result label lines.length)
  | .error (pass, line, overrun) =>
    .error ⟨label, line, overrun, pass.errors.reverse, lines.length⟩

/-! ## Readings that can be cancelled -/

/-- A reading as it looks from outside. -/
inductive Program where
  /-- Ask whether the reading has been cancelled. -/
  | poll (next : Bool → Program)
  /-- Report how far the reading has come. -/
  | report (progress : Progress) (next : Program)
  /-- The reading is done. -/
  | finished (result : Result)
  /-- The reading was cancelled. -/
  | cancelled (message : String)
  /-- The reading failed. -/
  | failed (message : String)

/-- The wording of a cancellation before the line of the given number. -/
def cancelMessage (label : String) (number : Nat) : String :=
  s!"ingestion of trace {label} cancelled at line {number}"

/-- The wording of the refusal to report every zero lines. -/
def zeroCadenceMessage : String := "integer modulo by zero"

namespace Program

/-- Go on from a position, with a question and a report before that if it is a
multiple of `every`. -/
def asking (every : Nat) (label : String) (total position : Nat) (goOn : Program) : Program :=
  if position % every = 0 then
    .poll fun stop =>
      if stop then .cancelled (cancelMessage label (position + 1))
      else .report ⟨label, position, total⟩ goOn
  else goOn

/-- Read lines from a position on, with questions and reports between them.  A line
that nests too deep makes the reading fail. -/
def readFrom (room every : Nat) (label : String) (total position : Nat) (pass : Pass) :
    List String → Program
  | [] => .finished (pass.result label total)
  | text :: rest =>
    asking every label total position <|
      match Line.ofText room text with
      | .tooDeep overrun => .failed overrun.message
      | line =>
        readFrom room every label total (position + 1) (pass.add (position + 1) line) rest

/-- Read a whole trace with a report every so many lines. -/
def ofTrace (room every : Nat) (text label : String) : Program :=
  if every = 0 then .failed zeroCadenceMessage
  else
    let lines := Text.lines text
    readFrom room every label lines.length 0 {} lines

end Program

/-- How a reading ends. -/
inductive Outcome where
  /-- It found out what the trace says. -/
  | finished (result : Result)
  /-- It was cancelled. -/
  | cancelled (message : String)
  /-- It failed. -/
  | failed (message : String)

/-- What is seen of a reading that runs to its end. -/
structure Run where
  /-- The reports in order. -/
  reports : List Progress
  /-- The number of questions asked. -/
  polls : Nat
  /-- The end. -/
  outcome : Outcome

/-- Run a reading.  `answer` gives the answer to each question by its number,
counted from one; `asked` questions have been asked before. -/
def Program.run (answer : Nat → Bool) : Program → Nat → Run
  | poll next, asked => (next (answer (asked + 1))).run answer (asked + 1)
  | report progress next, asked =>
    let later := next.run answer asked
    { later with reports := progress :: later.reports }
  | finished result, asked => ⟨[], asked, .finished result⟩
  | cancelled message, asked => ⟨[], asked, .cancelled message⟩
  | failed message, asked => ⟨[], asked, .failed message⟩

end Ingest

end ScanTree

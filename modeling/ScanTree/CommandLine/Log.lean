import ScanTree.Ingest

/-!
# The log

Warnings are always logged, and everything else only on request.
-/

namespace ScanTree

namespace CommandLine

/-- How important a log entry is. -/
inductive Level where
  | debug
  | info
  | warning
deriving DecidableEq, Repr

/-- The written name of a level. -/
def Level.name : Level → String
  | debug => "DEBUG"
  | info => "INFO"
  | warning => "WARNING"

/-- An entry of the log. -/
structure LogEntry where
  level : Level
  logger : String
  message : String
deriving DecidableEq, Repr

/-- The line of an entry. -/
def LogEntry.line (entry : LogEntry) : String :=
  s!"{entry.level.name} {entry.logger}: {entry.message}"

/-- The lines of the entries that are logged. -/
def logLines (verbose : Bool) (entries : List LogEntry) : List String :=
  (entries.filter fun entry => verbose || entry.level = .warning).map LogEntry.line

/-- The part of the program that reads traces. -/
def ingestLogger : String := "traceview.trace_model.build"

/-- The part of the program that compares traces. -/
def mergeLogger : String := "traceview.trace_model.merge"

/-- The part of the program that serves the command line. -/
def commandLogger : String := "traceview.cli"

/-- The entries about the progress of a reading that comes to so many lines of all,
with the lines before which they are logged. -/
def progressEntries (label : String) (reached total : Nat) : List (Nat × LogEntry) :=
  let reports := (reached + Ingest.reportEvery - 1) / Ingest.reportEvery
  (List.range reports).map fun report =>
    let processed := report * Ingest.reportEvery
    (processed + 1, ⟨.debug, ingestLogger,
      s!"Parsing trace {label}: {processed} / {total} lines"⟩)

/-- The entries about lines that are not records, with their lines. -/
def errorEntries (label : String) (errors : List Ingest.LineError) : List (Nat × LogEntry) :=
  errors.map fun error =>
    (error.line, ⟨.warning, ingestLogger, s!"trace {label}: {error.message}"⟩)

/-- The entries about the lines of a reading in order. -/
def lineEntries (label : String) (reached total : Nat) (errors : List Ingest.LineError) :
    List LogEntry :=
  ((progressEntries label reached total).merge (errorEntries label errors)
    fun first second => decide (first.1 ≤ second.1)).map (·.2)

/-- The last entry of a reading. -/
def loadedEntry (result : Ingest.Result) : LogEntry :=
  let counts := result.index.counts
  ⟨.info, ingestLogger,
    s!"Trace {result.label} loaded: {result.index.size} nodes, {counts.included} included, " ++
      s!"{counts.ignored} ignored, {counts.skipped} skipped, " ++
      s!"{result.errors.length} decode errors"⟩

/-- The entries of a reading in order. -/
def ingestEntries (result : Ingest.Result) : List LogEntry :=
  lineEntries result.label result.totalLines result.totalLines result.errors
    ++ [loadedEntry result]

/-- The entries of a reading that broke off, in order. -/
def breakdownEntries (breakdown : Ingest.Breakdown) : List LogEntry :=
  lineEntries breakdown.label breakdown.line breakdown.totalLines breakdown.errors

end CommandLine

end ScanTree

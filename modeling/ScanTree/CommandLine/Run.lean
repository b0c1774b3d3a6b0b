import ScanTree.CommandLine.Location
import ScanTree.CommandLine.Log
import ScanTree.CommandLine.Options
import ScanTree.Display.Details
import ScanTree.Display.Row
import ScanTree.Display.Terminal
import ScanTree.Merge
import ScanTree.Preferences
import ScanTree.Snapshot
import ScanTree.SummaryCheck

/-!
# Running the command line

One run reads one trace or two, and prints the rows of the tree or the details
of one node.  It may also check the tree against the summary, write the index
to a file, and save the preferences.  A run is a function of its arguments and
of the world that it finds.
-/

namespace ScanTree

namespace CommandLine

/-- What a run finds.  The locale that it collates names in is the C locale. -/
structure World where
  /-- What stands at a plain location. -/
  locate : String → Located
  /-- The preferences of the user. -/
  preferences : Storage
  /-- The width that the terminal tells, if the output goes to one.  A width
  that is not positive tells nothing. -/
  columns : Option Int
  /-- The room for lists and objects in each other that is left when a line of a
  trace is decoded. -/
  room : Nat

/-- What the value of an option is needed for. -/
inductive Need where
  /-- It locates a file. -/
  | location
  /-- It is searched for. -/
  | search
  /-- Lines are cut to it. -/
  | width
deriving DecidableEq, Repr

/-- Why a run breaks off unexpectedly. -/
inductive Failure where
  /-- The rows cannot be ordered. -/
  | view (error : ViewError)
  /-- A number cannot be written. -/
  | integer (error : IntegerError)
  /-- A file cannot be read or written. -/
  | file (error : FileError)
  /-- A line of a trace nests too deep. -/
  | nesting (overrun : Json.Overrun)
  /-- An option was given with nothing for a value. -/
  | noValue (need : Need)
deriving DecidableEq, Repr

namespace Failure

/-- The failure of a run that cannot draw a row. -/
def ofRow : RowError → Failure
  | .view error => view error
  | .integer error => integer error

/-- The wording of a failure. -/
def message : Failure → String
  | view error => error.message
  | integer error => error.message
  | file error => error.message
  | nesting overrun => overrun.message
  | noValue .location => "expected str, bytes or os.PathLike object, not list"
  | noValue .search => "'list' object has no attribute 'strip'"
  | noValue .width => "'<=' not supported between instances of 'list' and 'int'"

end Failure

/-- How a run ends. -/
inductive Ending where
  /-- It is complete. -/
  | completed
  /-- The help text was shown. -/
  | helped
  /-- The arguments were refused. -/
  | misused
  /-- The user is told why nothing can be shown. -/
  | refused (message : String)
  /-- It broke off unexpectedly. -/
  | failed (failure : Failure)
deriving DecidableEq, Repr

/-- What a run leaves behind. -/
structure Outcome where
  /-- The lines of the output. -/
  output : List String := []
  /-- The lines of the error output. -/
  errors : List String := []
  /-- The files that were written, with their texts. -/
  written : List (String × String) := []
  /-- The preferences of the user. -/
  preferences : Storage
  /-- How the run ended. -/
  ending : Ending := .completed

/-- The text of lines, each with a line feed. -/
def linesText (lines : List String) : String :=
  String.join (lines.map (· ++ "\n"))

/-- The name of the command. -/
def commandName : String := "traceview"

/-- The help text. -/
def helpLines : List String :=
  ["usage: " ++ commandName ++ " [options] trace", "", "options:"]
    ++ Switch.all.map fun switch =>
      "  " ++ ", ".intercalate switch.spellings ++ if switch.takesValue then " VALUE" else ""

/-! ## Reading the traces -/

/-- The readings of a run. -/
structure Loaded where
  /-- The reading of the trace. -/
  first : Ingest.Result
  /-- The reading of the trace that it is compared with. -/
  second : Option Ingest.Result := none

namespace Loaded

/-- The readings in order. -/
def results (loaded : Loaded) : List Ingest.Result :=
  loaded.first :: loaded.second.toList

/-- The index that is shown. -/
def index (loaded : Loaded) : Except MergeError Index :=
  match loaded.second with
  | none => .ok loaded.first.index
  | some second => loaded.first.index.merge second.index

/-- The log of the readings and of their comparison. -/
def log (loaded : Loaded) (index : Index) : List LogEntry :=
  let merged :=
    match loaded.second with
    | none => []
    | some second =>
      [⟨.debug, mergeLogger,
        s!"Merged trace indices: {loaded.first.index.size} + {second.index.size} nodes -> " ++
          s!"{index.size} nodes"⟩]
  loaded.results.flatMap ingestEntries ++ merged

/-- The lines about records that could not be read. -/
def errorLines (loaded : Loaded) : List String :=
  loaded.results.flatMap fun result =>
    result.errors.map fun error => s!"trace {result.label}: {error.message}"

/-- The lines about one reading and its summary, for the output and for the
error output. -/
def summaryLines (result : Ingest.Result) : List String × List String :=
  match result.summary with
  | none => ([], [s!"trace {result.label}: no summary record"])
  | some summary =>
    match result.index.checkSummary summary with
    | [] => ([s!"trace {result.label}: summary matches"], [])
    | mismatches =>
      (mismatches.map fun mismatch =>
        let actual := (mismatch.actual.map Status.name).getD "missing"
        s!"trace {result.label}: {mismatch.path}: summary says {mismatch.expected.name}, " ++
          s!"tree says {actual}", [])

end Loaded

/-- A run that breaks off before it has read its traces. -/
structure Interruption where
  /-- What it has logged. -/
  log : List LogEntry := []
  /-- How it ends. -/
  ending : Ending

/-- The text of the trace at a location. -/
def World.readTrace (world : World) (location : String) : Except Ending String :=
  let location := plainLocation location
  let missing : Except Ending String := .error (.refused s!"Path not found: {location}")
  if location.toList.contains '\x00' then missing
  else
    match world.locate location with
    | .file bytes => .ok (Text.unifyLineEnds (Text.decodeUtf8 bytes))
    | .nameTooLong => .error (.failed (.file (.nameTooLong location)))
    | _ => missing

/-- Read the lines of the trace on a side, after what has been logged. -/
def World.readLines (world : World) (side : Side) (log : List LogEntry) (text : String) :
    Except Interruption Ingest.Result :=
  (Ingest.read world.room text side.label).mapError fun breakdown =>
    ⟨log ++ breakdownEntries breakdown, .failed (.nesting breakdown.overrun)⟩

/-- Why no file can be written at a location, if there is a reason. -/
def World.writeError? (world : World) (location : String) : Option FileError :=
  if location.toList.contains '\x00' then some .nullInLocation
  else
    match world.locate location with
    | .file _ | .free => none
    | .directory => some (.isDirectory location)
    | .missing => some (.missing location)
    | .notADirectory => some (.notADirectory location)
    | .nameTooLong => some (.nameTooLong location)

namespace Options

/-- The locations of the traces. -/
def locations (options : Options) : Except Failure (String × Option String) :=
  match options.compare with
  | .absent => .ok (options.trace, none)
  | .nothing => .error (.noValue .location)
  | .value second => .ok (options.trace, some second)

/-- The texts of the traces. -/
def texts (options : Options) (world : World) : Except Ending (String × Option String) := do
  let (first, second) ← options.locations.mapError .failed
  let first ← world.readTrace first
  let second ← second.mapM world.readTrace
  return (first, second)

/-- Read the traces.  All files are read before the first line is decoded. -/
def load (options : Options) (world : World) : Except Interruption Loaded := do
  let (first, second) ← (options.texts world).mapError fun ending => { ending }
  let first ← world.readLines .first [] first
  let second ← second.mapM (world.readLines .second (ingestEntries first))
  return ⟨first, second⟩

/-! ## What is shown -/

/-- The ids of the expanded nodes: all that have children, the given ones, or
those of the preferences, which stand for the root if there are none. -/
def expandedIds (options : Options) (preferences : Storage) (index : Index) : List String :=
  if options.expandAll then
    (index.nodes.entries.filter fun node => !node.children.isEmpty).map Node.id
  else
    match options.expand with
    | some paths => paths.map fun path => Path.normalize (some path)
    | none =>
      match preferences.loadExpanded with
      | [] => [Path.root]
      | ids => ids

/-- The searched text, which is empty unless one is given. -/
def searchText (options : Options) : String :=
  match options.search with
  | .value text => text
  | _ => ""

/-- What is shown, by the options and otherwise by the preferences. -/
def view (options : Options) (preferences : Storage) (index : Index) : View where
  expanded := options.expandedIds preferences index
  showExcluded := options.showExcluded.getD preferences.loadShowExcluded
  search := options.searchText
  orderBy := options.order.getD preferences.loadOrderBy
  metric := options.costMetric.getD preferences.loadCostMetric

/-- The name of the theme that is given, unless it is empty. -/
def themeName (options : Options) : Option String :=
  options.theme.filter (· ≠ "")

/-- The colours, by the options and otherwise by the preferences.  There are
none unless the output goes to a terminal. -/
def palette (options : Options) (world : World) : Theme :=
  let color := !options.noColor && world.columns.isSome
  Theme.resolve (options.themeName.or world.preferences.loadTheme) !color

/-- The width of a terminal that tells none. -/
def fallbackColumns : Int := 80

/-- The width that lines are cut to: the given one, or that of the terminal. -/
def width (options : Options) (world : World) : Except Failure (Option Int) :=
  match options.maxCols with
  | .absent => .ok (world.columns.map fun told => if 0 < told then told else fallbackColumns)
  | .nothing => .error (.noValue .width)
  | .value width => .ok (some width)

/-- The header and the rows. -/
def lines (options : Options) (world : World) (loaded : Loaded) (index : Index) :
    Except Failure (List String) := do
  let view := options.view world.preferences index
  let theme := options.palette world
  let stats := index.stats
  let style : RowStyle := {
    theme
    compare := index.compare
    stats
    firstStats := if index.compare then loaded.first.index.stats else []
    secondStats :=
      if index.compare then (loaded.second.map (·.index.stats)).getD [] else []
    metric := view.metric.name
    search := options.searchText }
  if options.search = .nothing then throw (.noValue .search)
  let rows ← (view.rows index (some stats)).mapError .view
  let header ← (index.counts.header theme).mapError .integer
  let texts ← (rows.mapM fun (row : Row) => row.text style).mapError .ofRow
  return match ← options.width world with
    | none => header :: texts
    | some width => (header :: texts).map (Terminal.clip · width)

/-- The details of one node. -/
def detailLines (path : String) (index : Index) : Except Ending (List String) :=
  let id := Path.normalize (some path)
  match index.find? id with
  | none => .error (.refused s!"Node not found: {id}")
  | some node =>
    (node.details (index.stats.lookup id) index.compare).mapError fun error =>
      .failed (.integer error)

/-! ## What is left behind -/

/-- The file that the index is written to, if one is asked for. -/
def dump (options : Options) (world : World) (index : Index) :
    Except Failure (Option (String × String)) :=
  match options.dumpIndex with
  | .absent => .ok none
  | .nothing => .error (.noValue .location)
  | .value location => do
    let location := plainLocation location
    let text ← index.toJson.pretty.mapError .integer
    match world.writeError? location with
    | some error => throw (.file error)
    | none => return some (location, text ++ "\n")

/-- The preferences after a run that saves what it showed. -/
def savedPreferences (options : Options) (preferences : Storage) (view : View) : Storage :=
  let saved := (((preferences.saveShowExcluded view.showExcluded).saveOrderBy
    view.orderBy.name).saveCostMetric view.metric.name).saveExpanded view.expanded
  match options.themeName with
  | none => saved
  | some theme => saved.saveTheme theme

/-- Show the tree, and leave behind what is asked for. -/
def showTree (options : Options) (world : World) (loaded : Loaded) (index : Index)
    (log : List String) : Outcome :=
  match options.lines world loaded index with
  | .error failure =>
    { errors := log, preferences := world.preferences, ending := .failed failure }
  | .ok lines =>
    let summaries :=
      if options.checkSummary then loaded.results.map Loaded.summaryLines else []
    let output := lines ++ summaries.flatMap (·.1)
    let errors := log ++ loaded.errorLines ++ summaries.flatMap (·.2)
    match options.dump world index with
    | .error failure =>
      { output, errors, preferences := world.preferences, ending := .failed failure }
    | .ok written =>
      let entries := written.toList.map fun file =>
        (⟨.info, commandLogger, s!"Wrote serialized index to {file.1}"⟩ : LogEntry)
      { output
        errors := errors ++ logLines options.verbose entries
        written := written.toList
        preferences :=
          if options.savePrefs then
            options.savedPreferences world.preferences (options.view world.preferences index)
          else world.preferences }

/-- Run with the given options. -/
def run (options : Options) (world : World) : Outcome :=
  match options.load world with
  | .error interruption =>
    { errors := logLines options.verbose interruption.log
      preferences := world.preferences
      ending := interruption.ending }
  | .ok loaded =>
    match loaded.index with
    | .error error =>
      { errors := logLines options.verbose (loaded.results.flatMap ingestEntries)
        preferences := world.preferences
        ending := .refused error.message }
    | .ok index =>
      let log := logLines options.verbose (loaded.log index)
      match options.details with
      | none => options.showTree world loaded index log
      | some path =>
        match detailLines path index with
        | .error ending => { errors := log, preferences := world.preferences, ending }
        | .ok output => { output, errors := log, preferences := world.preferences }

end Options

/-- Run with the given arguments. -/
def run (world : World) (arguments : List String) : Outcome :=
  match Options.ofArguments arguments with
  | .ok options => options.run world
  | .error .help =>
    { output := helpLines, preferences := world.preferences, ending := .helped }
  | .error (.usage error) =>
    { errors := [s!"{commandName}: error: {error.message}"]
      preferences := world.preferences
      ending := .misused }

end CommandLine

end ScanTree

import ScanTree.CommandLine.Run

/-!
# The command

Reads the files that the arguments name, runs the command line on them, and
carries out what the run leaves behind.
-/

namespace ScanTree

namespace CommandLine

/-- What stands at a location of the file system, as far as reading is
concerned. -/
def locateForReading (location : String) : IO Located := do
  try
    let bytes ← IO.FS.readBinFile location
    return .file bytes.data.toList
  catch _ => return .missing

/-- The location of the preferences. -/
def preferencesLocation : IO (String × String) := do
  let configured ← IO.getEnv "XDG_CONFIG_HOME"
  let home ← IO.getEnv "HOME"
  let base := (configured.filter (· ≠ "")).getD (home.getD "" ++ "/.config")
  let directory := base ++ "/" ++ commandName
  return (directory, directory ++ "/config.json")

/-- The preferences of the user. -/
def loadPreferences (location : String) : IO Storage := do
  match ← locateForReading location with
  | .file bytes => return .stored bytes
  | _ => return .absent

/-- Write the preferences, if that is possible. -/
def savePreferences (directory location : String) : Storage → IO Unit
  | .stored bytes => do
    try
      IO.FS.createDirAll directory
      IO.FS.writeBinFile location ⟨bytes.toArray⟩
    catch _ => return
  | _ => return

/-- The width that the terminal tells, if the output goes to one. -/
def terminalColumns : IO (Option Int) := do
  if ← (← IO.getStdout).isTty then
    let columns ← IO.getEnv "COLUMNS"
    return some ((columns.bind Text.readInteger?).getD 0)
  else return none

/-- The world that a run with the given arguments finds.  Writing is tried when
the run is over. -/
def findWorld (arguments : List String) (preferences : Storage) : IO World := do
  let columns ← terminalColumns
  let locations :=
    match (Options.ofArguments arguments).toOption.bind (·.locations.toOption) with
    | some (first, second) => (first :: second.toList).map plainLocation
    | none => []
  let located ← locations.mapM fun location => do
    return (location, ← locateForReading location)
  return ⟨fun location => (located.lookup location).getD .free, preferences, columns,
    Json.nestingLimit⟩

/-- Carry out a run. -/
def execute (arguments : List String) : IO UInt32 := do
  let (directory, location) ← preferencesLocation
  let preferences ← loadPreferences location
  let outcome := run (← findWorld arguments preferences) arguments
  IO.print (linesText outcome.output)
  IO.eprint (linesText outcome.errors)
  for file in outcome.written do
    IO.FS.writeFile file.1 file.2
  if outcome.preferences ≠ preferences then
    savePreferences directory location outcome.preferences
  match outcome.ending with
  | .completed | .helped => return 0
  | .misused => return 2
  | .refused message => do
    IO.eprintln message
    return 1
  | .failed failure => do
    IO.eprintln failure.message
    return 1

end CommandLine

end ScanTree

/-- The command. -/
def main (arguments : List String) : IO UInt32 :=
  ScanTree.CommandLine.execute arguments

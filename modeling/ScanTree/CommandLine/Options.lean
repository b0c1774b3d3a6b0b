import ScanTree.Text.DecimalDigit
import ScanTree.Text.Integer
import ScanTree.Text.Quoted
import ScanTree.View.Ordering

/-!
# Options of the command line

Arguments are first told apart: options, the separator `--`, and plain values.
A long option may be cut short as long as it stays unique, and may be given its
value after an equals sign.  Then the arguments are taken from left to right.
The first plain value is the trace; what nobody takes is refused at the end.

The separator is dropped wherever a value is taken, also after an equals sign,
so that an option can be given with no value at all.
-/

namespace ScanTree

namespace CommandLine

/-- An option of the command line. -/
inductive Switch where
  /-- Show a help text. -/
  | help
  /-- Compare with a second trace. -/
  | compare
  /-- Search for a text. -/
  | search
  /-- Show excluded nodes. -/
  | showExcluded
  /-- Hide excluded nodes. -/
  | hideExcluded
  /-- Choose the ordering of children. -/
  | order
  /-- Choose what costs count. -/
  | costMetric
  /-- Expand a node. -/
  | expand
  /-- Expand all nodes. -/
  | expandAll
  /-- Choose a theme. -/
  | theme
  /-- Use no colours. -/
  | noColor
  /-- Cut lines to a width. -/
  | maxCols
  /-- Write the index to a file. -/
  | dumpIndex
  /-- Check the tree against the summary. -/
  | checkSummary
  /-- Show the details of one node. -/
  | details
  /-- Save the preferences. -/
  | savePrefs
  /-- Log more. -/
  | verbose
deriving DecidableEq, Repr

namespace Switch

/-- All options. -/
def all : List Switch :=
  [help, compare, search, showExcluded, hideExcluded, order, costMetric, expand, expandAll,
    theme, noColor, maxCols, dumpIndex, checkSummary, details, savePrefs, verbose]

/-- The ways to write an option. -/
def spellings : Switch → List String
  | help => ["-h", "--help"]
  | compare => ["--compare"]
  | search => ["--search"]
  | showExcluded => ["--show-excluded"]
  | hideExcluded => ["--hide-excluded"]
  | order => ["--order"]
  | costMetric => ["--cost-metric"]
  | expand => ["--expand"]
  | expandAll => ["--expand-all"]
  | theme => ["--theme"]
  | noColor => ["--no-color"]
  | maxCols => ["--max-cols"]
  | dumpIndex => ["--dump-index"]
  | checkSummary => ["--check-summary"]
  | details => ["--details"]
  | savePrefs => ["--save-prefs"]
  | verbose => ["-v", "--verbose"]

/-- The option in messages. -/
def title (switch : Switch) : String :=
  "/".intercalate switch.spellings

/-- Whether an option takes a value. -/
def takesValue : Switch → Bool
  | compare | search | order | costMetric | expand | theme | maxCols | dumpIndex | details =>
    true
  | _ => false

/-- All spellings with their options. -/
def table : List (String × Switch) :=
  all.flatMap fun switch => switch.spellings.map fun spelling => (spelling, switch)

/-- The option of an exact spelling. -/
def ofSpelling? (spelling : String) : Option Switch :=
  table.lookup spelling

end Switch

/-- What is wrong with one argument. -/
inductive ArgumentFault where
  /-- The value is missing. -/
  | expectedOne
  /-- A value is given to an option that takes none. -/
  | ignoredExplicit (text : String)
  /-- Another option was given that excludes this one. -/
  | notAllowedWith (other : String)
  /-- The value is none of the choices. -/
  | invalidChoice (text : String) (choices : List String)
  /-- The value is not an integer. -/
  | invalidInteger (text : String)
  /-- The value is not positive. -/
  | notPositive
deriving DecidableEq, Repr

/-- The wording of a fault. -/
def ArgumentFault.message : ArgumentFault → String
  | expectedOne => "expected one argument"
  | ignoredExplicit text => s!"ignored explicit argument {Text.quoted text}"
  | notAllowedWith other => s!"not allowed with argument {other}"
  | invalidChoice text choices =>
    let listed := ", ".intercalate (choices.map Text.quoted)
    s!"invalid choice: {Text.quoted text} (choose from {listed})"
  | invalidInteger text => s!"invalid integer value: {Text.quoted text}"
  | notPositive => "value must be >= 1"

/-- Why the arguments are refused. -/
inductive UsageError where
  /-- A shortened option could be one of several. -/
  | ambiguous (text : String) (candidates : List String)
  /-- Something is wrong with one argument. -/
  | argument (switch : Switch) (fault : ArgumentFault)
  /-- There is no trace. -/
  | traceRequired
  /-- Nobody takes these arguments. -/
  | unrecognized (arguments : List String)
deriving DecidableEq, Repr

/-- The wording of a refusal. -/
def UsageError.message : UsageError → String
  | ambiguous text candidates =>
    let listed := ", ".intercalate candidates
    s!"ambiguous option: {text} could match {listed}"
  | argument switch fault => s!"argument {switch.title}: {fault.message}"
  | traceRequired => "the following arguments are required: trace"
  | unrecognized arguments => "unrecognized arguments: " ++ " ".intercalate arguments

/-! ## Telling arguments apart -/

/-- What an argument is. -/
inductive Token where
  /-- A plain value. -/
  | value (text : String)
  /-- The separator before plain values. -/
  | separator
  /-- An option in the given spelling, with the value that is attached to it:
  what follows an equals sign, or the letters after a one-letter option. -/
  | option (switch : Switch) (spelling : String) (attached : Option String)
  /-- An option that does not exist. -/
  | unknown (text : String)
deriving DecidableEq, Repr

/-- The parts of a text before and after the first equals sign. -/
def splitAtEquals (text : List Char) : List Char × Option (List Char) :=
  match text.dropWhile (· ≠ '=') with
  | _ :: after => (text.takeWhile (· ≠ '='), some after)
  | [] => (text, none)

/-- Whether a text is a minus sign with an integer or a decimal fraction, and
perhaps a line feed at the end. -/
def isNegativeNumber (text : List Char) : Bool :=
  let digit := fun c => (Text.decimalDigit? c).isSome
  match text with
  | '-' :: number =>
    let number := if number.getLast? = some '\n' then number.dropLast else number
    let fraction := number.dropWhile digit
    (!number.isEmpty && fraction.isEmpty)
      || (match fraction with
        | '.' :: digits => !digits.isEmpty && digits.all digit
        | _ => false)
  | _ => false

/-- The options that a text may be short for, with the value attached. -/
def candidates (text : List Char) : List (Switch × String × Option String) :=
  match text with
  | '-' :: '-' :: _ =>
    let (start, value) := splitAtEquals text
    (Switch.table.filter fun listed => start.isPrefixOf listed.1.toList).map fun listed =>
      (listed.2, listed.1, value.map String.ofList)
  | '-' :: letter :: value =>
    (Switch.table.filter fun listed => listed.1.toList = ['-', letter]).map fun listed =>
      (listed.2, listed.1, some (String.ofList value))
  | _ => []

/-- Tell what an argument before the separator is. -/
def Token.ofArgument (text : String) : Except UsageError Token :=
  match text.toList with
  | '-' :: rest =>
    match Switch.ofSpelling? text with
    | some switch => .ok (option switch text none)
    | none =>
      let (start, after) := splitAtEquals text.toList
      let spelling := String.ofList start
      match rest, after, Switch.ofSpelling? spelling with
      | [], _, _ => .ok (value text)
      | _, some after, some switch => .ok (option switch spelling (some (String.ofList after)))
      | _, _, _ =>
        match candidates text.toList with
        | [(switch, spelling, attached)] => .ok (option switch spelling attached)
        | [] =>
          if isNegativeNumber text.toList || text.toList.contains ' ' then .ok (value text)
          else .ok (unknown text)
        | several => .error (.ambiguous text (several.map fun candidate => candidate.2.1))
  | _ => .ok (value text)

/-- Tell what the arguments are.  After the separator all are plain values. -/
def Token.ofArguments : List String → Except UsageError (List Token)
  | [] => .ok []
  | argument :: rest =>
    if argument = "--" then .ok (separator :: rest.map value)
    else do
      let token ← ofArgument argument
      let tokens ← ofArguments rest
      return token :: tokens

/-! ## Taking arguments -/

/-- What an option that takes a value was given. -/
inductive Given (α : Type) where
  /-- The option was not given. -/
  | absent
  /-- The option was given with the separator, which is dropped, for a value. -/
  | nothing
  /-- The option was given a value. -/
  | value (value : α)
deriving DecidableEq, Repr

/-- What an option was given that was given a text or nothing. -/
def Given.ofText? : Option String → Given String
  | none => nothing
  | some text => value text

/-- What the arguments ask for. -/
structure Options where
  /-- The location of the trace. -/
  trace : String := ""
  /-- The location of the trace to compare with. -/
  compare : Given String := .absent
  /-- The searched text. -/
  search : Given String := .absent
  /-- Whether excluded nodes are shown. -/
  showExcluded : Option Bool := none
  /-- How children are ordered. -/
  order : Option OrderBy := none
  /-- What costs count. -/
  costMetric : Option CostMetric := none
  /-- The expanded paths in the given order. -/
  expand : Option (List String) := none
  /-- Whether all nodes are expanded. -/
  expandAll : Bool := false
  /-- The name of the theme. -/
  theme : Option String := none
  /-- Whether no colours are used. -/
  noColor : Bool := false
  /-- The width that lines are cut to. -/
  maxCols : Given Int := .absent
  /-- The location that the index is written to. -/
  dumpIndex : Given String := .absent
  /-- Whether the tree is checked against the summary. -/
  checkSummary : Bool := false
  /-- The path whose details are shown. -/
  details : Option String := none
  /-- Whether the preferences are saved. -/
  savePrefs : Bool := false
  /-- Whether more is logged. -/
  verbose : Bool := false
deriving DecidableEq, Repr

/-- Why the taking of arguments ends early. -/
inductive Stop where
  /-- The help text is asked for. -/
  | help
  /-- The arguments are refused. -/
  | usage (error : UsageError)
deriving DecidableEq, Repr

/-- Refuse one argument. -/
def refuse {α : Type} (switch : Switch) (fault : ArgumentFault) : Except Stop α :=
  .error (.usage (.argument switch fault))

/-- The options after an option.  It has no value if it takes none, or if the
separator was given for one.  A path that is nothing stands for the root, and a
choice that is nothing for none. -/
def Options.set (options : Options) (switch : Switch) (value : Option String) :
    Except Stop Options :=
  match switch with
  | .help => .error .help
  | .compare => .ok { options with compare := .ofText? value }
  | .search => .ok { options with search := .ofText? value }
  | .showExcluded =>
    if options.showExcluded = some false then
      refuse .showExcluded (.notAllowedWith Switch.hideExcluded.title)
    else .ok { options with showExcluded := some true }
  | .hideExcluded =>
    if options.showExcluded = some true then
      refuse .hideExcluded (.notAllowedWith Switch.showExcluded.title)
    else .ok { options with showExcluded := some false }
  | .order =>
    match value with
    | none => .ok { options with order := none }
    | some name =>
      match OrderBy.ofName name with
      | .ok order => .ok { options with order := some order }
      | .error _ => refuse .order (.invalidChoice name (OrderBy.all.map OrderBy.name))
  | .costMetric =>
    match value with
    | none => .ok { options with costMetric := none }
    | some name =>
      match CostMetric.ofName name with
      | .ok metric => .ok { options with costMetric := some metric }
      | .error _ => refuse .costMetric (.invalidChoice name (CostMetric.all.map CostMetric.name))
  | .expand => .ok { options with expand := some (options.expand.getD [] ++ [value.getD ""]) }
  | .expandAll => .ok { options with expandAll := true }
  | .theme => .ok { options with theme := value }
  | .noColor => .ok { options with noColor := true }
  | .maxCols =>
    match value with
    | none => .ok { options with maxCols := .nothing }
    | some text =>
      match Text.readInteger? text with
      | none => refuse .maxCols (.invalidInteger text)
      | some width =>
        if width ≤ 0 then refuse .maxCols .notPositive
        else .ok { options with maxCols := .value width }
  | .dumpIndex => .ok { options with dumpIndex := .ofText? value }
  | .checkSummary => .ok { options with checkSummary := true }
  | .details => .ok { options with details := some (value.getD "") }
  | .savePrefs => .ok { options with savePrefs := true }
  | .verbose => .ok { options with verbose := true }

/-- What has been taken so far. -/
structure Taken where
  /-- The options. -/
  options : Options := {}
  /-- Whether the trace is among them. -/
  hasTrace : Bool := false
  /-- The arguments that nobody took. -/
  extras : List String := []

/-- The one-letter options that are written together after one minus sign:
`switch` and those of the letters after it. -/
def cluster (switch : Switch) : List Char → Except Stop (List Switch)
  | [] => refuse switch (.ignoredExplicit "")
  | letter :: rest =>
    match Switch.ofSpelling? (String.ofList ['-', letter]) with
    | none => refuse switch (.ignoredExplicit (String.ofList (letter :: rest)))
    | some next =>
      if rest.isEmpty then .ok [switch, next]
      else (cluster next rest).map (switch :: ·)

/-- Take an option that takes no value but is given one: the letters after a
one-letter option are options too. -/
def Options.setAttached (options : Options) (switch : Switch) (spelling attached : String) :
    Except Stop Options :=
  match spelling.toList with
  | ['-', _] => do
    (← cluster switch attached.toList).foldlM (fun options switch => options.set switch none)
      options
  | _ => refuse switch (.ignoredExplicit attached)

/-- The value that a text attached to an option is, which is none for the
separator. -/
def attachedValue (attached : String) : Option String :=
  if attached = "--" then none else some attached

/-- Take arguments from left to right. -/
def Taken.takeAll (taken : Taken) : List Token → Except Stop Taken
  | [] => .ok taken
  | .value text :: rest =>
    if taken.hasTrace then { taken with extras := taken.extras ++ [text] }.takeAll rest
    else
      let taken := { taken with options := { taken.options with trace := text }, hasTrace := true }
      match rest with
      | .separator :: rest => taken.takeAll rest
      | rest => taken.takeAll rest
  | .separator :: rest =>
    match taken.hasTrace, rest with
    | false, .value text :: rest =>
      { taken with options := { taken.options with trace := text }, hasTrace := true }.takeAll rest
    | _, rest => { taken with extras := taken.extras ++ ["--"] }.takeAll rest
  | .unknown text :: rest => { taken with extras := taken.extras ++ [text] }.takeAll rest
  | .option switch spelling attached :: rest =>
    match attached, switch.takesValue with
    | none, false => do
      let options ← taken.options.set switch none
      { taken with options }.takeAll rest
    | some attached, true => do
      let options ← taken.options.set switch (attachedValue attached)
      { taken with options }.takeAll rest
    | some attached, false => do
      let options ← taken.options.setAttached switch spelling attached
      { taken with options }.takeAll rest
    | none, true =>
      match rest with
      | .value text :: rest => do
        let options ← taken.options.set switch (some text)
        { taken with options }.takeAll rest
      | _ => refuse switch .expectedOne

/-- What the arguments ask for. -/
def Options.ofArguments (arguments : List String) : Except Stop Options := do
  let tokens ← (Token.ofArguments arguments).mapError .usage
  let taken ← Taken.takeAll {} tokens
  if taken.hasTrace then
    if taken.extras = [] then return taken.options
    else throw (.usage (.unrecognized taken.extras))
  else throw (.usage .traceRequired)

end CommandLine

end ScanTree

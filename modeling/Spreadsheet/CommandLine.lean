import Spreadsheet.Settings.Document
import Spreadsheet.Value.Display
import Spreadsheet.Workbook.Load
import Spreadsheet.Workbook.Query

/-!
# `CommandLine.lean` — the program as a function

The program loads a configuration and a sheet file, if it is given one, and prints one of three
things: the value of a formula, the value of a cell, or all cells of the file. What it prints and
how it ends follow from its arguments and from the files they name.

It ends with code 1 when it fails, and also when the one value it was asked for is an error.
-/

set_option autoImplicit false

namespace Spreadsheet.CommandLine

/-! ## Arguments -/

/-- What the program is asked to do. -/
structure Options where
  /-- The sheet file. -/
  file : Option String
  /-- A formula to evaluate. -/
  command : Option String
  /-- A cell to print. -/
  cell : Option String
  /-- The configuration, if it is not the default one. -/
  settings : Option String
  /-- Details of recalculation were asked for. -/
  verbose : Bool
  deriving DecidableEq, Repr

def Options.none : Options := ⟨.none, .none, .none, .none, false⟩

/-- What is wrong with arguments. -/
inductive UsageError where
  /-- An option stands last that needs something behind it. -/
  | incomplete (option requirement : String)
  | unknownOption (option : String)
  /-- There is a second file. -/
  | unexpected (argument : String)
  deriving DecidableEq, Repr

def UsageError.message : UsageError → String
  | .incomplete option requirement => s!"{option} requires {requirement}"
  | .unknownOption option => s!"Unknown option: {option}"
  | .unexpected argument => s!"Unexpected argument: {argument}"

/-- A use of the program. -/
inductive Request where
  | help
  | run (options : Options)
  deriving DecidableEq, Repr

/-- Reads arguments on. Of an option that is repeated the last one counts; a call for help ends
reading. -/
def readArguments (options : Options) : List String → Except UsageError Request
  | [] => .ok (.run options)
  | "-h" :: _ | "--help" :: _ => .ok .help
  | "-v" :: rest | "--verbose" :: rest => readArguments { options with verbose := true } rest
  | "-c" :: formula :: rest | "--command" :: formula :: rest =>
    readArguments { options with command := some formula } rest
  | ["-c"] | ["--command"] => .error (.incomplete "--command" "a formula")
  | "--cell" :: address :: rest => readArguments { options with cell := some address } rest
  | ["--cell"] => .error (.incomplete "--cell" "a cell address")
  | "--config" :: path :: rest => readArguments { options with settings := some path } rest
  | ["--config"] => .error (.incomplete "--config" "a file path")
  | arg :: rest =>
    if arg.toList.head? = some '-' then .error (.unknownOption arg)
    else if options.file.isSome then .error (.unexpected arg)
    else readArguments { options with file := some arg } rest

/-- Reads all arguments. -/
def Request.ofArguments (args : List String) : Except UsageError Request :=
  readArguments Options.none args

/-- How the program is used, line by line. -/
def usageLines : List String :=
  ["Usage: tabula [OPTIONS] [FILE]",
    "",
    "Arguments:",
    "  [FILE]                    Sheet file to load and recalculate",
    "",
    "Options:",
    "  -c, --command <FORMULA>   Evaluate a formula and print the result",
    "  --cell <ADDR>             Print only this cell of FILE",
    "  --config <FILE>           Engine config (default: config.toml in the config dir)",
    "  -v, --verbose             Log recalculation details",
    "  -h, --help                Print help"]

/-- How the program is used. -/
def usage : String := String.join (usageLines.map (· ++ "\n"))

/-! ## Running -/

/-- What a run of the program comes to. -/
structure Outcome where
  code : UInt32
  stdout : String
  stderr : String
  deriving DecidableEq, Repr

/-- What a run finds around it. -/
structure Surroundings where
  /-- What is at a path. -/
  content : String → TextFile.Content
  /-- Where the default configuration is looked for. -/
  defaultSettings : Option String
  now : Moment
  seed : Nat
  /-- How many steps a recalculation may take. -/
  steps : Nat

/-- What a run prints, and whether the value that it prints is an error. -/
structure Report where
  text : String
  showsError : Bool
  deriving DecidableEq, Repr

/-- Messages on what went wrong, each explained by the next. -/
abbrev Complaint := List String

/-- Loads the configuration at a path. -/
def loadSettings (s : Surroundings) (path : String) : Except Complaint Settings :=
  (Settings.load path (s.content path)).mapError fun e => s!"loading config {path}" :: e.chain

/-- The configuration of a run. The default one may be missing. -/
def settings (s : Surroundings) (options : Options) : Except Complaint Settings :=
  match options.settings with
  | some path => loadSettings s path
  | none =>
    match s.defaultSettings with
    | none => .ok Settings.default
    | some path =>
      match s.content path with
      | .error obstacle => if obstacle.isAbsence then .ok Settings.default else loadSettings s path
      | .ok _ => loadSettings s path

/-- The workbook of a run, with the cells of its file. -/
def workbook (s : Surroundings) (options : Options) (settings : Settings) :
    Except Complaint Workbook :=
  let empty := Workbook.create settings s.now s.seed
  match options.file with
  | none => .ok empty
  | some path =>
    match empty.loadFile s.steps path (s.content path) with
    | (.ok _, w) => .ok w
    | (.error e, _) => .error (s!"loading {path}" :: e.chain)

/-- The report on a single value. -/
def reportValue (answer : Except Failure (Value × Workbook)) : Except Complaint Report :=
  match answer with
  | .ok (value, _) => .ok ⟨value.display ++ "\n", value.isError⟩
  | .error e => .error e.chain

/-- One line of a listing. -/
def listingLine (w : Workbook) (entry : CellId × Value) : String :=
  s!"{(w.addressOf entry.1).text}: {entry.2.display}\n"

/-- The report on all cells. -/
def reportAll (answer : Except Failure (List (CellId × Value) × Workbook)) :
    Except Complaint Report :=
  match answer with
  | .ok (entries, w) => .ok ⟨String.join (entries.map (listingLine w)), false⟩
  | .error e => .error e.chain

/-- What the program reports. A formula goes before a cell, and a cell before the listing. -/
def report (s : Surroundings) (options : Options) : Except Complaint Report := do
  let settings ← settings s options
  let w ← workbook s options settings
  match options.command, options.cell, options.file with
  | some formula, _, _ => reportValue (w.preview s.steps (Text.trimmed formula) none)
  | none, some address, _ => reportValue (w.value s.steps address)
  | none, none, some _ => reportAll (w.listing s.steps)
  | none, none, none => .error ["Nothing to do: give a FILE or --command"]

/-- The line that tells what went wrong. -/
def errorLine (complaint : Complaint) : String := "Error: " ++ ": ".intercalate complaint ++ "\n"

/-- What the program does with arguments. -/
def run (s : Surroundings) (args : List String) : Outcome :=
  match Request.ofArguments args with
  | .error e => ⟨1, "", errorLine [e.message] ++ usage⟩
  | .ok .help => ⟨0, "", usage⟩
  | .ok (.run options) =>
    match report s options with
    | .ok r => ⟨if r.showsError then 1 else 0, r.text, ""⟩
    | .error complaint => ⟨1, "", errorLine complaint⟩

/-- The paths that a run may look at. -/
def paths (defaultSettings : Option String) (args : List String) : List String :=
  match Request.ofArguments args with
  | .ok (.run options) => (options.settings <|> defaultSettings).toList ++ options.file.toList
  | _ => []

end Spreadsheet.CommandLine

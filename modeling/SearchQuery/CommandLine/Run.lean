import SearchQuery.CommandLine.Report

/-!
Running a command line. What it reads is asked for through any monad, so that a run is a pure
function of its answers.
-/

namespace SearchQuery.CommandLine

/-- Where a command line reads from. -/
structure World (m : Type → Type) where
  readFile : String → m (Except ReadFault String)
  readInput : m (Except ReadFault String)

/-- Lines for the standard output and for the standard error. -/
structure Transcript where
  out : List String := []
  err : List String := []
deriving DecidableEq, Repr

instance : Append Transcript where
  append first second := ⟨first.out ++ second.out, first.err ++ second.err⟩

/-- What a command line leaves: what it wrote and its exit code. -/
structure Outcome where
  transcript : Transcript
  exit : UInt32
deriving DecidableEq, Repr

/-- Why a command fails. -/
inductive Failure where
  | config (path : String) (error : QueryError)
  | file (path : String) (fault : ReadFault)
  | input (fault : ReadFault)
  | query (error : QueryError)
  | rendering (leaf : Rendering.UnresolvedLeaf)
deriving DecidableEq, Repr

def Failure.message : Failure → String
  | .config path error => "Failed to load config " ++ path ++ ": " ++ error.message
  | .file path fault => "Failed to read " ++ path ++ ": " ++ fault.message
  | .input fault => "Failed to read model from stdin: " ++ fault.message
  | .query error => error.message
  | .rendering leaf => leaf.message

namespace GlobalOptions

def shownFormat (options : GlobalOptions) : OutputFormat :=
  options.format.getD .table

/-- A remark that only verbose runs make. -/
def remark (options : GlobalOptions) (text : String) : Transcript :=
  if options.verbose && !options.quiet then { err := ["→ " ++ text] } else {}

def warning (options : GlobalOptions) (text : String) : Transcript :=
  if options.quiet then {} else { err := ["⚠ " ++ text] }

def success (options : GlobalOptions) (text : String) : Transcript :=
  if !options.quiet && options.shownFormat == .table then { out := ["✓ " ++ text] } else {}

def display (options : GlobalOptions) (report : Report) : Transcript :=
  if options.quiet then {} else { out := report.lines options.shownFormat options.plain }

/-- The settings with the backend that the options ask for. -/
def adjust (options : GlobalOptions) (settings : Settings) : Settings :=
  match options.backend with
  | some backend => { settings with general.backend := backend }
  | none => settings

end GlobalOptions

/-- What was written, and the failure that ended it if there was one. -/
abbrev Attempted := Transcript × Option Failure

/-- The settings file that is read where none is named. -/
def defaultConfig : String :=
  "quarry.toml"

/-- The settings of a run and the file that they come from. A file that is named has to be there. -/
def loadSettings {m : Type → Type} [Monad m] (world : World m) (options : GlobalOptions) :
    m (Except Failure (Settings × Option String)) := do
  let named : String → Except ReadFault String → Except Failure (Settings × Option String) :=
    fun path content =>
      match Settings.ofFile path content with
      | .ok settings => .ok (settings, some path)
      | .error error => .error (.config path error)
  match options.config with
  | some path => return named path (← world.readFile path)
  | none =>
    match ← world.readFile defaultConfig with
    | .ok content => return named defaultConfig (.ok content)
    | .error _ => return .ok ({}, none)

def showSearch (options : GlobalOptions) (settings : Settings) (search : Search) : Attempted :=
  match Report.ofSearch settings search with
  | .ok report => (options.display report, none)
  | .error leaf => ({}, some (.rendering leaf))

/-- Renders the search that a text holds. -/
def runRender (options : GlobalOptions) (settings : Settings)
    (content : Except Failure String) : Attempted :=
  match content with
  | .error failure => ({}, some failure)
  | .ok text =>
    match Search.ofText text with
    | .error error => ({}, some (.query error))
    | .ok search =>
      let remark := options.remark ("Rendering model for " ++ settings.general.backend.name)
      let (shown, failure) := showSearch options settings search
      (remark ++ shown, failure)

/-- The schema that a text holds; without a text one that knows no fields. -/
def schemaOf (options : GlobalOptions) :
    Option (Except Failure String) → Transcript × Except Failure Schema
  | none =>
    (options.warning "No --schema given; the request cannot reference any field", .ok {})
  | some (.error failure) => ({}, .error failure)
  | some (.ok text) => ({}, (Schema.ofText text).mapError .query)

/-- Builds the search that a request describes, and renders it or shows it as it is. -/
def runRequest (options : GlobalOptions) (settings : Settings) (asked : RequestOptions)
    (content : Option (Except Failure String)) : Attempted :=
  let (warned, schema) := schemaOf options content
  match schema with
  | .error failure => (warned, some failure)
  | .ok schema =>
    match (asked.request.apply schema (.root settings.general.caseSensitive)).result with
    | .error error => (warned, some (.query error))
    | .ok draft =>
      let search := draft.build
      if asked.modelOnly then (warned ++ { out := [search.toText] }, none)
      else
        let (shown, failure) := showSearch options settings search
        let done :=
          if failure.isSome then {}
          else options.success ("Rendered for " ++ settings.general.backend.name)
        (warned ++ shown ++ done, failure)

/-- Reads a file that a command names. -/
def readNamed {m : Type → Type} [Monad m] (world : World m) (path : String) :
    m (Except Failure String) := do
  return (← world.readFile path).mapError (.file path)

/-- Runs a command with its settings. -/
def runCommand {m : Type → Type} [Monad m] (world : World m) (options : GlobalOptions)
    (settings : Settings) : Command → m Attempted
  | .render "-" => do
    return runRender options settings ((← world.readInput).mapError .input)
  | .render path => do
    return runRender options settings (← readNamed world path)
  | .request asked =>
    match asked.schema with
    | some path => do
      return runRequest options settings asked (some (← readNamed world path))
    | none => return runRequest options settings asked none

def runInvocation {m : Type → Type} [Monad m] (world : World m) (invocation : Invocation) :
    m Attempted := do
  let options := invocation.options
  match ← loadSettings world options with
  | .error failure => return ({}, some failure)
  | .ok (settings, source) =>
    let remark := options.remark <|
      match source with
      | some path => "Using config " ++ path
      | none => "No config file found; using defaults"
    let (written, failure) ← runCommand world options (options.adjust settings) invocation.command
    return (remark ++ written, failure)

def versionText : String :=
  "quarry 0.1.0"

def usageText : String :=
  "Usage: quarry [OPTIONS] <COMMAND>"

/-- Runs a command line. It ends with 0, with 1 if the command fails, and with 2 if the words are
rejected. -/
def run {m : Type → Type} [Monad m] (world : World m) (words : List String)
    (config : Option String) : m Outcome :=
  match Invocation.ofWords words config with
  | .error .version => return ⟨{ out := [versionText] }, 0⟩
  | .error .help => return ⟨{ out := [usageText] }, 0⟩
  | .error (.fault fault) => return ⟨{ err := ["error: " ++ fault.message, "", usageText] }, 2⟩
  | .ok invocation => do
    let (written, failure) ← runInvocation world invocation
    match failure with
    | none => return ⟨written, 0⟩
    | some failure => return ⟨written ++ { err := ["✗ " ++ failure.message] }, 1⟩

end SearchQuery.CommandLine

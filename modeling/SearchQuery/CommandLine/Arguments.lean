import SearchQuery.Request.Basic
import SearchQuery.Settings.Document

/-!
What the words of a command line ask for. Options are read from left to right, and the first word
that cannot be followed, or that asks for help or the version, decides.
-/

namespace SearchQuery.CommandLine

inductive OutputFormat where
  | table
  | json
  | compact
deriving DecidableEq, Repr

namespace OutputFormat

def all : List OutputFormat :=
  [.table, .json, .compact]

def name : OutputFormat → String
  | .table => "table"
  | .json => "json"
  | .compact => "compact"

def ofName? (name : String) : Option OutputFormat :=
  all.find? fun format => format.name = name

end OutputFormat

/-- Options before the command. -/
structure GlobalOptions where
  format : Option OutputFormat := none
  quiet : Bool := false
  verbose : Bool := false
  plain : Bool := false
  config : Option String := none
  backend : Option Backend := none
deriving DecidableEq, Repr

structure RenderOptions where
  input : Option String := none
deriving DecidableEq, Repr

structure RequestOptions where
  request : Request := {}
  schema : Option String := none
  modelOnly : Bool := false
deriving DecidableEq, Repr

inductive Command where
  /-- Renders the search in a file, or in the standard input for `-`. -/
  | render (input : String)
  | request (options : RequestOptions)
deriving DecidableEq, Repr

/-- A whole command line. -/
structure Invocation where
  options : GlobalOptions
  command : Command
deriving DecidableEq, Repr

/-- Why a command line is rejected. -/
inductive ArgumentFault where
  | unexpected (word : String)
  | missingValue (option : String)
  | extraValue (option : String)
  | repeated (option : String)
  | invalidValue (option value : String)
  | missingOption (option : String)
  | missingCommand
deriving DecidableEq, Repr

def ArgumentFault.message : ArgumentFault → String
  | .unexpected word => "unexpected argument '" ++ word ++ "' found"
  | .missingValue option => "a value is required for '--" ++ option ++ "' but none was supplied"
  | .extraValue option => "unexpected value for '--" ++ option ++ "'"
  | .repeated option => "the argument '--" ++ option ++ "' cannot be used multiple times"
  | .invalidValue option value => "invalid value '" ++ value ++ "' for '--" ++ option ++ "'"
  | .missingOption option => "the required argument '--" ++ option ++ "' was not provided"
  | .missingCommand => "a command is required"

/-- What ends the reading of a command line early. -/
inductive Halt where
  | help
  | version
  | fault (fault : ArgumentFault)
deriving DecidableEq, Repr

/-- What an option does to what is read so far. -/
inductive Effect (σ : Type) where
  | flag (apply : σ → Except Halt σ)
  | value (apply : String → σ → Except Halt σ)

/-- An option with its long name, and with a letter if it has a short form. -/
structure OptionRule (σ : Type) where
  name : String
  letter : Option Char := none
  effect : Effect σ

/-- A flag that can be given once. -/
def onceFlag {σ : Type} (name : String) (given : σ → Bool) (set : σ → σ) : Effect σ :=
  .flag fun state => if given state then .error (.fault (.repeated name)) else .ok (set state)

/-- A value that can be given once and is read by `read?`. -/
def onceValue {σ α : Type} (name : String) (read? : String → Option α) (given : σ → Option α)
    (set : α → σ → σ) : Effect σ :=
  .value fun text state =>
    match read? text, given state with
    | none, _ => .error (.fault (.invalidValue name text))
    | some _, some _ => .error (.fault (.repeated name))
    | some value, none => .ok (set value state)

/-- Paths are not empty. -/
def path? (text : String) : Option String :=
  if text = "" then none else some text

def backend? (text : String) : Option Backend :=
  (Backend.ofText text).toOption

/-- The name of a direction in any letter case. -/
def direction? (text : String) : Option Direction :=
  Direction.ofName? (Text.asciiLowercase text)

def helpRule {σ : Type} : OptionRule σ :=
  ⟨"help", some 'h', .flag fun _ => .error .help⟩

def globalRules : List (OptionRule GlobalOptions) := [
  ⟨"output", none, onceValue "output" OutputFormat.ofName? (·.format)
    fun value options => { options with format := some value }⟩,
  ⟨"quiet", some 'q', onceFlag "quiet" (·.quiet) fun options => { options with quiet := true }⟩,
  ⟨"verbose", some 'v', onceFlag "verbose" (·.verbose)
    fun options => { options with verbose := true }⟩,
  ⟨"no-color", none, onceFlag "no-color" (·.plain) fun options => { options with plain := true }⟩,
  ⟨"config", none, onceValue "config" path? (·.config)
    fun value options => { options with config := some value }⟩,
  ⟨"backend", none, onceValue "backend" backend? (·.backend)
    fun value options => { options with backend := some value }⟩,
  helpRule,
  ⟨"version", some 'V', .flag fun _ => .error .version⟩]

def renderRules : List (OptionRule RenderOptions) := [
  ⟨"input", some 'i', onceValue "input" path? (·.input)
    fun value options => { options with input := some value }⟩,
  helpRule]

def requestRules : List (OptionRule RequestOptions) := [
  ⟨"q", none, onceValue "q" some (·.request.text)
    fun value options => { options with request.text := some value }⟩,
  ⟨"filter", some 'f', .value fun value options =>
    .ok { options with request.filters := options.request.filters ++ [value] }⟩,
  ⟨"sort-by", none, onceValue "sort-by" some (·.request.sortBy)
    fun value options => { options with request.sortBy := some value }⟩,
  ⟨"sort-order", none, onceValue "sort-order" direction? (·.request.direction)
    fun value options => { options with request.direction := some value }⟩,
  ⟨"schema", some 's', onceValue "schema" path? (·.schema)
    fun value options => { options with schema := some value }⟩,
  ⟨"model-only", none, onceFlag "model-only" (·.modelOnly)
    fun options => { options with modelOnly := true }⟩,
  helpRule]

/-- A word that starts with a hyphen is an option, but the hyphen alone is not. -/
def isOption (word : String) : Bool :=
  word.startsWith "-" && word ≠ "-"

/-- A long option, and the value after an equals sign if there is one. -/
def cutEquals (text : List Char) : String × Option String :=
  match text.span (· != '=') with
  | (name, '=' :: value) => (String.ofList name, some (String.ofList value))
  | (name, _) => (String.ofList name, none)

/-- What the letters of a short option lead to: all are flags, or the last one has a value, which
may follow directly. -/
inductive Letters (σ : Type) where
  | flags (state : σ)
  | value (name : String) (attached : Option String) (apply : String → σ → Except Halt σ)
    (state : σ)

/-- Follows the letters of a short option. -/
def readLetters {σ : Type} (rules : List (OptionRule σ)) (state : σ) :
    List Char → Except Halt (Letters σ)
  | [] => .ok (.flags state)
  | c :: rest =>
    match rules.find? fun rule => rule.letter = some c with
    | none => .error (.fault (.unexpected (String.ofList ['-', c])))
    | some rule =>
      match rule.effect with
      | .flag apply => do
        let state ← apply state
        readLetters rules state rest
      | .value apply =>
        let attached :=
          match rest with
          | [] => none
          | '=' :: value => some (String.ofList value)
          | value => some (String.ofList value)
        .ok (.value rule.name attached apply state)

mutual

/-- Follows options up to the first word that is none, and returns the words from there on. -/
def readOptions {σ : Type} (rules : List (OptionRule σ)) (state : σ) :
    List String → Except Halt (σ × List String)
  | [] => .ok (state, [])
  | word :: rest =>
    match word.toList with
    | ['-', '-'] => .ok (state, word :: rest)
    | '-' :: '-' :: body =>
      let (name, attached) := cutEquals body
      match rules.find? fun rule => rule.name = name with
      | none => .error (.fault (.unexpected word))
      | some rule =>
        match rule.effect, attached with
        | .flag _, some _ => .error (.fault (.extraValue name))
        | .flag apply, none => do
          let state ← apply state
          readOptions rules state rest
        | .value apply, some value => do
          let state ← apply value state
          readOptions rules state rest
        | .value apply, none => readValue rules name apply state rest
    | '-' :: c :: letters => do
      match ← readLetters rules state (c :: letters) with
      | .flags state => readOptions rules state rest
      | .value _ (some value) apply state =>
        let state ← apply value state
        readOptions rules state rest
      | .value name none apply state => readValue rules name apply state rest
    | _ => .ok (state, word :: rest)

/-- Takes the next word as the value of an option, and goes on after it. -/
def readValue {σ : Type} (rules : List (OptionRule σ)) (name : String)
    (apply : String → σ → Except Halt σ) (state : σ) :
    List String → Except Halt (σ × List String)
  | [] => .error (.fault (.missingValue name))
  | value :: rest =>
    if isOption value then .error (.fault (.missingValue name))
    else do
      let state ← apply value state
      readOptions rules state rest

end

/-- Commands have options only; a double hyphen may end them. -/
def readCommandOptions {σ : Type} (rules : List (OptionRule σ)) (state : σ) (words : List String) :
    Except Halt σ := do
  let (state, rest) ← readOptions rules state words
  match rest with
  | [] | ["--"] => return state
  | "--" :: word :: _ => .error (.fault (.unexpected word))
  | word :: _ => .error (.fault (.unexpected word))

def readCommand : List String → Except Halt Command
  | [] | ["--"] => .error (.fault .missingCommand)
  | "render" :: rest => do
    let options ← readCommandOptions renderRules {} rest
    match options.input with
    | some input => return .render input
    | none => .error (.fault (.missingOption "input"))
  | "request" :: rest => return .request (← readCommandOptions requestRules {} rest)
  | ["help"] | ["help", "render"] | ["help", "request"] | ["help", "help"] => .error .help
  | "--" :: word :: _ => .error (.fault (.unexpected word))
  | word :: _ => .error (.fault (.unexpected word))

/-- Reads the words of a command line. `config` is the path that the environment gives; an option
goes before it. -/
def Invocation.ofWords (words : List String) (config : Option String) :
    Except Halt Invocation := do
  let (options, rest) ← readOptions globalRules {} words
  let command ← readCommand rest
  match options.config <|> config with
  | none => return ⟨options, command⟩
  | some path =>
    match path? path with
    | some path => return ⟨{ options with config := some path }, command⟩
    | none => .error (.fault (.invalidValue "config" path))

end SearchQuery.CommandLine

import CaseScript.Report.Format

/-!
# Command/Options — the arguments of the command line

Options have a long name, most of them a short one, and some a value, which is attached or is the
next argument. Each may be given once. Arguments are taken one after another, so the first that asks
for help or the version, or is wrong, decides.
-/

namespace CaseScript

/-- What can be given on the command line. -/
inductive OptionName where
  | path
  | config
  | filter
  | verbose
  | timeout
  | parallelism
  | reportDir
  | reportFormat
  | debug
  | databaseUrl
  | help
  | version
deriving DecidableEq, Repr

namespace OptionName

/-- Every option. -/
def all : List OptionName := [
  path, config, filter, verbose, timeout, parallelism, reportDir, reportFormat, debug, databaseUrl,
  help, version]

/-- The long name of an option. -/
def long : OptionName → String
  | path => "path"
  | config => "config"
  | filter => "filter"
  | verbose => "verbose"
  | timeout => "timeout"
  | parallelism => "parallelism"
  | reportDir => "report-dir"
  | reportFormat => "report-format"
  | debug => "debug"
  | databaseUrl => "database-url"
  | help => "help"
  | version => "version"

/-- The short name of an option. -/
def short? : OptionName → Option Char
  | path => some 'p'
  | config => some 'c'
  | filter => some 'f'
  | verbose => some 'v'
  | timeout => some 't'
  | reportDir => some 'r'
  | debug => some 'd'
  | help => some 'h'
  | version => some 'V'
  | parallelism | reportFormat | databaseUrl => none

/-- Whether an option has a value. -/
def hasValue : OptionName → Bool
  | verbose | debug | help | version => false
  | _ => true

/-- What an option is for. -/
def purpose : OptionName → String
  | path => "Case file or directory path"
  | config => "Runner config file (YAML or JSON)"
  | filter => "Filter cases by id or name (partial match)"
  | verbose => "Enable verbose logging"
  | timeout => "Timeout in seconds per HTTP action"
  | parallelism => "Number of cases run concurrently"
  | reportDir => "Directory to save case report files"
  | reportFormat => "Report output format (json, yaml, text)"
  | debug => "Keep test data in memory for this run only"
  | databaseUrl => "Postgres URL of the audit database"
  | help => "Print help"
  | version => "Print version"

end OptionName

/-- What a run is asked to do. -/
structure Options where
  path : Option String
  config : Option String
  filter : Option String
  verbose : Bool
  timeout : Option Nat
  parallelism : Option Nat
  reportDir : Option String
  reportFormat : ReportFormat
  debug : Bool
  databaseUrl : Option String
deriving Repr

/-- What goes without any argument. -/
def Options.standard : Options :=
  ⟨none, none, none, false, none, none, none, .json, false, none⟩

/-- What a command line asks for. -/
inductive Demand where
  | run (o : Options)
  | help
  | version
deriving Repr

/-- Why a command line is wrong. -/
inductive UsageError where
  | unexpected (argument : String)
  | missingValue (option : OptionName)
  | surplusValue (option : OptionName)
  | repeated (option : OptionName)
  | wrongValue (option : OptionName) (value : String)
deriving DecidableEq, Repr

/-- The text of a fault. -/
def UsageError.message : UsageError → String
  | unexpected a => s!"unexpected argument '{a}' found"
  | missingValue o => s!"a value is required for '--{o.long}' but none was supplied"
  | surplusValue o => s!"unexpected value for '--{o.long}' found; no more were expected"
  | repeated o => s!"the argument '--{o.long}' cannot be used multiple times"
  | wrongValue o v => s!"invalid value '{v}' for '--{o.long}'"

namespace Options

/-- A whole number below `2^64`; a plus sign may stand before it. -/
def number? (s : String) : Option Nat :=
  let digits := match s.toList with
    | '+' :: cs => cs
    | cs => cs
  if digits = [] ∨ ¬digits.all Char.isDigit then none
  else
    let n := ofDecimalDigits digits
    if n < Nat.pow 2 64 then some n else none

/-- The options with a value given to one of them. -/
def set (o : Options) (name : OptionName) (value : String) : Except UsageError Options :=
  let number (put : Nat → Options) : Except UsageError Options :=
    match number? value with
    | some n => .ok (put n)
    | none => .error (.wrongValue name value)
  match name with
  | .path => .ok { o with path := some value }
  | .config => .ok { o with config := some value }
  | .filter => .ok { o with filter := some value }
  | .verbose => .ok { o with verbose := true }
  | .timeout => number fun n => { o with timeout := some n }
  | .parallelism => number fun n => { o with parallelism := some n }
  | .reportDir => .ok { o with reportDir := some value }
  | .reportFormat =>
    match ReportFormat.ofName? value with
    | some f => .ok { o with reportFormat := f }
    | none => .error (.wrongValue name value)
  | .debug => .ok { o with debug := true }
  | .databaseUrl => .ok { o with databaseUrl := some value }
  | .help | .version => .ok o

/-! ## Arguments -/

/-- A part of an argument. -/
inductive Piece where
  /-- An option; its value is attached, is still to come, or is none. -/
  | option (name : OptionName) (attached : Option String)
  | unknown
deriving DecidableEq, Repr

/-- The pieces of an argument that begins with two dashes. -/
def longPiece (cs : List Char) : Piece :=
  let (name, value) := match Text.cutAt? '=' cs with
    | some (name, value) => (name, some (String.ofList value))
    | none => (cs, none)
  match OptionName.all.find? fun o => o.long.toList = name with
  | some o => .option o value
  | none => .unknown

/-- The pieces of an argument that begins with one dash: options without a value, and at the end
perhaps one with a value. -/
def shortPieces : List Char → List Piece
  | [] => []
  | c :: cs =>
    match OptionName.all.find? fun o => o.short? = some c with
    | none => [.unknown]
    | some o =>
      if o.hasValue then
        match cs with
        | [] => [.option o none]
        | '=' :: value => [.option o (some (String.ofList value))]
        | value => [.option o (some (String.ofList value))]
      else .option o none :: shortPieces cs

/-- The pieces of an argument. -/
def pieces (argument : String) : List Piece :=
  match argument.toList with
  | '-' :: '-' :: cs => [longPiece cs]
  | '-' :: c :: cs => shortPieces (c :: cs)
  | _ => [.unknown]

/-- Whether an argument can be the value of the option before it. -/
def isValue (argument : String) : Bool :=
  match argument.toList with
  | '-' :: _ :: _ => false
  | _ => true

/-- What has been taken of a command line. -/
structure Taken where
  options : Options
  /-- The options that were given. -/
  given : List OptionName
deriving Repr

/-- Takes an option with its value, empty if it has none. -/
def Taken.add (t : Taken) (name : OptionName) (value : String) : Except UsageError Taken :=
  if t.given.contains name then .error (.repeated name)
  else (t.options.set name value).map fun o => ⟨o, name :: t.given⟩

/-- What came of some pieces: all were taken, the last one waits for its value, or help or the
version is asked for. -/
inductive Progress where
  | taken (t : Taken)
  | waiting (t : Taken) (name : OptionName)
  | asked (r : Demand)

/-- Takes the pieces of an argument. -/
def takePieces (argument : String) : Taken → List Piece → Except UsageError Progress
  | t, [] => .ok (.taken t)
  | _, .unknown :: _ => .error (.unexpected argument)
  | t, .option name attached :: rest =>
    match name.hasValue, attached with
    | false, some _ => .error (.surplusValue name)
    | false, none =>
      if name = .help then .ok (.asked .help)
      else if name = .version then .ok (.asked .version)
      else match t.add name "" with
        | .ok t => takePieces argument t rest
        | .error e => .error e
    | true, some value =>
      match t.add name value with
      | .ok t => takePieces argument t rest
      | .error e => .error e
    | true, none => .ok (.waiting t name)

/-- Takes arguments; `waiting` is the option whose value comes next. -/
def takeArguments : Taken → (waiting : Option OptionName) → List String →
    Except UsageError Demand
  | t, none, [] => .ok (.run t.options)
  | _, some name, [] => .error (.missingValue name)
  | t, some name, a :: rest =>
    if isValue a then
      match t.add name a with
      | .ok t => takeArguments t none rest
      | .error e => .error e
    else .error (.missingValue name)
  | t, none, a :: rest =>
    if a = "--" then
      match rest with
      | [] => .ok (.run t.options)
      | next :: _ => .error (.unexpected next)
    else match takePieces a t (pieces a) with
      | .error e => .error e
      | .ok (.asked r) => .ok r
      | .ok (.taken t) => takeArguments t none rest
      | .ok (.waiting t name) => takeArguments t (some name) rest

/-- What a command line asks for. -/
def ofArguments (arguments : List String) : Except UsageError Demand :=
  takeArguments ⟨.standard, []⟩ none arguments

end Options

end CaseScript

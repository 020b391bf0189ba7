import CaseScript.Command.Options
import CaseScript.Files.Load
import CaseScript.Report.Log

/-!
# Command/Run — the command line

A command reads its configuration and its cases, runs the cases, and reports each of them, in files
too if it is asked to. It succeeds if every case did. What it needs of the machine is a `Host`.
-/

namespace CaseScript

/-- The machine that a command runs on. -/
structure Host (m : Type → Type) where
  files : Files m
  /-- Makes a directory and those above it; the failure is given as text. -/
  makeDirectory : String → m (Except String Unit)
  /-- Writes a file; the failure is given as text. -/
  write : String → String → m (Except String Unit)
  /-- Writes a line of the log. -/
  log : LogLine → m Unit
  /-- Writes to the standard output. -/
  print : String → m Unit
  /-- Writes to the standard error. -/
  complain : String → m Unit
  /-- A setting of the environment. -/
  setting : String → m (Option String)
  /-- A name that no other run has. -/
  newRunId : m String
  /-- Runs a program. -/
  perform : {α : Type} → Act α → m α

/-- Why a command failed before any case ran. -/
inductive CommandError where
  | load (e : LoadError)
  | missingPath (path : String)
  | unloadablePath (path : String)
  | noCases
deriving DecidableEq, Repr

/-- The text of a failure. -/
def CommandError.message : CommandError → String
  | load e => e.message
  | missingPath path => s!"Path does not exist: {path}"
  | unloadablePath path => s!"Failed to load cases from {path}"
  | noCases => "No test cases found"

namespace Command

/-! ## What is printed without a run -/

/-- The line that names the program. -/
def versionLine : String := "stepcheck 0.1.0"

/-- The line of an option in the help. -/
def helpLine (o : OptionName) : String :=
  let short := match o.short? with
    | some c => s!"-{c}, "
    | none => "    "
  let value := if o.hasValue then " <VALUE>" else ""
  s!"  {short}--{o.long}{value}  {o.purpose}"

/-- The help. -/
def helpText : String :=
  "\n".intercalate ("stepcheck - declarative test-step runner" :: "" ::
    "Usage: stepcheck [OPTIONS]" :: "" :: "Options:" :: OptionName.all.map helpLine)

/-! ## Before the run -/

/-- The connection that leads to the tables of cases and variables. -/
def auditConnection : String := "audit"

/-- The setting that gives the address of the database if no argument does. -/
def databaseSetting : String := "STEPCHECK_DATABASE_URL"

/-- Where cases are looked for if no path is given; the first need not exist to be looked at. -/
def standardPaths : List String := ["tests/cases", "testcase/cases", "test/cases"]

/-- Whether a case passes a filter. Case does not count. -/
def passesFilter (filter : Option String) (c : CaseDefinition) : Bool :=
  match filter with
  | none => true
  | some f =>
    let wanted := Unicode.lower f.toList
    Text.contains wanted (Unicode.lower c.id.toList)
      || Text.contains wanted (Unicode.lower c.displayName.toList)

/-- The configuration with what the options say. -/
def configured (o : Options) (c : RunConfig) : RunConfig :=
  { c with
    requestTimeout := o.timeout.getD c.requestTimeout
    parallelism := o.parallelism.getD c.parallelism }

/-- What runs the cases. With the address of a database, test data and variables are in its
tables. -/
def runnerOf (o : Options) (c : RunConfig) (runId : String) : Runner where
  runId := runId
  config := c
  plan :=
    if o.debug then .separate 0
    else if o.databaseUrl.isSome then .given (.table auditConnection)
    else .shared 0
  catalog :=
    if o.databaseUrl.isSome then .tables auditConnection c.globals else .fixed c.catalog
  connections := some (.ofConfig c.databases o.databaseUrl)

variable {m : Type → Type} [Monad m]

/-- Loads the configuration that the options name. -/
def loadConfig (files : Files m) (o : Options) : m (Except CommandError RunConfig) := do
  match o.config with
  | none => return .ok (configured o .standard)
  | some path =>
    match ← files.loadConfig path with
    | .ok c => return .ok (configured o c)
    | .error e => return .error (.load e)

/-- Loads the cases of the path that the options name, or of the standard paths. -/
def loadFrom (files : Files m) : Option String → m (Except CommandError (List CaseDefinition))
  | none => return .ok (← files.loadAll standardPaths)
  | some path => do
    if (← files.kind path).isNone then return .error (.missingPath path)
    match ← files.loadPath path with
    | .ok cs => return .ok cs
    | .error _ => return .error (.unloadablePath path)

/-- Loads the cases to run, of which there has to be one. -/
def loadCases (files : Files m) (o : Options) : m (Except CommandError (List CaseDefinition)) := do
  match ← loadFrom files o.path with
  | .error e => return .error e
  | .ok cs =>
    let cs := cs.filter (passesFilter o.filter)
    return if cs.isEmpty then .error .noCases else .ok cs

/-! ## The run -/

/-- Writes the report of a case, and gives the path of its file. -/
def saveReport (host : Host m) (directory : String) (format : ReportFormat) (r : CaseReport) :
    m (Except String String) := do
  let made : Except String Unit ←
    if (← host.files.kind directory).isSome then pure (.ok ()) else host.makeDirectory directory
  match made with
  | .error e => return .error e
  | .ok () =>
    let now ← host.perform Act.now
    let path := Files.entryPath directory (r.fileName format (now / 1000))
    return (← host.write path (r.content format)).map fun _ => path

/-- Writes lines of the log. -/
def logAll (host : Host m) : List LogLine → m Unit
  | [] => return ()
  | l :: ls => do
    host.log l
    logAll host ls

/-- Reports a case. -/
def report (host : Host m) (o : Options) (r : CaseReport) : m Unit := do
  logAll host (r.logLines o.verbose)
  match o.reportDir with
  | none => return ()
  | some directory =>
    match ← saveReport host directory o.reportFormat r with
    | .ok path => host.log ⟨.info, s!"Report saved: {path}"⟩
    | .error e => host.log ⟨.error, s!"Failed to save report: {e}"⟩

/-- Reports cases. -/
def reportAll (host : Host m) (o : Options) : List CaseReport → m Unit
  | [] => return ()
  | r :: rs => do
    report host o r
    reportAll host o rs

/-- The exit code of a run. -/
def exitCode (reports : List CaseReport) : Nat := if reports.all (·.success) then 0 else 1

/-- Runs cases and reports them. -/
def runCases (host : Host m) (o : Options) (c : RunConfig) (cases : List CaseDefinition) :
    m Nat := do
  let runId ← host.newRunId
  if o.databaseUrl.isNone && !o.debug then
    host.log ⟨.warn, "No database URL given, test data is kept in memory"⟩
  host.log ⟨.info, s!"Running {cases.length} case(s) as run {runId}..."⟩
  let started ← host.perform Act.now
  let reports ← host.perform ((runnerOf o c runId).runAll cases)
  reportAll host o reports
  let ended ← host.perform Act.now
  let passed := (reports.filter (·.success)).length
  host.log (summaryLine passed (reports.length - passed) (ended - started))
  return exitCode reports

/-- Carries out what the options ask for. -/
def execute (host : Host m) (o : Options) : m Nat := do
  match ← loadConfig host.files o with
  | .error e => fail e
  | .ok c =>
    match ← loadCases host.files o with
    | .error e => fail e
    | .ok cases => runCases host o c cases
where
  /-- Says what went wrong. -/
  fail (e : CommandError) : m Nat := do
    host.complain s!"Error: {e.message}"
    return 1

/-- Carries out a command line, and gives the exit code. -/
def run (host : Host m) (arguments : List String) : m Nat := do
  match Options.ofArguments arguments with
  | .error e =>
    host.complain s!"error: {e.message}"
    return 2
  | .ok .help =>
    host.print helpText
    return 0
  | .ok .version =>
    host.print versionLine
    return 0
  | .ok (.run o) =>
    match o.databaseUrl with
    | some _ => execute host o
    | none => execute host { o with databaseUrl := ← host.setting databaseSetting }

end Command

end CaseScript

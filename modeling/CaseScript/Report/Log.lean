import CaseScript.Case.Run
import CaseScript.Report.Format

/-!
# Report/Log — what is said of a run while it is reported
-/

namespace CaseScript

/-- How much a line of the log matters. -/
inductive Level where
  | debug
  | info
  | warn
  | error
deriving DecidableEq, Repr

/-- The name of a level. -/
def Level.name : Level → String
  | debug => "DEBUG"
  | info => "INFO"
  | warn => "WARN"
  | error => "ERROR"

/-- A line of the log, which may run over several lines of text. -/
structure LogLine where
  level : Level
  text : String
deriving DecidableEq, Repr

/-! ## Colours -/

/-- Colours of a terminal. -/
inductive Colour where
  | red
  | green
  | yellow
  | blue
deriving DecidableEq, Repr

/-- The number of a colour. -/
def Colour.code : Colour → Nat
  | red => 31
  | green => 32
  | yellow => 33
  | blue => 34

/-- A text in a colour. -/
def Colour.paint (c : Colour) (text : String) : String := s!"\x1b[{c.code}m{text}\x1b[0m"

/-- The mark of a status. -/
def StepStatus.mark : StepStatus → String
  | passed => Colour.green.paint "✓"
  | skipped => Colour.yellow.paint "-"
  | continue_ => Colour.blue.paint ">"
  | failed | timeOut => Colour.red.paint "✗"

/-! ## Lines -/

/-- The lines of an instance; `several` is whether its step has others. -/
def StepOutcome.logLines (verbose several : Bool) (o : StepOutcome) : List LogLine :=
  let head : List LogLine :=
    if several then [⟨.info, s!"     {o.status.mark} {o.name} ({o.durationMs} ms)"⟩] else []
  let fault : List LogLine :=
    if o.errorMessage = "" then [] else [⟨.error, Colour.red.paint (trimmed o.errorMessage)⟩]
  let details : List LogLine :=
    if verbose then o.output.map fun line => ⟨.debug, s!"     {line}"⟩ else []
  head ++ fault ++ details

/-- The lines of a step. -/
def StepReport.logLines (verbose : Bool) (r : StepReport) : List LogLine :=
  ⟨.info, s!"  {r.stepId}. {r.status.mark} {r.name}"⟩
    :: r.instances.flatMap (StepOutcome.logLines verbose (1 < r.instances.length))

/-- The lines of a case. -/
def CaseReport.logLines (verbose : Bool) (r : CaseReport) : List LogLine :=
  let colour : Colour := if r.success then .green else .red
  let word := colour.paint (successWord r.success)
  ⟨.info, s!"{word} case: {r.name} ({r.durationMs} ms)"⟩
    :: r.steps.flatMap (StepReport.logLines verbose)

/-- The last line of a run. -/
def summaryLine (passed failed durationMs : Nat) : LogLine :=
  let good := Colour.green.paint s!"Passed: {passed}"
  let bad := Colour.red.paint s!"Failed: {failed}"
  ⟨.info, s!"Summary:\n  Total: {passed + failed}\n  {good}\n  {bad}\n  Duration: {durationMs} ms"⟩

end CaseScript

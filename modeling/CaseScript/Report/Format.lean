import CaseScript.Calendar.Written
import CaseScript.Case.Run
import CaseScript.Json.Pretty
import CaseScript.Yaml.Printer

/-!
# Report/Format — reports of cases as files

A report is a record in one of two notations, or plain text. Its file is named for the case, with
blanks and slashes replaced, and for the second in which it is written.
-/

namespace CaseScript

/-- The form of a report. -/
inductive ReportFormat where
  | json
  | yaml
  | text
deriving DecidableEq, Repr

namespace ReportFormat

/-- The format with a name. -/
def ofName? (s : String) : Option ReportFormat :=
  match s with
  | "json" => some json
  | "yaml" => some yaml
  | "text" => some text
  | _ => none

/-- How the names of its files end. -/
def ending : ReportFormat → String
  | json => "json"
  | yaml => "yaml"
  | text => "txt"

end ReportFormat

/-! ## As a record -/

/-- The record of an instance, in the order of its fields. -/
def StepOutcome.toRecord (o : StepOutcome) : Json :=
  .obj [
    ("stepId", .ofNat o.stepId), ("name", .str o.name), ("index", .ofNat o.index),
    ("status", .str o.status.name), ("durationMs", .ofNat o.durationMs),
    ("output", .arr (o.output.map .str)), ("errorMessage", .str o.errorMessage)]

/-- The record of a step. -/
def StepReport.toRecord (r : StepReport) : Json :=
  .obj [
    ("stepId", .ofNat r.stepId), ("name", .str r.name), ("status", .str r.status.name),
    ("instances", .arr (r.instances.map StepOutcome.toRecord))]

/-- The record of a case. -/
def CaseReport.toRecord (r : CaseReport) : Json :=
  .obj [
    ("runId", .str r.runId), ("caseId", .str r.caseId), ("name", .str r.name),
    ("success", .bool r.success), ("startedAt", .str (writtenMoment "Z" r.startedMs)),
    ("durationMs", .ofNat r.durationMs), ("steps", .arr (r.steps.map StepReport.toRecord))]

/-! ## As text -/

/-- The lines of an instance. -/
def StepOutcome.textLines (o : StepOutcome) : List String :=
  o.output.map (fun line => s!"     {line}") ++ [s!"     Duration: {o.durationMs} ms"]

/-- The lines of a step. -/
def StepReport.textLines (r : StepReport) : List String :=
  s!"  {r.stepId}. {r.name} ({r.status.label})" :: r.instances.flatMap StepOutcome.textLines

/-- The word for success or failure. -/
def successWord (success : Bool) : String := if success then "PASS" else "FAIL"

/-- The lines of a case. -/
def CaseReport.textLines (r : CaseReport) : List String :=
  [s!"Case: {r.name} ({r.caseId})", s!"Run: {r.runId}", s!"Status: {successWord r.success}",
    "Started: " ++ writtenMoment "+00:00" r.startedMs, s!"Duration: {r.durationMs} ms", "",
    "Steps:"] ++ r.steps.flatMap StepReport.textLines

/-! ## As a file -/

/-- The contents of a report. -/
def CaseReport.content (r : CaseReport) : ReportFormat → String
  | .json => r.toRecord.pretty
  | .yaml => Yaml.print r.toRecord
  | .text => String.join (r.textLines.map (· ++ "\n"))

/-- A case number as part of a file's name. -/
def fileId (caseId : String) : String :=
  String.ofList (caseId.toList.map fun c => if c = ' ' ∨ c = '/' then '_' else c)

/-- The name of the file of a report that is written in the given second. -/
def CaseReport.fileName (r : CaseReport) (format : ReportFormat) (second : Nat) : String :=
  s!"{fileId r.caseId}-{second}.{format.ending}"

end CaseScript

import CaseScript.Record.Reader

/-!
# Step/Status — how a step went
-/

namespace CaseScript

/-- How a step, or an instance of one, went. -/
inductive StepStatus where
  | passed
  | failed
  | skipped
  | continue_
  | timeOut
deriving DecidableEq, Repr, Inhabited

namespace StepStatus

/-- Every status. -/
def all : List StepStatus := [passed, failed, skipped, continue_, timeOut]

/-- The name of a status. -/
def name : StepStatus → String
  | passed => "Passed"
  | failed => "Failed"
  | skipped => "Skipped"
  | continue_ => "Continue"
  | timeOut => "TimeOut"

/-- What a report calls a status; a step out of time has failed. -/
def label : StepStatus → String
  | passed => "passed"
  | failed | timeOut => "failed"
  | skipped => "skipped"
  | continue_ => "continue"

/-- Whether the step failed. -/
def isFailure : StepStatus → Bool
  | failed | timeOut => true
  | _ => false

/-- The status with a name. -/
def ofName (s : String) : Except ReadFault StepStatus :=
  match all.find? fun c => c.name = s with
  | some c => .ok c
  | none => .error (.unknownVariant s (all.map name))

/-- Reads a status by its name, which may also be the only key of a map and stand before null. -/
def read : Reads StepStatus
  | .str s => ofName s
  | .map [(.str s, .null)] => ofName s
  | .map [(.str s, n)] =>
    match ofName s with
    | .ok _ => n.fault "unit"
    | .error e => .error e
  | .map _ => .error (.wrongValue "map" "map with a single key")
  | n => n.fault "string or map"

/-- The status of a step from those of its instances: a single one counts as it is, and of several
any failure fails the step. -/
def aggregate : List StepStatus → StepStatus
  | [only] => only
  | ss => if ss.any isFailure then failed else passed

end StepStatus

end CaseScript

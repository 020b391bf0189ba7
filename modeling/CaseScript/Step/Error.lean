/-!
# Step/Error — why a step failed
-/

namespace CaseScript

/-- Why a part of a step failed. -/
inductive StepError where
  /-- A request or a statement could not be carried out. -/
  | action (message : String)
  /-- An assertion did not hold. -/
  | assertion (message : String)
  /-- A placeholder or a loop could not be resolved. -/
  | resolution (message : String)
  /-- The definition or the configuration is wrong. -/
  | configuration (message : String)
  /-- The deadline of a request passed; its length in seconds. -/
  | timeout (seconds : Nat)
  | cancelled
deriving DecidableEq, Repr

/-- The text of a failure. -/
def StepError.message : StepError → String
  | action m | assertion m | resolution m | configuration m => m
  | timeout s => s!"Request send takes so long, which is more than {s}s."
  | cancelled => "Execution was cancelled"

end CaseScript

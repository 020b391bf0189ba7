import CaseScript.Json.Basic
import CaseScript.Source.Kind
import CaseScript.Store.Memory

/-!
# Step/Context — what a step knows of itself and its case
-/

namespace CaseScript

/-- The place of a step: its run and case, where values come from, and its own definition. -/
structure StepContext where
  key : CaseKey
  region : String
  env : String
  /-- The sources of placeholders by name. -/
  kinds : Keyed SourceKind
  /-- The columns of the scenario. -/
  scenario : Entries
  stepId : Nat
  stepName : String
  /-- Which instance of the step this is, counted from one. -/
  index : Nat
  definition : Json
deriving Repr

/-- The profile of the region and environment. -/
def StepContext.profile (ctx : StepContext) : String := ctx.region ++ ctx.env

end CaseScript

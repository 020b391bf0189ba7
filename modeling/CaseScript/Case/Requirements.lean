import CaseScript.Case.Definition
import CaseScript.Template.Placeholder

/-!
# Case/Requirements — the names that a case needs from outside

What a step stores counts as supplied to all steps. A required name is unbound if neither test data
nor a source is given for it.
-/

namespace CaseScript.CaseDefinition

/-- The definitions of all steps. -/
def definitions (c : CaseDefinition) : Json := .arr (c.steps.map fun s => .obj s.definition)

/-- The names that the steps need. -/
def requiredNames (c : CaseDefinition) : List String := Template.requiredNames c.definitions

/-- The required names without a value in the test data and without a source. -/
def unboundNames (c : CaseDefinition) (data : Entries) : List String :=
  c.requiredNames.filter fun name =>
    let root := rootOf name
    !data.hasKey root && !c.kinds.hasKey root && !c.kinds.hasKey name

end CaseScript.CaseDefinition

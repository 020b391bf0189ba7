import CaseScript.Source.Kind
import CaseScript.Step.Spec

/-!
# Case/Definition — cases as they are written

A case has steps, which run by ascending number, the test data they start from, and the sources of
the names that are not test data.
-/

namespace CaseScript

/-- A case. -/
structure CaseDefinition where
  id : String
  name : Option String
  region : String
  env : String
  /-- The sources of placeholders by name; other names are test data. -/
  kinds : Keyed SourceKind
  testData : Entries
  /-- The columns of the scenario. -/
  scenario : Entries
  steps : List StepSpec
deriving Repr

namespace CaseDefinition

open Reads in
/-- The fields of a case. -/
def fields : List (Field CaseDefinition) := [
  .required "caseId" text fun v c => { c with id := v },
  .withDefault "name" (optional text) fun v c => { c with name := v },
  .withDefault "region" text fun v c => { c with region := v },
  .withDefault "env" text fun v c => { c with env := v },
  .withDefault "variables" (keyed (named SourceKind.ofName)) fun v c => { c with kinds := v },
  .withDefault "testData" (keyed value) fun v c => { c with testData := v },
  .withDefault "scenario" (keyed value) fun v c => { c with scenario := v },
  .required "steps" (list StepSpec.read) fun v c => { c with steps := v }]

/-- Reads a case. -/
def read : Reads CaseDefinition :=
  Record.read "CaseDefinition" fields ⟨"", none, "", "", [], [], [], []⟩

/-- What a case is called. -/
def displayName (c : CaseDefinition) : String := c.name.getD c.id

/-- The steps by ascending number; equal ones stay in order. -/
def orderedSteps (c : CaseDefinition) : List StepSpec := c.steps.mergeSort fun a b => a.id ≤ b.id

end CaseDefinition

end CaseScript

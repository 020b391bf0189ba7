import CaseScript.Case.Config
import CaseScript.Case.Definition
import CaseScript.Step.Run

/-!
# Case/Run — a case from its definition to its report

Steps run by ascending number until one fails, or all of them if the configuration says so. A
cancellation is noticed before each step, and a case that did not run all its steps did not succeed.
-/

namespace CaseScript

/-- Where the cases of a run find their test data. -/
inductive DataPlan where
  /-- Each case puts its test data into one store in memory before it runs. -/
  | shared (slot : Slot)
  /-- Each case gets a store of its own, in the slots from the given one on. -/
  | separate (first : Slot)
  /-- A store that holds the test data already. -/
  | given (store : StoreHandle)
deriving Repr

/-- What runs the cases of a run. -/
structure Runner where
  runId : String
  config : RunConfig
  plan : DataPlan
  catalog : Catalog
  /-- The databases that may be reached, unless any may. -/
  connections : Option Connections
deriving Repr

/-- The result of a case. -/
structure CaseReport where
  runId : String
  caseId : String
  name : String
  success : Bool
  startedMs : Nat
  durationMs : Nat
  steps : List StepReport
deriving Repr

namespace Runner

/-- The key of the test data of a case. -/
def keyOf (r : Runner) (c : CaseDefinition) : CaseKey := ⟨r.runId, c.id⟩

/-- Puts test data into a store in memory. -/
def seed (slot : Slot) (key : CaseKey) : Entries → Act Unit
  | [] => return ()
  | (name, value) :: rest => do
    Act.write slot key (.merge name value)
    seed slot key rest

/-- The store of a case, once its test data is there; `position` is the place of the case among all
cases. -/
def storeFor (r : Runner) (position : Nat) (c : CaseDefinition) : Act StoreHandle :=
  match r.plan with
  | .given store => return store
  | .shared slot => do
    seed slot (r.keyOf c) c.testData
    return .memory slot
  | .separate first => do
    seed (first + position) (r.keyOf c) c.testData
    return .memory (first + position)

/-- The context that the steps of a case begin with. -/
def contextOf (r : Runner) (c : CaseDefinition) : StepContext where
  key := r.keyOf c
  region := c.region
  env := c.env
  kinds := c.kinds
  scenario := c.scenario
  stepId := 0
  stepName := ""
  index := 1
  definition := .empty

/-- Runs steps one after another: their reports, and whether all of them ran and none failed. After
a failure the rest is run only if `goesOn`. -/
def runSteps (x : Executor) (ctx : StepContext) (goesOn : Bool) :
    List StepSpec → Act (List StepReport × Bool)
  | [] => return ([], true)
  | spec :: rest => do
    if ← Act.isCancelled then return ([], false)
    let report ← x.runStep ctx spec
    if report.status.isFailure && !goesOn then return ([report], false)
    let (reports, success) ← runSteps x ctx goesOn rest
    return (report :: reports, success && !report.status.isFailure)

/-- Runs a case. Its document is read once before the first step, to see which names are unbound. -/
def runCase (r : Runner) (position : Nat) (c : CaseDefinition) : Act CaseReport := do
  let started ← Act.now
  let store ← r.storeFor position c
  let _ ← store.document (r.keyOf c)
  let x : Executor := ⟨⟨store, r.catalog⟩, r.config.settings, r.connections⟩
  let (steps, success) ← runSteps x (r.contextOf c) r.config.continueOnFailure c.orderedSteps
  let ended ← Act.now
  return ⟨r.runId, c.id, c.displayName, success, started, ended - started, steps⟩

/-- Runs cases in order, the first of which has the given position. -/
def runFrom (r : Runner) (position : Nat) : List CaseDefinition → Act (List CaseReport)
  | [] => return []
  | c :: cs => do
    let report ← r.runCase position c
    return report :: (← runFrom r (position + 1) cs)

/-- Runs cases in order. -/
def runAll (r : Runner) (cs : List CaseDefinition) : Act (List CaseReport) := r.runFrom 0 cs

end Runner

end CaseScript

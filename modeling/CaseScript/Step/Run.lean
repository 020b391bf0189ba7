import CaseScript.Step.Group
import CaseScript.Step.Spec
import CaseScript.Step.Status

/-!
# Step/Run — a step from its definition to its report

An instance runs its stages in order: preparation, dependency, preparation of the test, the test,
assertions on its result, and clearing up. A dependency that is not met skips the instance; clearing
up goes ahead even if the assertions failed, whose failure is then the one reported.
-/

namespace CaseScript

/-- The result of an instance. -/
structure StepOutcome where
  stepId : Nat
  name : String
  index : Nat
  status : StepStatus
  durationMs : Nat
  output : Log
  /-- Empty unless the instance failed. -/
  errorMessage : String
deriving Repr

/-- The result of a step. -/
structure StepReport where
  stepId : Nat
  name : String
  status : StepStatus
  instances : List StepOutcome
deriving Repr

/-- The first message of a failure among the instances. -/
def StepReport.firstError? (r : StepReport) : Option String :=
  (r.instances.map (·.errorMessage)).find? (· ≠ "")

/-- What begins every message of a failure. -/
def failureBanner : String :=
  "\n\n\nFailed Reason:\n----------------------------------------------------------------------"

/-- What separates the log of the test from that of its assertions. -/
def assertBanner : String :=
  "\nAssert after API Request\n---------------------------------\n"

/-- The line that begins the log of an instance. -/
def headerLine (ctx : StepContext) : String :=
  s!"RunId={ctx.key.run}, caseId={ctx.key.case}, stepId={stepText ctx.stepId}, "
    ++ s!"index={stepText ctx.index}"

/-- Whether a definition asks for clearing up. -/
def clearsUp (definition : Json) : Bool :=
  match definition.get? "ifRollBack" with
  | some (.bool b) => b
  | some (.str s) => sameLetters (trimmed s) "true"
  | _ => false

/-- The outcome of an instance that ended with a result. -/
def StepOutcome.ofResult (ctx : StepContext) (durationMs : Nat) (log : Log) :
    Except StepError StepStatus → StepOutcome
  | .ok status => ⟨ctx.stepId, ctx.stepName, ctx.index, status, durationMs, log, ""⟩
  | .error e =>
    let message := s!"{failureBanner}\n{e.message}"
    let status := match e with
      | .timeout _ => .timeOut
      | _ => .failed
    ⟨ctx.stepId, ctx.stepName, ctx.index, status, durationMs, log ++ [message], message⟩

namespace Executor

/-- Clears up, if the definition asks for it. -/
def runCleanup (x : Executor) (ctx : StepContext) : Stage Unit :=
  if clearsUp ctx.definition then
    x.runActions x.nestedGate ctx (ctx.definition.get? "beforeEnd")
  else return ()

/-- Checks the result of the test and clears up; a failed assertion is reported before a failed
clearing up. -/
def runAfterTest (x : Executor) (ctx : StepContext) : Stage Unit := do
  Stage.log assertBanner
  let asserted ← Stage.outcome
    (x.runAssertions x.nestedGate ctx (ctx.definition.get? "afterTest"))
  let cleared ← Stage.outcome (x.runCleanup ctx)
  Stage.ofExcept asserted
  Stage.ofExcept cleared

/-- Runs the stages of an instance. -/
def runStages (x : Executor) (ctx : StepContext) : Stage StepStatus := do
  let gate := x.nestedGate
  x.runActions gate ctx (ctx.definition.get? "beforeDependency")
  if ← x.dependencyMet gate ctx (ctx.definition.get? "dependency") then
    x.runActions gate ctx (ctx.definition.get? "beforeTest")
    x.runTest ctx (ctx.definition.get? "test")
    x.runAfterTest ctx
    return .passed
  else
    Stage.log "Skip step as its dependency is not met"
    return .skipped

/-- Runs an instance. -/
def runInstance (x : Executor) (ctx : StepContext) : Act StepOutcome := do
  let started ← Act.now
  let (r, log) ← (x.runStages ctx).start [headerLine ctx]
  let ended ← Act.now
  return .ofResult ctx (ended - started) log r

/-- Runs what goes before the loop of a step, and gives its instances. -/
def expandStep (x : Executor) (ctx : StepContext) : Stage (List (Nat × Json)) := do
  x.runActions x.nestedGate ctx (ctx.definition.get? "beforeLoop")
  x.expandLoop ctx ctx.definition Template.stepMarker

/-- The context of a step. -/
def atStep (ctx : StepContext) (spec : StepSpec) : StepContext :=
  { ctx with
    stepId := spec.id, stepName := spec.name, index := 1, definition := .obj spec.definition }

/-- Runs the instances of a step one after another; `several` is whether there is more than one. -/
def runInstances (x : Executor) (ctx : StepContext) (several : Bool) :
    List (Nat × Json) → Act (List StepOutcome)
  | [] => return []
  | (index, definition) :: rest => do
    let name := if several then s!"{ctx.stepName} (Loop {index})" else ctx.stepName
    let outcome ← x.runInstance
      { ctx with index := index, stepName := name, definition := definition }
    return outcome :: (← runInstances x ctx several rest)

/-- The outcomes of a step. If it cannot be expanded there is one, which says why. -/
def runOutcomes (x : Executor) (ctx : StepContext) : Act (List StepOutcome) := do
  match ← (x.expandStep ctx).start [headerLine ctx] with
  | (.ok instances, _) => x.runInstances ctx (1 < instances.length) instances
  | (.error e, log) => return [.ofResult ctx 0 log (.error e)]

/-- Runs a step and notes its status, whether or not that can be done. -/
def runStep (x : Executor) (caseCtx : StepContext) (spec : StepSpec) : Act StepReport := do
  let ctx := atStep caseCtx spec
  let outcomes ← x.runOutcomes ctx
  let status := StepStatus.aggregate (outcomes.map (·.status))
  let _ ← x.sources.store.recordStatus ctx.key spec.id status.label
  return ⟨spec.id, spec.name, status, outcomes⟩

end Executor

end CaseScript

import CaseScript.Step.Action
import CaseScript.Step.Assertion

/-!
# Step/Group — groups of actions and of assertions

Groups run by ascending number. A gate decides whether a group is entered: outside a gate it is the
group's own dependency (`nestedGate`), and inside one every group is entered (`openGate`), so gates
are one level deep.
-/

namespace CaseScript

/-- The number by which a group is sorted; zero if it has none. -/
def groupNumber (group : Json) : Binary64 :=
  ((group.get? "id").bind Json.number?).getD .zero

/-- What a group is called. -/
def groupLabel (group : Json) : String :=
  match group.get? "id" with
  | some v => v.plain
  | none => ""

/-- Whether one group may stand before another. -/
def groupBefore (a b : Json) : Bool := !(groupNumber b).totalLt (groupNumber a)

/-- The entries of a list, or the only entry. -/
def entriesOf : Option Json → List Json
  | some (.arr items) => items
  | some (.obj es) => [.obj es]
  | _ => []

/-- Groups by ascending number; equal ones stay in order. -/
def sortedGroups (groups : Option Json) : List Json := (entriesOf groups).mergeSort groupBefore

/-- Decides whether a group is entered. -/
abbrev Gate := StepContext → Json → Stage Bool

/-- The gate that lets every group in. -/
def openGate : Gate := fun _ _ => return true

/-- The longest time that can be waited, in seconds. -/
def maxWaitSeconds : Nat := Nat.pow 2 64

/-- A wait in milliseconds, begun ones counted: nothing for zero and below, and no wait at all if it
is too long or no number. -/
def waitMillis? : Binary64 → Option Nat
  | .nan _ => none
  | .infinite negative => if negative then some 0 else none
  | .finite negative m e =>
    if negative then some 0
    else
      let nanos := nanosOf m e
      if maxWaitSeconds * nanosPerSecond ≤ nanos then none else some ((nanos + 999999) / 1000000)

namespace Executor

/-- Waits before a group. -/
def waitBefore (seconds : Binary64) : Stage Unit := do
  match waitMillis? seconds with
  | none =>
    throw (.configuration (s!"Invalid beforeWait '{String.ofList seconds.plainText}': "
      ++ "cannot convert float seconds to Duration: value is either too big or NaN"))
  | some millis =>
    match ← Stage.call (Act.pause millis .cancellation) with
    | .done () => return ()
    | .cancelled | .expired => throw .cancelled

/-- Asks the gate of a group. What it fails with is logged, and the group is left out; `kind` is
what such groups are called. -/
def enters (gate : Gate) (kind : String) (ctx : StepContext) (label : String) (group : Json) :
    Stage Bool := do
  match ← Stage.outcome (gate ctx group) with
  | .ok true => return true
  | .ok false =>
    Stage.log s!"Skip {kind} group {label} as its dependency is not met"
    return false
  | .error e =>
    Stage.log s!"Skip {kind} group {label} as its dependency failed: {e.message}"
    return false

/-! ## Actions -/

/-- Runs the wait and the actions of a group. -/
def runActionGroup (x : Executor) (ctx : StepContext) (group : Json) : Stage Unit := do
  match (group.get? "beforeWait").bind Json.number? with
  | some seconds => waitBefore seconds
  | none => pure ()
  x.runDbActions ctx (entriesOf (group.get? "execute"))

/-- Runs sorted groups of actions. -/
def runSortedActions (x : Executor) (gate : Gate) (ctx : StepContext) : List Json → Stage Unit
  | [] => return ()
  | group :: groups => do
    if ← enters gate "action" ctx (groupLabel group) group then x.runActionGroup ctx group
    runSortedActions x gate ctx groups

/-- Runs groups of actions. -/
def runActions (x : Executor) (gate : Gate) (ctx : StepContext) (groups : Option Json) :
    Stage Unit :=
  x.runSortedActions gate ctx (sortedGroups groups)

/-! ## Assertions -/

/-- Checks assertions one after another, up to the first that does not hold. -/
def checkAll : List AssertionItem → Stage Unit
  | [] => return ()
  | a :: rest => do
    Stage.log (← Stage.ofExcept a.check)
    checkAll rest

/-- Resolves, reads and checks the assertions of a group. -/
def runAsserts (x : Executor) (ctx : StepContext) (asserts : Option Json) : Stage Unit :=
  match asserts with
  | none => return ()
  | some template => do
    let resolved ← x.resolve ctx template
    checkAll (← Stage.ofExcept (AssertionItem.listOfJson (some resolved)))

/-- Runs the instances of a group of assertions; `several` is whether there is more than one. -/
def runAssertInstances (x : Executor) (gate : Gate) (ctx : StepContext) (label : String)
    (several : Bool) : List (Nat × Json) → Stage Unit
  | [] => return ()
  | (index, group) :: rest => do
    let name := if several then s!"{label} (Loop {index})" else label
    if ← enters gate "assertion" ctx name group then
      x.runActions gate ctx (group.get? "beforeAssert")
      x.runAsserts ctx (group.get? "assert")
    runAssertInstances x gate ctx label several rest

/-- Runs a group of assertions: what goes before its loop, then its instances. -/
def runAssertGroup (x : Executor) (gate : Gate) (ctx : StepContext) (group : Json) :
    Stage Unit := do
  let label := groupLabel group
  x.runActions gate ctx (group.get? "beforeLoop")
  let instances ← x.expandLoop ctx group (Template.assertMarker label)
  x.runAssertInstances gate ctx label (1 < instances.length) instances

/-- Runs sorted groups of assertions. -/
def runSortedAsserts (x : Executor) (gate : Gate) (ctx : StepContext) : List Json → Stage Unit
  | [] => return ()
  | group :: groups => do
    x.runAssertGroup gate ctx group
    runSortedAsserts x gate ctx groups

/-- Runs groups of assertions. -/
def runAssertions (x : Executor) (gate : Gate) (ctx : StepContext) (groups : Option Json) :
    Stage Unit :=
  x.runSortedAsserts gate ctx (sortedGroups groups)

/-! ## Gates -/

/-- Runs the assertions of a dependency: whether they all hold. -/
def dependencyMet (x : Executor) (gate : Gate) (ctx : StepContext) (groups : Option Json) :
    Stage Bool := do
  match ← Stage.outcome (x.runAssertions gate ctx groups) with
  | .ok () => return true
  | .error (.assertion _) => return false
  | .error e => throw e

/-- The gate of a group: its own dependency, within which every group is entered. -/
def nestedGate (x : Executor) : Gate := fun ctx group => do
  x.runActions openGate ctx (group.get? "beforeDependency")
  x.dependencyMet openGate ctx (group.get? "dependency")

end Executor

end CaseScript

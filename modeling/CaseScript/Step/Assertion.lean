import CaseScript.Check.Verdict
import CaseScript.Record.Reader
import CaseScript.Step.Error

/-!
# Step/Assertion — assertions and what they report
-/

namespace CaseScript

/-- An assertion. -/
structure AssertionItem where
  key : Json
  condition : Condition
  value : Json
  description : Option String
deriving Repr

namespace AssertionItem

open Reads in
/-- The fields of an assertion. -/
def fields : List (Field AssertionItem) := [
  .withDefault "key" Reads.value fun v a => { a with key := v },
  .required "condition" (named Condition.ofName) fun v a => { a with condition := v },
  .withDefault "value" Reads.value fun v a => { a with value := v },
  .withDefault "description" (optional text) fun v a => { a with description := v }]

/-- Reads an assertion. -/
def read : Reads AssertionItem := Record.read "AssertionItem" fields ⟨.null, .isEqual, .null, none⟩

/-- What stands for a description that is missing or blank. -/
def missingDescription : String := "Missing Assert Description"

/-- The description of an assertion. -/
def describe (a : AssertionItem) : String :=
  match a.description with
  | some d => if trimmed d = "" then missingDescription else d
  | none => missingDescription

/-- The line of an assertion that holds. -/
def successLine (a : AssertionItem) : String := s!"Success: Assertion passed for '{a.describe}'"

/-- The block of lines of an assertion that does not hold. -/
def failureBlock (a : AssertionItem) (reason : String) : String :=
  s!"\nError: Assertion failed for '{a.describe}'\ncondition: {a.condition.name}"
    ++ s!"\nkey: {a.key.plain}\nvalue: {a.value.plain}\nwith reason: {reason}"

/-- Checks an assertion: the line to log, or the failure. -/
def check (a : AssertionItem) : Except StepError String :=
  let verdict := validate a.key a.value a.condition
  if verdict.passed then .ok a.successLine
  else .error (.assertion (a.failureBlock verdict.reason))

/-- Reads one entry of a list of assertions. The name of its condition is looked at first. -/
def ofJson (v : Json) : Except StepError AssertionItem := do
  if let some (.str name) := v.get? "condition" then
    if let .error m := Condition.ofName name then throw (.configuration m)
  match read (Node.ofJson v) with
  | .ok a => return a
  | .error e => throw (.configuration s!"Invalid assertion: {e.message}")

/-- Reads a list of assertions, or a single one. -/
def listOfJson : Option Json → Except StepError (List AssertionItem)
  | none | some .null => .ok []
  | some (.arr items) => items.mapM ofJson
  | some (.obj es) => [Json.obj es].mapM ofJson
  | some v => .error (.configuration s!"Invalid assert list: {v.text}")

end AssertionItem

end CaseScript

import CaseScript.Record.Reader
import CaseScript.Retry.Policy

/-!
# Retry/Spec — reading the retry entry of an action
-/

namespace CaseScript

open Reads

/-- The fields of a stop condition. -/
def StopCondition.fields : List (Field StopCondition) := [
  .withDefault "largerThanSize" (optional number) fun v c => { c with largerThanSize := v },
  .withDefault "lessThanSize" (optional number) fun v c => { c with lessThanSize := v },
  .withDefault "contentEquals" (optional value) fun v c => { c with contentEquals := v },
  .withDefault "contentContains" (optional value) fun v c => { c with contentContains := v },
  .withDefault "jsonContains" (optional (keyed value)) fun v c => { c with jsonContains := v },
  .withDefault "jsonNotContains" (optional (keyed value))
    fun v c => { c with jsonNotContains := v },
  .withDefault "jsonContainsKey" (optional value) fun v c => { c with jsonContainsKey := v }]

/-- Reads a stop condition. -/
def StopCondition.read : Reads StopCondition :=
  Record.read "StopCondition" StopCondition.fields .none

/-- The fields of a retry entry. -/
def RetrySpec.fields : List (Field RetrySpec) := [
  .withDefault "attempt" (optional (unsigned 32 "u32")) fun v s => { s with attempt := v },
  .withDefault "interval" (optional number) fun v s => { s with interval := v },
  .withDefault "stopCondition" (optional StopCondition.read)
    fun v s => { s with stopCondition := v }]

/-- Reads a retry entry. -/
def RetrySpec.read : Reads RetrySpec := Record.read "RetrySpec" RetrySpec.fields ⟨none, none, none⟩

end CaseScript

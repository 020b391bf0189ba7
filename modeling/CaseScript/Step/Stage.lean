import CaseScript.Act.Basic
import CaseScript.Step.Error

/-!
# Step/Stage — programs that keep a log and may fail

What a stage logged before it failed stays in the log.
-/

namespace CaseScript

/-- The lines of a log. -/
abbrev Log := List String

/-- A part of a step: it calls its collaborators, adds to the log, and succeeds or fails. -/
abbrev Stage (α : Type) := ExceptT StepError (StateT Log Act) α

namespace Stage

variable {α : Type}

/-- Adds a line to the log. -/
def log (line : String) : Stage Unit := modify (· ++ [line])

/-- A program as a stage. -/
def call (act : Act α) : Stage α := liftM act

/-- A program that may fail as a stage. -/
def ofAct (act : Act (Except StepError α)) : Stage α := do
  match ← call act with
  | .ok a => return a
  | .error e => throw e

/-- A result as a stage. -/
def ofExcept : Except StepError α → Stage α
  | .ok a => return a
  | .error e => throw e

/-- Runs a stage and gives its result, whether it succeeds or fails. -/
def outcome (s : Stage α) : Stage (Except StepError α) := fun log => do
  let (r, log) ← s.run log
  return (.ok r, log)

/-- Runs a stage from the beginning of a log. -/
def start (s : Stage α) (log : Log) : Act (Except StepError α × Log) := s.run log

end Stage

end CaseScript

import CaseScript.Record.Reader

/-!
# Step/Spec — steps as they are written

A step is an object with a number and a name; every other entry belongs to its definition.
-/

namespace CaseScript

/-- A step: its number, its name, and the entries of its definition. -/
structure StepSpec where
  id : Nat
  name : String
  definition : Entries
deriving Repr

namespace StepSpec

open Reads in
/-- The fields of a step besides its definition. -/
def fields : List (Field StepSpec) := [
  .required "id" (unsigned 64 "u64") fun v s => { s with id := v },
  .required "name" text fun v s => { s with name := v }]

/-- Reads a step. -/
def read : Reads StepSpec :=
  Record.readOpen "StepSpec" fields
    (fun key v s => { s with definition := s.definition.insert key v }) ⟨0, "", []⟩

end StepSpec

end CaseScript

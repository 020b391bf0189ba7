import CaseScript.Source.Catalog
import CaseScript.Step.Executor

/-!
# Case/Config — the configuration of a run
-/

namespace CaseScript

/-- What all cases of a run share. -/
structure RunConfig where
  /-- How long a request may take with all its attempts, in seconds. -/
  requestTimeout : Nat
  /-- Services with their base addresses by profile. -/
  baseUrls : Keyed (Keyed String)
  /-- The addresses of databases by connection name. -/
  databases : Keyed String
  /-- Configured values. -/
  globals : Entries
  /-- Profiles with their variables. -/
  profileVariables : Keyed Entries
  /-- Files with their contents. -/
  externalFiles : Keyed String
  /-- How many cases may run at the same time. -/
  parallelism : Nat
  continueOnFailure : Bool
deriving Repr

namespace RunConfig

/-- The configuration that goes without saying. -/
def standard : RunConfig := ⟨30, [], [], [], [], [], 1, false⟩

open Reads in
/-- The fields of a configuration. -/
def fields : List (Field RunConfig) := [
  .withDefault "request_timeout" (unsigned 64 "u64") fun v c => { c with requestTimeout := v },
  .withDefault "base_urls" (keyed (keyed text)) fun v c => { c with baseUrls := v },
  .withDefault "databases" (keyed text) fun v c => { c with databases := v },
  .withDefault "globals" (keyed value) fun v c => { c with globals := v },
  .withDefault "profile_variables" (keyed (keyed value)) fun v c =>
    { c with profileVariables := v },
  .withDefault "external_files" (keyed text) fun v c => { c with externalFiles := v },
  .withDefault "parallelism" (unsigned 64 "usize") fun v c => { c with parallelism := v },
  .withDefault "continue_on_failure" bool fun v c => { c with continueOnFailure := v }]

/-- Reads a configuration. -/
def read : Reads RunConfig := Record.read "RunnerConfig" fields standard

/-- The deadline of a request in seconds, which is never zero. -/
def timeoutSeconds (c : RunConfig) : Nat := max c.requestTimeout 1

/-- The settings of the steps. -/
def settings (c : RunConfig) : Settings := ⟨1000 * c.timeoutSeconds, c.baseUrls⟩

/-- The catalog that the configuration holds. -/
def catalog (c : RunConfig) : FixedCatalog := ⟨c.globals, c.profileVariables, c.externalFiles⟩

end RunConfig

end CaseScript

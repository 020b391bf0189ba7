import CaseScript.Step.Context
import CaseScript.Store.Access

/-!
# Source/Catalog — the values that are not test data

A catalog answers for the configuration, the scenario, files and the variables of profiles. It is
either given with the configuration or read from tables.
-/

namespace CaseScript

/-- The profile that is asked last. -/
def globalProfile : String := "GLOBAL"

/-- Variables and files that are given with the configuration. -/
structure FixedCatalog where
  config : Entries
  /-- Profiles with their variables. -/
  profiles : Keyed Entries
  files : Keyed String
deriving Repr

/-- Where values other than test data come from. -/
inductive Catalog where
  | fixed (c : FixedCatalog)
  /-- Tables behind a connection, beside configured values. -/
  | tables (connection : String) (config : Entries)
deriving Repr

namespace Catalog

/-- The statement that reads a scenario. -/
def scenarioSql : String :=
  "SELECT to_jsonb(a) FROM auto_case_audit a WHERE \"runId\" = $1 AND \"caseId\" = $2"

/-- The statement that reads a file. -/
def fileSql : String := "SELECT content FROM auto_case_xmlfile WHERE name = $1"

/-- The statement that reads a variable. -/
def variableSql : String :=
  "SELECT \"value\" FROM auto_system_variable WHERE profile = $1 AND config_key = $2 LIMIT 1"

/-- A configured value. -/
def configValue (c : Catalog) (key : String) : Act (Except StoreError (Option Json)) :=
  match c with
  | fixed c => return .ok (c.config.get? key)
  | tables _ config => return .ok (config.get? key)

/-- A column of the scenario. -/
def scenarioColumn (c : Catalog) (ctx : StepContext) (column : String) :
    Act (Except StoreError (Option Json)) :=
  match c, ctx.scenario.get? column with
  | _, some v => return .ok (some v)
  | fixed _, none => return .ok none
  | tables connection _, none => do
    match ← cellQuery connection scenarioSql (StoreHandle.caseParams ctx.key) with
    | .ok row => return .ok (row.bind fun v => v.get? column)
    | .error e => return .error e

/-- A file. -/
def file (c : Catalog) (name : String) : Act (Except StoreError (Option Json)) :=
  match c with
  | fixed c => return .ok ((c.files.get? name).map .str)
  | tables connection _ => cellQuery connection fileSql [.str name]

/-- A variable of a profile. -/
def profileVariable (c : Catalog) (profile name : String) : Act (Except StoreError (Option Json)) :=
  match c with
  | fixed c => return .ok ((c.profiles.get? profile).bind (Keyed.get? name))
  | tables connection _ => cellQuery connection variableSql [.str profile, .str name]

/-- The value of a key from a source other than test data. -/
def lookup (c : Catalog) (ctx : StepContext) (kind : SourceKind) (key : String) :
    Act (Except StoreError (Option Json)) :=
  match kind with
  | .data => return .ok none
  | .config => c.configValue key
  | .scenario => c.scenarioColumn ctx key
  | .xml => c.file key
  | .global => c.profileVariable globalProfile key
  | .component => do
    match ← c.profileVariable ctx.profile key with
    | .ok none => c.profileVariable globalProfile key
    | r => return r

end Catalog

end CaseScript

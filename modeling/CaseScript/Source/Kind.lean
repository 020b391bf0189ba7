import CaseScript.Text.Search

/-!
# Source/Kind — where the value of a placeholder comes from
-/

namespace CaseScript

/-- A source of values. -/
inductive SourceKind where
  /-- The test data of the case. -/
  | data
  /-- The values of the configuration. -/
  | config
  /-- A column of the scenario. -/
  | scenario
  /-- A file by its name. -/
  | xml
  /-- A variable of the global profile. -/
  | global
  /-- A variable of the profile of the region and environment, else of the global one. -/
  | component
deriving DecidableEq, Repr, Inhabited

namespace SourceKind

/-- The name of a source. -/
def name : SourceKind → String
  | data => "Data"
  | config => "Config"
  | scenario => "Scenario"
  | xml => "Xml"
  | global => "Global"
  | component => "Component"

/-- The source with a name, without regard to case and to white space around it, or what is said of
a name that no source has. -/
def ofName (s : String) : Except String SourceKind :=
  match String.ofList (Text.lowerAscii (Text.trim s.toList)) with
  | "data" | "testdata" => .ok data
  | "config" => .ok config
  | "scenario" => .ok scenario
  | "xml" | "file" => .ok xml
  | "global" => .ok global
  | "component" => .ok component
  | _ => .error s!"Unknown sourceType '{s}'"

end SourceKind

end CaseScript

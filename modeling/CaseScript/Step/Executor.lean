import CaseScript.Step.Stage
import CaseScript.Template.Loop

/-!
# Step/Executor — what all steps of a run share
-/

namespace CaseScript

/-- The settings of a run. -/
structure Settings where
  /-- How long a request may take with all its attempts, in milliseconds. -/
  requestTimeout : Nat
  /-- Services with their base addresses by profile. -/
  baseUrls : Keyed (Keyed String)
deriving Repr

/-- The base address of a service: that of the profile, else the global one. Case counts in the
service but not in the profile. -/
def Settings.baseUrl? (s : Settings) (service profile : String) : Option String :=
  (s.baseUrls.get? service).bind fun profiles =>
    let find (wanted : String) : Option String :=
      (profiles.find? fun e => sameLetters e.1 wanted).map (·.2)
    (find profile).or (find globalProfile)

/-- The databases that are configured: connections by name, in lower case, and an address for all
others. -/
structure Connections where
  urls : Keyed String
  fallback : Option String
deriving Repr

namespace Connections

/-- A connection name as it is looked up. -/
def plainName (name : String) : String := String.ofList (Unicode.lower name.toList)

/-- The configured databases; names are taken without regard to case. -/
def ofConfig (databases : Keyed String) (fallback : Option String) : Connections :=
  ⟨Keyed.ofPairs (databases.map fun (k, v) => (plainName k, v)), fallback⟩

/-- The address of a connection. -/
def url (c : Connections) (connection : String) : Except QueryError String :=
  match (c.urls.get? (plainName connection)).or c.fallback with
  | some url => .ok url
  | none => .error (.unknownConnection connection)

end Connections

/-- What steps need to run: sources, settings, and the databases that may be reached, unless any
may. -/
structure Executor where
  sources : Sources
  settings : Settings
  connections : Option Connections
deriving Repr

namespace Executor

/-- Runs a query of an action. -/
def query (x : Executor) (q : Query) (g : Guard) : Act (Outcome (Except QueryError (List Row))) :=
  match x.connections with
  | none => Act.query q g
  | some c =>
    match c.url q.connection with
    | .error e => return .done (.error e)
    | .ok _ => Act.query q g

/-- Fills a template. -/
def resolve (x : Executor) (ctx : StepContext) (template : Json) : Stage Json :=
  Stage.ofAct (x.sources.resolve ctx .none template)

/-- The instances of a template with a loop. -/
def expandLoop (x : Executor) (ctx : StepContext) (template : Json) (marker : String) :
    Stage (List (Nat × Json)) :=
  Stage.ofAct (x.sources.expandLoop ctx template marker)

/-- Sets a key of the test data; `fault` is what is said if that fails. -/
def store (x : Executor) (ctx : StepContext) (key : String) (value : Json) (fault : String) :
    Stage Unit := do
  match ← Stage.call (x.sources.store.merge ctx.key key value) with
  | .ok () => return ()
  | .error e => throw (.action s!"{fault}: {e.message}")

end Executor

end CaseScript

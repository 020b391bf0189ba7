import CaseScript.Http.Action
import CaseScript.Retry.Loop
import CaseScript.Sql.Action
import CaseScript.Step.Executor

/-!
# Step/Action — statements and requests

An action is resolved, read, logged, tried as its policy says, and its result stored. A statement
stores what it is asked to; a request always stores its response, a failed one the response that
stands in for it.
-/

namespace CaseScript

/-- What the test of a step asks for. -/
inductive ActionKind where
  | none
  | http (template : Json)
  | database (templates : List Json)
deriving Repr

/-- The kind of a test: a list, or an object with a statement, is work for the database, and any
other object a request. -/
def ActionKind.classify : Option Json → Except StepError ActionKind
  | .none | some .null => .ok .none
  | some (.arr items) => .ok (.database items)
  | some (.obj es) =>
    .ok (if Keyed.hasKey es "sql" then .database [.obj es] else .http (.obj es))
  | some v => .error (.configuration s!"Unsupported test definition: {v.text}")

namespace Executor

/-! ## Statements -/

/-- How a failed query fails its action. -/
def queryFault (e : QueryError) : StepError :=
  match e with
  | .unknownConnection _ => .configuration e.message
  | .cancelled => .cancelled
  | e => .action e.message

/-- Runs a resolved database action to its rows. -/
def queryRows (x : Executor) (connection : String) (a : DbAction) : Stage (List Row) := do
  let policy := RetryPolicy.forDatabase a.retry
  let attempts := retry policy none (x.query ⟨connection, a.sql, a.params⟩) QueryError.isRetryable
    policy.acceptsRows
  match ← Stage.call attempts with
  | .done (.ok rows) => return rows
  | .done (.error e) => throw (queryFault e)
  | .cancelled | .expired => throw .cancelled

/-- Reads a resolved template as a database action. -/
def readDbAction (v : Json) : Except StepError DbAction :=
  (DbAction.read (Node.ofJson v)).mapError fun e =>
    .configuration s!"Invalid database action: {e.message}"

/-- Runs a database action. -/
def runDbAction (x : Executor) (ctx : StepContext) (template : Json) : Stage Json := do
  let a ← Stage.ofExcept (readDbAction (← x.resolve ctx template))
  let connection := a.connectionName ctx.profile
  Stage.log s!"Execute SQL on '{connection}': {a.sql}"
  let rows ← x.queryRows connection a
  let value ← Stage.ofExcept ((Sql.foldRows (.ofSql a.sql) rows).mapError .action)
  Stage.log s!"* Result: {value.text}"
  match a.storedKey with
  | none | some "" => return value
  | some key =>
    x.store ctx key value s!"Failed to store '{key}'"
    Stage.log s!"* Stored result as '{key}'"
    return value

/-- Runs database actions one after another. -/
def runDbActions (x : Executor) (ctx : StepContext) : List Json → Stage Unit
  | [] => return ()
  | t :: ts => do
    let _ ← x.runDbAction ctx t
    runDbActions x ctx ts

/-! ## Requests -/

/-- Reads a resolved template as a request. -/
def readHttpAction (v : Json) : Except StepError HttpAction :=
  (HttpAction.read (Node.ofJson v)).mapError fun e =>
    .configuration s!"Invalid HTTP action: {e.message}"

/-- The address of a request: its own, else that of its service. -/
def baseUrlOf (x : Executor) (ctx : StepContext) (a : HttpAction) : Except StepError String :=
  let own := a.baseUrl.filter (· ≠ "")
  let configured := a.serviceName.bind fun s => x.settings.baseUrl? s ctx.profile
  match own.or configured with
  | some url => .ok url
  | none => .error (.configuration "Error: baseUrl is null")

/-- The line that begins the log of a request. -/
def ruler : String := "------------------------------------------------------------------"

/-- Logs a request. -/
def logRequest (ctx : StepContext) (a : HttpAction) (r : Request) : Stage Unit := do
  Stage.log ruler
  Stage.log s!"API Trigger for Step: '{ctx.stepName}'"
  Stage.log s!"BaseUrl: {r.baseUrl}"
  Stage.log s!"Path: {r.expandedPath}"
  Stage.log s!"Method: {r.method.name}"
  Stage.log s!"Request: {a.request.text}"

/-- Sends a request within its deadline. -/
def sendRequest (x : Executor) (a : HttpAction) (r : Request) : Stage Response := do
  let policy := RetryPolicy.forHttp a.retry
  let timeout := x.settings.requestTimeout
  let deadline := (← Stage.call Act.now) + timeout
  let attempts := retry policy (some deadline) (Act.send r) TransportError.isRetryable
    fun response => policy.acceptsBody response.body
  match ← Stage.call attempts with
  | .done (.ok response) => return response
  | .done (.error .cancelled) | .cancelled => throw .cancelled
  | .done (.error e) => return e.toResponse
  | .expired => throw (.timeout (timeout / 1000))

/-- The key of the test data that receives the response of a step. -/
def responseKey (ctx : StepContext) : String := s!"response{stepText ctx.stepId}"

/-- Makes a request. -/
def runHttpAction (x : Executor) (ctx : StepContext) (template : Json) : Stage Response := do
  let a ← Stage.ofExcept (readHttpAction (← x.resolve ctx template))
  let r := a.toRequest (← Stage.ofExcept (x.baseUrlOf ctx a))
  logRequest ctx a r
  let response ← x.sendRequest a r
  Stage.log s!"* StatusCode: {response.status}"
  Stage.log s!"* Response: {response.body}"
  x.store ctx (responseKey ctx) response.toTestData "Failed to save response"
  return response

/-- Runs the test of a step. -/
def runTest (x : Executor) (ctx : StepContext) (test : Option Json) : Stage Unit := do
  match ← Stage.ofExcept (ActionKind.classify test) with
  | .none => return ()
  | .http template => do
    let _ ← x.runHttpAction ctx template
    return ()
  | .database templates => x.runDbActions ctx templates

end Executor

end CaseScript

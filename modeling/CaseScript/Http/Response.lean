import CaseScript.Json.Reader
import CaseScript.Json.Text
import CaseScript.Record.Reader

/-!
# Http/Response — responses, and what stands in for one

A call that fails still yields a response, so that assertions always see the same shape: its status
tells the kind of failure, and its body is an object with the message.
-/

namespace CaseScript

/-- A response. -/
structure Response where
  status : Nat
  /-- Header names with their values, sorted by name. -/
  headers : List (String × String)
  body : String
deriving Repr, Inhabited

/-- The response as test data. A body that is no document stays text. -/
def Response.toTestData (r : Response) : Json :=
  .obj [
    ("responseBody", (Json.parse? r.body).getD (.str r.body)),
    ("responseHeaders", .obj (Keyed.ofPairs (r.headers.map fun (k, v) => (k, .str v)))),
    ("statusCode", .ofNat r.status)]

open Reads in
/-- The fields of a response. -/
def Response.fields : List (Field Response) := [
  .required "status" (unsigned 16 "u16") fun v r => { r with status := v },
  .required "headers" (keyed text) fun v r => { r with headers := v },
  .required "body" text fun v r => { r with body := v }]

/-- Reads a response. -/
def Response.read : Reads Response := Record.read "ApiResponse" fields ⟨0, [], ""⟩

/-- Why a call failed. -/
inductive TransportError where
  | timeout (message : String)
  | unresolvedHost (message : String)
  | io (message : String)
  | other (message : String)
  | cancelled
deriving DecidableEq, Repr

namespace TransportError

/-- The text of a failure. -/
def message : TransportError → String
  | timeout m => s!"Request timed out: {m}"
  | unresolvedHost m => s!"Target host not found: {m}"
  | io m => s!"I/O error: {m}"
  | other m => s!"An unexpected error occurred: {m}"
  | cancelled => "Request was cancelled"

/-- Whether the call may be tried again. -/
def isRetryable : TransportError → Bool
  | timeout _ | io _ => true
  | _ => false

/-- The status that stands for a failure. -/
def status : TransportError → Nat
  | timeout _ => 408
  | unresolvedHost _ => 404
  | _ => 500

/-- The response that stands in for a failed call. -/
def toResponse (e : TransportError) : Response :=
  ⟨e.status, [], (Json.obj [("error", .str e.message)]).text⟩

end TransportError

end CaseScript

import CaseScript.Http.Response
import CaseScript.Proofs.Json.Quoted

/-!
# Proofs/Http/StandIn — what stands in for a response reaches the test data whole

A call that fails leaves a response whose body is written as text and read again before it becomes test
data.  Nothing is lost on the way, whatever the message is: the test data has the shape that assertions
expect, with the message as it is (`toTestData_toResponse`).
-/

namespace CaseScript.TransportError

/-- The body that stands in for a response is a document, whatever the message. -/
theorem parse?_body_toResponse (e : TransportError) :
    Json.parse? e.toResponse.body = some (.obj [("error", .str e.message)]) :=
  Json.parse?_text_entry "error" e.message

/-- **A call that fails leaves its message and its kind in the test data**, and nothing else. -/
theorem toTestData_toResponse (e : TransportError) :
    e.toResponse.toTestData = .obj [
      ("responseBody", .obj [("error", .str e.message)]),
      ("responseHeaders", .obj []),
      ("statusCode", .ofNat (match e with
        | timeout _ => 408
        | unresolvedHost _ => 404
        | _ => 500))] := by
  have hstatus : e.toResponse.status = match e with
      | timeout _ => 408
      | unresolvedHost _ => 404
      | _ => 500 := by
    cases e <;> rfl
  rw [Response.toTestData, parse?_body_toResponse, hstatus]
  rfl

end CaseScript.TransportError

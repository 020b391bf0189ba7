import CaseScript.Http.Request
import CaseScript.Http.Response
import CaseScript.Url.Reader

/-!
# Http/Address — where a request goes
-/

namespace CaseScript

/-- Drops the slashes at the start. -/
def dropSlashes (cs : List Char) : List Char := cs.dropWhile (· = '/')

/-- The address of a request: its path by itself if that is an address, and otherwise below the base
address. -/
def Request.url (r : Request) : Except TransportError Url :=
  let path := r.expandedPath
  if Text.contains [':', '/', '/'] path.toList then
    (Url.parse path.toList).mapError fun e => .other s!"Invalid URL '{path}': {e.message}"
  else
    match Url.parse r.baseUrl.toList with
    | .error e => .error (.other s!"Invalid base URL '{r.baseUrl}': {e.message}")
    | .ok base =>
      if path = "" then .ok base
      else ((base.asFolder).join (dropSlashes path.toList)).mapError fun e =>
        .other s!"Failed to join '{r.baseUrl}' with '{path}': {e.message}"

end CaseScript

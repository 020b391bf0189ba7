import CaseScript.Http.Request
import CaseScript.Retry.Spec

/-!
# Http/Action — the definition of a request
-/

namespace CaseScript

/-- What a request carries. -/
structure RequestSpec where
  headers : Entries
  /-- The parameters of the query. -/
  params : Entries
  /-- Values for the slots of the path. -/
  pathParams : Entries
  body : Option Json
  /-- A session token. -/
  cookie : Option String
deriving Repr

namespace RequestSpec

/-- A request that carries nothing. -/
def empty : RequestSpec := ⟨[], [], [], none, none⟩

open Reads in
/-- The fields of what a request carries. -/
def fields : List (Field RequestSpec) := [
  .withDefault "headers" (keyed value) fun v r => { r with headers := v },
  .withDefault "params" (keyed value) fun v r => { r with params := v },
  .withDefault "pathParams" (keyed value) fun v r => { r with pathParams := v },
  .withDefault "body" (optional value) fun v r => { r with body := v },
  .withDefault "cookie" (optional text) fun v r => { r with cookie := v }]

/-- Reads what a request carries. -/
def read : Reads RequestSpec := Record.read "RequestSpec" fields empty

/-- The text for the log, its entries in the order of the fields. -/
def text (r : RequestSpec) : String :=
  (Json.obj [
    ("headers", .obj r.headers), ("params", .obj r.params), ("pathParams", .obj r.pathParams),
    ("body", r.body.getD .null), ("cookie", (r.cookie.map Json.str).getD .null)]).text

end RequestSpec

/-- A request to make. -/
structure HttpAction where
  /-- The service whose configured address is used if none is given. -/
  serviceName : Option String
  baseUrl : Option String
  path : String
  method : HttpMethod
  request : RequestSpec
  retry : Option RetrySpec
deriving Repr

namespace HttpAction

open Reads in
/-- The fields of a request to make. -/
def fields : List (Field HttpAction) := [
  .withDefault "serviceName" (optional text) fun v a => { a with serviceName := v },
  .withDefault "baseUrl" (optional text) fun v a => { a with baseUrl := v },
  .withDefault "path" text fun v a => { a with path := v },
  .withDefault "method" (named HttpMethod.ofName) fun v a => { a with method := v },
  .withDefault "request" RequestSpec.read fun v a => { a with request := v },
  .withDefault "retry" (optional RetrySpec.read) fun v a => { a with retry := v }]

/-- Reads a request to make. -/
def read : Reads HttpAction :=
  Record.read "HttpAction" fields ⟨none, none, "", .get, .empty, none⟩

/-- The request at a base address. An empty cookie is none. -/
def toRequest (a : HttpAction) (baseUrl : String) : Request where
  baseUrl := baseUrl
  path := a.path
  method := a.method
  headers := a.request.headers.mapValues Json.plain
  query := a.request.params.mapValues Json.plain
  pathParams := a.request.pathParams.mapValues Json.plain
  body := .infer a.request.body
  cookie := a.request.cookie.filter (· ≠ "")

end HttpAction

end CaseScript

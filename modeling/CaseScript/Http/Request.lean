import CaseScript.Json.Text
import CaseScript.Text.Search

/-!
# Http/Request — requests

A request keeps its path as a template with `name` slots in single braces; `expandedPath` puts the
path parameters in.
-/

namespace CaseScript

/-- The method of a request. -/
inductive HttpMethod where
  | get
  | post
  | put
  | delete
  | patch
deriving DecidableEq, Repr, Inhabited

namespace HttpMethod

/-- Every method. -/
def all : List HttpMethod := [get, post, put, delete, patch]

/-- The name of a method. -/
def name : HttpMethod → String
  | get => "GET"
  | post => "POST"
  | put => "PUT"
  | delete => "DELETE"
  | patch => "PATCH"

/-- A name as it is looked up: without white space around it, in upper case. -/
def plainName (s : String) : String := String.ofList (Text.upperAscii (Text.trim s.toList))

/-- The method with a name, or what is said of a name that no method has. -/
def ofName (s : String) : Except String HttpMethod :=
  let wanted := plainName s
  match all.find? fun m => m.name = wanted with
  | some m => .ok m
  | none => .error s!"Unsupported HTTP method '{wanted}'"

end HttpMethod

/-- The body of a request, by its content type. -/
inductive RequestBody where
  | empty
  | json (v : Json)
  | xml (s : String)
  | text (s : String)
deriving Repr

namespace RequestBody

/-- Whether a text is one of angle brackets with a closing tag. -/
def looksLikeXml (cs : List Char) : Bool :=
  let cs := Text.trim cs
  ['<'].isPrefixOf cs && ['>'].isSuffixOf cs && Text.contains ['<', '/'] cs

/-- The body for a value: objects and arrays as they are, text as markup or plain text once escaped
quotes are undone, and other values as text. -/
def infer : Option Json → RequestBody
  | none | some .null => .empty
  | some (.obj es) => .json (.obj es)
  | some (.arr vs) => .json (.arr vs)
  | some (.str s) =>
    let cs := Text.replace ['\\', '"'] ['"'] s.toList
    if looksLikeXml cs then .xml (String.ofList cs) else .text (String.ofList cs)
  | some v => .text v.text

/-- The text that is sent. -/
def render : RequestBody → String
  | empty => ""
  | json v => v.text
  | xml s | text s => s

/-- The name of the content type. -/
def kind : RequestBody → String
  | empty => "Empty"
  | json _ => "Json"
  | xml _ => "Xml"
  | text _ => "Text"

end RequestBody

/-- A request, ready to be sent. -/
structure Request where
  baseUrl : String
  path : String
  method : HttpMethod
  headers : List (String × String)
  query : List (String × String)
  pathParams : List (String × String)
  body : RequestBody
  cookie : Option String
deriving Repr

/-- The path with each parameter put in, one parameter after another. -/
def Request.expandedPath (r : Request) : String :=
  r.pathParams.foldl (fun path (name, value) =>
    String.ofList (Text.replace ('{' :: (name.toList ++ ['}'])) value.toList path.toList)) r.path

end CaseScript

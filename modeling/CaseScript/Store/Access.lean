import CaseScript.Act.Basic

/-!
# Store/Access — reading and writing test data

Test data is kept in memory or in a table of a database; both answer the same four operations, the
table by queries.
-/

namespace CaseScript

/-- Why test data could not be read or written. -/
inductive StoreError where
  | database (e : QueryError)
  | backend (message : String)
deriving Repr

/-- The text of a failure. -/
def StoreError.message : StoreError → String
  | database e => e.message
  | backend m => s!"Test data store error: {m}"

/-- Where test data is kept. -/
inductive StoreHandle where
  | memory (slot : Slot)
  /-- A table, by the connection that leads to it. -/
  | table (connection : String)
deriving Repr

/-- Runs a query that no cancellation and no deadline ends. -/
def plainQuery (connection sql : String) (params : List Json) :
    Act (Except QueryError (List Row)) := do
  match ← Act.query ⟨connection, sql, params⟩ .none with
  | .done r => return r
  | .cancelled | .expired => return .error .cancelled

/-- The first cell of the first row, unless it is null. -/
def firstCell? : List Row → Option Json
  | ((_, .null) :: _) :: _ => none
  | ((_, v) :: _) :: _ => some v
  | _ => none

/-- Runs a query for one value. -/
def cellQuery (connection sql : String) (params : List Json) :
    Act (Except StoreError (Option Json)) := do
  match ← plainQuery connection sql params with
  | .ok rows => return .ok (firstCell? rows)
  | .error e => return .error (.database e)

/-- Runs a query for its effect. -/
def effectQuery (connection sql : String) (params : List Json) : Act (Except StoreError Unit) := do
  match ← plainQuery connection sql params with
  | .ok _ => return .ok ()
  | .error e => return .error (.database e)

namespace StoreHandle

/-- The statement that reads a document. -/
def documentSql : String :=
  "SELECT \"testData\" FROM auto_case_audit WHERE \"runId\" = $1 AND \"caseId\" = $2"

/-- The statement that reads a part of a document. -/
def partSql : String :=
  "SELECT \"testData\" #> string_to_array($3, '.') FROM auto_case_audit WHERE \"runId\" = $1 AND "
    ++ "\"caseId\" = $2"

/-- The statement that sets a key of a document. -/
def mergeSql : String :=
  "UPDATE auto_case_audit SET \"testData\" = jsonb_set(COALESCE(\"testData\", '\x7b\x7d'::jsonb), "
    ++ "ARRAY[$3::text], $4::text::jsonb, true) WHERE \"runId\" = $1 AND \"caseId\" = $2"

/-- The statement that notes the status of a step. -/
def statusSql : String :=
  "UPDATE auto_case_audit SET \"testDataTrack\" = COALESCE(\"testDataTrack\", '\x7b\x7d'::jsonb)"
    ++ " || jsonb_build_object($3::text, $4::text) WHERE \"runId\" = $1 AND \"caseId\" = $2"

/-- The parameters that name a case. -/
def caseParams (key : CaseKey) : List Json := [.str key.run, .str key.case]

/-- The document of a case. -/
def document (h : StoreHandle) (key : CaseKey) : Act (Except StoreError Entries) :=
  match h with
  | memory slot => do return .ok (← Act.read slot key)
  | table connection => do
    match ← cellQuery connection documentSql (caseParams key) with
    | .ok none => return .ok []
    | .ok (some (.obj es)) => return .ok es
    | .ok (some v) =>
      return .error (.backend s!"testData of case {key.case} is not an object: {v.text}")
    | .error e => return .error e

/-- The part of a document at a path. -/
def part (h : StoreHandle) (key : CaseKey) (path : String) :
    Act (Except StoreError (Option Json)) :=
  match h with
  | memory slot => do return .ok (Store.valueAt? (← Act.read slot key) path)
  | table connection => cellQuery connection partSql (caseParams key ++ [.str path])

/-- Sets a key of a document. -/
def merge (h : StoreHandle) (key : CaseKey) (name : String) (value : Json) :
    Act (Except StoreError Unit) :=
  match h with
  | memory slot => do
    Act.write slot key (.merge name value)
    return .ok ()
  | table connection =>
    effectQuery connection mergeSql (caseParams key ++ [.str name, .str value.text])

/-- Notes the status of a step. -/
def recordStatus (h : StoreHandle) (key : CaseKey) (step : Nat) (label : String) :
    Act (Except StoreError Unit) :=
  match h with
  | memory slot => do
    Act.write slot key (.status step label)
    return .ok ()
  | table connection =>
    effectQuery connection statusSql (caseParams key ++ [.str (stepText step), .str label])

end StoreHandle

end CaseScript

import CaseScript.Retry.Spec
import CaseScript.Unicode.Case

/-!
# Sql/Action — the definition of a database action
-/

namespace CaseScript

/-- A statement to run, and what to do with its result. -/
structure DbAction where
  sql : String
  /-- Which of the databases of a region it is run on. -/
  dbType : Option String
  /-- The key of the test data that receives the result. -/
  storedKey : Option String
  params : List Json
  retry : Option RetrySpec
deriving Repr

namespace DbAction

open Reads in
/-- The fields of a database action. -/
def fields : List (Field DbAction) := [
  .required "sql" text fun v a => { a with sql := v },
  .withDefault "dbType" (optional text) fun v a => { a with dbType := v },
  .withDefault "storedKey" (optional text) fun v a => { a with storedKey := v },
  .withDefault "params" (list value) fun v a => { a with params := v },
  .withDefault "retry" (optional RetrySpec.read) fun v a => { a with retry := v }]

/-- Reads a database action. -/
def read : Reads DbAction := Record.read "DbAction" fields ⟨"", none, none, [], none⟩

/-- The connection of the action under a profile, in lower case. -/
def connectionName (a : DbAction) (profile : String) : String :=
  let dbType := a.dbType.getD "default"
  let name := s!"{profile}-{dbType}"
  String.ofList (Unicode.lower name.toList)

end DbAction

end CaseScript

import CaseScript.Http.Request
import CaseScript.Http.Response
import CaseScript.Sql.Fold
import CaseScript.Store.Memory

/-!
# Act/Basic — programs that call their collaborators

What a test does to the world is a tree of calls: each call is followed by one program for every
answer it may get. Every program ends, since the tree is inductive, and what it does is settled
only when a world answers it (`Act/World`).
-/

namespace CaseScript

/-- A statement, where to run it, and its parameters. -/
structure Query where
  connection : String
  sql : String
  params : List Json
deriving Repr

/-- Why a query failed. -/
inductive QueryError where
  | unknownConnection (name : String)
  | pool (message : String)
  | query (message : String)
  | cancelled
deriving DecidableEq, Repr

namespace QueryError

/-- The text of a failure. -/
def message : QueryError → String
  | unknownConnection name => s!"No database connection configured for '{name}'"
  | pool m => s!"Failed to get database connection: {m}"
  | query m => s!"Query failed: {m}"
  | cancelled => "Database call was cancelled"

/-- Whether the query may be tried again. -/
def isRetryable : QueryError → Bool
  | pool _ => true
  | _ => false

end QueryError

/-- What can end a wait early: a cancellation, and a point of time that it must not pass. -/
structure Guard where
  cancellable : Bool
  /-- In milliseconds. -/
  deadline : Option Nat
deriving DecidableEq, Repr

/-- A wait that nothing ends early. -/
def Guard.none : Guard := ⟨false, .none⟩

/-- A wait that a cancellation ends. -/
def Guard.cancellation : Guard := ⟨true, .none⟩

/-- How something under a guard went. -/
inductive Outcome (α : Type) where
  | done (a : α)
  | cancelled
  | expired
deriving Repr

/-- One of the stores that a run keeps apart. -/
abbrev Slot := Nat

/-- What a program can ask of the world. -/
inductive Call where
  /-- Sends a request. -/
  | send (request : Request) (guard : Guard)
  /-- Runs a query. -/
  | query (q : Query) (guard : Guard)
  /-- Lets time pass, in milliseconds. -/
  | pause (millis : Nat) (guard : Guard)
  /-- Notes that an attempt is about to begin. -/
  | attempt (n : Nat)
  /-- Asks whether the run is cancelled. -/
  | isCancelled
  /-- Asks for the time, in milliseconds. -/
  | now
  /-- Asks for a document. -/
  | read (slot : Slot) (key : CaseKey)
  /-- Changes a document. -/
  | write (slot : Slot) (key : CaseKey) (change : Change)

/-- What the world answers. -/
def Call.Answer : Call → Type
  | send .. => Outcome (Except TransportError Response)
  | query .. => Outcome (Except QueryError (List Row))
  | pause .. => Outcome Unit
  | attempt _ => Unit
  | isCancelled => Bool
  | now => Nat
  | read .. => Entries
  | write .. => Unit

/-- A program with a result. -/
inductive Act (α : Type) : Type where
  | done (a : α)
  | ask (c : Call) (next : c.Answer → Act α)

namespace Act

variable {α β : Type}

/-- One program after another. -/
def bind : Act α → (α → Act β) → Act β
  | done a, k => k a
  | ask c next, k => ask c fun answer => (next answer).bind k

instance : Monad Act where
  pure := done
  bind := bind

/-- Sends a request. -/
def send (r : Request) (g : Guard) : Act (Outcome (Except TransportError Response)) :=
  ask (.send r g) done

/-- Runs a query. -/
def query (q : Query) (g : Guard) : Act (Outcome (Except QueryError (List Row))) :=
  ask (.query q g) done

/-- Lets time pass. -/
def pause (millis : Nat) (g : Guard) : Act (Outcome Unit) := ask (.pause millis g) done

/-- Notes that an attempt is about to begin. -/
def attempt (n : Nat) : Act Unit := ask (.attempt n) done

/-- Whether the run is cancelled. -/
def isCancelled : Act Bool := ask .isCancelled done

/-- The time in milliseconds. -/
def now : Act Nat := ask .now done

/-- A document. -/
def read (slot : Slot) (key : CaseKey) : Act Entries := ask (.read slot key) done

/-- Changes a document. -/
def write (slot : Slot) (key : CaseKey) (c : Change) : Act Unit := ask (.write slot key c) done

end Act

end CaseScript

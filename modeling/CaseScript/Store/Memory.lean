import CaseScript.Json.Path
import CaseScript.Text.Digits
import CaseScript.Text.Search

/-!
# Store/Memory — test data held in memory

A store gives every case of every run its document, empty where nothing was written. Two writes
exist: one sets a key of a document, the other notes the status of a step under `statusKey`. Each
changes one document only.
-/

namespace CaseScript

/-- A case of a run. -/
structure CaseKey where
  run : String
  case : String
deriving DecidableEq, Repr

/-- The documents of all cases. -/
abbrev Store := CaseKey → Entries

/-- The key under which the statuses of steps are noted. -/
def statusKey : String := "testDataTrack"

/-- The text of a step's number. -/
def stepText (step : Nat) : String := String.ofList (decimalDigits step)

/-- A change of a document. -/
inductive Change where
  /-- Sets a key. -/
  | merge (key : String) (value : Json)
  /-- Notes the status of a step. -/
  | status (step : Nat) (label : String)
deriving Repr

/-- The document after a change. Statuses are gathered in one object, begun anew if something else
stands in its place. -/
def Change.apply (c : Change) (document : Entries) : Entries :=
  match c with
  | merge key value => document.insert key value
  | status step label =>
    let noted : Entries := match document.get? statusKey with
      | some (.obj es) => es
      | _ => []
    document.insert statusKey (.obj (noted.insert (stepText step) (.str label)))

namespace Store

/-- The store without documents. -/
def empty : Store := fun _ => []

/-- The store with another document for one case. -/
def set (s : Store) (at_ : CaseKey) (document : Entries) : Store :=
  fun k => if k = at_ then document else s k

/-- The store after a change to one document. -/
def change (s : Store) (at_ : CaseKey) (c : Change) : Store := s.set at_ (c.apply (s at_))

/-- The part of a document at a path: its first segment is a key as it stands, and the rest is
followed from there. -/
def valueAt? (document : Entries) (path : String) : Option Json :=
  let (root, rest) := cutRoot path
  (document.get? root).bind fun v => v.at? rest

end Store

end CaseScript

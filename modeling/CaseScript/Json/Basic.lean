import CaseScript.Binary64.Decimal
import CaseScript.Text.Keyed
import CaseScript.Text.Search

/-!
# Json/Basic — dynamic values

Test data, definitions and rows are dynamic values. A number is either a whole number within 64 bits
or a double; an object lists its entries by increasing key (`Json.Sorted`), which `insert` keeps and
every reader establishes, so equal contents have one spelling.
-/

namespace CaseScript

/-- A number: a whole number from `-2^63` to `2^64 - 1`, or a double. -/
inductive Number where
  | whole (n : Int)
  | real (x : Binary64)
deriving DecidableEq, Repr, Inhabited

/-- The double nearest to the number. -/
def Number.toBinary64 : Number → Binary64
  | .whole n => .ofInt n
  | .real x => x

/-- A dynamic value. -/
inductive Json where
  | null
  | bool (b : Bool)
  | num (n : Number)
  | str (s : String)
  | arr (items : List Json)
  | obj (entries : List (String × Json))
deriving Repr, Inhabited

/-- The entries of an object. -/
abbrev Entries := Keyed Json

namespace Json

/-- A whole number as a value. -/
def ofNat (n : Nat) : Json := .num (.whole n)

/-- The empty object. -/
def empty : Json := .obj []

/-- Whether the value is an object or an array. -/
def isContainer : Json → Bool
  | .arr _ | .obj _ => true
  | _ => false

/-- The value under a key; nothing if the value is no object or lacks the key. -/
def get? (v : Json) (key : String) : Option Json :=
  match v with
  | .obj es => Keyed.get? key es
  | _ => none

mutual

/-- Objects are sorted by strictly increasing key, here and in every part. -/
def Sorted : Json → Prop
  | .arr items => AllSorted items
  | .obj entries => (Keyed.keys entries).Pairwise (· < ·) ∧ EntriesSorted entries
  | _ => True

/-- Every value of the list is sorted. -/
def AllSorted : List Json → Prop
  | [] => True
  | v :: vs => v.Sorted ∧ AllSorted vs

/-- Every value of the entries is sorted. -/
def EntriesSorted : Entries → Prop
  | [] => True
  | (_, v) :: es => v.Sorted ∧ EntriesSorted es

end

end Json

end CaseScript

/-!
# Text/Keyed — values under names, in the order of the names

A keyed list has strictly increasing keys if it is built by `insert` and `ofPairs`, so equal
contents have one spelling.
-/

namespace CaseScript

/-- Values under names. -/
abbrev Keyed (α : Type) := List (String × α)

namespace Keyed

variable {α β : Type}

/-- The value under a key. -/
def get? (key : String) : Keyed α → Option α
  | [] => none
  | (k, v) :: rest => if k = key then some v else get? key rest

/-- Whether a key is present. -/
def hasKey (es : Keyed α) (key : String) : Bool := (es.get? key).isSome

/-- Sets a key, in its place among the sorted ones. -/
def insert (key : String) (value : α) : Keyed α → Keyed α
  | [] => [(key, value)]
  | (k, v) :: rest =>
    if key < k then (key, value) :: (k, v) :: rest
    else if key = k then (key, value) :: rest
    else (k, v) :: insert key value rest

/-- The entries without a key. -/
def erase (es : Keyed α) (key : String) : Keyed α := es.filter (·.1 ≠ key)

/-- Sorted entries from pairs in any order; of two pairs with one key the later counts. -/
def ofPairs (pairs : List (String × α)) : Keyed α :=
  pairs.foldl (fun es (k, v) => es.insert k v) []

/-- The keys, in order. -/
def keys (es : Keyed α) : List String := es.map (·.1)

/-- The entries with every value replaced. -/
def mapValues (f : α → β) (es : Keyed α) : Keyed β := es.map fun (k, v) => (k, f v)

end Keyed

end CaseScript

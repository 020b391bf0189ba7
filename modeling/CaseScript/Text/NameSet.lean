/-!
# Text/NameSet — names in order, each once
-/

namespace CaseScript

/-- Adds a name to a sorted list that may hold it already. -/
def insertName (name : String) : List String → List String
  | [] => [name]
  | n :: ns =>
    if name < n then name :: n :: ns
    else if name = n then n :: ns
    else n :: insertName name ns

/-- The names of a list, sorted and each once. -/
def nameSet (names : List String) : List String := names.foldr insertName []

end CaseScript

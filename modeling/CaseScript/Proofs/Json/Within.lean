import CaseScript.Json.Basic

/-!
# Proofs/Json/Within — the strings and the keys of a value

All the strings that stand in a value, in whatever depth, and all the keys of its objects.
-/

namespace CaseScript.Json

mutual

/-- The strings of a value, wherever they stand in it. -/
def strings : Json → List String
  | .str s => [s]
  | .arr items => stringsOfItems items
  | .obj entries => stringsOfEntries entries
  | _ => []

/-- The strings of the items of a list. -/
def stringsOfItems : List Json → List String
  | [] => []
  | v :: vs => v.strings ++ stringsOfItems vs

/-- The strings of the values of entries. -/
def stringsOfEntries : List (String × Json) → List String
  | [] => []
  | (_, v) :: es => v.strings ++ stringsOfEntries es

end

mutual

/-- The keys of a value, wherever they stand in it. -/
def keysWithin : Json → List String
  | .arr items => keysOfItems items
  | .obj entries => keysOfEntries entries
  | _ => []

/-- The keys of the items of a list. -/
def keysOfItems : List Json → List String
  | [] => []
  | v :: vs => v.keysWithin ++ keysOfItems vs

/-- The keys of entries, and those of their values. -/
def keysOfEntries : List (String × Json) → List String
  | [] => []
  | (k, v) :: es => k :: (v.keysWithin ++ keysOfEntries es)

end

theorem mem_stringsOfItems {s : String} {items : List Json} :
    s ∈ stringsOfItems items ↔ ∃ v ∈ items, s ∈ v.strings := by
  induction items with
  | nil => exact iff_of_false List.not_mem_nil nofun
  | cons v vs ih => simp [stringsOfItems, ih]

theorem mem_stringsOfEntries {s : String} {entries : List (String × Json)} :
    s ∈ stringsOfEntries entries ↔ ∃ e ∈ entries, s ∈ e.2.strings := by
  induction entries with
  | nil => exact iff_of_false List.not_mem_nil nofun
  | cons e es ih =>
    obtain ⟨k, v⟩ := e
    simp [stringsOfEntries, ih]

end CaseScript.Json

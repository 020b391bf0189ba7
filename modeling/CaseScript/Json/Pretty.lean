import CaseScript.Json.Text

/-!
# Json/Pretty — the written form of a value on several lines
-/

namespace CaseScript.Json

/-- A new line at a level. -/
def newLine (level : Nat) : List Char := '\n' :: List.replicate (2 * level) ' '

mutual

/-- The characters of a value whose first line stands at a level. -/
def prettyChars (level : Nat) : Json → List Char
  | .arr (v :: vs) =>
    '[' :: newLine (level + 1) ++ prettyChars (level + 1) v ++ prettyItems (level + 1) vs
      ++ newLine level ++ [']']
  | .obj ((k, v) :: es) =>
    '{' :: newLine (level + 1) ++ quote k ++ [':', ' '] ++ prettyChars (level + 1) v
      ++ prettyEntries (level + 1) es ++ newLine level ++ ['}']
  | v => v.chars

/-- The characters of further items. -/
def prettyItems (level : Nat) : List Json → List Char
  | [] => []
  | v :: vs => ',' :: newLine level ++ prettyChars level v ++ prettyItems level vs

/-- The characters of further entries. -/
def prettyEntries (level : Nat) : List (String × Json) → List Char
  | [] => []
  | (k, v) :: es =>
    ',' :: newLine level ++ quote k ++ [':', ' '] ++ prettyChars level v ++ prettyEntries level es

end

/-- The text of a value on several lines. -/
def pretty (v : Json) : String := String.ofList (prettyChars 0 v)

end CaseScript.Json

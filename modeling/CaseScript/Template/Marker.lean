import CaseScript.Json.Basic
import CaseScript.Text.Search

/-!
# Template/Marker — the element of a loop

Inside a loop, a name in double brackets stands for the current element, and a dotted path after the
name for a part of it. Binding such a marker turns it into a placeholder that names the element by
its index.
-/

namespace CaseScript.Template

/-- Reads a path and the closing brackets; the path is empty or begins with a point. -/
def markerPath? : List Char → Option (List Char)
  | ']' :: ']' :: _ => some []
  | '.' :: cs =>
    match cs.dropWhile (· ≠ ']') with
    | ']' :: ']' :: _ => some ('.' :: cs.takeWhile (· ≠ ']'))
    | _ => none
  | _ => none

/-- A marker at the start of the text, for the first of the names that fits: its path, and how many
characters it takes. -/
def marker? (names : List (List Char)) : List Char → Option (List Char × Nat)
  | '[' :: '[' :: cs =>
    names.findSome? fun name =>
      ((Text.dropFront? name cs).bind markerPath?).map fun path =>
        (path, name.length + path.length + 4)
  | _ => none

/-- Binds the markers of a text of which the first `skip` characters are read already. -/
def bindTextFrom (names : List (List Char)) (element : List Char) : (skip : Nat) → List Char →
    List Char
  | _, [] => []
  | skip + 1, _ :: cs => bindTextFrom names element skip cs
  | 0, c :: cs =>
    match marker? names (c :: cs) with
    | some (path, size) =>
      ['{', '{'] ++ element ++ path ++ ['}', '}'] ++ bindTextFrom names element (size - 1) cs
    | none => c :: bindTextFrom names element 0 cs

/-- A string with its markers bound to an element. -/
def bindText (names : List (List Char)) (element : List Char) (s : String) : String :=
  String.ofList (bindTextFrom names element 0 s.toList)

mutual

/-- A value with the markers of its strings bound to an element. -/
def bindMarkers (names : List (List Char)) (element : List Char) : Json → Json
  | .str s => .str (bindText names element s)
  | .arr items => .arr (bindItems names element items)
  | .obj entries => .obj (bindEntries names element entries)
  | v => v

/-- The items of a list with their markers bound. -/
def bindItems (names : List (List Char)) (element : List Char) : List Json → List Json
  | [] => []
  | v :: vs => bindMarkers names element v :: bindItems names element vs

/-- The entries of an object with the markers of their values bound. -/
def bindEntries (names : List (List Char)) (element : List Char) :
    List (String × Json) → List (String × Json)
  | [] => []
  | (k, v) :: es => (k, bindMarkers names element v) :: bindEntries names element es

end

/-- The marker of a step's own loop. -/
def stepMarker : String := "stepLoopObject"

/-- The marker of the loop of an assertion group. -/
def assertMarker (group : String) : String := s!"assertLoopObject{group}"

end CaseScript.Template

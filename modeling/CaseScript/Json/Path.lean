import CaseScript.Json.Basic

/-!
# Json/Path — the part of a value at a dotted path

A path is cut at every dot and empty segments are skipped. A segment names a key of an object or,
as a decimal number, an index of an array.
-/

namespace CaseScript

/-- An array index: decimal digits within 64 bits, with an optional plus sign. -/
def arrayIndex? (segment : String) : Option Nat :=
  let cs := match segment.toList with
    | '+' :: cs => cs
    | cs => cs
  if cs = [] ∨ ¬cs.all Char.isDigit then none
  else
    let n := ofDecimalDigits cs
    if n < Nat.pow 2 64 then some n else none

/-- The segments of a path. -/
def pathSegments (path : String) : List String :=
  ((Text.splitOn '.' path.toList).filter (· ≠ [])).map String.ofList

namespace Json

/-- The part that one segment names. -/
def child? (v : Json) (segment : String) : Option Json :=
  match v with
  | .obj es => Keyed.get? segment es
  | .arr items => (arrayIndex? segment).bind fun i => items[i]?
  | _ => none

/-- The part reached by following segments one after another. -/
def walk? (v : Json) : List String → Option Json
  | [] => some v
  | s :: ss =>
    match v.child? s with
    | some w => walk? w ss
    | none => none

/-- The part at a path. -/
def at? (v : Json) (path : String) : Option Json := v.walk? (pathSegments path)

end Json

end CaseScript

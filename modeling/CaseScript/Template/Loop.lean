import CaseScript.Template.Marker
import CaseScript.Template.Resolve

/-!
# Template/Loop — a template repeated for every element of an array

A template with a `loop` entry names an array. It becomes one instance for each element, in which
the markers of the loop are bound to that element; without the entry it is its own only instance.
-/

namespace CaseScript

namespace Template

/-- Drops a doubled character from the start as often as it is there. -/
def dropPairs (c : Char) : List Char → List Char
  | a :: b :: cs => if a = c ∧ b = c then dropPairs c cs else a :: b :: cs
  | cs => cs

/-- The name in a loop expression, without the braces around it. -/
def loopName (expression : List Char) : List Char :=
  let opened := dropPairs '{' expression
  Text.trim (dropPairs '}' opened.reverse).reverse

/-- What is said of a loop whose value is missing. -/
def missingLoop (expression : String) : StepError :=
  .resolution s!"Error: The value for loop '{expression}' seems be null, please check!"

/-- What is said of a loop whose value is no array. -/
def noArrayLoop (expression : String) (v : Json) : StepError :=
  .resolution s!"The value for loop '{expression}' is not an array: {v.text}"

/-- What is said of a loop expression that is no text. -/
def noNameLoop (v : Json) : StepError :=
  .resolution s!"The loop expression must name a placeholder, got {v.text}"

/-- The template of an instance: without the entries that belong to the loop. -/
def loopBody : Json → Json
  | .obj es => .obj (Keyed.erase (Keyed.erase es "loop") "beforeLoop")
  | v => v

/-- The instances of a loop with `size` elements, of which `i` are passed. -/
def instancesFrom (names : List (List Char)) (loop : List Char) (body : Json) :
    (size i : Nat) → List (Nat × Json)
  | 0, _ => []
  | size + 1, i =>
    let element := loop ++ '.' :: decimalDigits i
    (i + 1, bindMarkers names element body) :: instancesFrom names loop body size (i + 1)

/-- The elements of a loop, or what is wrong with its value. -/
def loopItems (expression : String) : Json → Except StepError (List Json)
  | .arr items => .ok items
  | .null => .error (missingLoop expression)
  | .str s =>
    if Text.contains ['{', '{'] s.toList then .error (missingLoop expression)
    else .error (noArrayLoop expression (.str s))
  | v => .error (noArrayLoop expression v)

end Template

open Template in
/-- The instances of a template, numbered from one. -/
def Sources.expandLoop (s : Sources) (ctx : StepContext) (template : Json) (marker : String) :
    Act (Except StepError (List (Nat × Json))) := do
  match template.get? "loop" with
  | none | some .null => return .ok [(1, template)]
  | some (.str expression) =>
    let expression := trimmed expression
    let loop := loopName expression.toList
    if loop = [] then return .error (missingLoop expression)
    let placeholder := String.ofList (['{', '{'] ++ loop ++ ['}', '}'])
    match ← s.resolve ctx .none (.str placeholder) with
    | .error e => return .error e
    | .ok v =>
      match loopItems expression v with
      | .error e => return .error e
      | .ok items =>
        return .ok (instancesFrom [marker.toList, loop] loop (loopBody template) items.length 0)
  | some v => return .error (noNameLoop v)

end CaseScript

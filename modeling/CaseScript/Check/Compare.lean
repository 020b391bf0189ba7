import CaseScript.Json.Path
import CaseScript.Json.Text
import CaseScript.Unicode.Case

/-!
# Check/Compare — equality and containment of values

Two values are compared part by part. On the expected side a string may be a pattern, with a percent
sign at either end, and the word `ignored` stands for any value at all, on either side. A comparison
yields its differences, at most one of them, since it stops at the first.
-/

namespace CaseScript

/-- The string that equals every value. -/
def ignored : String := "$\x7bignore\x7d"

namespace Json

/-- Whether the value is the string that equals every value. -/
def isIgnored : Json → Bool
  | .str s => s = ignored
  | _ => false

/-- A number, or a string that spells one between white space. -/
def number? : Json → Option Binary64
  | .num n => some n.toBinary64
  | .str s => Binary64.parse? (Text.trim s.toList)
  | _ => none

/-- The number of characters, items or entries. -/
def length? : Json → Option Nat
  | .str s => some s.length
  | .arr items => some items.length
  | .obj entries => some entries.length
  | _ => none

end Json

/-- Whether `actual` is what `expected` describes: `%x%` a text with `x` in it, `%x` one that ends
in `x`, `x%` one that begins with `x`, all without regard to case; anything else only itself. -/
def matchesWildcard (actual expected : List Char) : Bool :=
  let lowered := Unicode.lower actual
  match expected with
  | '%' :: rest =>
    match rest.reverse with
    | '%' :: inner => Text.contains (Unicode.lower inner.reverse) lowered
    | _ => (Unicode.lower rest).isSuffixOf lowered
  | _ =>
    match expected.reverse with
    | '%' :: front => (Unicode.lower front.reverse).isPrefixOf lowered
    | _ => actual = expected

/-- Equality of scalars. Values of different kinds are equal if they are written alike. -/
def scalarEqual (actual expected : Json) : Bool :=
  if actual.isIgnored || expected.isIgnored then true
  else match actual, expected with
    | .str a, .str e => matchesWildcard a.toList e.toList
    | .bool a, .bool e => a == e
    | .null, .null => true
    | .num a, .num e => a.toBinary64.eq e.toBinary64
    | a, e => a.plain == e.plain

/-- The place of a part: the keys and indexes that lead to it. -/
abbrev Place := String

namespace Place

/-- The place of an entry. -/
def entry (at_ : Place) (key : String) : Place := if at_ = "" then key else s!"{at_}.{key}"

/-- The place of an item. -/
def item (at_ : Place) (i : Nat) : Place := s!"{at_}[{i}]"

end Place

/-- How two values differ, and where. -/
inductive Difference where
  | missingRight (place : Place)
  | missingLeft (place : Place)
  | sizes (place : Place) (left right : Nat)
  | values (place : Place) (left right : Json)
  | kinds (place : Place) (left right : Json)
deriving Repr

/-- The text of a difference. -/
def Difference.text : Difference → String
  | missingRight p => s!"Missing key in right at {p}"
  | missingLeft p => s!"Missing key in left at {p}"
  | sizes p l r => s!"Array size mismatch at {p}: {l} vs {r}"
  | values p l r => s!"Value mismatch at {p}: {l.text} vs {r.text}"
  | kinds p l r => s!"Type mismatch at {p}: {l.text} vs {r.text}"

mutual

/-- The first difference between two values, or none. -/
def differences (place : Place) (left right : Json) : List Difference :=
  if left.isIgnored || right.isIgnored then []
  else match left, right with
    | .obj l, .obj r =>
      match entryDifferences place l r with
      | [] =>
        match (Keyed.keys r).find? fun k => !Keyed.hasKey l k with
        | some k => [.missingLeft (place.entry k)]
        | none => []
      | ds => ds
    | .arr l, .arr r =>
      if l.length ≠ r.length then [.sizes place l.length r.length]
      else itemDifferences place 0 l r
    | l, r =>
      if l.isContainer || r.isContainer then [.kinds place l r]
      else if scalarEqual l r then [] else [.values place l r]

/-- The first difference among the entries of the left side. -/
def entryDifferences (place : Place) : (left : List (String × Json)) → (right : Entries) →
    List Difference
  | [], _ => []
  | (k, v) :: es, right =>
    match right.get? k with
    | none => [.missingRight (place.entry k)]
    | some w =>
      match differences (place.entry k) v w with
      | [] => entryDifferences place es right
      | ds => ds

/-- The first difference among the items of two arrays, of which `i` are passed. -/
def itemDifferences (place : Place) (i : Nat) : (left right : List Json) → List Difference
  | v :: vs, w :: ws =>
    match differences (place.item i) v w with
    | [] => itemDifferences place (i + 1) vs ws
    | ds => ds
  | _, _ => []

end

/-- Equality of values part by part. -/
def sameStructure (left right : Json) : Bool := (differences "" left right).isEmpty

/-- Whether `whole` contains `part`: text in text, every entry of an object in an object, every item
of an array in an array, or one value in an array. Nothing can be said of other shapes. -/
def containsValue? (whole part : Json) : Option Bool :=
  match whole, part with
  | .str w, .str p => some (Text.contains p.toList w.toList)
  | .obj w, .obj p => some (p.all fun (k, v) =>
      match Keyed.get? k w with
      | some x => sameStructure x v
      | none => false)
  | .arr w, .arr p => some (p.all fun v => w.any fun x => sameStructure x v)
  | .arr w, .obj p => some (w.any fun x => sameStructure x (.obj p))
  | .arr w, p => some (w.any fun x => scalarEqual x p)
  | _, _ => none

end CaseScript

import CaseScript.Calendar
import CaseScript.Check.Compare
import CaseScript.Check.Condition
import CaseScript.Regex.Extent
import CaseScript.Regex.Reader

/-!
# Check/Verdict — whether a condition holds, and why not

`validate` first turns the general conditions into structural ones where an operand is a container
(`normalize`), then decides. A verdict that fails says why.
-/

namespace CaseScript

/-- The outcome of a check; the reason is empty if it passed. -/
structure Verdict where
  passed : Bool
  reason : String
deriving DecidableEq, Repr

namespace Verdict

/-- The check passed. -/
def pass : Verdict := ⟨true, ""⟩

/-- The check failed. -/
def fail (reason : String) : Verdict := ⟨false, reason⟩

/-- The check passed or failed for a reason. -/
def ofBool (passed : Bool) (reason : String) : Verdict := if passed then pass else fail reason

/-- The values do not stand in the relation that is demanded. -/
def mismatch (key value : Json) (condition : Condition) : String :=
  s!"{key.text} does not satisfy {condition.name} {value.text}"

/-- An operand is no number. -/
def notNumeric (key value : Json) : Verdict :=
  fail s!"Key and Value should be numeric, got {key.text} and {value.text}"

end Verdict

/-- The general conditions in their structural form, where an operand is a container. Membership in
an array is containment with the operands exchanged. -/
def normalize (key value : Json) (condition : Condition) : Json × Json × Condition :=
  let structured := key.isContainer || value.isContainer
  match condition, value with
  | .isEqual, _ => (key, value, if structured then .isJsonEqual else .isEqual)
  | .isNotEqual, _ => (key, value, if structured then .isJsonNotEqual else .isNotEqual)
  | .isIn, .arr _ => (value, key, .isJsonContain)
  | .isNotIn, .arr _ => (value, key, .isJsonNotContain)
  | c, _ => (key, value, c)

/-- How close two numbers have to be to be approximately equal. -/
def tolerance : Binary64 := .ofDecimal false 1 (-4)

/-- Whether the value is text within a text, or a key of an object. -/
def isWithin (key value : Json) : Bool :=
  match value with
  | .obj entries => Keyed.hasKey entries key.plain
  | v => Text.contains key.plain.toList v.plain.toList

/-- Opposite truth values, or numbers that differ in sign only. -/
def isOppositeOf (key value : Json) : Bool :=
  match key, value with
  | .bool a, .bool b => a != b
  | _, _ =>
    match key.number?, value.number? with
    | some a, some b => a.eq b.neg
    | _, _ => false

/-- A value as a moment; only a string can be one. -/
def Json.moment? : Json → Option Moment
  | .str s => Moment.parse? s.toList
  | _ => none

/-- A pattern made to match whole texts. -/
def anchored (pattern : List Char) : List Char :=
  ['^', '(', '?', ':'] ++ pattern ++ [')', '$']

/-- What can be wrong with the text of a pattern. -/
inductive PatternFault where
  /-- It spells no pattern. -/
  | malformed
  /-- The pattern takes too much room. -/
  | tooLarge
deriving DecidableEq, Repr

/-- The words for a fault. -/
def PatternFault.reason : PatternFault → String
  | malformed => "<regex error>"
  | tooLarge => s!"Compiled regex exceeds size limit of {Regex.maxExtent} bytes."

/-- The pattern that a text spells, made to match whole texts. -/
def wholePattern (pattern : List Char) : Except PatternFault Regex :=
  match Regex.parse? (anchored pattern) with
  | none => .error .malformed
  | some (r, outline) => if outline.fits then .ok r else .error .tooLarge

/-- A relation between the length of a value and a number. -/
def byLength (key value : Json) (condition : Condition) (holds : Binary64 → Binary64 → Bool) :
    Verdict :=
  match key.length? with
  | none => .fail s!"{key.text} has no length"
  | some n =>
    match value.number? with
    | none => .notNumeric key value
    | some x =>
      .ofBool (holds (.ofNat n) x) s!"length {n} does not satisfy {condition.name} {value.text}"

/-- A relation between two numbers. -/
def byNumber (key value : Json) (condition : Condition) (holds : Binary64 → Binary64 → Bool) :
    Verdict :=
  match key.number?, value.number? with
  | some a, some b => .ofBool (holds a b) (Verdict.mismatch key value condition)
  | _, _ => .notNumeric key value

/-- A relation between two moments. -/
def byMoment (key value : Json) (condition : Condition) (holds : Moment → Moment → Bool) :
    Verdict :=
  match key.moment?, value.moment? with
  | some a, some b => .ofBool (holds a b) (Verdict.mismatch key value condition)
  | _, _ => .fail s!"{key.text} or {value.text} is not a recognised date"

/-- Containment, or its absence. -/
def byContainment (key value : Json) (condition : Condition) (wanted : Bool) : Verdict :=
  match containsValue? key value with
  | some found => .ofBool (found == wanted) (Verdict.mismatch key value condition)
  | none => .fail s!"cannot check containment of {value.text} in {key.text}"

/-- A match of the whole text, or its absence. -/
def byPattern (key value : Json) (condition : Condition) (wanted : Bool) : Verdict :=
  match key, value with
  | .str text, .str pattern =>
    match wholePattern pattern.toList with
    | .ok r => .ofBool (r.occursIn text.toList == wanted) (Verdict.mismatch key value condition)
    | .error fault => .fail s!"invalid regex '{pattern}': {fault.reason}"
  | _, _ => .fail "Key and Value should be strings for regex matching"

/-- Equality part by part, or its absence. -/
def byStructure (key value : Json) (condition : Condition) (wanted : Bool) : Verdict :=
  let ds := differences "" key value
  .ofBool (ds.isEmpty == wanted)
    (if ds.isEmpty then Verdict.mismatch key value condition
      else ", ".intercalate (ds.map Difference.text))

/-- Whether the value is a certain truth value. -/
def byTruth (key : Json) (wanted : Bool) : Verdict :=
  let holds := match key with
    | .bool b => b == wanted
    | _ => false
  .ofBool holds s!"expected {wanted} but got {key.text}"

/-- Whether the value is null, or is not. -/
def byNull (key : Json) (condition : Condition) (wanted : Bool) : Verdict :=
  let isNull := match key with
    | .null => true
    | _ => false
  .ofBool (isNull == wanted) s!"{key.text} does not satisfy {condition.name}"

/-- Decides a condition on operands of the right form. -/
def evaluate (key value : Json) (condition : Condition) : Verdict :=
  let plainly (holds : Bool) : Verdict := .ofBool holds (Verdict.mismatch key value condition)
  match condition with
  | .isEqual => plainly (scalarEqual key value)
  | .isNotEqual => plainly (!scalarEqual key value)
  | .isIn => plainly (isWithin key value)
  | .isNotIn => plainly (!isWithin key value)
  | .isTrue => byTruth key true
  | .isFalse => byTruth key false
  | .isApproximate4 => byNumber key value condition fun a b => (a.sub b).abs.lt tolerance
  | .isNotApproximate4 => byNumber key value condition fun a b => !(a.sub b).abs.lt tolerance
  | .isStartWith => plainly (value.plain.toList.isPrefixOf key.plain.toList)
  | .isEndWith => plainly (value.plain.toList.isSuffixOf key.plain.toList)
  | .isLengthEqual => byLength key value condition Binary64.eq
  | .isLengthNotEqual => byLength key value condition fun a b => !a.eq b
  | .isLengthLargerThan => byLength key value condition fun a b => b.lt a
  | .isLengthLessThan => byLength key value condition Binary64.lt
  | .isJsonContain | .isContain => byContainment key value condition true
  | .isJsonNotContain | .isNotContain => byContainment key value condition false
  | .isLargerThan => byNumber key value condition fun a b => b.lt a
  | .isLessThan => byNumber key value condition Binary64.lt
  | .isLargerThanOrEqual => byNumber key value condition fun a b => b.le a
  | .isLessThanOrEqual => byNumber key value condition Binary64.le
  | .isNull => byNull key condition true
  | .isNotNull => byNull key condition false
  | .isRegexMatch => byPattern key value condition true
  | .isRegexNotMatch => byPattern key value condition false
  | .isJsonEqual => byStructure key value condition true
  | .isJsonNotEqual => byStructure key value condition false
  | .isOpposite => plainly (isOppositeOf key value)
  | .isDateEqual => byMoment key value condition fun a b => a == b
  | .isDateNotEqual => byMoment key value condition fun a b => a != b
  | .isDateLargerThanOrEqual => byMoment key value condition fun a b => !a.lt b
  | .isDateLargerThan => byMoment key value condition fun a b => b.lt a
  | .isDateLessThanOrEqual => byMoment key value condition fun a b => !b.lt a
  | .isDateLessThan => byMoment key value condition Moment.lt

/-- Whether the actual value `key` satisfies a condition against the expected `value`. -/
def validate (key value : Json) (condition : Condition) : Verdict :=
  let (key, value, condition) := normalize key value condition
  evaluate key value condition

end CaseScript

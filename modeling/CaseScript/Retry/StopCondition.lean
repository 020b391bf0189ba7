import CaseScript.Check.Compare
import CaseScript.Json.Reader
import CaseScript.Sql.Fold

/-!
# Retry/StopCondition — when an answer is good enough

A stop condition is a conjunction of optional tests. A body is read as a number for both tests of its
size, and as an object for all tests of its entries; rows are looked at by each test for itself.
-/

namespace CaseScript

/-- What an answer has to look like for the attempts to end. -/
structure StopCondition where
  largerThanSize : Option Binary64
  lessThanSize : Option Binary64
  contentEquals : Option Json
  contentContains : Option Json
  /-- Paths with what is expected there. -/
  jsonContains : Option Entries
  jsonNotContains : Option Entries
  /-- A path, or a list of paths, that have to exist. -/
  jsonContainsKey : Option Json
deriving Repr

namespace StopCondition

/-- The condition without tests. -/
def none : StopCondition :=
  ⟨.none, .none, .none, .none, .none, .none, .none⟩

/-- Whether a test that may be absent holds. -/
def ifPresent {α : Type} (test : Option α) (holds : α → Bool) : Bool :=
  match test with
  | some x => holds x
  | .none => true

/-- Whether `part` occurs in `whole`, without regard to case. -/
def containsText (whole part : String) : Bool :=
  Text.contains (Unicode.lower part.toList) (Unicode.lower whole.toList)

/-- Whether a value is what is expected: `%x%` a text with `x` in it, anything else that text. -/
def meets (actual : Option Json) (expected : Json) : Bool :=
  match actual with
  | .none => false
  | some actual =>
    match (Text.dropFront? ['%'] expected.plain.toList).bind (Text.dropBack? ['%']) with
    | some part => containsText actual.plain (String.ofList part)
    | .none => actual.plain == expected.plain

/-- Whether every expectation is met. -/
def meetsAll (object expected : Entries) : Bool :=
  expected.all fun (path, v) => meets ((Json.obj object).at? path) v

/-- Whether some expectation is met. -/
def meetsSome (object expected : Entries) : Bool :=
  expected.any fun (path, v) => meets ((Json.obj object).at? path) v

/-- The paths of a list, or the only one. -/
def paths : Json → List String
  | .arr items => items.map Json.plain
  | v => [v.plain]

/-- Whether every path exists. -/
def hasPaths (object : Entries) (keys : Json) : Bool :=
  (paths keys).all fun p => ((Json.obj object).at? p).isSome

/-- How close two numbers have to be to count as equal content. -/
def contentTolerance : Binary64 := .ofDecimal false 1 (-4)

/-- Whether a cell has the expected content: about the same number, or the same letters. -/
def cellEquals (cell expected : Json) : Bool :=
  match cell.number?, expected.number? with
  | some a, some b => (a.sub b).abs.lt contentTolerance
  | _, _ => sameLetters cell.plain expected.plain

/-- Whether a size lies between the bounds that are set. -/
def allowsSize (c : StopCondition) (size : Binary64) : Bool :=
  ifPresent c.largerThanSize (fun least => !size.le least)
    && ifPresent c.lessThanSize (fun most => !most.le size)

/-- Whether rows satisfy the condition; no rows never do. -/
def holdsOfRows (c : StopCondition) (rows : List Row) : Bool :=
  let cells := rows.flatMap fun row => row.map (·.2)
  !rows.isEmpty
    && c.allowsSize (Binary64.ofNat rows.length)
    && ifPresent c.contentEquals (fun v => cells.any fun cell => cellEquals cell v)
    && ifPresent c.contentContains (fun v => cells.any fun cell => containsText cell.plain v.plain)
    && ifPresent c.jsonContains (fun es => rows.any fun row => meetsAll row es)
    && ifPresent c.jsonNotContains (fun es => !rows.any fun row => meetsSome row es)
    && ifPresent c.jsonContainsKey (fun ks => rows.any fun row => hasPaths row ks)

/-- The number that a body spells. -/
def bodyNumber? (body : String) : Option Binary64 := Binary64.parse? (Text.trim body.toList)

/-- Whether a body spells a number for which a test holds. -/
def byNumber (body : String) (holds : Binary64 → Bool) : Bool :=
  match bodyNumber? body with
  | some x => holds x
  | .none => false

/-- Whether a body is the text of an object for which a test holds. -/
def byObject (body : String) (holds : Entries → Bool) : Bool :=
  match Json.parse? body with
  | some (.obj es) => holds es
  | _ => false

/-- Whether a bound is set. -/
def asksSize (c : StopCondition) : Bool := c.largerThanSize.isSome || c.lessThanSize.isSome

/-- Whether something is asked of the entries of an object. -/
def asksObject (c : StopCondition) : Bool :=
  c.jsonContains.isSome || c.jsonNotContains.isSome || c.jsonContainsKey.isSome

/-- Whether an object has the entries that are asked for. -/
def allowsObject (c : StopCondition) (object : Entries) : Bool :=
  ifPresent c.jsonContains (fun es => meetsAll object es)
    && ifPresent c.jsonNotContains (fun es => !meetsSome object es)
    && ifPresent c.jsonContainsKey (fun ks => hasPaths object ks)

/-- Whether a body satisfies the condition. -/
def holdsOfBody (c : StopCondition) (body : String) : Bool :=
  ifPresent c.contentEquals (fun v => body == v.plain)
    && ifPresent c.contentContains (fun v => containsText body v.plain)
    && (!c.asksSize || byNumber body c.allowsSize)
    && (!c.asksObject || byObject body c.allowsObject)

end StopCondition

end CaseScript

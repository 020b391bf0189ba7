import CaseScript.Text.Search

/-!
# Check/Condition — the conditions an assertion can make

There are thirty-five, most of them a condition and its negation. They are written by name, without
regard to the case of letters or to white space around the name.
-/

namespace CaseScript

/-- What an assertion demands of its actual and its expected value. -/
inductive Condition where
  | isEqual
  | isNotEqual
  | isIn
  | isNotIn
  | isTrue
  | isFalse
  | isApproximate4
  | isNotApproximate4
  | isStartWith
  | isEndWith
  | isLengthEqual
  | isLengthNotEqual
  | isLengthLargerThan
  | isLengthLessThan
  | isJsonContain
  | isJsonNotContain
  | isContain
  | isNotContain
  | isLargerThan
  | isLessThan
  | isLargerThanOrEqual
  | isLessThanOrEqual
  | isNull
  | isNotNull
  | isRegexMatch
  | isRegexNotMatch
  | isJsonEqual
  | isJsonNotEqual
  | isOpposite
  | isDateEqual
  | isDateNotEqual
  | isDateLargerThanOrEqual
  | isDateLargerThan
  | isDateLessThanOrEqual
  | isDateLessThan
deriving DecidableEq, Repr, Inhabited

namespace Condition

/-- Every condition. -/
def all : List Condition := [
  isEqual, isNotEqual, isIn, isNotIn, isTrue, isFalse, isApproximate4, isNotApproximate4,
  isStartWith, isEndWith, isLengthEqual, isLengthNotEqual, isLengthLargerThan, isLengthLessThan,
  isJsonContain, isJsonNotContain, isContain, isNotContain, isLargerThan, isLessThan,
  isLargerThanOrEqual, isLessThanOrEqual, isNull, isNotNull, isRegexMatch, isRegexNotMatch,
  isJsonEqual, isJsonNotEqual, isOpposite, isDateEqual, isDateNotEqual, isDateLargerThanOrEqual,
  isDateLargerThan, isDateLessThanOrEqual, isDateLessThan]

/-- The name of a condition. -/
def name : Condition → String
  | isEqual => "IsEqual"
  | isNotEqual => "IsNotEqual"
  | isIn => "IsIn"
  | isNotIn => "IsNotIn"
  | isTrue => "IsTrue"
  | isFalse => "IsFalse"
  | isApproximate4 => "IsApproximate4"
  | isNotApproximate4 => "IsNotApproximate4"
  | isStartWith => "IsStartWith"
  | isEndWith => "IsEndWith"
  | isLengthEqual => "IsLengthEqual"
  | isLengthNotEqual => "IsLengthNotEqual"
  | isLengthLargerThan => "IsLengthLargerThan"
  | isLengthLessThan => "IsLengthLessThan"
  | isJsonContain => "IsJsonContain"
  | isJsonNotContain => "IsJsonNotContain"
  | isContain => "IsContain"
  | isNotContain => "IsNotContain"
  | isLargerThan => "IsLargerThan"
  | isLessThan => "IsLessThan"
  | isLargerThanOrEqual => "IsLargerThanOrEqual"
  | isLessThanOrEqual => "IsLessThanOrEqual"
  | isNull => "IsNull"
  | isNotNull => "IsNotNull"
  | isRegexMatch => "IsRegexMatch"
  | isRegexNotMatch => "IsRegexNotMatch"
  | isJsonEqual => "IsJsonEqual"
  | isJsonNotEqual => "IsJsonNotEqual"
  | isOpposite => "IsOpposite"
  | isDateEqual => "IsDateEqual"
  | isDateNotEqual => "IsDateNotEqual"
  | isDateLargerThanOrEqual => "IsDateLargerThanOrEqual"
  | isDateLargerThan => "IsDateLargerThan"
  | isDateLessThanOrEqual => "IsDateLessThanOrEqual"
  | isDateLessThan => "IsDateLessThan"

/-- The condition with a name, or what is said of a name that no condition has. -/
def ofName (s : String) : Except String Condition :=
  let wanted := trimmed s
  match all.find? fun c => sameLetters c.name wanted with
  | some c => .ok c
  | none => .error s!"Unknown assertion condition '{s}'"

end Condition

end CaseScript

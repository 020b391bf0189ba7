import CaseScript.Text.Digits
import CaseScript.Text.Search

/-!
# Calendar — moments read from their written forms

A text is read as a date with time and offset, then as one of two forms without offset, then as one
of three forms without time. Moments are compared by the seconds since the start of 1970 and the
nanoseconds within; a leap second counts as the second before it with a thousand million nanoseconds
more.
-/

namespace CaseScript

/-- A moment: seconds since the start of 1970, and nanoseconds. -/
structure Moment where
  seconds : Int
  nanos : Nat
deriving DecidableEq, Repr

namespace Moment

/-- Strictly earlier. -/
def lt (a b : Moment) : Bool :=
  a.seconds < b.seconds || (a.seconds == b.seconds && a.nanos < b.nanos)

/-- Years with a twenty-ninth of February. -/
def isLeapYear (year : Int) : Bool :=
  year % 4 == 0 && (year % 100 != 0 || year % 400 == 0)

/-- How many days a month has. -/
def daysInMonth (year : Int) (month : Nat) : Nat :=
  if month = 2 then (if isLeapYear year then 29 else 28)
  else if month = 4 ∨ month = 6 ∨ month = 9 ∨ month = 11 then 30
  else 31

/-- Days from the start of 1970 to a date. Years are counted from March here, so that the leap day
ends them, and 153 days pass in every five months. -/
def dayNumber (year : Int) (month day : Nat) : Int :=
  let y := if month ≤ 2 then year - 1 else year
  let era := y / 400
  let yearOfEra := y % 400
  let monthFromMarch : Int := ((month : Int) + 9) % 12
  let dayOfYear := (153 * monthFromMarch + 2) / 5 + day - 1
  let dayOfEra := yearOfEra * 365 + yearOfEra / 4 - yearOfEra / 100 + dayOfYear
  era * 146097 + dayOfEra - 719468

/-- A date and a time of day, as far as they exist. -/
def ofCivil? (year : Int) (month day hour minute second nanos : Nat) : Option Moment :=
  let leap := second == 60
  if year < -262143 ∨ 262142 < year ∨ month < 1 ∨ 12 < month ∨ day < 1
      ∨ daysInMonth year month < day ∨ 23 < hour ∨ 59 < minute ∨ 60 < second then none
  else
    let s : Nat := hour * 3600 + minute * 60 + (if leap then 59 else second)
    some ⟨dayNumber year month day * 86400 + s, if leap then nanos + Nat.pow 10 9 else nanos⟩

/-! ## With an offset -/

/-- Exactly two digits. -/
def twoDigits? : List Char → Option (Nat × List Char)
  | a :: b :: cs =>
    if a.isDigit ∧ b.isDigit then some (ofDecimalDigits [a, b], cs) else none
  | _ => none

/-- A given character. -/
def mark? (c : Char) : List Char → Option (List Char)
  | d :: cs => if d = c then some cs else none
  | [] => none

/-- A fraction of a second after its point, in nanoseconds; digits past the ninth are ignored. -/
def fraction? (cs : List Char) : Option (Nat × List Char) :=
  let (digits, rest) := digitRun cs
  if digits = [] then none
  else
    let kept := digits.take 9
    some (ofDecimalDigits kept * Nat.pow 10 (9 - kept.length), rest)

/-- The whole of an offset from universal time, in seconds. -/
def offset? : List Char → Option Int
  | ['Z'] | ['z'] => some 0
  | c :: cs => do
    let negative ← if c = '+' then some false else if c = '-' ∨ c = '−' then some true else none
    let (hours, cs) ← twoDigits? cs
    let cs ← mark? ':' cs
    let (minutes, cs) ← twoDigits? cs
    if cs = [] ∧ hours ≤ 23 ∧ minutes ≤ 59 then
      let seconds : Int := hours * 3600 + minutes * 60
      some (if negative then -seconds else seconds)
    else none
  | [] => none

/-- The strict form `2001-02-03T04:05:06.789+00:00`; a blank may stand for the `T`. -/
def strict? (cs : List Char) : Option Moment := do
  let (century, cs) ← twoDigits? cs
  let (years, cs) ← twoDigits? cs
  let cs ← mark? '-' cs
  let (month, cs) ← twoDigits? cs
  let cs ← mark? '-' cs
  let (day, cs) ← twoDigits? cs
  let cs ← match cs with
    | 'T' :: cs | 't' :: cs | ' ' :: cs => some cs
    | _ => none
  let (hour, cs) ← twoDigits? cs
  let cs ← mark? ':' cs
  let (minute, cs) ← twoDigits? cs
  let cs ← mark? ':' cs
  let (second, cs) ← twoDigits? cs
  let (nanos, cs) ← match cs with
    | '.' :: cs => fraction? cs
    | cs => some (0, cs)
  let offset ← offset? cs
  let here ← ofCivil? (century * 100 + years : Nat) month day hour minute second nanos
  some ⟨here.seconds - offset, here.nanos⟩

/-! ## Without an offset -/

/-- The parts of a lenient form. -/
inductive FormPart where
  | year
  | month
  | day
  | hour
  | minute
  | second
  /-- A character that has to be there. -/
  | mark (c : Char)
  /-- Any white space, even none. -/
  | gap
deriving DecidableEq

/-- What a lenient form has read so far. -/
structure Civil where
  year : Int
  month : Nat
  day : Nat
  hour : Nat
  minute : Nat
  second : Nat

/-- One or two digits after any white space. -/
def shortNumber? (cs : List Char) : Option (Nat × List Char) :=
  match Text.trimStart cs with
  | a :: b :: cs =>
    if ¬a.isDigit then none
    else if b.isDigit then some (ofDecimalDigits [a, b], cs)
    else some (digitValue a, b :: cs)
  | [a] => if a.isDigit then some (digitValue a, []) else none
  | [] => none

/-- A year after any white space: up to four digits, or any number of them after a sign. -/
def year? (cs : List Char) : Option (Int × List Char) :=
  let signed (negative : Bool) (cs : List Char) : Option (Int × List Char) :=
    let (digits, rest) := digitRun cs
    let n : Int := ofDecimalDigits digits
    if digits = [] then none else some (if negative then -n else n, rest)
  match Text.trimStart cs with
  | '-' :: cs => signed true cs
  | '+' :: cs => signed false cs
  | cs =>
    let digits := (cs.takeWhile Char.isDigit).take 4
    if digits = [] then none else some (ofDecimalDigits digits, cs.drop digits.length)

/-- Reads the parts of a form one after another, to the end of the text. -/
def readForm : List FormPart → Civil → List Char → Option Civil
  | [], d, cs => if cs = [] then some d else none
  | .mark c :: ps, d, cs => (mark? c cs).bind (readForm ps d)
  | .gap :: ps, d, cs => readForm ps d (Text.trimStart cs)
  | .year :: ps, d, cs => (year? cs).bind fun (n, cs) => readForm ps { d with year := n } cs
  | .month :: ps, d, cs =>
    (shortNumber? cs).bind fun (n, cs) => readForm ps { d with month := n } cs
  | .day :: ps, d, cs => (shortNumber? cs).bind fun (n, cs) => readForm ps { d with day := n } cs
  | .hour :: ps, d, cs => (shortNumber? cs).bind fun (n, cs) => readForm ps { d with hour := n } cs
  | .minute :: ps, d, cs =>
    (shortNumber? cs).bind fun (n, cs) => readForm ps { d with minute := n } cs
  | .second :: ps, d, cs =>
    (shortNumber? cs).bind fun (n, cs) => readForm ps { d with second := n } cs

/-- Year, month and day with a mark between them. -/
def dayForm (c : Char) : List FormPart := [.year, .mark c, .month, .mark c, .day]

/-- Hour, minute and second with colons between them. -/
def timeForm : List FormPart := [.hour, .mark ':', .minute, .mark ':', .second]

/-- The lenient forms, in the order in which they are tried. -/
def forms : List (List FormPart) := [
  dayForm '-' ++ [.gap] ++ timeForm,
  dayForm '-' ++ [.mark 'T'] ++ timeForm,
  dayForm '-',
  [.year, .month, .day],
  dayForm '/']

/-- The moment that a form reads, if its parts exist. -/
def lenient? (form : List FormPart) (cs : List Char) : Option Moment :=
  (readForm form ⟨0, 0, 0, 0, 0, 0⟩ cs).bind fun d =>
    ofCivil? d.year d.month d.day d.hour d.minute d.second 0

/-- The moment that a text names. -/
def parse? (text : List Char) : Option Moment :=
  let cs := Text.trim text
  match strict? cs with
  | some m => some m
  | none => forms.findSome? fun form => lenient? form cs

end Moment

end CaseScript

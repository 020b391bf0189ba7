import CaseScript.Calendar

/-!
# Calendar/Written — moments as text
-/

namespace CaseScript

/-- A date. -/
structure CivilDate where
  year : Int
  month : Nat
  day : Nat
deriving DecidableEq, Repr

/-- The date a number of days after the start of 1970. Years are counted from March, so that the
leap day ends them. -/
def CivilDate.ofDayNumber (days : Int) : CivilDate :=
  let z := days + 719468
  let era := z / 146097
  let dayOfEra := z % 146097
  let yearOfEra := (dayOfEra - dayOfEra / 1460 + dayOfEra / 36524 - dayOfEra / 146096) / 365
  let dayOfYear := dayOfEra - (365 * yearOfEra + yearOfEra / 4 - yearOfEra / 100)
  let monthFromMarch := (5 * dayOfYear + 2) / 153
  let day := dayOfYear - (153 * monthFromMarch + 2) / 5 + 1
  let month := if monthFromMarch < 10 then monthFromMarch + 3 else monthFromMarch - 9
  let year := yearOfEra + era * 400
  ⟨if month ≤ 2 then year + 1 else year, month.toNat, day.toNat⟩

/-- A number in at least `width` digits. -/
def padded (width n : Nat) : List Char :=
  let digits := decimalDigits n
  List.replicate (width - digits.length) '0' ++ digits

/-- The text of a moment in milliseconds since the start of 1970, in universal time; `zone` ends it.
A second that has just begun has no fraction. -/
def writtenMoment (zone : String) (millis : Nat) : String :=
  let date := CivilDate.ofDayNumber (millis / 86400000 : Nat)
  let second := millis / 1000
  let fraction := if millis % 1000 = 0 then [] else '.' :: padded 3 (millis % 1000)
  String.ofList (padded 4 date.year.toNat ++ '-' :: padded 2 date.month ++ '-' :: padded 2 date.day
    ++ 'T' :: padded 2 (second / 3600 % 24) ++ ':' :: padded 2 (second / 60 % 60)
    ++ ':' :: padded 2 (second % 60) ++ fraction ++ zone.toList)

end CaseScript

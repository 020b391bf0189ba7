import CaseScript.Unicode.Spans

/-!
# Unicode/Shift — code points with partners at one distance

Tables of pairs of characters are short because neighbouring characters mostly have neighbouring
partners.
-/

namespace CaseScript.Unicode

/-- Code points at equal steps with one distance to their partners: the first of them, how many more
there are, the step and the distance. -/
structure Shift where
  first : Nat
  more : Nat
  step : Nat
  distance : Int
deriving Repr

namespace Shift

/-- Reads a table of shifts; the one before the next began at `start`. -/
def ofNumbers (start : Nat) : List Nat → List Shift
  | gap :: size :: distance :: rest =>
    ⟨start + gap, size / 2, size % 2 + 1, Text.signed distance⟩ :: ofNumbers (start + gap) rest
  | _ => []

/-- Reads a packed table of shifts. -/
def unpack (lines : List String) : List Shift := ofNumbers 0 (Text.unpack lines)

/-- Whether the code point is one of those with a partner. -/
def holds (s : Shift) (n : Nat) : Bool :=
  s.first ≤ n && n ≤ s.first + s.more * s.step && (n - s.first) % s.step == 0

/-- The partner of one of the code points. -/
def partner (s : Shift) (n : Nat) : Nat := ((n : Int) + s.distance).toNat

/-- The code points with their partners. -/
def pairs (s : Shift) : List (Nat × Nat) :=
  (List.range (s.more + 1)).map fun i => (s.first + i * s.step, s.partner (s.first + i * s.step))

end Shift

/-- The partner of a character in a table of shifts. -/
def partner? (shifts : List Shift) (c : Char) : Option Char :=
  (shifts.find? (·.holds c.toNat)).map fun s => Char.ofNat (s.partner c.toNat)

end CaseScript.Unicode

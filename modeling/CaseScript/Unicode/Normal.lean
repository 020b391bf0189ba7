import CaseScript.Text.Packed
import CaseScript.Unicode.NormalTable

/-!
# Unicode/Normal — texts in composed form

Two texts that read the same may be spelled with composed characters or with their parts. The
composed form takes every character apart (`decomposed`), sorts the marks on a letter by the place
where they stand (`ordered`) and puts together what can be (`recomposed`).
-/

namespace CaseScript.Unicode

/-! ## Tables -/

/-- Composed characters with their two parts, from numbers; the last one was `start`. -/
def pairsOf (start : Nat) : List Nat → List (Nat × Nat × Nat)
  | gap :: distance :: second :: rest =>
    let c := start + gap
    (c, (c + Text.signed distance).toNat, second) :: pairsOf c rest
  | _ => []

/-- Composed characters with their two parts. -/
def composedPairs : List (Nat × Nat × Nat) := pairsOf 0 (Text.unpack pairNumbers)

/-- Characters with several others in their place, from numbers; the last one was `start`. -/
def listsOf : (fuel : Nat) → (start : Nat) → List Nat → List (Nat × List Nat)
  | fuel + 1, start, gap :: size :: rest =>
    (start + gap, rest.take size) :: listsOf fuel (start + gap) (rest.drop size)
  | _, _, _ => []

/-- Characters that are taken apart and never put together. -/
def separated : List (Nat × List Nat) :=
  let numbers := Text.unpack partNumbers
  listsOf numbers.length 0 numbers

/-- Runs of marks with a place in common, from numbers; the last one ended before `start`. -/
def placesFrom (start : Nat) : List Nat → List (Nat × Nat × Nat)
  | gap :: size :: place :: rest =>
    (start + gap, start + gap + size, place) :: placesFrom (start + gap + size) rest
  | _ => []

/-- Runs of marks with a place in common: the first of them, the point after the last, the place. -/
def markPlaces : List (Nat × Nat × Nat) := placesFrom 0 (Text.unpack orderNumbers)

/-- The place of a mark on its letter; zero for what is no mark of this kind. -/
def markPlace (n : Nat) : Nat :=
  match markPlaces.find? fun (first, after, _) => first ≤ n && n < after with
  | some (_, _, place) => place
  | none => 0

/-! ## Syllables

The syllables of one script are composed by rule: nineteen first letters, twenty-one vowels, and
twenty-seven last letters or none. -/

/-- The first syllable, first letter, vowel, and the point before the last letters. -/
def syllableStart : Nat × Nat × Nat × Nat := (0xac00, 0x1100, 0x1161, 0x11a7)

/-- The letters of a syllable. -/
def lettersOf? (n : Nat) : Option (List Nat) :=
  let (syllable, lead, vowel, tail) := syllableStart
  if syllable ≤ n ∧ n < syllable + 11172 then
    let i := n - syllable
    let front := [lead + i / 588, vowel + i % 588 / 28]
    some (if i % 28 = 0 then front else front ++ [tail + i % 28])
  else none

/-- The syllable of a first letter and a vowel, or of a syllable without a last letter and one. -/
def syllableOf? (a b : Nat) : Option Nat :=
  let (syllable, lead, vowel, tail) := syllableStart
  if lead ≤ a ∧ a < lead + 19 ∧ vowel ≤ b ∧ b < vowel + 21 then
    some (syllable + ((a - lead) * 21 + (b - vowel)) * 28)
  else if syllable ≤ a ∧ a < syllable + 11172 ∧ (a - syllable) % 28 = 0
      ∧ tail < b ∧ b < tail + 28 then
    some (a + (b - tail))
  else none

/-! ## The form -/

/-- A character taken apart. A part can have parts in turn, but not to a depth of four. -/
def partsOf : (fuel : Nat) → Nat → List Nat
  | 0, n => [n]
  | fuel + 1, n =>
    match lettersOf? n with
    | some parts => parts
    | none =>
      match separated.find? (·.1 == n), composedPairs.find? (·.1 == n) with
      | some (_, parts), _ => parts
      | none, some (_, a, b) => partsOf fuel a ++ [b]
      | none, none => [n]

/-- A text taken apart. -/
def decomposed (points : List Nat) : List Nat := points.flatMap (partsOf 4)

/-- Puts a mark before the marks at the end of a text, given in reverse, that have a later place. -/
def insertMark (n : Nat) : List Nat → List Nat
  | [] => [n]
  | m :: before =>
    if markPlace n < markPlace m ∧ markPlace n ≠ 0 then m :: insertMark n before
    else n :: m :: before

/-- A text with the marks on each letter in order. -/
def ordered (points : List Nat) : List Nat :=
  (points.foldl (fun before n => insertMark n before) []).reverse

/-- The composed character of two parts. -/
def composed? (a b : Nat) : Option Nat :=
  match syllableOf? a b with
  | some n => some n
  | none => (composedPairs.find? (·.2 == (a, b))).map Prod.fst

/-- Puts together what can be, where the marks are in order: `letter` is the last character that is
no mark, and `marks` those since that could not be joined to it, the last one first. A mark is out
of reach of the letter if one with the same place stands between them. -/
def recomposedFrom : (letter : Option Nat) → (marks : List Nat) → List Nat → List Nat
  | letter, marks, [] => letter.toList ++ marks.reverse
  | letter, marks, n :: rest =>
    let inReach := match marks with
      | [] => true
      | m :: _ => markPlace m < markPlace n
    match if inReach then letter.bind (composed? · n) else none with
    | some joined => recomposedFrom (some joined) marks rest
    | none =>
      if markPlace n = 0 then letter.toList ++ marks.reverse ++ recomposedFrom (some n) [] rest
      else recomposedFrom letter (n :: marks) rest

/-- A text in composed form. -/
def composed (cs : List Char) : List Char :=
  (recomposedFrom none [] (ordered (decomposed (cs.map Char.toNat)))).map Char.ofNat

end CaseScript.Unicode

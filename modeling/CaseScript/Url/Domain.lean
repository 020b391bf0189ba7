import CaseScript.Text.Search
import CaseScript.Unicode.Normal
import CaseScript.Unicode.Shift
import CaseScript.Url.DomainTable
import CaseScript.Url.Punycode

/-!
# Url/Domain — host names in letters of every script

A name is cut into labels at its points. Capital letters, wide letters and other forms are mapped to
the plain ones, and a label beyond the basic characters is written in these (`asciiDomain?`). A
label that is written so already has to be what its own content would be mapped to.
-/

namespace CaseScript.Url

open Unicode (Shift)

/-! ## Characters -/

/-- Characters that become one other character. -/
def mappedShifts : List Shift := Shift.unpack mappedNumbers

/-- Characters that become several, from numbers; the last one was `start`, and the last of those
that characters become was `last`. -/
def expandedFrom : (fuel : Nat) → (start last : Nat) → List Nat → List (Nat × List Nat)
  | fuel + 1, start, last, gap :: size :: rest =>
    let become := ((rest.take size).foldl (fun (made, last) d =>
      let n := ((last : Int) + Text.signed d).toNat
      (n :: made, n)) (([] : List Nat), last))
    (start + gap, become.1.reverse) :: expandedFrom fuel (start + gap) become.2 (rest.drop size)
  | _, _, _, _ => []

/-- Characters that become several. -/
def expandedPoints : List (Nat × List Nat) :=
  let numbers := Text.unpack expandedNumbers
  expandedFrom numbers.length 0 0 numbers

/-- What a character of a name becomes; `none` if it cannot be in one. -/
def mapped? (c : Char) : Option (List Char) :=
  if validSet.mem c then some [c]
  else if ignoredSet.mem c then some []
  else
    match Unicode.partner? mappedShifts c, expandedPoints.find? (·.1 == c.toNat) with
    | some m, _ => some [m]
    | none, some (_, points) => some (points.map Char.ofNat)
    | none, none => none

/-- Characters that delimit a host or show nothing. -/
def isForbidden (c : Char) : Bool :=
  c.toNat < 0x21 || c.toNat == 0x7f
    || ['%', '#', '/', ':', '<', '>', '?', '@', '[', '\\', ']', '^', '|'].contains c

/-! ## Labels -/

/-- The mark that has a letter subdue its vowel. -/
def isVirama (c : Char) : Bool := Unicode.markPlace c.toNat == 9

/-- Whether an invisible joiner stands where it makes a difference: after a subdued vowel; or, if it
keeps letters apart, between letters that would join. `before` is the text before it in reverse. -/
def isJoinerPlaced (c : Char) (before after : List Char) : Bool :=
  before.head?.any isVirama
    || (c = '\u200c'
      && (before.dropWhile joinsThroughSet.mem).head?.any joinsNextSet.mem
      && (after.dropWhile joinsThroughSet.mem).head?.any joinsPreviousSet.mem)

/-- Whether all invisible joiners in a text make a difference. `before` is the text before it in
reverse. -/
def joinersPlaced (before : List Char) : List Char → Bool
  | [] => true
  | c :: cs =>
    (¬(c = '\u200c' ∨ c = '\u200d') || isJoinerPlaced c before cs) && joinersPlaced (c :: before) cs

/-- Whether a text can be a label: it does not begin with a mark, and its joiners make a
difference. -/
def isLabel (label : List Char) : Bool := !label.head?.any markSet.mem && joinersPlaced [] label

/-- Whether a text has characters that run from right to left. -/
def runsRight (label : List Char) : Bool :=
  label.any fun c => rightSet.mem c || arabicDigitSet.mem c

/-- Whether the direction of a label is clear from its ends and the same throughout, its digits
apart. -/
def isOneWay (label : List Char) : Bool :=
  let last := (label.reverse.dropWhile overlaySet.mem).head?
  let european := label.any europeanDigitSet.mem
  let arabic := label.any arabicDigitSet.mem
  match label with
  | [] => true
  | c :: _ =>
    if rightSet.mem c then
      !label.any leftSet.mem && !(european && arabic)
        && last.any fun c => rightSet.mem c || europeanDigitSet.mem c || arabicDigitSet.mem c
    else
      leftSet.mem c && !runsRight label
        && last.any fun c => leftSet.mem c || europeanDigitSet.mem c

/-- What marks a label as written in basic characters. -/
def encodedMark : List Char := ['x', 'n', '-', '-']

/-- How long a label beyond the basic characters may be. -/
def maxLabelLength : Nat := 1000

/-- How long a label may be as written in basic characters, without the mark. -/
def maxEncodedLength : Nat := 2000

/-- The text that a label in basic characters stands for; the mark is off. -/
def decodedLabel? (encoded : List Char) : Option (List Char) :=
  if encoded.getLast?.all (· = '-') ∨ maxEncodedLength < encoded.length then none
  else
    (Punycode.decode? encoded).filter fun label =>
      (label.all fun c => mapped? c == some [c] && !isForbidden c && c ≠ '.')
        && Unicode.composed label == label && isLabel label

/-- A label as it is written, and the text that it stands for. -/
structure Label where
  written : List Char
  text : List Char

/-- A label of mapped characters. -/
def label? (cs : List Char) : Option Label :=
  if cs.any isForbidden then none
  else match Text.dropFront? encodedMark cs with
    | some encoded =>
      if cs.all fun c => c.toNat < 128 then (decodedLabel? encoded).map fun text => ⟨cs, text⟩
      else none
    | none =>
      if cs.all fun c => c.toNat < 128 then some ⟨cs, cs⟩
      else if isLabel cs ∧ cs.length ≤ maxLabelLength then
        some ⟨encodedMark ++ Punycode.encode cs, cs⟩
      else none

/-- The labels of a text without points. Where it has characters beyond the basic ones it is mapped
first, which may bring points in. -/
def labels? (cs : List Char) : Option (List Label) :=
  if cs.all fun c => c.toNat < 128 then (label? (Text.lowerAscii cs)).map ([·])
  else do
    let parts ← cs.mapM mapped?
    (Text.splitOn '.' (Unicode.composed parts.flatten)).mapM label?

/-- A name in basic characters. If one label runs from right to left, every label has to run one
way. -/
def asciiDomain? (cs : List Char) : Option (List Char) := do
  let labels ← (Text.splitOn '.' cs).mapM labels?
  let labels := labels.flatten
  if (labels.any fun l => runsRight l.text) ∧ ¬(labels.all fun l => isOneWay l.text) then none
  else some (List.intercalate ['.'] (labels.map Label.written))

end CaseScript.Url

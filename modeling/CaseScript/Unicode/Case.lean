import CaseScript.Unicode.CaseTable
import CaseScript.Unicode.Shift
import CaseScript.Unicode.TextTable

/-!
# Unicode/Case — lower case of a text, and letters that differ in case only

Every character is replaced on its own, with two exceptions: `İ` becomes an `i` and a combining dot,
and a capital sigma that ends a word becomes the final form `ς`. Whether it ends a word is read off
the text on both sides, so lower-casing does not commute with cutting a text in two.
-/

namespace CaseScript.Unicode

/-! ## Lower case -/

/-- Every character whose lower case is one other character. -/
def lowerShifts : List Shift := Shift.unpack lowerRuns

/-- Characters with case. -/
def isCased (c : Char) : Bool := casedSet.mem c

/-- Characters that are looked through when the end of a word is sought. -/
def isCaseIgnorable (c : Char) : Bool := caseIgnorableSet.mem c

/-- The lower-case partner of a character, itself if it has none. -/
def lowerChar (c : Char) : Char := (partner? lowerShifts c).getD c

/-- Whether a letter with case follows, once ignorable characters are skipped. -/
def casedFollows (cs : List Char) : Bool :=
  match cs.dropWhile isCaseIgnorable with
  | [] => false
  | c :: _ => isCased c

/-- Lower-cases the text `cs` that stands after the text whose reverse is `before`. -/
def lowerFrom (before : List Char) : List Char → List Char
  | [] => []
  | c :: cs =>
    let out :=
      if c = 'Σ' then [if casedFollows before && !casedFollows cs then 'ς' else 'σ']
      else if c = 'İ' then ['i', Char.ofNat 0x307]
      else if c.toNat < 128 then [c.toLower]
      else [lowerChar c]
    out ++ lowerFrom (c :: before) cs

/-- A text in lower case. -/
def lower (cs : List Char) : List Char := lowerFrom [] cs

/-! ## Sets with case ignored -/

/-- The ordered pairs of different members of sets that are written one after another, each after
its size. -/
def groupPairs : (fuel : Nat) → List Nat → List (Nat × Nat)
  | 0, _ | _, [] => []
  | fuel + 1, size :: rest =>
    let group := rest.take size
    (group.flatMap fun a => (group.filter (· != a)).map fun b => (a, b))
      ++ groupPairs fuel (rest.drop size)

/-- Characters that differ in case only, each pair in both orders. -/
def foldPairs : List (Nat × Nat) :=
  let pairs := (Shift.unpack foldRuns).flatMap Shift.pairs
  let numbers := Text.unpack foldGroupNumbers
  pairs ++ pairs.map Prod.swap ++ groupPairs numbers.length numbers

/-- The set with every character that differs from a member in case only. -/
def Spans.folded (s : Spans) : Spans :=
  s.union (.ofList (foldPairs.filterMap fun (a, b) => if s.holds a then some ⟨b, b⟩ else none))

/-- The set with the letters `A` to `Z` in both cases. -/
def Spans.foldedAscii (s : Spans) : Spans :=
  let shifted (first shift : Int) : Spans :=
    (s.inter [⟨first.toNat, first.toNat + 25⟩]).map fun t =>
      ⟨(t.first + shift).toNat, (t.last + shift).toNat⟩
  (s.union (shifted 65 32)).union (shifted 97 (-32))

end CaseScript.Unicode

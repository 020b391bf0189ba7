import CaseScript.Regex.CharSet

/-!
# Regex/Basic — patterns and where they match

A pattern carries a set of positions of a text to the set of positions at which a match begun there
can end (`Regex.step`). A text of `n` characters has the positions `0` to `n`, and a set of them is
a list of `n + 1` flags. What a pattern captures, and which of several matches is preferred, has no
bearing on whether it matches.
-/

namespace CaseScript

namespace Regex

/-- A condition on the place between two characters. -/
inductive Look where
  | textStart
  | textEnd
  /-- The start of a line; `crlf` if a carriage return ends lines too. -/
  | lineStart (crlf : Bool)
  | lineEnd (crlf : Bool)
  /-- Exactly one side is a word character. -/
  | wordBoundary (ascii : Bool)
  | notWordBoundary (ascii : Bool)
  | wordStart (ascii : Bool)
  | wordEnd (ascii : Bool)
  | wordStartHalf (ascii : Bool)
  | wordEndHalf (ascii : Bool)
deriving DecidableEq, Repr

/-- Whether there is a word character. -/
def isWord (ascii : Bool) : Option Char → Bool
  | some c => if ascii then CharSet.asciiWord.mem c else Unicode.wordSet.mem c
  | none => false

/-- Whether the condition holds between the characters `before` and `after`. -/
def Look.holds (before after : Option Char) : Look → Bool
  | textStart => before.isNone
  | textEnd => after.isNone
  | lineStart false => before.isNone || before == some '\n'
  | lineStart true =>
    before.isNone || before == some '\n' || (before == some '\r' && after != some '\n')
  | lineEnd false => after.isNone || after == some '\n'
  | lineEnd true =>
    after.isNone || after == some '\r' || (after == some '\n' && before != some '\r')
  | wordBoundary ascii => isWord ascii before != isWord ascii after
  | notWordBoundary ascii => isWord ascii before == isWord ascii after
  | wordStart ascii => !isWord ascii before && isWord ascii after
  | wordEnd ascii => isWord ascii before && !isWord ascii after
  | wordStartHalf ascii => !isWord ascii before
  | wordEndHalf ascii => !isWord ascii after

end Regex

/-- A pattern. -/
inductive Regex where
  /-- Matches the empty text everywhere. -/
  | empty
  | set (s : Regex.CharSet)
  | look (l : Regex.Look)
  | seq (a b : Regex)
  | alt (a b : Regex)
  /-- At least `min` matches one after another, and no more than `max` if there is one. -/
  | «repeat» (a : Regex) (min : Nat) (max : Option Nat)
deriving Repr, Inhabited

namespace Regex

/-- A set of positions: one flag for each, from the start of the text to its end. -/
abbrev Marks := List Bool

/-- The positions in either set. -/
def Marks.union (a b : Marks) : Marks := List.zipWith (· || ·) a b

/-- The characters on the two sides of each position. -/
def sides (before : Option Char) : List Char → List (Option Char × Option Char)
  | [] => [(before, none)]
  | c :: cs => (before, some c) :: sides (some c) cs

/-- The positions of `m` at which the condition holds. -/
def keep (l : Look) (text : List Char) (m : Marks) : Marks :=
  List.zipWith (fun (before, after) b => b && l.holds before after) (sides none text) m

/-- The positions just after a character of the set that follows a position of `m`. -/
def advance (s : CharSet) (text : List Char) (m : Marks) : Marks :=
  false :: List.zipWith (fun c b => b && s.mem c) text m

/-- Applies a function `n` times. -/
def iterate (f : Marks → Marks) : Nat → Marks → Marks
  | 0, m => m
  | n + 1, m => iterate f n (f m)

/-- The positions that up to `n` rounds of `f` reach; a round that adds nothing is the last one. -/
def upTo (f : Marks → Marks) : Nat → Marks → Marks
  | 0, m => m
  | n + 1, m =>
    let joined := m.union (f m)
    if joined = m then m else upTo f n joined

/-- The positions that one round of `f` reaches after up to `n` others. -/
def onward (f : Marks → Marks) : Nat → Marks → Marks
  | 0, m => f m
  | n + 1, m =>
    let after := f m
    let joined := m.union after
    if joined = m then after else onward f n joined

/-- The positions at which a match begun at a position of `m` can end. A match does not go back, so
of more rounds than there are positions one stays where it is and might as well be left out or done
twice: a text of `n` characters has `n + 1` positions, and that many rounds do for any number. -/
def step (text : List Char) : Regex → Marks → Marks
  | empty, m => m
  | set s, m => advance s text m
  | look l, m => keep l text m
  | seq a b, m => step text b (step text a m)
  | alt a b, m => (step text a m).union (step text b m)
  | .repeat a min (some max), m =>
    let rounds := text.length + 1
    upTo (step text a) (Nat.min (max - min) rounds) (iterate (step text a) (Nat.min min rounds) m)
  | .repeat a 0 none, m => upTo (step text a) (text.length + 1) m
  | .repeat a (min + 1) none, m =>
    let rounds := text.length + 1
    onward (step text a) rounds (iterate (step text a) (Nat.min min rounds) m)

/-- Whether the pattern matches some part of the text. -/
def occursIn (r : Regex) (text : List Char) : Bool :=
  (r.step text (List.replicate (text.length + 1) true)).any id

/-- Whether the pattern matches the text from its start to its end. -/
def matchesWhole (r : Regex) (text : List Char) : Bool :=
  (r.step text (true :: List.replicate text.length false)).getLast? == some true

end Regex

end CaseScript

import CaseScript.Regex.Outline
import CaseScript.Text.Digits

/-!
# Regex/Reader — patterns from their text

The text is read from left to right with a stack of open groups (`Reader`). Each step takes one
element — a character, an escape, a bracketed set, a repetition mark or a group delimiter — and adds
it to the branch under construction, so the whole reading is an iteration of `Reader.step`. What
comes out is a pattern beside its outline (`Part`).

Flags take effect as they are read and last to the end of the enclosing group, over its later
branches too.
-/

namespace CaseScript.Regex

/-! ## Flags -/

/-- What the flags `i m s R u x U` have set. -/
structure Flags where
  /-- Case is ignored. -/
  ignoreCase : Bool
  /-- `^` and `$` match at the ends of lines. -/
  multiLine : Bool
  /-- `.` matches a line feed. -/
  dotNewline : Bool
  /-- A carriage return ends lines too. -/
  crlf : Bool
  /-- Named sets go beyond the first 128 characters. -/
  unicode : Bool
  /-- White space and comments in the pattern stand for nothing. -/
  spaced : Bool
  /-- Repetitions are reluctant unless they are marked so. -/
  reluctant : Bool

/-- What holds at the start of a pattern. -/
def Flags.initial : Flags := ⟨false, false, false, false, true, false, false⟩

/-- Sets one flag; `none` if no flag has that letter. -/
def Flags.set? (f : Flags) (letter : Char) (on : Bool) : Option Flags :=
  match letter with
  | 'i' => some { f with ignoreCase := on }
  | 'm' => some { f with multiLine := on }
  | 's' => some { f with dotNewline := on }
  | 'R' => some { f with crlf := on }
  | 'u' => some { f with unicode := on }
  | 'x' => some { f with spaced := on }
  | 'U' => some { f with reluctant := on }
  | _ => none

/-- Passes over white space and comments, where the pattern is spaced. -/
def skipSpace (spaced : Bool) (cs : List Char) : List Char :=
  if spaced then go false cs else cs
where
  /-- Passes over blanks, and inside a comment over everything to the end of the line. -/
  go : (comment : Bool) → List Char → List Char
    | _, [] => []
    | true, c :: cs => go (c ≠ '\n') cs
    | false, c :: cs =>
      if c = '#' then go true cs else if Unicode.isBlank c then go false cs else c :: cs

/-- Reads the letters of a group's flags up to the colon or parenthesis that ends them. `seen` are
the letters so far, and `last` is whether the last one was the minus sign. -/
def readFlags (flags : Flags) (seen : List Char) (on last : Bool) :
    List Char → Option (Flags × List Char × Char × List Char)
  | [] => none
  | c :: cs =>
    if c = ':' ∨ c = ')' then if last then none else some (flags, seen, c, cs)
    else if seen.contains c then none
    else if c = '-' then readFlags flags (c :: seen) false true cs
    else match flags.set? c on with
      | some flags => readFlags flags (c :: seen) on false cs
      | none => none

/-! ## Escapes -/

/-- What one element of a pattern, or of a bracketed set, can be. -/
inductive Element where
  | literal (c : Char)
  | set (s : CharSet)
  | look (l : Look)

/-- The value of a hexadecimal number; there has to be a digit. -/
def hexValue? (cs : List Char) : Option Nat :=
  if cs = [] then none
  else cs.foldlM (fun n c =>
    if c.isDigit then some (16 * n + (c.toNat - 48))
    else if 'a' ≤ c ∧ c ≤ 'f' then some (16 * n + (c.toNat - 87))
    else if 'A' ≤ c ∧ c ≤ 'F' then some (16 * n + (c.toNat - 55))
    else none) 0

/-- The character with a code point, if there is one. -/
def charOf? (n : Nat) : Option Char := if n.isValidChar then some (Char.ofNat n) else none

/-- The next character and what follows, after space that stands for nothing. -/
def next? (spaced : Bool) (cs : List Char) : Option (Char × List Char) :=
  match skipSpace spaced cs with
  | [] => none
  | c :: cs => some (c, cs)

/-- Exactly `n` characters, each of which may follow skipped space. -/
def takeSpaced (spaced : Bool) : Nat → List Char → Option (List Char × List Char)
  | 0, cs => some ([], cs)
  | n + 1, cs =>
    match next? spaced cs with
    | some (c, cs) => (takeSpaced spaced n cs).map fun (ds, rest) => (c :: ds, rest)
    | none => none

/-- The characters up to a closing brace, without the space that stands for nothing. Every round
takes a character, so `fuel` of them suffice. -/
def takeBracedFrom (spaced : Bool) : (fuel : Nat) → List Char → Option (List Char × List Char)
  | 0, _ => none
  | fuel + 1, cs =>
    match next? spaced cs with
    | some ('}', rest) => some ([], rest)
    | some (c, rest) => (takeBracedFrom spaced fuel rest).map fun (cs, rest) => (c :: cs, rest)
    | none => none

/-- The characters up to a closing brace, without the space that stands for nothing. -/
def takeBraced (spaced : Bool) (cs : List Char) : Option (List Char × List Char) :=
  takeBracedFrom spaced (cs.length + 1) cs

/-- A character given by its number: all digits in braces, or as many as the letter demands. Where
sets stop at the first 128 characters, two digits are a byte, which has to be below 128. -/
def readNumbered (flags : Flags) (letter : Char) (cs : List Char) :
    Option (Element × List Char) := do
  match next? flags.spaced cs with
  | some ('{', cs) =>
    let (digits, rest) ← takeBraced flags.spaced cs
    let c ← (hexValue? digits).bind charOf?
    some (.literal c, rest)
  | _ =>
    let width := if letter = 'x' then 2 else if letter = 'u' then 4 else 8
    let (digits, rest) ← takeSpaced flags.spaced width cs
    let c ← (hexValue? digits).bind charOf?
    if letter = 'x' ∧ ¬flags.unicode ∧ 128 ≤ c.toNat then none else some (.literal c, rest)

/-- The text before a part and the text after it. -/
def cutAround? (part : List Char) : List Char → Option (List Char × List Char)
  | [] => none
  | c :: cs =>
    match Text.dropFront? part (c :: cs) with
    | some rest => some ([], rest)
    | none => (cutAround? part cs).map fun (front, back) => (c :: front, back)

/-- The set that a name stands for, or a property and a value with one of three signs between them,
all of which mean the same. -/
def propertySet? (name : List Char) : Option CharSet :=
  match [['!', '='], [':'], ['=']].findSome? (cutAround? · name) with
  | some (property, value) => Unicode.valued? property value
  | none => Unicode.property? name

/-- The set with case ignored, where it is. -/
def Flags.fold (flags : Flags) (s : CharSet) : CharSet :=
  if flags.ignoreCase then (if flags.unicode then s.folded else s.foldedAscii) else s

/-- The complement of a set, where there is one: it has members beyond the first 128 characters, so
it cannot be named where sets stop there. -/
def Flags.negate? (flags : Flags) (negated : Bool) (s : CharSet) : Option CharSet :=
  if negated then (if flags.unicode then some s.compl else none) else some s

/-- A set of characters that all have a property. -/
def readProperty (flags : Flags) (negated : Bool) (cs : List Char) :
    Option (Element × List Char) := do
  let (name, rest) ← match next? flags.spaced cs with
    | some ('{', cs) => takeBraced flags.spaced cs
    | some ('\\', _) => none
    | some (c, cs) => some ([c], cs)
    | none => none
  let s ← propertySet? name
  if flags.unicode then some (.set ((flags.fold s).negatedIf negated), rest) else none

/-- The set of `\d`, `\s` or `\w`. -/
def classEscape? (flags : Flags) (letter : Char) : Option CharSet :=
  let pick (wide ascii : CharSet) : CharSet := if flags.unicode then wide else ascii
  match letter with
  | 'd' => some (pick Unicode.digitSet CharSet.asciiDigit)
  | 's' => some (pick Unicode.spaceSet CharSet.asciiSpace)
  | 'w' => some (pick Unicode.wordSet CharSet.asciiWord)
  | 'D' => flags.negate? true Unicode.digitSet
  | 'S' => flags.negate? true Unicode.spaceSet
  | 'W' => flags.negate? true Unicode.wordSet
  | _ => none

/-- A word boundary, possibly of a kind named in braces. Braces that hold no name are left to be
read as a repetition. -/
def readBoundary (flags : Flags) (cs : List Char) : Option (Element × List Char) :=
  let ascii := !flags.unicode
  match cs with
  | '{' :: cs' =>
    match next? flags.spaced cs' with
    | none => none
    | some (c, _) =>
      if c = '-' ∨ c.isAlpha then
        match takeBraced flags.spaced cs' with
        | some (name, rest) =>
          match String.ofList name with
          | "start" => some (.look (.wordStart ascii), rest)
          | "end" => some (.look (.wordEnd ascii), rest)
          | "start-half" => some (.look (.wordStartHalf ascii), rest)
          | "end-half" => some (.look (.wordEndHalf ascii), rest)
          | _ => none
        | none => none
      else some (.look (.wordBoundary ascii), cs)
  | cs => some (.look (.wordBoundary ascii), cs)

/-- What follows a backslash. -/
def readEscape (flags : Flags) : List Char → Option (Element × List Char)
  | [] => none
  | c :: cs =>
    if c = 'x' ∨ c = 'u' ∨ c = 'U' then readNumbered flags c cs
    else if c = 'p' ∨ c = 'P' then readProperty flags (c = 'P') cs
    else if c = 'd' ∨ c = 's' ∨ c = 'w' ∨ c = 'D' ∨ c = 'S' ∨ c = 'W' then
      (classEscape? flags c).map fun s => (.set s, cs)
    else match c with
      | 'a' => some (.literal '\x07', cs)
      | 'f' => some (.literal '\x0c', cs)
      | 't' => some (.literal '\t', cs)
      | 'n' => some (.literal '\n', cs)
      | 'r' => some (.literal '\r', cs)
      | 'v' => some (.literal '\x0b', cs)
      | 'A' => some (.look .textStart, cs)
      | 'z' => some (.look .textEnd, cs)
      | 'b' => readBoundary flags cs
      | 'B' => some (.look (.notWordBoundary !flags.unicode), cs)
      | '<' => some (.look (.wordStart !flags.unicode), cs)
      | '>' => some (.look (.wordEnd !flags.unicode), cs)
      | c => if c.toNat < 128 ∧ ¬c.isAlphanum then some (.literal c, cs) else none

/-! ## Bracketed sets -/

/-- The operations between the parts of a bracketed set. -/
inductive SetOp where
  | inter
  | diff
  | symmDiff

/-- The result of an operation. -/
def SetOp.apply : SetOp → CharSet → CharSet → CharSet
  | .inter => Unicode.Spans.inter
  | .diff => Unicode.Spans.diff
  | .symmDiff => Unicode.Spans.symmDiff

/-- A set and how deeply what spells it is nested. -/
structure Nested where
  members : CharSet
  depth : Nat

/-- A bracket under construction. -/
structure Bracket where
  negated : Bool
  /-- What stands before the operation that is under way, and that operation. -/
  left : Option (Nested × SetOp)
  /-- The union of what has been read since. -/
  items : Nested
  /-- How many items that is. -/
  count : Nat

namespace Bracket

/-- A bracket of which nothing has been read but a caret. -/
def opened (negated : Bool) : Bracket := ⟨negated, none, ⟨[], 0⟩, 0⟩

/-- What has been read so far, the operation under way applied. Two items or more are one level
deeper than each of them, and so is an operation. Operations ignore case on both sides first. -/
def value (flags : Flags) (b : Bracket) : Nested :=
  let right : Nested := if 2 ≤ b.count then { b.items with depth := b.items.depth + 1 } else b.items
  match b.left with
  | none => right
  | some (left, op) =>
    ⟨op.apply (flags.fold left.members) (flags.fold right.members), max left.depth right.depth + 1⟩

/-- The bracket with another item. -/
def add (b : Bracket) (item : Nested) : Bracket :=
  { b with
    items := ⟨b.items.members.union item.members, max b.items.depth item.depth⟩
    count := b.count + 1 }

/-- Begins the right side of an operation. -/
def operate (flags : Flags) (b : Bracket) (op : SetOp) : Bracket :=
  { opened b.negated with left := some (b.value flags, op) }

/-- The finished set, one level deeper than what is in the bracket. -/
def close? (flags : Flags) (b : Bracket) : Option Nested :=
  let v := b.value flags
  (flags.negate? b.negated (flags.fold v.members)).map fun s => ⟨s, v.depth + 1⟩

/-- Passes over the minus signs that open a bracket, each of which stands for itself. Every round
takes a character, so `fuel` of them suffice. -/
def openDashes (spaced : Bool) : (fuel : Nat) → Bracket → List Char → Bracket × List Char
  | fuel + 1, b, '-' :: cs =>
    openDashes spaced fuel (b.add ⟨.single '-', 0⟩) (skipSpace spaced cs)
  | _, b, cs => (b, cs)

/-- What follows an opening bracket: a caret that negates, then minus signs, or else perhaps a
closing bracket, that stand for themselves. -/
def start (spaced : Bool) (cs : List Char) : Bracket × List Char :=
  let (negated, cs) := match skipSpace spaced cs with
    | '^' :: cs => (true, skipSpace spaced cs)
    | cs => (false, cs)
  match cs with
  | ']' :: rest => ((opened negated).add ⟨.single ']', 0⟩, rest)
  | cs => openDashes spaced cs.length (opened negated) cs

end Bracket

/-- A named set `[:name:]`, whose opening bracket is read already; `none` if there is none, and no
set inside if it cannot be negated. -/
def readNamedSet (flags : Flags) : List Char → Option (Option CharSet × List Char)
  | ':' :: cs =>
    let (negated, cs) := match cs with
      | '^' :: cs => (true, cs)
      | cs => (false, cs)
    match Text.cutAt? ':' cs with
    | some (name, ']' :: rest) =>
      (CharSet.asciiNamed? (String.ofList name)).map fun s =>
        (flags.negate? negated (flags.fold s), rest)
    | _ => none
  | _ => none

/-- One character or escape of a bracketed set. -/
def readSetItem (flags : Flags) : List Char → Option (Element × List Char)
  | [] => none
  | '\\' :: cs => readEscape flags cs
  | c :: cs => some (.literal c, cs)

/-- The range between two characters of a bracketed set. -/
def setRange? (flags : Flags) (a b : Char) : Option CharSet :=
  if b < a ∨ (¬flags.unicode ∧ 128 ≤ b.toNat) then none else some [⟨a.toNat, b.toNat⟩]

/-- An item of a bracketed set as a set; a condition on places is none. -/
def Element.asSet? (flags : Flags) : Element → Option CharSet
  | .literal c => setRange? flags c c
  | .set s => some s
  | .look _ => none

/-- The character that stands after a minus sign, as far as it tells whether the sign is itself an
item. Where space stands for nothing, it is passed over, and so is one number sign. -/
def afterDash? (spaced : Bool) (cs : List Char) : Option Char :=
  if spaced then
    match cs.dropWhile Unicode.isBlank with
    | '#' :: cs => (cs.dropWhile Unicode.isBlank).head?
    | cs => cs.head?
  else cs.head?

/-- An item or a range of a bracketed set. -/
def readSetRange (flags : Flags) (cs : List Char) : Option (CharSet × List Char) := do
  let (first, rest) ← readSetItem flags cs
  let rest := skipSpace flags.spaced rest
  let alone := (first.asSet? flags).map fun s => (s, rest)
  match rest with
  | '-' :: after =>
    let next := afterDash? flags.spaced after
    if next = some ']' ∨ next = some '-' then alone
    else
      match first, ← readSetItem flags (skipSpace flags.spaced after) with
      | .literal a, (.literal b, rest) => (setRange? flags a b).map fun s => (s, rest)
      | _, _ => none
  | _ => alone

/-- Reads a bracketed set whose opening bracket is passed. `outer` are the brackets around the one
under construction; every step takes at least one character, so `fuel` characters suffice. -/
def readSet (flags : Flags) : (fuel : Nat) → (outer : List Bracket) → Bracket → List Char →
    Option (Nested × List Char)
  | 0, _, _, _ => none
  | fuel + 1, outer, b, cs =>
    match skipSpace flags.spaced cs with
    | [] => none
    | '[' :: rest =>
      match readNamedSet flags rest with
      | some (some s, rest) => readSet flags fuel outer (b.add ⟨s, 0⟩) rest
      | some (none, _) => none
      | none =>
        let (inner, rest) := Bracket.start flags.spaced rest
        readSet flags fuel (b :: outer) inner rest
    | ']' :: rest =>
      match b.close? flags, outer with
      | some s, [] => some (s, rest)
      | some s, o :: outer => readSet flags fuel outer (o.add s) rest
      | none, _ => none
    | '&' :: '&' :: rest => readSet flags fuel outer (b.operate flags .inter) rest
    | '-' :: '-' :: rest => readSet flags fuel outer (b.operate flags .diff) rest
    | '~' :: '~' :: rest => readSet flags fuel outer (b.operate flags .symmDiff) rest
    | cs =>
      match readSetRange flags cs with
      | some (s, rest) => readSet flags fuel outer (b.add ⟨s, 0⟩) rest
      | none => none

/-! ## Repetition counts -/

/-- The digits at the start of a text, between which there may be space that stands for nothing.
Every round takes a digit, so `fuel` of them suffice. -/
def takeDigits (spaced : Bool) : (fuel : Nat) → List Char → List Char × List Char
  | 0, cs => ([], cs)
  | fuel + 1, cs =>
    match cs with
    | c :: rest =>
      if c.isDigit then
        let (digits, rest) := takeDigits spaced fuel (skipSpace spaced rest)
        (c :: digits, rest)
      else ([], c :: rest)
    | [] => ([], [])

/-- A decimal number with blanks around it: `none` if there is no digit, and no number inside if it
is too large. -/
def readCount (spaced : Bool) (cs : List Char) : Option (Option Nat) × List Char :=
  let cs := cs.dropWhile Unicode.isBlank
  let (digits, rest) := takeDigits spaced cs.length cs
  let rest := rest.dropWhile Unicode.isBlank
  if digits = [] then (none, rest)
  else
    let n := ofDecimalDigits digits
    (some (if n < Nat.pow 2 32 then some n else none), rest)

/-- The bounds between braces; the opening brace is read already. -/
def readBounds (spaced : Bool) (cs : List Char) : Option (Nat × Option Nat × List Char) :=
  match readCount spaced (skipSpace spaced cs) with
  | (some (some low), ',' :: rest) =>
    match skipSpace spaced rest with
    | '}' :: rest => some (low, none, rest)
    | rest =>
      match readCount spaced rest with
      | (some (some high), '}' :: rest) => if low ≤ high then some (low, some high, rest) else none
      | _ => none
  | (some (some low), '}' :: rest) => some (low, some low, rest)
  | _ => none

/-! ## The reader -/

/-- One element of a branch: its pattern and the outline of that, how deeply it is nested, and
whether it may be repeated. -/
structure Part where
  regex : Regex
  outline : Outline
  depth : Nat
  repeatable : Bool

namespace Part

/-- A set of characters. -/
def ofSet (flags : Flags) (s : CharSet) (depth : Nat) : Part :=
  ⟨.set s, .ofSet (!flags.unicode) s, depth, true⟩

/-- What matches the empty text. -/
def empty (repeatable : Bool) : Part := ⟨.empty, .empty, 0, repeatable⟩

/-- A branch from its parts, the last one first. -/
def ofParts : List Part → Part
  | [] => empty true
  | [p] => p
  | ps =>
    ⟨ps.foldl (fun r p => .seq p.regex r) .empty, .ofParts (ps.reverse.map outline),
      (ps.map depth).foldl max 0 + 1, true⟩

/-- The part repeated. -/
def repeated (p : Part) (reluctant : Bool) (min : Nat) (max : Option Nat) : Part :=
  ⟨.repeat p.regex min max, .ofRepeat reluctant min max p.outline, p.depth + 1, true⟩

end Part

/-- A group under construction. -/
structure Group where
  /-- Its number, if its match is kept. -/
  number : Option Nat
  /-- The finished branches, the last one first. -/
  branches : List Part
  /-- The parts of the current branch, the last one first. -/
  parts : List Part
  /-- The flags to go back to when the group ends. -/
  outerFlags : Flags

namespace Group

/-- The content of the group as one part. -/
def value (g : Group) : Part :=
  let last := Part.ofParts g.parts
  if g.branches.isEmpty then last
  else
    ⟨g.branches.foldl (fun r p => .alt p.regex r) last.regex,
      .ofBranches ((last :: g.branches).reverse.map Part.outline),
      (g.branches.map Part.depth).foldl max last.depth + 1, true⟩

/-- The group with another part. -/
def add (g : Group) (p : Part) : Group := { g with parts := p :: g.parts }

end Group

/-- The state of the reading: the group under construction, those around it, the flags in force, the
number of groups so far whose match is kept, and the names of groups. -/
structure Reader where
  group : Group
  outer : List Group
  flags : Flags
  numbered : Nat
  names : List (List Char)

namespace Reader

/-- The state at the start of a pattern. -/
def initial : Reader := ⟨⟨none, [], [], .initial⟩, [], .initial, 0, []⟩

/-- The reader with another part in the current branch. -/
def add (s : Reader) (p : Part) : Reader := { s with group := s.group.add p }

/-- The reader with a condition on the place. -/
def addLook (s : Reader) (l : Look) : Reader := s.add ⟨.look l, .look l, 0, true⟩

/-- The reader with an element as a part. -/
def element (s : Reader) : Element → Reader
  | .literal c => s.add (.ofSet s.flags (s.flags.fold (.single c)) 0)
  | .set cs => s.add (.ofSet s.flags cs 0)
  | .look l => s.addLook l

/-- What the point stands for; beyond the first 128 characters nothing can be named without the
flag for it. -/
def dot? (flags : Flags) : Option CharSet :=
  if ¬flags.unicode then none
  else if flags.dotNewline then some .full
  else if flags.crlf then some (Unicode.Spans.compl [⟨10, 10⟩, ⟨13, 13⟩])
  else some (Unicode.Spans.single '\n').compl

/-- Repeats the last part of the branch. A mark for the other of the two preferences may follow. -/
def repeatLast (s : Reader) (min : Nat) (max : Option Nat) (rest : List Char) :
    Option (Reader × List Char) :=
  match s.group.parts with
  | p :: parts =>
    if p.repeatable then
      let (marked, rest) := match rest with
        | '?' :: rest => (true, rest)
        | rest => (false, rest)
      let repeated := p.repeated (marked != s.flags.reluctant) min max
      some ({ s with group := { s.group with parts := repeated :: parts } }, rest)
    else none
  | [] => none

/-- Opens a group whose content is under the given flags. -/
def openGroup (s : Reader) (kept : Bool) (flags : Flags) : Reader :=
  let numbered := if kept then s.numbered + 1 else s.numbered
  { s with
    group := ⟨if kept then some numbered else none, [], [], s.flags⟩
    outer := s.group :: s.outer
    flags := flags
    numbered := numbered }

/-- The first characters of a name are letters or the underscore. -/
def isNameStart (c : Char) : Bool := c = '_' || Unicode.alphabeticSet.mem c

/-- Whether a text can name a group. -/
def isName : List Char → Bool
  | [] => false
  | c :: cs => isNameStart c && cs.all fun c =>
    isNameStart c || c = '.' || c = '[' || c = ']' || Unicode.numericSet.mem c

/-- Opens a group with a name that no other group has. -/
def openNamed (s : Reader) (cs : List Char) : Option (Reader × List Char) :=
  match Text.cutAt? '>' cs with
  | some (name, rest) =>
    if isName name ∧ ¬s.names.contains name then
      some ({ s.openGroup true s.flags with names := name :: s.names }, rest)
    else none
  | none => none

/-- What follows an opening parenthesis. -/
def readOpening (s : Reader) (cs : List Char) : Option (Reader × List Char) :=
  match skipSpace s.flags.spaced cs with
  | '?' :: '=' :: _ | '?' :: '!' :: _ => none
  | '?' :: '<' :: '=' :: _ | '?' :: '<' :: '!' :: _ => none
  | '?' :: 'P' :: '<' :: cs | '?' :: '<' :: cs => s.openNamed cs
  | '?' :: cs =>
    match readFlags s.flags [] true false cs with
    | some (flags, seen, ')', rest) =>
      if seen.isEmpty then none else some ({ s with flags := flags }.add (.empty false), rest)
    | some (flags, _, _, rest) => some (s.openGroup false flags, rest)
    | none => none
  | cs => some (s.openGroup true s.flags, cs)

/-- Ends the current group. -/
def closeGroup? (s : Reader) : Option Reader :=
  match s.outer with
  | [] => none
  | o :: outer =>
    let p := s.group.value
    let outline := match s.group.number with
      | some n => .group n p.outline
      | none => p.outline
    some { s with
      group := o.add ⟨p.regex, outline, p.depth + 1, true⟩
      outer := outer
      flags := s.group.outerFlags }

/-- Takes one element. -/
def step (s : Reader) (c : Char) (cs : List Char) : Option (Reader × List Char) :=
  match c with
  | '(' => s.readOpening cs
  | ')' => s.closeGroup?.map fun s => (s, cs)
  | '|' => some ({ s with group := { s.group with
      branches := Part.ofParts s.group.parts :: s.group.branches, parts := [] } }, cs)
  | '[' =>
    let (b, rest) := Bracket.start s.flags.spaced cs
    (readSet s.flags (cs.length + 1) [] b rest).map fun (read, rest) =>
      (s.add (.ofSet s.flags read.members read.depth), rest)
  | '?' => s.repeatLast 0 (some 1) cs
  | '*' => s.repeatLast 0 none cs
  | '+' => s.repeatLast 1 none cs
  | '{' =>
    match readBounds s.flags.spaced cs with
    | some (low, high, rest) => s.repeatLast low high (skipSpace s.flags.spaced rest)
    | none => none
  | '\\' => (readEscape s.flags cs).map fun (e, rest) => (s.element e, rest)
  | '.' => (dot? s.flags).map fun members => (s.add (.ofSet s.flags members 0), cs)
  | '^' => some (s.addLook (if s.flags.multiLine then .lineStart s.flags.crlf else .textStart), cs)
  | '$' => some (s.addLook (if s.flags.multiLine then .lineEnd s.flags.crlf else .textEnd), cs)
  | c => some (s.element (.literal c), cs)

/-- Takes elements to the end of the text. Every step takes at least one character, so `fuel` above
their number suffices. -/
def run : (fuel : Nat) → Reader → List Char → Option Reader
  | 0, _, _ => none
  | fuel + 1, s, cs =>
    match skipSpace s.flags.spaced cs with
    | [] => some s
    | c :: cs =>
      match s.step c cs with
      | some (s, rest) => run fuel s rest
      | none => none

end Reader

/-- How deeply groups, branches, repetitions and brackets may be nested. -/
def maxDepth : Nat := 250

/-- The pattern that a text spells, and its outline. -/
def parse? (cs : List Char) : Option (Regex × Outline) :=
  match Reader.run (cs.length + 1) .initial cs with
  | some s =>
    if s.outer.isEmpty then
      let p := s.group.value
      if p.depth ≤ maxDepth then some (p.regex, p.outline) else none
    else none
  | none => none

end CaseScript.Regex

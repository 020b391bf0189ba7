/-!
# Yaml/Text — the characters of a block document

Layout counts: what a line means depends on its column, so a place in the text (`Cursor`) keeps line
and column beside what is left to read. A line break is one character or a carriage return with a
line feed.
-/

namespace CaseScript.Yaml

/-- Whether a document may hold a character. -/
def isAllowed (c : Char) : Bool :=
  c = '\t' || c = '\n' || c = '\r' || (' ' ≤ c && c ≤ '~') || c = '\u0085'
    || ('\u00a0' ≤ c && c ≤ '\ufffd') || 0x10000 ≤ c.toNat

/-- A space or a tab. -/
def isBlank (c : Char) : Bool := c = ' ' || c = '\t'

/-- A character that breaks a line. -/
def isBreak (c : Char) : Bool :=
  c = '\n' || c = '\r' || c = '\u0085' || c = '\u2028' || c = '\u2029'

/-- Whether what is left begins with a blank or a break, or is nothing. -/
def endsWord : List Char → Bool
  | [] => true
  | c :: _ => isBlank c || isBreak c

/-- What a break becomes in the text of a scalar: a line feed, unless it separates lines or
paragraphs. -/
def breakText (c : Char) : List Char :=
  if c = '\u2028' ∨ c = '\u2029' then [c] else ['\n']

/-- The break at the start of a text, as it stands in a scalar, and what follows. -/
def break? : List Char → Option (List Char × List Char)
  | '\r' :: '\n' :: cs => some (['\n'], cs)
  | c :: cs => if isBreak c then some (breakText c, cs) else none
  | [] => none

/-- Whether a text begins with the mark that starts or ends a document. -/
def atDocumentMark (mark : Char) : List Char → Bool
  | a :: b :: c :: cs => a = mark && b = mark && c = mark && endsWord cs
  | _ => false

/-- Whether a text begins with either mark of a document. -/
def atAnyDocumentMark (cs : List Char) : Bool := atDocumentMark '-' cs || atDocumentMark '.' cs

/-- Whether a character can stand in the name of an anchor, a tag or a directive. -/
def isNameChar (c : Char) : Bool := c.isAlphanum || c = '_' || c = '-'

/-- A text without its leading blanks. -/
def skipBlanks (cs : List Char) : List Char := cs.dropWhile isBlank

/-- What follows the rest of a line that may hold only blanks and a comment. -/
def lineEnd? (cs : List Char) : Option (List Char) :=
  let cs := skipBlanks cs
  let cs := match cs with
    | '#' :: _ => cs.dropWhile fun c => !isBreak c
    | cs => cs
  match break? cs, cs with
  | some (_, rest), _ => some rest
  | none, [] => some []
  | none, _ => none

/-! ## Places -/

/-- A place in the text. -/
structure Cursor where
  rest : List Char
  index : Nat
  line : Nat
  column : Nat
deriving Repr

namespace Cursor

/-- The place at the beginning of a text. -/
def start (cs : List Char) : Cursor := ⟨cs, 0, 0, 0⟩

/-- The place after the next character. -/
def next (c : Cursor) : Cursor :=
  match c.rest with
  | [] => c
  | '\r' :: '\n' :: cs => ⟨'\n' :: cs, c.index + 1, c.line, c.column + 1⟩
  | a :: cs =>
    if isBreak a then ⟨cs, c.index + 1, c.line + 1, 0⟩ else ⟨cs, c.index + 1, c.line, c.column + 1⟩

/-- The place after a number of characters. -/
def skip : Nat → Cursor → Cursor
  | 0, c => c
  | n + 1, c => skip n c.next

/-- The place where just `rest` is left to read. -/
def moveTo (c : Cursor) (rest : List Char) : Cursor := c.skip (c.rest.length - rest.length)

end Cursor

/-! ## Gaps -/

/-- Blanks and breaks between two words of a scalar. Blanks count only if there is no break. -/
structure Gap where
  blanks : List Char
  /-- The first break and those after it, if the line is broken. -/
  breaks : Option (List Char × List Char)
deriving Repr

namespace Gap

/-- No gap. -/
def none : Gap := ⟨[], .none⟩

/-- A gap that begins with a break which does not count. -/
def joined : Gap := ⟨[], some ([], [])⟩

/-- Whether the line is broken. -/
def isBroken (g : Gap) : Bool := g.breaks.isSome

/-- The gap with one more blank. -/
def addBlank (g : Gap) (c : Char) : Gap :=
  if g.isBroken then g else { g with blanks := g.blanks ++ [c] }

/-- The gap with one more break. -/
def addBreak (g : Gap) (text : List Char) : Gap :=
  match g.breaks with
  | .none => ⟨[], some (text, [])⟩
  | some (first, more) => ⟨[], some (first, more ++ text)⟩

/-- What a gap becomes in the text of a scalar: a single line feed folds into a space. -/
def text (g : Gap) : List Char :=
  match g.breaks with
  | .none => g.blanks
  | some (['\n'], []) => [' ']
  | some (['\n'], more) => more
  | some (first, more) => first ++ more

/-- Reads a gap that goes on from the given column, and gives the column after it. On a new line no
tab may stand left of `margin`. -/
def read? (margin : Nat) : (column : Nat) → Gap → List Char → Option (Gap × Nat × List Char)
  | column, g, [] => some (g, column, [])
  | _, g, '\r' :: '\n' :: cs => read? margin 0 (g.addBreak ['\n']) cs
  | column, g, c :: cs =>
    if isBlank c then
      if g.isBroken && c = '\t' && column < margin then .none
      else read? margin (column + 1) (g.addBlank c) cs
    else if isBreak c then read? margin 0 (g.addBreak (breakText c)) cs
    else some (g, column, c :: cs)

end Gap

end CaseScript.Yaml

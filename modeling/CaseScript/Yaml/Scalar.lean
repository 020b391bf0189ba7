import CaseScript.Record.Node
import CaseScript.Yaml.Text

/-!
# Yaml/Scalar — the text of scalars

A scalar is unquoted, in single or double quotes, or a block of lines. All but blocks fold breaks:
one becomes a space, and of several the first is dropped.
-/

namespace CaseScript.Yaml

/-- How a scalar is written. -/
inductive ScalarStyle where
  | plain
  | quoted
  | literal
  | folded
deriving DecidableEq, Repr

/-! ## Unquoted scalars -/

/-- The characters with a meaning of their own between brackets. -/
def isFlowMark (c : Char) : Bool := c = ',' || c = '[' || c = ']' || c = '{' || c = '}'

/-- Whether a colon before this text would be misread between brackets. -/
def misleadsColon : List Char → Bool
  | c :: _ => isFlowMark c || c = '?'
  | [] => false

/-- Reads characters of an unquoted scalar up to a blank or what ends it. -/
def plainWord? (inFlow : Bool) : List Char → Option (List Char × List Char)
  | [] => some ([], [])
  | c :: cs =>
    if isBlank c || isBreak c then some ([], c :: cs)
    else if inFlow && c = ':' && misleadsColon cs then none
    else if (c = ':' && endsWord cs) || (inFlow && isFlowMark c) then some ([], c :: cs)
    else (plainWord? inFlow cs).map fun (word, rest) => (c :: word, rest)

/-- What was read of an unquoted scalar. -/
structure PlainText where
  text : List Char
  /-- Whether a line was broken after the last word. -/
  broken : Bool
  rest : List Char
deriving Repr

/-- Reads an unquoted scalar on from the words in `text` and the gap after them. -/
def plainFrom? (inFlow : Bool) (margin : Nat) : (fuel : Nat) → (text : List Char) → Gap →
    (column : Nat) → List Char → Option PlainText
  | 0, text, gap, _, cs => some ⟨text, gap.isBroken, cs⟩
  | fuel + 1, text, gap, column, cs =>
    if column = 0 ∧ atAnyDocumentMark cs then some ⟨text, gap.isBroken, cs⟩
    else match cs with
      | '#' :: _ => some ⟨text, gap.isBroken, cs⟩
      | cs =>
        match plainWord? inFlow cs with
        | none => none
        | some ([], _) => some ⟨text, gap.isBroken, cs⟩
        | some (word, rest) =>
          let text := text ++ gap.text ++ word
          match Gap.read? margin (column + word.length) .none rest with
          | none => none
          | some (gap, column, rest) =>
            if !inFlow && column < margin then some ⟨text, gap.isBroken, rest⟩
            else plainFrom? inFlow margin fuel text gap column rest

/-- Reads an unquoted scalar that begins in the given column. -/
def plain? (inFlow : Bool) (margin column : Nat) (cs : List Char) : Option PlainText :=
  plainFrom? inFlow margin (cs.length + 1) [] .none column cs

/-! ## Quoted scalars -/

/-- Reads characters between single quotes up to a blank, a break or the end quote. -/
def singleRun : List Char → List Char × List Char
  | [] => ([], [])
  | '\'' :: '\'' :: cs =>
    let (word, rest) := singleRun cs
    ('\'' :: word, rest)
  | c :: cs =>
    if c = '\'' || isBlank c || isBreak c then ([], c :: cs)
    else
      let (word, rest) := singleRun cs
      (c :: word, rest)

/-- The character that an escape of one letter stands for. -/
def escaped? (c : Char) : Option Char :=
  match c with
  | '0' => some '\x00'
  | 'a' => some '\x07'
  | 'b' => some '\x08'
  | 't' | '\t' => some '\t'
  | 'n' => some '\n'
  | 'v' => some '\x0b'
  | 'f' => some '\x0c'
  | 'r' => some '\r'
  | 'e' => some '\x1b'
  | ' ' | '"' | '/' | '\\' => some c
  | 'N' => some '\u0085'
  | '_' => some '\u00a0'
  | 'L' => some '\u2028'
  | 'P' => some '\u2029'
  | _ => none

/-- How many digits follow the letter of an escape. -/
def escapeDigits? (c : Char) : Option Nat :=
  match c with
  | 'x' => some 2
  | 'u' => some 4
  | 'U' => some 8
  | _ => none

/-- The character with a number. -/
def charOf? (n : Nat) : Option Char := if n.isValidChar then some (Char.ofNat n) else none

/-- What was read between double quotes, up to a blank, a break or the end quote. -/
structure QuotedRun where
  word : List Char
  /-- Whether an escaped break ended it. -/
  joined : Bool
  rest : List Char
deriving Repr

/-- The run with a character before it. -/
def QuotedRun.cons (c : Char) (r : QuotedRun) : QuotedRun := { r with word := c :: r.word }

/-- Reads characters between double quotes; `digits` of an escape with value `n` are still to
come. -/
def doubleRun? : (digits n : Nat) → List Char → Option QuotedRun
  | 0, _, [] => some ⟨[], false, []⟩
  | 0, _, '\\' :: cs =>
    match cs with
    | '\r' :: '\n' :: cs => some ⟨[], true, cs⟩
    | c :: cs =>
      if isBreak c then some ⟨[], true, cs⟩
      else match escapeDigits? c, escaped? c with
        | some digits, _ => doubleRun? digits 0 cs
        | none, some e => (doubleRun? 0 0 cs).map (.cons e)
        | none, none => none
    | [] => none
  | 0, _, c :: cs =>
    if c = '"' || isBlank c || isBreak c then some ⟨[], false, c :: cs⟩
    else (doubleRun? 0 0 cs).map (.cons c)
  | _ + 1, _, [] => none
  | digits + 1, n, c :: cs =>
    match Scalar.digitIn? 16 c with
    | none => none
    | some d =>
      let n := 16 * n + d
      if digits = 0 then
        match charOf? n with
        | some e => (doubleRun? 0 0 cs).map (.cons e)
        | none => none
      else doubleRun? digits n cs

/-- Reads characters in quotes of either kind. -/
def quotedRun? (quote : Char) (cs : List Char) : Option QuotedRun :=
  if quote = '"' then doubleRun? 0 0 cs
  else
    let (word, rest) := singleRun cs
    some ⟨word, false, rest⟩

/-- Reads on in quotes; `text` is what came before. -/
def quotedFrom? (quote : Char) : (fuel : Nat) → (text : List Char) → (column : Nat) → List Char →
    Option (List Char × List Char)
  | 0, _, _, _ => none
  | fuel + 1, text, column, cs =>
    if column = 0 ∧ atAnyDocumentMark cs then none
    else match quotedRun? quote cs with
      | none => none
      | some run =>
        let text := text ++ run.word
        match run.rest with
        | [] => none
        | c :: rest =>
          if c = quote then some (text, rest)
          else
            let gap := if run.joined then Gap.joined else .none
            -- a column that is not zero stands for all of them
            match Gap.read? 0 (if run.joined then 0 else 1) gap run.rest with
            | none => none
            | some (gap, column, rest) => quotedFrom? quote fuel (text ++ gap.text) column rest

/-- Reads a scalar after its opening quote. -/
def quoted? (quote : Char) (cs : List Char) : Option (List Char × List Char) :=
  quotedFrom? quote (cs.length + 1) [] 1 cs

/-! ## Blocks -/

/-- What becomes of the breaks after the last line of a block. -/
inductive Chomp where
  | clip
  | strip
  | keep
deriving DecidableEq, Repr

/-- What the first line of a block says: what becomes of its last breaks, and how far its lines are
indented, zero if that is not said. -/
structure BlockHeader where
  chomp : Chomp
  indent : Nat
deriving Repr

/-- Reads a sign for the last breaks. -/
def chompMark? : List Char → Option (Chomp × List Char)
  | '+' :: cs => some (.keep, cs)
  | '-' :: cs => some (.strip, cs)
  | _ => none

/-- Reads a digit for the indentation, zero if there is none. The digit zero is refused. -/
def indentMark? : List Char → Option (Nat × List Char)
  | c :: cs =>
    if c = '0' then none else if c.isDigit then some (digitValue c, cs) else some (0, c :: cs)
  | [] => some (0, [])

/-- Reads the first line of a block; its two marks may come in either order. -/
def blockHeader? (cs : List Char) : Option (BlockHeader × List Char) :=
  match chompMark? cs with
  | some (chomp, cs) =>
    match indentMark? cs with
    | some (indent, cs) => (lineEnd? cs).map fun rest => (⟨chomp, indent⟩, rest)
    | none => none
  | none =>
    match indentMark? cs with
    | some (indent, cs) =>
      let (chomp, cs) := if indent = 0 then (.clip, cs) else (chompMark? cs).getD (.clip, cs)
      (lineEnd? cs).map fun rest => (⟨chomp, indent⟩, rest)
    | none => none

/-- The indentation and blank lines before a line of a block. -/
structure BlockGap where
  breaks : List Char
  column : Nat
  /-- The greatest column that was reached. -/
  widest : Nat
  rest : List Char
deriving Repr

/-- Reads the indentation of a line with the blank lines before it; zero stands for an indentation
that is not known yet. No tab may stand in it. -/
def blockGap? (indent : Nat) : (column widest : Nat) → (breaks : List Char) → List Char →
    Option BlockGap
  | column, widest, breaks, [] => some ⟨breaks, column, max widest column, []⟩
  | column, widest, breaks, '\r' :: '\n' :: cs =>
    blockGap? indent 0 (max widest column) (breaks ++ ['\n']) cs
  | column, widest, breaks, c :: cs =>
    let within : Bool := indent = 0 || column < indent
    if within && c = ' ' then blockGap? indent (column + 1) widest breaks cs
    else if within && c = '\t' then none
    else if isBreak c then blockGap? indent 0 (max widest column) (breaks ++ breakText c) cs
    else some ⟨breaks, column, max widest column, c :: cs⟩

/-- What was read of a block. -/
structure BlockText where
  text : List Char
  /-- The break after the last line. -/
  last : List Char
  /-- The breaks of blank lines after it. -/
  breaks : List Char
  /-- Whether the last line begins with a blank. -/
  led : Bool
deriving Repr

/-- The text once another line is about to follow, which begins with a blank or not. A break between
lines that begin with no blank folds into a space, or into the blank lines after it. -/
def BlockText.join (folded : Bool) (b : BlockText) (blank : Bool) : List Char :=
  if folded && b.last = ['\n'] && !b.led && !blank then
    b.text ++ (if b.breaks = [] then [' '] else b.breaks)
  else b.text ++ b.last ++ b.breaks

/-- The text of a block that ends there. -/
def BlockText.finish (b : BlockText) : Chomp → List Char
  | .strip => b.text
  | .clip => b.text ++ b.last
  | .keep => b.text ++ b.last ++ b.breaks

/-- Reads the lines of a block that are indented as they should. -/
def blockLines? (folded : Bool) (indent : Nat) : (fuel : Nat) → BlockText → (column : Nat) →
    List Char → Option (BlockText × List Char)
  | 0, b, _, cs => some (b, cs)
  | _ + 1, b, _, [] => some (b, [])
  | fuel + 1, b, column, c :: cs =>
    if column ≠ indent then some (b, c :: cs)
    else
      let line := (c :: cs).takeWhile fun c => !isBreak c
      let rest := (c :: cs).drop line.length
      let (last, rest) := (break? rest).getD ([], rest)
      match blockGap? indent 0 0 [] rest with
      | none => none
      | some gap =>
        blockLines? folded indent fuel
          ⟨b.join folded (isBlank c) ++ line, last, gap.breaks, isBlank c⟩ gap.column gap.rest

/-- Reads a block after its sign: its text and what follows. Its lines are indented at least up to
`margin`, or by the given number of columns more than what is around it. -/
def block? (folded : Bool) (margin : Nat) (cs : List Char) : Option (List Char × List Char) :=
  match blockHeader? cs with
  | none => none
  | some (header, cs) =>
    let known := if header.indent = 0 then 0 else (margin - 1) + header.indent
    match blockGap? known 0 0 [] cs with
    | none => none
    | some gap =>
      let indent := if known = 0 then max (max gap.widest margin) 1 else known
      match blockLines? folded indent (cs.length + 1) ⟨[], [], gap.breaks, false⟩ gap.column
          gap.rest with
      | none => none
      | some (b, rest) => some (b.finish header.chomp, rest)

end CaseScript.Yaml

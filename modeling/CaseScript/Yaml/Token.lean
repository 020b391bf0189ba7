import CaseScript.Yaml.Scalar
import CaseScript.Yaml.Tag

/-!
# Yaml/Token — block documents cut into tokens

Indentation becomes tokens: where content begins further to the right than the block around it, a
block is opened, and where it returns to the left, blocks are closed. That a scalar was a key is
seen only at its colon, so tokens that may begin a key are remembered (`KeyStart`) and the token for
the key is put before them later. Such a key lies on one line and is at most 1024 characters long.
-/

namespace CaseScript.Yaml

/-- A token. -/
inductive Token where
  | directive (d : Directive)
  | documentStart
  | documentEnd
  /-- A block sequence begins. -/
  | listOpen
  /-- A block mapping begins. -/
  | mapOpen
  /-- A block ends. -/
  | blockEnd
  /-- A bracket, brace or comma. -/
  | flow (c : Char)
  /-- An item of a block sequence follows. -/
  | item
  | key
  | value
  | alias (name : List Char)
  | anchor (name : List Char)
  | tag (t : TagMark)
  | scalar (text : List Char) (style : ScalarStyle)
deriving Repr

/-- Where a key may have begun. -/
structure KeyStart where
  /-- How many tokens came before it. -/
  position : Nat
  index : Nat
  line : Nat
  column : Nat
  /-- Whether nothing but a key can stand there. -/
  required : Bool
deriving Repr

/-- The greatest length of a key without a mark before it. -/
def maxKeyLength : Nat := 1024

/-- How far a text is cut into tokens. -/
structure Layout where
  place : Cursor
  /-- One more than the column of the innermost block, zero outside of all. -/
  margin : Nat
  /-- The margins around the innermost block. -/
  margins : List Nat
  /-- Where a key may have begun, for each open bracket, and last for the blocks around. -/
  keys : List (Option KeyStart)
  keyAllowed : Bool
  /-- The tokens, the last one first. -/
  tokens : List Token
deriving Repr

namespace Layout

/-- The beginning of a text. A mark for the order of bytes is passed over and takes a column. -/
def start (cs : List Char) : Layout :=
  let place := Cursor.start cs
  let place := match cs with
    | '\ufeff' :: _ => place.next
    | _ => place
  ⟨place, 0, [], [none], true, []⟩

/-- Whether brackets are open. -/
def inFlow (l : Layout) : Bool := 1 < l.keys.length

/-- Adds a token. -/
def add (l : Layout) (t : Token) : Layout := { l with tokens := t :: l.tokens }

/-- Adds a token that stands after `position` others. -/
def insertAt (l : Layout) (position : Nat) (t : Token) : Layout :=
  let later := l.tokens.length - position
  { l with tokens := l.tokens.take later ++ t :: l.tokens.drop later }

/-- Moves to where just `rest` is left to read. -/
def moveTo (l : Layout) (rest : List Char) : Layout := { l with place := l.place.moveTo rest }

/-- Moves over one character. -/
def skip (l : Layout) : Layout := { l with place := l.place.next }

/-! ## Blocks -/

/-- Opens a block in a column that lies right of the innermost one. -/
def openBlock (l : Layout) (column position : Nat) (t : Token) : Layout :=
  if !l.inFlow && l.margin ≤ column then
    { l with margin := column + 1, margins := l.margin :: l.margins }.insertAt position t
  else l

/-- Closes the blocks with a margin above the given one. -/
def closeBlocks (margin : Nat) (l : Layout) : Layout :=
  if l.inFlow then l else go l l.margins
where
  /-- Closes blocks from the innermost on. -/
  go (l : Layout) : List Nat → Layout
    | [] => l
    | outer :: more =>
      if margin < l.margin then
        go ({ l with margin := outer, margins := more }.add .blockEnd) more
      else l

/-! ## Keys -/

/-- Whether a key that began there may still be met with its colon. -/
def KeyStart.isFresh (k : KeyStart) (place : Cursor) : Bool :=
  k.line = place.line && place.index ≤ k.index + maxKeyLength

/-- Forgets the keys that did not meet their colon in time. -/
def dropStaleKeys? (l : Layout) : Option Layout :=
  let isStale (k : KeyStart) : Bool := !KeyStart.isFresh k l.place
  if l.keys.any fun k => k.any fun k => isStale k && k.required then none
  else some { l with keys := l.keys.map fun k => k.filter fun k => !isStale k }

/-- Replaces the key that may have begun at the current level. -/
def setKey (l : Layout) (k : Option KeyStart) : Layout := { l with keys := k :: l.keys.drop 1 }

/-- The key that may have begun at the current level. -/
def key? (l : Layout) : Option KeyStart := l.keys.head?.join

/-- Forgets the key of the current level, which must not have been required. -/
def dropKey? (l : Layout) : Option Layout :=
  if l.key?.any (·.required) then none else some (l.setKey none)

/-- Remembers that a key may begin here, if one may. -/
def noteKey? (l : Layout) : Option Layout :=
  if l.keyAllowed then
    let p := l.place
    l.dropKey?.map fun l => l.setKey (some
      ⟨l.tokens.length, p.index, p.line, p.column, !l.inFlow && l.margin = p.column + 1⟩)
  else some l

/-- Says whether a key may begin next. -/
def allowKey (l : Layout) (allowed : Bool) : Layout := { l with keyAllowed := allowed }

/-! ## Between tokens -/

/-- The beginning of the next token: blanks, comments and breaks are passed over. Where a key may
begin in a block, tabs are not blanks; after a break in a block a key may begin. -/
def toNextToken : (fuel : Nat) → Layout → Layout
  | 0, l => l
  | fuel + 1, l =>
    match l.place.rest with
    | [] => l
    | c :: cs =>
      if c = ' ' ∨ (c = '\t' ∧ (l.inFlow ∨ ¬l.keyAllowed)) then toNextToken fuel l.skip
      else
        let l := if c = '#' then l.moveTo ((c :: cs).dropWhile fun c => !isBreak c) else l
        match break? l.place.rest with
        | some (_, rest) =>
          toNextToken fuel ((l.moveTo rest).allowKey (l.keyAllowed || !l.inFlow))
        | none => l

/-! ## Tokens -/

/-- Takes a mark that ends all blocks. -/
def takeOuter? (l : Layout) (rest : List Char) (t : Token) : Option Layout :=
  (l.closeBlocks 0).dropKey?.map fun l => ((l.add t).allowKey false).moveTo rest

/-- Takes an opening bracket. -/
def takeOpening? (l : Layout) (c : Char) : Option Layout :=
  l.noteKey?.map fun l => ({ l with keys := none :: l.keys }.add (.flow c)).skip.allowKey true

/-- Takes a closing bracket. -/
def takeClosing? (l : Layout) (c : Char) : Option Layout :=
  l.dropKey?.map fun l =>
    let keys := if l.inFlow then l.keys.drop 1 else l.keys
    ({ l with keys := keys }.add (.flow c)).skip.allowKey false

/-- Takes a comma. -/
def takeComma? (l : Layout) : Option Layout :=
  l.dropKey?.map fun l => (l.add (.flow ',')).skip.allowKey true

/-- Takes a sign that may open a block of its own; `sign` follows in it, and a key may follow the
sign as `keyAfter` says. -/
def takeSign? (l : Layout) (opening sign : Token) (keyAfter : Bool) : Option Layout :=
  if !l.inFlow && !l.keyAllowed then none
  else
    (l.openBlock l.place.column l.tokens.length opening).dropKey?.map fun l =>
      (l.add sign).skip.allowKey keyAfter

/-- Takes a colon: a key that began before it gets its token, and perhaps a block. -/
def takeColon? (l : Layout) : Option Layout :=
  match l.key? with
  | some k =>
    let l := (l.insertAt k.position .key).openBlock k.column k.position .mapOpen
    some (((l.setKey none).add .value).skip.allowKey false)
  | none => l.takeSign? .mapOpen .value (!l.inFlow)

/-- Takes a token that may begin a key. -/
def takeNode? (l : Layout) (read : Option (Token × List Char)) : Option Layout :=
  match l.noteKey?, read with
  | some l, some (t, rest) => some (((l.add t).allowKey false).moveTo rest)
  | _, _ => none

/-- Takes an unquoted scalar. A key may follow it on a new line. -/
def takePlain? (l : Layout) : Option Layout :=
  match l.noteKey?, plain? l.inFlow l.margin l.place.column l.place.rest with
  | some l, some p =>
    some (((l.add (.scalar p.text .plain)).allowKey p.broken).moveTo p.rest)
  | _, _ => none

/-- Takes a block scalar. -/
def takeBlock? (l : Layout) (style : ScalarStyle) (cs : List Char) : Option Layout :=
  match l.dropKey?, block? (style = .folded) l.margin cs with
  | some l, some (text, rest) => some (((l.add (.scalar text style)).allowKey true).moveTo rest)
  | _, _ => none

/-- The signs that cannot begin an unquoted scalar, apart from those that may if a word follows. -/
def isReserved (c : Char) : Bool :=
  [',', '[', ']', '{', '}', '#', '&', '*', '!', '|', '>', '\'', '"', '%', '@', '\x60'].contains c

/-- Whether an unquoted scalar may begin with a character before the given text. -/
def beginsPlain (l : Layout) (c : Char) (cs : List Char) : Bool :=
  if c = '-' then !(cs.head?.any isBlank)
  else if c = '?' || c = ':' then !l.inFlow && !endsWord cs
  else !isReserved c && !endsWord (c :: cs)

/-- Takes the token that begins with a character before the given text. -/
def take? (l : Layout) (c : Char) (cs : List Char) : Option Layout :=
  let first : Bool := l.place.column = 0
  let flow := l.inFlow
  if first && c = '%' then
    match directive? cs with
    | some (d, rest) => l.takeOuter? rest (.directive d)
    | none => none
  else if first && atDocumentMark '-' (c :: cs) then l.takeOuter? (cs.drop 2) .documentStart
  else if first && atDocumentMark '.' (c :: cs) then l.takeOuter? (cs.drop 2) .documentEnd
  else if c = '[' || c = '{' then l.takeOpening? c
  else if c = ']' || c = '}' then l.takeClosing? c
  else if c = ',' then l.takeComma?
  else if c = '-' && endsWord cs then l.takeSign? .listOpen .item true
  else if c = '?' && (flow || endsWord cs) then l.takeSign? .mapOpen .key (!flow)
  else if c = ':' && (flow || endsWord cs) then l.takeColon?
  else if c = '*' then l.takeNode? ((anchorName? cs).map fun (n, rest) => (.alias n, rest))
  else if c = '&' then l.takeNode? ((anchorName? cs).map fun (n, rest) => (.anchor n, rest))
  else if c = '!' then l.takeNode? ((tag? flow cs).map fun (t, rest) => (.tag t, rest))
  else if c = '|' && !flow then l.takeBlock? .literal cs
  else if c = '>' && !flow then l.takeBlock? .folded cs
  else if c = '\'' || c = '"' then
    l.takeNode? ((quoted? c cs).map fun (text, rest) => (.scalar text .quoted, rest))
  else if l.beginsPlain c cs then l.takePlain?
  else none

/-- Ends the text: all blocks are closed. The end counts as the beginning of a line. -/
def finish? (l : Layout) : Option (List Token) :=
  (l.closeBlocks 0).dropKey?.map fun l => l.tokens.reverse

/-- Takes tokens up to the end. -/
def run? : (fuel : Nat) → Layout → Option (List Token)
  | 0, _ => none
  | fuel + 1, l =>
    match (l.toNextToken (l.place.rest.length + 1)).dropStaleKeys? with
    | none => none
    | some l =>
      let l := l.closeBlocks (l.place.column + 1)
      match l.place.rest with
      | [] => l.finish?
      | c :: cs => (l.take? c cs).bind (run? fuel)

end Layout

/-- The tokens of a text. -/
def tokens? (cs : List Char) : Option (List Token) :=
  if cs.all isAllowed then (Layout.start cs).run? (cs.length + 2) else none

end CaseScript.Yaml

import CaseScript.Text.Digits
import CaseScript.Text.Search
import CaseScript.Unicode.Case
import CaseScript.Unicode.Property

/-!
# Sql/Shape — what a statement is expected to return

The shape of a statement is read off its text: whether it selects, whether it asks for one row, and
how many columns it names. Comments, case and white space are evened out first (`evenText`).
-/

namespace CaseScript.Sql

/-! ## Even text -/

/-- Replaces each block comment by a blank. One without an end is left as it is. -/
def dropBlocksFrom : (skip : Nat) → List Char → List Char
  | _, [] => []
  | skip + 1, _ :: cs => dropBlocksFrom skip cs
  | 0, c :: cs =>
    match c, cs with
    | '/', '*' :: rest =>
      match blockLength? rest with
      | some n => ' ' :: dropBlocksFrom (n + 1) cs
      | none => c :: dropBlocksFrom 0 cs
    | _, _ => c :: dropBlocksFrom 0 cs
where
  /-- How many characters there are to the end of a block comment, the end included. -/
  blockLength? : List Char → Option Nat
    | '*' :: '/' :: _ => some 2
    | _ :: cs => (blockLength? cs).map (· + 1)
    | [] => none

/-- Replaces each comment that lasts to the end of its line by a blank. -/
def dropLines : (comment : Bool) → List Char → List Char
  | _, [] => []
  | true, c :: cs => if c = '\n' then c :: dropLines false cs else dropLines true cs
  | false, c :: cs =>
    match c, cs with
    | '-', '-' :: _ => ' ' :: dropLines true cs
    | _, _ => c :: dropLines false cs

/-- Lower-case words of a statement without comments, with one blank between them. -/
def evenText (sql : String) : List Char :=
  let cs := dropLines false (dropBlocksFrom 0 sql.toList)
  let cs := (Unicode.lower cs).map fun c => if Unicode.isControl c then ' ' else c
  List.intercalate [' '] (Text.words cs)

/-! ## Depth -/

/-- Where a scan of a statement stands: inside a literal or not, and how many parentheses are
open. -/
structure Scan where
  quoted : Bool
  depth : Nat
deriving DecidableEq, Repr

/-- The start of a statement. -/
def Scan.start : Scan := ⟨false, 0⟩

/-- Whether neither a literal nor a parenthesis is open. -/
def Scan.isTop (s : Scan) : Bool := !s.quoted && s.depth == 0

/-- Whether a character opens or closes something where the scan stands. -/
def Scan.isMark (s : Scan) (c : Char) : Bool :=
  c == '\'' || (!s.quoted && (c == '(' || c == ')'))

/-- Passes a character. -/
def Scan.next (s : Scan) (c : Char) : Scan :=
  if c = '\'' then { s with quoted := !s.quoted }
  else if s.quoted then s
  else if c = '(' then { s with depth := s.depth + 1 }
  else if c = ')' then { s with depth := s.depth - 1 }
  else s

/-- Cuts a text at the first place at the top where `needle` begins, but not before `from_`
characters; the needle begins the second part. -/
def cutAtTop? (needle : List Char) : (from_ : Nat) → Scan → List Char →
    Option (List Char × List Char)
  | _, _, [] => none
  | from_, s, c :: cs =>
    if from_ = 0 ∧ s.isTop ∧ ¬s.isMark c ∧ needle.isPrefixOf (c :: cs) then some ([], c :: cs)
    else (cutAtTop? needle (from_ - 1) (s.next c) cs).map fun (front, back) => (c :: front, back)

/-- A text cut at the commas at the top. -/
def topItems : Scan → List Char → List (List Char)
  | _, [] => [[]]
  | s, c :: cs =>
    if c = ',' ∧ s.isTop then [] :: topItems s cs
    else match topItems (s.next c) cs with
      | [] => [[c]]
      | item :: items => (c :: item) :: items

/-! ## Columns -/

/-- The rest of a text after a word that begins it, or all of it. -/
def dropWord (word : String) (cs : List Char) : List Char :=
  match Text.dropFront? word.toList cs with
  | some rest => Text.trimStart rest
  | none => cs

/-- What stands between the first `select` at the top and its `from`, without `distinct`, `all` and
a row count. -/
def selectList? (text : List Char) : Option (List Char) :=
  (cutAtTop? "select ".toList 0 .start text).map fun (front, _) =>
    let start := front.length + "select ".length
    let listed := match cutAtTop? " from ".toList start .start text with
      | some (before, _) => before.drop start
      | none => text.drop start
    let listed := dropWord "all " (dropWord "distinct " (Text.trim listed))
    match Text.dropFront? "top ".toList listed with
    | some rest =>
      match Text.cutAt? ' ' rest with
      | some (_, tail) => Text.trimStart tail
      | none => []
    | none => listed

/-- Whether an item stands for any number of columns. -/
def isStar (item : List Char) : Bool :=
  let item := Text.trim item
  item == ['*'] || ['.', '*'].isSuffixOf item

/-- How many columns a list names, unless an item stands for any number of them. -/
def countColumns? (listed : List Char) : Option Nat :=
  let items := topItems .start listed
  if items.any isStar then none else some items.length

/-! ## One row -/

/-- Whether the next character, if any, is not part of a word. -/
def endsWord : List Char → Bool
  | [] => true
  | c :: _ => !Unicode.wordSet.mem c

/-- The rest of a text after white space, of which there is some. -/
def afterBlanks? : List Char → Option (List Char)
  | c :: cs => if Unicode.isBlank c then some (Text.trimStart cs) else none
  | [] => none

/-- Whether words, each followed by white space except the last one, begin the text, and a word ends
there. -/
def beginsWithWords : List String → List Char → Bool
  | [], cs => endsWord cs
  | [w], cs =>
    match Text.dropFront? w.toList cs with
    | some rest => endsWord rest
    | none => false
  | w :: ws, cs =>
    match (Text.dropFront? w.toList cs).bind afterBlanks? with
    | some rest => beginsWithWords ws rest
    | none => false

/-- The phrases that ask for one row. -/
def singleRowPhrases : List (List String) := [
  ["limit", "1"], ["top", "1"], ["fetch", "first", "1", "row"], ["fetch", "first", "1", "rows"]]

/-- Whether a phrase that asks for one row begins at some word of the text; `inWord` is whether the
character before it is part of a word. -/
def asksOneRow : (inWord : Bool) → List Char → Bool
  | _, [] => false
  | inWord, c :: cs =>
    (!inWord && singleRowPhrases.any fun p => beginsWithWords p (c :: cs))
      || asksOneRow (Unicode.wordSet.mem c) cs

end CaseScript.Sql

namespace CaseScript

/-- What a statement is expected to return. -/
structure SqlShape where
  isSelect : Bool
  /-- Whether one row at most is asked for. -/
  singleRow : Bool
  /-- The number of selected columns, if the text tells it. -/
  columns : Option Nat
deriving DecidableEq, Repr

/-- The shape of a statement. -/
def SqlShape.ofSql (sql : String) : SqlShape :=
  let text := Sql.evenText sql
  let isSelect := "select".toList.isPrefixOf text || "with".toList.isPrefixOf text
  { isSelect := isSelect
    singleRow := isSelect && Sql.asksOneRow false text
    columns := if isSelect then (Sql.selectList? text).bind Sql.countColumns? else none }

end CaseScript

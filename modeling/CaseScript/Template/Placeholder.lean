import CaseScript.Json.Text
import CaseScript.Text.NameSet
import CaseScript.Text.Search

/-!
# Template/Placeholder — names in double braces, and values in their place

A text is cut into pieces once (`pieces`): a placeholder is two opening braces, any text without
braces, and two closing ones. Collecting names and putting values in their place both read the same
pieces, so they agree on what a placeholder is. A text that is one placeholder takes the value with
its type; elsewhere the value is spliced in as text.
-/

namespace CaseScript

namespace Template

/-! ## Pieces -/

/-- A piece of a text. -/
inductive Piece where
  | char (c : Char)
  /-- A placeholder, by what stands between its braces. -/
  | slot (inner : List Char)
deriving DecidableEq, Repr

/-- A piece as it is written. -/
def Piece.text : Piece → List Char
  | .char c => [c]
  | .slot inner => '{' :: '{' :: (inner ++ ['}', '}'])

/-- Whether a character is neither brace. -/
def isInner (c : Char) : Bool := c ≠ '{' && c ≠ '}'

/-- What stands between the braces of the placeholder that begins the text. -/
def slot? : List Char → Option (List Char)
  | '{' :: '{' :: cs =>
    match cs.dropWhile isInner with
    | '}' :: '}' :: _ => some (cs.takeWhile isInner)
    | _ => none
  | _ => none

/-- The pieces of a text of which the first `skip` characters are read already. -/
def piecesFrom : (skip : Nat) → List Char → List Piece
  | _, [] => []
  | skip + 1, _ :: cs => piecesFrom skip cs
  | 0, c :: cs =>
    match slot? (c :: cs) with
    | some inner => .slot inner :: piecesFrom (inner.length + 3) cs
    | none => .char c :: piecesFrom 0 cs

/-- The pieces of a text. -/
def pieces (cs : List Char) : List Piece := piecesFrom 0 cs

/-- The name that a placeholder asks for. -/
def slotName (inner : List Char) : String := String.ofList (Text.trim inner)

/-! ## Names -/

/-- The names that a text asks for, in order; a blank one asks for nothing. -/
def namesInText (s : String) : List String :=
  ((pieces s.toList).filterMap fun
    | .slot inner => some (slotName inner)
    | .char _ => none).filter (· ≠ "")

mutual

/-- The names in every string and key of a value, in order. -/
def namesIn : Json → List String
  | .str s => namesInText s
  | .arr items => namesInItems items
  | .obj entries => namesInEntries entries
  | _ => []

/-- The names in every item of a list. -/
def namesInItems : List Json → List String
  | [] => []
  | v :: vs => namesIn v ++ namesInItems vs

/-- The names in every entry of an object. -/
def namesInEntries : List (String × Json) → List String
  | [] => []
  | (k, v) :: es => namesInText k ++ (namesIn v ++ namesInEntries es)

end

/-- The names that a value asks for, sorted and each once. -/
def placeholderNames (v : Json) : List String := nameSet (namesIn v)

mutual

/-- The keys under which the parts of a value store their results. -/
def storedKeysIn : Json → List String
  | .arr items => storedKeysInItems items
  | .obj entries => storedKeysInEntries entries
  | _ => []

/-- The keys under which the items of a list store their results. -/
def storedKeysInItems : List Json → List String
  | [] => []
  | v :: vs => storedKeysIn v ++ storedKeysInItems vs

/-- The keys under which the entries of an object store their results. -/
def storedKeysInEntries : List (String × Json) → List String
  | [] => []
  | (k, v) :: es =>
    (match v with
      | .str s => if k = "storedKey" then [trimmed s] else []
      | v => storedKeysIn v) ++ storedKeysInEntries es

end

/-- The keys under which a value stores results, sorted and each once. -/
def storedKeys (v : Json) : List String := nameSet (storedKeysIn v)

/-- The names that have to be supplied before a value can run: neither responses of steps nor stored
results. -/
def requiredNames (v : Json) : List String :=
  let stored := storedKeys v
  (placeholderNames v).filter fun name =>
    !"response".toList.isPrefixOf name.toList && !stored.contains (rootOf name)

/-! ## Values -/

/-- Text for a literal of a statement: every single quote is doubled. -/
def doubleQuotes (cs : List Char) : List Char :=
  cs.flatMap fun c => if c = '\'' then ['\'', '\''] else [c]

mutual

/-- A value for a statement: the single quotes of all strings and keys are doubled. -/
def escapeQuotes : Json → Json
  | .str s => .str (String.ofList (doubleQuotes s.toList))
  | .arr items => .arr (escapeItems items)
  | .obj entries => .obj (Keyed.ofPairs (escapeEntries entries))
  | v => v

/-- The items of a list with their quotes doubled. -/
def escapeItems : List Json → List Json
  | [] => []
  | v :: vs => escapeQuotes v :: escapeItems vs

/-- The entries of an object with their quotes doubled. -/
def escapeEntries : List (String × Json) → List (String × Json)
  | [] => []
  | (k, v) :: es => (String.ofList (doubleQuotes k.toList), escapeQuotes v) :: escapeEntries es

end

/-- A piece with its value as text, or as written if its name has none. -/
def splicePiece (values : Entries) (inSql : Bool) : Piece → List Char
  | .char c => [c]
  | .slot inner =>
    match values.get? (slotName inner) with
    | some v => if inSql then doubleQuotes v.plain.toList else v.plain.toList
    | none => (Piece.slot inner).text

/-- A text with the values of its placeholders as text. -/
def splice (values : Entries) (inSql : Bool) (s : String) : String :=
  String.ofList ((pieces s.toList).flatMap (splicePiece values inSql))

/-- A string with its placeholders replaced; one that is a single placeholder becomes its value. -/
def fillText (values : Entries) (inSql : Bool) (s : String) : Json :=
  match pieces s.toList with
  | [.slot inner] =>
    match values.get? (slotName inner) with
    | some v => if inSql then escapeQuotes v else v
    | none => .str s
  | _ => .str (splice values inSql s)

mutual

/-- A value with its placeholders replaced. Below a key `sql` quotes are doubled. -/
def fill (values : Entries) (inSql : Bool) : Json → Json
  | .str s => fillText values inSql s
  | .arr items => .arr (fillItems values inSql items)
  | .obj entries => .obj (Keyed.ofPairs (fillEntries values inSql entries))
  | v => v

/-- The items of a list with their placeholders replaced. -/
def fillItems (values : Entries) (inSql : Bool) : List Json → List Json
  | [] => []
  | v :: vs => fill values inSql v :: fillItems values inSql vs

/-- The entries of an object with their placeholders replaced, in keys too. -/
def fillEntries (values : Entries) (inSql : Bool) : List (String × Json) → List (String × Json)
  | [] => []
  | (k, v) :: es =>
    (splice values false k, fill values (inSql || k = "sql") v) :: fillEntries values inSql es

end

/-- How many times a template is filled, the values of one pass being the template of the next. -/
def maxPasses : Nat := 3

end Template

end CaseScript

import CaseScript.Json.Basic

/-!
# Record/Node — a document as read, before its meaning is settled

A node keeps what a value forgets: entries stay in the order of the text and may repeat a key, and a
scalar of a block document stays text until the place it fills says what it should be. `toJson?`
settles all of that for free-form data.
-/

namespace CaseScript

/-- A tag of a block document. -/
inductive NodeTag where
  | name (s : String)
  /-- Bytes that are no text. -/
  | garbled
deriving DecidableEq, Repr

/-- A scalar of a block document. -/
structure Scalar where
  /-- The text, once quotes, folds and escapes are undone. -/
  text : String
  /-- Whether it was written without quotes and indicators. -/
  plain : Bool
  /-- Whether it was written as a literal block. -/
  literal : Bool
  /-- The tag that was written before it. -/
  tag : Option NodeTag
deriving Repr, Inhabited

/-- A document as read. -/
inductive Node where
  | null
  | bool (b : Bool)
  | num (n : Number)
  | str (s : String)
  | scalar (s : Scalar)
  /-- A sequence; `positional` if it may stand for a record, its fields in order. -/
  | seq (positional : Bool) (items : List Node)
  | map (entries : List (Node × Node))
  /-- A collection whose tag names a type that no value has. -/
  | tagged (content : Node)
  /-- What cannot be read. -/
  | broken
deriving Repr, Inhabited

/-! ## Scalars of block documents -/

namespace Scalar

/-- The spellings of the null value. -/
def isNullText (s : String) : Bool := s = "null" || s = "Null" || s = "NULL" || s = "~"

/-- The truth value that a text spells. -/
def truth? (s : String) : Option Bool :=
  if s = "true" ∨ s = "True" ∨ s = "TRUE" then some true
  else if s = "false" ∨ s = "False" ∨ s = "FALSE" then some false
  else none

/-- The value of a digit in a base up to sixteen. -/
def digitIn? (base : Nat) (c : Char) : Option Nat :=
  let v :=
    if c.isDigit then c.toNat - '0'.toNat
    else if 'a' ≤ c ∧ c ≤ 'f' then c.toNat - 'a'.toNat + 10
    else if 'A' ≤ c ∧ c ≤ 'F' then c.toNat - 'A'.toNat + 10
    else base
  if v < base then some v else none

/-- The number that digits spell in a base; there has to be a digit. -/
def digitsIn? (base : Nat) : List Char → Option Nat
  | [] => none
  | c :: cs => (c :: cs).foldlM (fun n c => (digitIn? base c).map (base * n + ·)) 0

/-- A leading zero followed by digits only: text, not a number. -/
def isPaddedNumber (cs : List Char) : Bool :=
  let cs := match cs with
    | '-' :: cs => cs
    | '+' :: cs => cs
    | cs => cs
  match cs with
  | '0' :: c :: cs => (c :: cs).all Char.isDigit
  | _ => false

/-- Digits after a mark for base sixteen, eight or two. -/
def markedDigits? : List Char → Option Nat
  | '0' :: 'x' :: cs => digitsIn? 16 cs
  | '0' :: 'o' :: cs => digitsIn? 8 cs
  | '0' :: 'b' :: cs => digitsIn? 2 cs
  | _ => none

/-- A number without a minus sign. -/
def unsigned? (cs : List Char) : Option Nat :=
  let body := match cs with
    | '+' :: cs => cs
    | cs => cs
  match markedDigits? body with
  | some n => some n
  | none => if isPaddedNumber cs then none else digitsIn? 10 body

/-- A number with a minus sign, as its magnitude. -/
def negated? : List Char → Option Nat
  | '-' :: cs =>
    match markedDigits? cs with
    | some n => some n
    | none => if isPaddedNumber ('-' :: cs) then none else digitsIn? 10 cs
  | _ => none

/-- The whole number that a text spells: within 64 bits a value, within 128 bits no value at all,
and beyond that not read as a whole number. -/
def whole? (cs : List Char) : Option (Option Int) :=
  match unsigned? cs with
  | some n =>
    if n < Nat.pow 2 64 then some (some n) else if n < Nat.pow 2 128 then some none else none
  | none =>
    match negated? cs with
    | some n =>
      if n ≤ Nat.pow 2 63 then some (some (-n)) else if n ≤ Nat.pow 2 127 then some none else none
    | none => none

/-- The double that a text spells, infinities and NaN with a leading point. -/
def real? (s : String) : Option Binary64 :=
  let cs := s.toList
  let body := match cs with
    | '+' :: cs => cs
    | cs => cs
  let doubled := match cs with
    | '+' :: '+' :: _ | '+' :: '-' :: _ => true
    | _ => false
  let word := String.ofList body
  if doubled then none
  else if word = ".inf" ∨ word = ".Inf" ∨ word = ".INF" then some (.infinite false)
  else if s = "-.inf" ∨ s = "-.Inf" ∨ s = "-.INF" then some (.infinite true)
  else if s = ".nan" ∨ s = ".NaN" ∨ s = ".NAN" then some (.nan false)
  else match Binary64.parse? body with
    | some (.finite negative m e) => some (.finite negative m e)
    | _ => none

/-- A double as a value; what is not finite becomes null. -/
def ofReal : Binary64 → Json
  | .finite negative m e => .num (.real (.finite negative m e))
  | _ => .null

/-- The value of an unquoted text. -/
def resolve? (s : String) : Option Json :=
  let cs := s.toList
  if cs = [] ∨ isNullText s then some .null
  else match truth? s with
    | some b => some (.bool b)
    | none =>
      match whole? cs with
      | some n => n.map fun n => .num (.whole n)
      | none =>
        match if isPaddedNumber cs then none else real? s with
        | some x => some (ofReal x)
        | none => some (.str s)

/-- The tags with a meaning of their own share this beginning. -/
def coreTag (name : String) : String := "tag:yaml.org,2002:" ++ name

/-- Whether a tag begins with an exclamation mark, which announces a type that no value has. -/
def isForeignTag : Option NodeTag → Bool
  | some (.name s) => ['!'].isPrefixOf s.toList
  | _ => false

/-- The value of a scalar in free-form data. -/
def value? (s : Scalar) : Option Json :=
  if isForeignTag s.tag then none
  else match s.tag with
    | some (.name tag) =>
      if tag = coreTag "bool" then (truth? s.text).map .bool
      else if tag = coreTag "int" then
        match whole? s.text.toList with
        | some (some n) => some (.num (.whole n))
        | _ => none
      else if tag = coreTag "float" then (real? s.text).map ofReal
      else if tag = coreTag "null" then if isNullText s.text then some .null else none
      else some (.str s.text)
    | none | some .garbled => if s.plain then resolve? s.text else some (.str s.text)

/-- Whether nothing was written. -/
def isBlankPlain (s : Scalar) : Bool := s.plain && s.text = ""

/-- Whether an optional place takes the scalar for absent. -/
def isAbsent (s : Scalar) : Bool :=
  s.plain && (match s.tag with
    | some tag => tag = .name (coreTag "null") && isNullText s.text
    | none => s.text = "" || isNullText s.text)

/-- Whether the scalar is tagged as null although its text is not. -/
def isFalseNull (s : Scalar) : Bool :=
  s.plain && s.tag = some (.name (coreTag "null")) && !isNullText s.text

/-- The scalar where a whole number, a truth value or the like is demanded: unquoted, or a literal
block with that very tag. -/
def typedText? (name : String) (s : Scalar) : Option String :=
  if s.plain ∨ (s.literal ∧ s.tag = some (.name (coreTag name))) then some s.text else none

end Scalar

namespace Node

mutual

/-- A value as a node. -/
def ofJson : Json → Node
  | .null => .null
  | .bool b => .bool b
  | .num n => .num n
  | .str s => .str s
  | .arr items => .seq true (ofItems items)
  | .obj entries => .map (ofEntries entries)

/-- The items of an array as nodes. -/
def ofItems : List Json → List Node
  | [] => []
  | v :: vs => ofJson v :: ofItems vs

/-- The entries of an object as nodes. -/
def ofEntries : List (String × Json) → List (Node × Node)
  | [] => []
  | (k, v) :: es => (.str k, ofJson v) :: ofEntries es

end

/-- A node without its foreign tag, which counts only in free-form data. -/
def content : Node → Node
  | .tagged n => n
  | n => n

/-- A key as text. Inside a part that was read ahead (`settled`) an unquoted key has already become
a value, and only a string can be a key. -/
def keyText? (settled : Bool) : Node → Option String
  | .str s => some s
  | .scalar s =>
    if settled then
      match s.value? with
      | some (.str t) => some t
      | _ => none
    else some s.text
  | _ => none

mutual

/-- The free-form value of a node; of two entries with one key the later counts. -/
def toJson? (settled : Bool) : Node → Option Json
  | .null => some .null
  | .bool b => some (.bool b)
  | .num n => some (.num n)
  | .str s => some (.str s)
  | .scalar s => s.value?
  | .seq _ items => (toItems? settled items).map .arr
  | .map entries => (toPairs? settled entries).map fun ps => .obj (Keyed.ofPairs ps)
  | .tagged _ | .broken => none

/-- The free-form values of a sequence. -/
def toItems? (settled : Bool) : List Node → Option (List Json)
  | [] => some []
  | n :: ns =>
    match toJson? settled n, toItems? settled ns with
    | some v, some vs => some (v :: vs)
    | _, _ => none

/-- The entries of a map with their free-form values. -/
def toPairs? (settled : Bool) : List (Node × Node) → Option (List (String × Json))
  | [] => some []
  | (k, n) :: es =>
    match keyText? settled k, toJson? settled n, toPairs? settled es with
    | some key, some v, some ps => some ((key, v) :: ps)
    | _, _, _ => none

end

mutual

/-- How deeply sequences and maps are nested. -/
def depth : Node → Nat
  | .seq _ items => depthOfItems items + 1
  | .map entries => depthOfEntries entries + 1
  | .tagged n => depth n
  | _ => 0

/-- The depth of the deepest item. -/
def depthOfItems : List Node → Nat
  | [] => 0
  | n :: ns => max (depth n) (depthOfItems ns)

/-- The depth of the deepest entry. -/
def depthOfEntries : List (Node × Node) → Nat
  | [] => 0
  | (k, v) :: es => max (max (depth k) (depth v)) (depthOfEntries es)

end

end Node

end CaseScript

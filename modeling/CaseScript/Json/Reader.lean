import CaseScript.Json.Token

/-!
# Json/Reader — tokens assembled into a document

The tokens are folded into a stack of open arrays and objects; `Reader.Stage` says what may come
next. A document is at most 127 containers deep.
-/

namespace CaseScript

namespace Reader

/-- A container that is not closed yet, its contents in reverse. -/
inductive Open where
  | items (rev : List Node)
  /-- Entries, and the key whose value is being read. -/
  | entries (rev : List (Node × Node)) (key : String)
deriving Repr, Inhabited

/-- What may come next. -/
inductive Stage where
  | value
  /-- A value, or the end of an array that is still empty. -/
  | firstItem
  | key
  /-- A key, or the end of an object that is still empty. -/
  | firstKey
  | colon
  /-- A comma or the end of the innermost container. -/
  | more
  /-- Nothing: the document is complete. -/
  | done (n : Node)
deriving Repr, Inhabited

/-- Puts a complete value into the innermost open container. -/
def place (n : Node) : List Open → Stage × List Open
  | [] => (.done n, [])
  | .items rev :: rest => (.more, .items (n :: rev) :: rest)
  | .entries rev key :: rest => (.more, .entries ((.str key, n) :: rev) key :: rest)

/-- Takes one token. -/
def step? : Stage × List Open → Token → Option (Stage × List Open)
  | (.value, stack), .value n => some (place n stack)
  | (.firstItem, stack), .value n => some (place n stack)
  | (.key, .entries rev _ :: rest), .value (.str k) => some (.colon, .entries rev k :: rest)
  | (.firstKey, .entries rev _ :: rest), .value (.str k) => some (.colon, .entries rev k :: rest)
  | (stage, stack), .mark c =>
    let opens : Bool := match stage with
      | .value | .firstItem => true
      | _ => false
    if opens ∧ c = '[' then some (.firstItem, .items [] :: stack)
    else if opens ∧ c = '{' then some (.firstKey, .entries [] "" :: stack)
    else match stage, stack with
      | .firstItem, .items _ :: rest => if c = ']' then some (place (.seq true []) rest) else none
      | .firstKey, .entries _ _ :: rest => if c = '}' then some (place (.map []) rest) else none
      | .colon, stack => if c = ':' then some (.value, stack) else none
      | .more, .items rev :: rest =>
        if c = ',' then some (.value, .items rev :: rest)
        else if c = ']' then some (place (.seq true rev.reverse) rest)
        else none
      | .more, .entries rev key :: rest =>
        if c = ',' then some (.key, .entries rev key :: rest)
        else if c = '}' then some (place (.map rev.reverse) rest)
        else none
      | _, _ => none
  | _, _ => none

/-- Takes a list of tokens. -/
def run? : Stage × List Open → List Token → Option (Stage × List Open)
  | state, [] => some state
  | state, t :: ts =>
    match step? state t with
    | some next => run? next ts
    | none => none

end Reader

/-- The greatest depth of a document. -/
def Json.maxDepth : Nat := 127

/-- Reads a document text. -/
def Node.ofJsonText? (s : String) : Option Node :=
  match Token.scan? .between s.toList with
  | none => none
  | some ts =>
    match Reader.run? (.value, []) ts with
    | some (.done n, _) => if n.depth ≤ Json.maxDepth then some n else none
    | _ => none

/-- Reads a document text as a value. -/
def Json.parse? (s : String) : Option Json := (Node.ofJsonText? s).bind (Node.toJson? false)

/-- Text that begins like an array or object is read as one if it is one; anything else is left
as it is. -/
def Json.decodeText : Json → Json
  | .str s =>
    match s.toList with
    | '{' :: _ | '[' :: _ => (parse? s).getD (.str s)
    | _ => .str s
  | v => v

end CaseScript

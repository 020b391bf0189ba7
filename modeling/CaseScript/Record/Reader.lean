import CaseScript.Json.Text
import CaseScript.Record.Node
import CaseScript.Record.Quoted

/-!
# Record/Reader — records from documents

A record is described by its fields in order, each with the function that reads it in (`Field`). A
map gives them by name: its entries are read in their order, unknown names are passed over or kept,
and the first field that had to be there and was not is reported last. A sequence may give them by
place.
-/

namespace CaseScript

/-- Why a document is not what was to be read. -/
inductive ReadFault where
  /-- Something of another kind was found. -/
  | wrongType (found expected : String)
  /-- Something of the right kind lies outside the range. -/
  | wrongValue (found expected : String)
  /-- A sequence has the wrong number of items. -/
  | wrongLength (length : Nat) (expected : String)
  | missing (field : String)
  | duplicate (field : String)
  | unknownVariant (found : String) (variants : List String)
  /-- A text does not name what it should. -/
  | refused (message : String)
deriving DecidableEq, Repr

/-- A name between marks. -/
def marked (s : String) : String := s!"\x60{s}\x60"

/-- The text of a fault. -/
def ReadFault.message : ReadFault → String
  | wrongType found expected => s!"invalid type: {found}, expected {expected}"
  | wrongValue found expected => s!"invalid value: {found}, expected {expected}"
  | wrongLength n expected => s!"invalid length {n}, expected {expected}"
  | missing field => s!"missing field {marked field}"
  | duplicate field => s!"duplicate field {marked field}"
  | unknownVariant found variants =>
    let names := ", ".intercalate (variants.map marked)
    s!"unknown variant {marked found}, expected one of {names}"
  | refused m => m

/-- Reads a value from a document. -/
abbrev Reads (α : Type) := Node → Except ReadFault α

namespace Node

/-- What a node is called in messages. -/
def found : Node → String
  | .null => "null"
  | .bool b => s!"boolean {marked (toString b)}"
  | .num (.whole n) => s!"integer {marked (String.ofList (Json.wholeText n))}"
  | .num (.real x) => s!"floating point {marked (String.ofList x.text)}"
  | .str s => s!"string {Record.quoted s}"
  | .scalar s => s!"string {Record.quoted s.text}"
  | .seq _ _ => "sequence"
  | .map _ => "map"
  | .tagged _ => "enum"
  | .broken => "more than can be read"

/-- The fault of a node that is not what was expected. -/
def fault {α : Type} (n : Node) (expected : String) : Except ReadFault α :=
  .error (.wrongType n.found expected)

end Node

namespace Reads

variable {α β : Type}

/-- A text. -/
def text : Reads String
  | .str s => .ok s
  | .scalar s => .ok s.text
  | n => n.fault "a string"

/-- A truth value. -/
def bool : Reads Bool
  | .bool b => .ok b
  | .scalar s =>
    match (s.typedText? "bool").bind Scalar.truth? with
    | some b => .ok b
    | none => Node.fault (.scalar s) "a boolean"
  | n => n.fault "a boolean"

/-- A whole number below `2^bits`; `name` is what such numbers are called. -/
def unsigned (bits : Nat) (name : String) : Reads Nat := fun node =>
  let inRange (n : Int) : Except ReadFault Nat :=
    if 0 ≤ n ∧ n < Nat.pow 2 bits then .ok n.toNat
    else .error (.wrongValue (Node.found (.num (.whole n))) name)
  match node with
  | .num (.whole n) => inRange n
  | .scalar s =>
    match (s.typedText? "int").bind fun t => Scalar.whole? t.toList with
    | some (some n) => inRange n
    | _ => Node.fault (.scalar s) name
  | n => n.fault name

/-- A number. -/
def number : Reads Binary64
  | .num n => .ok n.toBinary64
  | .scalar s =>
    match (s.typedText? "float").bind fun t =>
        match Scalar.whole? t.toList with
        | some (some n) => some (Binary64.ofInt n)
        | some none => none
        | none => if Scalar.isPaddedNumber t.toList then none else Scalar.real? t with
    | some x => .ok x
    | none => Node.fault (.scalar s) "f64"
  | n => n.fault "f64"

/-- A free-form value. -/
def value : Reads Json := fun n =>
  match n.toJson? false with
  | some v => .ok v
  | none => n.fault "any value"

/-- Something that may be absent. -/
def optional (read : Reads α) : Reads (Option α)
  | .null => .ok none
  | .scalar s =>
    if s.isAbsent then .ok none
    else if s.isFalseNull then .error (.wrongValue (Node.found (.scalar s)) "null")
    else (read (.scalar s)).map some
  | n => (read n).map some

/-- Reads the items of a sequence, up to the first fault. -/
def items (read : Reads α) : List Node → Except ReadFault (List α)
  | [] => .ok []
  | n :: ns =>
    match read n with
    | .error e => .error e
    | .ok a => (items read ns).map (a :: ·)

/-- A sequence. -/
def list (read : Reads α) : Reads (List α) := fun n =>
  match n.content with
  | .seq _ ns => items read ns
  | .scalar s =>
    if s.isBlankPlain then .ok [] else Node.fault (.scalar s) "a sequence"
  | n => n.fault "a sequence"

/-- Reads the entries of a map, up to the first fault. -/
def pairs (read : Reads α) : List (Node × Node) → Except ReadFault (List (String × α))
  | [] => .ok []
  | (k, n) :: es =>
    match Node.keyText? false k with
    | none => k.fault "a string"
    | some key =>
      match read n with
      | .error e => .error e
      | .ok a => (pairs read es).map ((key, a) :: ·)

/-- A map; of two entries with one key the later counts. -/
def keyed (read : Reads α) : Reads (Keyed α) := fun n =>
  match n.content with
  | .map es => (pairs read es).map Keyed.ofPairs
  | .scalar s => if s.isBlankPlain then .ok [] else Node.fault (.scalar s) "a map"
  | n => n.fault "a map"

/-- A text that has to name something; the message is for one that does not. -/
def named (find : String → Except String α) : Reads α := fun n =>
  match text n with
  | .error e => .error e
  | .ok s => (find s).mapError .refused

end Reads

/-- A field of a record of type `σ`. -/
structure Field (σ : Type) where
  name : String
  /-- Reads the field into a record. -/
  set : Node → σ → Except ReadFault σ
  /-- Whether the field may be left out. -/
  optional : Bool

namespace Field

variable {σ α : Type}

/-- A field that may be left out. -/
def withDefault (name : String) (read : Reads α) (put : α → σ → σ) : Field σ :=
  ⟨name, fun n s => (read n).map fun a => put a s, true⟩

/-- A field that has to be there. -/
def required (name : String) (read : Reads α) (put : α → σ → σ) : Field σ :=
  ⟨name, fun n s => (read n).map fun a => put a s, false⟩

end Field

namespace Record

variable {σ : Type}

/-- Whether a name is that of a field. -/
def isField (fields : List (Field σ)) (name : String) : Bool := fields.any (·.name = name)

/-- Reads the entries of a map into a record; `other` takes an entry that is no field, and `seen`
are the fields read before. -/
def readEntries (fields : List (Field σ)) (other : String → Node → σ → Except ReadFault σ) :
    (seen : List String) → σ → List (Node × Node) → Except ReadFault (List String × σ)
  | seen, s, [] => .ok (seen, s)
  | seen, s, (k, n) :: es =>
    match Node.keyText? false k with
    | none => k.fault "field identifier"
    | some key =>
      match fields.find? (·.name = key) with
      | none =>
        match other key n s with
        | .error e => .error e
        | .ok s => readEntries fields other seen s es
      | some f =>
        if seen.contains key then .error (.duplicate key)
        else match f.set n s with
          | .error e => .error e
          | .ok s => readEntries fields other (key :: seen) s es

/-- The first field that had to be read and was not. -/
def firstMissing? (fields : List (Field σ)) (seen : List String) : Option String :=
  (fields.find? fun f => !f.optional && !seen.contains f.name).map (·.name)

/-- Reads a record from the entries of a map. -/
def readMap (fields : List (Field σ)) (other : String → Node → σ → Except ReadFault σ) (initial : σ)
    (entries : List (Node × Node)) : Except ReadFault σ :=
  match readEntries fields other [] initial entries with
  | .error e => .error e
  | .ok (seen, s) =>
    match firstMissing? fields seen with
    | some f => .error (.missing f)
    | none => .ok s

/-- Passes an entry over. -/
def passOver (_ : String) (_ : Node) (s : σ) : Except ReadFault σ := .ok s

/-- Reads fields from items in the same order. `shape` names the record and `i` counts the fields
that are read. -/
def readItems (shape : String) (total : Nat) : (i : Nat) → List (Field σ) → σ → List Node →
    Except ReadFault σ
  | _, [], s, [] => .ok s
  | _, [], _, _ :: _ => .error (.wrongLength total "fewer elements in array")
  | i, f :: fs, s, [] =>
    if f.optional then readItems shape total (i + 1) fs s [] else .error (.wrongLength i shape)
  | i, f :: fs, s, n :: ns =>
    match f.set n s with
    | .error e => .error e
    | .ok s => readItems shape total (i + 1) fs s ns

/-- Reads a record. -/
def read (name : String) (fields : List (Field σ)) (initial : σ) : Reads σ := fun n =>
  match n.content with
  | .map entries => readMap fields passOver initial entries
  | .seq true items =>
    readItems s!"struct {name} with {fields.length} elements" items.length 0 fields initial items
  | .scalar s =>
    if s.isBlankPlain then readMap fields passOver initial []
    else Node.fault (.scalar s) s!"struct {name}"
  | n => n.fault s!"struct {name}"

/-- Reads a record that keeps the entries that are no fields, with their free-form values. Its
entries have names, so no sequence stands for it. -/
def readOpen (name : String) (fields : List (Field σ)) (keep : String → Json → σ → σ)
    (initial : σ) : Reads σ :=
  let other (key : String) (n : Node) (s : σ) : Except ReadFault σ :=
    match n.toJson? true with
    | some v => .ok (keep key v s)
    | none => n.fault "any value"
  fun n => match n.content with
  | .map entries => readMap fields other initial entries
  | .scalar s =>
    if s.isBlankPlain then readMap fields other initial []
    else Node.fault (.scalar s) s!"struct {name}"
  | n => n.fault s!"struct {name}"

end Record

end CaseScript

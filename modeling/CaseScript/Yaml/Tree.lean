import CaseScript.Yaml.Token

/-!
# Yaml/Tree — tokens assembled into a tree

A tree keeps aliases as numbers. A node with a name gets the number of different names before it,
which another node may have too: a number stands for the last node that began with it, wherever the
alias is.
-/

namespace CaseScript.Yaml

/-- A node. -/
inductive Tree where
  | scalar (s : Scalar)
  /-- A sequence; `foreign` is whether its tag names a type that no value has. -/
  | list (foreign : Bool) (items : List Tree)
  | map (foreign : Bool) (entries : List (Tree × Tree))
  | alias (number : Nat)
deriving Repr, Inhabited

/-- The node where nothing is written. -/
def Tree.blank : Tree := .scalar ⟨"", true, false, none⟩

/-- The nodes with a name. -/
structure Anchors where
  /-- The names, each once, with the numbers that they stand for. -/
  names : List (List Char × Nat)
  /-- The numbers with the ranks of the nodes that got them, the last node that began first. -/
  owners : List (Nat × Nat)
  /-- The nodes by rank, in the order in which they began. -/
  nodes : List (Nat × Tree)
deriving Repr

/-- No names. -/
def Anchors.none : Anchors := ⟨[], [], []⟩

/-- The node that a number stands for. -/
def Anchors.node? (a : Anchors) (number : Nat) : Option Tree :=
  (a.owners.lookup number).bind fun rank => a.nodes.lookup rank

/-- Gives a name to the node that begins; the answer is its rank. -/
def Anchors.begin (a : Anchors) (name : List Char) : Nat × Anchors :=
  let number := a.names.length
  let rank := a.owners.length
  (rank, { a with
    names := (name, number) :: a.names.filter (·.1 ≠ name)
    owners := (number, rank) :: a.owners })

/-- What a reader of trees has before it. -/
structure Source where
  tokens : List Token
  anchors : Anchors
  /-- What the handles of tags stand for. -/
  handles : List (List Char × List UInt8)
deriving Repr

/-- A reader of a part of a document. -/
abbrev Reading (α : Type) := StateT Source Option α

namespace Reading

/-- The next token. -/
def peek : Reading (Option Token) := return (← get).tokens.head?

/-- Moves past the next token. -/
def advance : Reading Unit := modify fun s => { s with tokens := s.tokens.drop 1 }

/-! ## Anchors and tags -/

/-- What stands before a node. -/
structure Marks where
  anchor : Option (List Char)
  tag : Option TagMark
deriving Repr

/-- Reads an anchor and a tag, in either order. -/
def marks : Reading Marks := do
  match ← peek with
  | some (.anchor a) =>
    advance
    match ← peek with
    | some (.tag t) =>
      advance
      return ⟨some a, some t⟩
    | _ => return ⟨some a, none⟩
  | some (.tag t) =>
    advance
    match ← peek with
    | some (.anchor a) =>
      advance
      return ⟨some a, some t⟩
    | _ => return ⟨none, some t⟩
  | _ => return ⟨none, none⟩

/-- The tag that bytes stand for. -/
def tagOfBytes (bytes : List UInt8) : NodeTag :=
  match String.fromUTF8? ⟨bytes.toArray⟩ with
  | some s => .name s
  | none => .garbled

/-- A tag in full. Its handle has to be known. -/
def fullTag : Option TagMark → Reading (Option NodeTag)
  | none => return none
  | some t => do
    if t.handle = [] then return some (tagOfBytes t.suffix)
    match (← get).handles.lookup t.handle with
    | some front => return some (tagOfBytes (front ++ t.suffix))
    | none => failure

/-- The number of the node that a name stands for. -/
def numberOf (name : List Char) : Reading Nat := do
  match (← get).anchors.names.lookup name with
  | some n => return n
  | none => failure

/-- Reads a node, under a name if there is one. -/
def named (anchor : Option (List Char)) (read : Reading Tree) : Reading Tree :=
  match anchor with
  | none => read
  | some name => do
    let (rank, anchors) := (← get).anchors.begin name
    modify fun s => { s with anchors := anchors }
    let t ← read
    modify fun s => { s with anchors.nodes := (rank, t) :: s.anchors.nodes }
    return t

/-- A scalar with its tag. -/
def scalarOf (tag : Option NodeTag) (text : List Char) (style : ScalarStyle) : Tree :=
  .scalar ⟨String.ofList text, style = .plain, style = .literal, tag⟩

/-! ## Nodes -/

/-- Whether a token ends an item or entry of a block that is left blank. -/
def endsEntry : Option Token → Bool
  | some .key | some .value | some .blockEnd => true
  | _ => false

/-- Whether the token is an item. -/
def isItem : Option Token → Bool
  | some .item => true
  | _ => false

/-- Whether the token is the end of a block. -/
def isBlockEnd : Option Token → Bool
  | some .blockEnd => true
  | _ => false

/-- Whether the token announces a value. -/
def isValue : Option Token → Bool
  | some .value => true
  | _ => false

/-- Whether the token is the given bracket or comma. -/
def isFlow (c : Char) : Option Token → Bool
  | some (.flow d) => c = d
  | _ => false

/-- Reads a part unless the next token says that it is left blank. -/
def blankOr (isBlank : Option Token → Bool) (read : Reading Tree) : Reading Tree := do
  if isBlank (← peek) then return .blank else read

/-- Reads the value after a key, which may be left out. -/
def valueWith (isBlank : Option Token → Bool) (read : Reading Tree) : Reading Tree := do
  if isValue (← peek) then
    advance
    blankOr isBlank read
  else return .blank

/-- Reads the key and value of a mapping that is one item between brackets. Where the key is left
blank the token in its place is passed over. -/
def flowPair (read : Reading Tree) : Reading Tree := do
  let next ← peek
  let key ←
    if isValue next || isFlow ',' next || isFlow ']' next then do
      advance
      pure Tree.blank
    else read
  let value ← valueWith (fun t => isFlow ',' t || isFlow ']' t) read
  return .map false [(key, value)]

/-- Passes the comma before every part but the first. -/
def comma (first : Bool) : Reading Unit := do
  if first then return ()
  if isFlow ',' (← peek) then advance else failure

mutual

/-- Reads a node. In a block it may be a block itself; `bare` is whether it may be a sequence whose
signs stand in the column of the mapping around it. -/
def node : (fuel : Nat) → (block bare : Bool) → Reading Tree
  | 0, _, _ => failure
  | fuel + 1, block, bare => do
    match ← peek with
    | some (.alias name) =>
      advance
      return .alias (← numberOf name)
    | _ =>
      let m ← marks
      let tag ← fullTag m.tag
      let foreign := Scalar.isForeignTag tag
      match ← peek with
      | some (.scalar text style) =>
        advance
        named m.anchor (return scalarOf tag text style)
      | some (.flow '[') =>
        advance
        named m.anchor (return .list foreign (← flowItems fuel true))
      | some (.flow '{') =>
        advance
        named m.anchor (return .map foreign (← flowEntries fuel true))
      | next =>
        if bare && isItem next then named m.anchor (return .list foreign (← bareItems fuel))
        else match block, next with
          | true, some .listOpen =>
            advance
            named m.anchor (return .list foreign (← listItems fuel))
          | true, some .mapOpen =>
            advance
            named m.anchor (return .map foreign (← mapEntries fuel))
          | _, _ =>
            if m.anchor.isSome || tag.isSome then
              named m.anchor (return .scalar ⟨"", true, false, tag⟩)
            else failure

/-- Reads the items of a block sequence. -/
def listItems : (fuel : Nat) → Reading (List Tree)
  | 0 => failure
  | fuel + 1 => do
    let next ← peek
    if isItem next then
      advance
      let t ← blankOr (fun t => isItem t || isBlockEnd t) (node fuel true false)
      return t :: (← listItems fuel)
    else if isBlockEnd next then
      advance
      return []
    else failure

/-- Reads the items of a sequence without a block of its own. -/
def bareItems : (fuel : Nat) → Reading (List Tree)
  | 0 => failure
  | fuel + 1 => do
    if isItem (← peek) then
      advance
      let t ← blankOr (fun t => isItem t || endsEntry t) (node fuel true false)
      return t :: (← bareItems fuel)
    else return []

/-- Reads the entries of a block mapping. -/
def mapEntries : (fuel : Nat) → Reading (List (Tree × Tree))
  | 0 => failure
  | fuel + 1 => do
    match ← peek with
    | some .key =>
      advance
      let key ← blankOr endsEntry (node fuel true true)
      let value ← valueWith endsEntry (node fuel true true)
      return (key, value) :: (← mapEntries fuel)
    | some .blockEnd =>
      advance
      return []
    | _ => failure

/-- Reads items between brackets. -/
def flowItems : (fuel : Nat) → (first : Bool) → Reading (List Tree)
  | 0, _ => failure
  | fuel + 1, first => do
    if isFlow ']' (← peek) then
      advance
      return []
    comma first
    match ← peek with
    | some (.flow ']') =>
      advance
      return []
    | some .key =>
      advance
      let t ← flowPair (node fuel false false)
      return t :: (← flowItems fuel false)
    | _ =>
      let t ← node fuel false false
      return t :: (← flowItems fuel false)

/-- Reads entries between braces. -/
def flowEntries : (fuel : Nat) → (first : Bool) → Reading (List (Tree × Tree))
  | 0, _ => failure
  | fuel + 1, first => do
    if isFlow '}' (← peek) then
      advance
      return []
    comma first
    match ← peek with
    | some (.flow '}') =>
      advance
      return []
    | some .key =>
      advance
      let isBlank (t : Option Token) : Bool := isFlow ',' t || isFlow '}' t
      let key ← blankOr (fun t => isValue t || isBlank t) (node fuel false false)
      let value ← valueWith isBlank (node fuel false false)
      return (key, value) :: (← flowEntries fuel false)
    | _ =>
      let key ← node fuel false false
      return (key, .blank) :: (← flowEntries fuel false)

end

end Reading

end CaseScript.Yaml

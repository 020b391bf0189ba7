import CaseScript.Yaml.Tree

/-!
# Yaml/Document — the document of a text

A text holds at most one document; nothing at all is a blank one. An alias becomes a copy of the
node it stands for. What is more than 128 containers deep is broken, and so is every alias once
there are too many copies for the length of the text; a broken part does no harm where it is not
read.
-/

namespace CaseScript

namespace Yaml

/-! ## Directives -/

/-- The tags with a meaning of their own, and those of a document. -/
def standardHandles : List (List Char × List UInt8) := [
  (['!'], [0x21]), (['!', '!'], (Scalar.coreTag "").toUTF8.data.toList)]

/-- Whether a version is one that is read. -/
def isKnownVersion (major minor : Nat) : Bool := major = 1 && (minor = 1 || minor = 2)

/-- The handles that directives explain. There may be one version, and each handle is explained
once; `versioned` is whether there was a version. -/
def handlesOf? : (versioned : Bool) → List Directive → Option (List (List Char × List UInt8))
  | _, [] => some []
  | versioned, .version major minor :: ds =>
    if versioned || !isKnownVersion major minor then none else handlesOf? true ds
  | versioned, .tag handle text :: ds =>
    match handlesOf? versioned ds with
    | some hs => if (hs.lookup handle).isSome then none else some ((handle, text) :: hs)
    | none => none

/-- The directives at the beginning, and the tokens after them. -/
def splitDirectives : List Token → List Directive × List Token
  | .directive d :: ts =>
    let (ds, rest) := splitDirectives ts
    (d :: ds, rest)
  | ts => ([], ts)

/-! ## Documents -/

/-- Whether a token lies outside the content of a document. -/
def isOutside : Option Token → Bool
  | none | some (.directive _) | some .documentStart | some .documentEnd => true
  | _ => false

/-- Whether only ends of documents are left. -/
def isOver : List Token → Bool
  | [] => true
  | .documentEnd :: ts => isOver ts
  | _ => false

/-- Reads the content of a document. -/
def content? (handles : List (List Char × List UInt8)) (tokens : List Token)
    (read : Reading Tree) : Option (Tree × Anchors) :=
  match read.run ⟨tokens, .none, handles ++ standardHandles⟩ with
  | some (t, s) => if isOver s.tokens then some (t, s.anchors) else none
  | none => none

/-- Reads the only document among tokens. -/
def tree? (tokens : List Token) : Option (Tree × Anchors) :=
  let read := Reading.node (2 * tokens.length + 2) true false
  match splitDirectives tokens with
  | ([], []) => some (.blank, .none)
  | (ds, .documentStart :: rest) =>
    (handlesOf? false ds).bind fun handles =>
      content? handles rest (Reading.blankOr isOutside read)
  | ([], rest) => content? [] rest read
  | _ => none

/-! ## Aliases -/

mutual

/-- The number of signs that a tree is written with: one for a word or an alias, and two around a
container. -/
def Tree.extent : Tree → Nat
  | .scalar _ | .alias _ => 1
  | .list _ items => 2 + itemsExtent items
  | .map _ entries => 2 + entriesExtent entries

/-- The signs of the items of a sequence. -/
def itemsExtent : List Tree → Nat
  | [] => 0
  | t :: ts => t.extent + itemsExtent ts

/-- The signs of the entries of a mapping. -/
def entriesExtent : List (Tree × Tree) → Nat
  | [] => 0
  | (k, v) :: es => k.extent + v.extent + entriesExtent es

end

/-- A part of a document being copied; the state is the number of copies so far. -/
abbrev Copying (α : Type) := StateM Nat α

/-- The node that a tree stands for, if there are not more than `limit` copies with it. -/
def Tree.target? (anchors : Anchors) (limit : Nat) : Tree → Copying (Option Tree)
  | .alias n => do
    modify (· + 1)
    return if (← get) ≤ limit then anchors.node? n else none
  | t => return some t

/-- A node whose tag may be foreign. -/
def tagNode (foreign : Bool) (n : Node) : Node := if foreign then .tagged n else n

/-- A tree as a node, with copies for aliases; containers more than `depth` deep are broken. -/
def Tree.toNode (anchors : Anchors) (limit : Nat) : (depth : Nat) → Tree → Copying Node
  | 0, t => do
    match ← t.target? anchors limit with
    | some (.scalar s) => return .scalar s
    | _ => return .broken
  | depth + 1, t => do
    match ← t.target? anchors limit with
    | some (.scalar s) => return .scalar s
    | some (.list foreign items) =>
      return tagNode foreign (.seq false (← items.mapM (toNode anchors limit depth)))
    | some (.map foreign entries) =>
      let es ← entries.mapM fun (k, v) => do
        return (← toNode anchors limit depth k, ← toNode anchors limit depth v)
      return tagNode foreign (.map es)
    | some (.alias _) | none => return .broken

/-- The greatest depth of a document. -/
def maxDepth : Nat := 128

/-- How many aliases may be copied for each sign of a document. -/
def copiesPerSign : Nat := 100

/-- A document as a node. Of a mapping only the entries with a wanted key are read: the values of
the others stay broken, and their aliases are not copied. -/
def Tree.toDocument (anchors : Anchors) (wanted : String → Bool) (t : Tree) : Node :=
  let limit := copiesPerSign * t.extent
  match t with
  | .map foreign entries =>
    let entry (k v : Tree) : Copying (Node × Node) := do
      let key ← k.toNode anchors limit (maxDepth - 1)
      if (key.keyText? false).any wanted then
        return (key, ← v.toNode anchors limit (maxDepth - 1))
      else return (key, .broken)
    tagNode foreign (.map ((entries.mapM fun (k, v) => entry k v).run 0).1)
  | t => ((t.toNode anchors limit maxDepth).run 0).1

end Yaml

/-- Reads a block document; of a mapping only the entries with a wanted key count. -/
def Node.ofYamlText? (wanted : String → Bool) (s : String) : Option Node :=
  ((Yaml.tokens? s.toList).bind Yaml.tree?).map fun (t, anchors) => t.toDocument anchors wanted

end CaseScript

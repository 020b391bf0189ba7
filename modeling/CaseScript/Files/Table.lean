import CaseScript.Files.Load

/-!
# Files/Table — files in memory

A table of files behaves like a disk that nothing else changes. Its keys are plain paths, names with
slashes between them; the directory that holds everything has the empty path. A path is followed
component by component, and everything before its last component has to be a directory.
-/

namespace CaseScript

/-- Why an action on files failed. -/
inductive FileFault where
  | notFound
  | notDirectory
  | isDirectory
  | nameTooLong
  /-- The name holds the character zero. -/
  | badName
deriving DecidableEq, Repr

/-- The text of a failure. -/
def FileFault.message : FileFault → String
  | notFound => "No such file or directory (os error 2)"
  | notDirectory => "Not a directory (os error 20)"
  | isDirectory => "Is a directory (os error 21)"
  | nameTooLong => "File name too long (os error 36)"
  | badName => "file name contained an unexpected NUL byte"

/-- The texts of files, and nothing for directories, by plain path. -/
abbrev FileTable := Keyed (Option String)

namespace FileTable

/-- The greatest size of a name in bytes. -/
def maxNameSize : Nat := 255

/-- A plain path from its names, the last one first. -/
def plainPath (names : List String) : String := "/".intercalate names.reverse

/-- The components of a path. -/
def components (path : String) : List String := (Text.splitOn '/' path.toList).map String.ofList

/-- Whether a component stays where it is. -/
def isHere (component : String) : Bool := component = "" || component = "."

/-- What stands at a plain path, given by its names. -/
def entryAt (t : FileTable) (names : List String) : Option EntryKind :=
  match names, t.get? (plainPath names) with
  | [], _ | _, some none => some .directory
  | _, some (some _) => some .file
  | _, none => none

/-- The names of the plain path that components lead to from a directory. The last one need not
exist if `fresh`. -/
def follow (t : FileTable) (fresh : Bool) : (here : List String) → List String →
    Except FileFault (List String)
  | here, [] => .ok here
  | here, c :: rest =>
    match t.entryAt here with
    | none => .error .notFound
    | some .file => .error .notDirectory
    | some .directory =>
      if isHere c then follow t fresh here rest
      else if c = ".." then follow t fresh (here.drop 1) rest
      else if maxNameSize < c.utf8ByteSize then .error .nameTooLong
      else if (t.entryAt (c :: here)).isSome ∨ (fresh ∧ rest = []) then
        follow t fresh (c :: here) rest
      else .error .notFound

/-- The names of the plain path of a path. -/
def locate (t : FileTable) (fresh : Bool) (path : String) : Except FileFault (List String) :=
  if path.toList.contains '\x00' then .error .badName
  else if path = "" ∨ ['/'].isPrefixOf path.toList then .error .notFound
  else t.follow fresh [] (components path)

/-- What stands at a path. -/
def kind (t : FileTable) (path : String) : Option EntryKind :=
  match t.locate false path with
  | .ok names => t.entryAt names
  | .error _ => none

/-- The text of the file at a path. -/
def read (t : FileTable) (path : String) : Option String :=
  match t.locate false path with
  | .ok names => (t.get? (plainPath names)).join
  | .error _ => none

/-- The name of an entry of a directory. -/
def childName? (directory : List String) (path : String) : Option String :=
  match (components path).reverse with
  | name :: above => if above = directory then some name else none
  | [] => none

/-- The names of what the directory at a path holds. -/
def names (t : FileTable) (path : String) : Option (List String) :=
  match t.locate false path with
  | .ok here =>
    if t.entryAt here = some .directory then some (t.keys.filterMap (childName? here)) else none
  | .error _ => none

/-- Writes a file into a directory that exists. -/
def write (t : FileTable) (path text : String) : Except FileFault FileTable :=
  match t.locate true path with
  | .error e => .error e
  | .ok names =>
    if t.entryAt names = some .directory then .error .isDirectory
    else .ok (t.insert (plainPath names) (some text))

/-- Makes the directories that components lead to from one that exists. -/
def makeFrom (t : FileTable) : (here : List String) → List String → Except FileFault FileTable
  | _, [] => .ok t
  | here, c :: rest =>
    if isHere c then makeFrom t here rest
    else if c = ".." then makeFrom t (here.drop 1) rest
    else if maxNameSize < c.utf8ByteSize then .error .nameTooLong
    else match t.entryAt (c :: here) with
      | some .directory => makeFrom t (c :: here) rest
      | some .file => .error .notDirectory
      | none => makeFrom (t.insert (plainPath (c :: here)) none) (c :: here) rest

/-- Makes a directory and those above it. -/
def makeDirectory (t : FileTable) (path : String) : Except FileFault FileTable :=
  t.makeFrom [] (components path)

/-- Adds a file and the directories above it; a name that ends with a slash is that of a
directory. -/
def add (t : FileTable) (path text : String) : FileTable :=
  let names := (components path).filter fun c => !isHere c
  if ['/'].isSuffixOf path.toList then (t.makeFrom [] names).toOption.getD t
  else
    let t := (t.makeFrom [] names.dropLast).toOption.getD t
    t.insert (plainPath names.reverse) (some text)

/-- A table of files by path. -/
def ofTexts (texts : List (String × String)) : FileTable :=
  texts.foldl (fun t (path, text) => t.add path text) []

/-- The files of a table that a state holds. -/
def files {m : Type → Type} [Monad m] (table : m FileTable) : Files m where
  kind path := do return (← table).kind path
  read path := do return (← table).read path
  names path := do return (← table).names path

end FileTable

end CaseScript

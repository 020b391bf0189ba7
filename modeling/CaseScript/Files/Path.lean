import CaseScript.Text.Search

/-!
# Files/Path — names of files
-/

namespace CaseScript.Files

/-- The name of the file at a path: its last component, unless that is the level above. -/
def fileName? (path : String) : Option (List Char) :=
  let parts := (Text.splitOn '/' path.toList).filter fun p => p ≠ [] && p ≠ ['.']
  parts.getLast?.filter (· ≠ ['.', '.'])

/-- What follows the last point of a file's name. A point at the start of the name does not
count. -/
def fileExtension? (path : String) : Option (List Char) :=
  (fileName? path).bind fun name =>
    match Text.cutAt? '.' name.reverse with
    | some (back, front) => if front = [] then none else some back.reverse
    | none => none

/-- Whether a file's name ends in one of the given ways, without regard to case. -/
def hasExtension (path : String) (extensions : List String) : Bool :=
  (fileExtension? path).any fun e => extensions.any fun wanted => Text.sameLetters e wanted.toList

/-- The path of an entry of a directory. -/
def entryPath (directory name : String) : String :=
  if directory = "" ∨ ['/'].isSuffixOf directory.toList then directory ++ name
  else directory ++ "/" ++ name

end CaseScript.Files

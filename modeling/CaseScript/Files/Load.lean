import CaseScript.Case.Config
import CaseScript.Case.Definition
import CaseScript.Files.Path
import CaseScript.Json.Reader
import CaseScript.Yaml.Document

/-!
# Files/Load — cases and configurations from files

A file whose name ends in `json` is read as such, and any other as a block document. Files are seen
through `Files`, so loading is the same program on a disk and on a table of texts. A directory gives
the cases directly in it, sorted by file name, and what is no case is left out.
-/

namespace CaseScript

/-- What stands at a path. -/
inductive EntryKind where
  | file
  | directory
deriving DecidableEq, Repr

/-- What can be seen of files. -/
structure Files (m : Type → Type) where
  /-- What stands at a path, if anything. -/
  kind : String → m (Option EntryKind)
  /-- The text of a file, if it can be read. -/
  read : String → m (Option String)
  /-- The names of what a directory holds, if it can be read. -/
  names : String → m (Option (List String))

/-- Why something could not be loaded. -/
inductive LoadError where
  | unreadableCase (path : String)
  | unreadableDirectory (path : String)
  | unreadableConfig (path : String)
  /-- The text is no case; `json` is whether it was read by the name of its file. -/
  | wrongCase (json : Bool) (path : String)
  | wrongConfig (json : Bool) (path : String)
deriving DecidableEq, Repr

/-- What a text should have been. -/
def formatName (json : Bool) : String := if json then "JSON" else "YAML"

/-- The text of a failure. -/
def LoadError.message : LoadError → String
  | unreadableCase path => s!"Failed to read case file: {path}"
  | unreadableDirectory path => s!"Failed to read directory: {path}"
  | unreadableConfig path => s!"Failed to read config file: {path}"
  | wrongCase json path => s!"Failed to parse {formatName json} case from {path}"
  | wrongConfig json path => s!"Failed to parse {formatName json} from {path}"

namespace Files

/-- Whether a file is to be read by the rules of its name. -/
def isJson (path : String) : Bool := hasExtension path ["json"]

/-- Whether a file of a directory may hold a case. -/
def isCaseFile (path : String) : Bool := hasExtension path ["json", "yaml", "yml"]

/-- Reads the text of a file that holds a record. -/
def readText? {α : Type} (fields : List (Field α)) (read : Reads α) (path text : String) :
    Option α :=
  let node :=
    if isJson path then Node.ofJsonText? text
    else Node.ofYamlText? (Record.isField fields) text
  match node.map read with
  | some (.ok a) => some a
  | _ => none

/-- Reads the text of a case. -/
def caseOfText (path text : String) : Except LoadError CaseDefinition :=
  match readText? CaseDefinition.fields CaseDefinition.read path text with
  | some c => .ok c
  | none => .error (.wrongCase (isJson path) path)

/-- Reads the text of a configuration. -/
def configOfText (path text : String) : Except LoadError RunConfig :=
  match readText? RunConfig.fields RunConfig.read path text with
  | some c => .ok c
  | none => .error (.wrongConfig (isJson path) path)

variable {m : Type → Type} [Monad m]

/-- Loads a case. -/
def loadCase (files : Files m) (path : String) : m (Except LoadError CaseDefinition) := do
  match ← files.read path with
  | some text => return caseOfText path text
  | none => return .error (.unreadableCase path)

/-- Loads a configuration. -/
def loadConfig (files : Files m) (path : String) : m (Except LoadError RunConfig) := do
  match ← files.read path with
  | some text => return configOfText path text
  | none => return .error (.unreadableConfig path)

/-- Loads the cases among files, and leaves out what is none. -/
def loadFiles (files : Files m) : List String → m (List CaseDefinition)
  | [] => return []
  | path :: paths => do
    let here : List CaseDefinition ←
      if isCaseFile path && (← files.kind path) = some .file then do
        match ← files.loadCase path with
        | .ok c => pure [c]
        | .error _ => pure []
      else pure []
    return here ++ (← loadFiles files paths)

/-- Loads the cases of a directory. -/
def loadDirectory (files : Files m) (path : String) :
    m (Except LoadError (List CaseDefinition)) := do
  match ← files.names path with
  | some names =>
    let sorted := names.mergeSort fun a b => !(b < a)
    return .ok (← files.loadFiles (sorted.map (entryPath path)))
  | none => return .error (.unreadableDirectory path)

/-- Loads the cases of a directory, or of a file. -/
def loadPath (files : Files m) (path : String) : m (Except LoadError (List CaseDefinition)) := do
  if (← files.kind path) = some .directory then files.loadDirectory path
  else return (← files.loadCase path).map fun c => [c]

/-- Loads the cases of several paths, and leaves out what cannot be loaded. -/
def loadAll (files : Files m) : List String → m (List CaseDefinition)
  | [] => return []
  | path :: paths => do
    let here : List CaseDefinition ←
      if (← files.kind path).isSome then do
        match ← files.loadPath path with
        | .ok cs => pure cs
        | .error _ => pure []
      else pure []
    return here ++ (← loadAll files paths)

end Files

end CaseScript

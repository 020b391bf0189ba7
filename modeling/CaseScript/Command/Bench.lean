import CaseScript.Act.World
import CaseScript.Command.Run
import CaseScript.Files.Table

/-!
# Command/Bench — the command line on a machine in memory

The files of a bench are a table, its clock and stores those of a world, and whatever a command
writes is kept. So a run of the command line is a function of its arguments and of the bench.
-/

namespace CaseScript

/-- A machine in memory, and what was written on it. -/
structure Bench where
  files : FileTable
  world : World
  log : List LogLine
  /-- What went to the standard output. -/
  printed : List String
  /-- What went to the standard error. -/
  complaints : List String

namespace Bench

/-- A bench with files, at the beginning of time. -/
def start (files : FileTable) : Bench := ⟨files, .start, [], [], []⟩

/-- Changes the files, unless that fails. -/
def changeFiles (change : FileTable → Except FileFault FileTable) :
    StateM Bench (Except String Unit) := do
  match change (← get).files with
  | .ok t =>
    modify fun b => { b with files := t }
    return .ok ()
  | .error e => return .error e.message

/-- The machine of a bench. All runs have the given name. -/
def host (outside : Outside) (runId : String) : Host (StateM Bench) where
  files := FileTable.files do return (← get).files
  makeDirectory path := changeFiles fun t => t.makeDirectory path
  write path text := changeFiles fun t => t.write path text
  log l := modify fun b => { b with log := b.log ++ [l] }
  print s := modify fun b => { b with printed := b.printed ++ [s] }
  complain s := modify fun b => { b with complaints := b.complaints ++ [s] }
  setting _ := return none
  newRunId := return runId
  perform act := do
    let b ← get
    let (a, w) := act.run outside b.world
    set { b with world := w }
    return a

/-- Carries out a command line, and gives the exit code. -/
def run (outside : Outside) (runId : String) (arguments : List String) (b : Bench) : Nat × Bench :=
  (Command.run (host outside runId) arguments).run b

end Bench

end CaseScript

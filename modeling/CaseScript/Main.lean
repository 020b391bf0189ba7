import CaseScript.Command.Run
import Std.Time.DateTime.Timestamp

/-!
# Main — the command line on a real machine

Files, the clock and pauses are those of the machine. Requests and queries are not: there is no
client for them here, and each fails as such a call does.
-/

namespace CaseScript

/-- The time in milliseconds since the start of 1970. -/
def wallClock : IO Nat := do
  return (← Std.Time.Timestamp.now).toMillisecondsSinceUnixEpoch.toInt.toNat

/-- Lets time pass up to a deadline. -/
def pauseFor (millis : Nat) (deadline : Option Nat) : IO (Outcome Unit) := do
  let now ← wallClock
  match deadline with
  | some d =>
    if d < now + millis then
      IO.sleep (d - now).toUInt32
      return .expired
    else
      IO.sleep millis.toUInt32
      return .done ()
  | none =>
    IO.sleep millis.toUInt32
    return .done ()

/-- Answers a call. -/
def answerCall (stores : IO.Ref (Slot → Store)) : (c : Call) → IO c.Answer
  | .send _ _ => return .done (.error (.other "no client for requests"))
  | .query _ _ => return .done (.error (.pool "no client for queries"))
  | .pause millis g => pauseFor millis g.deadline
  | .attempt _ => return ()
  | .isCancelled => return false
  | .now => wallClock
  | .read slot key => return (← stores.get) slot key
  | .write slot key change =>
    stores.modify fun all i => if i = slot then (all i).change key change else all i

/-- Runs a program. -/
def performAct {α : Type} (stores : IO.Ref (Slot → Store)) : Act α → IO α
  | .done a => return a
  | .ask c next => do performAct stores (next (← answerCall stores c))

/-- The result of an action on files, if it succeeds. -/
def tryOption {α : Type} (action : IO α) : IO (Option α) := do
  try return some (← action)
  catch _ => return none

/-- The result of an action on files, or what is said of its failure. -/
def tryText {α : Type} (action : IO α) : IO (Except String α) := do
  try return .ok (← action)
  catch e => return .error (toString e)

/-- The files of the machine. -/
def machineFiles : Files IO where
  kind path := do
    match ← tryOption (IO.FS.realPath path) with
    | some p => return some (if ← p.isDir then .directory else .file)
    | none => return none
  read path := tryOption (IO.FS.readFile path)
  names path := tryOption do
    let p ← IO.FS.realPath path
    return (← p.readDir).toList.map (·.fileName)

/-- Bytes as hexadecimal digits. -/
def hexText (bytes : List UInt8) : String :=
  String.ofList <| bytes.flatMap fun b =>
    [Nat.digitChar (b.toNat / 16), Nat.digitChar (b.toNat % 16)]

/-- An identifier made of sixteen random bytes, in five groups of digits; six of the bits say that
it is random. -/
def randomId (bytes : List UInt8) : String :=
  let marked := bytes.mapIdx fun i b =>
    if i = 6 then (b &&& 0x0f) ||| 0x40 else if i = 8 then (b &&& 0x3f) ||| 0x80 else b
  let part (from_ size : Nat) : String := hexText ((marked.drop from_).take size)
  "-".intercalate [part 0 4, part 4 2, part 6 2, part 8 2, part 10 6]

/-- Writes a line of the log after the time and its level. -/
def logToOutput (l : LogLine) : IO Unit := do
  let time := writtenMoment "Z" (← wallClock)
  let level := l.level.name
  IO.println s!"{time} {level} {l.text}"

/-- The machine. -/
def machine (stores : IO.Ref (Slot → Store)) : Host IO where
  files := machineFiles
  makeDirectory path := tryText (IO.FS.createDirAll path)
  write path content := tryText (IO.FS.writeFile path content)
  log := logToOutput
  print := IO.println
  complain := IO.eprintln
  setting name := IO.getEnv name
  newRunId := return randomId (← IO.getRandomBytes 16).toList
  perform := performAct stores

end CaseScript

/-- Carries out the command line. -/
def main (arguments : List String) : IO UInt32 := do
  let stores ← IO.mkRef fun _ => CaseScript.Store.empty
  return (← CaseScript.Command.run (CaseScript.machine stores) arguments).toUInt32

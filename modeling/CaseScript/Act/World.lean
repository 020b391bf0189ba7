import CaseScript.Act.Basic

/-!
# Act/World — worlds that answer programs

A world has a clock, a switch for cancellation, its stores, and a record of every call to the
outside. How the outside behaves is a function of that record and of the call (`Outside`), so one
program has one run in one world.
-/

namespace CaseScript

/-- A call to the outside, or the beginning of an attempt to make one. -/
inductive EventKind where
  | sent (r : Request)
  | queried (q : Query)
  | attempted (n : Nat)

/-- An event and its time. -/
structure Event where
  time : Nat
  kind : EventKind

namespace Event

/-- Whether a request was sent. -/
def isSent (e : Event) : Bool :=
  match e.kind with
  | .sent _ => true
  | _ => false

/-- The query that was run, if one was. -/
def query? (e : Event) : Option Query :=
  match e.kind with
  | .queried q => some q
  | _ => none

end Event

/-- How a call to the outside goes: whether it cancels the run as it starts, how long it takes, and
what it answers. -/
structure Turn (α : Type) where
  cancels : Bool
  delay : Nat
  answer : α

/-- The behaviour of the outside, after any sequence of events. -/
structure Outside where
  send : List Event → Request → Turn (Except TransportError Response)
  query : List Event → Query → Turn (Except QueryError (List Row))

/-- The state of a world. -/
structure World where
  /-- In milliseconds. -/
  clock : Nat
  cancelled : Bool
  stores : Slot → Store
  /-- In the order in which they happened. -/
  events : List Event

namespace World

/-- A world at the beginning of time. -/
def start : World := ⟨0, false, fun _ => .empty, []⟩

/-- Records an event. -/
def record (w : World) (kind : EventKind) : World :=
  { w with events := w.events ++ [⟨w.clock, kind⟩] }

/-- Lets time pass under a guard. What takes no time cannot be ended early, and what ends just at
the deadline is in time. -/
def wait (w : World) (millis : Nat) (g : Guard) : Outcome Unit × World :=
  if millis = 0 then (.done (), w)
  else if g.cancellable && w.cancelled then (.cancelled, w)
  else match g.deadline with
    | some d =>
      if d < w.clock + millis then (.expired, { w with clock := max w.clock d })
      else (.done (), { w with clock := w.clock + millis })
    | none => (.done (), { w with clock := w.clock + millis })

/-- Takes a turn under a guard. -/
def take {α : Type} (w : World) (t : Turn α) (g : Guard) : Outcome α × World :=
  match { w with cancelled := w.cancelled || t.cancels }.wait t.delay g with
  | (.done (), w) => (.done t.answer, w)
  | (.cancelled, w) => (.cancelled, w)
  | (.expired, w) => (.expired, w)

/-- The world with another store in a slot. -/
def setStore (w : World) (slot : Slot) (s : Store) : World :=
  { w with stores := fun i => if i = slot then s else w.stores i }

/-- Answers a call. -/
def answer (o : Outside) (w : World) : (c : Call) → c.Answer × World
  | .send r g => (w.record (.sent r)).take (o.send w.events r) g
  | .query q g => (w.record (.queried q)).take (o.query w.events q) g
  | .pause millis g => w.wait millis g
  | .attempt n => ((), w.record (.attempted n))
  | .isCancelled => (w.cancelled, w)
  | .now => (w.clock, w)
  | .read slot key => (w.stores slot key, w)
  | .write slot key c => ((), w.setStore slot ((w.stores slot).change key c))

end World

/-- Runs a program in a world. -/
def Act.run {α : Type} (o : Outside) : Act α → World → α × World
  | done a, w => (a, w)
  | ask c next, w =>
    let (answer, w) := w.answer o c
    (next answer).run o w

end CaseScript

import CaseScript.Retry.StopCondition

/-!
# Retry/Policy — how often an action is tried, and how long it pauses

What a definition leaves open is filled in by the kind of action. A policy makes at least one
attempt, and its pause lies between nothing and one hour.
-/

namespace CaseScript

/-- The retry entry of an action. -/
structure RetrySpec where
  attempt : Option Nat
  /-- The pause between attempts, in seconds. -/
  interval : Option Binary64
  stopCondition : Option StopCondition
deriving Repr

/-- How an action is retried. -/
structure RetryPolicy where
  attempts : Nat
  /-- The pause between attempts, in nanoseconds. -/
  pauseNanos : Nat
  stopCondition : Option StopCondition
deriving Repr

/-- Nanoseconds in a second. -/
def nanosPerSecond : Nat := Nat.pow 10 9

/-- A positive number of seconds in nanoseconds, to the nearest, a half to the even one. -/
def nanosOf (mantissa : Nat) (exponent : Int) : Nat :=
  let (n, d) := Binary64.magnitude mantissa exponent
  roundHalfEven (n * nanosPerSecond) d

namespace RetryPolicy

/-- The longest pause. -/
def maxPauseNanos : Nat := 3600 * nanosPerSecond

/-- The pause for a number of seconds: none if it is negative or no number, and never more than the
longest one. -/
def pauseOf : Binary64 → Nat
  | .nan _ => 0
  | .infinite negative => if negative then 0 else maxPauseNanos
  | .finite negative m e => if negative then 0 else min (nanosOf m e) maxPauseNanos

/-- The policy of a number of attempts and a pause in seconds. -/
def make (attempts : Nat) (interval : Binary64) : RetryPolicy :=
  ⟨max attempts 1, pauseOf interval, none⟩

/-- The policy that a definition describes, with what it leaves open filled in. -/
def ofSpec (spec : Option RetrySpec) (attempts : Nat) (interval : Binary64) : RetryPolicy :=
  match spec with
  | none => make attempts interval
  | some s =>
    { make (s.attempt.getD attempts) (s.interval.getD interval) with
      stopCondition := s.stopCondition }

/-- For requests: two attempts without a pause. -/
def forHttp (spec : Option RetrySpec) : RetryPolicy := ofSpec spec 2 .zero

/-- For statements: one attempt, and a pause of a second. -/
def forDatabase (spec : Option RetrySpec) : RetryPolicy := ofSpec spec 1 (.ofNat 1)

/-- Whether a body ends the attempts. -/
def acceptsBody (p : RetryPolicy) (body : String) : Bool :=
  match p.stopCondition with
  | some c => c.holdsOfBody body
  | none => true

/-- Whether rows end the attempts. -/
def acceptsRows (p : RetryPolicy) (rows : List Row) : Bool :=
  match p.stopCondition with
  | some c => c.holdsOfRows rows
  | none => true

/-- The pause in whole milliseconds, begun ones counted. -/
def pauseMillis (p : RetryPolicy) : Nat := (p.pauseNanos + 999999) / 1000000

end RetryPolicy

end CaseScript

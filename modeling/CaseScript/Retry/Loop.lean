import CaseScript.Act.Basic
import CaseScript.Retry.Policy

/-!
# Retry/Loop — attempts one after another

Attempts are made until one is final: the last one allowed, an answer that is accepted, or a failure
that no further attempt can mend. A cancellation ends the attempts before the next one begins, and a
deadline ends whatever is under way.
-/

namespace CaseScript

variable {ε α : Type}

/-- Makes attempt `n` and, if it is not final, up to `left` more. -/
def retryFrom (pauseMillis : Nat) (guard : Guard) (operation : Guard → Act (Outcome (Except ε α)))
    (isFinal : Except ε α → Bool) : (left n : Nat) → Act (Outcome (Except ε α))
  | left, n => do
    Act.attempt n
    if ← Act.isCancelled then return .cancelled
    match ← operation guard with
    | .cancelled => return .cancelled
    | .expired => return .expired
    | .done r =>
      match left with
      | 0 => return .done r
      | left + 1 =>
        if isFinal r then return .done r
        match ← Act.pause pauseMillis guard with
        | .cancelled => return .cancelled
        | .expired => return .expired
        | .done () => retryFrom pauseMillis guard operation isFinal left (n + 1)

/-- Whether the result of an attempt is final although more attempts are allowed. -/
def isFinalResult (isRetryable : ε → Bool) (accepts : α → Bool) : Except ε α → Bool
  | .ok a => accepts a
  | .error e => !isRetryable e

/-- Makes the attempts of a policy, before a deadline if there is one. -/
def retry (policy : RetryPolicy) (deadline : Option Nat)
    (operation : Guard → Act (Outcome (Except ε α))) (isRetryable : ε → Bool)
    (accepts : α → Bool) : Act (Outcome (Except ε α)) :=
  retryFrom policy.pauseMillis ⟨true, deadline⟩ operation (isFinalResult isRetryable accepts)
    (max policy.attempts 1 - 1) 1

end CaseScript

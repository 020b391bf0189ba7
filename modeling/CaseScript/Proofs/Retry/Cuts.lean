import CaseScript.Proofs.Retry.Attempts

/-!
# Proofs/Retry/Cuts — what a cancellation cuts off

A cancellation shows in a run where a call under a guard ends early, or where an attempt is refused.
Attempts are cut off at most once, and then end as cancelled.
-/

namespace CaseScript

/-- Whether a cancellation cut a call off. -/
def cutsOff (e : Exchange) : Bool :=
  match e with
  | ⟨.isCancelled, cancelled⟩ => cancelled
  | ⟨.pause _ g, .cancelled⟩ => g.cancellable
  | ⟨.query _ g, .cancelled⟩ | ⟨.query _ g, .done (.error .cancelled)⟩ => g.cancellable
  | ⟨.send _ g, .cancelled⟩ | ⟨.send _ g, .done (.error .cancelled)⟩ => g.cancellable
  | _ => false

/-- How many calls were cut off. -/
def cuts (t : Trace) : Nat := t.countP cutsOff

@[simp] theorem cuts_nil : cuts [] = 0 := rfl

@[simp] theorem cuts_append (t t' : Trace) : cuts (t ++ t') = cuts t + cuts t' :=
  List.countP_append

variable {ε α : Type}

/-- One for an outcome that a cancellation leads to, else zero. -/
def Outcome.cut (isCut : ε → Bool) : Outcome (Except ε α) → Nat
  | .cancelled => 1
  | .done (.error e) => if isCut e then 1 else 0
  | _ => 0

variable {operation : Guard → Act (Outcome (Except ε α))} {isFinal : Except ε α → Bool}
  {millis : Nat} {guard : Guard} {limit : Nat} {isCut : ε → Bool}

@[simp] theorem cuts_begins (n : Nat) : cuts (begins n) = 0 := rfl

theorem cuts_rounds (n : Nat) {before : List (Attempt ε α)} (h : ∀ a ∈ before, cuts a.trace = 0) :
    cuts (rounds millis guard n before) = 0 := by
  induction before generalizing n with
  | nil => rfl
  | cons a rest ih =>
    obtain ⟨ha, hrest⟩ := List.forall_mem_cons.mp h
    rw [rounds, cuts_append, cuts_append, cuts_append, cuts_begins, ha, ih (n + 1) hrest]
    rfl

/-- **Attempts are cut off at most once, and only if they end so.** -/
theorem cuts_course {n : Nat} {t rest : Trace} {out : Outcome (Except ε α)}
    {before : List (Attempt ε α)}
    (hcut : ∀ t o, (operation guard).Runs t o → cuts t ≤ o.cut isCut)
    (hfinal : ∀ r, ¬isFinal r → (Outcome.done r).cut isCut = 0)
    (h : Course operation isFinal millis guard limit n t out before rest) :
    cuts t ≤ out.cut isCut := by
  have hmade : ∀ a : Attempt ε α, (operation guard).Runs a.trace (.done a.result) →
      ¬isFinal a.result → cuts a.trace = 0 := by
    intro a hrun hgoes
    have := hcut _ _ hrun
    rw [hfinal _ hgoes] at this
    omega
  have hbefore : cuts (rounds millis guard n before) = 0 :=
    cuts_rounds n fun a ha => hmade a (h.made a ha) (h.goes_on a ha)
  rw [h.trace_eq, cuts_append, hbefore, Nat.zero_add]
  cases h.ending with
  | settled a hrun _ =>
    rw [cuts_append, cuts_begins, Nat.zero_add]
    exact hcut _ _ hrun
  | refused => exact Nat.le_refl 1
  | aborted i t hrun =>
    rw [cuts_append, cuts_begins, Nat.zero_add]
    exact hcut _ _ hrun
  | broken i a hrun _ hgoes =>
    rw [cuts_append, cuts_append, cuts_begins, hmade a hrun hgoes, Nat.zero_add]
    cases i with
    | cancelled => exact List.countP_le_length
    | expired => exact Nat.le_refl 0

theorem cuts_retry {policy : RetryPolicy} {deadline : Option Nat} {isRetryable : ε → Bool}
    {accepts : α → Bool} {t : Trace} {out : Outcome (Except ε α)}
    (hcut : ∀ t o, (operation ⟨true, deadline⟩).Runs t o → cuts t ≤ o.cut isCut)
    (hretry : ∀ e, isRetryable e → isCut e = false)
    (h : (retry policy deadline operation isRetryable accepts).Runs t out) :
    cuts t ≤ out.cut isCut := by
  obtain ⟨before, rest, hcourse⟩ := runs_retryFrom h
  refine cuts_course hcut (fun r hgoes => ?_) hcourse
  cases r with
  | ok a => rfl
  | error e =>
    have hagain : isRetryable e := by simpa [isFinalResult] using hgoes
    rw [Outcome.cut, hretry e hagain]
    rfl

end CaseScript

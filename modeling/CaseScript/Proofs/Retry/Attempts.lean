import CaseScript.Proofs.Act.Trace
import CaseScript.Retry.Loop

/-!
# Proofs/Retry/Attempts — the attempts of a policy and how they end

A run of `retry` is a list of **rounds** — attempts whose result was not final, each with the pause
after it — and then an **ending**: an attempt that settles the matter, or an interruption.
-/

namespace CaseScript

/-- How long an exchange paused, in milliseconds. -/
def pauseOf (e : Exchange) : Nat :=
  match e.1 with
  | .pause m _ => m
  | _ => 0

/-- How long a run paused in all, in milliseconds. -/
def paused : Trace → Nat
  | [] => 0
  | e :: t => pauseOf e + paused t

theorem paused_append (t t' : Trace) : paused (t ++ t') = paused t + paused t' := by
  induction t with
  | nil => simp [paused]
  | cons e t ih => rw [List.cons_append, paused, paused, ih, Nat.add_assoc]

/-- What ends an attempt or a pause early. -/
inductive Interruption where
  | cancelled
  | expired

/-- The outcome of what was ended early. -/
def Interruption.outcome {α : Type} : Interruption → Outcome α
  | cancelled => .cancelled
  | expired => .expired

/-- An attempt that was made: what its operation exchanged, and the result. -/
structure Attempt (ε α : Type) where
  trace : Trace
  result : Except ε α

/-- Attempt `n` begins: it is noted, and the run is not cancelled. -/
def begins (n : Nat) : Trace := [⟨.attempt n, ()⟩, ⟨.isCancelled, false⟩]

variable {ε α : Type}

/-- The exchanges of attempts numbered from `n`, each with the pause after it. -/
def rounds (millis : Nat) (guard : Guard) : (n : Nat) → List (Attempt ε α) → Trace
  | _, [] => []
  | n, a :: rest =>
    begins n ++ a.trace ++ [⟨.pause millis guard, .done ()⟩] ++ rounds millis guard (n + 1) rest

/-- Every round pauses once, besides the pauses of the attempts themselves. -/
theorem paused_rounds (millis : Nat) (guard : Guard) (n : Nat) (before : List (Attempt ε α)) :
    paused (rounds millis guard n before) =
      before.length * millis + paused (before.flatMap (·.trace)) := by
  induction before generalizing n with
  | nil => simp [rounds, paused]
  | cons a rest ih =>
    have hbegins : paused (begins n) = 0 := rfl
    have hpause : paused [⟨.pause millis guard, .done ()⟩] = millis := rfl
    rw [rounds, paused_append, paused_append, paused_append, hbegins, hpause, ih, List.length_cons,
      Nat.succ_mul, List.flatMap_cons, paused_append]
    omega

section Ending

variable (operation : Guard → Act (Outcome (Except ε α))) (isFinal : Except ε α → Bool)
  (millis : Nat) (guard : Guard) (limit : Nat)

/-- How the attempts end with number `n` of at most `limit`: what is exchanged, and the outcome. -/
inductive Ending (n : Nat) : Trace → Outcome (Except ε α) → Prop
  /-- The last attempt that is allowed, or one with a final result, gives its result. -/
  | settled (a : Attempt ε α) : (operation guard).Runs a.trace (.done a.result) →
      (n = limit ∨ isFinal a.result) → Ending n (begins n ++ a.trace) (.done a.result)
  /-- After a cancellation the attempt is noted, but its operation does not run. -/
  | refused : Ending n [⟨.attempt n, ()⟩, ⟨.isCancelled, true⟩] .cancelled
  /-- The attempt is ended early. -/
  | aborted (i : Interruption) (t : Trace) : (operation guard).Runs t i.outcome →
      Ending n (begins n ++ t) i.outcome
  /-- The pause after the attempt is ended early. -/
  | broken (i : Interruption) (a : Attempt ε α) : (operation guard).Runs a.trace (.done a.result) →
      n < limit → ¬isFinal a.result →
      Ending n (begins n ++ a.trace ++ [⟨.pause millis guard, i.outcome⟩]) i.outcome

/-- The attempts numbered from `first`: those of `before`, none of them final and each followed by a
pause, and then an ending. -/
structure Course (first : Nat) (t : Trace) (out : Outcome (Except ε α))
    (before : List (Attempt ε α)) (rest : Trace) : Prop where
  trace_eq : t = rounds millis guard first before ++ rest
  made : ∀ a ∈ before, (operation guard).Runs a.trace (.done a.result)
  goes_on : ∀ a ∈ before, ¬isFinal a.result
  bounded : first + before.length ≤ limit
  ending : Ending operation isFinal millis guard limit (first + before.length) rest out

end Ending

variable {operation : Guard → Act (Outcome (Except ε α))} {isFinal : Except ε α → Bool}
  {millis : Nat} {guard : Guard} {limit : Nat}

theorem Course.cons {n : Nat} {t rest : Trace} {out : Outcome (Except ε α)} {a : Attempt ε α}
    {before : List (Attempt ε α)} (hmade : (operation guard).Runs a.trace (.done a.result))
    (hfinal : ¬isFinal a.result)
    (h : Course operation isFinal millis guard limit (n + 1) t out before rest) :
    Course operation isFinal millis guard limit n
      (begins n ++ a.trace ++ [⟨.pause millis guard, .done ()⟩] ++ t) out (a :: before) rest where
  trace_eq := by rw [h.trace_eq, rounds, List.append_assoc _ (rounds ..)]
  made := List.forall_mem_cons.mpr ⟨hmade, h.made⟩
  goes_on := List.forall_mem_cons.mpr ⟨hfinal, h.goes_on⟩
  bounded := by
    have := h.bounded
    rw [List.length_cons]
    omega
  ending := by
    have hnumber : n + (a :: before).length = n + 1 + before.length := by
      rw [List.length_cons]
      omega
    rw [hnumber]
    exact h.ending

/-- One attempt ends the matter, or its result is not final and the rest follows after a pause. -/
theorem runs_attempt {left n : Nat} {t : Trace} {out : Outcome (Except ε α)}
    (h : (retryFrom millis guard operation isFinal left n).Runs t out) :
    Ending operation isFinal millis guard (n + left) n t out ∨
      ∃ (a : Attempt ε α) (left' : Nat) (t' : Trace), left = left' + 1 ∧
        t = begins n ++ a.trace ++ [⟨.pause millis guard, .done ()⟩] ++ t' ∧
        (operation guard).Runs a.trace (.done a.result) ∧ ¬isFinal a.result ∧
        (retryFrom millis guard operation isFinal left' (n + 1)).Runs t' out := by
  unfold retryFrom at h
  obtain ⟨⟨⟩, t, rfl, hasked⟩ := Act.runs_call_bind.mp h
  obtain ⟨cancelled, t, rfl, hbegun⟩ := Act.runs_call_bind.mp hasked
  cases cancelled with
  | true =>
    obtain ⟨rfl, rfl⟩ := Act.runs_pure.mp hbegun
    exact .inl .refused
  | false =>
    obtain ⟨t₁, t₂, o, rfl, hrun, hrest⟩ := Act.runs_bind.mp hbegun
    match o, left with
    | .cancelled, _ =>
      obtain ⟨rfl, rfl⟩ := Act.runs_pure.mp hrest
      rw [List.append_nil]
      exact .inl (.aborted .cancelled t₁ hrun)
    | .expired, _ =>
      obtain ⟨rfl, rfl⟩ := Act.runs_pure.mp hrest
      rw [List.append_nil]
      exact .inl (.aborted .expired t₁ hrun)
    | .done r, 0 =>
      obtain ⟨rfl, rfl⟩ := Act.runs_pure.mp hrest
      rw [List.append_nil]
      exact .inl (.settled ⟨t₁, r⟩ hrun (.inl rfl))
    | .done r, left + 1 =>
      have hpermitted : n < n + (left + 1) := by omega
      dsimp only at hrest
      by_cases hfinal : isFinal r
      · rw [if_pos hfinal] at hrest
        obtain ⟨rfl, rfl⟩ := Act.runs_pure.mp hrest
        rw [List.append_nil]
        exact .inl (.settled ⟨t₁, r⟩ hrun (.inr hfinal))
      · rw [if_neg hfinal] at hrest
        obtain ⟨p, t₂, rfl, hpaused⟩ := Act.runs_call_bind.mp hrest
        match p with
        | .done () =>
          exact .inr ⟨⟨t₁, r⟩, left, t₂, rfl, by simp [begins], hrun, hfinal, hpaused⟩
        | .cancelled =>
          obtain ⟨rfl, rfl⟩ := Act.runs_pure.mp hpaused
          exact .inl (.broken .cancelled ⟨t₁, r⟩ hrun hpermitted hfinal)
        | .expired =>
          obtain ⟨rfl, rfl⟩ := Act.runs_pure.mp hpaused
          exact .inl (.broken .expired ⟨t₁, r⟩ hrun hpermitted hfinal)

/-- **Every run of attempts is a course**, by induction on the attempts that are left. -/
theorem runs_retryFrom {left n : Nat} {t : Trace} {out : Outcome (Except ε α)}
    (h : (retryFrom millis guard operation isFinal left n).Runs t out) :
    ∃ before rest, Course operation isFinal millis guard (n + left) n t out before rest := by
  induction left generalizing n t out with
  | zero =>
    obtain hend | ⟨a, left', t', hleft, -⟩ := runs_attempt h
    · exact ⟨[], t, rfl, nofun, nofun, Nat.le_refl n, hend⟩
    · exact absurd hleft (by simp)
  | succ left ih =>
    obtain hend | ⟨a, left', t', hleft, rfl, hmade, hfinal, hrest⟩ := runs_attempt h
    · exact ⟨[], t, rfl, nofun, nofun, Nat.le_add_right n _, hend⟩
    · obtain rfl := Nat.succ.inj hleft
      obtain ⟨before, rest, hcourse⟩ := ih hrest
      rw [show n + (left + 1) = n + 1 + left by omega]
      exact ⟨a :: before, rest, hcourse.cons hmade hfinal⟩

/-- What ends with a result ends with an attempt that was the last allowed or had a final result. -/
theorem Ending.of_done {n : Nat} {t : Trace} {r : Except ε α}
    (h : Ending operation isFinal millis guard limit n t (.done r)) :
    ∃ a : Attempt ε α, a.result = r ∧ t = begins n ++ a.trace ∧ (n = limit ∨ isFinal r) := by
  generalize hout : Outcome.done r = out at h
  cases h with
  | settled a _ hend =>
    obtain rfl := Outcome.done.inj hout
    exact ⟨a, rfl, rfl, hend⟩
  | refused => cases hout
  | aborted i => cases i <;> cases hout
  | broken i => cases i <;> cases hout

/-- **The retry law.**  In all surroundings the attempts are numbered from one and are at most
`max policy.attempts 1`; each begins with the run not cancelled and, but for the last, is neither
final nor without its pause.  If nothing is ended early, the last one is the first that is final or
that is not followed by another, and gives the result; else nothing follows the interruption. -/
theorem retry_course (policy : RetryPolicy) (deadline : Option Nat)
    (operation : Guard → Act (Outcome (Except ε α))) (isRetryable : ε → Bool) (accepts : α → Bool)
    (env : Surroundings) (past : Trace) :
    let run := (retry policy deadline operation isRetryable accepts).meet env past
    let guard : Guard := ⟨true, deadline⟩
    ∃ before rest,
      Course operation (isFinalResult isRetryable accepts) policy.pauseMillis guard
        (max policy.attempts 1) 1 run.1 run.2 before rest ∧
      paused (rounds policy.pauseMillis guard 1 before) =
        before.length * policy.pauseMillis + paused (before.flatMap (·.trace)) ∧
      ∀ r, run.2 = .done r → ∃ last : Attempt ε α, last.result = r ∧
        run.1 = rounds policy.pauseMillis guard 1 before ++
          (begins (1 + before.length) ++ last.trace) ∧
        (1 + before.length = max policy.attempts 1 ∨ isFinalResult isRetryable accepts r) := by
  intro run guard
  obtain ⟨before, rest, hcourse⟩ := runs_retryFrom
    (Act.runs_meet env (retry policy deadline operation isRetryable accepts) past)
  have hlimit : 1 + (max policy.attempts 1 - 1) = max policy.attempts 1 := by omega
  rw [hlimit] at hcourse
  refine ⟨before, rest, hcourse, paused_rounds _ _ _ before, fun r hdone => ?_⟩
  have hending := hcourse.ending
  change Ending _ _ _ _ _ _ rest run.2 at hending
  rw [hdone] at hending
  obtain ⟨last, hresult, rfl, hlast⟩ := hending.of_done
  exact ⟨last, hresult, hcourse.trace_eq, hlast⟩

/-- What an attempt asks, if all further ones keep within the same. -/
theorem within_attempt {P : Call → Prop} {Q : Outcome (Except ε α) → Prop} {left n : Nat}
    (hattempt : P (.attempt n)) (hasked : P .isCancelled) (hpause : P (.pause millis guard))
    (hoperation : (operation guard).Within P Q)
    (hrest : ∀ left', left = left' + 1 →
      (retryFrom millis guard operation isFinal left' (n + 1)).Within P fun _ => True) :
    (retryFrom millis guard operation isFinal left n).Within P fun _ => True := by
  unfold retryFrom
  refine Act.within_call_bind.mpr ⟨hattempt, fun _ => ?_⟩
  refine Act.within_call_bind.mpr ⟨hasked, fun cancelled => ?_⟩
  cases cancelled with
  | true => trivial
  | false =>
    refine Act.within_bind hoperation fun o _ => ?_
    match o, left with
    | .cancelled, _ | .expired, _ | .done _, 0 => trivial
    | .done r, left + 1 =>
      dsimp only
      split
      · trivial
      · refine Act.within_call_bind.mpr ⟨hpause, fun p => ?_⟩
        match p with
        | .cancelled | .expired => trivial
        | .done () => exact hrest left rfl

/-- What is asked in attempts is what the operation asks, besides what every attempt does. -/
theorem within_retryFrom {P : Call → Prop} {Q : Outcome (Except ε α) → Prop}
    (hattempt : ∀ n, P (.attempt n)) (hasked : P .isCancelled) (hpause : P (.pause millis guard))
    (hoperation : (operation guard).Within P Q) (left n : Nat) :
    (retryFrom millis guard operation isFinal left n).Within P fun _ => True := by
  induction left generalizing n with
  | zero => exact within_attempt (hattempt n) hasked hpause hoperation nofun
  | succ left ih =>
    refine within_attempt (hattempt n) hasked hpause hoperation fun left' hleft => ?_
    obtain rfl := Nat.succ.inj hleft
    exact ih (n + 1)

end CaseScript

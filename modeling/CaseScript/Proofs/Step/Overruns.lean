import CaseScript.Proofs.Step.Cancellation
import CaseScript.Proofs.Step.Deadline

/-!
# Proofs/Step/Overruns — which instances are out of time

Only the attempts of a request have a deadline.  An instance fails for want of time exactly if that
deadline ended a call of theirs, whatever the surroundings answer (`runStages_timed`); and in a
world, where time passes, exactly if the attempts would otherwise have ended after it
(`timeOut_iff_overruns`).
-/

namespace CaseScript

open Executor Stage

/-! ## Calls that a deadline ends -/

/-- The deadline of a request, or of a pause.  Statements have none. -/
def Call.deadline? : Call → Option Nat
  | .send _ g | .pause _ g => g.deadline
  | _ => none

/-- Whether time was over before a call was. -/
def isExpired : Exchange → Bool
  | ⟨.send .., .expired⟩ | ⟨.pause .., .expired⟩ => true
  | _ => false

/-- The deadline that ended a call, if one did. -/
def endedBy? (e : Exchange) : Option Nat := if isExpired e then e.1.deadline? else none

/-- No deadline ended a call. -/
def InTime (t : Trace) : Prop := ∀ e ∈ t, endedBy? e = none

/-- The call is one of attempts that are held to a deadline. -/
def Call.HeldTo (deadline : Nat) : Call → Prop
  | .send _ g | .pause _ g => g = ⟨true, some deadline⟩
  | .attempt _ | .isCancelled => True
  | _ => False

/-- The attempts of a request had a time `allowed` for them all, from when they began, and were
ended when it was over. -/
def Overtime (allowed : Nat) (t : Trace) : Prop :=
  ∃ (before : Trace) (began : Nat) (held : Trace) (cut : Exchange) (after : Trace),
    t = before ++ (⟨.now, began⟩ :: (held ++ [cut])) ++ after ∧
      (∀ e ∈ held, e.1.HeldTo (began + allowed) ∧ endedBy? e = none) ∧
      endedBy? cut = some (began + allowed)

variable {t t' : Trace} {allowed : Nat}

theorem endedBy?_eq_none {e : Exchange} (h : e.1.deadline? = none) : endedBy? e = none := by
  rw [endedBy?, h, ite_self]

theorem inTime_of_calls (h : ∀ e ∈ t, e.1.deadline? = none) : InTime t :=
  fun e he => endedBy?_eq_none (h e he)

theorem inTime_nil : InTime [] := List.forall_mem_nil _

theorem inTime_append : InTime (t ++ t') ↔ InTime t ∧ InTime t' := List.forall_mem_append

theorem InTime.not_overtime (h : InTime t) : ¬Overtime allowed t := by
  rintro ⟨before, began, held, cut, after, rfl, -, hcut⟩
  have hnone := h cut (by simp)
  rw [hcut] at hnone
  cases hnone

theorem Overtime.extend (h : Overtime allowed t) (before after : Trace) :
    Overtime allowed (before ++ t ++ after) := by
  obtain ⟨before', began, held, cut, after', rfl, hheld, hcut⟩ := h
  exact ⟨before ++ before', began, held, cut, after' ++ after, by simp, hheld, hcut⟩

/-! ## Attempts that a deadline ends -/

section

variable {policy : RetryPolicy} {deadline : Nat} {r : Request}
  {isRetryable : TransportError → Bool} {accepts : Response → Bool}
  {out : Outcome (Except TransportError Response)}

theorem trace_of_send {g : Guard} (h : (Act.send r g).Runs t out) : t = [⟨.send r g, out⟩] :=
  Act.runs_call.mp h

theorem inTime_send {g : Guard} {a : Except TransportError Response}
    (h : (Act.send r g).Runs t (.done a)) : InTime t := by
  rw [trace_of_send h]
  exact List.forall_mem_singleton.mpr rfl

theorem inTime_begins (n : Nat) : InTime (begins n) :=
  inTime_of_calls (by simp [begins, Call.deadline?])

theorem inTime_rounds {g : Guard} {millis : Nat} (n : Nat)
    {before : List (Attempt TransportError Response)}
    (h : ∀ a ∈ before, (Act.send r g).Runs a.trace (.done a.result)) :
    InTime (rounds millis g n before) := by
  induction before generalizing n with
  | nil => exact inTime_nil
  | cons a before ih =>
    obtain ⟨ha, hrest⟩ := List.forall_mem_cons.mp h
    have hpaused : InTime [⟨.pause millis g, .done ()⟩] := List.forall_mem_singleton.mpr rfl
    rw [rounds, inTime_append, inTime_append, inTime_append]
    exact ⟨⟨⟨inTime_begins n, inTime_send ha⟩, hpaused⟩, ih (n + 1) hrest⟩

theorem within_send (r : Request) :
    (Act.send r ⟨true, some deadline⟩).Within (Call.HeldTo deadline) fun _ => True :=
  ⟨rfl, fun _ => trivial⟩

/-- **Attempts expire exactly if their deadline ends a call of theirs, which is then the last.** -/
theorem ended_attempts
    (h : (retry policy (some deadline) (Act.send r) isRetryable accepts).Runs t out) :
    (∀ e ∈ t, e.1.HeldTo deadline) ∧
      ((∃ held cut, t = held ++ [cut] ∧ InTime held ∧ endedBy? cut = some deadline ∧
          out = .expired) ∨
        InTime t ∧ out ≠ .expired) := by
  have hheld : ∀ e ∈ t, e.1.HeldTo deadline :=
    (h.within (within_retryFrom (P := Call.HeldTo deadline) (fun _ => trivial) trivial rfl
      (within_send r) _ _)).1
  obtain ⟨before, rest, hcourse⟩ := runs_retryFrom h
  have hrounds : InTime (rounds policy.pauseMillis _ 1 before) := inTime_rounds 1 hcourse.made
  refine ⟨hheld, ?_⟩
  rw [hcourse.trace_eq]
  cases hcourse.ending with
  | settled a hrun _ =>
    exact .inr ⟨inTime_append.mpr ⟨hrounds, inTime_append.mpr ⟨inTime_begins _, inTime_send hrun⟩⟩,
      nofun⟩
  | refused => exact .inr ⟨inTime_append.mpr ⟨hrounds, inTime_of_calls (by simp [Call.deadline?])⟩,
      nofun⟩
  | aborted i t hrun =>
    have hbegun := inTime_append.mpr ⟨hrounds, inTime_begins (1 + before.length)⟩
    rw [trace_of_send hrun, ← List.append_assoc]
    cases i with
    | cancelled => exact .inr ⟨inTime_append.mpr ⟨hbegun, List.forall_mem_singleton.mpr rfl⟩, nofun⟩
    | expired => exact .inl ⟨_, _, rfl, hbegun, rfl, rfl⟩
  | broken i a hrun _ _ =>
    have hmade := inTime_append.mpr ⟨hrounds,
      inTime_append.mpr ⟨inTime_begins (1 + before.length), inTime_send hrun⟩⟩
    rw [← List.append_assoc]
    cases i with
    | cancelled => exact .inr ⟨inTime_append.mpr ⟨hmade, List.forall_mem_singleton.mpr rfl⟩, nofun⟩
    | expired => exact .inl ⟨_, _, rfl, hmade, rfl, rfl⟩

end

/-! ## Which failures a deadline leads to -/

/-- The law that a run is out of time exactly if a deadline ended the attempts of a request. -/
def Law.timed (allowed : Nat) : Law where
  Holds _ t e _ := (∃ s, e = some (.timeout s)) ∧ Overtime allowed t ∨
    (∀ s, e ≠ some (.timeout s)) ∧ InTime t
  rest _ := .inr ⟨nofun, inTime_nil⟩
  line _ _ := .inr ⟨nofun, inTime_nil⟩
  seq {log t log₁ t' e log'} h h' := by
    obtain ⟨⟨s, hs⟩, -⟩ | ⟨-, htime⟩ := h
    · cases hs
    obtain ⟨hlate, hover⟩ | ⟨hplain, htime'⟩ := h'
    · exact .inl ⟨hlate, by simpa using hover.extend t []⟩
    · exact .inr ⟨hplain, inTime_append.mpr ⟨htime, htime'⟩⟩

/-- Calls in time before and after make no difference. -/
theorem Law.timed_extend {log log' : Log} {e : Option StepError} {before after : Trace}
    (h : (Law.timed allowed).Holds log t e log') (hbefore : InTime before) (hafter : InTime after) :
    (Law.timed allowed).Holds log (before ++ t ++ after) e log' := by
  obtain ⟨hlate, hover⟩ | ⟨hplain, htime⟩ := h
  · exact .inl ⟨hlate, hover.extend before after⟩
  · exact .inr ⟨hplain, inTime_append.mpr ⟨inTime_append.mpr ⟨hbefore, htime⟩, hafter⟩⟩

theorem Law.overtime_iff {log log' : Log} {e : Option StepError}
    (h : (Law.timed allowed).Holds log t e log') :
    (∃ s, e = some (.timeout s)) ↔ Overtime allowed t := by
  obtain ⟨hlate, hover⟩ | ⟨hplain, htime⟩ := h
  · exact iff_of_true hlate hover
  · exact iff_of_false (fun ⟨s, hs⟩ => hplain s hs) htime.not_overtime

theorem deadline?_of_quiet {c : Call} (h : c.isQuiet) : c.deadline? = none := by
  cases c with
  | send | pause => cases h
  | _ => rfl

theorem bearsQuiet_timed : (Law.timed allowed).BearsQuiet := by
  intro log t e hcalls hplain
  refine .inr ⟨?_, inTime_of_calls fun c hc => deadline?_of_quiet (hcalls c hc).1⟩
  rintro s rfl
  exact absurd (hplain _ rfl) Bool.false_ne_true

namespace Executor

variable {x : Executor} {ctx : StepContext}

/-- Nothing but a request has a deadline. -/
theorem admits_undated (x : Executor) : (Law.calls (·.deadline? = none)).Admits x :=
  admits_calls x (fun _ => rfl) rfl (fun _ => rfl) (fun _ _ _ => rfl)
    fun _ h => deadline?_of_quiet h.1

theorem timed_of_undated {α : Type} {s : Stage α} (hcalls : s.Obeys (.calls (·.deadline? = none)))
    (htimely : s.Obeys .timely) : s.Obeys (.timed allowed) := fun _ _ _ _ h =>
  .inr ⟨htimely h, inTime_of_calls (hcalls h)⟩

theorem runPart_timed (p : Part) (htest : p ≠ .test) : (x.runPart ctx p).Obeys (.timed allowed) :=
  timed_of_undated (obeys_runPart (governs_of_admits (admits_undated x)) p htest)
    (obeys_runPart (governs_of_admits (admits_timely x)) p htest)

theorem dependencyMet_timed :
    (x.dependencyMet x.nestedGate ctx (ctx.definition.get? "dependency")).Obeys
      (.timed allowed) := by
  have hundated := governs_of_admits (admits_undated x)
  have htimely := governs_of_admits (admits_timely x)
  exact timed_of_undated (obeys_dependencyMet hundated (gateObeys_nested hundated) ctx _)
    (obeys_dependencyMet htimely (gateObeys_nested htimely) ctx _)

/-- What follows the test has no deadline, and the failure that is reported is one of its own. -/
theorem runAfterTest_timely : (x.runAfterTest ctx).Obeys .timely := by
  have htimely := governs_of_admits (admits_timely x)
  intro log t r log' h
  obtain ⟨t₁, t₂, a, c, log₁, rfl, hasserted, hcleared, rfl⟩ := runs_runAfterTest h
  have ha := obeys_runPart htimely .afterTest nofun hasserted
  have hc := runCleanup_obeys htimely hcleared
  cases a with
  | error e => exact ha
  | ok u => exact hc

theorem runAfterTest_timed : (x.runAfterTest ctx).Obeys (.timed allowed) :=
  timed_of_undated (obeys_runAfterTest Law.blind_calls (governs_of_admits (admits_undated x)) ctx)
    runAfterTest_timely

theorem sendRequest_timed (a : HttpAction) (r : Request) :
    (x.sendRequest a r).Obeys (.timed x.settings.requestTimeout) := by
  intro log t res log' h
  obtain ⟨t₀, t', began, rfl, hnow, h'⟩ := runs_call_bind.mp h
  obtain rfl := Act.runs_call.mp hnow
  obtain ⟨t₁, t₂, o, rfl, hrun, hrest⟩ := runs_call_bind.mp h'
  obtain ⟨hheld, ⟨held, cut, rfl, htime, hcut, rfl⟩ | ⟨htime, hgoes⟩⟩ := ended_attempts hrun
  · obtain ⟨rfl, rfl, rfl⟩ := runs_throw.mp hrest
    refine .inl ⟨⟨_, rfl⟩, [], began, held, cut, [], by simp, fun e he => ⟨?_, htime e he⟩, hcut⟩
    exact hheld e (List.mem_append_left _ he)
  · have hbegan : InTime ([⟨.now, began⟩] ++ t₁) :=
      inTime_append.mpr ⟨List.forall_mem_singleton.mpr rfl, htime⟩
    have hquiet : t₂ = [] ∧ ∀ s, failure? res ≠ some (.timeout s) := by
      match o with
      | .done (.ok response) =>
        obtain ⟨rfl, rfl, -⟩ := runs_pure.mp hrest
        exact ⟨rfl, nofun⟩
      | .done (.error .cancelled) | .cancelled =>
        obtain ⟨rfl, rfl, -⟩ := runs_throw.mp hrest
        exact ⟨rfl, nofun⟩
      | .done (.error (.timeout _)) | .done (.error (.unresolvedHost _))
      | .done (.error (.io _)) | .done (.error (.other _)) =>
        obtain ⟨rfl, rfl, -⟩ := runs_pure.mp hrest
        exact ⟨rfl, nofun⟩
      | .expired => exact absurd rfl hgoes
    obtain ⟨rfl, hplain⟩ := hquiet
    rw [List.append_nil]
    exact .inr ⟨hplain, hbegan⟩

theorem runTest_timed : (x.runPart ctx .test).Obeys (.timed x.settings.requestTimeout) := by
  refine obeys_bind (obeys_ofPlain bearsQuiet_timed (plain_classify _)) fun kind => ?_
  cases kind with
  | none => exact obeys_pure ()
  | http template =>
    exact obeys_bind (obeys_runHttpAction bearsQuiet_timed sendRequest_timed ctx template)
      fun _ => obeys_pure ()
  | database templates =>
    exact timed_of_undated (obeys_runDbActions (governs_of_admits (admits_undated x)) ctx templates)
      (obeys_runDbActions (governs_of_admits (admits_timely x)) ctx templates)

/-- **The stages of an instance are out of time exactly if a deadline ended a request.** -/
theorem runStages_timed (x : Executor) (ctx : StepContext) :
    (x.runStages ctx).Obeys (.timed x.settings.requestTimeout) := by
  refine obeys_bind (runPart_timed .beforeDependency nofun) fun _ => ?_
  refine obeys_bind dependencyMet_timed fun met => ?_
  cases met with
  | true =>
    refine obeys_bind (runPart_timed .beforeTest nofun) fun _ => ?_
    refine obeys_bind runTest_timed fun _ => ?_
    exact obeys_bind runAfterTest_timed fun _ => obeys_pure _
  | false => exact obeys_bind (obeys_log _) fun _ => obeys_pure _

end Executor

/-! ## Worlds in which time passes -/

namespace Stage

variable {α β : Type} {s : Stage α} {k : α → Stage β} {log log' : Log} {o : Outside} {w w' : World}

/-- In a world, a sequence fails with its first part, or goes on from where that ends. -/
theorem run_bind_cases {r : Except StepError β}
    (h : ((s >>= k).start log).run o w = ((r, log'), w')) :
    (∃ e, (s.start log).run o w = ((.error e, log'), w') ∧ r = .error e) ∨
      ∃ a log₁ w₁, (s.start log).run o w = ((.ok a, log₁), w₁) ∧
        ((k a).start log₁).run o w₁ = ((r, log'), w') := by
  rw [start_bind, Act.run_bind] at h
  generalize (s.start log).run o w = m at h
  obtain ⟨⟨e | a, log₁⟩, w₁⟩ := m
  · cases h
    exact .inl ⟨e, rfl, rfl⟩
  · exact .inr ⟨a, log₁, w₁, rfl, h⟩

/-- A stage that is never out of time is not where a sequence is. -/
theorem run_bind_of_timely {seconds : Nat} (hs : s.Obeys .timely)
    (h : ((s >>= k).start log).run o w = ((.error (.timeout seconds), log'), w')) :
    ∃ a log₁ w₁, (s.start log).run o w = ((.ok a, log₁), w₁) ∧
      ((k a).start log₁).run o w₁ = ((.error (.timeout seconds), log'), w') := by
  obtain ⟨e, hfailed, he⟩ | hgoes := run_bind_cases h
  · obtain ⟨t, hruns, -, -⟩ := Act.run_eq_iff.mp hfailed
    exact absurd (congrArg some (Except.error.inj he.symm)) (hs hruns seconds)
  · exact hgoes

/-- A stage that is never out of time is not out of time in a world. -/
theorem not_timeout_of_timely {seconds : Nat} (hs : s.Obeys .timely) :
    (s.start log).run o w ≠ ((.error (.timeout seconds), log'), w') := by
  intro h
  obtain ⟨t, hruns, -, -⟩ := Act.run_eq_iff.mp h
  exact hs hruns seconds rfl

end Stage

/-! ## The status of an instance -/

/-- The message of a failure. -/
def failureMessage (e : StepError) : String := s!"{failureBanner}\n{e.message}"

/-- The status of a failure. -/
def failureStatus : StepError → StepStatus
  | .timeout _ => .timeOut
  | _ => .failed

theorem failureStatus_cases (e : StepError) :
    failureStatus e = .failed ∨ failureStatus e = .timeOut := by
  cases e <;> simp [failureStatus]

theorem failureStatus_eq_timeOut_iff (e : StepError) :
    failureStatus e = .timeOut ↔ ∃ s, some e = some (.timeout s) := by
  cases e <;> simp [failureStatus]

theorem StepOutcome.ofResult_error (ctx : StepContext) (durationMs : Nat) (log : Log)
    (e : StepError) : ofResult ctx durationMs log (.error e) =
      ⟨ctx.stepId, ctx.stepName, ctx.index, failureStatus e, durationMs, log ++ [failureMessage e],
        failureMessage e⟩ := by
  cases e <;> rfl

namespace Executor

variable {x : Executor} {ctx : StepContext} {o : Outside} {w w' : World} {log log' : Log}

theorem resultOf_cases (run : Part → Option PartRun) :
    resultOf run = .ok .passed ∨ resultOf run = .ok .skipped ∨ ∃ e, resultOf run = .error e := by
  unfold resultOf
  split
  · exact .inr (.inl rfl)
  · split
    · exact .inr (.inr ⟨_, rfl⟩)
    · exact .inl rfl

/-- The stages of an instance end as passed or skipped, or fail. -/
theorem status_of_runStages {log log' : Log} {s : StepStatus}
    (h : (x.runStages ctx).Runs log t (.ok s) log') : s = .passed ∨ s = .skipped := by
  obtain ⟨run, hrun⟩ := inOrder_of_runs h
  obtain hpassed | hskipped | ⟨e, hfailed⟩ := resultOf_cases run
  · exact .inl (Except.ok.inj (hrun.result_eq.trans hpassed))
  · exact .inr (Except.ok.inj (hrun.result_eq.trans hskipped))
  · cases hrun.result_eq.trans hfailed

theorem attempts_ne_expired (a : HttpAction) (r : Request) (o : Outside) (w : World) :
    ((attempts a r none).run o w).1 ≠ .expired :=
  unexpired_retry _ _ _ (Act.unexpired_send r true) o w

/-- A request is out of time only if its attempts without a deadline take longer. -/
theorem late_of_sendRequest {a : HttpAction} {r : Request} {seconds : Nat}
    (h : ((x.sendRequest a r).start log).run o w = ((.error (.timeout seconds), log'), w')) :
    w.clock + x.settings.requestTimeout < ((attempts a r none).run o w).2.clock := by
  have hcut := cutAt_attempts a r o (Nat.le_add_right w.clock x.settings.requestTimeout)
  rw [run_sendRequest] at h
  generalize (attempts a r (some (w.clock + x.settings.requestTimeout))).run o w = ran at hcut h
  have hresponse : responseOf x.settings.requestTimeout ran.1 = .error (.timeout seconds) :=
    congrArg (·.1.1) h
  have hexpired : ran.1 = .expired := by
    match hout : ran.1 with
    | .expired => rfl
    | .done (.ok _) | .cancelled | .done (.error .cancelled) | .done (.error (.timeout _))
    | .done (.error (.unresolvedHost _)) | .done (.error (.io _)) | .done (.error (.other _)) =>
      rw [hout] at hresponse
      cases hresponse
  obtain ⟨-, rfl⟩ | ⟨hlate, -⟩ := hcut
  · exact absurd hexpired (attempts_ne_expired a r o w)
  · exact hlate

/-- An action is out of time only if its template comes to a request whose attempts take too
long. -/
theorem late_of_runHttpAction {template : Json} {seconds : Nat}
    (h : ((x.runHttpAction ctx template).start log).run o w =
      ((.error (.timeout seconds), log'), w')) :
    ∃ a r w₁, x.Requested ctx template o w a r w₁ ∧
      w₁.clock + x.settings.requestTimeout < ((attempts a r none).run o w₁).2.clock := by
  have hquiet := (admits_timely x).quiet
  obtain ⟨v, log₁, w₁, hresolved, h⟩ := run_bind_of_timely (obeys_resolve hquiet ctx template) h
  obtain ⟨a, log₂, w₂, hread, h⟩ :=
    run_bind_of_timely (obeys_ofPlain hquiet (plain_readHttpAction v)) h
  obtain ⟨url, log₃, w₃, haddressed, h⟩ :=
    run_bind_of_timely (obeys_ofPlain hquiet (plain_baseUrlOf x ctx a)) h
  obtain ⟨⟨⟩, log₄, w₄, hlogged, h⟩ := run_bind_of_timely (obeys_logRequest ctx a _) h
  cases hlogged
  rw [Executor.resolve, run_ofAct] at hresolved
  rw [run_ofExcept] at hread haddressed
  obtain ⟨hv, rfl⟩ := Prod.mk.inj hresolved
  obtain ⟨ha, rfl⟩ := Prod.mk.inj hread
  obtain ⟨hurl, rfl⟩ := Prod.mk.inj haddressed
  refine ⟨a, a.toRequest url, _, ⟨⟨v, Prod.ext (congrArg (·.1) hv) rfl, congrArg (·.1) ha⟩, url,
    congrArg (·.1) hurl, rfl⟩, ?_⟩
  obtain ⟨e, hfailed, he⟩ | ⟨response, log₅, w₅, -, h⟩ := run_bind_cases h
  · obtain rfl := Except.error.inj he
    exact late_of_sendRequest hfailed
  · have hkept : (x.keepResponse ctx response).Obeys .timely :=
      obeys_bind (obeys_log _) fun _ => obeys_bind (obeys_log _) fun _ =>
        obeys_bind (obeys_store hquiet ctx _ _ _) fun _ => obeys_pure _
    exact absurd h (not_timeout_of_timely hkept)

/-- The test of an instance is reached, is a request, and its attempts take longer than they may. -/
def Overruns (x : Executor) (ctx : StepContext) (o : Outside) (start : World) : Prop :=
  ∃ log w₀ template a r w, x.Reaches ctx o start log w₀ ∧
    ActionKind.classify (ctx.definition.get? "test") = .ok (.http template) ∧
    x.Requested ctx template o w₀ a r w ∧
    w.clock + x.settings.requestTimeout < ((attempts a r none).run o w).2.clock

/-- A test is out of time only if it is such a request. -/
theorem late_of_runTest {seconds : Nat}
    (h : ((x.runPart ctx .test).start log).run o w = ((.error (.timeout seconds), log'), w')) :
    ∃ template a r w₁, ActionKind.classify (ctx.definition.get? "test") = .ok (.http template) ∧
      x.Requested ctx template o w a r w₁ ∧
      w₁.clock + x.settings.requestTimeout < ((attempts a r none).run o w₁).2.clock := by
  have hquiet := (admits_timely x).quiet
  obtain ⟨kind, log₁, w₁, hkind, h⟩ := run_bind_of_timely
    (obeys_ofPlain hquiet (plain_classify (ctx.definition.get? "test"))) h
  rw [run_ofExcept] at hkind
  obtain ⟨hclassified, rfl⟩ := Prod.mk.inj hkind
  cases kind with
  | none => cases h
  | http template =>
    obtain ⟨e, hfailed, he⟩ | ⟨response, log₂, w₂, -, h⟩ := run_bind_cases h
    · obtain rfl := Except.error.inj he
      obtain ⟨a, r, w₂, hrequested, hlate⟩ := late_of_runHttpAction hfailed
      exact ⟨template, a, r, w₂, congrArg (·.1) hclassified, hrequested, hlate⟩
    · cases h
  | database templates =>
    exact absurd h (not_timeout_of_timely
      (obeys_runDbActions (governs_of_admits (admits_timely x)) ctx templates))

/-- An instance whose dependency is met ran its assertions without a failure. -/
theorem run_of_dependencyMet {gate : Gate} {groups : Option Json}
    (h : ((x.dependencyMet gate ctx groups).start log).run o w = ((.ok true, log'), w')) :
    ((x.runAssertions gate ctx groups).start log).run o w = ((.ok (), log'), w') := by
  obtain ⟨t, hruns, htold⟩ := Act.run_eq_iff.mp h
  obtain ⟨r₀, hasserted, hmet⟩ := runs_dependencyMet.mp hruns
  obtain rfl := eq_of_metOf_true hmet.symm
  exact Act.run_eq_iff.mpr ⟨t, hasserted, htold⟩

theorem overruns_of_runStages {start : World} {seconds : Nat}
    (h : ((x.runStages ctx).start [headerLine ctx]).run o start =
      ((.error (.timeout seconds), log'), w')) : x.Overruns ctx o start := by
  have htimely := governs_of_admits (admits_timely x)
  have hgate := gateObeys_nested htimely
  obtain ⟨⟨⟩, log₁, w₁, hbefore, h⟩ :=
    run_bind_of_timely (obeys_runPart htimely .beforeDependency nofun) h
  obtain ⟨met, log₂, w₂, hmet, h⟩ := run_bind_of_timely (obeys_dependencyMet htimely hgate ctx _) h
  cases met with
  | false => cases h
  | true =>
    obtain ⟨⟨⟩, log₃, w₃, hprepared, h⟩ :=
      run_bind_of_timely (obeys_runPart htimely .beforeTest nofun) h
    obtain ⟨e, hfailed, he⟩ | ⟨⟨⟩, log₄, w₄, -, h⟩ := run_bind_cases h
    · obtain rfl := Except.error.inj he
      obtain ⟨template, a, r, w₄, hkind, hrequested, hlate⟩ := late_of_runTest hfailed
      exact ⟨log₃, w₃, template, a, r, w₄,
        ⟨log₁, w₁, log₂, w₂, hbefore, run_of_dependencyMet hmet, hprepared⟩, hkind, hrequested,
        hlate⟩
    · obtain ⟨⟨⟩, log₅, w₅, -, h⟩ := run_bind_of_timely runAfterTest_timely h
      cases h

/-- An instance has the result and the log of its stages. -/
theorem run_runInstance (x : Executor) (ctx : StepContext) (o : Outside) (w : World) :
    let stages := ((x.runStages ctx).start [headerLine ctx]).run o w
    (x.runInstance ctx).run o w =
      (.ofResult ctx (stages.2.clock - w.clock) stages.1.2 stages.1.1, stages.2) := by
  change ((x.runStages ctx).start [headerLine ctx] >>= _).run o w = _
  rw [Act.run_bind]
  rfl

/-- **In a world, an instance is out of time exactly if the attempts of its request would end after
their deadline.** -/
theorem timeOut_iff_overruns (x : Executor) (ctx : StepContext) (o : Outside) (w : World) :
    ((x.runInstance ctx).run o w).1.status = .timeOut ↔ x.Overruns ctx o w := by
  constructor
  · intro h
    rw [run_runInstance] at h
    generalize hstages : ((x.runStages ctx).start [headerLine ctx]).run o w = m at h
    obtain ⟨⟨r, log⟩, w'⟩ := m
    cases r with
    | ok s =>
      obtain ⟨t, hruns, -, -⟩ := Act.run_eq_iff.mp hstages
      obtain rfl | rfl := status_of_runStages hruns <;> cases h
    | error e =>
      rw [StepOutcome.ofResult_error] at h
      obtain ⟨seconds, he⟩ := (failureStatus_eq_timeOut_iff e).mp h
      obtain rfl := Option.some.inj he
      exact overruns_of_runStages hstages
  · rintro ⟨log, w₀, template, a, r, w₁, hreaches, hkind, hrequested, hlate⟩
    have hcut := cutAt_attempts a r o (Nat.le_add_right w₁.clock x.settings.requestTimeout)
    obtain ⟨log', hrun⟩ := run_runHttpAction_of_expired hrequested log (hcut.of_lt hlate).1
    rw [run_runInstance_of_test hreaches (run_runTest hkind hrun)]
    rfl

end Executor

end CaseScript

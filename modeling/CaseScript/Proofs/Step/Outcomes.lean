import CaseScript.Proofs.Step.Instances
import CaseScript.Proofs.Step.Overruns

/-!
# Proofs/Step/Outcomes — what the outcome of an instance says of it

An outcome has a status, a message and a log, and the three agree (`Agrees`): the log begins with
the header of the instance, an instance has a message exactly if it failed, which is then the last
line of its log, and its status tells whether it was out of time.  The outcomes of every step do so
(`runStep_agrees`).
-/

namespace CaseScript

open Executor Stage

variable {t : Trace} {allowed : Nat}

/-! ## Logs only grow -/

/-- The law that a log only grows, at its end. -/
def Law.grows : Law where
  Holds log _ _ log' := log <+: log'
  rest _ := List.prefix_rfl
  line log line := List.prefix_append log [line]
  seq h h' := h.trans h'

theorem Law.blind_grows : Law.grows.Blind := id

namespace Executor

variable {x : Executor} {ctx : StepContext}

theorem grows_call {α : Type} (p : Act α) : (Stage.call p).Obeys .grows :=
  obeys_call fun _ _ _ _ => List.prefix_rfl

theorem admits_grows (x : Executor) : Law.grows.Admits x where
  quiet _ _ _ _ _ := List.prefix_rfl
  rows _ _ := obeys_queryRows Law.blind_grows.bearsFailure (grows_call _)
  wait := obeys_waitBefore Law.blind_grows.bearsFailure fun _ => grows_call _
  leftOut _ _ h := h.trans (List.prefix_append _ _)
  unmet h := h

theorem sendRequest_grows (a : HttpAction) (r : Request) : (x.sendRequest a r).Obeys .grows :=
  obeys_sendRequest Law.blind_grows (grows_call _) fun _ => grows_call _

theorem runStages_grows (x : Executor) (ctx : StepContext) : (x.runStages ctx).Obeys .grows :=
  obeys_runStages Law.blind_grows (governs_of_admits (admits_grows x)) (admits_grows x).quiet
    sendRequest_grows ctx

theorem expandStep_grows (x : Executor) (ctx : StepContext) : (x.expandStep ctx).Obeys .grows :=
  obeys_expandStep (governs_of_admits (admits_grows x)) ctx

end Executor

/-! ## Outcomes -/

/-- The status, the message and the log of the outcome of an instance agree with each other and with
what the instance exchanged. -/
structure Agrees (allowed : Nat) (ctx : StepContext) (t : Trace) (o : StepOutcome) : Prop where
  step : o.stepId = ctx.stepId
  status : o.status ∈ [.passed, .failed, .skipped, .timeOut]
  /-- The log begins with the header of the instance. -/
  header : o.output.head? = some (headerLine { ctx with index := o.index })
  silent_iff : o.errorMessage = "" ↔ o.status = .passed ∨ o.status = .skipped
  /-- A message begins with the banner, and ends the log. -/
  told : o.errorMessage ≠ "" → failureBanner.toList <+: o.errorMessage.toList ∧
    o.output.getLast? = some o.errorMessage
  timedOut_iff : o.status = .timeOut ↔ Overtime allowed t

theorem banner_prefix_failureMessage (e : StepError) :
    failureBanner.toList <+: (failureMessage e).toList := by
  have hparts : failureMessage e = failureBanner ++ "\n" ++ e.message := rfl
  rw [hparts, String.append_assoc, String.toList_append]
  exact List.prefix_append _ _

theorem failureMessage_ne_empty (e : StepError) : failureMessage e ≠ "" := by
  intro hempty
  have hbanner := banner_prefix_failureMessage e
  rw [hempty] at hbanner
  exact absurd (List.prefix_nil.mp hbanner) (by decide)

/-- What begins with the header of an instance, and obeys the law of deadlines, leads to an outcome
that agrees. -/
theorem agrees_ofResult (durationMs : Nat) {ctx : StepContext} {log log₀ log₁ : Log}
    {r : Except StepError StepStatus} (hgrows : [headerLine ctx] <+: log)
    (htimed : (Law.timed allowed).Holds log₀ t (failure? r) log₁)
    (hr : ∀ s, r = .ok s → s = .passed ∨ s = .skipped) :
    Agrees allowed ctx t (.ofResult ctx durationMs log r) := by
  obtain ⟨lines, rfl⟩ := hgrows
  have hover := Law.overtime_iff htimed
  cases r with
  | ok s =>
    have hlate : ¬∃ e, failure? (.ok s : Except StepError StepStatus) = some (.timeout e) := nofun
    have hnever : ¬Overtime allowed t := mt hover.mpr hlate
    obtain rfl | rfl := hr s rfl
    · exact ⟨rfl, by simp [StepOutcome.ofResult], rfl, iff_of_true rfl (.inl rfl), (absurd rfl ·),
        iff_of_false nofun hnever⟩
    · exact ⟨rfl, by simp [StepOutcome.ofResult], rfl, iff_of_true rfl (.inr rfl), (absurd rfl ·),
        iff_of_false nofun hnever⟩
  | error e =>
    have hstatus := failureStatus_cases e
    rw [StepOutcome.ofResult_error]
    refine ⟨rfl, ?_, rfl, iff_of_false (failureMessage_ne_empty e) ?_, fun _ => ?_, ?_⟩
    · obtain h | h := hstatus <;> simp [h]
    · obtain h | h := hstatus <;> simp [h]
    · exact ⟨banner_prefix_failureMessage e, List.getLast?_concat⟩
    · exact (failureStatus_eq_timeOut_iff e).trans hover

namespace Executor

variable {x : Executor} {ctx : StepContext}

/-- **The outcome of every instance agrees with its run.** -/
theorem agrees_of_runInstance {o : StepOutcome} (h : (x.runInstance ctx).Runs t o) :
    Agrees x.settings.requestTimeout ctx t o := by
  obtain ⟨started, ended, t', r, log, rfl, hstages, rfl⟩ := runs_runInstance h
  have hclock : ∀ time : Nat, InTime [⟨.now, time⟩] :=
    fun time => List.forall_mem_singleton.mpr rfl
  have htimed := Law.timed_extend (runStages_timed x ctx hstages) (hclock started) (hclock ended)
  refine agrees_ofResult _ (runStages_grows x ctx hstages) htimed fun s hs => ?_
  subst hs
  exact status_of_runStages hstages

theorem agrees_of_expandStep {log : Log} {e : StepError}
    (h : (x.expandStep ctx).Runs [headerLine ctx] t (.error e) log) :
    Agrees allowed ctx [] (.ofResult ctx 0 log (.error e)) := by
  have htimely := status_of_expandStep h
  rw [StepOutcome.ofResult_error] at htimely
  have htimed : (Law.timed allowed).Holds log [] (some e) log := by
    refine .inr ⟨fun s hs => ?_, inTime_nil⟩
    cases htimely.symm.trans ((failureStatus_eq_timeOut_iff e).mpr ⟨s, hs⟩)
  exact agrees_ofResult 0 (expandStep_grows x ctx h) htimed nofun

/-! ## Steps -/

/-- An outcome of a step is that of an instance that was run, or says why the step could not be
expanded: then nothing was exchanged for it. -/
inductive Reported (x : Executor) (ctx : StepContext) (expansion : Trace) (i : InstanceRun) : Prop
  | made : (x.runInstance i.ctx).Runs i.trace i.outcome → Reported x ctx expansion i
  | unexpanded {e : StepError} {log : Log} :
      (x.expandStep ctx).Runs [headerLine ctx] expansion (.error e) log → i.trace = [] →
      i.outcome = .ofResult ctx 0 log (.error e) → Reported x ctx expansion i

/-- The outcomes of a step are reported one after another, and agree with what was exchanged. -/
theorem agrees_of_runOutcomes {os : List StepOutcome} (h : (x.runOutcomes ctx).Runs t os) :
    ∃ expansion, ∃ ran : List InstanceRun, t = expansion ++ ran.flatMap (·.trace) ∧
      InTime expansion ∧ os = ran.map (·.outcome) ∧
      ∀ i ∈ ran, x.Reported ctx expansion i ∧
        Agrees x.settings.requestTimeout ctx i.trace i.outcome := by
  obtain ⟨expansion, t₂, ⟨r, log⟩, rfl, hexpanded, hrest⟩ := Act.runs_bind.mp h
  have htime : InTime expansion :=
    inTime_of_calls (obeys_expandStep (governs_of_admits (admits_undated x)) ctx hexpanded)
  cases r with
  | error e =>
    obtain ⟨rfl, rfl⟩ := Act.runs_pure.mp hrest
    exact ⟨expansion, [⟨ctx, [], _⟩], rfl, htime, rfl, List.forall_mem_singleton.mpr
      ⟨.unexpanded hexpanded rfl rfl, agrees_of_expandStep hexpanded⟩⟩
  | ok instances =>
    obtain ⟨ran, hcontexts, hmade, rfl, rfl⟩ := exists_ran hrest
    refine ⟨expansion, ran, rfl, htime, rfl, fun i hi => ⟨.made (hmade i hi), ?_⟩⟩
    have hcontext : i.ctx ∈ ran.map (·.ctx) := List.mem_map_of_mem hi
    rw [hcontexts] at hcontext
    obtain ⟨e, -, hcontext⟩ := List.mem_map.mp hcontext
    have hagrees := agrees_of_runInstance (hmade i hi)
    rw [← hcontext] at hagrees
    exact { hagrees with step := hagrees.step, header := hagrees.header }

end Executor

end CaseScript

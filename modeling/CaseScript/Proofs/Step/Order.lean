import CaseScript.Proofs.Retry.Attempts
import CaseScript.Proofs.Step.Leaves
import CaseScript.Step.Run

/-!
# Proofs/Step/Order — the parts of an instance, one after another

An instance is made of six **parts**.  `Executor.InOrder` says which of them run, that the calls of
the instance are theirs in order, and which result they lead to; `runStages_inOrder` says that every
instance goes so, whatever its definition and however stores, databases and services behave.
-/

namespace CaseScript

/-- The parts of an instance. -/
inductive Part where
  | beforeDependency
  | dependency
  | beforeTest
  | test
  | afterTest
  | beforeEnd
deriving DecidableEq, Repr

namespace Part

/-- The parts in the order in which they run. -/
def all : List Part := [beforeDependency, dependency, beforeTest, test, afterTest, beforeEnd]

/-- The parts that have to succeed before a part runs.  What is asserted after the test is not among
those before the end. -/
def needs : Part → List Part
  | beforeDependency => []
  | dependency => [beforeDependency]
  | beforeTest => [beforeDependency, dependency]
  | test => [beforeDependency, dependency, beforeTest]
  | afterTest | beforeEnd => [beforeDependency, dependency, beforeTest, test]

end Part

/-- How a part went that ran: what it exchanged, and its result. -/
structure PartRun where
  trace : Trace
  result : Except StepError Unit

/-- What a part exchanged: nothing unless it ran. -/
def traceOf (run : Option PartRun) : Trace := (run.map (·.trace)).getD []

/-- Whether a part ran and succeeded. -/
def Succeeded (run : Option PartRun) : Prop := run.map (·.result) = some (.ok ())

/-- The result of an instance by the results of its parts: an assertion of the dependency that does
not hold skips it, and else it fails as the first part, in their order, that failed. -/
def resultOf (run : Part → Option PartRun) : Except StepError StepStatus :=
  match run .dependency with
  | some ⟨_, .error (.assertion _)⟩ => .ok .skipped
  | _ =>
    match Part.all.findSome? fun p => (run p).bind fun r => failure? r.result with
    | some e => .error e
    | none => .ok .passed

/-- The law does not mind what a run failed with. -/
def Law.Blind (L : Law) : Prop :=
  ∀ {log t e e' log'}, L.Holds log t e log' → L.Holds log t e' log'

theorem Law.Blind.bearsFailure {L : Law} (h : L.Blind) : L.BearsFailure :=
  fun _ log => h (L.rest log)

theorem Law.blind_calls {P : Call → Prop} : (Law.calls P).Blind := id

/-- Whether a call sends a request. -/
def Call.isSend : Call → Bool
  | .send .. => true
  | _ => false

namespace Executor

open Stage

/-- What a part of an instance runs. -/
def runPart (x : Executor) (ctx : StepContext) : Part → Stage Unit
  | .beforeDependency =>
    x.runActions x.nestedGate ctx (ctx.definition.get? "beforeDependency")
  | .dependency => x.runAssertions x.nestedGate ctx (ctx.definition.get? "dependency")
  | .beforeTest => x.runActions x.nestedGate ctx (ctx.definition.get? "beforeTest")
  | .test => x.runTest ctx (ctx.definition.get? "test")
  | .afterTest => x.runAssertions x.nestedGate ctx (ctx.definition.get? "afterTest")
  | .beforeEnd => x.runActions x.nestedGate ctx (ctx.definition.get? "beforeEnd")

/-- An instance that exchanged `t` with the result `r` went part by part as in `run`. -/
structure InOrder (x : Executor) (ctx : StepContext) (t : Trace) (r : Except StepError StepStatus)
    (run : Part → Option PartRun) : Prop where
  /-- The calls are those of the parts, one part after another. -/
  trace_eq : t = Part.all.flatMap fun p => traceOf (run p)
  ran : ∀ p, ∀ s ∈ run p, ∃ log log', (x.runPart ctx p).Runs log s.trace s.result log'
  /-- A part runs exactly if those that it needs succeeded and, at the end, if it is asked for. -/
  runs_iff : ∀ p, (run p).isSome ↔
    (∀ q ∈ p.needs, Succeeded (run q)) ∧ (p = .beforeEnd → clearsUp ctx.definition)
  result_eq : r = resultOf run

variable {x : Executor} {ctx : StepContext}

/-- What follows the test: its assertions, and clearing up whatever they gave. -/
theorem runs_runAfterTest {log log' : Log} {t : Trace} {r : Except StepError Unit}
    (h : (x.runAfterTest ctx).Runs log t r log') :
    ∃ t₁ t₂ a c log₁, t = t₁ ++ t₂ ∧
      (x.runPart ctx .afterTest).Runs (log ++ [assertBanner]) t₁ a log₁ ∧
      (x.runCleanup ctx).Runs log₁ t₂ c log' ∧ r = a.bind fun _ => c := by
  unfold runAfterTest at h
  obtain ⟨t₁, t', a, log₁, rfl, hassert, hcleared⟩ := runs_outcome_bind.mp (runs_log_bind.mp h)
  obtain ⟨t₂, t', c, log₂, rfl, hclear, hreport⟩ := runs_outcome_bind.mp hcleared
  obtain ⟨e, hfail, rfl⟩ | ⟨t₃, t₄, u, log₃, rfl, hok, hlast⟩ := runs_bind.mp hreport
  · obtain ⟨rfl, rfl, rfl⟩ := runs_ofExcept.mp hfail
    rw [List.append_nil]
    exact ⟨t₁, t₂, _, c, log₁, rfl, hassert, hclear, rfl⟩
  · obtain ⟨rfl, rfl, rfl⟩ := runs_ofExcept.mp hok
    obtain ⟨rfl, rfl, rfl⟩ := runs_ofExcept.mp hlast
    rw [List.append_nil, List.append_nil]
    exact ⟨t₁, t₂, _, r, log₁, rfl, hassert, hclear, rfl⟩

/-- Clearing up is the last part, if it is asked for, and else nothing. -/
theorem runs_runCleanup {log log' : Log} {t : Trace} {c : Except StepError Unit}
    (h : (x.runCleanup ctx).Runs log t c log') :
    ∃ last : Option PartRun, t = traceOf last ∧ (last.isSome ↔ clearsUp ctx.definition) ∧
      (∀ s ∈ last, ∃ log log', (x.runPart ctx .beforeEnd).Runs log s.trace s.result log') ∧
      c = (last.map (·.result)).getD (.ok ()) := by
  by_cases hasked : clearsUp ctx.definition
  · rw [runCleanup, if_pos hasked] at h
    refine ⟨some ⟨t, c⟩, rfl, by simp [hasked], ?_, rfl⟩
    rintro s ⟨⟩
    exact ⟨log, log', h⟩
  · rw [runCleanup, if_neg hasked] at h
    obtain ⟨rfl, rfl, rfl⟩ := runs_pure.mp h
    exact ⟨none, rfl, by simp [hasked], nofun, rfl⟩

/-! The parts are added to what ran before them, from the last ones to the first. -/

theorem inOrder_of_tested {log log' log₁ log₁' log₂ log₂' log₃ log₃' log₄ : Log}
    {t₁ t₂ t₃ t₄ t : Trace} {r : Except StepError StepStatus}
    (h₁ : (x.runPart ctx .beforeDependency).Runs log₁ t₁ (.ok ()) log₁')
    (h₂ : (x.runPart ctx .dependency).Runs log₂ t₂ (.ok ()) log₂')
    (h₃ : (x.runPart ctx .beforeTest).Runs log₃ t₃ (.ok ()) log₃')
    (h₄ : (x.runPart ctx .test).Runs log₄ t₄ (.ok ()) log)
    (h : (do x.runAfterTest ctx; return .passed : Stage StepStatus).Runs log t r log') :
    ∃ run, x.InOrder ctx (t₁ ++ (t₂ ++ (t₃ ++ (t₄ ++ t)))) r run := by
  obtain ⟨o, hend, rfl⟩ : ∃ o, (x.runAfterTest ctx).Runs log t o log' ∧
      r = o.map fun _ => .passed := by
    obtain ⟨e, hend, rfl⟩ | ⟨t₅, t₆, ⟨⟩, log₅, rfl, hend, hpass⟩ := runs_bind.mp h
    · exact ⟨.error e, hend, rfl⟩
    · obtain ⟨rfl, rfl, rfl⟩ := runs_pure.mp hpass
      rw [List.append_nil]
      exact ⟨.ok (), hend, rfl⟩
  obtain ⟨t₅, t₆, a, c, log₅, rfl, h₅, hclear, rfl⟩ := runs_runAfterTest hend
  obtain ⟨last, rfl, hasked, h₆, rfl⟩ := runs_runCleanup hclear
  refine ⟨fun
    | .beforeDependency => some ⟨t₁, .ok ()⟩
    | .dependency => some ⟨t₂, .ok ()⟩
    | .beforeTest => some ⟨t₃, .ok ()⟩
    | .test => some ⟨t₄, .ok ()⟩
    | .afterTest => some ⟨t₅, a⟩
    | .beforeEnd => last, ?_, ?_, ?_, ?_⟩
  · simp [Part.all, traceOf]
  · rintro ⟨⟩ s hs
    · cases hs; exact ⟨_, _, h₁⟩
    · cases hs; exact ⟨_, _, h₂⟩
    · cases hs; exact ⟨_, _, h₃⟩
    · cases hs; exact ⟨_, _, h₄⟩
    · cases hs; exact ⟨_, _, h₅⟩
    · exact h₆ s hs
  · rintro ⟨⟩ <;> simp [Part.needs, Succeeded, hasked]
  · rcases last with _ | ⟨t₆, c⟩
    · cases a <;> rfl
    · cases a <;> cases c <;> rfl

theorem inOrder_of_met {log log' log₁ log₁' log₂ : Log} {t₁ t₂ t : Trace}
    {r : Except StepError StepStatus}
    (h₁ : (x.runPart ctx .beforeDependency).Runs log₁ t₁ (.ok ()) log₁')
    (h₂ : (x.runPart ctx .dependency).Runs log₂ t₂ (.ok ()) log)
    (h : (do
        x.runPart ctx .beforeTest
        x.runPart ctx .test
        x.runAfterTest ctx
        return .passed : Stage StepStatus).Runs log t r log') :
    ∃ run, x.InOrder ctx (t₁ ++ (t₂ ++ t)) r run := by
  obtain ⟨e, h₃, rfl⟩ | ⟨t₃, t', ⟨⟩, log₃, rfl, h₃, htest⟩ := runs_bind.mp h
  · refine ⟨fun
      | .beforeDependency => some ⟨t₁, .ok ()⟩
      | .dependency => some ⟨t₂, .ok ()⟩
      | .beforeTest => some ⟨t, .error e⟩
      | _ => none, ?_, ?_, ?_, rfl⟩
    · simp [Part.all, traceOf]
    · rintro ⟨⟩ s ⟨⟩
      · exact ⟨_, _, h₁⟩
      · exact ⟨_, _, h₂⟩
      · exact ⟨_, _, h₃⟩
    · rintro ⟨⟩ <;> simp [Part.needs, Succeeded]
  obtain ⟨e, h₄, rfl⟩ | ⟨t₄, t', ⟨⟩, log₄, rfl, h₄, hafter⟩ := runs_bind.mp htest
  · refine ⟨fun
      | .beforeDependency => some ⟨t₁, .ok ()⟩
      | .dependency => some ⟨t₂, .ok ()⟩
      | .beforeTest => some ⟨t₃, .ok ()⟩
      | .test => some ⟨t', .error e⟩
      | _ => none, ?_, ?_, ?_, rfl⟩
    · simp [Part.all, traceOf]
    · rintro ⟨⟩ s ⟨⟩
      · exact ⟨_, _, h₁⟩
      · exact ⟨_, _, h₂⟩
      · exact ⟨_, _, h₃⟩
      · exact ⟨_, _, h₄⟩
    · rintro ⟨⟩ <;> simp [Part.needs, Succeeded]
  exact inOrder_of_tested h₁ h₂ h₃ h₄ hafter

/-- **Every run of an instance goes part by part.** -/
theorem inOrder_of_runs {log log' : Log} {t : Trace} {r : Except StepError StepStatus}
    (h : (x.runStages ctx).Runs log t r log') : ∃ run, x.InOrder ctx t r run := by
  unfold runStages at h
  obtain ⟨e, h₁, rfl⟩ | ⟨t₁, t', ⟨⟩, log₁, rfl, h₁, hdep⟩ := runs_bind.mp h
  · refine ⟨fun | .beforeDependency => some ⟨t, .error e⟩ | _ => none, ?_, ?_, ?_, rfl⟩
    · simp [Part.all, traceOf]
    · rintro ⟨⟩ s ⟨⟩
      exact ⟨_, _, h₁⟩
    · rintro ⟨⟩ <;> simp [Part.needs, Succeeded]
  obtain ⟨e, hmet, rfl⟩ | ⟨t₂, t', met, log₂, rfl, hmet, htest⟩ := runs_bind.mp hdep
  · obtain ⟨r₂, h₂, hr₂⟩ := runs_dependencyMet.mp hmet
    obtain ⟨rfl, hother⟩ := eq_of_metOf_error hr₂.symm
    refine ⟨fun
      | .beforeDependency => some ⟨t₁, .ok ()⟩
      | .dependency => some ⟨t', .error e⟩
      | _ => none, ?_, ?_, ?_, ?_⟩
    · simp [Part.all, traceOf]
    · rintro ⟨⟩ s ⟨⟩
      · exact ⟨_, _, h₁⟩
      · exact ⟨_, _, h₂⟩
    · rintro ⟨⟩ <;> simp [Part.needs, Succeeded]
    · cases e with
      | assertion m => exact absurd rfl (hother m)
      | _ => rfl
  obtain ⟨r₂, h₂, hr₂⟩ := runs_dependencyMet.mp hmet
  cases met with
  | true =>
    obtain rfl := eq_of_metOf_true hr₂.symm
    rw [if_pos rfl] at htest
    exact inOrder_of_met h₁ h₂ htest
  | false =>
    obtain ⟨m, rfl⟩ := eq_of_metOf_false hr₂.symm
    rw [if_neg Bool.false_ne_true, runs_log_bind (k := fun _ => pure StepStatus.skipped)] at htest
    obtain ⟨rfl, rfl, rfl⟩ := runs_pure.mp htest
    refine ⟨fun
      | .beforeDependency => some ⟨t₁, .ok ()⟩
      | .dependency => some ⟨t₂, .error (.assertion m)⟩
      | _ => none, ?_, ?_, ?_, rfl⟩
    · simp [Part.all, traceOf]
    · rintro ⟨⟩ s ⟨⟩
      · exact ⟨_, _, h₁⟩
      · exact ⟨_, _, h₂⟩
    · rintro ⟨⟩ <;> simp [Part.needs, Succeeded]

/-! ## Requests -/

theorem within_query {P : Call → Prop} (x : Executor) (q : Query) (g : Guard)
    (hquery : P (.query q g)) : (x.query q g).Within P fun _ => True := by
  unfold query
  split
  · exact ⟨hquery, fun _ => trivial⟩
  · split
    · trivial
    · exact ⟨hquery, fun _ => trivial⟩

theorem obeys_within {α : Type} {P : Call → Prop} {Q : α → Prop} {p : Act α} (hp : p.Within P Q) :
    (Stage.call p).Obeys (.calls P) :=
  obeys_call fun _ _ _ h => (h.within hp).1

section

variable (x : Executor) {P : Call → Prop} (hattempt : ∀ n, P (.attempt n)) (hasked : P .isCancelled)
  (hpause : ∀ m, P (.pause m .cancellation)) (hquery : ∀ q g, g.cancellable → P (.query q g))
include hattempt hasked hpause hquery

/-- The rows of a statement take queries with their attempts, and pauses. -/
theorem queryRows_calls (connection : String) (a : DbAction) :
    (x.queryRows connection a).Obeys (.calls P) :=
  obeys_queryRows Law.blind_calls.bearsFailure (obeys_within
    (within_retryFrom hattempt hasked (hpause _) (within_query x _ _ (hquery _ _ rfl)) _ _))

/-- Calls that include the quiet ones that note no status, queries with their attempts, and pauses
are a law that actions and assertions obey. -/
theorem admits_calls (hquiet : ∀ c : Call, c.isQuiet ∧ !c.isNote → P c) :
    (Law.calls P).Admits x where
  quiet _ _ _ hcalls _ := fun e he => hquiet e.1 (hcalls e he)
  rows := queryRows_calls x hattempt hasked hpause hquery
  wait := obeys_waitBefore Law.blind_calls.bearsFailure fun millis =>
    obeys_within (Q := fun _ => True) ⟨hpause millis, fun _ => trivial⟩
  leftOut _ _ h := h
  unmet h := h

end

/-- A law that governs groups is obeyed by all parts but the test. -/
theorem obeys_runPart {L : Law} (h : L.Governs x) (p : Part) (htest : p ≠ .test) :
    (x.runPart ctx p).Obeys L := by
  have hgate := gateObeys_nested h
  cases p with
  | test => exact absurd rfl htest
  | beforeDependency | beforeTest | beforeEnd => exact obeys_runActions h hgate ctx _
  | dependency | afterTest => exact obeys_runAssertions h hgate ctx _

theorem runCleanup_obeys (hgoverns : L.Governs x) : (x.runCleanup ctx).Obeys L := by
  unfold runCleanup
  split
  · exact obeys_runActions hgoverns (gateObeys_nested hgoverns) ctx _
  · exact obeys_pure ()

/-- The expansion of a step takes groups of actions, and the data of a loop. -/
theorem obeys_expandStep {L : Law} (hgoverns : L.Governs x) (ctx : StepContext) :
    (x.expandStep ctx).Obeys L :=
  obeys_bind (obeys_runActions hgoverns (gateObeys_nested hgoverns) ctx _) fun _ =>
    hgoverns.expand ctx _ _

section

variable {L : Law} (hblind : L.Blind) (hgoverns : L.Governs x)
include hblind

theorem obeys_outcome {α : Type} {s : Stage α} (h : s.Obeys L) : (Stage.outcome s).Obeys L := by
  intro log t r log' hr
  obtain ⟨r₀, hrun, rfl⟩ := runs_outcome.mp hr
  exact hblind (h hrun)

theorem obeys_ofExcept_of_blind {α : Type} (r : Except StepError α) :
    (Stage.ofExcept r).Obeys L :=
  obeys_ofExcept fun log _ _ => hblind (L.rest log)

/-- A request obeys a law that its attempts do. -/
theorem obeys_sendRequest {a : HttpAction} {r : Request} (hnow : (Stage.call Act.now).Obeys L)
    (hattempts : ∀ deadline, (Stage.call (retry (.forHttp a.retry) (some deadline) (Act.send r)
      TransportError.isRetryable fun response =>
        (RetryPolicy.forHttp a.retry).acceptsBody response.body)).Obeys L) :
    (x.sendRequest a r).Obeys L := by
  have hthrow : ∀ e : StepError, (throw e : Stage Response).Obeys L := fun e =>
    obeys_throw fun log => hblind (L.rest log)
  refine obeys_bind hnow fun now => obeys_bind (hattempts _) fun o => ?_
  match o with
  | .done (.ok response) => exact obeys_pure response
  | .done (.error .cancelled) | .cancelled | .expired => exact hthrow _
  | .done (.error (.timeout _)) | .done (.error (.unresolvedHost _)) | .done (.error (.io _))
  | .done (.error (.other _)) => exact obeys_pure _

include hgoverns

/-- What follows the test obeys a law that does not mind the failure that is passed over. -/
theorem obeys_runAfterTest (ctx : StepContext) : (x.runAfterTest ctx).Obeys L := by
  refine obeys_bind (obeys_log _) fun _ => ?_
  refine obeys_bind (obeys_outcome hblind (obeys_runPart hgoverns .afterTest nofun))
    fun asserted => ?_
  refine obeys_bind (obeys_outcome hblind (runCleanup_obeys hgoverns)) fun cleared => ?_
  exact obeys_bind (obeys_ofExcept_of_blind hblind asserted) fun _ =>
    obeys_ofExcept_of_blind hblind cleared

/-- **An instance obeys such a law if its leaves do.** -/
theorem obeys_runStages (hquiet : L.BearsQuiet) (hsend : ∀ a r, (x.sendRequest a r).Obeys L)
    (ctx : StepContext) : (x.runStages ctx).Obeys L := by
  have hgate := gateObeys_nested hgoverns
  refine obeys_bind (obeys_runActions hgoverns hgate ctx _) fun _ => ?_
  refine obeys_bind (obeys_dependencyMet hgoverns hgate ctx _) fun met => ?_
  cases met with
  | true =>
    refine obeys_bind (obeys_runActions hgoverns hgate ctx _) fun _ => ?_
    refine obeys_bind (obeys_runTest hquiet hgoverns hsend ctx _) fun _ => ?_
    exact obeys_bind (obeys_runAfterTest hblind hgoverns ctx) fun _ => obeys_pure _
  | false => exact obeys_bind (obeys_log _) fun _ => obeys_pure _

end

/-- An instance asks for the time, runs its stages, and asks for the time again. -/
theorem runs_runInstance {t : Trace} {o : StepOutcome} (h : (x.runInstance ctx).Runs t o) :
    ∃ (started ended : Nat) (t' : Trace) (r : Except StepError StepStatus) (log : Log),
      t = [⟨.now, started⟩] ++ t' ++ [⟨.now, ended⟩] ∧
      (x.runStages ctx).Runs [headerLine ctx] t' r log ∧
      o = .ofResult ctx (ended - started) log r := by
  obtain ⟨started, t₁, rfl, hstages⟩ := Act.runs_call_bind.mp h
  obtain ⟨t₁, t₂, ⟨r, log⟩, rfl, hstage, hended⟩ := Act.runs_bind.mp hstages
  obtain ⟨ended, t₃, rfl, hdone⟩ := Act.runs_call_bind.mp hended
  obtain ⟨rfl, rfl⟩ := Act.runs_pure.mp hdone
  exact ⟨started, ended, t₁, r, log, by simp, hstage, rfl⟩

theorem not_isSend_of_quiet (c : Call) (h : c.isQuiet) : !c.isSend := by
  cases c with
  | send => cases h
  | _ => rfl

/-- Only the test of a step sends requests. -/
theorem sends_nothing (p : Part) (htest : p ≠ .test) :
    (x.runPart ctx p).Obeys (.calls (!·.isSend)) :=
  obeys_runPart (governs_of_admits <|
    admits_calls x (P := fun c => !c.isSend) (fun _ => rfl) rfl (fun _ => rfl)
      (fun _ _ _ => rfl)
      fun c h => not_isSend_of_quiet c h.1) p htest

theorem dependency_of_skipped {run : Part → Option PartRun} (h : resultOf run = .ok .skipped) :
    ∃ t m, run .dependency = some ⟨t, .error (.assertion m)⟩ := by
  unfold resultOf at h
  split at h
  · exact ⟨_, _, ‹_›⟩
  · split at h <;> cases h

namespace InOrder

variable {t : Trace} {r : Except StepError StepStatus} {run : Part → Option PartRun}

/-- A part that needs one that did not succeed does not run. -/
theorem eq_none (h : x.InOrder ctx t r run) {p q : Part} (hneeds : q ∈ p.needs)
    (hfailed : ¬Succeeded (run q)) : run p = none := by
  cases hp : run p with
  | none => rfl
  | some s => exact absurd (((h.runs_iff p).mp (by rw [hp]; rfl)).1 q hneeds) hfailed

/-- An instance that is skipped sends no request. -/
theorem sends_nothing_of_skipped (h : x.InOrder ctx t r run) (hr : r = .ok .skipped) :
    ∀ e ∈ t, !e.1.isSend := by
  obtain ⟨t₂, m, hdep⟩ := dependency_of_skipped (h.result_eq.symm.trans hr)
  have hfailed : ¬Succeeded (run .dependency) := by simp [hdep, Succeeded]
  have htest : run .test = none := h.eq_none (by simp [Part.needs]) hfailed
  intro e he
  rw [h.trace_eq, List.mem_flatMap] at he
  obtain ⟨p, -, he⟩ := he
  cases hp : run p with
  | none => simp [hp, traceOf] at he
  | some s =>
    have hother : p ≠ .test := by
      rintro rfl
      simp [htest] at hp
    obtain ⟨log, log', hruns⟩ := h.ran p s hp
    rw [hp] at he
    exact sends_nothing p hother hruns e he

end InOrder

/-- **Every instance goes part by part**: in all surroundings its calls are those of its parts in
order, a part runs exactly if those that it needs succeeded, and the first failure is the one
reported.  One that is skipped sends no request. -/
theorem runStages_inOrder (x : Executor) (ctx : StepContext) (log : Log) (env : Surroundings)
    (past : Trace) :
    let run := ((x.runStages ctx).start log).meet env past
    (∃ parts, x.InOrder ctx run.1 run.2.1 parts) ∧
      (run.2.1 = .ok .skipped → ∀ e ∈ run.1, !e.1.isSend) := by
  intro run
  obtain ⟨parts, h⟩ := inOrder_of_runs (Act.runs_meet env ((x.runStages ctx).start log) past)
  exact ⟨⟨parts, h⟩, h.sends_nothing_of_skipped⟩

end Executor

end CaseScript

import CaseScript.Case.Run
import CaseScript.Proofs.Source.Quiet
import CaseScript.Proofs.Text.Ranked

/-!
# Proofs/Case/Steps — the steps of a case, one after another

A case runs its steps **in turn**: by ascending number, equal numbers as they are listed
(`orderedSteps_inTurn`).  `Executor.Course` says how far it gets — the steps that ran are a beginning
of the list, each run once — and when it succeeds; `runCase_inTurn` says that every case goes so,
however stores, databases and services behave and whenever the run is cancelled.
-/

namespace CaseScript

/-! ## The order of the steps -/

/-- The second list has the steps of the first by ascending number; equal ones keep their order. -/
structure InTurn (listed ordered : List StepSpec) : Prop where
  perm : ordered.Perm listed
  ascending : ordered.Pairwise fun a b => a.id ≤ b.id
  stable : ∀ n, ordered.filter (·.id = n) = listed.filter (·.id = n)

theorem orderedSteps_inTurn (c : CaseDefinition) : InTurn c.steps c.orderedSteps :=
  have h : ByRank StepSpec.id c.steps c.orderedSteps := byRank_mergeSort StepSpec.id c.steps
  ⟨h.perm, h.ascending, h.stable⟩

/-! ## How far a case gets -/

/-- A step that was run: what it exchanged, and its report. -/
structure StepRun where
  spec : StepSpec
  trace : Trace
  report : StepReport

namespace StepRun

/-- Whether the step failed. -/
def failed (s : StepRun) : Bool := s.report.status.isFailure

/-- The exchanges of a step with the question before it, whether the run is cancelled. -/
def exchanges (s : StepRun) : Trace := ⟨.isCancelled, false⟩ :: s.trace

end StepRun

/-- The exchange by which a case learns that the run is cancelled. -/
def cancellation : Exchange := ⟨.isCancelled, true⟩

namespace Executor

/-- Of `steps`, those of `ran` were run, and the exchanges of the run are theirs in order, with a
last question if the run was found `cancelled`.  `out` is what is reported. -/
structure Course (x : Executor) (ctx : StepContext) (goesOn : Bool) (steps : List StepSpec)
    (t : Trace) (out : List StepReport × Bool) (ran : List StepRun) (cancelled : Bool) : Prop where
  /-- The steps that ran are a beginning of the list, each run once. -/
  begins : ran.map (·.spec) <+: steps
  made : ∀ s ∈ ran, (x.runStep ctx s.spec).Runs s.trace s.report
  trace_eq : t = ran.flatMap StepRun.exchanges ++ if cancelled then [cancellation] else []
  reports_eq : out.1 = ran.map (·.report)
  /-- Unless it goes on after failures, nothing runs after one. -/
  stops : goesOn = false → ∀ s ∈ ran.dropLast, ¬s.failed
  /-- Steps are left out for one of two reasons only. -/
  leaves : ran.length < steps.length →
    cancelled ∨ (goesOn = false ∧ ∃ s, ran.getLast? = some s ∧ s.failed)
  success_iff : out.2 = true ↔ ran.length = steps.length ∧ ∀ s ∈ ran, ¬s.failed

variable {x : Executor} {ctx : StepContext} {goesOn : Bool}

/-- A case without steps is done. -/
theorem Course.nil : x.Course ctx goesOn [] [] ([], true) [] false where
  begins := List.prefix_refl []
  made := nofun
  trace_eq := rfl
  reports_eq := rfl
  stops _ := nofun
  leaves h := absurd h (Nat.lt_irrefl 0)
  success_iff := ⟨fun _ => ⟨rfl, nofun⟩, fun _ => rfl⟩

/-- A case that is found cancelled before a step leaves this and all further ones out. -/
theorem Course.cancelled (spec : StepSpec) (rest : List StepSpec) :
    x.Course ctx goesOn (spec :: rest) [cancellation] ([], false) [] true where
  begins := List.nil_prefix
  made := nofun
  trace_eq := rfl
  reports_eq := rfl
  stops _ := nofun
  leaves _ := .inl rfl
  success_iff := ⟨nofun, fun h => absurd h.1 (by simp)⟩

/-- A failure ends a case that does not go on. -/
theorem Course.failure {s : StepRun} (hmade : (x.runStep ctx s.spec).Runs s.trace s.report)
    (hfailed : s.failed) (rest : List StepSpec) :
    x.Course ctx false (s.spec :: rest) s.exchanges ([s.report], false) [s] false where
  begins := ⟨rest, rfl⟩
  made := List.forall_mem_singleton.mpr hmade
  trace_eq := by simp
  reports_eq := rfl
  stops _ := nofun
  leaves _ := .inr ⟨rfl, s, rfl, hfailed⟩
  success_iff := ⟨nofun, fun h => absurd hfailed (h.2 s (List.mem_singleton_self s))⟩

/-- A step that does not end the case comes before the course of the others. -/
theorem Course.cons {s : StepRun} {rest : List StepSpec} {t : Trace} {reports : List StepReport}
    {success : Bool} {ran : List StepRun} {cancelled : Bool}
    (hmade : (x.runStep ctx s.spec).Runs s.trace s.report) (hgoes : s.failed → goesOn = true)
    (h : x.Course ctx goesOn rest t (reports, success) ran cancelled) :
    x.Course ctx goesOn (s.spec :: rest) (s.exchanges ++ t)
      (s.report :: reports, success && !s.failed) (s :: ran) cancelled where
  begins := List.prefix_cons_inj _ |>.mpr h.begins
  made := List.forall_mem_cons.mpr ⟨hmade, h.made⟩
  trace_eq := by rw [h.trace_eq, List.flatMap_cons, List.append_assoc]
  reports_eq := congrArg (s.report :: ·) h.reports_eq
  stops hends := by
    cases ran with
    | nil => exact nofun
    | cons s' ran =>
      refine List.forall_mem_cons.mpr ⟨fun hfailed => ?_, h.stops hends⟩
      rw [hends] at hgoes
      cases hgoes hfailed
  leaves hlength := by
    obtain hcancelled | ⟨hends, last, hlast, hfailed⟩ := h.leaves (Nat.lt_of_succ_lt_succ hlength)
    · exact .inl hcancelled
    · refine .inr ⟨hends, last, ?_, hfailed⟩
      rw [List.getLast?_cons, hlast]
      rfl
  success_iff := by
    have hrest : success = true ↔ ran.length = rest.length ∧ ∀ s ∈ ran, ¬s.failed := h.success_iff
    rw [List.forall_mem_cons, List.length_cons, List.length_cons, Nat.add_right_cancel_iff]
    simp only [Bool.and_eq_true, hrest, Bool.not_eq_true', Bool.not_eq_true, and_assoc]
    exact and_congr_right fun _ => and_comm

/-- **Every run of the steps of a case is a course**, by induction on the steps. -/
theorem course_of_runs {steps : List StepSpec} {t : Trace} {out : List StepReport × Bool}
    (h : (Runner.runSteps x ctx goesOn steps).Runs t out) :
    ∃ ran cancelled, x.Course ctx goesOn steps t out ran cancelled := by
  induction steps generalizing t out with
  | nil =>
    obtain ⟨rfl, rfl⟩ := Act.runs_pure.mp h
    exact ⟨[], false, .nil⟩
  | cons spec rest ih =>
    obtain ⟨cancelled, t, rfl, hasked⟩ := Act.runs_call_bind.mp h
    cases cancelled with
    | true =>
      obtain ⟨rfl, rfl⟩ := Act.runs_pure.mp hasked
      exact ⟨[], true, .cancelled spec rest⟩
    | false =>
      obtain ⟨t₁, t₂, report, rfl, hmade, hrest⟩ := Act.runs_bind.mp hasked
      let s : StepRun := ⟨spec, t₁, report⟩
      by_cases hends : (report.status.isFailure && !goesOn) = true
      · rw [if_pos hends] at hrest
        obtain ⟨rfl, rfl⟩ := Act.runs_pure.mp hrest
        obtain ⟨hfailed, hstops⟩ := Bool.and_eq_true_iff.mp hends
        obtain rfl : goesOn = false := by simpa using hstops
        rw [List.append_nil]
        exact ⟨[s], false, .failure (s := s) hmade hfailed rest⟩
      · rw [if_neg hends] at hrest
        obtain ⟨t₂, t₃, ⟨reports, success⟩, rfl, hothers, hdone⟩ := Act.runs_bind.mp hrest
        obtain ⟨rfl, rfl⟩ := Act.runs_pure.mp hdone
        obtain ⟨ran, cancelled, hcourse⟩ := ih hothers
        have hgoes : s.failed → goesOn = true := fun hfailed => by
          simpa [show report.status.isFailure = true from hfailed] using hends
        rw [List.append_nil]
        exact ⟨s :: ran, cancelled, .cons (s := s) hmade hgoes hcourse⟩

namespace Course

variable {steps : List StepSpec} {t : Trace} {out : List StepReport × Bool} {ran : List StepRun}
  {cancelled : Bool}

theorem length_eq (h : x.Course ctx goesOn steps t out ran cancelled) :
    out.1.length = ran.length := by
  rw [h.reports_eq, List.length_map]

/-- Only the last report can be that of a failure, unless the case goes on. -/
theorem dropLast (h : x.Course ctx goesOn steps t out ran cancelled) (hends : goesOn = false) :
    ∀ p ∈ out.1.dropLast, ¬p.status.isFailure := by
  rw [h.reports_eq, ← List.map_dropLast]
  exact List.forall_mem_map.mpr (h.stops hends)

/-- A case that goes on and is not found cancelled runs every step. -/
theorem all_ran (h : x.Course ctx goesOn steps t out ran cancelled) (hgoes : goesOn = true)
    (hcancelled : cancellation ∉ t) : ran.length = steps.length := by
  have hle : ran.length ≤ steps.length := by
    simpa using h.begins.length_le
  refine Nat.le_antisymm hle (Nat.not_lt.mp fun hlt => ?_)
  obtain hfound | ⟨hends, -⟩ := h.leaves hlt
  · rw [h.trace_eq, if_pos hfound] at hcancelled
    exact hcancelled (List.mem_append_right _ (List.mem_singleton_self _))
  · rw [hgoes] at hends
    cases hends

end Course

end Executor

/-! ## Cases -/

theorem StepStatus.isFailure_iff {s : StepStatus} : s.isFailure ↔ s = .failed ∨ s = .timeOut := by
  cases s <;> simp [isFailure]

theorem StoreHandle.within_document (h : StoreHandle) (key : CaseKey) :
    (h.document key).Within (·.isQuiet) fun _ => True := by
  cases h with
  | memory slot => exact ⟨rfl, fun _ => trivial⟩
  | table connection =>
    refine Act.within_bind (within_cellQuery rfl) fun r _ => ?_
    split <;> trivial

namespace Runner

theorem within_seed {P : Call → Prop} {slot : Slot} {key : CaseKey} {data : Entries}
    (h : ∀ e ∈ data, P (.write slot key (.merge e.1 e.2))) :
    (seed slot key data).Within P fun _ => True := by
  induction data with
  | nil => trivial
  | cons e data ih =>
    obtain ⟨he, hrest⟩ := List.forall_mem_cons.mp h
    exact ⟨he, fun _ => ih hrest⟩

/-- The slot of a case whose test data is in memory. -/
def memorySlot? (r : Runner) (position : Nat) : Option Slot :=
  match r.plan with
  | .shared slot | .given (.memory slot) => some slot
  | .separate first => some (first + position)
  | .given (.table _) => none

/-- Before its first step a case puts its test data in place, and does nothing else. -/
theorem within_storeFor {P : Call → Prop} {r : Runner} {position : Nat} {c : CaseDefinition}
    (h : ∀ slot, ∀ e ∈ c.testData, P (.write slot (r.keyOf c) (.merge e.1 e.2))) :
    (r.storeFor position c).Within P fun store =>
      ∀ slot, r.memorySlot? position = some slot → store = .memory slot := by
  unfold storeFor memorySlot?
  cases r.plan with
  | given store =>
    cases store with
    | memory slot =>
      rintro _ ⟨⟩
      rfl
    | table connection => exact nofun
  | shared slot | separate first =>
    refine Act.within_bind (within_seed (h _)) fun _ _ => ?_
    rintro _ ⟨⟩
    rfl

/-- What runs the steps of a case whose test data is in the store. -/
def executor (r : Runner) (store : StoreHandle) : Executor :=
  ⟨⟨store, r.catalog⟩, r.config.settings, r.connections⟩

/-- A run of a case: its test data is put in place and read once, and then its steps take their
course. -/
theorem course_of_runCase {r : Runner} {position : Nat} {c : CaseDefinition} {t : Trace}
    {report : CaseReport} (h : (r.runCase position c).Runs t report) :
    ∃ started t₁ store t₂ document t₃ ended ran cancelled,
      t = ⟨.now, started⟩ :: (t₁ ++ (t₂ ++ (t₃ ++ [⟨.now, ended⟩]))) ∧
      (r.storeFor position c).Runs t₁ store ∧ (store.document (r.keyOf c)).Runs t₂ document ∧
      (r.executor store).Course (r.contextOf c) r.config.continueOnFailure c.orderedSteps t₃
        (report.steps, report.success) ran cancelled := by
  obtain ⟨started, t, rfl, hstarted⟩ := Act.runs_call_bind.mp h
  obtain ⟨t₁, t, store, rfl, hstore, hstored⟩ := Act.runs_bind.mp hstarted
  obtain ⟨t₂, t, document, rfl, hread, hknown⟩ := Act.runs_bind.mp hstored
  obtain ⟨t₃, t, out, rfl, hsteps, hended⟩ := Act.runs_bind.mp hknown
  obtain ⟨ended, t, rfl, hdone⟩ := Act.runs_call_bind.mp hended
  obtain ⟨rfl, rfl⟩ := Act.runs_pure.mp hdone
  obtain ⟨ran, cancelled, hcourse⟩ := Executor.course_of_runs hsteps
  exact ⟨started, t₁, store, t₂, document, t₃, ended, ran, cancelled, rfl, hstore, hread, hcourse⟩

/-- **Every case runs its steps in turn.**  In all surroundings, and whenever the run is cancelled,
the steps that run are a beginning of the ordered ones, each run once, and all other calls of the
case put its test data in place or ask for the time.  Unless the case goes on after failures only its
last report is that of one; if it does and is not found cancelled, every step is reported.  The case
succeeds exactly if every step has a report and none failed or ran out of time. -/
theorem runCase_inTurn (r : Runner) (position : Nat) (c : CaseDefinition) (env : Surroundings)
    (past : Trace) :
    let run := (r.runCase position c).meet env past
    let goesOn := r.config.continueOnFailure
    InTurn c.steps c.orderedSteps ∧
      (∃ store before t after ran cancelled, run.1 = before ++ t ++ after ∧
        (∀ e ∈ before ++ after, e.1.isQuiet ∨ e.1 = .now) ∧
        (r.executor store).Course (r.contextOf c) goesOn c.orderedSteps t
          (run.2.steps, run.2.success) ran cancelled) ∧
      (goesOn = false → ∀ p ∈ run.2.steps.dropLast, ¬p.status.isFailure) ∧
      (goesOn = true → cancellation ∉ run.1 → run.2.steps.length = c.steps.length) ∧
      (run.2.success = true ↔ run.2.steps.length = c.steps.length ∧
        ∀ p ∈ run.2.steps, p.status ≠ .failed ∧ p.status ≠ .timeOut) := by
  intro run goesOn
  have horder := orderedSteps_inTurn c
  have hrun : (r.runCase position c).Runs run.1 run.2 := Act.runs_meet env _ past
  obtain ⟨started, t₁, store, t₂, document, t₃, ended, ran, cancelled, htrace, hstore, hread,
    hcourse⟩ := course_of_runCase hrun
  have hlength : c.orderedSteps.length = c.steps.length := horder.perm.length_eq
  refine ⟨horder, ⟨store, ⟨.now, started⟩ :: (t₁ ++ t₂), t₃, [⟨.now, ended⟩], ran, cancelled,
    by simp [htrace], ?_, hcourse⟩, hcourse.dropLast, fun hgoes hcancelled => ?_, ?_⟩
  · intro e he
    have hquiet₁ := (hstore.within (within_storeFor (P := (·.isQuiet)) fun _ _ _ => rfl)).1
    have hquiet₂ := (hread.within (store.within_document _)).1
    simp only [List.cons_append, List.append_assoc, List.mem_cons, List.mem_append] at he
    obtain rfl | he | he | rfl | he := he
    · exact .inr rfl
    · exact .inl (hquiet₁ e he)
    · exact .inl (hquiet₂ e he)
    · exact .inr rfl
    · cases he
  · have hnone : cancellation ∉ t₃ := fun he => hcancelled (by simp [htrace, he])
    exact hcourse.length_eq.trans ((hcourse.all_ran hgoes hnone).trans hlength)
  · have hreports : run.2.steps = ran.map (·.report) := hcourse.reports_eq
    have hsuccess : run.2.success = true ↔ _ := hcourse.success_iff
    rw [hsuccess, hreports, List.length_map, hlength, List.forall_mem_map]
    simp only [StepRun.failed, StepStatus.isFailure_iff, not_or]

end Runner

end CaseScript

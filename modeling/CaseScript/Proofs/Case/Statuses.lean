import CaseScript.Proofs.Act.World
import CaseScript.Proofs.Case.Steps
import CaseScript.Proofs.Step.Instances
import CaseScript.Proofs.Step.Stored
import CaseScript.Proofs.Store.Writes
import CaseScript.Proofs.Text.Keyed

/-!
# Proofs/Case/Statuses — the noted statuses are those of the reports

A step notes its status when it has ended, in the document that its test data, its responses and its
stored results are in.  A document **tracks** reports if it has the statuses of just these under the
key of the statuses (`Tracks`).  What sets other keys leaves that as it is (`get?_statusKey_after`), and
a step adds its own report (`tracks_runStep`), so a case tracks all of its reports
(`runCase_tracks`).
-/

namespace CaseScript

/-! ## What leaves the statuses alone -/

/-- The key that a call sets, if it sets one. -/
def Call.mergedKey? : Call → Option String
  | .write _ _ (.merge key _) => some key
  | _ => none

/-- The call neither notes a status nor sets the key of the statuses. -/
def Call.SparesStatuses (c : Call) : Prop := !c.isNote ∧ c.mergedKey? ≠ some statusKey

namespace World

variable {o : Outside} {w : World} {t : Trace} {slot : Slot} {key : CaseKey}

theorem get?_statusKey_answer {c : Call} (h : c.SparesStatuses) :
    Keyed.get? statusKey ((w.answer o c).2.stores slot key) =
      Keyed.get? statusKey (w.stores slot key) := by
  obtain ⟨hnote, hmerged⟩ := h
  cases c with
  | write slot' key' change =>
    cases change with
    | status step label => cases hnote
    | merge name value =>
      have hname : statusKey ≠ name := fun hsame => hmerged (congrArg some hsame.symm)
      by_cases hslot : slot = slot' <;> by_cases hkey : key = key' <;>
        simp [answer, setStore, Store.change, Store.set, Change.apply, hslot, hkey,
          Keyed.get?_insert_of_ne _ _ hname]
  | _ => rw [stores_answer rfl]

theorem stores_after_write {e : Exchange} {change : Change} (h : e.1 = .write slot key change) :
    (w.after o [e]).stores slot key = change.apply (w.stores slot key) := by
  obtain ⟨c, answer⟩ := e
  obtain rfl : c = .write slot key change := h
  simp [World.answer, setStore, Store.change, Store.set]

/-- **Calls that spare the statuses leave them as they are.** -/
theorem get?_statusKey_after (h : ∀ e ∈ t, e.1.SparesStatuses) :
    Keyed.get? statusKey ((w.after o t).stores slot key) =
      Keyed.get? statusKey (w.stores slot key) := by
  induction t generalizing w with
  | nil => rfl
  | cons e t ih =>
    obtain ⟨he, hrest⟩ := List.forall_mem_cons.mp h
    rw [after_cons, ih hrest, get?_statusKey_answer he]

end World

/-! ## Documents that track reports -/

/-- The statuses of steps with these reports, by their numbers. -/
def trackOf (reports : List StepReport) : Entries :=
  Keyed.ofPairs (reports.map fun p => (stepText p.stepId, .str p.status.label))

/-- The document has the statuses of just these reports. -/
def Tracks (document : Entries) (reports : List StepReport) : Prop :=
  document.get? statusKey = if reports = [] then none else some (.obj (trackOf reports))

theorem Tracks.after {o : Outside} {w : World} {t : Trace} {slot : Slot} {key : CaseKey}
    {reports : List StepReport} (h : Tracks (w.stores slot key) reports)
    (ht : ∀ e ∈ t, e.1.SparesStatuses) : Tracks ((w.after o t).stores slot key) reports := by
  rwa [Tracks, World.get?_statusKey_after ht]

/-- A status that is noted is that of one more report. -/
theorem Tracks.note {document : Entries} {reports : List StepReport}
    (h : Tracks document reports) (p : StepReport) :
    Tracks ((Change.status p.stepId p.status.label).apply document) (reports ++ [p]) := by
  have htrack : trackOf (reports ++ [p]) =
      (trackOf reports).insert (stepText p.stepId) (.str p.status.label) := by
    rw [trackOf, List.map_append]
    exact Keyed.ofPairs_concat _ _ _
  rw [Tracks, if_neg (List.append_ne_nil_of_right_ne_nil _ (List.cons_ne_nil _ _)), htrack]
  rw [Tracks] at h
  rw [Change.apply, Keyed.get?_insert_self, h]
  by_cases hnone : reports = []
  · rw [if_pos hnone, hnone]
    rfl
  · rw [if_neg hnone]

/-- **The keys of the statuses are the numbers of the steps**, each once. -/
theorem mem_keys_trackOf {reports : List StepReport} {key : String} :
    key ∈ (trackOf reports).keys ↔ ∃ p ∈ reports, stepText p.stepId = key := by
  rw [trackOf, Keyed.mem_keys_ofPairs, Keyed.keys, List.map_map, List.mem_map]
  rfl

/-- **A step has the status of its last report.** -/
theorem get?_trackOf (reports : List StepReport) (id : Nat) :
    (trackOf reports).get? (stepText id) =
      (reports.filter (·.stepId = id)).getLast?.map fun p => .str p.status.label := by
  have hfilter : (fun p : StepReport => decide (stepText p.stepId = stepText id)) =
      fun p => decide (p.stepId = id) :=
    funext fun p => decide_eq_decide.mpr stepText_injective.eq_iff
  rw [trackOf, Keyed.get?_ofPairs, List.filter_map, List.getLast?_map, Option.map_map]
  exact congrArg (fun keep => ((reports.filter keep).getLast?).map _) hfilter

/-! ## Steps -/

namespace Executor

theorem responseKey_ne_statusKey (ctx : StepContext) : responseKey ctx ≠ statusKey := by
  intro h
  have hfirst := congrArg (fun s : String => s.toList.head?) h
  simp [responseKey, statusKey, show (toString "response") = "response" from rfl] at hfirst

variable {x : Executor} {ctx : StepContext} {slot : Slot} {o : Outside} {w : World}
  {reports : List StepReport}

/-- A run of a step is one of its outcomes, after which their status is noted. -/
theorem runs_runStep {spec : StepSpec} {t : Trace} {report : StepReport}
    (h : (x.runStep ctx spec).Runs t report) :
    ∃ asked noted outcomes, t = asked ++ [noted] ∧
      (x.runOutcomes (atStep ctx spec)).Runs asked outcomes ∧
      noted.1 = x.sources.store.note ctx.key report.stepId report.status.label ∧
      report.stepId = spec.id := by
  obtain ⟨asked, t₂, outcomes, rfl, houtcomes, hrecorded⟩ := Act.runs_bind.mp h
  obtain ⟨t₂, t₃, r, rfl, hrecord, hdone⟩ := Act.runs_bind.mp hrecorded
  obtain ⟨rfl, rfl⟩ := Act.runs_pure.mp hdone
  obtain ⟨noted, rfl, hnoted⟩ := StoreHandle.runs_recordStatus hrecord
  exact ⟨asked, noted, outcomes, by rw [List.append_nil], houtcomes, hnoted, rfl⟩

/-- **A step adds its report to those that the document tracks.** -/
theorem tracks_runStep {spec : StepSpec} {t : Trace} {report : StepReport}
    (hstore : x.sources.store = .memory slot) (hrun : (x.runStep ctx spec).Runs t report)
    (hspares : ∀ e ∈ t, e.1.mergedKey? ≠ some statusKey)
    (h : Tracks (w.stores slot ctx.key) reports) :
    Tracks ((w.after o t).stores slot ctx.key) (reports ++ [report]) := by
  obtain ⟨asked, noted, outcomes, rfl, houtcomes, hnoted, -⟩ := runs_runStep hrun
  have hasked : Tracks ((w.after o asked).stores slot ctx.key) reports := h.after fun e he =>
    ⟨notes_nothing houtcomes e he, hspares e (List.mem_append_left _ he)⟩
  rw [hstore] at hnoted
  rw [World.after_append, World.stores_after_write hnoted]
  exact hasked.note report

/-- Steps that ran one after another add their reports. -/
theorem tracks_ran {ran : List StepRun} (hstore : x.sources.store = .memory slot)
    (hmade : ∀ s ∈ ran, (x.runStep ctx s.spec).Runs s.trace s.report)
    (hspares : ∀ e ∈ ran.flatMap StepRun.exchanges, e.1.mergedKey? ≠ some statusKey)
    (h : Tracks (w.stores slot ctx.key) reports) :
    Tracks ((w.after o (ran.flatMap StepRun.exchanges)).stores slot ctx.key)
      (reports ++ ran.map (·.report)) := by
  induction ran generalizing w reports with
  | nil => rwa [List.map_nil, List.append_nil]
  | cons s ran ih =>
    obtain ⟨hfirst, hothers⟩ := List.forall_mem_cons.mp hmade
    rw [List.flatMap_cons] at hspares ⊢
    obtain ⟨hspares₁, hspares₂⟩ := List.forall_mem_append.mp hspares
    have hasked : (w.after o s.exchanges) = w.after o s.trace := rfl
    have htracks := tracks_runStep (o := o) hstore hfirst (List.forall_mem_cons.mp hspares₁).2 h
    rw [World.after_append, hasked, List.map_cons, List.append_cons]
    exact ih hothers hspares₂ htracks

end Executor

/-! ## Cases -/

/-- The statuses have their key to themselves: neither the test data of the case has that key, nor is
a result stored under it, which is what a run sets besides test data and responses. -/
structure SparesStatuses (c : CaseDefinition) (t : Trace) : Prop where
  testData : statusKey ∉ Keyed.keys c.testData
  stored : ∀ e ∈ t, ∀ key, e.1.mergedKey? = some key → key ∉ Keyed.keys c.testData →
    (∀ ctx, key ≠ Executor.responseKey ctx) → key ≠ statusKey

theorem SparesStatuses.merged {c : CaseDefinition} {t : Trace} (h : SparesStatuses c t)
    {e : Exchange} (he : e ∈ t) : e.1.mergedKey? ≠ some statusKey := fun hmerged =>
  h.stored e he statusKey hmerged h.testData
    (fun ctx => (Executor.responseKey_ne_statusKey ctx).symm) rfl

namespace Runner

variable {r : Runner} {position : Nat} {c : CaseDefinition} {t : Trace} {report : CaseReport}

/-- The reports of a case have the numbers of the steps that it began with. -/
theorem ids_runCase (hrun : (r.runCase position c).Runs t report) :
    report.steps.map (·.stepId) <+: c.orderedSteps.map (·.id) := by
  obtain ⟨_, _, _, _, _, _, _, ran, _, -, -, -, hcourse⟩ := course_of_runCase hrun
  have hids : report.steps.map (·.stepId) = (ran.map (·.spec)).map (·.id) := by
    rw [show report.steps = ran.map (·.report) from hcourse.reports_eq, List.map_map, List.map_map]
    refine List.map_congr_left fun s hs => ?_
    obtain ⟨-, -, -, -, -, -, hid⟩ := Executor.runs_runStep (hcourse.made s hs)
    exact hid
  rw [hids]
  exact hcourse.begins.map _

/-- **A case tracks all of its reports**: before its first step and after its last nothing is noted,
and each step adds its own report. -/
theorem tracks_runCase {o : Outside} {w : World} {slot : Slot}
    (hslot : r.memorySlot? position = some slot)
    (hfresh : Keyed.get? statusKey (w.stores slot (r.keyOf c)) = none)
    (hrun : (r.runCase position c).Runs t report)
    (hspares : ∀ e ∈ t, e.1.mergedKey? ≠ some statusKey) :
    Tracks ((w.after o t).stores slot (r.keyOf c)) report.steps := by
  obtain ⟨started, t₁, store, t₂, data, t₃, ended, ran, cancelled, rfl, hseeded, hread, hcourse⟩ :=
    course_of_runCase hrun
  obtain ⟨hseeds, hmemory⟩ := hseeded.within (within_storeFor (P := (!·.isNote)) fun _ _ _ => rfl)
  obtain rfl : store = .memory slot := hmemory slot hslot
  have hreads : ∀ e ∈ t₂, !e.1.isNote :=
    (hread.within (P := (!·.isNote)) (Q := fun _ => True) ⟨rfl, fun _ => trivial⟩).1
  let before : Trace := ⟨.now, started⟩ :: (t₁ ++ t₂)
  let steps : Trace := ran.flatMap StepRun.exchanges
  let behind : Trace := (if cancelled then [cancellation] else []) ++ [⟨.now, ended⟩]
  have hparts : (⟨.now, started⟩ :: (t₁ ++ (t₂ ++ (t₃ ++ [⟨.now, ended⟩]))) : Trace) =
      before ++ (steps ++ behind) := by
    simp [hcourse.trace_eq, before, steps, behind]
  rw [hparts] at hspares ⊢
  obtain ⟨hspares₁, hspares₂⟩ := List.forall_mem_append.mp hspares
  obtain ⟨hspares₂, hspares₃⟩ := List.forall_mem_append.mp hspares₂
  have hbefore : ∀ e ∈ before, !e.1.isNote :=
    List.forall_mem_cons.mpr ⟨rfl, List.forall_mem_append.mpr ⟨hseeds, hreads⟩⟩
  have hbehind : ∀ e ∈ behind, !e.1.isNote := by
    cases cancelled <;> simp [behind, cancellation, Call.isNote]
  have hstart : Tracks (w.stores slot (r.keyOf c)) [] := hfresh
  have hfirst := hstart.after (o := o) fun e he => ⟨hbefore e he, hspares₁ e he⟩
  have hsteps : Tracks (((w.after o before).after o steps).stores slot (r.keyOf c))
      ([] ++ ran.map (·.report)) :=
    Executor.tracks_ran rfl hcourse.made hspares₂ hfirst
  have hlast := hsteps.after (o := o) fun e he => ⟨hbehind e he, hspares₃ e he⟩
  rw [World.after_append, World.after_append]
  rwa [show report.steps = ran.map (·.report) from hcourse.reports_eq]

/-- **The statuses that a case leaves are those of its reports.**  In all surroundings, whatever its
steps store under other keys and however it ends: a case whose store is in memory, and has no statuses
of it at first, leaves an object with the number of each step that was run and nothing else, and under
each number the label of the last report with that number. -/
theorem runCase_tracks (r : Runner) (position : Nat) (c : CaseDefinition) (env : Surroundings)
    (past : Trace) (o : Outside) {w : World} {slot : Slot}
    (hslot : r.memorySlot? position = some slot)
    (hfresh : Keyed.get? statusKey (w.stores slot (r.keyOf c)) = none)
    (hspares : SparesStatuses c ((r.runCase position c).meet env past).1) :
    let run := (r.runCase position c).meet env past
    let document := (w.after o run.1).stores slot (r.keyOf c)
    run.2.steps.map (·.stepId) <+: c.orderedSteps.map (·.id) ∧
      (run.2.steps ≠ [] → ∃ track : Entries, document.get? statusKey = some (.obj track) ∧
        track.Increasing ∧
        (∀ key, key ∈ track.keys ↔ ∃ p ∈ run.2.steps, stepText p.stepId = key) ∧
        ∀ id, track.get? (stepText id) =
          (run.2.steps.filter (·.stepId = id)).getLast?.map fun p => .str p.status.label) := by
  intro run document
  have hrun : (r.runCase position c).Runs run.1 run.2 := Act.runs_meet env _ past
  have htracks : Tracks document run.2.steps :=
    tracks_runCase hslot hfresh hrun fun e he => hspares.merged he
  exact ⟨ids_runCase hrun, fun hran => ⟨trackOf run.2.steps, htracks.trans (if_neg hran),
    Keyed.increasing_ofPairs _, fun _ => mem_keys_trackOf, get?_trackOf _⟩⟩

end Runner

/-! ## Steps with one number -/

namespace Executor

/-- The instance of a step that has a test and nothing else. -/
def runTestAlone (x : Executor) (ctx : StepContext) (test : Json) : Act StepOutcome := do
  let stages : Stage StepStatus := do
    x.runTest ctx (some test)
    Stage.log assertBanner
    return .passed
  let started ← Act.now
  let (r, log) ← stages.start [headerLine ctx]
  let ended ← Act.now
  return .ofResult ctx (ended - started) log r

theorem runOutcomes_testAlone (x : Executor) (caseCtx : StepContext) (id : Nat) (name : String)
    (test : Json) :
    let ctx := atStep caseCtx ⟨id, name, [("test", test)]⟩
    x.runOutcomes ctx = x.runTestAlone ctx test >>= fun outcome => pure [outcome] := by
  intro ctx
  have hnone : ∀ key, key ≠ "test" → ctx.definition.get? key = none := fun key hkey =>
    if_neg (Ne.symm hkey)
  have hactions : ∀ key, key ≠ "test" →
      x.runActions x.nestedGate ctx (ctx.definition.get? key) = pure () := fun key hkey => by
    rw [hnone key hkey, runActions_none]
  have hasserts : ∀ key, key ≠ "test" →
      x.runAssertions x.nestedGate ctx (ctx.definition.get? key) = pure () := fun key hkey => by
    rw [hnone key hkey, runAssertions_none]
  have hmet : x.dependencyMet x.nestedGate ctx (ctx.definition.get? "dependency") = pure true := by
    rw [dependencyMet, hasserts _ (by decide)]
    rfl
  have hafter : x.runAfterTest ctx = Stage.log assertBanner := by
    rw [runAfterTest, hasserts _ (by decide)]
    rfl
  have hstages : x.runStages ctx = (do
      x.runTest ctx (some test)
      Stage.log assertBanner
      return .passed) := by
    unfold runStages
    dsimp only
    rw [hactions _ (by decide), hactions _ (by decide), hmet, hafter]
    rfl
  have hinstance : x.runInstance ctx = x.runTestAlone ctx test := by
    rw [runInstance, hstages]
    rfl
  have hexpand : x.expandStep ctx = pure [(1, ctx.definition)] := by
    rw [expandStep, hactions _ (by decide)]
    rfl
  rw [runOutcomes, hexpand, ← hinstance]
  rfl

end Executor

/-- Two steps with one number: a call whose result is stored, and a test that is none. -/
def repeatedCase : CaseDefinition where
  id := "a"
  name := none
  region := ""
  env := ""
  kinds := []
  testData := []
  scenario := []
  steps := [⟨1, "call", [("test", Executor.callUnder "orderId")]⟩, ⟨1, "fail", [("test", .bool true)]⟩]

/-- A runner that gives every case a store of its own. -/
def ownRunner : Runner := ⟨"", .standard, .separate 0, .fixed ⟨[], [], []⟩, none⟩

theorem orderedSteps_repeatedCase : repeatedCase.orderedSteps = repeatedCase.steps :=
  List.mergeSort_of_pairwise (by decide)

/-- The run of that case, with a database that answers. -/
def repeatedRun : Trace × CaseReport :=
  (ownRunner.runCase 0 repeatedCase).meet (World.start.surroundings Executor.rowDatabase) []

theorem repeatedRun_eq :
    repeatedRun.1.filterMap (·.1.mergedKey?) = ["orderId"] ∧
      repeatedRun.2.steps.map (fun p => (p.stepId, p.status)) = [(1, .passed), (1, .failed)] := by
  rw [repeatedRun, Runner.runCase, orderedSteps_repeatedCase]
  simp only [repeatedCase, Runner.runSteps, Executor.runStep, Executor.runOutcomes_testAlone]
  decide +kernel

/-- The status of the second step is the one that stays. -/
theorem repeatedCase_failed :
    SparesStatuses repeatedCase repeatedRun.1 ∧ ∃ track : Entries,
      Keyed.get? statusKey ((World.start.after Executor.rowDatabase repeatedRun.1).stores 0
        (ownRunner.keyOf repeatedCase)) = some (.obj track) ∧
      track.get? "1" = some (.str "failed") := by
  obtain ⟨hmerged, hreports⟩ := repeatedRun_eq
  have hspares : SparesStatuses repeatedCase repeatedRun.1 := by
    refine ⟨List.not_mem_nil, fun e he key hkey _ _ => ?_⟩
    have hmem : key ∈ repeatedRun.1.filterMap (·.1.mergedKey?) := List.mem_filterMap.mpr ⟨e, he, hkey⟩
    rw [hmerged, List.mem_singleton] at hmem
    rw [hmem]
    decide
  obtain ⟨-, htracks⟩ := ownRunner.runCase_tracks 0 repeatedCase
    (World.start.surroundings Executor.rowDatabase) [] Executor.rowDatabase (w := .start) rfl rfl
    hspares
  have hran : repeatedRun.2.steps ≠ [] := fun hnone => by
    rw [hnone] at hreports
    cases hreports
  obtain ⟨track, hdocument, -, -, hlast⟩ := htracks hran
  refine ⟨hspares, track, hdocument, (hlast 1).trans ?_⟩
  obtain ⟨first, rest, hsteps, hfirst, hrest⟩ := List.map_eq_cons_iff.mp hreports
  obtain ⟨second, rest, rfl, hsecond, hend⟩ := List.map_eq_cons_iff.mp hrest
  obtain rfl := List.map_eq_nil_iff.mp hend
  obtain ⟨hfirstId, -⟩ := Prod.mk.inj hfirst
  obtain ⟨hsecondId, hstatus⟩ := Prod.mk.inj hsecond
  change ((repeatedRun.2.steps.filter _).getLast?.map _) = _
  rw [hsteps]
  simp [hfirstId, hsecondId, hstatus, StepStatus.label]

end CaseScript

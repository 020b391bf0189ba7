import CaseScript.Proofs.Step.Cancellation
import CaseScript.Proofs.Template.Fill

/-!
# Proofs/Step/Instances — one instance for each element, and one status for all

A step whose loop has `n` elements runs `n` instances, one after another whatever came of those
before (`EachOnce`), and then notes its status.  It notes nothing before (`runOutcomes_calls`), so
the status is noted once, and nothing depends on whether that can be done.  `runStep_eachOnce` says
so of every step, and what is reported of one that cannot be expanded.
-/

namespace CaseScript

/-- Statuses come to a failure exactly if one of them is one. -/
theorem StepStatus.isFailure_aggregate (ss : List StepStatus) :
    (aggregate ss).isFailure = ss.any isFailure := by
  unfold aggregate
  split
  · simp
  · cases hany : ss.any isFailure with
    | true => rfl
    | false => rfl

/-- The call by which a store notes the status of a step. -/
def StoreHandle.note (h : StoreHandle) (key : CaseKey) (step : Nat) (label : String) : Call :=
  match h with
  | memory slot => .write slot key (.status step label)
  | table connection =>
    .query ⟨connection, statusSql, caseParams key ++ [.str (stepText step), .str label]⟩ .none

/-- Noting a status is one call. -/
theorem StoreHandle.runs_recordStatus {h : StoreHandle} {key : CaseKey} {step : Nat}
    {label : String} {t : Trace} {r : Except StoreError Unit}
    (hr : (h.recordStatus key step label).Runs t r) :
    ∃ noted : Exchange, t = [noted] ∧ noted.1 = h.note key step label := by
  cases h with
  | memory slot =>
    obtain ⟨answer, t', rfl, hdone⟩ := Act.runs_call_bind.mp hr
    obtain ⟨rfl, -⟩ := Act.runs_pure.mp hdone
    exact ⟨_, rfl, rfl⟩
  | table connection =>
    obtain ⟨t₁, t₂, r₁, rfl, hquery, hread⟩ := Act.runs_bind.mp hr
    obtain ⟨answer, t', rfl, hanswered⟩ := Act.runs_call_bind.mp hquery
    have hnothing : ∀ {r' : Except QueryError (List Row)}, (pure r' : Act _).Runs t' r₁ → t' = [] :=
      fun h => (Act.runs_pure.mp h).1
    have ht' : t' = [] := by cases answer <;> exact hnothing hanswered
    have ht₂ : t₂ = [] := by cases r₁ <;> exact (Act.runs_pure.mp hread).1
    rw [ht', ht₂]
    exact ⟨_, rfl, rfl⟩

namespace Executor

open Stage

variable {x : Executor} {ctx : StepContext}

/-! ## What the instances of a step ask -/

section

variable {P : Call → Prop}

theorem sendRequest_calls (hnow : P .now) (hattempt : ∀ n, P (.attempt n)) (hasked : P .isCancelled)
    (hpause : ∀ m g, P (.pause m g)) (hsend : ∀ r g, P (.send r g)) (a : HttpAction)
    (r : Request) : (x.sendRequest a r).Obeys (.calls P) := by
  have hsent : ∀ g, (Act.send r g).Within P fun _ => True := fun g =>
    ⟨hsend r g, fun _ => trivial⟩
  refine obeys_sendRequest Law.blind_calls ?_ fun deadline => ?_
  · exact obeys_within (Q := fun _ => True) ⟨hnow, fun _ => trivial⟩
  · exact obeys_within (within_retryFrom hattempt hasked (hpause _ _) (hsent _) _ _)

variable (h : (Law.calls P).Admits x) (hsend : ∀ a r, (x.sendRequest a r).Obeys (.calls P))
  (hnow : P .now)
include h hsend hnow

theorem runInstance_calls {t : Trace} {o : StepOutcome} (hr : (x.runInstance ctx).Runs t o) :
    ∀ e ∈ t, P e.1 := by
  obtain ⟨started, ended, t', r, log, rfl, hstages, -⟩ := runs_runInstance hr
  have hcalls : ∀ e ∈ t', P e.1 :=
    obeys_runStages Law.blind_calls (governs_of_admits h) h.quiet hsend ctx hstages
  have hclock : ∀ time : Nat, ∀ e ∈ ([⟨.now, time⟩] : Trace), P e.1 := fun _ =>
    List.forall_mem_singleton.mpr hnow
  exact List.forall_mem_append.mpr
    ⟨List.forall_mem_append.mpr ⟨hclock started, hcalls⟩, hclock ended⟩

theorem runInstances_calls {several : Bool} {instances : List (Nat × Json)} {t : Trace}
    {os : List StepOutcome} (hr : (x.runInstances ctx several instances).Runs t os) :
    ∀ e ∈ t, P e.1 := by
  induction instances generalizing t os with
  | nil =>
    obtain ⟨rfl, rfl⟩ := Act.runs_pure.mp hr
    exact List.forall_mem_nil _
  | cons e rest ih =>
    obtain ⟨t₁, t₂, o, rfl, hinstance, hothers⟩ := Act.runs_bind.mp hr
    obtain ⟨t₂, t₃, os, rfl, hrest, hdone⟩ := Act.runs_bind.mp hothers
    obtain ⟨rfl, rfl⟩ := Act.runs_pure.mp hdone
    rw [List.append_nil]
    exact List.forall_mem_append.mpr ⟨runInstance_calls h hsend hnow hinstance, ih hrest⟩

/-- **A step asks what its leaves ask**, before it notes its status. -/
theorem runOutcomes_calls {t : Trace} {os : List StepOutcome}
    (hr : (x.runOutcomes ctx).Runs t os) : ∀ e ∈ t, P e.1 := by
  obtain ⟨t₁, t₂, ⟨r, log⟩, rfl, hexpanded, hinstances⟩ := Act.runs_bind.mp hr
  have hbefore : ∀ e ∈ t₁, P e.1 := obeys_expandStep (governs_of_admits h) ctx hexpanded
  refine List.forall_mem_append.mpr ⟨hbefore, ?_⟩
  cases r with
  | ok instances => exact runInstances_calls h hsend hnow hinstances
  | error e =>
    obtain ⟨rfl, rfl⟩ := Act.runs_pure.mp hinstances
    exact List.forall_mem_nil _

end

/-- No instance of a step notes a status, nor does its expansion. -/
theorem notes_nothing {t : Trace} {os : List StepOutcome} (h : (x.runOutcomes ctx).Runs t os) :
    ∀ e ∈ t, !e.1.isNote := by
  have hquery : ∀ (q : Query) (g : Guard), g.cancellable → !(Call.query q g).isNote := by
    intro q g hg
    simp [Call.isNote, hg]
  have hadmits := admits_calls x (P := fun c => !c.isNote) (fun _ => rfl) rfl (fun _ => rfl) hquery
    fun _ hc => hc.2
  have hsend : ∀ a r, (x.sendRequest a r).Obeys (.calls (!·.isNote)) :=
    sendRequest_calls rfl (fun _ => rfl) rfl (fun _ _ => rfl) fun _ _ => rfl
  exact runOutcomes_calls hadmits hsend rfl h

/-! ## Instances one after another -/

/-- The context of an instance; `several` is whether there is more than one. -/
def instanceContext (ctx : StepContext) (several : Bool) (e : Nat × Json) : StepContext :=
  { ctx with
    index := e.1, definition := e.2
    stepName := if several then s!"{ctx.stepName} (Loop {e.1})" else ctx.stepName }

/-- An instance that was run: its context, what it exchanged, and its outcome. -/
structure InstanceRun where
  ctx : StepContext
  trace : Trace
  outcome : StepOutcome

/-- Each of `instances` was run once, one after another, with these outcomes. -/
structure EachOnce (x : Executor) (ctx : StepContext) (instances : List (Nat × Json)) (t : Trace)
    (os : List StepOutcome) (ran : List InstanceRun) : Prop where
  contexts_eq : ran.map (·.ctx) = instances.map (instanceContext ctx (1 < instances.length))
  made : ∀ i ∈ ran, (x.runInstance i.ctx).Runs i.trace i.outcome
  trace_eq : t = ran.flatMap (·.trace)
  outcomes_eq : os = ran.map (·.outcome)

/-- An outcome tells which instance it is of. -/
theorem place_of_runInstance {t : Trace} {o : StepOutcome} (h : (x.runInstance ctx).Runs t o) :
    o.stepId = ctx.stepId ∧ o.name = ctx.stepName ∧ o.index = ctx.index := by
  obtain ⟨started, ended, t', r, log, -, -, rfl⟩ := runs_runInstance h
  cases r <;> exact ⟨rfl, rfl, rfl⟩

theorem exists_ran {several : Bool} {instances : List (Nat × Json)} {t : Trace}
    {os : List StepOutcome} (h : (x.runInstances ctx several instances).Runs t os) :
    ∃ ran : List InstanceRun, ran.map (·.ctx) = instances.map (instanceContext ctx several) ∧
      (∀ i ∈ ran, (x.runInstance i.ctx).Runs i.trace i.outcome) ∧
      t = ran.flatMap (·.trace) ∧ os = ran.map (·.outcome) := by
  induction instances generalizing t os with
  | nil =>
    obtain ⟨rfl, rfl⟩ := Act.runs_pure.mp h
    exact ⟨[], rfl, nofun, rfl, rfl⟩
  | cons e rest ih =>
    obtain ⟨t₁, t₂, o, rfl, hinstance, hothers⟩ := Act.runs_bind.mp h
    obtain ⟨t₂, t₃, os, rfl, hrest, hdone⟩ := Act.runs_bind.mp hothers
    obtain ⟨rfl, rfl⟩ := Act.runs_pure.mp hdone
    obtain ⟨ran, hcontexts, hmade, rfl, rfl⟩ := ih hrest
    refine ⟨⟨instanceContext ctx several e, t₁, o⟩ :: ran, congrArg _ hcontexts,
      List.forall_mem_cons.mpr ⟨hinstance, hmade⟩, ?_, rfl⟩
    rw [List.append_nil, List.flatMap_cons]

namespace EachOnce

variable {instances : List (Nat × Json)} {t : Trace} {os : List StepOutcome}
  {ran : List InstanceRun}

theorem length_eq (h : x.EachOnce ctx instances t os ran) : ran.length = instances.length := by
  simpa using congrArg List.length h.contexts_eq

/-- The outcomes are numbered as the instances are. -/
theorem indexes_eq (h : x.EachOnce ctx instances t os ran) :
    os.map (·.index) = instances.map (·.1) := by
  have hplace : ran.map (·.outcome.index) = ran.map (·.ctx.index) :=
    List.map_congr_left fun i hi => (place_of_runInstance (h.made i hi)).2.2
  have hindex : ran.map (·.ctx.index) = (ran.map (·.ctx)).map (·.index) := by
    rw [List.map_map]
    rfl
  rw [h.outcomes_eq, List.map_map]
  refine hplace.trans (hindex.trans ?_)
  rw [h.contexts_eq, List.map_map]
  rfl

/-- An outcome is called as the step, with its number if there is more than one. -/
theorem name_eq (h : x.EachOnce ctx instances t os ran) {o : StepOutcome} (ho : o ∈ os) :
    o.name = if 1 < instances.length then s!"{ctx.stepName} (Loop {o.index})" else ctx.stepName := by
  rw [h.outcomes_eq, List.mem_map] at ho
  obtain ⟨i, hi, rfl⟩ := ho
  obtain ⟨-, hname, hindex⟩ := place_of_runInstance (h.made i hi)
  have hcontext : i.ctx ∈ instances.map (instanceContext ctx (1 < instances.length)) :=
    h.contexts_eq ▸ List.mem_map_of_mem hi
  obtain ⟨e, -, hcontext⟩ := List.mem_map.mp hcontext
  rw [hname, hindex, ← hcontext]
  simp [instanceContext]

end EachOnce

/-! ## The expansion of a step -/

theorem meet_stage_bind {α β : Type} (s : Stage α) (k : α → Stage β) (log : Log)
    (env : Surroundings) (past : Trace) :
    let first := (s.start log).meet env past
    (∀ e, first.2.1 = .error e →
      ((s >>= k).start log).meet env past = (first.1, .error e, first.2.2)) ∧
    ∀ a, first.2.1 = .ok a →
      let second := ((k a).start first.2.2).meet env (past ++ first.1)
      ((s >>= k).start log).meet env past = (first.1 ++ second.1, second.2) := by
  rw [start_bind, Act.meet_bind]
  generalize (s.start log).meet env past = m
  obtain ⟨t, r, log₁⟩ := m
  refine ⟨?_, ?_⟩
  · rintro e rfl
    exact Prod.ext (List.append_nil t) rfl
  · rintro a rfl
    rfl

theorem meet_ofAct {α : Type} (p : Act (Except StepError α)) (log : Log) (env : Surroundings)
    (past : Trace) :
    ((Stage.ofAct p).start log).meet env past =
      ((p.meet env past).1, (p.meet env past).2, log) := by
  rw [Stage.ofAct, start_bind, start_call, Act.meet_bind, Act.meet_bind]
  generalize p.meet env past = m
  obtain ⟨t, e | a⟩ := m
  · exact Prod.ext ((List.append_nil _).trans (List.append_nil _)) rfl
  · exact Prod.ext ((List.append_nil _).trans (List.append_nil _)) rfl

/-- The instances of a loop are numbered from one. -/
theorem map_fst_instancesFrom (names : List (List Char)) (loop : List Char) (body : Json)
    (size i : Nat) :
    (Template.instancesFrom names loop body size i).map (·.1) = List.range' (i + 1) size := by
  induction size generalizing i with
  | zero => rfl
  | succ size ih => rw [Template.instancesFrom, List.map_cons, ih, List.range'_succ]

/-- The value of a loop is an array, or it is refused. -/
theorem loopItems_cases (expression : String) (v : Json) :
    (∃ items, v = .arr items) ∨ ∃ e, Template.loopItems expression v = .error e := by
  unfold Template.loopItems
  split
  · exact .inl ⟨_, rfl⟩
  · exact .inr ⟨_, rfl⟩
  · split <;> exact .inr ⟨_, rfl⟩
  · exact .inr ⟨_, rfl⟩

/-- How many elements the loop of a definition has in surroundings that were asked `past`: one
without a loop, and no number if the loop is not read as an array. -/
def loopSize? (x : Executor) (ctx : StepContext) (definition : Json) (env : Surroundings)
    (past : Trace) : Option Nat :=
  match definition.get? "loop" with
  | none | some .null => some 1
  | some (.str expression) =>
    let loop := Template.loopName (trimmed expression).toList
    if loop = [] then none
    else
      match ((x.sources.resolve ctx .none (Template.slotOf loop)).meet env past).2 with
      | .ok (.arr items) => some items.length
      | _ => none
  | some _ => none

/-- **A template has an instance for each element of its loop**, and else it fails. -/
theorem result_expandLoop (x : Executor) (ctx : StepContext) (definition : Json) (marker : String)
    (env : Surroundings) (past : Trace) :
    let r := ((x.sources.expandLoop ctx definition marker).meet env past).2
    (∀ n, x.loopSize? ctx definition env past = some n →
      ∃ instances, r = .ok instances ∧ instances.map (·.1) = List.range' 1 n) ∧
    (x.loopSize? ctx definition env past = none → ∃ e, r = .error e) := by
  unfold Sources.expandLoop loopSize?
  generalize definition.get? "loop" = l
  match l with
  | none | some .null =>
    exact ⟨fun n hn => ⟨_, rfl, by rw [← Option.some.inj hn]; rfl⟩, nofun⟩
  | some (.bool _) | some (.num _) | some (.arr _) | some (.obj _) =>
    exact ⟨nofun, fun _ => ⟨_, rfl⟩⟩
  | some (.str expression) =>
    dsimp only
    generalize Template.loopName (trimmed expression).toList = loop
    by_cases hempty : loop = []
    · rw [if_pos hempty, if_pos hempty]
      exact ⟨nofun, fun _ => ⟨_, rfl⟩⟩
    have hslot : Json.str (String.ofList (['{', '{'] ++ loop ++ ['}', '}'])) =
        Template.slotOf loop := rfl
    rw [if_neg hempty, if_neg hempty, Act.result_bind, hslot]
    generalize (x.sources.resolve ctx .none (Template.slotOf loop)).meet env past = m
    obtain ⟨t, e | v⟩ := m
    · exact ⟨nofun, fun _ => ⟨e, rfl⟩⟩
    obtain ⟨items, rfl⟩ | ⟨e, he⟩ := loopItems_cases (trimmed expression) v
    · refine ⟨fun n hn => ⟨_, rfl, ?_⟩, nofun⟩
      rw [map_fst_instancesFrom, ← Option.some.inj hn]
    · dsimp only
      rw [he]
      refine ⟨fun n hn => ?_, fun _ => ⟨e, rfl⟩⟩
      cases v <;> cases hn
      cases he

/-- What runs before the loop of a step, in surroundings that were asked `past`. -/
def beforeLoop (x : Executor) (ctx : StepContext) (env : Surroundings) (past : Trace) :
    Trace × (Except StepError Unit × Log) :=
  ((x.runActions x.nestedGate ctx (ctx.definition.get? "beforeLoop")).start [headerLine ctx]).meet
    env past

/-- A step is expanded unless what runs before its loop fails. -/
theorem meet_expandStep (x : Executor) (ctx : StepContext) (env : Surroundings) (past : Trace) :
    let before := x.beforeLoop ctx env past
    let expanding := (x.sources.expandLoop ctx ctx.definition Template.stepMarker).meet env
      (past ++ before.1)
    let expanded := ((x.expandStep ctx).start [headerLine ctx]).meet env past
    (∀ e, before.2.1 = .error e → expanded = (before.1, .error e, before.2.2)) ∧
      (before.2.1 = .ok () → expanded = (before.1 ++ expanding.1, expanding.2, before.2.2)) := by
  intro before expanding expanded
  obtain ⟨hfails, hgoes⟩ := meet_stage_bind
    (x.runActions x.nestedGate ctx (ctx.definition.get? "beforeLoop"))
    (fun _ => Stage.ofAct (x.sources.expandLoop ctx ctx.definition Template.stepMarker))
    [headerLine ctx] env past
  refine ⟨hfails, fun hok => (hgoes () hok).trans ?_⟩
  rw [meet_ofAct]
  rfl

/-- What the expansion of a step fails with is no missed deadline. -/
theorem status_of_expandStep {log log' : Log} {t : Trace} {e : StepError}
    (h : (x.expandStep ctx).Runs log t (.error e) log') :
    (StepOutcome.ofResult ctx 0 log' (.error e)).status = .failed := by
  have htimely := obeys_expandStep (governs_of_admits (admits_timely x)) ctx h
  cases e with
  | timeout s => exact absurd rfl (htimely s)
  | _ => rfl

/-- **The outcomes of a step** are those of its instances, each run once, or the failure of its
expansion. -/
theorem meet_runOutcomes (x : Executor) (ctx : StepContext) (env : Surroundings) (past : Trace) :
    let expanded := ((x.expandStep ctx).start [headerLine ctx]).meet env past
    let run := (x.runOutcomes ctx).meet env past
    (∀ instances, expanded.2.1 = .ok instances →
      ∃ t ran, run.1 = expanded.1 ++ t ∧ x.EachOnce ctx instances t run.2 ran) ∧
    ∀ e, expanded.2.1 = .error e → ∃ o, run.2 = [o] ∧ o.index = ctx.index ∧ o.status = .failed := by
  have hexpanded := Act.runs_meet env ((x.expandStep ctx).start [headerLine ctx]) past
  rw [runOutcomes, Act.meet_bind]
  generalize ((x.expandStep ctx).start [headerLine ctx]).meet env past = m at hexpanded ⊢
  obtain ⟨t, r, log⟩ := m
  refine ⟨?_, ?_⟩
  · rintro instances rfl
    obtain ⟨ran, hcontexts, hmade, htrace, houtcomes⟩ := exists_ran (Act.runs_meet env
      (x.runInstances ctx (1 < instances.length) instances) (past ++ t))
    exact ⟨_, ran, rfl, hcontexts, hmade, htrace, houtcomes⟩
  · rintro e rfl
    exact ⟨_, rfl, rfl, status_of_expandStep hexpanded⟩

theorem loopedName_ne (name : String) (i : Nat) : s!"{name} (Loop {i})" ≠ name := by
  intro h
  have hlength : (name ++ " (Loop " ++ toString i ++ ")").length = name.length :=
    congrArg String.length h
  have hbracket : ")".length = 1 := rfl
  rw [String.length_append, String.length_append, String.length_append] at hlength
  omega

/-- **The outcomes of a step by the size of its loop**: as many as there are elements, or a single
failure. -/
theorem runOutcomes_eachOnce (x : Executor) (ctx : StepContext) (env : Surroundings)
    (past : Trace) :
    let before := x.beforeLoop ctx env past
    let size? := x.loopSize? ctx ctx.definition env (past ++ before.1)
    let run := (x.runOutcomes ctx).meet env past
    (∀ n, before.2.1 = .ok () → size? = some n →
      (∃ instances expanding t ran, run.1 = before.1 ++ expanding ++ t ∧
        x.EachOnce ctx instances t run.2 ran) ∧
      run.2.map (·.index) = List.range' 1 n ∧
      ∀ o ∈ run.2, (o.name = s!"{ctx.stepName} (Loop {o.index})" ↔ 1 < n) ∧
        (o.name = ctx.stepName ↔ n ≤ 1)) ∧
    ((before.2.1 = .ok () → size? = none) →
      ∃ o, run.2 = [o] ∧ o.index = ctx.index ∧ o.status = .failed) := by
  intro before size? run
  obtain ⟨hfails, hgoes⟩ := meet_expandStep x ctx env past
  obtain ⟨hexpands, hrefuses⟩ := result_expandLoop x ctx ctx.definition Template.stepMarker env
    (past ++ before.1)
  obtain ⟨heach, hone⟩ := meet_runOutcomes x ctx env past
  refine ⟨fun n hok hn => ?_, fun hnone => ?_⟩
  · obtain ⟨instances, hinstances, hnumbers⟩ := hexpands n hn
    have hexpanded := hgoes hok
    rw [hexpanded] at heach
    obtain ⟨t, ran, htrace, hran⟩ := heach instances hinstances
    have hlength : instances.length = n := by
      simpa using congrArg List.length hnumbers
    refine ⟨⟨instances, _, t, ran, htrace, hran⟩, hran.indexes_eq.trans hnumbers, fun o ho => ?_⟩
    have hname := hran.name_eq ho
    have hne := loopedName_ne ctx.stepName o.index
    rw [hlength] at hname
    by_cases hseveral : 1 < n
    · rw [if_pos hseveral] at hname
      rw [hname]
      exact ⟨iff_of_true rfl hseveral, iff_of_false hne (Nat.not_le.mpr hseveral)⟩
    · rw [if_neg hseveral] at hname
      rw [hname]
      exact ⟨iff_of_false hne.symm hseveral, iff_of_true rfl (Nat.not_lt.mp hseveral)⟩
  · cases hbefore : before.2.1 with
    | error e => exact hone e (by rw [hfails e hbefore])
    | ok u =>
      obtain ⟨e, he⟩ := hrefuses (hnone hbefore)
      exact hone e (by rw [hgoes hbefore]; exact he)

/-! ## Steps -/

/-- A step asks what its outcomes take, and then notes its status. -/
theorem meet_runStep (x : Executor) (caseCtx : StepContext) (spec : StepSpec) (env : Surroundings)
    (past : Trace) :
    let ctx := atStep caseCtx spec
    let outcomes := (x.runOutcomes ctx).meet env past
    let status := StepStatus.aggregate (outcomes.2.map (·.status))
    ∃ noted : Exchange, noted.1 = x.sources.store.note ctx.key spec.id status.label ∧
      (x.runStep caseCtx spec).meet env past =
        (outcomes.1 ++ [noted], ⟨spec.id, spec.name, status, outcomes.2⟩) := by
  intro ctx outcomes status
  have hnoted := Act.runs_meet env (x.sources.store.recordStatus ctx.key spec.id status.label)
    (past ++ outcomes.1)
  obtain ⟨noted, hnote, hcall⟩ := StoreHandle.runs_recordStatus hnoted
  refine ⟨noted, hcall, ?_⟩
  rw [runStep]
  dsimp only
  rw [Act.meet_bind, Act.meet_bind]
  refine Prod.ext ?_ rfl
  change outcomes.1 ++ (_ ++ []) = _
  rw [List.append_nil]
  exact congrArg (outcomes.1 ++ ·) hnote

/-- **A step runs one instance for each element of its loop.**  In all surroundings in which what
goes before its loop succeeds and the loop has `n` elements, it has `n` outcomes, numbered from one,
of instances that are run one after another whatever came of those before; they are called after
their numbers if there are several.  If the step cannot be expanded it has one outcome, a failure
numbered one.  The step fails exactly if one of its instances does.  Its status is noted last, and no
other; whether that can be done makes no difference to the report. -/
theorem runStep_eachOnce (x : Executor) (caseCtx : StepContext) (spec : StepSpec)
    (env : Surroundings) (past : Trace) :
    let ctx := atStep caseCtx spec
    let before := x.beforeLoop ctx env past
    let size? := x.loopSize? ctx ctx.definition env (past ++ before.1)
    let run := (x.runStep caseCtx spec).meet env past
    ∃ asked, ∃ noted : Exchange, run.1 = asked ++ [noted] ∧
      noted.1 = x.sources.store.note ctx.key spec.id run.2.status.label ∧
      (∀ e ∈ asked, !e.1.isNote) ∧
      (∀ n, before.2.1 = .ok () → size? = some n →
        (∃ instances expanding t ran, asked = before.1 ++ expanding ++ t ∧
          x.EachOnce ctx instances t run.2.instances ran) ∧
        run.2.instances.map (·.index) = List.range' 1 n ∧
        ∀ o ∈ run.2.instances, (o.name = s!"{spec.name} (Loop {o.index})" ↔ 1 < n) ∧
          (o.name = spec.name ↔ n ≤ 1)) ∧
      ((before.2.1 = .ok () → size? = none) →
        ∃ o, run.2.instances = [o] ∧ o.index = 1 ∧ o.status = .failed) ∧
      (run.2.status.isFailure ↔ ∃ o ∈ run.2.instances, o.status.isFailure) ∧
      ∀ env', (∀ past c, !c.isNote → env' past c = env past c) →
        ((x.runStep caseCtx spec).meet env' past).2 = run.2 := by
  intro ctx before size? run
  obtain ⟨noted, hcall, hrun⟩ := meet_runStep x caseCtx spec env past
  have hasked := notes_nothing (Act.runs_meet env (x.runOutcomes ctx) past)
  obtain ⟨heach, hone⟩ := runOutcomes_eachOnce x ctx env past
  have hreport : run = _ := hrun
  rw [hreport]
  refine ⟨_, noted, rfl, hcall, hasked, heach, hone, ?_, fun env' henv => ?_⟩
  · rw [StepStatus.isFailure_aggregate, List.any_map, List.any_eq_true]
    rfl
  · obtain ⟨noted', -, hrun'⟩ := meet_runStep x caseCtx spec env' past
    rw [hrun', Act.meet_congr henv _ past hasked]

end Executor

end CaseScript

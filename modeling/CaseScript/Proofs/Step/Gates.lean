import CaseScript.Proofs.Step.Stored
import CaseScript.Proofs.Template.Marker
import CaseScript.Step.Run
import Mathlib.Data.List.Basic

/-!
# Proofs/Step/Gates — what a gate does not read

The groups within the gate of a group are entered as they are: their own gates are not read.  So a
step runs as its **pruned** definition does, in which those gates are left out (`prunedDefinition`),
and two definitions that are equal once pruned are one program (`runStages_pruned`).

A pruned value is a `Json.revise` of the value: the entries of an object are changed key by key.
What a function reads of a group decides which revisions it does not see.
-/

namespace CaseScript

/-! ## Revised values -/

/-- What becomes of the entries of an object: those that are listed are changed, or left out where
there is nothing, and all others are kept. -/
abbrev Revision := Keyed (Option (Json → Json))

/-- What becomes of the values under a key. -/
def Revision.under (rule : Revision) (key : String) : Option (Json → Json) :=
  (rule.get? key).getD (some id)

namespace Json

/-- An object with its entries revised. -/
def revise (rule : Revision) : Json → Json
  | .obj es => .obj (es.filterMap fun e => (rule.under e.1).map fun f => (e.1, f e.2))
  | v => v

/-- The groups of an entry, each of them changed. -/
def overGroups (f : Json → Json) : Json → Json
  | .arr items => .arr (items.map f)
  | .obj es => f (.obj es)
  | v => v

/-- The groups of an entry, each of them revised, as what becomes of that entry. -/
def groupwise (rule : Revision) : Option (Json → Json) := some (overGroups (revise rule))

theorem get?_revise (rule : Revision) (v : Json) (key : String) :
    (v.revise rule).get? key = (rule.under key).bind fun f => (v.get? key).map f := by
  cases v with
  | obj es =>
    change Keyed.get? key (es.filterMap _) = (rule.under key).bind fun f => (Keyed.get? key es).map f
    induction es with
    | nil => cases rule.under key <;> rfl
    | cons e es ih =>
      rw [List.filterMap_cons, Keyed.get?]
      by_cases hkey : e.1 = key
      · subst hkey
        rw [if_pos rfl]
        cases hrule : rule.under e.1 with
        | none => simpa [hrule] using ih
        | some f => simp [Keyed.get?]
      · rw [if_neg hkey, ← ih]
        cases rule.under e.1 with
        | none => rfl
        | some f => simp [Keyed.get?, hkey]
  | null | bool _ | num _ | str _ | arr _ => cases rule.under key <;> rfl

/-- An entry that is not listed is read as before. -/
theorem get?_revise_kept {rule : Revision} {key : String} (h : rule.get? key = none) (v : Json) :
    (v.revise rule).get? key = v.get? key := by
  rw [get?_revise, Revision.under, h]
  exact congrFun Option.map_id _

theorem get?_revise_changed {rule : Revision} {key : String} {f : Json → Json}
    (h : rule.get? key = some (some f)) (v : Json) :
    (v.revise rule).get? key = (v.get? key).map f := by
  rw [get?_revise, Revision.under, h]
  rfl

theorem entriesOf_overGroups (rule : Revision) (groups : Option Json) :
    entriesOf (groups.map (overGroups (revise rule))) = (entriesOf groups).map (revise rule) := by
  rcases groups with _ | v
  · rfl
  · cases v <;> rfl

/-! ### Revisions and loops -/

/-- Binding markers before or after comes to the same. -/
def Binds (f : Json → Json) : Prop :=
  ∀ names element v, f (Template.bindMarkers names element v) =
    Template.bindMarkers names element (f v)

theorem binds_id : Binds id := fun _ _ _ => rfl

theorem binds_overGroups {f : Json → Json} (h : Binds f) : Binds (overGroups f) := by
  intro names element v
  cases v with
  | arr items =>
    refine congrArg Json.arr ?_
    induction items with
    | nil => rfl
    | cons v vs ih => exact congrArg₂ (· :: ·) (h names element v) ih
  | obj es => exact h names element (.obj es)
  | null | bool _ | num _ | str _ => rfl

section

variable {rule : Revision} (h : ∀ f, some f ∈ rule.map (·.2) → Binds f)
include h

theorem binds_under {key : String} {f : Json → Json} (hf : rule.under key = some f) : Binds f := by
  rw [Revision.under] at hf
  cases hlisted : rule.get? key with
  | none =>
    rw [hlisted] at hf
    obtain rfl := Option.some.inj hf
    exact binds_id
  | some listed =>
    rw [hlisted] at hf
    obtain rfl : listed = some f := hf
    exact h f (List.mem_map_of_mem (Keyed.mem_of_get? hlisted))

/-- A revision may be made before or after if each change that it lists may. -/
theorem binds_revise : Binds (revise rule) := by
  intro names element v
  cases v with
  | obj es =>
    refine congrArg Json.obj ?_
    induction es with
    | nil => rfl
    | cons e es ih =>
      change List.filterMap _ ((e.1, Template.bindMarkers names element e.2) :: _) =
        Template.bindEntries names element (List.filterMap _ (e :: es))
      rw [List.filterMap_cons, List.filterMap_cons]
      cases hrule : rule.under e.1 with
      | none => exact ih
      | some f =>
        have hvalue := binds_under h hrule names element e.2
        exact congrArg₂ (· :: ·) (congrArg (Prod.mk e.1) hvalue) ih
  | null | bool _ | num _ | str _ | arr _ => rfl

end

theorem loopBody_revise (rule : Revision) (v : Json) :
    Template.loopBody (v.revise rule) = (Template.loopBody v).revise rule := by
  have herase : ∀ (es : Entries) (key : String),
      Keyed.erase (es.filterMap fun e => (rule.under e.1).map fun f => (e.1, f e.2)) key =
        (Keyed.erase es key).filterMap fun e => (rule.under e.1).map fun f => (e.1, f e.2) := by
    intro es key
    rw [Keyed.erase, Keyed.erase, List.filter_filterMap, List.filterMap_filter]
    refine List.filterMap_congr fun e _ => ?_
    cases rule.under e.1 with
    | none => by_cases hkey : e.1 = key <;> simp [hkey]
    | some f => by_cases hkey : e.1 = key <;> simp [Option.filter, hkey]
  cases v with
  | obj es => exact congrArg Json.obj ((congrArg (Keyed.erase · _) (herase es _)).trans (herase _ _))
  | null | bool _ | num _ | str _ | arr _ => rfl

end Json

open Json

/-- The instances of a loop over a revised template are the revised instances. -/
theorem Template.instancesFrom_revise {rule : Revision} (h : Binds (revise rule))
    (names : List (List Char)) (loop : List Char) (body : Json) (size i : Nat) :
    instancesFrom names loop (body.revise rule) size i =
      (instancesFrom names loop body size i).map (Prod.map id (revise rule)) := by
  induction size generalizing i with
  | zero => rfl
  | succ size ih =>
    rw [instancesFrom, instancesFrom, List.map_cons, ih, Prod.map_apply, h, id_eq]

/-! ## What does not read the definition of its step -/

/-- The context with another definition of the step. -/
def StepContext.defining (ctx : StepContext) (definition : Json) : StepContext :=
  { ctx with definition := definition }

section

variable (ctx : StepContext) (d : Json)

namespace Sources

variable (s : Sources)

theorem resolveName_defining (scope : Scope) (name : String) :
    s.resolveName (ctx.defining d) scope name = s.resolveName ctx scope name := rfl

theorem fetchAll_defining (scope : Scope) (names : List String) :
    s.fetchAll (ctx.defining d) scope names = s.fetchAll ctx scope names := by
  induction names with
  | nil => rfl
  | cons name names ih => rw [fetchAll, fetchAll, resolveName_defining, ih]

theorem resolvePasses_defining (scope : Scope) (passes : Nat) (template : Json) :
    s.resolvePasses (ctx.defining d) scope passes template =
      s.resolvePasses ctx scope passes template := by
  induction passes generalizing template with
  | zero => rfl
  | succ passes ih => simp only [resolvePasses, fetchAll_defining, ih]

theorem resolve_defining (scope : Scope) (template : Json) :
    s.resolve (ctx.defining d) scope template = s.resolve ctx scope template :=
  s.resolvePasses_defining ctx d scope _ template

/-- **The instances of a loop over a revised template are the revised instances.** -/
theorem expandLoop_revise {rule : Revision} (hloop : rule.get? "loop" = none)
    (hbinds : Binds (revise rule)) (template : Json) (marker : String) :
    s.expandLoop (ctx.defining d) (template.revise rule) marker =
      Except.map (List.map (Prod.map id (revise rule))) <$> s.expandLoop ctx template marker := by
  unfold expandLoop
  rw [get?_revise_kept hloop]
  rcases template.get? "loop" with _ | v
  · rfl
  · cases v with
    | str expression =>
      dsimp only
      split
      · rfl
      · rw [resolve_defining, map_bind]
        congr 1
        funext r
        cases r with
        | error e => rfl
        | ok v =>
          dsimp only
          cases Template.loopItems (trimmed expression) v with
          | error e => rfl
          | ok items =>
            dsimp only
            rw [loopBody_revise, Template.instancesFrom_revise hbinds]
            rfl
    | null | bool _ | num _ | arr _ | obj _ => rfl

end Sources

namespace Executor

variable (x : Executor)

theorem resolve_defining (template : Json) :
    x.resolve (ctx.defining d) template = x.resolve ctx template :=
  congrArg Stage.ofAct (x.sources.resolve_defining ctx d .none template)

theorem runDbAction_defining (template : Json) :
    x.runDbAction (ctx.defining d) template = x.runDbAction ctx template := by
  unfold runDbAction
  rw [resolve_defining]
  rfl

theorem runDbActions_defining (templates : List Json) :
    x.runDbActions (ctx.defining d) templates = x.runDbActions ctx templates := by
  induction templates with
  | nil => rfl
  | cons template templates ih => rw [runDbActions, runDbActions, runDbAction_defining, ih]

theorem runTest_defining (test : Option Json) :
    x.runTest (ctx.defining d) test = x.runTest ctx test := by
  have hhttp : ∀ template, x.runHttpAction (ctx.defining d) template =
      x.runHttpAction ctx template := by
    intro template
    unfold runHttpAction
    rw [resolve_defining]
    rfl
  unfold runTest
  simp only [hhttp, runDbActions_defining]

theorem runAsserts_defining (asserts : Option Json) :
    x.runAsserts (ctx.defining d) asserts = x.runAsserts ctx asserts := by
  cases asserts with
  | none => rfl
  | some template => rw [runAsserts, runAsserts, resolve_defining]

theorem expandLoop_revise {rule : Revision} (hloop : rule.get? "loop" = none)
    (hbinds : Binds (revise rule)) (template : Json) (marker : String) :
    x.expandLoop (ctx.defining d) (template.revise rule) marker =
      List.map (Prod.map id (revise rule)) <$> x.expandLoop ctx template marker := by
  unfold expandLoop
  rw [x.sources.expandLoop_revise ctx d hloop hbinds, Stage.ofAct_map]

end Executor

end

/-! ## Groups -/

namespace Executor

/-- What is read of a group of actions is kept by the rule, and the gate does not see what is
revised, whatever the definition of the step is. -/
structure KeepsActions (gate : Gate) (ctx : StepContext) (d : Json) (rule : Revision) : Prop where
  label : rule.get? "id" = none
  wait : rule.get? "beforeWait" = none
  work : rule.get? "execute" = none
  blind : ∀ group, gate (ctx.defining d) (group.revise rule) = gate ctx group

/-- What is read of a group of assertions is kept by the rule, but that its groups of actions are
revised by a rule of their own. -/
structure KeepsAsserts (gate : Gate) (ctx : StepContext) (d : Json) (inner rule : Revision) :
    Prop where
  label : rule.get? "id" = none
  loop : rule.get? "loop" = none
  work : rule.get? "assert" = none
  blind : ∀ group, gate (ctx.defining d) (group.revise rule) = gate ctx group
  actions : KeepsActions gate ctx d inner
  beforeLoop : rule.get? "beforeLoop" = some (groupwise inner)
  beforeAssert : rule.get? "beforeAssert" = some (groupwise inner)
  binds : Binds (revise rule)

variable (x : Executor) {gate : Gate} {ctx : StepContext} {d : Json} {inner rule : Revision}

theorem sortedGroups_revise (hlabel : rule.get? "id" = none) (groups : Option Json) :
    sortedGroups (groups.map (overGroups (revise rule))) =
      (sortedGroups groups).map (revise rule) := by
  rw [sortedGroups, sortedGroups, entriesOf_overGroups]
  refine (List.map_mergeSort fun a _ b _ => ?_).symm
  rw [groupBefore, groupBefore, groupNumber, groupNumber, groupNumber, groupNumber,
    get?_revise_kept hlabel, get?_revise_kept hlabel]

theorem groupLabel_revise (hlabel : rule.get? "id" = none) (group : Json) :
    groupLabel (group.revise rule) = groupLabel group := by
  rw [groupLabel, groupLabel, get?_revise_kept hlabel]

theorem enters_congr {group group' : Json} {ctx' : StepContext}
    (h : gate ctx' group' = gate ctx group) (kind label : String) :
    enters gate kind ctx' label group' = enters gate kind ctx label group := by
  rw [enters, enters, h]

section

variable (h : KeepsActions gate ctx d rule)
include h

theorem runSortedActions_revise (groups : List Json) :
    x.runSortedActions gate (ctx.defining d) (groups.map (revise rule)) =
      x.runSortedActions gate ctx groups := by
  induction groups with
  | nil => rfl
  | cons group groups ih =>
    have hwork : x.runActionGroup (ctx.defining d) (group.revise rule) =
        x.runActionGroup ctx group := by
      unfold runActionGroup
      simp only [get?_revise_kept h.wait, get?_revise_kept h.work, runDbActions_defining]
    rw [List.map_cons, runSortedActions, runSortedActions, ih, hwork, groupLabel_revise h.label,
      enters_congr (h.blind group)]

/-- **Groups of actions run alike when they are revised.** -/
theorem runActions_revise (groups : Option Json) :
    x.runActions gate (ctx.defining d) (groups.map (overGroups (revise rule))) =
      x.runActions gate ctx groups := by
  rw [runActions, runActions, sortedGroups_revise h.label, x.runSortedActions_revise h]

end

section

variable (h : KeepsAsserts gate ctx d inner rule)
include h

theorem runAssertInstances_revise (label : String) (several : Bool)
    (instances : List (Nat × Json)) :
    x.runAssertInstances gate (ctx.defining d) label several
        (instances.map (Prod.map id (revise rule))) =
      x.runAssertInstances gate ctx label several instances := by
  induction instances with
  | nil => rfl
  | cons e instances ih =>
    obtain ⟨index, group⟩ := e
    rw [List.map_cons, Prod.map_apply, runAssertInstances, runAssertInstances, ih, id_eq,
      get?_revise_changed h.beforeAssert, get?_revise_kept h.work, x.runActions_revise h.actions,
      runAsserts_defining]
    simp only [enters_congr (h.blind group)]

theorem runAssertGroup_revise (group : Json) :
    x.runAssertGroup gate (ctx.defining d) (group.revise rule) =
      x.runAssertGroup gate ctx group := by
  unfold runAssertGroup
  dsimp only
  rw [groupLabel_revise h.label, get?_revise_changed h.beforeLoop, x.runActions_revise h.actions,
    x.expandLoop_revise ctx d h.loop h.binds]
  simp only [bind_map_left, List.length_map, x.runAssertInstances_revise h]

/-- **Groups of assertions run alike when they are revised.** -/
theorem runAssertions_revise (groups : Option Json) :
    x.runAssertions gate (ctx.defining d) (groups.map (overGroups (revise rule))) =
      x.runAssertions gate ctx groups := by
  rw [runAssertions, runAssertions, sortedGroups_revise h.label]
  induction sortedGroups groups with
  | nil => rfl
  | cons group groups ih =>
    rw [List.map_cons, runSortedAsserts, runSortedAsserts, ih, x.runAssertGroup_revise h]

theorem dependencyMet_revise (groups : Option Json) :
    x.dependencyMet gate (ctx.defining d) (groups.map (overGroups (revise rule))) =
      x.dependencyMet gate ctx groups := by
  rw [dependencyMet, dependencyMet, x.runAssertions_revise h]

end

end Executor

/-! ## Pruned definitions -/

/-- A group of actions within a gate: without a gate of its own. -/
def ungatedAction : Revision := [("beforeDependency", none), ("dependency", none)]

/-- A group of assertions within a gate: neither it nor its groups of actions have a gate. -/
def ungatedAssertion : Revision := [
  ("beforeDependency", none), ("dependency", none),
  ("beforeLoop", groupwise ungatedAction), ("beforeAssert", groupwise ungatedAction)]

/-- A group of actions of which the groups in its gate have no gates. -/
def prunedAction : Revision :=
  [("beforeDependency", groupwise ungatedAction), ("dependency", groupwise ungatedAssertion)]

/-- A group of assertions of which the groups in its gate have no gates, and neither have those in
the gates of its groups of actions. -/
def prunedAssertion : Revision := [
  ("beforeDependency", groupwise ungatedAction), ("dependency", groupwise ungatedAssertion),
  ("beforeLoop", groupwise prunedAction), ("beforeAssert", groupwise prunedAction)]

/-- The definition of a step of which all groups are pruned. -/
def prunedDefinition : Revision := [
  ("beforeLoop", groupwise prunedAction), ("beforeDependency", groupwise prunedAction),
  ("dependency", groupwise prunedAssertion), ("beforeTest", groupwise prunedAction),
  ("afterTest", groupwise prunedAssertion), ("beforeEnd", groupwise prunedAction)]

theorem binds_ungatedAction : Binds (revise ungatedAction) :=
  binds_revise (by simp [ungatedAction])

theorem binds_ungatedAssertion : Binds (revise ungatedAssertion) :=
  binds_revise (by simp [ungatedAssertion, groupwise, binds_overGroups binds_ungatedAction])

theorem binds_prunedAction : Binds (revise prunedAction) :=
  binds_revise (by simp [prunedAction, groupwise, binds_overGroups binds_ungatedAction,
    binds_overGroups binds_ungatedAssertion])

theorem binds_prunedAssertion : Binds (revise prunedAssertion) :=
  binds_revise (by simp [prunedAssertion, groupwise, binds_overGroups binds_ungatedAction,
    binds_overGroups binds_ungatedAssertion, binds_overGroups binds_prunedAction])

theorem binds_prunedDefinition : Binds (revise prunedDefinition) :=
  binds_revise (by simp [prunedDefinition, groupwise, binds_overGroups binds_prunedAction,
    binds_overGroups binds_prunedAssertion])

namespace Executor

variable (x : Executor) (ctx : StepContext) (d : Json)

/-! ### Within a gate -/

theorem keepsActions_open : KeepsActions openGate ctx d ungatedAction where
  label := rfl
  wait := rfl
  work := rfl
  blind _ := rfl

theorem keepsAsserts_open : KeepsAsserts openGate ctx d ungatedAction ungatedAssertion where
  label := rfl
  loop := rfl
  work := rfl
  blind _ := rfl
  actions := keepsActions_open ctx d
  beforeLoop := rfl
  beforeAssert := rfl
  binds := binds_ungatedAssertion

/-- **A gate does not see the gates of the groups that it runs.** -/
theorem nestedGate_revise {rule : Revision}
    (hbefore : rule.get? "beforeDependency" = some (groupwise ungatedAction))
    (hdependency : rule.get? "dependency" = some (groupwise ungatedAssertion))
    (group : Json) :
    x.nestedGate (ctx.defining d) (group.revise rule) = x.nestedGate ctx group := by
  rw [nestedGate, nestedGate, get?_revise_changed hbefore, get?_revise_changed hdependency,
    x.runActions_revise (keepsActions_open ctx d),
    x.dependencyMet_revise (keepsAsserts_open ctx d)]

/-! ### Before a gate -/

theorem keepsActions_nested : KeepsActions x.nestedGate ctx d prunedAction where
  label := rfl
  wait := rfl
  work := rfl
  blind := x.nestedGate_revise ctx d rfl rfl

theorem keepsAsserts_nested : KeepsAsserts x.nestedGate ctx d prunedAction prunedAssertion where
  label := rfl
  loop := rfl
  work := rfl
  blind := x.nestedGate_revise ctx d rfl rfl
  actions := x.keepsActions_nested ctx d
  beforeLoop := rfl
  beforeAssert := rfl
  binds := binds_prunedAssertion

end Executor

/-! ## Steps -/

/-- The context with the pruned definition of the step. -/
def StepContext.pruned (ctx : StepContext) : StepContext :=
  ctx.defining (ctx.definition.revise prunedDefinition)

namespace Executor

variable (x : Executor) (ctx : StepContext)

/-- A part of a definition that is a list of groups, or one, is pruned group by group. -/
theorem get?_pruned {key : String} {rule : Revision}
    (h : prunedDefinition.get? key = some (groupwise rule)) :
    ctx.pruned.definition.get? key = (ctx.definition.get? key).map (overGroups (revise rule)) :=
  get?_revise_changed h ctx.definition

theorem get?_pruned_kept {key : String} (h : prunedDefinition.get? key = none) :
    ctx.pruned.definition.get? key = ctx.definition.get? key :=
  get?_revise_kept h ctx.definition

theorem runActions_pruned {key : String}
    (h : prunedDefinition.get? key = some (groupwise prunedAction)) :
    x.runActions x.nestedGate ctx.pruned (ctx.pruned.definition.get? key) =
      x.runActions x.nestedGate ctx (ctx.definition.get? key) := by
  rw [get?_pruned ctx h]
  exact x.runActions_revise (x.keepsActions_nested ctx _) _

theorem runAssertions_pruned {key : String}
    (h : prunedDefinition.get? key = some (groupwise prunedAssertion)) :
    x.runAssertions x.nestedGate ctx.pruned (ctx.pruned.definition.get? key) =
      x.runAssertions x.nestedGate ctx (ctx.definition.get? key) := by
  rw [get?_pruned ctx h]
  exact x.runAssertions_revise (x.keepsAsserts_nested ctx _) _

theorem runCleanup_pruned : x.runCleanup ctx.pruned = x.runCleanup ctx := by
  have hclears : clearsUp ctx.pruned.definition = clearsUp ctx.definition := by
    rw [clearsUp, clearsUp, get?_pruned_kept ctx rfl]
  rw [runCleanup, runCleanup, hclears, x.runActions_pruned ctx rfl]

/-- **The stages of an instance run as they do for its pruned definition.** -/
theorem runStages_pruned : x.runStages ctx.pruned = x.runStages ctx := by
  have hmet : x.dependencyMet x.nestedGate ctx.pruned (ctx.pruned.definition.get? "dependency") =
      x.dependencyMet x.nestedGate ctx (ctx.definition.get? "dependency") := by
    rw [dependencyMet, dependencyMet, x.runAssertions_pruned ctx rfl]
  have htest : x.runTest ctx.pruned (ctx.pruned.definition.get? "test") =
      x.runTest ctx (ctx.definition.get? "test") := by
    rw [get?_pruned_kept ctx rfl]
    exact x.runTest_defining ctx _ _
  have hafter : x.runAfterTest ctx.pruned = x.runAfterTest ctx := by
    rw [runAfterTest, runAfterTest, x.runAssertions_pruned ctx rfl, x.runCleanup_pruned]
  unfold runStages
  dsimp only
  rw [x.runActions_pruned ctx rfl, x.runActions_pruned ctx rfl, hmet, htest, hafter]

theorem runInstance_pruned : x.runInstance ctx.pruned = x.runInstance ctx := by
  unfold runInstance
  rw [runStages_pruned]
  rfl

theorem runInstances_pruned (several : Bool) (instances : List (Nat × Json)) :
    x.runInstances ctx.pruned several (instances.map (Prod.map id (revise prunedDefinition))) =
      x.runInstances ctx several instances := by
  induction instances with
  | nil => rfl
  | cons e instances ih =>
    obtain ⟨index, definition⟩ := e
    have hinstance := fun name => x.runInstance_pruned
      { ctx with index := index, stepName := name, definition := definition }
    rw [List.map_cons, Prod.map_apply, runInstances, runInstances, ih, ← hinstance]
    rfl

theorem expandStep_pruned :
    x.expandStep ctx.pruned = List.map (Prod.map id (revise prunedDefinition)) <$> x.expandStep ctx := by
  unfold expandStep
  rw [x.runActions_pruned ctx rfl, map_bind]
  congr 1
  funext _
  exact x.expandLoop_revise ctx _ rfl binds_prunedDefinition _ _

theorem runOutcomes_pruned : x.runOutcomes ctx.pruned = x.runOutcomes ctx := by
  unfold runOutcomes
  rw [expandStep_pruned, Stage.start_map, bind_map_left]
  refine congrArg (Act.bind _) (funext fun p => ?_)
  obtain ⟨e | instances, log⟩ := p
  · rfl
  · change x.runInstances ctx.pruned (1 < (List.map _ instances).length) (List.map _ instances) = _
    rw [runInstances_pruned, List.length_map]

theorem runStep_pruned (spec : StepSpec) {definition : Entries}
    (h : (Json.obj spec.definition).revise prunedDefinition = .obj definition) :
    x.runStep ctx { spec with definition := definition } = x.runStep ctx spec := by
  have houtcomes := x.runOutcomes_pruned (atStep ctx spec)
  have hpruned : (atStep ctx spec).pruned = atStep ctx { spec with definition := definition } :=
    congrArg (atStep ctx spec).defining h
  rw [runStep, runStep, ← houtcomes, hpruned]
  rfl

/-- **What stands in the gates of groups within a gate is never read.**  Definitions that are equal
once pruned are one program: an instance has the same status, log and error, makes the same calls
and stores the same whatever it is answered, and so does a step.  The stages of an instance come to
an end however deep its definition is nested, if every call is answered. -/
theorem runs_eq_of_pruned {d d' : Json}
    (hsame : d.revise prunedDefinition = d'.revise prunedDefinition) :
    x.runStages (ctx.defining d) = x.runStages (ctx.defining d') ∧
      (∀ spec : StepSpec, .obj spec.definition = d → ∀ es, .obj es = d' →
        x.runStep ctx spec = x.runStep ctx { spec with definition := es }) ∧
      ∀ log, let stages := (x.runStages (ctx.defining d)).start log
        Acc (fun q p => q.Left p) stages ∧
          ∀ env past, stages.Runs (stages.meet env past).1 (stages.meet env past).2 := by
  refine ⟨?_, ?_, fun log => ⟨Act.wellFounded_left.apply _, fun env => Act.runs_meet env _⟩⟩
  · have hpruned : (ctx.defining d).pruned = (ctx.defining d').pruned :=
      congrArg ctx.defining hsame
    rw [← x.runStages_pruned (ctx.defining d), hpruned, x.runStages_pruned]
  · rintro spec rfl es rfl
    rw [← x.runStep_pruned ctx spec rfl,
      ← x.runStep_pruned ctx { spec with definition := es } hsame.symm]

/-- A step with a group whose gate runs a group, which has a gate too. -/
def gatedTwice (deep : Json) : Json :=
  .obj [("beforeTest", .obj [
    ("beforeDependency", .obj [("beforeDependency", deep), ("execute", callUnder "shallow")])])]

/-- A call in the inner gate is not made: the step is the one whose inner gate is empty. -/
theorem gatedTwice_unread :
    let d := gatedTwice (.obj [("execute", callUnder "deep")])
    let d' := gatedTwice .empty
    d.revise prunedDefinition = d'.revise prunedDefinition ∧
      bareExecutor.runStages (bareContext.defining d) =
        bareExecutor.runStages (bareContext.defining d') := by
  intro d d'
  have hsame : d.revise prunedDefinition = d'.revise prunedDefinition := rfl
  exact ⟨hsame, (bareExecutor.runs_eq_of_pruned bareContext hsame).1⟩

end Executor

end CaseScript

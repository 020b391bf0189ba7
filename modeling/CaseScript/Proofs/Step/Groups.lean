import CaseScript.Proofs.Step.Stage
import CaseScript.Step.Group

/-!
# Proofs/Step/Groups — what holds of single actions holds of groups

Groups of actions and of assertions are built from few kinds of leaves: a database action, a wait,
the expansion of a loop, and a list of assertions.  `Law.Governs` says that a law holds of the
leaves, and that it bears what a gate does — to leave a group out instead of failing.  Then the law
holds of all groups behind a gate that obeys it (`obeys_runActions`, `obeys_runAssertions`), and the
gates of groups do (`gateObeys_nested`).
-/

namespace CaseScript

open Executor

/-- The line that says that a group is left out since its gate failed. -/
def leftOutLine (kind label : String) (e : StepError) : String :=
  s!"Skip {kind} group {label} as its dependency failed: {e.message}"

/-- The line for a group that its gate leaves out. -/
def skipLine (kind label : String) : Except StepError Bool → String
  | .ok _ => s!"Skip {kind} group {label} as its dependency is not met"
  | .error e => leftOutLine kind label e

/-- The law holds of the leaves that groups are built from, and survives a gate that fails. -/
structure Law.Governs (L : Law) (x : Executor) : Prop where
  action : ∀ ctx template, (x.runDbAction ctx template).Obeys L
  wait : ∀ seconds, (waitBefore seconds).Obeys L
  expand : ∀ ctx template marker, (x.expandLoop ctx template marker).Obeys L
  asserts : ∀ ctx template, (x.runAsserts ctx template).Obeys L
  leftOut : ∀ {log t e log'} kind label, L.Holds log t (some e) log' →
    L.Holds log t none (log' ++ [leftOutLine kind label e])
  unmet : ∀ {log t m log'}, L.Holds log t (some (.assertion m)) log' → L.Holds log t none log'

namespace Executor

open Stage

variable {x : Executor} {L : Law} {gate : Gate}

theorem runActions_none (x : Executor) (gate : Gate) (ctx : StepContext) :
    x.runActions gate ctx none = pure () :=
  congrArg (x.runSortedActions gate ctx) List.mergeSort_nil

theorem runAssertions_none (x : Executor) (gate : Gate) (ctx : StepContext) :
    x.runAssertions gate ctx none = pure () :=
  congrArg (x.runSortedAsserts gate ctx) List.mergeSort_nil

/-- Whether a dependency is met whose assertions went so: an assertion that does not hold is no
failure. -/
def metOf : Except StepError Unit → Except StepError Bool
  | .ok () => .ok true
  | .error (.assertion _) => .ok false
  | .error e => .error e

theorem eq_of_metOf_true {r : Except StepError Unit} (h : metOf r = .ok true) : r = .ok () := by
  rcases r with e | u
  · cases e <;> cases h
  · rfl

theorem eq_of_metOf_false {r : Except StepError Unit} (h : metOf r = .ok false) :
    ∃ m, r = .error (.assertion m) := by
  rcases r with e | u
  · cases e with
    | assertion m => exact ⟨m, rfl⟩
    | _ => cases h
  · cases h

theorem eq_of_metOf_error {r : Except StepError Unit} {e : StepError} (h : metOf r = .error e) :
    r = .error e ∧ ∀ m, e ≠ .assertion m := by
  rcases r with e' | u
  · cases e' <;> cases h <;> exact ⟨rfl, nofun⟩
  · cases h

/-- **A dependency runs its assertions, and only the result is read otherwise.** -/
theorem runs_dependencyMet {ctx : StepContext} {groups : Option Json} {log log' : Log} {t : Trace}
    {r : Except StepError Bool} :
    (x.dependencyMet gate ctx groups).Runs log t r log' ↔
      ∃ r₀, (x.runAssertions gate ctx groups).Runs log t r₀ log' ∧ r = metOf r₀ := by
  have hread : ∀ (r₀ : Except StepError Unit) (log₁ : Log) (t₂ : Trace),
      (match r₀ with
        | .ok () => (pure true : Stage Bool)
        | .error (.assertion _) => pure false
        | .error e => throw e).Runs log₁ t₂ r log' ↔ t₂ = [] ∧ r = metOf r₀ ∧ log' = log₁ := by
    intro r₀ log₁ t₂
    rcases r₀ with e | u
    · cases e <;> simp [metOf]
    · simp [metOf]
  refine runs_outcome_bind.trans ⟨?_, ?_⟩
  · rintro ⟨t₁, t₂, r₀, log₁, rfl, hrun, hrest⟩
    obtain ⟨rfl, rfl, rfl⟩ := (hread r₀ log₁ t₂).mp hrest
    exact ⟨r₀, by rwa [List.append_nil], rfl⟩
  · rintro ⟨r₀, hrun, rfl⟩
    exact ⟨t, [], r₀, log', (List.append_nil t).symm, hrun, (hread r₀ log' []).mpr ⟨rfl, rfl, rfl⟩⟩

/-- **A gate that does not open, or fails, leaves its group out and adds a line.** -/
theorem runs_enters {kind label : String} {group : Json} {log log' : Log} {t : Trace}
    {r : Except StepError Bool} (h : (enters gate kind ctx label group).Runs log t r log') :
    ∃ met log₁, (gate ctx group).Runs log t met log₁ ∧
      (met = .ok true ∧ r = .ok true ∧ log' = log₁ ∨
        met ≠ .ok true ∧ r = .ok false ∧ log' = log₁ ++ [skipLine kind label met]) := by
  obtain ⟨t₁, t₂, met, log₁, rfl, hasked, hrest⟩ := runs_outcome_bind.mp h
  refine ⟨met, log₁, ?_⟩
  match met with
  | .ok true =>
    obtain ⟨rfl, rfl, rfl⟩ := runs_pure.mp hrest
    exact ⟨by rwa [List.append_nil], .inl ⟨rfl, rfl, rfl⟩⟩
  | .ok false =>
    obtain ⟨rfl, rfl, rfl⟩ := runs_pure.mp (runs_log_bind (k := fun _ => pure false).mp hrest)
    exact ⟨by rwa [List.append_nil], .inr ⟨nofun, rfl, rfl⟩⟩
  | .error e =>
    obtain ⟨rfl, rfl, rfl⟩ := runs_pure.mp (runs_log_bind (k := fun _ => pure false).mp hrest)
    exact ⟨by rwa [List.append_nil], .inr ⟨nofun, rfl, rfl⟩⟩

/-- The gate obeys the law. -/
def GateObeys (gate : Gate) (L : Law) : Prop := ∀ ctx group, (gate ctx group).Obeys L

theorem gateObeys_open : GateObeys openGate L := fun _ _ => obeys_pure true

variable (h : L.Governs x)
include h

theorem obeys_enters (hgate : GateObeys gate L) (kind : String) (ctx : StepContext)
    (label : String) (group : Json) : (enters gate kind ctx label group).Obeys L := by
  intro log t r log' hr
  obtain ⟨met, log₁, hrun, hmet⟩ := runs_enters hr
  have hheld := hgate ctx group hrun
  obtain ⟨rfl, rfl, rfl⟩ | ⟨-, rfl, rfl⟩ := hmet
  · exact hheld
  · match met with
    | .ok opened =>
      have hline := L.seq hheld (L.line log₁ (skipLine kind label (.ok opened)))
      rwa [List.append_nil] at hline
    | .error e => exact h.leftOut kind label hheld

/-! ## Actions -/

theorem obeys_runDbActions (ctx : StepContext) (templates : List Json) :
    (x.runDbActions ctx templates).Obeys L := by
  induction templates with
  | nil => exact obeys_pure ()
  | cons template templates ih => exact obeys_bind (h.action ctx template) fun _ => ih

theorem obeys_runActionGroup (ctx : StepContext) (group : Json) :
    (x.runActionGroup ctx group).Obeys L := by
  unfold runActionGroup
  split
  · exact obeys_bind (h.wait _) fun _ => obeys_runDbActions h ctx _
  · exact obeys_bind (obeys_pure ()) fun _ => obeys_runDbActions h ctx _

theorem obeys_runSortedActions (hgate : GateObeys gate L) (ctx : StepContext)
    (groups : List Json) : (x.runSortedActions gate ctx groups).Obeys L := by
  induction groups with
  | nil => exact obeys_pure ()
  | cons group groups ih =>
    unfold runSortedActions
    refine obeys_bind (obeys_enters h hgate "action" ctx _ group) fun entered => ?_
    cases entered with
    | true => exact obeys_bind (obeys_runActionGroup h ctx group) fun _ => ih
    | false => exact obeys_bind (obeys_pure ()) fun _ => ih

theorem obeys_runActions (hgate : GateObeys gate L) (ctx : StepContext) (groups : Option Json) :
    (x.runActions gate ctx groups).Obeys L := obeys_runSortedActions h hgate ctx _

/-! ## Assertions -/

theorem obeys_runAssertInstances (hgate : GateObeys gate L) (ctx : StepContext) (label : String)
    (several : Bool) (instances : List (Nat × Json)) :
    (x.runAssertInstances gate ctx label several instances).Obeys L := by
  induction instances with
  | nil => exact obeys_pure ()
  | cons e rest ih =>
    obtain ⟨index, group⟩ := e
    unfold runAssertInstances
    refine obeys_bind (obeys_enters h hgate "assertion" ctx _ group) fun entered => ?_
    cases entered with
    | true =>
      refine obeys_bind (obeys_runActions h hgate ctx _) fun _ => ?_
      exact obeys_bind (h.asserts ctx _) fun _ => ih
    | false => exact obeys_bind (obeys_pure ()) fun _ => ih

theorem obeys_runAssertGroup (hgate : GateObeys gate L) (ctx : StepContext) (group : Json) :
    (x.runAssertGroup gate ctx group).Obeys L := by
  refine obeys_bind (obeys_runActions h hgate ctx _) fun _ => ?_
  exact obeys_bind (h.expand ctx group _) fun _ => obeys_runAssertInstances h hgate ctx _ _ _

theorem obeys_runSortedAsserts (hgate : GateObeys gate L) (ctx : StepContext)
    (groups : List Json) : (x.runSortedAsserts gate ctx groups).Obeys L := by
  induction groups with
  | nil => exact obeys_pure ()
  | cons group groups ih =>
    exact obeys_bind (obeys_runAssertGroup h hgate ctx group) fun _ => ih

theorem obeys_runAssertions (hgate : GateObeys gate L) (ctx : StepContext) (groups : Option Json) :
    (x.runAssertions gate ctx groups).Obeys L := obeys_runSortedAsserts h hgate ctx _

/-! ## Gates -/

theorem obeys_dependencyMet (hgate : GateObeys gate L) (ctx : StepContext) (groups : Option Json) :
    (x.dependencyMet gate ctx groups).Obeys L := by
  intro log t r log' hr
  obtain ⟨r₀, hrun, rfl⟩ := runs_dependencyMet.mp hr
  have hheld := obeys_runAssertions h hgate ctx groups hrun
  match r₀ with
  | .ok () => exact hheld
  | .error (.assertion m) => exact h.unmet hheld
  | .error (.action _) | .error (.resolution _) | .error (.configuration _)
  | .error (.timeout _) | .error .cancelled => exact hheld

/-- **A law that governs the leaves is obeyed by the gates of groups.** -/
theorem gateObeys_nested : GateObeys x.nestedGate L := fun ctx _ =>
  obeys_bind (obeys_runActions h gateObeys_open ctx _) fun _ =>
    obeys_dependencyMet h gateObeys_open ctx _

end Executor

end CaseScript

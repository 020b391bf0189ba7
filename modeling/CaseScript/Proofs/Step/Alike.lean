import CaseScript.Proofs.Source.Alike
import CaseScript.Proofs.Step.Stage
import CaseScript.Step.Run

/-!
# Proofs/Step/Alike — steps on two documents

An executor whose test data is in one slot runs a step of a case just as it does with the test data
in another (`alike_runStep`).  The parts of a step are stages: alike are stages that are alike
programs whatever log they begin with (`Stage.Alike`), and they may differ in the points of time that
they ask for, but not in what they log or return.
-/

namespace CaseScript

variable {L : Likeness}

namespace Stage

variable {α β : Type}

/-- From any log the stages are alike programs, with equal results and logs. -/
def Alike (L : Likeness) (s s' : Stage α) : Prop :=
  ∀ log, (s.start log).Alike L (· = ·) (s'.start log)

theorem alike_pure (a : α) : (pure a : Stage α).Alike L (pure a) := fun _ => .done rfl

theorem alike_throw (e : StepError) : (throw e : Stage α).Alike L (throw e) := fun _ => .done rfl

theorem alike_log (line : String) : (Stage.log line).Alike L (Stage.log line) :=
  fun _ => .done rfl

theorem alike_ofExcept (r : Except StepError α) : (ofExcept r).Alike L (ofExcept r) := by
  cases r with
  | ok a => exact alike_pure a
  | error e => exact alike_throw e

/-- **Alike stages that go on alike are alike.** -/
theorem alike_bind {s s' : Stage α} {k k' : α → Stage β} (hs : s.Alike L s')
    (hk : ∀ a, (k a).Alike L (k' a)) : (s >>= k).Alike L (s' >>= k') := by
  intro log
  rw [start_bind, start_bind]
  refine Act.alike_bind_eq (hs log) fun p => ?_
  obtain ⟨e | a, log₁⟩ := p
  · exact .done rfl
  · exact hk a log₁

theorem alike_call {p p' : Act α} (h : p.Alike L (· = ·) p') :
    (Stage.call p).Alike L (Stage.call p') := by
  intro log
  rw [start_call, start_call]
  exact Act.alike_bind_eq h fun _ => .done rfl

theorem alike_ofAct {p p' : Act (Except StepError α)} (h : p.Alike L (· = ·) p') :
    (ofAct p).Alike L (ofAct p') := by
  refine alike_bind (alike_call h) fun r => ?_
  cases r with
  | ok a => exact alike_pure a
  | error e => exact alike_throw e

theorem alike_outcome {s s' : Stage α} (h : s.Alike L s') : s.outcome.Alike L s'.outcome := by
  intro log
  rw [start_outcome, start_outcome]
  exact Act.alike_bind_eq (h log) fun _ => .done rfl

/-- A stage that asks for the time may go on by what counts as the same time. -/
theorem alike_now_bind {k k' : Nat → Stage β}
    (hk : ∀ n n', L.SameTime n n' → (k n).Alike L (k' n')) :
    (Stage.call Act.now >>= k).Alike L (Stage.call Act.now >>= k') := by
  intro log
  rw [start_bind, start_bind, start_call]
  exact .now fun n n' h => hk n n' h log

end Stage

open Stage

namespace Executor

/-- The executor with its test data in the first slot. -/
def here (x : Executor) (L : Likeness) : Executor := { x with sources := x.sources.here L }

/-- The executor with its test data in the second slot. -/
def there (x : Executor) (L : Likeness) : Executor := { x with sources := x.sources.there L }

variable (x : Executor) (ctx : StepContext)

/-! ## Queries and waits -/

theorem alike_query {g g' : Guard} (hg : L.SameGuard g g') (q : Query) :
    ((x.here L).query q g).Alike L (· = ·) ((x.there L).query q g') := by
  change (x.query q g).Alike L (· = ·) (x.query q g')
  unfold query
  split
  · exact .query hg fun _ => .done rfl
  · split
    · exact .done rfl
    · exact .query hg fun _ => .done rfl

theorem alike_queryRows (connection : String) (a : DbAction) :
    ((x.here L).queryRows connection a).Alike L ((x.there L).queryRows connection a) := by
  have hguard : L.SameGuard ⟨true, none⟩ ⟨true, none⟩ := .untimed true
  refine alike_bind (alike_call (alike_retryFrom _ _ hguard (x.alike_query hguard _) _ _))
    fun r => ?_
  match r with
  | .done (.ok rows) => exact alike_pure rows
  | .done (.error e) => exact alike_throw _
  | .cancelled | .expired => exact alike_throw _

theorem alike_waitBefore (seconds : Binary64) :
    (waitBefore seconds).Alike L (waitBefore seconds) := by
  unfold waitBefore
  split
  · exact alike_throw _
  · refine alike_bind (alike_call (.pause (.untimed true) fun _ => .done rfl)) fun r => ?_
    cases r with
    | done => exact alike_pure ()
    | _ => exact alike_throw _

theorem alike_logRequest (a : HttpAction) (r : Request) :
    (logRequest ctx a r).Alike L (logRequest ctx a r) := by
  refine alike_bind (alike_log _) fun _ => alike_bind (alike_log _) fun _ => ?_
  refine alike_bind (alike_log _) fun _ => alike_bind (alike_log _) fun _ => ?_
  exact alike_bind (alike_log _) fun _ => alike_log _

/-- A request is sent within deadlines that count as the same. -/
theorem alike_sendRequest (a : HttpAction) (r : Request) :
    ((x.here L).sendRequest a r).Alike L ((x.there L).sendRequest a r) := by
  refine alike_now_bind fun n n' htime => ?_
  have hguard := Likeness.SameGuard.timed true (htime.add x.settings.requestTimeout)
  have hsend : (Act.send r ⟨true, some (n + x.settings.requestTimeout)⟩).Alike L (· = ·)
      (Act.send r ⟨true, some (n' + x.settings.requestTimeout)⟩) := .send hguard fun _ => .done rfl
  refine alike_bind (alike_call (alike_retryFrom _ _ hguard hsend _ _)) fun out => ?_
  match out with
  | .done (.ok response) => exact alike_pure response
  | .done (.error .cancelled) | .cancelled | .expired => exact alike_throw _
  | .done (.error (.timeout _)) | .done (.error (.unresolvedHost _)) | .done (.error (.io _))
  | .done (.error (.other _)) => exact alike_pure _

/-! ## Actions and assertions -/

theorem alike_checkAll : ∀ items : List AssertionItem, (checkAll items).Alike L (checkAll items)
  | [] => alike_pure ()
  | a :: rest =>
    alike_bind (alike_ofExcept a.check) fun line => alike_bind (alike_log line) fun _ =>
      alike_checkAll rest

section

variable (hkey : ctx.key = L.key)
include hkey

theorem alike_store (key : String) (value : Json) (fault : String) :
    ((x.here L).store ctx key value fault).Alike L ((x.there L).store ctx key value fault) := by
  have hmerge : ((x.here L).sources.store.merge ctx.key key value).Alike L (· = ·)
      ((x.there L).sources.store.merge ctx.key key value) := by
    rw [hkey]
    exact StoreHandle.alike_merge key value
  refine alike_bind (alike_call hmerge) fun r => ?_
  cases r with
  | ok u => exact alike_pure u
  | error e => exact alike_throw _

theorem alike_resolve (template : Json) :
    ((x.here L).resolve ctx template).Alike L ((x.there L).resolve ctx template) :=
  alike_ofAct (x.sources.alike_resolve ctx hkey .none template)

theorem alike_expandLoop (template : Json) (marker : String) :
    ((x.here L).expandLoop ctx template marker).Alike L
      ((x.there L).expandLoop ctx template marker) :=
  alike_ofAct (x.sources.alike_expandLoop ctx hkey template marker)

theorem alike_runDbAction (template : Json) :
    ((x.here L).runDbAction ctx template).Alike L ((x.there L).runDbAction ctx template) := by
  refine alike_bind (x.alike_resolve ctx hkey template) fun v => ?_
  refine alike_bind (alike_ofExcept (readDbAction v)) fun a => ?_
  refine alike_bind (alike_log _) fun _ => alike_bind (x.alike_queryRows _ a) fun rows => ?_
  refine alike_bind (alike_ofExcept _) fun value => alike_bind (alike_log _) fun _ => ?_
  split
  · exact alike_pure value
  · exact alike_pure value
  · refine alike_bind (x.alike_store ctx hkey _ value _) fun _ => ?_
    exact alike_bind (alike_log _) fun _ => alike_pure value

theorem alike_runDbActions (templates : List Json) :
    ((x.here L).runDbActions ctx templates).Alike L ((x.there L).runDbActions ctx templates) := by
  induction templates with
  | nil => exact alike_pure ()
  | cons template templates ih =>
    exact alike_bind (x.alike_runDbAction ctx hkey template) fun _ => ih

theorem alike_runHttpAction (template : Json) :
    ((x.here L).runHttpAction ctx template).Alike L ((x.there L).runHttpAction ctx template) := by
  refine alike_bind (x.alike_resolve ctx hkey template) fun v => ?_
  refine alike_bind (alike_ofExcept (readHttpAction v)) fun a => ?_
  refine alike_bind (alike_ofExcept (x.baseUrlOf ctx a)) fun url => ?_
  refine alike_bind (alike_logRequest ctx a _) fun _ => ?_
  refine alike_bind (x.alike_sendRequest a _) fun response => ?_
  refine alike_bind (alike_log _) fun _ => alike_bind (alike_log _) fun _ => ?_
  exact alike_bind (x.alike_store ctx hkey _ _ _) fun _ => alike_pure response

theorem alike_runTest (test : Option Json) :
    ((x.here L).runTest ctx test).Alike L ((x.there L).runTest ctx test) := by
  refine alike_bind (alike_ofExcept (ActionKind.classify test)) fun kind => ?_
  cases kind with
  | none => exact alike_pure ()
  | http template =>
    exact alike_bind (x.alike_runHttpAction ctx hkey template) fun _ => alike_pure ()
  | database templates => exact x.alike_runDbActions ctx hkey templates

theorem alike_runAsserts (asserts : Option Json) :
    ((x.here L).runAsserts ctx asserts).Alike L ((x.there L).runAsserts ctx asserts) := by
  cases asserts with
  | none => exact alike_pure ()
  | some template =>
    refine alike_bind (x.alike_resolve ctx hkey template) fun resolved => ?_
    exact alike_bind (alike_ofExcept _) fun items => alike_checkAll items

end

/-! ## Groups -/

/-- The gates are alike wherever they are asked for the case. -/
def GateAlike (L : Likeness) (gate gate' : Gate) : Prop :=
  ∀ ctx group, ctx.key = L.key → (gate ctx group).Alike L (gate' ctx group)

theorem gateAlike_open : GateAlike L openGate openGate := fun _ _ _ => alike_pure true

section

variable {gate gate' : Gate} (hgate : GateAlike L gate gate') (hkey : ctx.key = L.key)
include hgate hkey

theorem alike_enters (kind label : String) (group : Json) :
    (enters gate kind ctx label group).Alike L (enters gate' kind ctx label group) := by
  refine alike_bind (alike_outcome (hgate ctx group hkey)) fun r => ?_
  match r with
  | .ok true => exact alike_pure true
  | .ok false => exact alike_bind (alike_log _) fun _ => alike_pure false
  | .error e => exact alike_bind (alike_log _) fun _ => alike_pure false

omit hgate in
theorem alike_runActionGroup (group : Json) :
    ((x.here L).runActionGroup ctx group).Alike L ((x.there L).runActionGroup ctx group) := by
  unfold runActionGroup
  split
  · exact alike_bind (alike_waitBefore _) fun _ => x.alike_runDbActions ctx hkey _
  · exact alike_bind (alike_pure ()) fun _ => x.alike_runDbActions ctx hkey _

theorem alike_runSortedActions (groups : List Json) :
    ((x.here L).runSortedActions gate ctx groups).Alike L
      ((x.there L).runSortedActions gate' ctx groups) := by
  induction groups with
  | nil => exact alike_pure ()
  | cons group groups ih =>
    refine alike_bind (alike_enters ctx hgate hkey "action" _ group) fun entered => ?_
    cases entered with
    | true => exact alike_bind (x.alike_runActionGroup ctx hkey group) fun _ => ih
    | false => exact alike_bind (alike_pure ()) fun _ => ih

theorem alike_runActions (groups : Option Json) :
    ((x.here L).runActions gate ctx groups).Alike L ((x.there L).runActions gate' ctx groups) :=
  x.alike_runSortedActions ctx hgate hkey _

theorem alike_runAssertInstances (label : String) (several : Bool) :
    ∀ instances : List (Nat × Json),
      ((x.here L).runAssertInstances gate ctx label several instances).Alike L
        ((x.there L).runAssertInstances gate' ctx label several instances)
  | [] => alike_pure ()
  | (index, group) :: rest => by
    refine alike_bind (alike_enters ctx hgate hkey "assertion" _ group) fun entered => ?_
    cases entered with
    | true =>
      refine alike_bind (x.alike_runActions ctx hgate hkey _) fun _ => ?_
      exact alike_bind (x.alike_runAsserts ctx hkey _) fun _ =>
        alike_runAssertInstances label several rest
    | false => exact alike_bind (alike_pure ()) fun _ => alike_runAssertInstances label several rest

theorem alike_runAssertGroup (group : Json) :
    ((x.here L).runAssertGroup gate ctx group).Alike L
      ((x.there L).runAssertGroup gate' ctx group) := by
  refine alike_bind (x.alike_runActions ctx hgate hkey _) fun _ => ?_
  exact alike_bind (x.alike_expandLoop ctx hkey group _) fun _ =>
    x.alike_runAssertInstances ctx hgate hkey _ _ _

theorem alike_runSortedAsserts (groups : List Json) :
    ((x.here L).runSortedAsserts gate ctx groups).Alike L
      ((x.there L).runSortedAsserts gate' ctx groups) := by
  induction groups with
  | nil => exact alike_pure ()
  | cons group groups ih =>
    exact alike_bind (x.alike_runAssertGroup ctx hgate hkey group) fun _ => ih

theorem alike_runAssertions (groups : Option Json) :
    ((x.here L).runAssertions gate ctx groups).Alike L
      ((x.there L).runAssertions gate' ctx groups) :=
  x.alike_runSortedAsserts ctx hgate hkey _

theorem alike_dependencyMet (groups : Option Json) :
    ((x.here L).dependencyMet gate ctx groups).Alike L
      ((x.there L).dependencyMet gate' ctx groups) := by
  refine alike_bind (alike_outcome (x.alike_runAssertions ctx hgate hkey groups)) fun r => ?_
  match r with
  | .ok () => exact alike_pure true
  | .error (.assertion _) => exact alike_pure false
  | .error (.action _) | .error (.resolution _) | .error (.configuration _)
  | .error (.timeout _) | .error .cancelled => exact alike_throw _

end

theorem gateAlike_nested : GateAlike L (x.here L).nestedGate (x.there L).nestedGate :=
  fun ctx _ hkey => alike_bind (x.alike_runActions ctx gateAlike_open hkey _) fun _ =>
    x.alike_dependencyMet ctx gateAlike_open hkey _

/-! ## Steps -/

section

variable (hkey : ctx.key = L.key)
include hkey

theorem alike_runCleanup : ((x.here L).runCleanup ctx).Alike L ((x.there L).runCleanup ctx) := by
  unfold runCleanup
  split
  · exact x.alike_runActions ctx x.gateAlike_nested hkey _
  · exact alike_pure ()

theorem alike_runAfterTest :
    ((x.here L).runAfterTest ctx).Alike L ((x.there L).runAfterTest ctx) := by
  refine alike_bind (alike_log _) fun _ => ?_
  refine alike_bind (alike_outcome (x.alike_runAssertions ctx x.gateAlike_nested hkey _))
    fun asserted => ?_
  refine alike_bind (alike_outcome (x.alike_runCleanup ctx hkey)) fun cleared => ?_
  exact alike_bind (alike_ofExcept asserted) fun _ => alike_ofExcept cleared

theorem alike_runStages : ((x.here L).runStages ctx).Alike L ((x.there L).runStages ctx) := by
  have hactions := x.alike_runActions ctx x.gateAlike_nested hkey
  refine alike_bind (hactions _) fun _ => ?_
  refine alike_bind (x.alike_dependencyMet ctx x.gateAlike_nested hkey _) fun met => ?_
  cases met with
  | true =>
    refine alike_bind (hactions _) fun _ => alike_bind (x.alike_runTest ctx hkey _) fun _ => ?_
    exact alike_bind (x.alike_runAfterTest ctx hkey) fun _ => alike_pure StepStatus.passed
  | false => exact alike_bind (alike_log _) fun _ => alike_pure StepStatus.skipped

/-- An instance takes as long in both places, whatever the time is. -/
theorem alike_runInstance :
    ((x.here L).runInstance ctx).Alike L (· = ·) ((x.there L).runInstance ctx) := by
  refine Act.alike_now_bind fun started started' hstarted => ?_
  refine Act.alike_bind_eq (x.alike_runStages ctx hkey _) fun p => ?_
  refine Act.alike_now_bind fun ended ended' hended => Act.alike_pure ?_
  rw [hstarted.sub_eq hended]

theorem alike_expandStep : ((x.here L).expandStep ctx).Alike L ((x.there L).expandStep ctx) :=
  alike_bind (x.alike_runActions ctx x.gateAlike_nested hkey _) fun _ =>
    x.alike_expandLoop ctx hkey _ _

theorem alike_runInstances (several : Bool) : ∀ instances : List (Nat × Json),
    ((x.here L).runInstances ctx several instances).Alike L (· = ·)
      ((x.there L).runInstances ctx several instances)
  | [] => .done rfl
  | (_, _) :: rest =>
    Act.alike_bind_eq (x.alike_runInstance _ hkey) fun _ =>
      Act.alike_bind_eq (alike_runInstances several rest) fun _ => .done rfl

theorem alike_runOutcomes :
    ((x.here L).runOutcomes ctx).Alike L (· = ·) ((x.there L).runOutcomes ctx) := by
  refine Act.alike_bind_eq (x.alike_expandStep ctx hkey _) fun p => ?_
  obtain ⟨e | instances, log⟩ := p
  · exact .done rfl
  · exact x.alike_runInstances ctx hkey _ instances

/-- **A step runs alike on both documents of the case.** -/
theorem alike_runStep (spec : StepSpec) :
    ((x.here L).runStep ctx spec).Alike L (· = ·) ((x.there L).runStep ctx spec) := by
  refine Act.alike_bind_eq (x.alike_runOutcomes (atStep ctx spec) hkey) fun outcomes => ?_
  have hstatus := StoreHandle.alike_recordStatus (L := L) spec.id
    (StepStatus.aggregate (outcomes.map (·.status))).label
  rw [← hkey] at hstatus
  exact Act.alike_bind_eq hstatus fun _ => .done rfl

end

end Executor

end CaseScript

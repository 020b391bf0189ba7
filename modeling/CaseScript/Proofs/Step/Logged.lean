import CaseScript.Proofs.Step.Order

/-!
# Proofs/Step/Logged — which statements the log of a step tells of

An action puts a line into the log before it runs its statement.  No log of an instance is ever cut
short, so each statement that an instance runs is told of in its output (`runInstance_logged`).
What runs before the loop of a step is logged apart, in a log that is kept only if the step cannot
be expanded; if it can, those statements are told of nowhere (`runStep_logged`,
`queryBeforeLoop_untold`).
-/

namespace CaseScript

/-- The line that tells of a statement. -/
def sqlLine (q : Query) : String := s!"Execute SQL on '{q.connection}': {q.sql}"

/-- The statement that a call runs for an action.  The queries of stores and catalogs are not among
them: nothing ends these early. -/
def Call.statement? : Call → Option Query
  | .query q g => if g.cancellable then some q else none
  | _ => none

/-- The statements that actions ran, in order. -/
def statements (t : Trace) : List Query := t.filterMap fun e => e.1.statement?

@[simp] theorem statements_append (t t' : Trace) :
    statements (t ++ t') = statements t ++ statements t' :=
  List.filterMap_append

theorem statements_eq_nil {t : Trace} (h : ∀ e ∈ t, e.1.statement? = none) : statements t = [] :=
  List.filterMap_eq_nil_iff.mpr h

theorem statement?_of_quiet {c : Call} (h : c.isQuiet) : c.statement? = none := by
  cases c with
  | query => simpa [Call.isQuiet, Call.statement?] using h
  | read | write => rfl
  | send | pause | attempt | isCancelled | now => cases h

theorem statements_of_quiet {t : Trace} (h : ∀ e ∈ t, e.1.isQuiet) : statements t = [] :=
  statements_eq_nil fun e he => statement?_of_quiet (h e he)

/-- The law that the log loses no line, and tells of every statement unless it is known before. -/
def Law.logged (known : Query → Prop) : Law where
  Holds log t _ log' :=
    (∀ line ∈ log, line ∈ log') ∧ ∀ q ∈ statements t, known q ∨ sqlLine q ∈ log'
  rest log := ⟨fun _ h => h, nofun⟩
  line log line := ⟨fun _ h => List.mem_append_left _ h, nofun⟩
  seq {log t log₁ t' e log'} h h' := by
    refine ⟨fun line hline => h'.1 line (h.1 line hline), fun q hq => ?_⟩
    obtain hq | hq := List.mem_append.mp (statements_append t t' ▸ hq)
    · exact (h.2 q hq).imp_right (h'.1 _)
    · exact h'.2 q hq

variable {known : Query → Prop}

theorem Law.blind_logged : (Law.logged known).Blind := id

theorem logged_silent {log : Log} {t : Trace} {e : Option StepError} (h : statements t = []) :
    (Law.logged known).Holds log t e log :=
  ⟨fun _ hline => hline, fun _ hq => absurd (h ▸ hq) List.not_mem_nil⟩

theorem bearsQuiet_logged : (Law.logged known).BearsQuiet := fun _ _ _ hcalls _ =>
  logged_silent (statements_of_quiet fun e he => (hcalls e he).1)

namespace Executor

open Stage

variable {x : Executor} {ctx : StepContext}

/-! ## Actions -/

/-- A program that runs no statement. -/
theorem logged_call {α : Type} {Q : α → Prop} {p : Act α}
    (hp : p.Within (·.statement? = none) Q) : (Stage.call p).Obeys (.logged known) :=
  obeys_call fun _ _ _ h => logged_silent (statements_eq_nil (h.within hp).1)

/-- Whatever the attempts are, they run the one statement. -/
theorem queryRows_logged (connection : String) (a : DbAction) :
    (x.queryRows connection a).Obeys (.logged (· = ⟨connection, a.sql, a.params⟩)) := by
  have hquery : ∀ (q : Query) g, ∀ q' ∈ (Call.query q g).statement?, q' = q := by
    intro q g q' hq'
    rw [Call.statement?] at hq'
    split at hq'
    · exact (Option.some.inj hq').symm
    · cases hq'
  refine obeys_queryRows Law.blind_logged.bearsFailure <|
    obeys_call fun log t o h => ⟨fun _ hline => hline, fun q hq => .inl ?_⟩
  have hcalls := (h.within (within_retryFrom
    (P := fun c => ∀ q ∈ c.statement?, q = ⟨connection, a.sql, a.params⟩) (fun _ _ => nofun)
    (fun _ => nofun) (fun _ => nofun) (within_query x _ _ (hquery _ _)) _ _)).1
  obtain ⟨e, he, hstatement⟩ := List.mem_filterMap.mp hq
  exact hcalls e he q hstatement

/-- What runs a statement that is told of first tells of its statements. -/
theorem logged_line {α : Type} {q : Query} {k : Stage α} (hk : k.Obeys (.logged (· = q))) :
    (Stage.log (sqlLine q) >>= fun _ => k).Obeys (.logged fun _ => False) := by
  intro log t r log' h
  obtain ⟨hkept, htold⟩ := hk (runs_log_bind.mp h)
  refine ⟨fun line hline => hkept line (List.mem_append_left _ hline), fun q' hq' => .inr ?_⟩
  obtain rfl | htold := htold q' hq'
  · exact hkept _ (List.mem_append_right _ (List.mem_singleton_self _))
  · exact htold

theorem runDbAction_logged (ctx : StepContext) (template : Json) :
    (x.runDbAction ctx template).Obeys (.logged fun _ => False) := by
  refine obeys_bind (obeys_resolve bearsQuiet_logged ctx template) fun v => ?_
  refine obeys_bind (obeys_ofPlain bearsQuiet_logged (plain_readDbAction v)) fun a => ?_
  refine logged_line (q := ⟨a.connectionName ctx.profile, a.sql, a.params⟩) ?_
  exact obeys_bind (queryRows_logged _ a) fun rows => obeys_keepRows bearsQuiet_logged ctx a rows

theorem waitBefore_logged (seconds : Binary64) : (waitBefore seconds).Obeys (.logged known) :=
  obeys_waitBefore Law.blind_logged.bearsFailure
    (fun _ => logged_call (Q := fun _ => True) ⟨rfl, fun _ => trivial⟩) seconds

theorem sendRequest_logged (a : HttpAction) (r : Request) :
    (x.sendRequest a r).Obeys (.logged known) := by
  have hsend : ∀ g, (Act.send r g).Within (·.statement? = none) fun _ => True :=
    fun g => ⟨rfl, fun _ => trivial⟩
  refine obeys_sendRequest Law.blind_logged ?_ fun deadline => ?_
  · exact logged_call (Q := fun _ => True) ⟨rfl, fun _ => trivial⟩
  · exact logged_call (within_retryFrom (P := fun c => c.statement? = none)
      (fun _ => rfl) rfl rfl (hsend _) _ _)

theorem governs_logged (x : Executor) : (Law.logged fun _ => False).Governs x where
  action := runDbAction_logged
  wait := waitBefore_logged
  expand := obeys_expandLoop bearsQuiet_logged
  asserts := obeys_runAsserts bearsQuiet_logged
  leftOut {log t e log'} kind label h := by
    have hheld : (Law.logged fun _ => False).Holds log t none log' := h
    have hline := Law.seq _ hheld (Law.line _ log' (leftOutLine kind label e))
    rwa [List.append_nil] at hline
  unmet h := h

/-! ## Instances -/

/-- The output of an instance is its log, with the message of its failure at the end. -/
theorem mem_output {line : String} (ctx : StepContext) (durationMs : Nat) {log : Log}
    (r : Except StepError StepStatus) (h : line ∈ log) :
    line ∈ (StepOutcome.ofResult ctx durationMs log r).output := by
  cases r with
  | ok status => exact h
  | error e => exact List.mem_append_left _ h

/-- **The output of an instance tells of all its statements.** -/
theorem runInstance_logged {t : Trace} {o : StepOutcome} (h : (x.runInstance ctx).Runs t o) :
    ∀ q ∈ statements t, sqlLine q ∈ o.output := by
  obtain ⟨started, ended, t', r, log, rfl, hstages, rfl⟩ := runs_runInstance h
  have hclock : ∀ time : Nat, statements [⟨.now, time⟩] = [] := fun _ => rfl
  rw [statements_append, statements_append, hclock, hclock, List.nil_append, List.append_nil]
  intro q hq
  have htold := (obeys_runStages Law.blind_logged (governs_logged x) bearsQuiet_logged
    sendRequest_logged ctx hstages).2 q hq
  exact mem_output ctx _ r (htold.resolve_left id)

theorem runInstances_logged {several : Bool} {instances : List (Nat × Json)} {t : Trace}
    {os : List StepOutcome} (h : (x.runInstances ctx several instances).Runs t os) :
    ∀ q ∈ statements t, ∃ o ∈ os, sqlLine q ∈ o.output := by
  induction instances generalizing t os with
  | nil =>
    obtain ⟨rfl, rfl⟩ := Act.runs_pure.mp h
    exact nofun
  | cons e rest ih =>
    obtain ⟨t₁, t₂, o, rfl, hinstance, hothers⟩ := Act.runs_bind.mp h
    obtain ⟨t₂, t₃, os, rfl, hrest, hdone⟩ := Act.runs_bind.mp hothers
    obtain ⟨rfl, rfl⟩ := Act.runs_pure.mp hdone
    intro q hq
    rw [List.append_nil, statements_append] at hq
    obtain hq | hq := List.mem_append.mp hq
    · exact ⟨o, List.mem_cons_self, runInstance_logged hinstance q hq⟩
    · obtain ⟨o', ho', htold⟩ := ih hrest q hq
      exact ⟨o', List.mem_cons_of_mem _ ho', htold⟩

/-! ## Steps -/

theorem expandStep_logged (x : Executor) (ctx : StepContext) :
    (x.expandStep ctx).Obeys (.logged fun _ => False) :=
  obeys_expandStep (governs_logged x) ctx

end Executor

/-- Some instance of the report tells of the statement. -/
def StepReport.TellsOf (report : StepReport) (q : Query) : Prop :=
  ∃ o ∈ report.instances, sqlLine q ∈ o.output

namespace Executor

/-- **A step tells of all that its instances run, and of what runs before its loop if the loop
fails.**  In all surroundings its calls begin with those of the expansion, whose own log tells of
every statement among them; every later statement is told of in the output of an instance, and so
are those of the expansion unless it succeeds. -/
theorem runStep_logged (x : Executor) (caseCtx : StepContext) (spec : StepSpec)
    (env : Surroundings) (past : Trace) :
    let ctx := atStep caseCtx spec
    let run := (x.runStep caseCtx spec).meet env past
    ∃ before after r log, run.1 = before ++ after ∧
      ((x.expandStep ctx).start [headerLine ctx]).Runs before (r, log) ∧
      (∀ q ∈ statements before, sqlLine q ∈ log) ∧
      (∀ q ∈ statements after, run.2.TellsOf q) ∧
      ((∃ instances, r = .ok instances) ∨ ∀ q ∈ statements before, run.2.TellsOf q) := by
  intro ctx run
  have hrun : (x.runStep caseCtx spec).Runs run.1 run.2 := Act.runs_meet env _ past
  generalize run.1 = t at hrun
  generalize run.2 = report at hrun
  obtain ⟨t₁, t₂, os, rfl, houtcomes, hnoted⟩ := Act.runs_bind.mp hrun
  obtain ⟨t₂, t₃, u, rfl, hstatus, hdone⟩ := Act.runs_bind.mp hnoted
  obtain ⟨rfl, rfl⟩ := Act.runs_pure.mp hdone
  have hquiet : statements t₂ = [] :=
    statements_of_quiet (hstatus.within (x.sources.store.within_recordStatus _ _ _)).1
  obtain ⟨before, after, ⟨r, log⟩, rfl, hexpanded, hinstances⟩ := Act.runs_bind.mp houtcomes
  have htold : ∀ q ∈ statements before, sqlLine q ∈ log := fun q hq =>
    ((expandStep_logged x ctx hexpanded).2 q hq).resolve_left id
  refine ⟨before, after ++ t₂, r, log, by simp, hexpanded, htold, ?_, ?_⟩
  · rw [statements_append, hquiet, List.append_nil]
    cases r with
    | ok instances => exact runInstances_logged hinstances
    | error e =>
      obtain ⟨rfl, rfl⟩ := Act.runs_pure.mp hinstances
      exact nofun
  · cases r with
    | ok instances => exact .inl ⟨instances, rfl⟩
    | error e =>
      obtain ⟨rfl, rfl⟩ := Act.runs_pure.mp hinstances
      exact .inr fun q hq => ⟨_, List.mem_singleton_self _, mem_output ctx 0 _ (htold q hq)⟩

/-- Surroundings in which test data is empty, and every query gives no row. -/
def emptySurroundings : Surroundings := fun _ c =>
  match c with
  | .query .. => .done (.ok [])
  | .send .. | .pause .. => .cancelled
  | .attempt _ | .write .. => ()
  | .isCancelled => false
  | .now => (0 : Nat)
  | .read .. => []

/-- A step that only asks the database, before its loop. -/
def queryBeforeLoop : StepSpec :=
  ⟨1, "s", [("beforeLoop", .obj [("execute", .obj [("sql", .str "select 1")])])]⟩

/-- The statement of `queryBeforeLoop` is run, and no instance tells of it. -/
theorem queryBeforeLoop_untold :
    let x : Executor := ⟨⟨.memory 0, .tables "" []⟩, ⟨0, []⟩, none⟩
    let ctx : StepContext := ⟨⟨"", ""⟩, "", "", [], [], 0, "", 1, .null⟩
    let run := (x.runStep ctx queryBeforeLoop).meet emptySurroundings []
    (statements run.1).map (·.sql) = ["select 1"] ∧
      ∀ q ∈ statements run.1, ∀ o ∈ run.2.instances, sqlLine q ∉ o.output := by
  decide +kernel

end Executor

end CaseScript

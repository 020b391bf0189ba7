import CaseScript.Proofs.Step.Marks

/-!
# Proofs/Step/Checks — the first assertion that fails decides

Groups of assertions are visited by number, the instances of a group one after another, and the
assertions of an instance as they are listed.  The first that does not hold is the last thing that
happens; what is logged before it, besides what gates write, are the lines of actions and a line for
each assertion that holds (`runAssertions_firstFailure`).
-/

namespace CaseScript

open AssertionItem Executor Stage

namespace Executor

variable {x : Executor} {ctx : StepContext}

/-! ## Groups of actions -/

/-- The attempts of a statement log nothing. -/
theorem queryRows_logsOnly (connection : String) (a : DbAction) :
    (x.queryRows connection a).LogsOnly P := by
  refine logsOnly_bind (logsOnly_call _) fun o => ?_
  match o with
  | .done (.ok rows) => exact logsOnly_pure rows
  | .done (.error _) | .cancelled | .expired => exact logsOnly_throw _

theorem store_logsOnly (key : String) (v : Json) (fault : String) :
    (x.store ctx key v fault).LogsOnly P := by
  refine logsOnly_bind (logsOnly_call _) fun r => ?_
  match r with
  | .ok () => exact logsOnly_pure ()
  | .error _ => exact logsOnly_throw _

theorem waitBefore_logsOnly (seconds : Binary64) : (waitBefore seconds).LogsOnly P := by
  unfold waitBefore
  split
  · exact logsOnly_throw _
  · refine logsOnly_bind (logsOnly_call _) fun o => ?_
    match o with
    | .done () => exact logsOnly_pure ()
    | .cancelled | .expired => exact logsOnly_throw _

/-- The lines of an action. -/
inductive ActionLine : String → Prop
  | sql (connection sql : String) :
      ActionLine ("Execute SQL on '" ++ (connection ++ ("': " ++ sql)))
  | result (text : String) : ActionLine ("* Result: " ++ text)
  | stored (key : String) : ActionLine ("* Stored result as '" ++ (key ++ "'"))

theorem runDbAction_logsOnly (template : Json) :
    (x.runDbAction ctx template).LogsOnly ActionLine := by
  refine logsOnly_bind (logsOnly_ofAct _) fun v => logsOnly_bind (logsOnly_ofExcept _) fun a => ?_
  refine logsOnly_bind (logsOnly_log ?_) fun _ => ?_
  · have h := ActionLine.sql (a.connectionName ctx.profile) a.sql
    rwa [← String.append_assoc, ← String.append_assoc] at h
  refine logsOnly_bind (queryRows_logsOnly _ a) fun rows => ?_
  refine logsOnly_bind (logsOnly_ofExcept _) fun value => ?_
  refine logsOnly_bind (logsOnly_log (.result value.text)) fun _ => ?_
  split
  · exact logsOnly_pure value
  · exact logsOnly_pure value
  · refine logsOnly_bind (store_logsOnly _ value _) fun _ => ?_
    refine logsOnly_bind (logsOnly_log ?_) fun _ => logsOnly_pure value
    have h := ActionLine.stored ‹String›
    rwa [← String.append_assoc] at h

theorem runDbActions_logsOnly (templates : List Json) :
    (x.runDbActions ctx templates).LogsOnly ActionLine := by
  induction templates with
  | nil => exact logsOnly_pure ()
  | cons template templates ih => exact logsOnly_bind (runDbAction_logsOnly template) fun _ => ih

theorem runActionGroup_logsOnly (group : Json) :
    (x.runActionGroup ctx group).LogsOnly ActionLine := by
  unfold runActionGroup
  split
  · exact logsOnly_bind (waitBefore_logsOnly _) fun _ => runDbActions_logsOnly _
  · exact logsOnly_bind (logsOnly_pure ()) fun _ => runDbActions_logsOnly _

/-- The line of an action is not that of an assertion. -/
theorem ActionLine.not_isSuccessLine {line : String} (h : ActionLine line) :
    ¬isSuccessLine line := by
  cases h with
  | sql => exact not_isSuccessLine_append (by decide) (by decide)
  | result => exact not_isSuccessLine_append (by decide) (by decide)
  | stored => exact not_isSuccessLine_append (by decide) (by decide)

theorem not_isSuccessLine_skipLine (kind label : String) (met : Except StepError Bool) :
    ¬isSuccessLine (skipLine kind label met) := by
  have hskip : ∀ rest, ¬isSuccessLine ("Skip " ++ rest) := fun rest =>
    not_isSuccessLine_append (by decide) (by decide)
  cases met with
  | ok met =>
    have hline := hskip (kind ++ (" group " ++ (label ++ " as its dependency is not met")))
    rwa [← String.append_assoc, ← String.append_assoc, ← String.append_assoc] at hline
  | error e =>
    have hline := hskip
      (kind ++ (" group " ++ (label ++ (" as its dependency failed: " ++ e.message))))
    rwa [← String.append_assoc, ← String.append_assoc, ← String.append_assoc,
      ← String.append_assoc] at hline

/-- The account of groups of actions. -/
def actionsAccount (x : Executor) (gate : Gate) (ctx : StepContext) (groups : Option Json) :
    Account :=
  .Row (fun group => .Behind gate "action" (groupLabel group) ctx group
    (.Plainly (x.runActionGroup ctx group))) (sortedGroups groups)

theorem tells_runActions {gate : Gate} (hgate : GateObeys gate .grows) (groups : Option Json) :
    (x.actionsAccount gate ctx groups).Tells (x.runActions gate ctx groups) := by
  rw [runActions, runSortedActions_eq]
  refine Account.tells_row (fun group => Account.tells_behind hgate
    (not_isSuccessLine_skipLine _ _) (Account.tells_plainly ?_)) _
  exact (runActionGroup_logsOnly group).imp fun _ => ActionLine.not_isSuccessLine

/-! ## Assertions of an instance -/

/-- The assertions of a list: it is filled, and read. -/
def readAsserts (x : Executor) (ctx : StepContext) (asserts : Option Json) :
    Stage (List AssertionItem) :=
  match asserts with
  | none => return []
  | some template => do
    let resolved ← x.resolve ctx template
    Stage.ofExcept (listOfJson (some resolved))

theorem runAsserts_eq (asserts : Option Json) :
    x.runAsserts ctx asserts = x.readAsserts ctx asserts >>= checkAll := by
  cases asserts with
  | none => rfl
  | some template => exact (bind_assoc (m := Stage) _ _ _).symm

/-- **Assertions are checked up to the first that does not hold**, and those before it logged. -/
theorem runs_checkAll {items : List AssertionItem} {log log' : Log} {t : Trace}
    {r : Except StepError Unit} (h : (checkAll items).Runs log t r log') :
    t = [] ∧ r = firstFailure items ∧ log' = log ++ successes items := by
  induction items generalizing log with
  | nil =>
    obtain ⟨rfl, rfl, rfl⟩ := runs_pure.mp h
    exact ⟨rfl, rfl, (List.append_nil log').symm⟩
  | cons a items ih =>
    unfold checkAll at h
    by_cases hholds : a.holds
    · rw [check_of_holds hholds] at h
      have hrest : (Stage.log a.successLine >>= fun _ => checkAll items).Runs log t r log' := h
      obtain ⟨rfl, rfl, rfl⟩ := ih (runs_log_bind.mp hrest)
      rw [firstFailure_cons_of_holds hholds, successes_cons_of_holds hholds, List.append_assoc]
      exact ⟨rfl, rfl, rfl⟩
    · rw [check_of_not_holds hholds] at h
      obtain ⟨rfl, rfl, rfl⟩ := runs_throw.mp h
      rw [firstFailure_cons_of_not_holds hholds, successes_cons_of_not_holds hholds,
        List.append_nil]
      exact ⟨rfl, rfl, rfl⟩

/-- The account of a list of assertions. -/
inductive AssertsAccount (x : Executor) (ctx : StepContext) (asserts : Option Json) : Account
  | unread {log t e log'} : (x.readAsserts ctx asserts).Runs log t (.error e) log' →
      AssertsAccount x ctx asserts log t (.error e) log' [.fault e]
  | read {log t items log'} : (x.readAsserts ctx asserts).Runs log t (.ok items) log' →
      AssertsAccount x ctx asserts log t (firstFailure items) (log' ++ successes items)
        (items.map .check)

theorem readAsserts_logsNothing {asserts : Option Json} {log log' : Log} {t : Trace}
    {r : Except StepError (List AssertionItem)}
    (h : (x.readAsserts ctx asserts).Runs log t r log') : log' = log := by
  have hnothing : (x.readAsserts ctx asserts).LogsOnly fun _ => False := by
    cases asserts with
    | none => exact logsOnly_pure []
    | some template => exact logsOnly_bind (logsOnly_ofAct _) fun _ => logsOnly_ofExcept _
  obtain ⟨lines, rfl, hlines⟩ := hnothing h
  rw [List.eq_nil_iff_forall_not_mem.mpr hlines, List.append_nil]

theorem tells_runAsserts (asserts : Option Json) :
    (x.AssertsAccount ctx asserts).Tells (x.runAsserts ctx asserts) := by
  intro log t r log' h
  rw [runAsserts_eq] at h
  obtain ⟨e, hfail, rfl⟩ | ⟨t₁, t₂, items, log₁, rfl, hread, hchecked⟩ := runs_bind.mp h
  · obtain rfl := readAsserts_logsNothing hfail
    exact ⟨_, .unread hfail, .fault _ e⟩
  · obtain rfl := readAsserts_logsNothing hread
    obtain ⟨rfl, rfl, rfl⟩ := runs_checkAll hchecked
    rw [List.append_nil]
    exact ⟨_, .read hread, .checks _ items⟩

/-! ## Groups of assertions -/

/-- What an instance of a group of assertions is called; `several` is whether there is more than
one. -/
def instanceLabel (label : String) (several : Bool) (index : Nat) : String :=
  if several then s!"{label} (Loop {index})" else label

/-- The account of an instance of a group: behind its gate, what goes before, and its assertions. -/
def instanceAccount (x : Executor) (gate : Gate) (ctx : StepContext) (label : String)
    (several : Bool) (e : Nat × Json) : Account :=
  .Behind gate "assertion" (instanceLabel label several e.1) ctx e.2
    (.AndThen (x.actionsAccount gate ctx (e.2.get? "beforeAssert"))
      (x.AssertsAccount ctx (e.2.get? "assert")))

/-- Asks the gate of an instance, and runs it if it is entered. -/
def visitInstance (x : Executor) (gate : Gate) (ctx : StepContext) (label : String)
    (several : Bool) (e : Nat × Json) : Stage Unit := do
  if ← enters gate "assertion" ctx (instanceLabel label several e.1) e.2 then
    x.runActions gate ctx (e.2.get? "beforeAssert")
    x.runAsserts ctx (e.2.get? "assert")

theorem runAssertInstances_eq (x : Executor) (gate : Gate) (ctx : StepContext) (label : String)
    (several : Bool) (instances : List (Nat × Json)) :
    x.runAssertInstances gate ctx label several instances =
      List.forM instances (x.visitInstance gate ctx label several) := by
  induction instances with
  | nil => rfl
  | cons e rest ih =>
    have hrest : ∀ entered : Bool,
        (if entered then do
            x.runActions gate ctx (e.2.get? "beforeAssert")
            x.runAsserts ctx (e.2.get? "assert")
            rest.forM (x.visitInstance gate ctx label several)
          else rest.forM (x.visitInstance gate ctx label several)) =
        (if entered then do
            x.runActions gate ctx (e.2.get? "beforeAssert")
            x.runAsserts ctx (e.2.get? "assert")
          else pure ()) >>= fun _ => rest.forM (x.visitInstance gate ctx label several) := by
      rintro (_ | _)
      · rfl
      · exact (bind_assoc (m := Stage) _ _ _).symm
    rw [runAssertInstances, ih, List.forM, visitInstance, bind_assoc]
    exact congrArg _ (funext hrest)

/-- The account of the loop of a group: its instances, numbered from one, or why there are none. -/
inductive LoopAccount (x : Executor) (gate : Gate) (ctx : StepContext) (group : Json) : Account
  | unexpanded {log t e log'} :
      (x.expandLoop ctx group (Template.assertMarker (groupLabel group))).Runs log t (.error e)
        log' →
      LoopAccount x gate ctx group log t (.error e) log' [.fault e]
  | expanded {log t instances log₁ t' r log' marks} :
      (x.expandLoop ctx group (Template.assertMarker (groupLabel group))).Runs log t (.ok instances)
        log₁ →
      instances.map (·.1) = List.range' 1 instances.length →
      Account.Row (x.instanceAccount gate ctx (groupLabel group) (1 < instances.length)) instances
        log₁ t' r log' marks →
      LoopAccount x gate ctx group log (t ++ t') r log' marks

/-- The account of a group of assertions: what goes before its loop, and its instances. -/
def groupAccount (x : Executor) (gate : Gate) (ctx : StepContext) (group : Json) : Account :=
  .AndThen (x.actionsAccount gate ctx (group.get? "beforeLoop")) (x.LoopAccount gate ctx group)

/-- The instances are numbered from one, if there are any. -/
def NumberedFromOne (r : Except StepError (List (Nat × Json))) : Prop :=
  ∀ instances, r = .ok instances → instances.map (·.1) = List.range' 1 instances.length

theorem numbered_instancesFrom (names : List (List Char)) (loop : List Char) (body : Json)
    (size : Nat) : NumberedFromOne (.ok (Template.instancesFrom names loop body size 0)) := by
  rintro _ ⟨⟩
  have hnumbers := map_fst_instancesFrom names loop body size 0
  have hlength : (Template.instancesFrom names loop body size 0).length = size := by
    simpa using congrArg List.length hnumbers
  rw [hnumbers, hlength]

open Template in
/-- A template that is expanded has instances numbered from one. -/
theorem numbered_expandLoop (s : Sources) (template : Json) (marker : String) :
    (s.expandLoop ctx template marker).Within (fun _ => True) NumberedFromOne := by
  have herror : ∀ e : StepError, NumberedFromOne (.error e) := fun _ => nofun
  unfold Sources.expandLoop
  split
  · rintro _ ⟨⟩
    rfl
  · rintro _ ⟨⟩
    rfl
  · dsimp only
    generalize loopName _ = loop
    split
    · exact herror _
    · refine Act.within_bind (s.within_resolve (P := fun _ => True) (fun _ _ => trivial)
        (fun _ _ => trivial) ctx .none _) fun r _ => ?_
      cases r with
      | error e => exact herror e
      | ok v =>
        dsimp only
        split
        · exact herror _
        · exact numbered_instancesFrom _ _ _ _
  · exact herror _

theorem runSortedAsserts_eq (x : Executor) (gate : Gate) (ctx : StepContext) (groups : List Json) :
    x.runSortedAsserts gate ctx groups = groups.forM (x.runAssertGroup gate ctx) := by
  induction groups with
  | nil => rfl
  | cons group groups ih =>
    rw [runSortedAsserts, ih]
    rfl

section

variable {gate : Gate} (hgate : GateObeys gate .grows)
include hgate

theorem tells_visitInstance (label : String) (several : Bool) (e : Nat × Json) :
    (x.instanceAccount gate ctx label several e).Tells (x.visitInstance gate ctx label several e) :=
  Account.tells_behind hgate (not_isSuccessLine_skipLine _ _)
    (Account.tells_bind (tells_runActions hgate _) (tells_runAsserts _))

theorem tells_runAssertGroup (group : Json) :
    (x.groupAccount gate ctx group).Tells (x.runAssertGroup gate ctx group) := by
  refine Account.tells_bind (tells_runActions hgate _) fun log t r log' h => ?_
  obtain ⟨e, hfail, rfl⟩ | ⟨t₁, t₂, instances, log₁, rfl, hexpanded, hvisited⟩ := runs_bind.mp h
  · obtain ⟨-, rfl⟩ := runs_ofAct.mp hfail
    exact ⟨_, .unexpanded hfail, .fault _ e⟩
  · obtain ⟨hexpand, rfl⟩ := runs_ofAct.mp hexpanded
    rw [runAssertInstances_eq] at hvisited
    obtain ⟨marks, hmarks, hsettled⟩ :=
      Account.tells_row (tells_visitInstance hgate _ _) instances hvisited
    exact ⟨marks, .expanded hexpanded ((hexpand.within (numbered_expandLoop _ _ _)).2 _ rfl) hmarks,
      hsettled⟩

/-- The account of groups of assertions, by number. -/
theorem tells_runAssertions (groups : Option Json) :
    (Account.Row (x.groupAccount gate ctx) (sortedGroups groups)).Tells
      (x.runAssertions gate ctx groups) := by
  rw [runAssertions, runSortedAsserts_eq]
  exact Account.tells_row (tells_runAssertGroup hgate) _

end

/-- **The first assertion that fails decides.**  In all surroundings, at the top level (where a
group is behind its gate) and below, the groups are taken by number, the instances of each as they
are numbered, and the assertions of each instance as they are listed; the calls are those of what
was visited.  If nothing else fails, the run succeeds exactly if all assertions hold that were come
to, and else it fails as the first that does not; the lines that tell of assertions that hold are
then those of the ones before it, in order, besides what gates write. -/
theorem runAssertions_firstFailure (x : Executor) (nested : Bool) (ctx : StepContext)
    (groups : Option Json) (log : Log) (env : Surroundings) (past : Trace) :
    let gate := if nested then openGate else x.nestedGate
    let run := ((x.runAssertions gate ctx groups).start log).meet env past
    Numbered (entriesOf groups) (sortedGroups groups) ∧
      ∃ marks, Account.Row (x.groupAccount gate ctx) (sortedGroups groups) log run.1 run.2.1 run.2.2
          marks ∧
        run.2.2 = log ++ (replay marks).2 ∧
        (∀ e, .fault e ∈ marks → run.2.1 = .error e) ∧
        ((∀ e, .fault e ∉ marks) →
          run.2.1 = firstFailure (checksOf marks) ∧
          (run.2.1 = .ok () ↔ ∀ a ∈ checksOf marks, a.holds) ∧
          (replay (marks.filter (!·.isGate))).2.filter isSuccessLine =
            successes (checksOf marks)) := by
  intro gate run
  have hgate : GateObeys gate .grows := by
    have hgoverns := governs_of_admits (admits_grows x)
    cases nested with
    | true => exact gateObeys_open
    | false => exact gateObeys_nested hgoverns
  obtain ⟨marks, hmarks, hsettled⟩ := tells_runAssertions hgate groups
    (Act.runs_meet env ((x.runAssertions gate ctx groups).start log) past)
  refine ⟨sortedGroups_numbered groups, marks, hmarks, hsettled.log_eq, hsettled.fault_eq,
    fun hfault => ?_⟩
  obtain ⟨hresult, hlines⟩ := replay_of_checks hsettled.plain hfault
  have hfirst : run.2.1 = firstFailure (checksOf marks) := hsettled.result_eq.trans hresult
  exact ⟨hfirst, hfirst ▸ firstFailure_eq_ok_iff, hlines⟩

/-- An assertion that does not hold. -/
def oneIsTwo (name : String) : AssertionItem := ⟨.str "1", .isEqual, .str "2", some name⟩

/-- A group with that assertion. -/
def oneIsTwoGroup (n : Int) (name : String) : Json :=
  .obj [("assert", .obj [("condition", .str "IsEqual"), ("description", .str name),
    ("key", .str "1"), ("value", .str "2")]), ("id", .num (.whole n))]

/-- Of groups whose numbers round to one double, the one that is listed first is checked first,
although its own number is greater: the failure is that of its assertion. -/
theorem runAssertions_rounded :
    let x : Executor := ⟨⟨.memory 0, .tables "" []⟩, ⟨0, []⟩, none⟩
    let ctx : StepContext := ⟨⟨"", ""⟩, "", "", [], [], 0, "", 1, .null⟩
    let groups := [oneIsTwoGroup 9007199254740993 "first", oneIsTwoGroup 9007199254740992 "second"]
    let run := ((x.runAssertions x.nestedGate ctx (some (.arr groups))).start []).meet
      emptySurroundings []
    (9007199254740992 : Int) < 9007199254740993 ∧
      failure? run.2.1 = some (.assertion (oneIsTwo "first").block) ∧
      (oneIsTwo "first").block ≠ (oneIsTwo "second").block := by
  simp only [runAssertions, sortedGroups_pair]
  decide +kernel

end Executor

end CaseScript

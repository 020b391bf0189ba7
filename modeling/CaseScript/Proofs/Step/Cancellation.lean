import CaseScript.Proofs.Retry.Cuts
import CaseScript.Proofs.Step.Order

/-!
# Proofs/Step/Cancellation — an instance that is cut off fails, or its log tells of it

A gate that fails leaves its group out, also if what failed is the cancellation of the run.  So a
cut has one of two consequences: the instance fails, or its log has a line that says of a group that
its dependency was cancelled.  The law `Law.accounted` counts both.
-/

namespace CaseScript

/-- How the line ends that says that a group is left out since its gate was cancelled. -/
def cutNotice : String := " as its dependency failed: " ++ StepError.cancelled.message

/-- Whether a line says so. -/
def tellsOfCut (line : String) : Bool := cutNotice.toList.isSuffixOf line.toList

/-- How many lines say so. -/
def notices (log : Log) : Nat := log.countP tellsOfCut

@[simp] theorem notices_append (log log' : Log) :
    notices (log ++ log') = notices log + notices log' :=
  List.countP_append

theorem tellsOfCut_leftOutLine (kind label : String) :
    tellsOfCut (leftOutLine kind label .cancelled) := by
  have hline : leftOutLine kind label .cancelled =
      "Skip " ++ kind ++ " group " ++ label ++ cutNotice := by
    unfold leftOutLine cutNotice
    generalize StepError.cancelled.message = m
    rw [← String.append_assoc]
    rfl
  rw [tellsOfCut, List.isSuffixOf_iff_suffix, hline, String.toList_append]
  exact List.suffix_append _ _

/-- One for a cancellation, else zero. -/
def cutBy : Option StepError → Nat
  | some .cancelled => 1
  | _ => 0

/-- The law that every cut is accounted for, by the failure or by a line of the log. -/
def Law.accounted : Law where
  Holds log t e log' := cuts t + notices log ≤ notices log' + cutBy e
  rest log := by simp [cutBy]
  line log line := by simp [cutBy]
  seq h h' := by
    simp only [cuts_append, cutBy] at *
    omega

/-- The law that nothing fails since a deadline passed. -/
def Law.timely : Law where
  Holds _ _ e _ := ∀ s, e ≠ some (.timeout s)
  rest _ := nofun
  line _ _ := nofun
  seq _ h' := h'

/-- The law that a run fails, and not for want of time, or has a line in its log for every cut. -/
def Law.fails : Law where
  Holds log t e log' :=
    (∃ e', e = some e' ∧ ∀ s, e' ≠ .timeout s) ∨ cuts t + notices log ≤ notices log'
  rest log := .inr (by simp)
  line log line := .inr (by simp)
  seq h h' := by
    obtain ⟨e, he, -⟩ | h := h
    · cases he
    obtain h' | h' := h'
    · exact .inl h'
    · refine .inr ?_
      rw [cuts_append]
      omega

theorem cutBy_le_notices (kind label : String) (e : StepError) :
    cutBy (some e) ≤ notices [leftOutLine kind label e] := by
  cases e with
  | cancelled =>
    have htells : [leftOutLine kind label .cancelled].countP tellsOfCut = 1 :=
      List.countP_eq_length.mpr (by simpa using tellsOfCut_leftOutLine kind label)
    exact Nat.le_of_eq htells.symm
  | _ => exact Nat.zero_le _

theorem accounted_of_cuts {log : Log} {t : Trace} {e : Option StepError} (h : cuts t ≤ cutBy e) :
    Law.accounted.Holds log t e log := by
  change cuts t + notices log ≤ notices log + cutBy e
  omega

theorem cutsOff_query {q : Query} {g : Guard} {o : Call.Answer (.query q g)}
    (h : cutsOff ⟨.query q g, o⟩) : g.cancellable := by
  match o with
  | .cancelled | .done (.error .cancelled) => exact h
  | .expired | .done (.ok _) => cases h
  | .done (.error (.unknownConnection _)) | .done (.error (.pool _))
  | .done (.error (.query _)) => cases h

theorem cuts_of_quiet {t : Trace} (h : ∀ e ∈ t, e.1.isQuiet) : cuts t = 0 := by
  refine List.countP_eq_zero.mpr fun e he hcut => ?_
  have hquiet := h e he
  obtain ⟨c, answer⟩ := e
  cases c with
  | query q g => simp [Call.isQuiet, cutsOff_query hcut] at hquiet
  | read | write => cases hcut
  | send | pause | attempt | isCancelled | now => cases hquiet

namespace Executor

open Stage

variable {x : Executor} {ctx : StepContext} {L : Law}

/-! ## Cuts are accounted for -/

theorem cuts_query {q : Query} {g : Guard} {t : Trace}
    {o : Outcome (Except QueryError (List Row))} (h : (x.query q g).Runs t o) :
    cuts t ≤ o.cut (· = .cancelled) := by
  have hasked : (Act.query q g).Runs t o → cuts t ≤ o.cut (· = .cancelled) := by
    intro hrun
    obtain rfl := Act.runs_call.mp hrun
    match o with
    | .cancelled | .done (.error .cancelled) => exact List.countP_le_length
    | .expired | .done (.ok _) => exact Nat.le_refl 0
    | .done (.error (.unknownConnection _)) | .done (.error (.pool _))
    | .done (.error (.query _)) => exact Nat.le_refl 0
  unfold query at h
  split at h
  · exact hasked h
  · split at h
    · obtain ⟨rfl, rfl⟩ := Act.runs_pure.mp h
      exact Nat.zero_le _
    · exact hasked h

theorem cuts_send {r : Request} {g : Guard} {t : Trace}
    {o : Outcome (Except TransportError Response)} (h : (Act.send r g).Runs t o) :
    cuts t ≤ o.cut (· = .cancelled) := by
  obtain rfl := Act.runs_call.mp h
  match o with
  | .cancelled | .done (.error .cancelled) => exact List.countP_le_length
  | .expired | .done (.ok _) => exact Nat.le_refl 0
  | .done (.error (.timeout _)) | .done (.error (.unresolvedHost _)) | .done (.error (.io _))
  | .done (.error (.other _)) => exact Nat.le_refl 0

theorem cut_le_queryFault (e : QueryError) :
    (Outcome.done (.error e) : Outcome (Except QueryError (List Row))).cut (· = .cancelled) ≤
      cutBy (some (queryFault e)) := by
  cases e <;> exact Nat.le_refl _

theorem queryRows_accounted (connection : String) (a : DbAction) :
    (x.queryRows connection a).Obeys .accounted := by
  intro log t r log' h
  obtain ⟨t₁, t₂, o, rfl, hrun, hrest⟩ := runs_call_bind.mp h
  have hcuts : cuts t₁ ≤ o.cut (· = .cancelled) :=
    cuts_retry (fun _ _ => cuts_query) (fun e he => by cases e <;> first | rfl | cases he) hrun
  rcases o with (e | rows) | _ | _
  · obtain ⟨rfl, rfl, rfl⟩ := runs_throw.mp hrest
    rw [List.append_nil]
    exact accounted_of_cuts (Nat.le_trans hcuts (cut_le_queryFault e))
  · obtain ⟨rfl, rfl, rfl⟩ := runs_pure.mp hrest
    rw [List.append_nil]
    exact accounted_of_cuts hcuts
  · obtain ⟨rfl, rfl, rfl⟩ := runs_throw.mp hrest
    rw [List.append_nil]
    exact accounted_of_cuts hcuts
  · obtain ⟨rfl, rfl, rfl⟩ := runs_throw.mp hrest
    rw [List.append_nil]
    exact accounted_of_cuts (Nat.le_trans hcuts (Nat.zero_le _))

theorem sendRequest_accounted (a : HttpAction) (request : Request) :
    (x.sendRequest a request).Obeys .accounted := by
  intro log t r log' h
  obtain ⟨t₀, t', now, rfl, hnow, h'⟩ := runs_call_bind.mp h
  obtain rfl := Act.runs_call.mp hnow
  obtain ⟨t₁, t₂, o, rfl, hrun, hrest⟩ := runs_call_bind.mp h'
  have hcuts : cuts ([⟨.now, now⟩] ++ t₁) ≤ o.cut (· = .cancelled) := by
    have hnone : cuts [⟨.now, now⟩] = 0 := rfl
    rw [cuts_append, hnone, Nat.zero_add]
    exact cuts_retry (fun _ _ => cuts_send) (fun e he => by cases e <;> first | rfl | cases he) hrun
  rw [← List.append_assoc]
  rcases o with (e | response) | _ | _
  · cases e with
    | cancelled =>
      obtain ⟨rfl, rfl, rfl⟩ := runs_throw.mp hrest
      rw [List.append_nil]
      exact accounted_of_cuts hcuts
    | timeout | unresolvedHost | io | other =>
      obtain ⟨rfl, rfl, rfl⟩ := runs_pure.mp hrest
      rw [List.append_nil]
      exact accounted_of_cuts hcuts
  · obtain ⟨rfl, rfl, rfl⟩ := runs_pure.mp hrest
    rw [List.append_nil]
    exact accounted_of_cuts hcuts
  · obtain ⟨rfl, rfl, rfl⟩ := runs_throw.mp hrest
    rw [List.append_nil]
    exact accounted_of_cuts hcuts
  · obtain ⟨rfl, rfl, rfl⟩ := runs_throw.mp hrest
    rw [List.append_nil]
    exact accounted_of_cuts (Nat.le_trans hcuts (Nat.zero_le _))

theorem waitBefore_accounted (seconds : Binary64) : (waitBefore seconds).Obeys .accounted := by
  unfold waitBefore
  split
  · exact obeys_throw fun log => accounted_of_cuts (Nat.zero_le _)
  · intro log t r log' h
    obtain ⟨t₁, t₂, o, rfl, hrun, hrest⟩ := runs_call_bind.mp h
    obtain rfl := Act.runs_call.mp hrun
    match o with
    | .done () =>
      obtain ⟨rfl, rfl, rfl⟩ := runs_pure.mp hrest
      exact accounted_of_cuts (Nat.le_refl 0)
    | .cancelled | .expired =>
      obtain ⟨rfl, rfl, rfl⟩ := runs_throw.mp hrest
      exact accounted_of_cuts List.countP_le_length

theorem admits_accounted (x : Executor) : Law.accounted.Admits x where
  quiet log t e hcalls hplain := by
    refine accounted_of_cuts ?_
    rw [cuts_of_quiet fun e he => (hcalls e he).1]
    exact Nat.zero_le _
  rows := queryRows_accounted
  wait := waitBefore_accounted
  leftOut {log t e log'} kind label h := by
    change cuts t + notices log ≤ notices log' + cutBy (some e) at h
    change cuts t + notices log ≤ notices (log' ++ [leftOutLine kind label e]) + 0
    have hline := cutBy_le_notices kind label e
    rw [notices_append]
    omega
  unmet h := h

theorem bearsFailure_timely : Law.timely.BearsFailure := fun h _ s hs => h s (Option.some.inj hs)

/-- Nothing but a request has a deadline. -/
theorem admits_timely (x : Executor) : Law.timely.Admits x where
  quiet log t e hcalls hplain := by
    rintro s rfl
    exact absurd (hplain _ rfl) Bool.false_ne_true
  rows _ _ := obeys_queryRows bearsFailure_timely (obeys_call fun log _ _ _ => Law.timely.rest log)
  wait := obeys_waitBefore bearsFailure_timely fun _ => obeys_call fun log _ _ _ =>
    Law.timely.rest log
  leftOut _ _ _ := nofun
  unmet _ := nofun

/-! ## Instances -/

theorem fails_of_accounted {α : Type} {s : Stage α} (h : s.Obeys .accounted) : s.Obeys .fails := by
  intro log t r log' hr
  have hheld : cuts t + notices log ≤ notices log' + cutBy (failure? r) := h hr
  match r with
  | .error .cancelled => exact .inl ⟨.cancelled, rfl, nofun⟩
  | .ok _ => exact .inr hheld
  | .error (.action _) | .error (.assertion _) | .error (.resolution _)
  | .error (.configuration _) | .error (.timeout _) => exact .inr hheld

/-- What follows the test fails, or accounts for its cuts: it is never out of time, so the failure
that is reported stands for the other one. -/
theorem runAfterTest_fails : (x.runAfterTest ctx).Obeys .fails := by
  have haccounted := governs_of_admits (admits_accounted x)
  have htimely := governs_of_admits (admits_timely x)
  intro log t r log' h
  obtain ⟨t₁, t₂, a, c, log₁, rfl, hasserted, hcleared, rfl⟩ := runs_runAfterTest h
  have ha := obeys_runPart haccounted .afterTest nofun hasserted
  have hc := runCleanup_obeys haccounted hcleared
  match a, c with
  | .error e, _ =>
    have htime := obeys_runPart htimely .afterTest nofun hasserted
    exact .inl ⟨e, rfl, fun s hs => htime s (congrArg some hs)⟩
  | .ok (), .error e =>
    have htime := runCleanup_obeys htimely hcleared
    exact .inl ⟨e, rfl, fun s hs => htime s (congrArg some hs)⟩
  | .ok (), .ok () =>
    change cuts t₁ + notices (log ++ [assertBanner]) ≤ notices log₁ + 0 at ha
    change cuts t₂ + notices log₁ ≤ notices log' + 0 at hc
    refine .inr ?_
    rw [notices_append] at ha
    rw [cuts_append]
    omega

theorem runStages_fails (x : Executor) (ctx : StepContext) : (x.runStages ctx).Obeys .fails := by
  have hadmits := admits_accounted x
  have hgoverns := governs_of_admits hadmits
  have hgate := gateObeys_nested hgoverns
  refine obeys_bind (fails_of_accounted (obeys_runActions hgoverns hgate ctx _)) fun _ => ?_
  refine obeys_bind (fails_of_accounted (obeys_dependencyMet hgoverns hgate ctx _)) fun met => ?_
  cases met with
  | true =>
    refine obeys_bind (fails_of_accounted (obeys_runActions hgoverns hgate ctx _)) fun _ => ?_
    refine obeys_bind (fails_of_accounted
      (obeys_runTest hadmits.quiet hgoverns sendRequest_accounted ctx _)) fun _ => ?_
    exact obeys_bind runAfterTest_fails fun _ => obeys_pure _
  | false => exact obeys_bind (obeys_log _) fun _ => obeys_pure _

theorem failed_or_noticed (ctx : StepContext) (durationMs : Nat) {log log' : Log} {t : Trace}
    {r : Except StepError StepStatus} (h : Law.fails.Holds log t (failure? r) log') :
    (StepOutcome.ofResult ctx durationMs log' r).status = .failed ∨
      cuts t ≤ notices (StepOutcome.ofResult ctx durationMs log' r).output := by
  cases r with
  | ok status =>
    obtain ⟨e, he, -⟩ | hnoticed := h
    · cases he
    · exact .inr (Nat.le_trans (Nat.le_add_right _ _) hnoticed)
  | error e =>
    obtain ⟨e', he, htime⟩ | hnoticed := h
    · obtain rfl := Option.some.inj he
      refine .inl ?_
      cases e with
      | timeout s => exact absurd rfl (htime s)
      | _ => rfl
    · have hkept : notices log' ≤
          notices (StepOutcome.ofResult ctx durationMs log' (.error e)).output := by
        change notices log' ≤ notices (log' ++ [_])
        rw [notices_append]
        exact Nat.le_add_right _ _
      exact .inr (Nat.le_trans (Nat.le_add_right _ _) (Nat.le_trans hnoticed hkept))

/-- **An instance that is cut off fails, unless its log tells of it**: in all surroundings, and
whenever the run is cancelled, either the instance has failed or every call that was cut off is
matched by a line that says of a group that its dependency was cancelled. -/
theorem runInstance_failed_or_noticed (x : Executor) (ctx : StepContext) (env : Surroundings)
    (past : Trace) :
    let run := (x.runInstance ctx).meet env past
    run.2.status = .failed ∨ cuts run.1 ≤ notices run.2.output := by
  intro run
  have hrun : (x.runInstance ctx).Runs run.1 run.2 := Act.runs_meet env (x.runInstance ctx) past
  generalize run.1 = t at hrun
  generalize run.2 = out at hrun
  obtain ⟨started, t₁, rfl, hstages⟩ := Act.runs_call_bind.mp hrun
  obtain ⟨t₁, t₂, ⟨r, log⟩, rfl, hstage, hended⟩ := Act.runs_bind.mp hstages
  obtain ⟨ended, t₃, rfl, hdone⟩ := Act.runs_call_bind.mp hended
  obtain ⟨rfl, rfl⟩ := Act.runs_pure.mp hdone
  have hcuts : cuts ([⟨.now, started⟩] ++ (t₁ ++ [⟨.now, ended⟩])) = cuts t₁ := by
    have hstarted : cuts [⟨.now, started⟩] = 0 := rfl
    have hended : cuts [⟨.now, ended⟩] = 0 := rfl
    rw [cuts_append, cuts_append, hstarted, hended, Nat.zero_add, Nat.add_zero]
  have hout := failed_or_noticed ctx 0 (runStages_fails x ctx hstage)
  rw [← hcuts] at hout
  cases r <;> exact hout

/-- Surroundings in which the run is cancelled before it begins. -/
def cancelledSurroundings : Surroundings := fun _ c =>
  match c with
  | .send .. | .query .. | .pause .. => .cancelled
  | .attempt _ | .write .. => ()
  | .isCancelled => true
  | .now => (0 : Nat)
  | .read .. => []

/-- A step whose only assertion is wrong, in a group whose dependency asks the database. -/
def gatedStep : Json := .obj [("afterTest", .obj [
  ("assert", .obj [("condition", .str "IsEqual"), ("key", .str "1"), ("value", .str "2")]),
  ("dependency", .obj [
    ("beforeAssert", .obj [("execute", .obj [("sql", .str "select 1")])])])])]

/-- The instance of `gatedStep` passes although its only query was refused. -/
theorem gatedStep_passes :
    let x : Executor := ⟨⟨.memory 0, .tables "" []⟩, ⟨0, []⟩, none⟩
    let ctx : StepContext := ⟨⟨"", ""⟩, "", "", [], [], 1, "", 1, gatedStep⟩
    let run := (x.runInstance ctx).meet cancelledSurroundings []
    run.2.status = .passed ∧ cuts run.1 = 1 := by
  decide +kernel

end Executor

end CaseScript

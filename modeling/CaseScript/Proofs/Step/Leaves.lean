import CaseScript.Proofs.Step.Groups

/-!
# Proofs/Step/Leaves — a law from quiet calls, queries and waits

Besides the attempts of a query and the wait before a group, an action or an assertion makes quiet
calls only, and fails only plainly.  So a law that bears these (`Law.Admits`) governs an executor.
Statements and waits obey a law that their calls do, if it bears what they fail with
(`Law.BearsFailure`).
-/

namespace CaseScript

open Executor Stage

/-- The law holds of quiet calls that note no status, with a plain failure or none. -/
def Law.BearsQuiet (L : Law) : Prop :=
  ∀ log {t e}, (∀ c ∈ t, c.1.isQuiet ∧ !c.1.isNote) → (∀ e', e = some e' → e'.isPlain) →
    L.Holds log t e log

/-- The law holds of quiet calls that note no status, with a plain failure or none, of queries with
their attempts, and of waits, and survives a gate that fails. -/
structure Law.Admits (L : Law) (x : Executor) : Prop where
  quiet : L.BearsQuiet
  rows : ∀ connection a, (x.queryRows connection a).Obeys L
  wait : ∀ seconds, (waitBefore seconds).Obeys L
  leftOut : ∀ {log t e log'} kind label, L.Holds log t (some e) log' →
    L.Holds log t none (log' ++ [leftOutLine kind label e])
  unmet : ∀ {log t m log'}, L.Holds log t (some (.assertion m)) log' → L.Holds log t none log'

/-- The law holds of a failure at once, unless it is a missed deadline. -/
def Law.BearsFailure (L : Law) : Prop :=
  ∀ {e : StepError}, (∀ s, e ≠ .timeout s) → ∀ log, L.Holds log [] (some e) log

/-! ## What actions and assertions fail with -/

theorem plain_readDbAction (v : Json) : PlainFailure (readDbAction v) :=
  plain_mapError fun _ => rfl

theorem plain_classify (test : Option Json) : PlainFailure (ActionKind.classify test) := by
  unfold ActionKind.classify
  split
  · exact plain_ok _
  · exact plain_ok _
  · exact plain_ok _
  · exact plain_ok _
  · exact plain_error rfl

theorem plain_readHttpAction (v : Json) : PlainFailure (readHttpAction v) :=
  plain_mapError fun _ => rfl

theorem plain_baseUrlOf (x : Executor) (ctx : StepContext) (a : HttpAction) :
    PlainFailure (x.baseUrlOf ctx a) := by
  unfold baseUrlOf
  dsimp only
  split
  · exact plain_ok _
  · exact plain_error rfl

namespace AssertionItem

theorem plain_ofJson (v : Json) : PlainFailure (ofJson v) := by
  unfold ofJson
  dsimp only
  split
  · split
    · exact plain_error (e := .configuration _) rfl
    · split
      · exact plain_ok _
      · exact plain_error (e := .configuration _) rfl
  · split
    · exact plain_ok _
    · exact plain_error (e := .configuration _) rfl

theorem plain_listOfJson (v : Option Json) : PlainFailure (listOfJson v) := by
  unfold listOfJson
  split
  · exact plain_ok _
  · exact plain_ok _
  · exact plain_mapM plain_ofJson _
  · exact plain_mapM plain_ofJson _
  · exact plain_error rfl

theorem plain_check (a : AssertionItem) : PlainFailure a.check := by
  unfold check
  dsimp only
  split
  · exact plain_ok _
  · exact plain_error rfl

end AssertionItem

/-! ## Leaves -/

namespace Executor

variable {x : Executor} {L : Law}

section

variable (h : L.BearsQuiet)
include h

theorem obeys_ofQuiet {α : Type} {p : Act (Except StepError α)} (hp : p.Quiet) :
    (Stage.ofAct p).Obeys L := by
  refine obeys_ofAct fun log t r hr => ?_
  obtain ⟨hcalls, hfail⟩ := hr.within hp
  refine h log hcalls fun e he => ?_
  cases r with
  | ok a => cases he
  | error e' =>
    obtain rfl := Option.some.inj he
    exact hfail e' rfl

theorem obeys_ofPlain {α : Type} {r : Except StepError α} (hr : PlainFailure r) :
    (Stage.ofExcept r).Obeys L := by
  refine obeys_ofExcept fun log e he => h log (fun _ hc => absurd hc List.not_mem_nil) ?_
  rintro e' ⟨⟩
  exact hr e he

theorem obeys_resolve (ctx : StepContext) (template : Json) : (x.resolve ctx template).Obeys L :=
  obeys_ofQuiet h (x.sources.quiet_resolve ctx .none template)

theorem obeys_expandLoop (ctx : StepContext) (template : Json) (marker : String) :
    (x.expandLoop ctx template marker).Obeys L :=
  obeys_ofQuiet h (x.sources.quiet_expandLoop ctx template marker)

theorem obeys_store (ctx : StepContext) (key : String) (value : Json) (fault : String) :
    (x.store ctx key value fault).Obeys L := by
  intro log t r log' hr
  obtain ⟨t₁, t₂, r₀, rfl, hmerge, hrest⟩ := runs_call_bind.mp hr
  obtain ⟨hcalls, -⟩ := hmerge.within (x.sources.store.within_merge ctx.key key value)
  cases r₀ with
  | ok u =>
    obtain ⟨rfl, rfl, rfl⟩ := runs_pure.mp hrest
    rw [List.append_nil]
    exact h log' hcalls nofun
  | error e =>
    obtain ⟨rfl, rfl, rfl⟩ := runs_throw.mp hrest
    rw [List.append_nil]
    refine h log' hcalls ?_
    rintro e' ⟨⟩
    rfl

/-- What becomes of the rows of a statement. -/
theorem obeys_keepRows (ctx : StepContext) (a : DbAction) (rows : List Row) : (do
    let value ← Stage.ofExcept ((Sql.foldRows (.ofSql a.sql) rows).mapError .action)
    Stage.log s!"* Result: {value.text}"
    match a.storedKey with
    | none | some "" => return value
    | some key =>
      x.store ctx key value s!"Failed to store '{key}'"
      Stage.log s!"* Stored result as '{key}'"
      return value : Stage Json).Obeys L := by
  refine obeys_bind (obeys_ofPlain h (plain_mapError fun _ => rfl)) fun value => ?_
  refine obeys_bind (obeys_log _) fun _ => ?_
  split
  · exact obeys_pure value
  · exact obeys_pure value
  · refine obeys_bind (obeys_store h ctx _ value _) fun _ => ?_
    exact obeys_bind (obeys_log _) fun _ => obeys_pure value

theorem obeys_checkAll : ∀ items, (checkAll items).Obeys L
  | [] => obeys_pure ()
  | a :: rest => by
    refine obeys_bind (obeys_ofPlain h a.plain_check) fun line => ?_
    exact obeys_bind (obeys_log line) fun _ => obeys_checkAll rest

theorem obeys_runAsserts (ctx : StepContext) (asserts : Option Json) :
    (x.runAsserts ctx asserts).Obeys L := by
  cases asserts with
  | none => exact obeys_pure ()
  | some template =>
    refine obeys_bind (obeys_resolve h ctx template) fun resolved => ?_
    exact obeys_bind (obeys_ofPlain h (AssertionItem.plain_listOfJson _)) fun items =>
      obeys_checkAll h items

end

/-! ## Statements and waits -/

section

variable (h : L.BearsFailure)
include h

/-- The rows of a statement obey a law that its attempts do: what they fail with is no missed
deadline. -/
theorem obeys_queryRows {connection : String} {a : DbAction}
    (hattempts : (Stage.call (retry (.forDatabase a.retry) none
      (x.query ⟨connection, a.sql, a.params⟩) QueryError.isRetryable
      (RetryPolicy.forDatabase a.retry).acceptsRows)).Obeys L) :
    (x.queryRows connection a).Obeys L := by
  refine obeys_bind hattempts fun o => ?_
  match o with
  | .done (.ok rows) => exact obeys_pure rows
  | .done (.error e) => exact obeys_throw (h fun s hs => by cases e <;> cases hs)
  | .cancelled | .expired => exact obeys_throw (h nofun)

theorem obeys_waitBefore
    (hpause : ∀ millis, (Stage.call (Act.pause millis .cancellation)).Obeys L)
    (seconds : Binary64) : (waitBefore seconds).Obeys L := by
  unfold waitBefore
  split
  · exact obeys_throw (h nofun)
  · refine obeys_bind (hpause _) fun o => ?_
    match o with
    | .done () => exact obeys_pure ()
    | .cancelled | .expired => exact obeys_throw (h nofun)

end

/-! ## Requests -/

section

variable (h : L.BearsQuiet)
include h

omit h in
theorem obeys_logRequest (ctx : StepContext) (a : HttpAction) (r : Request) :
    (logRequest ctx a r).Obeys L := by
  refine obeys_bind (obeys_log _) fun _ => obeys_bind (obeys_log _) fun _ => ?_
  refine obeys_bind (obeys_log _) fun _ => obeys_bind (obeys_log _) fun _ => ?_
  exact obeys_bind (obeys_log _) fun _ => obeys_log _

theorem obeys_runHttpAction (hsend : ∀ a r, (x.sendRequest a r).Obeys L) (ctx : StepContext)
    (template : Json) : (x.runHttpAction ctx template).Obeys L := by
  refine obeys_bind (obeys_resolve h ctx template) fun v => ?_
  refine obeys_bind (obeys_ofPlain h (plain_readHttpAction v)) fun a => ?_
  refine obeys_bind (obeys_ofPlain h (plain_baseUrlOf x ctx a)) fun url => ?_
  refine obeys_bind (obeys_logRequest ctx a _) fun _ => ?_
  refine obeys_bind (hsend a _) fun response => ?_
  refine obeys_bind (obeys_log _) fun _ => obeys_bind (obeys_log _) fun _ => ?_
  exact obeys_bind (obeys_store h ctx _ _ _) fun _ => obeys_pure response

end

theorem obeys_runDbAction (h : L.Admits x) (ctx : StepContext) (template : Json) :
    (x.runDbAction ctx template).Obeys L := by
  refine obeys_bind (obeys_resolve h.quiet ctx template) fun v => ?_
  refine obeys_bind (obeys_ofPlain h.quiet (plain_readDbAction v)) fun a => ?_
  refine obeys_bind (obeys_log _) fun _ => ?_
  exact obeys_bind (h.rows _ a) fun rows => obeys_keepRows h.quiet ctx a rows

/-- **A law that admits the calls of an executor governs it.** -/
theorem governs_of_admits (h : L.Admits x) : L.Governs x where
  action := obeys_runDbAction h
  wait := h.wait
  expand := obeys_expandLoop h.quiet
  asserts := obeys_runAsserts h.quiet
  leftOut := h.leftOut
  unmet := h.unmet

theorem obeys_runTest (hquiet : L.BearsQuiet) (hgoverns : L.Governs x)
    (hsend : ∀ a r, (x.sendRequest a r).Obeys L) (ctx : StepContext) (test : Option Json) :
    (x.runTest ctx test).Obeys L := by
  refine obeys_bind (obeys_ofPlain hquiet (plain_classify test)) fun kind => ?_
  cases kind with
  | none => exact obeys_pure ()
  | http template =>
    exact obeys_bind (obeys_runHttpAction hquiet hsend ctx template) fun _ => obeys_pure ()
  | database templates => exact obeys_runDbActions hgoverns ctx templates

end Executor

end CaseScript

import CaseScript.Proofs.Step.Deadline
import CaseScript.Proofs.Step.Instances
import CaseScript.Proofs.Step.Stored

/-!
# Proofs/Step/Written — what an action changes of the test data

An action asks all that it asks before it stores anything, and stores at the end, once.  So one that
fails leaves every document as it was, and one that succeeds changes one entry of one document
(`runAction_writesOnce`).  What the writes of a run make of the documents is `storesAfter`; in a
world these are the documents that it holds afterwards (`Act.stores_run`).
-/

namespace CaseScript

/-! ## Documents after a run -/

/-- The documents after a call. -/
def Call.storesAfter (stores : Slot → Store) : Call → Slot → Store
  | .write slot key c => fun i => if i = slot then (stores slot).change key c else stores i
  | _ => stores

/-- The documents after the calls of a trace. -/
def storesAfter (stores : Slot → Store) (t : Trace) : Slot → Store :=
  t.foldl (fun stores e => e.1.storesAfter stores) stores

/-- The documents differ in one entry of one document. -/
structure SetsEntry (slot : Slot) (key : CaseKey) (name : String) (v : Json)
    (before after : Slot → Store) : Prop where
  slots : ∀ i, i ≠ slot → after i = before i
  cases : ∀ k, k ≠ key → after slot k = before slot k
  entries : ∀ n, n ≠ name → (after slot key).get? n = (before slot key).get? n
  entry : (after slot key).get? name = some v

variable {o : Outside} {w : World} {t t' : Trace} {stores : Slot → Store}

theorem storesAfter_append :
    storesAfter stores (t ++ t') = storesAfter (storesAfter stores t) t' :=
  List.foldl_append

theorem Call.storesAfter_eq_self {c : Call} (h : !c.isWrite) : c.storesAfter stores = stores := by
  cases c with
  | write => cases h
  | _ => rfl

theorem storesAfter_eq_self (h : ∀ e ∈ t, !e.1.isWrite) : storesAfter stores t = stores := by
  induction t with
  | nil => rfl
  | cons e t ih =>
    obtain ⟨he, hrest⟩ := List.forall_mem_cons.mp h
    exact (congrArg (CaseScript.storesAfter · t) (Call.storesAfter_eq_self he)).trans (ih hrest)

theorem setsEntry_write (slot : Slot) (key : CaseKey) (name : String) (v : Json)
    (answer : Call.Answer (.write slot key (.merge name v))) :
    SetsEntry slot key name v stores
      (storesAfter stores [⟨.write slot key (.merge name v), answer⟩]) := by
  have hstore : storesAfter stores [⟨.write slot key (.merge name v), answer⟩] slot =
      (stores slot).change key (.merge name v) := if_pos rfl
  refine ⟨fun i hi => if_neg hi, fun k hk => ?_, fun n hn => ?_, ?_⟩
  · rw [hstore]
    exact if_neg hk
  · rw [hstore, Store.change_self]
    exact Keyed.get?_insert_of_ne _ v hn
  · rw [hstore, Store.change_self]
    exact Keyed.get?_insert_self _ name v

theorem World.stores_answer_eq (c : Call) : (w.answer o c).2.stores = c.storesAfter w.stores := by
  by_cases hwrite : c.isWrite
  · cases c with
    | write => rfl
    | _ => cases hwrite
  · rw [Call.storesAfter_eq_self (by simpa using hwrite), stores_answer (by simpa using hwrite)]

theorem World.stores_after_eq : (w.after o t).stores = storesAfter w.stores t := by
  induction t generalizing w with
  | nil => rfl
  | cons e t ih => rw [after_cons, ih, stores_answer_eq]; rfl

/-- **The documents of a world after a run are what its writes make of those before.** -/
theorem Act.stores_run {α : Type} (p : Act α) :
    (p.run o w).2.stores = storesAfter w.stores (p.meet (w.surroundings o) []).1 := by
  rw [← World.stores_after_eq]
  exact congrArg (·.2.stores) (Act.run_eq_meet o w p [])

namespace Executor

open Stage

variable {x : Executor} {ctx : StepContext} {slot : Slot} {log log' : Log}

/-- Test data in memory takes one write, which does not fail. -/
theorem runs_store_memory (hstore : x.sources.store = .memory slot) {key fault : String} {v : Json}
    {r : Except StepError Unit} (h : (x.store ctx key v fault).Runs log t r log') :
    t = [⟨.write slot ctx.key (.merge key v), ()⟩] ∧ r = .ok () := by
  obtain ⟨t₁, t₂, r₁, rfl, hmerge, hdone⟩ := runs_call_bind.mp h
  rw [hstore] at hmerge
  obtain ⟨⟨⟩, t, rfl, hmerged⟩ := Act.runs_call_bind.mp hmerge
  obtain ⟨rfl, rfl⟩ := Act.runs_pure.mp hmerged
  obtain ⟨rfl, rfl, -⟩ := runs_pure.mp hdone
  exact ⟨rfl, rfl⟩

theorem writes_nothing_reading {α : Type} {p : Act (Except StepError α)} (h : p.Reading) :
    (Stage.ofAct p).Obeys (.calls (!·.isWrite)) :=
  obeys_ofAct fun _ _ _ hr e he => not_isWrite_of_reading ((hr.within h).1 e he)

/-! ## Statements -/

/-- A filled template is read as an action, its statement is run, and its rows are folded. -/
def foldStatement (x : Executor) (ctx : StepContext) (v : Json) : Stage (DbAction × Json) := do
  let a ← Stage.ofExcept (readDbAction v)
  let connection := a.connectionName ctx.profile
  Stage.log s!"Execute SQL on '{connection}': {a.sql}"
  let rows ← x.queryRows connection a
  let value ← Stage.ofExcept ((Sql.foldRows (.ofSql a.sql) rows).mapError .action)
  Stage.log s!"* Result: {value.text}"
  return (a, value)

/-- What the rows came to is stored, if the action names a key. -/
def keepValue (x : Executor) (ctx : StepContext) (a : DbAction) (value : Json) : Stage Json := do
  match a.storedKey with
  | none | some "" => return value
  | some key =>
    x.store ctx key value s!"Failed to store '{key}'"
    Stage.log s!"* Stored result as '{key}'"
    return value

theorem runDbAction_eq (x : Executor) (ctx : StepContext) (template : Json) :
    x.runDbAction ctx template =
      (x.resolve ctx template >>= x.foldStatement ctx) >>= fun p => x.keepValue ctx p.1 p.2 := by
  simp only [runDbAction, foldStatement, bind_assoc, pure_bind]
  rfl

theorem foldStatement_writes_nothing (x : Executor) (ctx : StepContext) (v : Json) :
    (x.foldStatement ctx v).Obeys (.calls (!·.isWrite)) := by
  refine obeys_bind (obeys_ofExcept_of_blind Law.blind_calls _) fun a => ?_
  refine obeys_bind (obeys_log _) fun _ => ?_
  refine obeys_bind (queryRows_calls x (P := fun c => !c.isWrite) (fun _ => rfl) rfl
    (fun _ => rfl) (fun _ _ _ => rfl) _ a) fun rows => ?_
  refine obeys_bind (obeys_ofExcept_of_blind Law.blind_calls _) fun value => ?_
  exact obeys_bind (obeys_log _) fun _ => obeys_pure _

theorem read_of_foldStatement {v : Json} {p : DbAction × Json}
    (h : (x.foldStatement ctx v).Runs log t (.ok p) log') : readDbAction v = .ok p.1 := by
  obtain ⟨e, -, he⟩ | ⟨t', t, a, log₁, rfl, hread, hrun⟩ := runs_bind.mp h
  · cases he
  obtain ⟨-, hread, -⟩ := runs_ofExcept.mp hread
  rw [runs_log_bind] at hrun
  obtain ⟨e, -, he⟩ | ⟨t₁, t, rows, log₂, rfl, -, hfold⟩ := runs_bind.mp hrun
  · cases he
  obtain ⟨e, -, he⟩ | ⟨t₁, t, value, log₃, rfl, -, hend⟩ := runs_bind.mp hfold
  · cases he
  obtain ⟨-, hp, -⟩ := runs_pure.mp (runs_log_bind (k := fun _ => pure (a, value)).mp hend)
  obtain rfl := Except.ok.inj hp
  exact hread.symm

theorem runs_keepValue (hstore : x.sources.store = .memory slot) {a : DbAction} {v : Json}
    {r : Except StepError Json} (h : (x.keepValue ctx a v).Runs log t r log') :
    r = .ok v ∧ t = (a.storedKey.filter (· ≠ "")).toList.map
      fun k => ⟨.write slot ctx.key (.merge k v), ()⟩ := by
  unfold keepValue at h
  split at h
  · rename_i hkey
    obtain ⟨rfl, rfl, -⟩ := runs_pure.mp h
    simp [hkey]
  · rename_i hkey
    obtain ⟨rfl, rfl, -⟩ := runs_pure.mp h
    simp [hkey]
  · rename_i key hempty hkey
    obtain ⟨e, hfail, -⟩ | ⟨t₁, t₂, u, log₁, rfl, hkept, hend⟩ := runs_bind.mp h
    · cases (runs_store_memory hstore hfail).2
    obtain ⟨rfl, -⟩ := runs_store_memory hstore hkept
    obtain ⟨rfl, rfl, -⟩ := runs_pure.mp (runs_log_bind (k := fun _ => pure v).mp hend)
    have hne : key ≠ "" := fun h => hempty (h ▸ rfl)
    simp [hkey, Option.filter, hne]

/-! ## Requests -/

/-- A filled template is read as a request, which is sent. -/
def answerRequest (x : Executor) (ctx : StepContext) (v : Json) : Stage Response := do
  let a ← Stage.ofExcept (readHttpAction v)
  let r := a.toRequest (← Stage.ofExcept (x.baseUrlOf ctx a))
  logRequest ctx a r
  x.sendRequest a r

theorem runHttpAction_eq (x : Executor) (ctx : StepContext) (template : Json) :
    x.runHttpAction ctx template =
      (x.resolve ctx template >>= x.answerRequest ctx) >>= x.keepResponse ctx := by
  simp only [runHttpAction, answerRequest, bind_assoc]
  rfl

theorem answerRequest_writes_nothing (x : Executor) (ctx : StepContext) (v : Json) :
    (x.answerRequest ctx v).Obeys (.calls (!·.isWrite)) := by
  refine obeys_bind (obeys_ofExcept_of_blind Law.blind_calls _) fun a => ?_
  refine obeys_bind (obeys_ofExcept_of_blind Law.blind_calls _) fun url => ?_
  refine obeys_bind (obeys_logRequest ctx a _) fun _ => ?_
  exact sendRequest_calls (P := fun c => !c.isWrite) rfl (fun _ => rfl) rfl (fun _ _ => rfl)
    (fun _ _ => rfl) a _

theorem runs_keepResponse (hstore : x.sources.store = .memory slot) {response : Response}
    {r : Except StepError Response} (h : (x.keepResponse ctx response).Runs log t r log') :
    r = .ok response ∧
      t = [⟨.write slot ctx.key (.merge (responseKey ctx) response.toTestData), ()⟩] := by
  rw [keepResponse, runs_log_bind, runs_log_bind] at h
  obtain ⟨e, hfail, -⟩ | ⟨t₁, t₂, u, log₁, rfl, hkept, hend⟩ := runs_bind.mp h
  · cases (runs_store_memory hstore hfail).2
  obtain ⟨rfl, -⟩ := runs_store_memory hstore hkept
  obtain ⟨rfl, rfl, -⟩ := runs_pure.mp hend
  exact ⟨rfl, List.append_nil _⟩

/-! ## Actions -/

/-- What fills a template and works on it without a write either fails there, or hands its result
over to what follows. -/
theorem meet_filled {α β : Type} {s : Json → Stage α} {k : α → Stage β}
    (hs : ∀ v, (s v).Obeys (.calls (!·.isWrite))) (x : Executor) (ctx : StepContext)
    (template : Json) (log : Log) (env : Surroundings) (past : Trace) :
    let run := (((x.resolve ctx template >>= s) >>= k).start log).meet env past
    (∃ e, run.2.1 = .error e ∧ ∀ c ∈ run.1, !c.1.isWrite) ∨
      ∃ v a before after, run.1 = before ++ after ∧ (∀ c ∈ before, !c.1.isWrite) ∧
        ((x.sources.resolve ctx .none template).meet env past).2 = .ok v ∧
        (∃ t log₁, (s v).Runs log t (.ok a) log₁) ∧
        ∃ log₁, (k a).Runs log₁ after run.2.1 run.2.2 := by
  intro run
  let filled := (x.sources.resolve ctx .none template).meet env past
  let worked v := ((s v).start log).meet env (past ++ filled.1)
  have hresolves : (x.resolve ctx template).Obeys (.calls (!·.isWrite)) :=
    writes_nothing_reading (x.sources.reading_resolve ctx .none template)
  have hfront := obeys_bind hresolves hs
    (Act.runs_meet env ((x.resolve ctx template >>= s).start log) past)
  obtain ⟨hrefused, hfilled⟩ := meet_stage_bind (x.resolve ctx template) s log env past
  rw [Executor.resolve, meet_ofAct] at hrefused hfilled
  obtain ⟨hfails, hgoes⟩ := meet_stage_bind (x.resolve ctx template >>= s) k log env past
  cases hfirst : (((x.resolve ctx template >>= s).start log).meet env past).2.1 with
  | error e =>
    have hrun : run = _ := hfails e hfirst
    rw [hrun]
    exact .inl ⟨e, rfl, hfront⟩
  | ok a =>
    have hrun : run = _ := hgoes a hfirst
    rw [hrun]
    cases hv : filled.2 with
    | error e => cases (congrArg (·.2.1) (hrefused e hv)).symm.trans hfirst
    | ok v =>
      have hresult : (worked v).2.1 = .ok a :=
        (congrArg (·.2.1) (hfilled v hv)).symm.trans hfirst
      have hworks : (s v).Runs log (worked v).1 (worked v).2.1 (worked v).2.2 :=
        Act.runs_meet env ((s v).start log) _
      rw [hresult] at hworks
      exact .inr ⟨v, a, _, _, rfl, hfront, rfl, ⟨_, _, hworks⟩, _, Act.runs_meet env _ _⟩

/-- The entry of the test data that a database action sets, if any. -/
def namedKey? (a : DbAction) : Option String := a.storedKey.filter (· ≠ "")

/-- What a database action that succeeds makes of the documents. -/
inductive DbKeeps (ctx : StepContext) (slot : Slot) (a : DbAction) (v : Json)
    (before after : Slot → Store) : Prop where
  | nothing (named : namedKey? a = none) (kept : after = before)
  | entry (key : String) (named : namedKey? a = some key)
      (sets : SetsEntry slot ctx.key key v before after)

theorem dbKeeps_of_runs (hstore : x.sources.store = .memory slot) {a : DbAction} {value v : Json}
    (h : (x.keepValue ctx a value).Runs log t (.ok v) log') :
    DbKeeps ctx slot a v stores (storesAfter stores t) := by
  obtain ⟨hv, htrace⟩ := runs_keepValue hstore h
  obtain rfl := Except.ok.inj hv
  change t = (namedKey? a).toList.map _ at htrace
  rw [htrace]
  cases hnamed : namedKey? a with
  | none => exact .nothing hnamed rfl
  | some key => exact .entry key hnamed (setsEntry_write slot ctx.key key v ())

end Executor

end CaseScript

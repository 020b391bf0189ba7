import CaseScript.Proofs.Retry.Deadline
import CaseScript.Proofs.Step.Order

/-!
# Proofs/Step/Deadline — a request within its deadline

The deadline of a request is measured from its first attempt and holds for the attempts and the
pauses between them.  If these would take longer, the action is out of time just at the deadline,
nothing is saved, and the instance with it; else the deadline makes no difference, and the response
is that of the attempts without one (`runHttpAction_inTime`).  Saving the response comes after: in
memory it takes no time, but a table takes as long as its statement (`pinging_table`).
-/

namespace CaseScript

/-! ## Stages in a world -/

namespace Stage

variable {α β : Type} {s : Stage α} {k : α → Stage β} {log log₁ : Log} {o : Outside} {w w₁ : World}

/-- A stage that succeeds hands over to the rest. -/
theorem run_ok_bind {a : α} (h : (s.start log).run o w = ((.ok a, log₁), w₁)) :
    ((s >>= k).start log).run o w = ((k a).start log₁).run o w₁ := by
  rw [start_bind, Act.run_bind, h]
  rfl

/-- Nothing follows a stage that fails. -/
theorem run_error_bind {e : StepError} (h : (s.start log).run o w = ((.error e, log₁), w₁)) :
    ((s >>= k).start log).run o w = ((.error e, log₁), w₁) := by
  rw [start_bind, Act.run_bind, h]
  rfl

theorem run_call (p : Act α) (log : Log) :
    ((Stage.call p).start log).run o w = ((.ok (p.run o w).1, log), (p.run o w).2) := by
  rw [start_call, Act.run_bind]
  rfl

theorem run_ofExcept (r : Except StepError α) (log : Log) :
    ((Stage.ofExcept r).start log).run o w = ((r, log), w) := by
  cases r <;> rfl

theorem run_ofAct (p : Act (Except StepError α)) (log : Log) :
    ((Stage.ofAct p).start log).run o w = (((p.run o w).1, log), (p.run o w).2) := by
  rw [Stage.ofAct, run_ok_bind (run_call p log)]
  cases (p.run o w).1 <;> rfl

end Stage

namespace Executor

open Stage

/-! ## Attempts and what they come to -/

/-- The attempts of a request, before a deadline if there is one. -/
def attempts (a : HttpAction) (r : Request) (deadline : Option Nat) :
    Act (Outcome (Except TransportError Response)) :=
  retry (.forHttp a.retry) deadline (Act.send r) TransportError.isRetryable
    fun response => (RetryPolicy.forHttp a.retry).acceptsBody response.body

/-- What attempts come to: a failure at last is a response too, unless they were cancelled or out of
time. -/
def responseOf (timeout : Nat) :
    Outcome (Except TransportError Response) → Except StepError Response
  | .done (.ok response) => .ok response
  | .done (.error .cancelled) | .cancelled => .error .cancelled
  | .done (.error e) => .ok e.toResponse
  | .expired => .error (.timeout (timeout / 1000))

/-- What is said if a response could not be saved. -/
def saveFault : String := "Failed to save response"

/-- What is done with a response: it is logged and saved. -/
def keepResponse (x : Executor) (ctx : StepContext) (response : Response) : Stage Response := do
  Stage.log s!"* StatusCode: {response.status}"
  Stage.log s!"* Response: {response.body}"
  x.store ctx (responseKey ctx) response.toTestData saveFault
  return response

/-- What an action gives whose response was saved with a result. -/
def savedAs (response : Response) : Except StoreError Unit → Except StepError Response
  | .ok () => .ok response
  | .error e => .error (.action s!"{saveFault}: {e.message}")

variable {x : Executor} {ctx : StepContext} {o : Outside} {w : World} {log : Log}

/-- The attempts end no later than their deadline, and are those without one until then. -/
theorem cutAt_attempts (a : HttpAction) (r : Request) (o : Outside) {w : World} {limit : Nat}
    (hbegins : w.clock ≤ limit) :
    CutAt limit ((attempts a r none).run o w) ((attempts a r (some limit)).run o w) :=
  heldTo_retry _ _ _ (Act.heldTo_send r true) o w hbegins

/-- Whatever attempts do, they do by their deadline. -/
theorem events_attempts (a : HttpAction) (r : Request) (o : Outside) {w : World} {limit : Nat}
    (hbegins : w.clock ≤ limit) :
    ∀ e ∈ ((attempts a r (some limit)).run o w).2.events, e ∈ w.events ∨ e.time ≤ limit := by
  have hcut := cutAt_attempts a r o hbegins
  have hsince : w.Since ((attempts a r (some limit)).run o w).2 := Act.since_run o _ w
  obtain ⟨-, later, hevents, htimes⟩ := hsince
  intro e he
  rw [hevents, List.mem_append] at he
  exact he.imp_right fun he => Nat.le_trans (htimes e he).2 hcut.clock_le

/-- Attempts change no document and run no statement. -/
theorem frame_attempts (a : HttpAction) (r : Request) (deadline : Option Nat) (o : Outside)
    (w : World) :
    let run := (attempts a r deadline).run o w
    run.2.stores = w.stores ∧ ∀ e ∈ run.2.events, e.query?.isSome → e ∈ w.events := by
  intro run
  have hsend : (Act.send r ⟨true, deadline⟩).Within
      (fun c => !c.isWrite ∧ ∀ q, c.kind? ≠ some (.queried q)) fun _ => True :=
    ⟨⟨rfl, nofun⟩, fun _ => trivial⟩
  have hwithin : (attempts a r deadline).Within
      (fun c => !c.isWrite ∧ ∀ q, c.kind? ≠ some (.queried q)) fun _ => True :=
    within_retryFrom (fun _ => ⟨rfl, nofun⟩) ⟨rfl, nofun⟩ ⟨rfl, nofun⟩ hsend _ _
  refine ⟨hwithin.stores_run fun _ hc => hc.1, fun e he hquery => ?_⟩
  obtain hbefore | ⟨c, ⟨-, hunasked⟩, hkind⟩ := hwithin.mem_events_run he
  · exact hbefore
  · obtain ⟨time, kind⟩ := e
    cases kind with
    | queried q => exact absurd hkind (hunasked q)
    | sent | attempted => cases hquery

/-- Saving sends nothing. -/
theorem sends_nothing_merge (h : StoreHandle) (key : CaseKey) (name : String) (value : Json)
    (o : Outside) (w : World) :
    ∀ e ∈ ((h.merge key name value).run o w).2.events, e.isSent → e ∈ w.events := by
  intro e he hsent
  obtain hbefore | ⟨c, ⟨hquiet, -⟩, hkind⟩ := (h.within_merge key name value).mem_events_run he
  · exact hbefore
  · obtain ⟨time, kind⟩ := e
    cases c with
    | send => cases hquiet
    | query | attempt => cases hkind; cases hsent
    | pause | isCancelled | now | read | write => cases hkind

/-- A request is sent as its attempts go, from when they begin. -/
theorem run_sendRequest (a : HttpAction) (r : Request) (log : Log) :
    let run := (attempts a r (some (w.clock + x.settings.requestTimeout))).run o w
    ((x.sendRequest a r).start log).run o w =
      ((responseOf x.settings.requestTimeout run.1, log), run.2) := by
  intro run
  have hnow : ((Stage.call Act.now).start log).run o w = ((.ok w.clock, log), w) := run_call _ _
  change ((Stage.call Act.now >>= _).start log).run o w = _
  rw [run_ok_bind hnow, run_ok_bind (run_call _ log)]
  change ((match run.1 with
    | .done (.ok response) => (pure response : Stage Response)
    | .done (.error .cancelled) | .cancelled => throw StepError.cancelled
    | .done (.error e) => pure e.toResponse
    | .expired => throw (StepError.timeout (x.settings.requestTimeout / 1000))).start log).run o
      run.2 = _
  match run.1 with
  | .done (.ok response) => rfl
  | .done (.error .cancelled) | .cancelled | .expired => rfl
  | .done (.error (.timeout _)) | .done (.error (.unresolvedHost _)) | .done (.error (.io _))
  | .done (.error (.other _)) => rfl

/-- Saving a response takes what its store takes. -/
theorem run_keepResponse (ctx : StepContext) (response : Response) (log : Log) :
    let saved := (x.sources.store.merge ctx.key (responseKey ctx) response.toTestData).run o w
    ∃ log', ((x.keepResponse ctx response).start log).run o w =
      ((savedAs response saved.1, log'), saved.2) := by
  intro saved
  have hlines : ∃ log', ∀ p : Stage Response,
      ((do
        Stage.log s!"* StatusCode: {response.status}"
        Stage.log s!"* Response: {response.body}"
        p).start log).run o w = (p.start log').run o w := ⟨_, fun _ => rfl⟩
  obtain ⟨log', hlines⟩ := hlines
  refine ⟨log', (hlines _).trans ?_⟩
  have hstore : ((x.store ctx (responseKey ctx) response.toTestData saveFault).start log').run o w =
      ((savedAs response saved.1 |>.map fun _ => (), log'), saved.2) := by
    refine (run_ok_bind (run_call _ log')).trans ?_
    change ((match saved.1 with
      | .ok () => (pure () : Stage Unit)
      | .error e => throw (StepError.action s!"{saveFault}: {e.message}")).start log').run o
        saved.2 = _
    match saved.1 with
    | .ok () => rfl
    | .error e => rfl
  match h : saved.1 with
  | .ok () =>
    rw [h] at hstore
    exact run_ok_bind hstore
  | .error e =>
    rw [h] at hstore
    exact run_error_bind hstore

/-! ## Actions -/

/-- The template of a request is resolved, from one world to another, to an action and a request. -/
structure Requested (x : Executor) (ctx : StepContext) (template : Json) (o : Outside)
    (w₀ : World) (a : HttpAction) (r : Request) (w : World) : Prop where
  resolved : ∃ v, (x.sources.resolve ctx .none template).run o w₀ = (.ok v, w) ∧
    readHttpAction v = .ok a
  addressed : ∃ url, x.baseUrlOf ctx a = .ok url ∧ r = a.toRequest url

/-- An action that comes to a request sends it and keeps the response. -/
theorem run_runHttpAction {template : Json} {w₀ : World} {a : HttpAction} {r : Request}
    (h : x.Requested ctx template o w₀ a r w) (log : Log) :
    ∃ log', ((x.runHttpAction ctx template).start log).run o w₀ =
      ((do
        let response ← x.sendRequest a r
        x.keepResponse ctx response : Stage Response).start log').run o w := by
  obtain ⟨v, hresolve, hread⟩ := h.resolved
  obtain ⟨url, haddress, rfl⟩ := h.addressed
  have hresolved : ((x.resolve ctx template).start log).run o w₀ = ((.ok v, log), w) := by
    rw [Executor.resolve, run_ofAct, hresolve]
  have hlines : ∃ log', ∀ p : Stage Response,
      ((do logRequest ctx a (a.toRequest url); p).start log).run o w = (p.start log').run o w :=
    ⟨_, fun _ => rfl⟩
  have hreads : ((Stage.ofExcept (readHttpAction v)).start log).run o w = ((.ok a, log), w) := by
    rw [run_ofExcept, hread]
  have haddresses : ((Stage.ofExcept (x.baseUrlOf ctx a)).start log).run o w =
      ((.ok url, log), w) := by
    rw [run_ofExcept, haddress]
  obtain ⟨log', hlines⟩ := hlines
  refine ⟨log', (run_ok_bind hresolved).trans ((run_ok_bind hreads).trans ?_)⟩
  exact (run_ok_bind haddresses).trans (hlines _)

/-- **An action whose attempts come to a response keeps it, and else it fails where they end.** -/
theorem run_runHttpAction_of_response {template : Json} {w₀ : World} {a : HttpAction} {r : Request}
    (h : x.Requested ctx template o w₀ a r w) (log : Log) :
    let sent := (attempts a r (some (w.clock + x.settings.requestTimeout))).run o w
    let run := ((x.runHttpAction ctx template).start log).run o w₀
    (∀ e, responseOf x.settings.requestTimeout sent.1 = .error e →
      run.1.1 = .error e ∧ run.2 = sent.2) ∧
    ∀ response, responseOf x.settings.requestTimeout sent.1 = .ok response →
      let saved := (x.sources.store.merge ctx.key (responseKey ctx) response.toTestData).run o sent.2
      run.1.1 = savedAs response saved.1 ∧ run.2 = saved.2 := by
  intro sent run
  obtain ⟨log', hrun⟩ := run_runHttpAction h log
  have hsent : ((x.sendRequest a r).start log').run o w =
      ((responseOf x.settings.requestTimeout sent.1, log'), sent.2) := run_sendRequest a r log'
  refine ⟨fun e he => ?_, fun response hresponse => ?_⟩
  · rw [he] at hsent
    have hend : run = ((.error e, log'), sent.2) := hrun.trans (run_error_bind hsent)
    exact ⟨congrArg (·.1.1) hend, congrArg (·.2) hend⟩
  · rw [hresponse] at hsent
    obtain ⟨log₁, hkept⟩ := run_keepResponse (x := x) (o := o) (w := sent.2) ctx response log'
    have hend := hrun.trans ((run_ok_bind hsent).trans hkept)
    exact ⟨congrArg (·.1.1) hend, congrArg (·.2) hend⟩

/-- What an action sends, its attempts send. -/
theorem sends_runHttpAction {template : Json} {w₀ : World} {a : HttpAction} {r : Request}
    (h : x.Requested ctx template o w₀ a r w) (log : Log) :
    let sent := (attempts a r (some (w.clock + x.settings.requestTimeout))).run o w
    let run := ((x.runHttpAction ctx template).start log).run o w₀
    ∀ e ∈ run.2.events, e.isSent → e ∈ sent.2.events := by
  intro sent run e he hsent
  obtain ⟨hfailed, hkept⟩ := run_runHttpAction_of_response h log
  cases hresponse : responseOf x.settings.requestTimeout sent.1 with
  | error fault =>
    rw [(hfailed fault hresponse).2] at he
    exact he
  | ok response =>
    rw [(hkept response hresponse).2] at he
    exact sends_nothing_merge _ _ _ _ o _ e he hsent

/-- In memory, an action ends with its attempts. -/
theorem clock_runHttpAction {template : Json} {w₀ : World} {a : HttpAction} {r : Request}
    (h : x.Requested ctx template o w₀ a r w) (log : Log) {slot : Nat}
    (hslot : x.sources.store = .memory slot) :
    (((x.runHttpAction ctx template).start log).run o w₀).2.clock =
      ((attempts a r (some (w.clock + x.settings.requestTimeout))).run o w).2.clock := by
  obtain ⟨hfailed, hkept⟩ := run_runHttpAction_of_response h log
  cases hresponse : responseOf x.settings.requestTimeout
      ((attempts a r (some (w.clock + x.settings.requestTimeout))).run o w).1 with
  | error fault => rw [(hfailed fault hresponse).2]
  | ok response =>
    rw [(hkept response hresponse).2, hslot]
    rfl

/-- An action whose attempts are out of time is so too, and ends there. -/
theorem run_runHttpAction_of_expired {template : Json} {w₀ : World} {a : HttpAction} {r : Request}
    (h : x.Requested ctx template o w₀ a r w) (log : Log) :
    let sent := (attempts a r (some (w.clock + x.settings.requestTimeout))).run o w
    sent.1 = .expired → ∃ log', ((x.runHttpAction ctx template).start log).run o w₀ =
      ((.error (.timeout (x.settings.requestTimeout / 1000)), log'), sent.2) := by
  intro sent hexpired
  have hresponse : responseOf x.settings.requestTimeout sent.1 =
      .error (.timeout (x.settings.requestTimeout / 1000)) := by
    rw [hexpired]
    rfl
  obtain ⟨hresult, hworld⟩ := (run_runHttpAction_of_response h log).1 _ hresponse
  exact ⟨_, Prod.ext (Prod.ext hresult rfl) hworld⟩

/-! ## Instances -/

/-- The parts before the test of an instance succeed, from one world to another. -/
structure Reaches (x : Executor) (ctx : StepContext) (o : Outside) (start : World) (log : Log)
    (w₀ : World) : Prop where
  parts : ∃ log₁ w₁ log₂ w₂,
    ((x.runPart ctx .beforeDependency).start [headerLine ctx]).run o start =
      ((.ok (), log₁), w₁) ∧
    ((x.runPart ctx .dependency).start log₁).run o w₁ = ((.ok (), log₂), w₂) ∧
    ((x.runPart ctx .beforeTest).start log₂).run o w₂ = ((.ok (), log), w₀)

theorem run_dependencyMet {gate : Gate} {groups : Option Json} {log' : Log} {w' : World}
    (h : ((x.runAssertions gate ctx groups).start log).run o w = ((.ok (), log'), w')) :
    ((x.dependencyMet gate ctx groups).start log).run o w = ((.ok true, log'), w') := by
  have houtcome : ((Stage.outcome (x.runAssertions gate ctx groups)).start log).run o w =
      ((.ok (.ok ()), log'), w') := by
    rw [start_outcome, Act.run_bind, h]
    rfl
  exact run_ok_bind houtcome

/-- **An instance whose test fails ends with the failure.** -/
theorem run_runInstance_of_test {start w₀ w' : World} {log' : Log} {e : StepError}
    (hreaches : x.Reaches ctx o start log w₀)
    (htest : ((x.runPart ctx .test).start log).run o w₀ = ((.error e, log'), w')) :
    (x.runInstance ctx).run o start =
      (.ofResult ctx (w'.clock - start.clock) log' (.error e), w') := by
  obtain ⟨log₁, w₁, log₂, w₂, hbefore, hdependency, hprepared⟩ := hreaches.parts
  have hmet := run_dependencyMet hdependency
  have hstages : ((x.runStages ctx).start [headerLine ctx]).run o start =
      ((.error e, log'), w') := by
    refine (run_ok_bind hbefore).trans ((run_ok_bind hmet).trans ?_)
    exact (run_ok_bind hprepared).trans (run_error_bind htest)
  change (((x.runStages ctx).start [headerLine ctx] >>= _).run o start) = _
  rw [Act.run_bind, hstages]
  rfl

/-- A test that is a request fails as its action. -/
theorem run_runTest {template : Json} {e : StepError} {log' : Log} {w' : World}
    (hkind : ActionKind.classify (ctx.definition.get? "test") = .ok (.http template))
    (h : ((x.runHttpAction ctx template).start log).run o w = ((.error e, log'), w')) :
    ((x.runPart ctx .test).start log).run o w = ((.error e, log'), w') := by
  have hkinds : ((Stage.ofExcept (ActionKind.classify (ctx.definition.get? "test"))).start log).run
      o w = ((.ok (.http template), log), w) := by
    rw [run_ofExcept, hkind]
  exact (run_ok_bind hkinds).trans (run_error_bind h)

/-- **The deadline of a request holds for its attempts.**  They end no later than it, and no request
is sent after it.  If the attempts without a deadline took longer, the action is out of time just at
the deadline with what had happened until then, nothing is saved, and an instance whose test it is
is out of time too.  Else they are the attempts that are made; the action fails if they were
cancelled, and otherwise saves its response — that of a failure, if the last attempt failed — and
ends when this is done or fails.  In memory that takes no time. -/
theorem runHttpAction_inTime {template : Json} {w₀ : World} {a : HttpAction} {r : Request}
    (h : x.Requested ctx template o w₀ a r w) (log : Log) :
    let limit := w.clock + x.settings.requestTimeout
    let free := (attempts a r none).run o w
    let timed := (attempts a r (some limit)).run o w
    let run := ((x.runHttpAction ctx template).start log).run o w₀
    timed.2.clock ≤ limit ∧
      (∀ e ∈ run.2.events, e.isSent → e ∈ w.events ∨ e.time ≤ limit) ∧
      (limit < free.2.clock →
        run.1.1 = .error (.timeout (x.settings.requestTimeout / 1000)) ∧ run.2.clock = limit ∧
        (∃ later, free.2.events = run.2.events ++ later ∧ ∀ e ∈ later, limit < e.time) ∧
        run.2.stores = w.stores ∧ (∀ e ∈ run.2.events, e.query?.isSome → e ∈ w.events) ∧
        ∀ start, x.Reaches ctx o start log w₀ →
          ActionKind.classify (ctx.definition.get? "test") = .ok (.http template) →
          ((x.runInstance ctx).run o start).1.status = .timeOut ∧
            ((x.runInstance ctx).run o start).2 = run.2) ∧
      (free.2.clock ≤ limit →
        timed = free ∧ free.1 ≠ .expired ∧
        (∀ e, responseOf x.settings.requestTimeout free.1 = .error e →
          run.1.1 = .error e ∧ run.2 = free.2) ∧
        ∀ response, responseOf x.settings.requestTimeout free.1 = .ok response →
          let saved :=
            (x.sources.store.merge ctx.key (responseKey ctx) response.toTestData).run o free.2
          run.1.1 = savedAs response saved.1 ∧ run.2 = saved.2) ∧
      (∀ slot, x.sources.store = .memory slot → run.2.clock ≤ limit) := by
  intro limit free timed run
  have hbegins : w.clock ≤ limit := Nat.le_add_right _ _
  have hcut : CutAt limit free timed := cutAt_attempts a r o hbegins
  refine ⟨hcut.clock_le, fun e he hsent => ?_, fun hlate => ?_, fun htime => ?_, ?_⟩
  · exact events_attempts a r o hbegins e (sends_runHttpAction h log e he hsent)
  · obtain ⟨hexpired, hends, hevents⟩ := hcut.of_lt hlate
    obtain ⟨log', hrun⟩ := run_runHttpAction_of_expired h log hexpired
    change run = ((_, log'), timed.2) at hrun
    obtain ⟨hstores, hqueries⟩ := frame_attempts a r (some limit) o w
    rw [hrun]
    refine ⟨rfl, hends, hevents, hstores, hqueries, fun start hreaches hkind => ?_⟩
    rw [run_runInstance_of_test hreaches (run_runTest hkind hrun)]
    exact ⟨rfl, rfl⟩
  · have hsame : timed = free := hcut.eq_of_le htime
    obtain ⟨hfailed, hkept⟩ := run_runHttpAction_of_response h log
    rw [← hsame]
    refine ⟨rfl, ?_, hfailed, hkept⟩
    rw [hsame]
    exact unexpired_retry _ _ _ (Act.unexpired_send r true) o w
  · intro slot hslot
    exact le_of_eq_of_le (clock_runHttpAction h log hslot) hcut.clock_le

/-! ## A slow service, and a slow table -/

/-- An executor whose requests may take a second. -/
def hasty (store : StoreHandle) : Executor := ⟨⟨store, .fixed ⟨[], [], []⟩⟩, ⟨1000, []⟩, none⟩

/-- The template of a request. -/
def pingTemplate : Json := .obj [("baseUrl", .str "http://h"), ("path", .str "/")]

/-- That request as an action. -/
def pingAction : HttpAction := ⟨none, some "http://h", "/", .get, .empty, none⟩

/-- An instance whose test is that request. -/
def pingContext : StepContext :=
  ⟨⟨"", ""⟩, "", "", [], [], 1, "", 1, .obj [("test", pingTemplate)]⟩

theorem requested_ping (store : StoreHandle) (o : Outside) (w : World) :
    (hasty store).Requested pingContext pingTemplate o w pingAction
      (pingAction.toRequest "http://h") w where
  resolved := ⟨pingTemplate, rfl, rfl⟩
  addressed := ⟨"http://h", rfl, rfl⟩

theorem reaches_ping (store : StoreHandle) (o : Outside) (w : World) :
    (hasty store).Reaches pingContext o w [headerLine pingContext] w := by
  have hrun : ∀ s : Stage Unit, s = pure () → (s.start [headerLine pingContext]).run o w =
      ((.ok (), [headerLine pingContext]), w) := by
    rintro _ rfl
    rfl
  exact ⟨_, w, _, w, hrun _ (runActions_none _ _ _), hrun _ (runAssertions_none _ _ _),
    hrun _ (runActions_none _ _ _)⟩

/-- A service whose requests fail after 700 milliseconds. -/
def slowService : Outside where
  send _ _ := ⟨false, 700, .error (.timeout "")⟩
  query _ _ := ⟨false, 0, .ok []⟩

/-- Two attempts of 700 milliseconds are cut after a second. -/
theorem slowService_timesOut :
    let run := ((hasty (.memory 0)).runInstance pingContext).run slowService .start
    run.1.status = .timeOut ∧ run.2.clock = 1000 ∧ run.2.stores = World.start.stores := by
  have hlate : 1000 < ((attempts pingAction (pingAction.toRequest "http://h") none).run slowService
      .start).2.clock := by
    decide +kernel
  obtain ⟨-, -, htimeout, -, -⟩ := runHttpAction_inTime
    (requested_ping (.memory 0) slowService .start) [headerLine pingContext]
  obtain ⟨-, hends, -, hstores, -, hinstance⟩ := htimeout hlate
  obtain ⟨hstatus, hworld⟩ := hinstance .start (reaches_ping _ _ _) rfl
  dsimp only
  rw [hworld]
  exact ⟨hstatus, hends, hstores⟩

/-- A service that answers at once, and a database that takes one turn. -/
def answeringBeside (turn : Turn (Except QueryError (List Row))) : Outside where
  send _ _ := ⟨false, 0, .ok ⟨200, [], ""⟩⟩
  query _ _ := turn

/-- The attempts of the request without a deadline. -/
def pings (turn : Turn (Except QueryError (List Row))) :
    Outcome (Except TransportError Response) × World :=
  (attempts pingAction (pingAction.toRequest "http://h") none).run (answeringBeside turn) .start

/-- The action of the request, whose response is saved in a table. -/
def pinging (turn : Turn (Except QueryError (List Row))) :
    (Except StepError Response × Log) × World :=
  (((hasty (.table "audit")).runHttpAction pingContext pingTemplate).start []).run
    (answeringBeside turn) .start

/-- A request is answered at once.  A table takes longer than a second to save the response, and the
action ends after its deadline; or the table refuses it, and the action fails. -/
theorem pinging_table :
    let slow : Turn (Except QueryError (List Row)) := ⟨false, 5000, .ok []⟩
    let down : Turn (Except QueryError (List Row)) := ⟨false, 0, .error (.query "down")⟩
    ((pings slow).2.clock = 0 ∧ (pinging slow).2.clock = 5000) ∧
      failure? (responseOf 1000 (pings down).1) = none ∧
      failure? (pinging down).1.1 =
        some (.action "Failed to save response: Query failed: down") := by
  decide +kernel

end Executor

end CaseScript

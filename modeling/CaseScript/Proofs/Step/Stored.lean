import CaseScript.Proofs.Act.World
import CaseScript.Proofs.Step.Order
import CaseScript.Proofs.Template.Fill
import CaseScript.Proofs.Text.Keyed
import CaseScript.Proofs.Text.Search
import CaseScript.Proofs.Text.Trim

/-!
# Proofs/Step/Stored — where the result of a statement is found again

A statement puts its result under the key that its definition names, as one entry of the document;
a placeholder asks for a trimmed name, which is a path into the document.  The two meet where the key
is trimmed and has no dot (`runDbAction_readBack`): to the entry of any other key its placeholder
does not lead (`rootOf_trimmed_eq_iff`, `calling_astray`).
-/

namespace CaseScript

open Executor Stage

/-! ## Documents and names -/

@[simp] theorem Store.change_self (s : Store) (key : CaseKey) (c : Change) :
    s.change key c key = c.apply (s key) := if_pos rfl

theorem cutRoot_fst (name : String) : (cutRoot name).1 = rootOf name := by
  rw [cutRoot, rootOf]
  cases Text.cutAt? '.' name.toList <;> rfl

theorem rootOf_isPrefix (name : String) : (rootOf name).toList <+: name.toList := by
  rw [rootOf]
  cases hcut : Text.cutAt? '.' name.toList with
  | none => exact List.prefix_rfl
  | some cut =>
    rw [Text.cutAt?_eq_some hcut, String.toList_ofList]
    exact List.prefix_append _ _

theorem rootOf_eq_self_iff {name : String} : rootOf name = name ↔ '.' ∉ name.toList := by
  rw [rootOf]
  by_cases hdot : '.' ∈ name.toList
  · obtain ⟨front, back, hcut, hfront⟩ := Text.exists_cutAt? hdot
    rw [hcut]
    refine ⟨fun hroot => ?_, fun hnone => absurd hdot hnone⟩
    rwa [← hroot, String.toList_ofList]
  · rw [Text.cutAt?_eq_none hdot]
    exact ⟨fun _ => hdot, fun _ => rfl⟩

/-- The name of a placeholder begins at the key that is written in it only if nothing is cut off. -/
theorem rootOf_trimmed_eq_iff {k : String} :
    rootOf (trimmed k) = k ↔ trimmed k = k ∧ '.' ∉ k.toList := by
  refine ⟨fun hroot => ?_, fun ⟨htight, hdot⟩ => ?_⟩
  · have hbegins := rootOf_isPrefix (trimmed k)
    rw [hroot] at hbegins
    have hshorter : (trimmed k).toList.length ≤ k.toList.length := by
      rw [trimmed, String.toList_ofList]
      exact Text.length_trim_le k.toList
    have htight : trimmed k = k := String.toList_inj.mp (hbegins.eq_of_length_le hshorter).symm
    rw [htight] at hroot
    exact ⟨htight, rootOf_eq_self_iff.mp hroot⟩
  · rw [htight, rootOf_eq_self_iff.mpr hdot]

/-- A key without a dot leads to its own entry. -/
theorem Store.valueAt?_insert_self {k : String} (hdot : '.' ∉ k.toList) (document : Entries)
    (v : Json) : Store.valueAt? (document.insert k v) k = some v := by
  have hcut : cutRoot k = (k, "") := by rw [cutRoot, Text.cutAt?_eq_none hdot]
  rw [Store.valueAt?, hcut]
  exact congrArg (Option.bind · _) (Keyed.get?_insert_self document k v)

/-- A name that begins at another key leads past the entry. -/
theorem Store.valueAt?_insert_of_ne {k name : String} (hroot : rootOf name ≠ k)
    (document : Entries) (v : Json) :
    Store.valueAt? (document.insert k v) name = Store.valueAt? document name := by
  rw [← cutRoot_fst] at hroot
  exact congrArg (Option.bind · _) (Keyed.get?_insert_of_ne document v hroot)

/-- The case has the name in no source but its test data. -/
def StepContext.LeavesToData (ctx : StepContext) (name : String) : Prop :=
  ∀ kind, ctx.kinds.get? name = some kind → kind = .data

theorem StepContext.leavesToData_of_none {ctx : StepContext} {name : String}
    (h : ctx.kinds.get? name = none) : ctx.LeavesToData name := by
  intro kind hkind
  rw [h] at hkind
  cases hkind

theorem sourceOf_eq_data {ctx : StepContext} {name : String} (hwhole : ctx.LeavesToData name)
    (hroot : ctx.LeavesToData (rootOf name)) : sourceOf ctx .none name = .data := by
  change ((ctx.kinds.get? name).or (ctx.kinds.get? (rootOf name))).getD .data = .data
  cases hkind : ctx.kinds.get? name with
  | some kind => exact hwhole kind hkind
  | none =>
    cases hkind : ctx.kinds.get? (rootOf name) with
    | some kind => exact hroot kind hkind
    | none => rfl

/-- A name of test data in memory is a path into the document. -/
theorem Sources.resolveName_memory {s : Sources} {ctx : StepContext} {slot : Slot} {name : String}
    (hstore : s.store = .memory slot) (hdata : sourceOf ctx .none name = .data) (o : Outside)
    (w : World) :
    (s.resolveName ctx .none name).run o w =
      (.ok ((Store.valueAt? (w.stores slot ctx.key) name).getD .null), w) := by
  rw [resolveName, hdata]
  change ((s.fetchData ctx name []) >>= _).run o w = _
  rw [fetchData, hstore]
  rfl

/-- A key that can be written in a placeholder, whose name a case leaves to its test data. -/
structure StepContext.DataKey (ctx : StepContext) (k : String) : Prop where
  nonempty : k ≠ ""
  inner : ∀ c ∈ k.toList, Template.isInner c
  whole : ctx.LeavesToData (trimmed k)
  root : ctx.LeavesToData (rootOf (trimmed k))

open Template in
/-- The placeholder of such a key asks for the trimmed key, unless nothing is left of it. -/
theorem StepContext.DataKey.placeholderNames {ctx : StepContext} {k : String} (h : ctx.DataKey k)
    (hname : trimmed k ≠ "") : placeholderNames (slotOf k.toList) = [trimmed k] := by
  rw [Template.placeholderNames, namesIn_slotOf h.inner hname]
  rfl

/-! ## Statements -/

namespace Executor

variable {x : Executor} {ctx : StepContext} {template : Json} {o : Outside} {w w' : World}
  {log log' : Log} {slot : Slot} {resolved : Json} {a : DbAction} {k : String} {v : Json}

theorem runs_store {key fault : String} {t : Trace}
    (h : (x.store ctx key v fault).Runs log t (.ok ()) log') :
    (x.sources.store.merge ctx.key key v).Runs t (.ok ()) := by
  obtain ⟨t₁, t₂, r, rfl, hmerge, hdone⟩ := runs_call_bind.mp h
  cases r with
  | ok u =>
    obtain ⟨rfl, -, -⟩ := runs_pure.mp hdone
    rwa [List.append_nil]
  | error e =>
    obtain ⟨-, hfailed, -⟩ := runs_throw.mp hdone
    cases hfailed

/-- A database action that succeeds was filled and read, its statement was run, and what the rows
came to was stored under its key. -/
theorem runs_runDbAction {t : Trace} (h : (x.runDbAction ctx template).Runs log t (.ok v) log') :
    ∃ resolved a t₁ t₂ t₃ log₁ log₂ rows, t = t₁ ++ (t₂ ++ t₃) ∧
      (x.sources.resolve ctx .none template).Runs t₁ (.ok resolved) ∧
      readDbAction resolved = .ok a ∧
      (x.queryRows (a.connectionName ctx.profile) a).Runs log₁ t₂ (.ok rows) log₂ ∧
      ∀ k, a.storedKey = some k → k ≠ "" →
        (x.sources.store.merge ctx.key k v).Runs t₃ (.ok ()) := by
  obtain ⟨e, -, he⟩ | ⟨t₁, t, resolved, log₁, rfl, hresolving, hfilled⟩ := runs_bind.mp h
  · cases he
  obtain ⟨hresolve, rfl⟩ := runs_ofAct.mp hresolving
  obtain ⟨e, -, he⟩ | ⟨t', t, a, log₂, rfl, hreading, hread⟩ := runs_bind.mp hfilled
  · cases he
  obtain ⟨rfl, haction, rfl⟩ := runs_ofExcept.mp hreading
  rw [runs_log_bind] at hread
  obtain ⟨e, -, he⟩ | ⟨t₂, t, rows, log₃, rfl, hrows, hrun⟩ := runs_bind.mp hread
  · cases he
  obtain ⟨e, -, he⟩ | ⟨t', t₃, value, log₄, rfl, hfold, hfolded⟩ := runs_bind.mp hrun
  · cases he
  obtain ⟨rfl, -, rfl⟩ := runs_ofExcept.mp hfold
  rw [runs_log_bind] at hfolded
  refine ⟨resolved, a, t₁, t₂, t₃, _, _, rows, by simp, hresolve, haction.symm, hrows, ?_⟩
  intro k hkey hne
  rw [hkey] at hfolded
  split at hfolded
  · rename_i hkey
    cases hkey
  · rename_i hkey
    exact absurd (Option.some.inj hkey) hne
  · rename_i hkey
    obtain rfl := Option.some.inj hkey
    obtain ⟨e, -, he⟩ | ⟨t₃, t, u, log₅, rfl, hstore, hstored⟩ := runs_bind.mp hfolded
    · cases he
    rw [runs_log_bind] at hstored
    obtain ⟨rfl, hv, -⟩ := runs_pure.mp hstored
    obtain rfl := Except.ok.inj hv
    rw [List.append_nil]
    exact runs_store hstore

theorem not_isWrite_of_reading {c : Call} (h : c.isReading) : !c.isWrite := by
  cases c with
  | write => cases h
  | _ => rfl

/-- **A database action changes one entry of one document**: the one it stores its result under. -/
theorem stores_runDbAction (hstore : x.sources.store = .memory slot)
    (hresolved : ((x.sources.resolve ctx .none template).run o w).1 = .ok resolved)
    (haction : readDbAction resolved = .ok a) (hkey : a.storedKey = some k) (hne : k ≠ "")
    (hrun : ((x.runDbAction ctx template).start log).run o w = ((.ok v, log'), w')) :
    w'.stores slot = (w.stores slot).change ctx.key (.merge k v) := by
  obtain ⟨t, hruns, htold, rfl⟩ := Act.run_eq_iff.mp hrun
  obtain ⟨resolved', a', t₁, t₂, t₃, log₁, log₂, rows, rfl, hresolve, haction', hrows, hmerge⟩ :=
    runs_runDbAction hruns
  rw [World.tells_append] at htold
  rw [Act.run_of_runs hresolve htold.1] at hresolved
  obtain rfl := Except.ok.inj hresolved
  obtain rfl := Except.ok.inj (haction'.symm.trans haction)
  have hreads : ∀ e ∈ t₁, !e.1.isWrite := fun e he => not_isWrite_of_reading
    ((hresolve.within (x.sources.reading_resolve ctx .none template)).1 e he)
  have hqueries : ∀ e ∈ t₂, !e.1.isWrite :=
    queryRows_calls x (P := fun c => !c.isWrite) (fun _ => rfl) rfl (fun _ => rfl)
      (fun _ _ _ => rfl) _ _ hrows
  have hwrites := hmerge k hkey hne
  rw [hstore] at hwrites
  obtain ⟨⟨⟩, t, rfl, hdone⟩ := Act.runs_call_bind.mp hwrites
  obtain ⟨rfl, -⟩ := Act.runs_pure.mp hdone
  rw [World.after_append, World.after_append, World.after_cons, World.after_nil]
  change (if slot = slot then _ else _) = _
  rw [if_pos rfl, World.stores_after hqueries, World.stores_after hreads]

/-- **What a statement stored can be read back** under a trimmed key without a dot.  The placeholder
of any other key has a name that begins elsewhere, and reads what it did before the statement. -/
theorem runDbAction_readBack (hstore : x.sources.store = .memory slot)
    (hresolved : ((x.sources.resolve ctx .none template).run o w).1 = .ok resolved)
    (haction : readDbAction resolved = .ok a) (hkey : a.storedKey = some k)
    (hdata : ctx.DataKey k)
    (hrun : ((x.runDbAction ctx template).start log).run o w = ((.ok v, log'), w')) :
    let name := trimmed k
    (name ≠ "" → Template.placeholderNames (Template.slotOf k.toList) = [name]) ∧
      (w'.stores slot ctx.key).get? k = some v ∧
      (name = k ∧ '.' ∉ k.toList →
        (x.sources.resolveName ctx .none name).run o w' = (.ok v, w')) ∧
      (name ≠ k ∨ '.' ∈ k.toList → ((x.sources.resolveName ctx .none name).run o w').1 =
        ((x.sources.resolveName ctx .none name).run o w).1) := by
  intro name
  have hread := Sources.resolveName_memory hstore (sourceOf_eq_data hdata.whole hdata.root) o
  have hdocument : w'.stores slot ctx.key = (w.stores slot ctx.key).insert k v := by
    rw [stores_runDbAction hstore hresolved haction hkey hdata.nonempty hrun, Store.change_self]
    rfl
  refine ⟨hdata.placeholderNames, ?_, fun ⟨htight, hdot⟩ => ?_, fun hastray => ?_⟩
  · rw [hdocument]
    exact Keyed.get?_insert_self _ k v
  · rw [hread, hdocument, show trimmed k = k from htight, Store.valueAt?_insert_self hdot]
    rfl
  · have hroot : rootOf name ≠ k := fun hroot => by
      obtain ⟨htight, hdot⟩ := rootOf_trimmed_eq_iff.mp hroot
      exact hastray.elim (absurd htight) (absurd · hdot)
    rw [hread, hread, hdocument, Store.valueAt?_insert_of_ne hroot]

/-! ## Keys that are found again, and keys that are not -/

/-- A call of a procedure whose result is stored under a key. -/
def callUnder (key : String) : Json := .obj [("sql", .str "call f()"), ("storedKey", .str key)]

/-- That call as an action. -/
def callAction (key : String) : DbAction := ⟨"call f()", none, some key, [], none⟩

theorem readDbAction_callUnder (key : String) :
    readDbAction (callUnder key) = .ok (callAction key) := by
  rfl

/-- A database that answers everything with one row. -/
def rowDatabase : Outside where
  send _ _ := ⟨false, 0, .error .cancelled⟩
  query _ _ := ⟨false, 0, .ok [[("done", .bool true)]]⟩

/-- What the rows of that database come to. -/
def doneRow : Json := .arr [.obj [("done", .bool true)]]

/-- Whether a result is the row of that database. -/
def isDone : Except StepError Json → Bool
  | .ok (.arr [.obj [(k, .bool b)]]) => k = "done" && b
  | _ => false

theorem eq_of_isDone {r : Except StepError Json} (h : isDone r) : r = .ok doneRow := by
  unfold isDone at h
  split at h
  · rename_i k b
    obtain ⟨hk, rfl⟩ := Bool.and_eq_true_iff.mp h
    obtain rfl := of_decide_eq_true hk
    rfl
  · cases h

/-- Test data in memory, and nothing configured. -/
def bareExecutor : Executor := ⟨⟨.memory 0, .fixed ⟨[], [], []⟩⟩, ⟨0, []⟩, none⟩

/-- A case that maps no name. -/
def bareContext : StepContext := ⟨⟨"", ""⟩, "", "", [], [], 1, "", 1, .null⟩

/-- The call, stored under a key, at the beginning of time. -/
def calling (key : String) : (Except StepError Json × Log) × World :=
  ((bareExecutor.runDbAction bareContext (callUnder key)).start []).run rowDatabase .start

theorem calling_of_isDone {key : String} (h : isDone (calling key).1.1) :
    ((bareExecutor.runDbAction bareContext (callUnder key)).start []).run rowDatabase .start =
      ((.ok doneRow, (calling key).1.2), (calling key).2) := by
  change calling key = _
  rw [← eq_of_isDone h]

/-- A case that maps no name leaves every key to its test data. -/
theorem bareContext_dataKey {key : String} (hne : key ≠ "")
    (hinner : ∀ c ∈ key.toList, Template.isInner c) : bareContext.DataKey key :=
  ⟨hne, hinner, StepContext.leavesToData_of_none rfl, StepContext.leavesToData_of_none rfl⟩

/-- The result of the call is found under a key without a dot. -/
theorem calling_orderId :
    let run := calling "orderId"
    run.1.1 = .ok doneRow ∧
      Template.placeholderNames (Template.slotOf "orderId".toList) = ["orderId"] ∧
      (bareExecutor.sources.resolveName bareContext .none "orderId").run rowDatabase run.2 =
        (.ok doneRow, run.2) := by
  have hdone : isDone (calling "orderId").1.1 := by decide +kernel
  have hresolved : ((bareExecutor.sources.resolve bareContext .none (callUnder "orderId")).run
      rowDatabase .start).1 = .ok (callUnder "orderId") := by cbv
  have hdata : bareContext.DataKey "orderId" :=
    bareContext_dataKey (by decide) (List.all_eq_true.mp (by cbv))
  have htight : trimmed "orderId" = "orderId" := by decide
  obtain ⟨hname, -, hread, -⟩ := runDbAction_readBack (x := bareExecutor) rfl hresolved
    (readDbAction_callUnder _) rfl hdata (calling_of_isDone hdone)
  rw [htight] at hname hread
  exact ⟨eq_of_isDone hdone, hname (by decide), hread ⟨rfl, by decide⟩⟩

/-- The result is stored under a key, and the placeholder of the key reads null. -/
def ReadsAstray (key : String) : Prop :=
  bareContext.DataKey key ∧ (calling key).1.1 = .ok doneRow ∧
    ((calling key).2.stores 0 bareContext.key).get? key = some doneRow ∧
    ((bareExecutor.sources.resolveName bareContext .none (trimmed key)).run rowDatabase
      (calling key).2).1 = .ok .null

theorem readsAstray {key : String} (hdata : bareContext.DataKey key)
    (hdone : isDone (calling key).1.1)
    (hresolved : ((bareExecutor.sources.resolve bareContext .none (callUnder key)).run
      rowDatabase .start).1 = .ok (callUnder key))
    (hroot : rootOf (trimmed key) ≠ key) : ReadsAstray key := by
  have hstored := stores_runDbAction (x := bareExecutor) rfl hresolved (readDbAction_callUnder _) rfl
    hdata.nonempty (calling_of_isDone hdone)
  have hdocument : (calling key).2.stores 0 bareContext.key = Keyed.insert key doneRow [] :=
    (congrFun hstored bareContext.key).trans (Store.change_self _ _ _)
  have hname := Sources.resolveName_memory (s := bareExecutor.sources) rfl
    (sourceOf_eq_data hdata.whole hdata.root) rowDatabase (calling key).2
  refine ⟨hdata, eq_of_isDone hdone, ?_, ?_⟩
  · rw [hdocument, Keyed.get?_insert_self]
  · rw [hname, hdocument, Store.valueAt?_insert_of_ne hroot]
    rfl

/-- A key with a dot and one with white space around it are those of entries that their placeholders
do not reach. -/
theorem calling_astray : ReadsAstray "a.b" ∧ ReadsAstray " k " := by
  have hdot : bareContext.DataKey "a.b" :=
    bareContext_dataKey (by decide) (List.all_eq_true.mp (by cbv))
  have hblank : bareContext.DataKey " k " :=
    bareContext_dataKey (by decide) (List.all_eq_true.mp (by cbv))
  exact ⟨readsAstray hdot (by decide +kernel) (by cbv) (by decide),
    readsAstray hblank (by decide +kernel) (by cbv) (by decide)⟩

end Executor

end CaseScript

import CaseScript.Proofs.Act.Trace
import CaseScript.Step.Executor

/-!
# Proofs/Source/Quiet — stores, catalogs and templates ask nothing that a cancellation can stop

A call is **quiet** if it reads or writes a document, or runs a query under no guard; if it does not
write it is a **reading** one.  Looking a name up, filling a template and expanding a loop make
reading calls only, and what they fail with is a fault of resolution: neither a cancellation nor a
deadline.
-/

namespace CaseScript

/-- A call that nothing ends early. -/
def Call.isQuiet : Call → Bool
  | .read .. | .write .. => true
  | .query _ g => !g.cancellable
  | _ => false

/-- A call that nothing ends early, and that changes no document. -/
def Call.isReading : Call → Bool
  | .read .. => true
  | .query _ g => !g.cancellable
  | _ => false

/-- Whether the call notes the status of a step. -/
def Call.isNote : Call → Bool
  | .write _ _ (.status ..) => true
  | .query q g => !g.cancellable && q.sql = StoreHandle.statusSql
  | _ => false

/-- A plain query is quiet, and notes nothing unless it is the one that does. -/
theorem Call.quiet_of_ne_statusSql {q : Query} (h : q.sql ≠ StoreHandle.statusSql) :
    (Call.query q .none).isQuiet ∧ !(Call.query q .none).isNote :=
  ⟨rfl, by simp [isNote, h]⟩

/-- A failure that is neither a cancellation nor a missed deadline. -/
def StepError.isPlain : StepError → Bool
  | timeout _ | cancelled => false
  | _ => true

/-- What an `Except` fails with, if it does. -/
def failure? {ε α : Type} : Except ε α → Option ε
  | .ok _ => none
  | .error e => some e

/-- What the result fails with, if it does, is plain. -/
def PlainFailure {α : Type} (r : Except StepError α) : Prop := ∀ e, r = .error e → e.isPlain

section PlainFailure

variable {α β : Type}

theorem plain_ok (a : α) : PlainFailure (.ok a : Except StepError α) := nofun

theorem plain_error {e : StepError} (h : e.isPlain) :
    PlainFailure (.error e : Except StepError α) := by
  intro e' he
  obtain rfl := Except.error.inj he
  exact h

theorem plain_bind {r : Except StepError α} {k : α → Except StepError β} (hr : PlainFailure r)
    (hk : ∀ a, PlainFailure (k a)) : PlainFailure (r >>= k) := by
  cases r with
  | ok a => exact hk a
  | error e => exact plain_error (hr e rfl)

theorem plain_mapM {f : α → Except StepError β} (hf : ∀ a, PlainFailure (f a)) :
    ∀ as : List α, PlainFailure (as.mapM f)
  | [] => plain_ok []
  | a :: as => by
    rw [List.mapM_cons]
    exact plain_bind (hf a) fun _ => plain_bind (plain_mapM hf as) fun _ => plain_ok _

theorem plain_mapError {ε : Type} {r : Except ε α} {f : ε → StepError}
    (hf : ∀ e, (f e).isPlain) : PlainFailure (r.mapError f) := by
  cases r with
  | ok a => exact plain_ok a
  | error e => exact plain_error (hf e)

end PlainFailure

/-- The program makes quiet calls only, notes no status, and fails only plainly. -/
def Act.Quiet {α : Type} (p : Act (Except StepError α)) : Prop :=
  p.Within (fun c => c.isQuiet ∧ !c.isNote) PlainFailure

/-- The program makes reading calls only, and fails only plainly. -/
def Act.Reading {α : Type} (p : Act (Except StepError α)) : Prop :=
  p.Within (·.isReading) PlainFailure

namespace Act

variable {α β : Type}

/-- What fails plainly may be followed by a program that passes its failures on. -/
theorem within_plain_bind {P : Call → Prop} {p : Act (Except StepError α)}
    {k : Except StepError α → Act (Except StepError β)} (hp : p.Within P PlainFailure)
    (herror : ∀ e, e.isPlain → (k (.error e)).Within P PlainFailure)
    (hok : ∀ a, (k (.ok a)).Within P PlainFailure) : (p >>= k).Within P PlainFailure := by
  refine within_bind hp fun r hr => ?_
  cases r with
  | ok a => exact hok a
  | error e => exact herror e (hr e rfl)

end Act

/-! ## Stores and catalogs -/

section

variable {P : Call → Prop} {connection sql : String} {params : List Json}
  (hquery : P (.query ⟨connection, sql, params⟩ .none))
include hquery

theorem within_plainQuery : (plainQuery connection sql params).Within P fun _ => True := by
  refine Act.within_bind (Q := fun _ => True) ⟨hquery, fun _ => trivial⟩ fun r _ => ?_
  cases r <;> trivial

theorem within_cellQuery : (cellQuery connection sql params).Within P fun _ => True := by
  refine Act.within_bind (within_plainQuery hquery) fun r _ => ?_
  cases r <;> trivial

theorem within_effectQuery : (effectQuery connection sql params).Within P fun _ => True := by
  refine Act.within_bind (within_plainQuery hquery) fun r _ => ?_
  cases r <;> trivial

end

/-! A catalog makes plain queries only, and a store besides reads and writes documents, whatever else
counts as a call of the kind.  None of these queries notes the status of a step. -/

section

variable {P : Call → Prop} (hread : ∀ slot key, P (.read slot key))
  (hquery : ∀ q : Query, q.sql ≠ StoreHandle.statusSql → P (.query q .none))

namespace StoreHandle

include hquery

include hread in
theorem within_part (h : StoreHandle) (key : CaseKey) (path : String) :
    (h.part key path).Within P fun _ => True := by
  cases h with
  | memory slot => exact ⟨hread slot key, fun _ => trivial⟩
  | table connection => exact within_cellQuery (hquery _ (show partSql ≠ statusSql by decide))

omit hquery in
theorem within_merge (h : StoreHandle) (key : CaseKey) (name : String) (value : Json) :
    (h.merge key name value).Within (fun c => c.isQuiet ∧ !c.isNote) fun _ => True := by
  cases h with
  | memory slot => exact ⟨⟨rfl, rfl⟩, fun _ => trivial⟩
  | table connection =>
    exact within_effectQuery (Call.quiet_of_ne_statusSql (show mergeSql ≠ statusSql by decide))

omit hquery in
theorem within_recordStatus (h : StoreHandle) (key : CaseKey) (step : Nat) (label : String) :
    (h.recordStatus key step label).Within (·.isQuiet) fun _ => True := by
  cases h with
  | memory slot => exact ⟨rfl, fun _ => trivial⟩
  | table connection => exact within_effectQuery rfl

end StoreHandle

namespace Catalog

include hquery

theorem within_scenarioColumn (c : Catalog) (ctx : StepContext) (column : String) :
    (c.scenarioColumn ctx column).Within P fun _ => True := by
  unfold scenarioColumn
  split
  · trivial
  · trivial
  · refine Act.within_bind (within_cellQuery (hquery _ (show scenarioSql ≠ StoreHandle.statusSql by decide))) fun r _ => ?_
    cases r <;> trivial

theorem within_file (c : Catalog) (name : String) : (c.file name).Within P fun _ => True := by
  cases c with
  | fixed c => trivial
  | tables connection config => exact within_cellQuery (hquery _ (show fileSql ≠ StoreHandle.statusSql by decide))

theorem within_profileVariable (c : Catalog) (profile name : String) :
    (c.profileVariable profile name).Within P fun _ => True := by
  cases c with
  | fixed c => trivial
  | tables connection config => exact within_cellQuery (hquery _ (show variableSql ≠ StoreHandle.statusSql by decide))

theorem within_lookup (c : Catalog) (ctx : StepContext) (kind : SourceKind) (key : String) :
    (c.lookup ctx kind key).Within P fun _ => True := by
  cases kind with
  | data => trivial
  | config => cases c <;> trivial
  | scenario => exact within_scenarioColumn hquery c ctx key
  | xml => exact within_file hquery c key
  | global => exact within_profileVariable hquery c _ key
  | component =>
    refine Act.within_bind (within_profileVariable hquery c _ key) fun r _ => ?_
    split
    · exact within_profileVariable hquery c _ key
    · trivial

end Catalog

/-! ## Names and templates -/

namespace Sources

include hquery

theorem within_fetchRoot (s : Sources) (ctx : StepContext) (kind : SourceKind)
    (root rest : String) : (s.fetchRoot ctx kind root rest).Within P fun _ => True := by
  refine Act.within_bind (s.catalog.within_lookup hquery ctx kind root) fun r _ => ?_
  cases r <;> trivial

theorem within_fetchNamed (s : Sources) (ctx : StepContext) (kind : SourceKind) (name : String) :
    (s.fetchNamed ctx kind name).Within P fun _ => True := by
  unfold fetchNamed
  split
  split
  · exact s.within_fetchRoot hquery ctx kind _ _
  · refine Act.within_bind (s.catalog.within_lookup hquery ctx kind name) fun r _ => ?_
    split
    · trivial
    · exact s.within_fetchRoot hquery ctx kind _ _
    · trivial

include hread

theorem within_fetchData (s : Sources) (ctx : StepContext) (name : String) (overlay : Entries) :
    (s.fetchData ctx name overlay).Within P fun _ => True := by
  unfold fetchData
  split
  split
  · trivial
  · refine Act.within_bind (s.store.within_part hread hquery ctx.key name) fun r _ => ?_
    cases r <;> trivial

theorem within_fetch (s : Sources) (ctx : StepContext) (kind : SourceKind) (name : String)
    (overlay : Entries) : (s.fetch ctx kind name overlay).Within P fun _ => True := by
  cases kind with
  | data => exact s.within_fetchData hread hquery ctx name overlay
  | _ => exact s.within_fetchNamed hquery ctx _ name

theorem within_resolveName (s : Sources) (ctx : StepContext) (scope : Scope) (name : String) :
    (s.resolveName ctx scope name).Within P PlainFailure := by
  refine Act.within_bind (s.within_fetch hread hquery ctx _ name _) fun r _ => ?_
  cases r with
  | ok v => exact plain_ok v
  | error e => exact plain_error rfl

theorem within_fetchAll (s : Sources) (ctx : StepContext) (scope : Scope) :
    ∀ names, (s.fetchAll ctx scope names).Within P PlainFailure
  | [] => plain_ok []
  | name :: names =>
    Act.within_plain_bind (s.within_resolveName hread hquery ctx scope name)
      (fun _ he => plain_error he) fun _ =>
        Act.within_plain_bind (within_fetchAll s ctx scope names) (fun _ he => plain_error he)
          fun _ => plain_ok _

theorem within_resolvePasses (s : Sources) (ctx : StepContext) (scope : Scope) :
    ∀ passes template, (s.resolvePasses ctx scope passes template).Within P PlainFailure
  | 0, template => plain_ok template
  | passes + 1, template => by
    unfold resolvePasses
    split
    · exact plain_ok template
    · exact Act.within_plain_bind (s.within_fetchAll hread hquery ctx scope _)
        (fun _ he => plain_error he) fun _ => within_resolvePasses s ctx scope passes _

theorem within_resolve (s : Sources) (ctx : StepContext) (scope : Scope) (template : Json) :
    (s.resolve ctx scope template).Within P PlainFailure :=
  s.within_resolvePasses hread hquery ctx scope _ template

omit hread hquery in
theorem plain_loopItems (expression : String) (v : Json) :
    PlainFailure (Template.loopItems expression v) := by
  unfold Template.loopItems
  split
  · exact plain_ok _
  · exact plain_error rfl
  · split <;> exact plain_error rfl
  · exact plain_error rfl

theorem within_expandLoop (s : Sources) (ctx : StepContext) (template : Json) (marker : String) :
    (s.expandLoop ctx template marker).Within P PlainFailure := by
  unfold expandLoop
  split
  · exact plain_ok _
  · exact plain_ok _
  · rename_i expression _
    dsimp only
    generalize Template.loopName _ = loop
    split
    · exact plain_error rfl
    · refine Act.within_plain_bind (s.within_resolve hread hquery ctx .none _)
        (fun _ he => plain_error he) fun v => ?_
      have hitems := plain_loopItems (trimmed expression) v
      dsimp only
      split
      · exact plain_error (hitems _ ‹_›)
      · exact plain_ok _
  · exact plain_error rfl

end Sources

end

namespace Sources

theorem reading_resolve (s : Sources) (ctx : StepContext) (scope : Scope) (template : Json) :
    (s.resolve ctx scope template).Reading :=
  s.within_resolve (fun _ _ => rfl) (fun _ _ => rfl) ctx scope template

theorem quiet_resolve (s : Sources) (ctx : StepContext) (scope : Scope) (template : Json) :
    (s.resolve ctx scope template).Quiet :=
  s.within_resolve (fun _ _ => ⟨rfl, rfl⟩) (fun _ => Call.quiet_of_ne_statusSql) ctx scope template

theorem quiet_expandLoop (s : Sources) (ctx : StepContext) (template : Json) (marker : String) :
    (s.expandLoop ctx template marker).Quiet :=
  s.within_expandLoop (fun _ _ => ⟨rfl, rfl⟩) (fun _ => Call.quiet_of_ne_statusSql) ctx template
    marker

end Sources

end CaseScript

import CaseScript.Proofs.Binary64.Order
import CaseScript.Proofs.Step.Logged
import CaseScript.Proofs.Text.Ranked

/-!
# Proofs/Step/Visits — groups of actions, one after another

Groups are visited by number (`sortedGroups_numbered`).  The number of a group is a double: numerals
that round to one double count as equal, and a negative zero goes before a positive one.  A group
that its gate leaves out adds one line to what the gate did; one that is entered waits and then does
its actions in order (`Executor.Visited`).  The first failure of a group that was entered is the last
thing that happens (`runActions_visited`).
-/

namespace CaseScript

/-! ## The order of groups -/

/-- The number of a group where nothing is rounded: a whole one below `2^53`, and zero for a group
without a number. -/
def exactNumber? (group : Json) : Option Int :=
  match group.get? "id" with
  | some (.num (.whole n)) => if n.natAbs < Nat.pow 2 53 then some n else none
  | id => if (id.bind Json.number?).isNone then some 0 else none

theorem groupNumber_of_exact {group : Json} {n : Int} (h : exactNumber? group = some n) :
    groupNumber group = .ofInt n ∧ n.natAbs < Nat.pow 2 53 := by
  unfold exactNumber? at h
  split at h
  · rename_i m hid
    obtain ⟨hsmall, h⟩ := Option.ite_none_right_eq_some.mp h
    obtain rfl := Option.some.inj h
    rw [groupNumber, hid]
    exact ⟨rfl, hsmall⟩
  · obtain ⟨hnone, h⟩ := Option.ite_none_right_eq_some.mp h
    obtain rfl := Option.some.inj h
    rw [groupNumber, Option.isNone_iff_eq_none.mp hnone]
    exact ⟨rfl, by decide⟩

/-- The second list has the groups of the first by ascending number. -/
structure Numbered (listed ordered : List Json) : Prop where
  /-- The places of the numbers decide, and groups at one place keep their order. -/
  byPlace : ByRank (fun group => (groupNumber group).place) listed ordered
  ascending : ordered.Pairwise fun a b => ¬(groupNumber b).lt (groupNumber a)
  /-- Where no number is rounded they ascend themselves, and equal ones are as they are listed. -/
  whole : ordered.Pairwise fun a b => ∀ m ∈ exactNumber? a, ∀ n ∈ exactNumber? b, m ≤ n
  whole_stable : ∀ n, ordered.filter (exactNumber? · = some n) =
    listed.filter (exactNumber? · = some n)

theorem groupBefore_eq (a b : Json) :
    groupBefore a b = decide ((groupNumber a).place ≤ (groupNumber b).place) := by
  rw [Bool.eq_iff_iff, groupBefore, Bool.not_eq_true', ← Bool.not_eq_true, Binary64.totalLt_iff,
    not_lt, decide_eq_true_eq]

theorem sortedGroups_numbered (groups : Option Json) :
    Numbered (entriesOf groups) (sortedGroups groups) := by
  let rank : Json → _ := fun group => (groupNumber group).place
  have hsorted : sortedGroups groups = (entriesOf groups).mergeSort fun a b => rank a ≤ rank b :=
    congrArg (fun le => (entriesOf groups).mergeSort le) (funext₂ groupBefore_eq)
  have hplace : ByRank rank (entriesOf groups) (sortedGroups groups) :=
    hsorted ▸ byRank_mergeSort rank _
  refine ⟨hplace, hplace.ascending.imp fun h hlt => ?_, hplace.ascending.imp fun h m hm n hn => ?_,
    fun n => ?_⟩
  · exact not_lt_of_ge h (Binary64.place_lt_of_lt hlt)
  · obtain ⟨hm, hmsmall⟩ := groupNumber_of_exact hm
    obtain ⟨hn, hnsmall⟩ := groupNumber_of_exact hn
    exact (Binary64.place_ofInt_le_iff hmsmall hnsmall).mp (hm ▸ hn ▸ h)
  · rw [hsorted]
    refine filter_mergeSort_rank rank (fun a b ha hb => le_of_eq ?_) _
    have ha := (groupNumber_of_exact (of_decide_eq_true ha)).1
    have hb := (groupNumber_of_exact (of_decide_eq_true hb)).1
    exact congrArg Binary64.place (ha.trans hb.symm)

/-- Two groups change places only if the second must be before the first. -/
theorem sortedGroups_pair (a b : Json) :
    sortedGroups (some (.arr [a, b])) = if groupBefore a b then [a, b] else [b, a] := by
  simp [sortedGroups, entriesOf, List.mergeSort, List.MergeSort.Internal.splitInTwo, List.merge]

/-! ## One after another, up to the first failure -/

/-- Something that was done: what it exchanged, how it went, and the log around it. -/
structure Visit (α : Type) where
  item : α
  before : Log
  trace : Trace
  result : Except StepError Unit
  after : Log

variable {α : Type} {Does Does' : α → Log → Trace → Except StepError Unit → Log → Prop}

/-- Of `items`, those of `visits` were done one after another, up to the first that failed. -/
structure Visits (Does : α → Log → Trace → Except StepError Unit → Log → Prop) (items : List α)
    (log : Log) (t : Trace) (r : Except StepError Unit) (log' : Log) (visits : List (Visit α)) :
    Prop where
  /-- What was done is a beginning of the list, each item once. -/
  begins : visits.map (·.item) <+: items
  made : ∀ v ∈ visits, Does v.item v.before v.trace v.result v.after
  /-- Each goes on with the log that the one before leaves. -/
  logs_eq : visits.map (·.before) ++ [log'] = log :: visits.map (·.after)
  trace_eq : t = visits.flatMap (·.trace)
  /-- Nothing is done after a failure. -/
  stops : ∀ v ∈ visits.dropLast, v.result = .ok ()
  result_eq : r = (visits.getLast?.map (·.result)).getD (.ok ())
  all : r = .ok () → visits.map (·.item) = items

namespace Visits

variable {items : List α} {log log' : Log} {t : Trace} {r : Except StepError Unit}
  {visits : List (Visit α)}

theorem nil (log : Log) : Visits Does [] log [] (.ok ()) log [] where
  begins := List.prefix_refl []
  made := nofun
  logs_eq := rfl
  trace_eq := rfl
  stops := nofun
  result_eq := rfl
  all _ := rfl

/-- A failure leaves all further items out. -/
theorem failure {a : α} {e : StepError} (hdone : Does a log t (.error e) log') :
    Visits Does (a :: items) log t (.error e) log' [⟨a, log, t, .error e, log'⟩] where
  begins := ⟨items, rfl⟩
  made := List.forall_mem_singleton.mpr hdone
  logs_eq := rfl
  trace_eq := (List.append_nil t).symm
  stops := nofun
  result_eq := rfl
  all := nofun

/-- An item that does not fail comes before the others. -/
theorem cons {a : α} {t₁ : Trace} {log₁ : Log} (hdone : Does a log t₁ (.ok ()) log₁)
    (h : Visits Does items log₁ t r log' visits) :
    Visits Does (a :: items) log (t₁ ++ t) r log' (⟨a, log, t₁, .ok (), log₁⟩ :: visits) where
  begins := (List.prefix_cons_inj a).mpr h.begins
  made := List.forall_mem_cons.mpr ⟨hdone, h.made⟩
  logs_eq := congrArg (log :: ·) h.logs_eq
  trace_eq := congrArg (t₁ ++ ·) h.trace_eq
  stops := by
    cases visits with
    | nil => exact nofun
    | cons v visits => exact List.forall_mem_cons.mpr ⟨rfl, h.stops⟩
  result_eq := by
    rw [List.getLast?_cons, h.result_eq]
    cases visits.getLast? <;> rfl
  all hr := congrArg (a :: ·) (h.all hr)

theorem imp (hdoes : ∀ {a log t r log'}, Does a log t r log' → Does' a log t r log')
    (h : Visits Does items log t r log' visits) : Visits Does' items log t r log' visits where
  __ := h
  made v hv := hdoes (h.made v hv)

/-- **Every run of stages in a row goes so**, by induction on the row. -/
theorem of_forM {does : α → Stage Unit} (h : (List.forM items does).Runs log t r log') :
    ∃ visits, Visits (fun a => (does a).Runs) items log t r log' visits := by
  induction items generalizing log t with
  | nil =>
    obtain ⟨rfl, rfl, rfl⟩ := Stage.runs_pure.mp h
    exact ⟨[], .nil log'⟩
  | cons a items ih =>
    obtain ⟨e, hfail, rfl⟩ | ⟨t₁, t₂, u, log₁, rfl, hdone, hrest⟩ := Stage.runs_bind.mp h
    · exact ⟨_, .failure hfail⟩
    · obtain ⟨visits, hvisits⟩ := ih hrest
      exact ⟨_, .cons hdone hvisits⟩

end Visits

/-! ## Groups of actions -/

/-- A part of the work of a group. -/
inductive Job where
  | wait (seconds : Binary64)
  | action (template : Json)

/-- The work of a group: a wait, if it has one, and its actions as they are listed. -/
def jobsOf (group : Json) : List Job :=
  (((group.get? "beforeWait").bind Json.number?).map Job.wait).toList ++
    (entriesOf (group.get? "execute")).map Job.action

namespace Executor

open Stage

variable (x : Executor) (gate : Gate) (ctx : StepContext)

/-- Does a part of the work of a group. -/
def runJob : Job → Stage Unit
  | .wait seconds => waitBefore seconds
  | .action template => do
    let _ ← x.runDbAction ctx template
    return ()

/-- Asks the gate of a group, and does its work if it is entered. -/
def visitGroup (group : Json) : Stage Unit := do
  if ← enters gate "action" ctx (groupLabel group) group then x.runActionGroup ctx group

theorem runDbActions_eq (templates : List Json) :
    x.runDbActions ctx templates = (templates.map Job.action).forM (x.runJob ctx) := by
  induction templates with
  | nil => rfl
  | cons template templates ih =>
    rw [runDbActions, ih]
    exact (bind_assoc (m := Stage) (x.runDbAction ctx template) (fun _ => pure ())
      fun _ => (templates.map Job.action).forM (x.runJob ctx)).symm

theorem runActionGroup_eq (group : Json) :
    x.runActionGroup ctx group = (jobsOf group).forM (x.runJob ctx) := by
  rw [runActionGroup, runDbActions_eq, jobsOf]
  cases (group.get? "beforeWait").bind Json.number? <;> rfl

theorem runSortedActions_eq (groups : List Json) :
    x.runSortedActions gate ctx groups = groups.forM (x.visitGroup gate ctx) := by
  induction groups with
  | nil => rfl
  | cons group groups ih =>
    have hrest : ∀ entered : Bool,
        (if entered then x.runActionGroup ctx group >>= fun _ => groups.forM (x.visitGroup gate ctx)
          else groups.forM (x.visitGroup gate ctx)) =
        (if entered then x.runActionGroup ctx group else pure ()) >>= fun _ =>
          groups.forM (x.visitGroup gate ctx) := by
      rintro (_ | _) <;> rfl
    rw [runSortedActions, ih, List.forM, visitGroup, bind_assoc]
    exact congrArg _ (funext hrest)

/-- What becomes of a group. -/
inductive Visited (group : Json) (log : Log) : Trace → Except StepError Unit → Log → Prop where
  /-- The gate does not open, and one line says so. -/
  | leftOut {t : Trace} {met : Except StepError Bool} {log' : Log}
      (asked : (gate ctx group).Runs log t met log') (closed : met ≠ .ok true) :
      Visited group log t (.ok ()) (log' ++ [skipLine "action" (groupLabel group) met])
  /-- The gate opens, and the group does its work up to the first failure, which is its own. -/
  | entered {t t' : Trace} {log₁ log' : Log} {r : Except StepError Unit} {jobs : List (Visit Job)}
      (asked : (gate ctx group).Runs log t (.ok true) log₁)
      (worked : Visits (fun job => (x.runJob ctx job).Runs) (jobsOf group) log₁ t' r log' jobs) :
      Visited group log (t ++ t') r log'

variable {x gate ctx}

theorem visited_of_runs {group : Json} {log log' : Log} {t : Trace} {r : Except StepError Unit}
    (h : (x.visitGroup gate ctx group).Runs log t r log') :
    x.Visited gate ctx group log t r log' := by
  obtain ⟨e, hfail, -⟩ | ⟨t₁, t₂, entered, log₁, rfl, hasked, hrest⟩ := runs_bind.mp h
  · obtain ⟨_, _, -, ⟨-, hr, -⟩ | ⟨-, hr, -⟩⟩ := runs_enters hfail <;> cases hr
  · obtain ⟨met, log₂, hgate, ⟨rfl, hr, rfl⟩ | ⟨hclosed, hr, rfl⟩⟩ := runs_enters hasked
    · obtain rfl := Except.ok.inj hr
      rw [if_pos rfl, runActionGroup_eq] at hrest
      obtain ⟨jobs, hjobs⟩ := Visits.of_forM hrest
      exact .entered hgate hjobs
    · obtain rfl := Except.ok.inj hr
      obtain ⟨rfl, rfl, rfl⟩ := runs_pure.mp hrest
      rw [List.append_nil]
      exact .leftOut hgate hclosed

/-- **Groups of actions run by number, and stop at the first failure.**  In all surroundings the
groups are visited in their order, each once; a group whose gate does not open adds one line to what
the gate did, and the others still run; the first failure in a group that was entered is that of the
whole, and nothing comes after it. -/
theorem runActions_visited (x : Executor) (gate : Gate) (ctx : StepContext) (groups : Option Json)
    (log : Log) (env : Surroundings) (past : Trace) :
    let run := ((x.runActions gate ctx groups).start log).meet env past
    Numbered (entriesOf groups) (sortedGroups groups) ∧
      ∃ visits, Visits (x.Visited gate ctx) (sortedGroups groups) log run.1 run.2.1 run.2.2
        visits := by
  intro run
  have hrun : (x.runActions gate ctx groups).Runs log run.1 run.2.1 run.2.2 :=
    Act.runs_meet env _ past
  rw [runActions, runSortedActions_eq] at hrun
  obtain ⟨visits, hvisits⟩ := Visits.of_forM hrun
  exact ⟨sortedGroups_numbered groups, visits, hvisits.imp visited_of_runs⟩

/-- A negative zero goes before a positive one that is listed first, and numbers that round to one
double are left as they are listed. -/
theorem runActions_rounded :
    let x : Executor := ⟨⟨.memory 0, .tables "" []⟩, ⟨0, []⟩, none⟩
    let ctx : StepContext := ⟨⟨"", ""⟩, "", "", [], [], 0, "", 1, .null⟩
    let group (n : Number) (sql : String) : Json :=
      .obj [("execute", .obj [("sql", .str sql)]), ("id", .num n)]
    let asked (groups : List Json) : List String :=
      let run := ((x.runActions x.nestedGate ctx (some (.arr groups))).start []).meet
        emptySurroundings []
      (statements run.1).map (·.sql)
    (Binary64.eq .zero (.neg .zero) = true ∧
      asked [group (.real .zero) "first", group (.real (.neg .zero)) "second"] =
        ["second", "first"]) ∧
    (9007199254740992 < 9007199254740993 ∧
      asked [group (.whole 9007199254740993) "first", group (.whole 9007199254740992) "second"] =
        ["first", "second"]) := by
  simp only [runActions, sortedGroups_pair]
  decide +kernel

end Executor

end CaseScript

import CaseScript.Proofs.Step.Outcomes
import CaseScript.Proofs.Step.Visits

/-!
# Proofs/Step/Marks — accounts of runs, line by line

An **account** of a run is a list of **marks**: what a gate wrote, a line that an action left, an
assertion in its turn, or a failure of anything else.  The marks, replayed, give the result of the
run and all that it added to the log (`Settled`), so an account tells which lines are whose.
Accounts of parts come together as the parts do: one after another (`Account.tells_bind`), in a row
up to the first failure (`Account.tells_row`), behind a gate (`Account.tells_behind`).
-/

namespace CaseScript

/-! ## Assertions in a list -/

namespace AssertionItem

/-- Whether an assertion holds. -/
def holds (a : AssertionItem) : Bool := (validate a.key a.value a.condition).passed

/-- What an assertion reports that does not hold. -/
def block (a : AssertionItem) : String :=
  a.failureBlock (validate a.key a.value a.condition).reason

/-- What begins the line of an assertion that holds. -/
def successBanner : String := "Success: Assertion passed for '"

/-- Whether a line is that of an assertion that holds. -/
def isSuccessLine (line : String) : Bool := successBanner.toList.isPrefixOf line.toList

/-- How a list of assertions goes: as the first that does not hold, if there is one. -/
def firstFailure (items : List AssertionItem) : Except StepError Unit :=
  match items.find? (!·.holds) with
  | none => .ok ()
  | some a => .error (.assertion a.block)

/-- What a list of assertions logs: a line for each before the first that does not hold. -/
def successes (items : List AssertionItem) : Log :=
  (items.takeWhile (·.holds)).map (·.successLine)

variable {a : AssertionItem} {items : List AssertionItem}

theorem check_of_holds (h : a.holds) : a.check = .ok a.successLine := if_pos h

theorem check_of_not_holds (h : ¬a.holds) : a.check = .error (.assertion a.block) := if_neg h

theorem isSuccessLine_successLine (a : AssertionItem) : isSuccessLine a.successLine := by
  have hparts : a.successLine = successBanner ++ (a.describe ++ "'") := String.append_assoc
  rw [isSuccessLine, List.isPrefixOf_iff_prefix, hparts, String.toList_append]
  exact List.prefix_append _ _

/-- A line that begins in another way is not that of an assertion. -/
theorem not_isSuccessLine_append {first rest : String}
    (hother : ¬first.toList <+: successBanner.toList)
    (hshort : first.toList.length ≤ successBanner.toList.length) :
    ¬isSuccessLine (first ++ rest) := by
  intro hsuccess
  have hfirst : first.toList <+: (first ++ rest).toList := by
    rw [String.toList_append]
    exact List.prefix_append _ _
  exact hother (List.prefix_of_prefix_length_le hfirst
    (List.isPrefixOf_iff_prefix.mp hsuccess) hshort)

theorem firstFailure_cons_of_holds (h : a.holds) :
    firstFailure (a :: items) = firstFailure items := by
  rw [firstFailure, List.find?_cons_of_neg (by simpa using h)]
  rfl

theorem firstFailure_cons_of_not_holds (h : ¬a.holds) :
    firstFailure (a :: items) = .error (.assertion a.block) := by
  rw [firstFailure, List.find?_cons_of_pos (by simpa using h)]

theorem successes_cons_of_holds (h : a.holds) :
    successes (a :: items) = a.successLine :: successes items := by
  rw [successes, List.takeWhile_cons_of_pos h]
  rfl

theorem successes_cons_of_not_holds (h : ¬a.holds) : successes (a :: items) = [] := by
  rw [successes, List.takeWhile_cons_of_neg h]
  rfl

theorem firstFailure_eq_ok_iff : firstFailure items = .ok () ↔ ∀ a ∈ items, a.holds := by
  induction items with
  | nil => exact iff_of_true rfl (List.forall_mem_nil _)
  | cons a items ih =>
    rw [List.forall_mem_cons]
    by_cases h : a.holds
    · rw [firstFailure_cons_of_holds h, ih, and_iff_right h]
    · rw [firstFailure_cons_of_not_holds h]
      exact iff_of_false nofun fun hall => h hall.1

end AssertionItem

open AssertionItem Executor Stage

/-! ## Marks -/

/-- What a part of a run leaves to tell of it. -/
inductive Mark where
  /-- What a gate wrote. -/
  | gate (lines : Log)
  /-- A line that is neither a gate's nor an assertion's. -/
  | line (s : String)
  /-- An assertion in its turn. -/
  | check (a : AssertionItem)
  /-- A failure of anything but an assertion. -/
  | fault (e : StepError)

namespace Mark

/-- The lines of a mark, unless it ends the run. -/
def result : Mark → Except StepError Log
  | gate lines => .ok lines
  | line s => .ok [s]
  | check a => a.check.map ([·])
  | fault e => .error e

/-- Whether a mark tells what a gate wrote. -/
def isGate : Mark → Bool
  | gate _ => true
  | _ => false

/-- The assertion of a mark. -/
def item? : Mark → Option AssertionItem
  | check a => some a
  | _ => none

end Mark

/-- The marks one after another, up to the first that ends the run: its result, and what it adds to
the log. -/
def replay : List Mark → Except StepError Unit × Log
  | [] => (.ok (), [])
  | m :: marks =>
    match m.result with
    | .ok lines => ((replay marks).1, lines ++ (replay marks).2)
    | .error e => (.error e, [])

/-- The assertions of an account. -/
def checksOf (marks : List Mark) : List AssertionItem := marks.filterMap Mark.item?

variable {marks marks' : List Mark}

/-- What goes well is followed by the rest. -/
theorem replay_append (h : (replay marks).1 = .ok ()) :
    replay (marks ++ marks') = ((replay marks').1, (replay marks).2 ++ (replay marks').2) := by
  induction marks with
  | nil => rfl
  | cons m marks ih =>
    rw [List.cons_append, replay, replay]
    rw [replay] at h
    cases hm : m.result with
    | error e =>
      rw [hm] at h
      cases h
    | ok lines =>
      rw [hm] at h
      simp only [ih h, List.append_assoc]

theorem replay_lines (lines : Log) : replay (lines.map .line) = (.ok (), lines) := by
  induction lines with
  | nil => rfl
  | cons s lines ih =>
    rw [List.map_cons, replay, ih]
    rfl

theorem replay_check_of_holds {a : AssertionItem} (h : a.holds) :
    replay (.check a :: marks) = ((replay marks).1, a.successLine :: (replay marks).2) := by
  rw [replay, Mark.result, check_of_holds h]
  rfl

theorem replay_check_of_not_holds {a : AssertionItem} (h : ¬a.holds) :
    replay (.check a :: marks) = (.error (.assertion a.block), []) := by
  rw [replay, Mark.result, check_of_not_holds h]
  rfl

theorem replay_checks (items : List AssertionItem) :
    replay (items.map .check) = (firstFailure items, successes items) := by
  induction items with
  | nil => rfl
  | cons a items ih =>
    rw [List.map_cons]
    by_cases h : a.holds
    · rw [replay_check_of_holds h, ih, firstFailure_cons_of_holds h, successes_cons_of_holds h]
    · rw [replay_check_of_not_holds h, firstFailure_cons_of_not_holds h,
        successes_cons_of_not_holds h]

/-- **Without a failure of anything else, an account goes as its assertions do**, and the lines of
those that hold are all that is in it besides what gates wrote. -/
theorem replay_of_checks (hplain : ∀ s, .line s ∈ marks → ¬isSuccessLine s)
    (hfault : ∀ e, .fault e ∉ marks) :
    (replay marks).1 = firstFailure (checksOf marks) ∧
      (replay (marks.filter (!·.isGate))).2.filter isSuccessLine = successes (checksOf marks) := by
  induction marks with
  | nil => exact ⟨rfl, rfl⟩
  | cons m marks ih =>
    obtain ⟨hresult, hlines⟩ := ih (fun s hs => hplain s (List.mem_cons_of_mem m hs))
      fun e he => hfault e (List.mem_cons_of_mem m he)
    cases m with
    | gate lines => exact ⟨hresult, hlines⟩
    | line s =>
      refine ⟨hresult, ?_⟩
      change (s :: (replay (marks.filter (!·.isGate))).2).filter isSuccessLine = _
      rw [List.filter_cons_of_neg (hplain s List.mem_cons_self), hlines]
      rfl
    | check a =>
      have hchecks : checksOf (.check a :: marks) = a :: checksOf marks := rfl
      have hothers : (Mark.check a :: marks).filter (!·.isGate) =
          .check a :: marks.filter (!·.isGate) := rfl
      rw [hchecks, hothers]
      by_cases h : a.holds
      · rw [replay_check_of_holds h, replay_check_of_holds h, firstFailure_cons_of_holds h,
          successes_cons_of_holds h, ← hlines]
        exact ⟨hresult, List.filter_cons_of_pos (isSuccessLine_successLine a)⟩
      · rw [replay_check_of_not_holds h, replay_check_of_not_holds h,
          firstFailure_cons_of_not_holds h, successes_cons_of_not_holds h]
        exact ⟨rfl, rfl⟩
    | fault e => exact absurd List.mem_cons_self (hfault e)

/-! ## What a stage adds to the log -/

namespace Stage

variable {α β : Type} {P : String → Prop}

/-- All that the stage adds to the log is of a kind. -/
def LogsOnly (s : Stage α) (P : String → Prop) : Prop :=
  ∀ ⦃log t r log'⦄, s.Runs log t r log' → ∃ lines, log' = log ++ lines ∧ ∀ l ∈ lines, P l

theorem LogsOnly.imp {Q : String → Prop} {s : Stage α} (h : s.LogsOnly P)
    (hPQ : ∀ l, P l → Q l) : s.LogsOnly Q := by
  intro log t r log' hr
  obtain ⟨lines, hlog, hlines⟩ := h hr
  exact ⟨lines, hlog, fun l hl => hPQ l (hlines l hl)⟩

/-- What leaves the log as it was. -/
theorem logsOnly_of_eq {s : Stage α} (h : ∀ {log t r log'}, s.Runs log t r log' → log' = log) :
    s.LogsOnly P := fun log _ _ _ hr =>
  ⟨[], (h hr).trans (List.append_nil log).symm, List.forall_mem_nil _⟩

theorem logsOnly_pure (a : α) : (pure a : Stage α).LogsOnly P :=
  logsOnly_of_eq fun h => (runs_pure.mp h).2.2

theorem logsOnly_throw (e : StepError) : (throw e : Stage α).LogsOnly P :=
  logsOnly_of_eq fun h => (runs_throw.mp h).2.2

theorem logsOnly_ofExcept (r : Except StepError α) : (Stage.ofExcept r).LogsOnly P :=
  logsOnly_of_eq fun h => (runs_ofExcept.mp h).2.2

theorem logsOnly_ofAct (p : Act (Except StepError α)) : (Stage.ofAct p).LogsOnly P :=
  logsOnly_of_eq fun h => (runs_ofAct.mp h).2

theorem logsOnly_call (p : Act α) : (Stage.call p).LogsOnly P := logsOnly_of_eq fun h => by
  obtain ⟨a, -, -, hlog⟩ := runs_call.mp h
  exact hlog

theorem logsOnly_log {line : String} (h : P line) : (Stage.log line).LogsOnly P := by
  intro log t r log' hr
  exact ⟨[line], (runs_log.mp hr).2.2, List.forall_mem_singleton.mpr h⟩

theorem logsOnly_bind {s : Stage α} {k : α → Stage β} (hs : s.LogsOnly P)
    (hk : ∀ a, (k a).LogsOnly P) : (s >>= k).LogsOnly P := by
  intro log t r log' h
  obtain ⟨e, hfail, -⟩ | ⟨t₁, t₂, a, log₁, rfl, h₁, h₂⟩ := runs_bind.mp h
  · exact hs hfail
  · obtain ⟨lines, rfl, hlines⟩ := hs h₁
    obtain ⟨lines', rfl, hlines'⟩ := hk a h₂
    exact ⟨lines ++ lines', List.append_assoc .., List.forall_mem_append.mpr ⟨hlines, hlines'⟩⟩

end Stage

/-! ## Accounts -/

/-- Which marks a run can have. -/
abbrev Account := Log → Trace → Except StepError Unit → Log → List Mark → Prop

/-- The marks, replayed, are the run: they give its result and what it added to the log. -/
structure Settled (log : Log) (r : Except StepError Unit) (log' : Log) (marks : List Mark) :
    Prop where
  result_eq : r = (replay marks).1
  log_eq : log' = log ++ (replay marks).2
  /-- No line of an assertion is passed off as another's. -/
  plain : ∀ s, .line s ∈ marks → ¬isSuccessLine s
  /-- What fails besides an assertion is what the run fails with. -/
  fault_eq : ∀ e, .fault e ∈ marks → r = .error e

namespace Settled

variable {log log₁ log' : Log} {r : Except StepError Unit}

theorem nil (log : Log) : Settled log (.ok ()) log [] where
  result_eq := rfl
  log_eq := (List.append_nil log).symm
  plain _ h := absurd h List.not_mem_nil
  fault_eq _ h := absurd h List.not_mem_nil

/-- What goes on after a part that went well. -/
theorem append (h : Settled log (.ok ()) log₁ marks) (h' : Settled log₁ r log' marks') :
    Settled log r log' (marks ++ marks') := by
  have hreplay : replay (marks ++ marks') = _ := replay_append h.result_eq.symm
  refine ⟨?_, ?_, fun s hs => ?_, fun e he => ?_⟩
  · rw [hreplay, h'.result_eq]
  · rw [hreplay, h'.log_eq, h.log_eq, List.append_assoc]
  · exact (List.mem_append.mp hs).elim (h.plain s) (h'.plain s)
  · obtain he | he := List.mem_append.mp he
    · cases h.fault_eq e he
    · exact h'.fault_eq e he

theorem gate (log lines : Log) : Settled log (.ok ()) (log ++ lines) [.gate lines] where
  result_eq := rfl
  log_eq := congrArg (log ++ ·) (List.append_nil lines).symm
  plain s hs := by simp at hs
  fault_eq e he := by simp at he

theorem lines (log : Log) {lines : Log} (h : ∀ s ∈ lines, ¬isSuccessLine s) :
    Settled log (.ok ()) (log ++ lines) (lines.map .line) where
  result_eq := by rw [replay_lines]
  log_eq := by rw [replay_lines]
  plain s hs := by
    obtain ⟨s', hs', hline⟩ := List.mem_map.mp hs
    exact h s (Mark.line.inj hline ▸ hs')
  fault_eq e he := by simp at he

theorem fault (log : Log) (e : StepError) : Settled log (.error e) log [.fault e] where
  result_eq := rfl
  log_eq := (List.append_nil log).symm
  plain s hs := by simp at hs
  fault_eq e' he := by rw [Mark.fault.inj (List.mem_singleton.mp he)]

theorem checks (log : Log) (items : List AssertionItem) :
    Settled log (firstFailure items) (log ++ successes items) (items.map .check) where
  result_eq := by rw [replay_checks]
  log_eq := by rw [replay_checks]
  plain s hs := by simp at hs
  fault_eq e he := by simp at he

end Settled

namespace Account

/-- Every run of the stage has an account of the kind, which settles it. -/
def Tells (p : Account) (s : Stage Unit) : Prop :=
  ∀ ⦃log t r log'⦄, s.Runs log t r log' →
    ∃ marks, p log t r log' marks ∧ Settled log r log' marks

/-- One part after another, unless the first fails. -/
inductive AndThen (p q : Account) : Account
  | failed {log t e log' marks} : p log t (.error e) log' marks →
      AndThen p q log t (.error e) log' marks
  | went {log t₁ log₁ marks₁ t₂ r log' marks₂} : p log t₁ (.ok ()) log₁ marks₁ →
      q log₁ t₂ r log' marks₂ → AndThen p q log (t₁ ++ t₂) r log' (marks₁ ++ marks₂)

/-- Items one after another, up to the first that fails. -/
inductive Row {α : Type} (p : α → Account) : List α → Account
  | done {log} : Row p [] log [] (.ok ()) log []
  | failed {a items log t e log' marks} : p a log t (.error e) log' marks →
      Row p (a :: items) log t (.error e) log' marks
  | went {a items log t₁ log₁ marks₁ t₂ r log' marks₂} : p a log t₁ (.ok ()) log₁ marks₁ →
      Row p items log₁ t₂ r log' marks₂ →
      Row p (a :: items) log (t₁ ++ t₂) r log' (marks₁ ++ marks₂)

/-- A stage whose lines are no gate's, nor an assertion's. -/
inductive Plainly (s : Stage Unit) : Account
  | went {log t lines} : s.Runs log t (.ok ()) (log ++ lines) →
      Plainly s log t (.ok ()) (log ++ lines) (lines.map .line)
  | failed {log t e lines} : s.Runs log t (.error e) (log ++ lines) →
      Plainly s log t (.error e) (log ++ lines) (lines.map .line ++ [.fault e])

/-- What is behind the gate of a group, unless that leaves it out. -/
inductive Behind (gate : Gate) (kind label : String) (ctx : StepContext) (group : Json)
    (p : Account) : Account
  | leftOut {log t met lines} : (gate ctx group).Runs log t met (log ++ lines) → met ≠ .ok true →
      Behind gate kind label ctx group p log t (.ok ()) (log ++ lines ++ [skipLine kind label met])
        [.gate lines, .line (skipLine kind label met)]
  | entered {log t lines t' r log' marks} : (gate ctx group).Runs log t (.ok true) (log ++ lines) →
      p (log ++ lines) t' r log' marks →
      Behind gate kind label ctx group p log (t ++ t') r log' (.gate lines :: marks)

variable {p q : Account} {s k : Stage Unit}

theorem tells_plainly (h : s.LogsOnly (¬isSuccessLine ·)) : (Plainly s).Tells s := by
  intro log t r log' hr
  obtain ⟨lines, rfl, hlines⟩ := h hr
  have hsettled := Settled.lines log hlines
  cases r with
  | ok u => exact ⟨_, .went hr, hsettled⟩
  | error e => exact ⟨_, .failed hr, hsettled.append (.fault _ e)⟩

theorem tells_bind (hs : p.Tells s) (hk : q.Tells k) : (p.AndThen q).Tells (s >>= fun _ => k) := by
  intro log t r log' h
  obtain ⟨e, hfail, rfl⟩ | ⟨t₁, t₂, ⟨⟩, log₁, rfl, h₁, h₂⟩ := runs_bind.mp h
  · obtain ⟨marks, hp, hsettled⟩ := hs hfail
    exact ⟨marks, .failed hp, hsettled⟩
  · obtain ⟨marks₁, hp, hsettled₁⟩ := hs h₁
    obtain ⟨marks₂, hq, hsettled₂⟩ := hk h₂
    exact ⟨_, .went hp hq, hsettled₁.append hsettled₂⟩

/-- **Items that have accounts have one together**, by induction on the items. -/
theorem tells_row {α : Type} {p : α → Account} {does : α → Stage Unit}
    (h : ∀ a, (p a).Tells (does a)) (items : List α) :
    (Row p items).Tells (List.forM items does) := by
  induction items with
  | nil =>
    intro log t r log' hr
    obtain ⟨rfl, rfl, rfl⟩ := runs_pure.mp hr
    exact ⟨[], .done, .nil log'⟩
  | cons a items ih =>
    intro log t r log' hr
    obtain ⟨marks, hmarks, hsettled⟩ := tells_bind (h a) ih hr
    refine ⟨marks, ?_, hsettled⟩
    cases hmarks with
    | failed hp => exact .failed hp
    | went hp hq => exact .went hp hq

theorem tells_behind {gate : Gate} {kind label : String} {ctx : StepContext} {group : Json}
    (hgate : GateObeys gate .grows) (hskip : ∀ met, ¬isSuccessLine (skipLine kind label met))
    (hs : p.Tells s) :
    (Behind gate kind label ctx group p).Tells (do
      if ← enters gate kind ctx label group then s else pure ()) := by
  intro log t r log' h
  obtain ⟨e, hfail, -⟩ | ⟨t₁, t₂, entered, log₁, rfl, hasked, hrest⟩ := runs_bind.mp h
  · obtain ⟨_, _, -, ⟨-, hr, -⟩ | ⟨-, hr, -⟩⟩ := runs_enters hfail <;> cases hr
  obtain ⟨met, log₂, hgated, hmet⟩ := runs_enters hasked
  obtain ⟨lines, rfl⟩ : log <+: log₂ := hgate ctx group hgated
  obtain ⟨rfl, hr, rfl⟩ | ⟨hclosed, hr, rfl⟩ := hmet
  · obtain rfl := Except.ok.inj hr
    obtain ⟨marks, hp, hsettled⟩ := hs hrest
    exact ⟨_, .entered hgated hp, (Settled.gate log lines).append hsettled⟩
  · obtain rfl := Except.ok.inj hr
    obtain ⟨rfl, rfl, rfl⟩ := runs_pure.mp hrest
    rw [List.append_nil]
    refine ⟨_, .leftOut hgated hclosed, (Settled.gate log lines).append ?_⟩
    exact Settled.lines _ (List.forall_mem_singleton.mpr (hskip met))

end Account

end CaseScript

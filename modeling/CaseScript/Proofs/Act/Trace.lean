import CaseScript.Act.World

/-!
# Proofs/Act/Trace — the runs of a program, over all behaviours of what is outside

A program meets the outside one call at a time.  An **exchange** is a call with its answer, a
**trace** the exchanges of a run in order, and `Act.Runs` relates a program to every trace it can
leave and the result it then has.  No answer is ruled out, so what holds of all traces holds in
particular when a collaborator fails, and whenever the run is cancelled.

Two facts carry the theory: `runs_bind` — a run of two programs in sequence is a run of the first
followed by one of the second — and `runs_meet`, by which **surroundings** that answer every call
determine a run.
-/

namespace CaseScript

/-- A call with its answer. -/
abbrev Exchange := (c : Call) × c.Answer

/-- The exchanges of a run, in order. -/
abbrev Trace := List Exchange

/-- How all that is outside behaves: the answer to a call may depend on everything asked before. -/
abbrev Surroundings := Trace → (c : Call) → c.Answer

namespace Act

variable {α β : Type}

/-- Answered as in the trace, the program asks just the calls of the trace and has the result. -/
inductive Runs : Act α → Trace → α → Prop
  | done (a : α) : Runs (.done a) [] a
  | ask {c : Call} {next : c.Answer → Act α} {answer : c.Answer} {t : Trace} {a : α} :
      Runs (next answer) t a → Runs (.ask c next) (⟨c, answer⟩ :: t) a

@[simp] theorem runs_done {a b : α} {t : Trace} : (done a).Runs t b ↔ t = [] ∧ b = a := by
  constructor
  · rintro ⟨⟩
    exact ⟨rfl, rfl⟩
  · rintro ⟨rfl, rfl⟩
    exact .done b

@[simp] theorem runs_pure {a b : α} {t : Trace} :
    (pure a : Act α).Runs t b ↔ t = [] ∧ b = a := runs_done

theorem runs_ask {c : Call} {next : c.Answer → Act α} {t : Trace} {a : α} :
    (ask c next).Runs t a ↔ ∃ answer t', t = ⟨c, answer⟩ :: t' ∧ (next answer).Runs t' a := by
  constructor
  · rintro ⟨⟩
    exact ⟨_, _, rfl, ‹_›⟩
  · rintro ⟨answer, t', rfl, h⟩
    exact .ask h

/-- A program that is a single call. -/
theorem runs_call {c : Call} {t : Trace} {a : c.Answer} :
    (ask c done).Runs t a ↔ t = [⟨c, a⟩] := by
  rw [runs_ask]
  constructor
  · rintro ⟨answer, t', rfl, h⟩
    obtain ⟨rfl, rfl⟩ := runs_done.mp h
    rfl
  · rintro rfl
    exact ⟨a, [], rfl, .done a⟩

/-- **A run of a sequence is a run of its first part and then one of its second.** -/
theorem runs_bind {p : Act α} {k : α → Act β} {t : Trace} {b : β} :
    (p >>= k).Runs t b ↔ ∃ t₁ t₂ a, t = t₁ ++ t₂ ∧ p.Runs t₁ a ∧ (k a).Runs t₂ b := by
  change (p.bind k).Runs t b ↔ _
  constructor
  · intro h
    induction p generalizing t with
    | done a => exact ⟨[], t, a, rfl, .done a, h⟩
    | ask c next ih =>
      obtain ⟨answer, t', rfl, hrest⟩ := runs_ask.mp h
      obtain ⟨t₁, t₂, a, rfl, h₁, h₂⟩ := ih answer hrest
      exact ⟨⟨c, answer⟩ :: t₁, t₂, a, rfl, .ask h₁, h₂⟩
  · rintro ⟨t₁, t₂, a, rfl, h₁, h₂⟩
    induction h₁ with
    | done a => exact h₂
    | ask _ ih => exact .ask (ih h₂)

/-- A run that begins with a single call. -/
theorem runs_call_bind {c : Call} {k : c.Answer → Act β} {t : Trace} {b : β} :
    (ask c done >>= k).Runs t b ↔ ∃ answer t', t = ⟨c, answer⟩ :: t' ∧ (k answer).Runs t' b :=
  runs_ask

theorem bind_pure (p : Act α) : (p >>= pure) = p := by
  change p.bind done = p
  induction p with
  | done a => rfl
  | ask c next ih => exact congrArg (ask c) (funext ih)

theorem bind_assoc {γ : Type} (p : Act α) (k : α → Act β) (m : β → Act γ) :
    (p >>= k) >>= m = p >>= fun a => k a >>= m := by
  change (p.bind k).bind m = p.bind fun a => (k a).bind m
  induction p with
  | done a => rfl
  | ask c next ih => exact congrArg (ask c) (funext ih)

instance : LawfulMonad Act := .mk' Act bind_pure (fun _ _ => rfl) bind_assoc

/-! ## What a program can ask and return -/

/-- Every call that the program can make is in `P`, and every result that it can have in `Q`. -/
def Within (P : Call → Prop) (Q : α → Prop) : Act α → Prop
  | done a => Q a
  | ask c next => P c ∧ ∀ answer, (next answer).Within P Q

variable {P : Call → Prop} {Q : α → Prop}

@[simp] theorem within_pure {a : α} : (pure a : Act α).Within P Q ↔ Q a := Iff.rfl

theorem within_bind {p : Act α} {k : α → Act β} {R : β → Prop} (hp : p.Within P Q)
    (hk : ∀ a, Q a → (k a).Within P R) : (p >>= k).Within P R := by
  induction p with
  | done a => exact hk a hp
  | ask c next ih => exact ⟨hp.1, fun answer => ih answer (hp.2 answer)⟩

theorem within_call_bind {c : Call} {k : c.Answer → Act α} :
    (ask c done >>= k).Within P Q ↔ P c ∧ ∀ answer, (k answer).Within P Q := Iff.rfl

theorem Within.mono {P' : Call → Prop} {Q' : α → Prop} {p : Act α} (h : p.Within P Q)
    (hP : ∀ c, P c → P' c) (hQ : ∀ a, Q a → Q' a) : p.Within P' Q' := by
  induction p with
  | done a => exact hQ a h
  | ask c next ih => exact ⟨hP c h.1, fun answer => ih answer (h.2 answer)⟩

theorem Runs.within {p : Act α} {t : Trace} {a : α} (h : p.Runs t a) (hp : p.Within P Q) :
    (∀ e ∈ t, P e.1) ∧ Q a := by
  induction h with
  | done a => exact ⟨fun _ he => absurd he List.not_mem_nil, hp⟩
  | ask _ ih =>
    obtain ⟨hcalls, hresult⟩ := ih (hp.2 _)
    exact ⟨List.forall_mem_cons.mpr ⟨hp.1, hcalls⟩, hresult⟩

/-! ## Surroundings -/

/-- The run of a program in surroundings that were asked `past` before: its trace and its result. -/
def meet (env : Surroundings) : Act α → (past : Trace) → Trace × α
  | done a, _ => ([], a)
  | ask c next, past =>
    let e : Exchange := ⟨c, env past c⟩
    let (t, a) := (next (env past c)).meet env (past ++ [e])
    (e :: t, a)

theorem runs_meet (env : Surroundings) (p : Act α) (past : Trace) :
    p.Runs (p.meet env past).1 (p.meet env past).2 := by
  induction p generalizing past with
  | done a => exact .done a
  | ask c next ih => exact .ask (ih _ _)

/-- **The second part of a sequence meets the surroundings after all that the first asked.** -/
theorem meet_bind (env : Surroundings) (p : Act α) (k : α → Act β) (past : Trace) :
    let first := p.meet env past
    let second := (k first.2).meet env (past ++ first.1)
    (p >>= k).meet env past = (first.1 ++ second.1, second.2) := by
  change (p.bind k).meet env past = _
  induction p generalizing past with
  | done a => simp [bind, meet]
  | ask c next ih => simp [bind, meet, ih]

theorem result_bind (env : Surroundings) (p : Act α) (k : α → Act β) (past : Trace) :
    ((p >>= k).meet env past).2 =
      ((k (p.meet env past).2).meet env (past ++ (p.meet env past).1)).2 := by
  rw [meet_bind]

/-- Surroundings that answer alike what a program asks let it run alike. -/
theorem meet_congr {P : Call → Prop} {env env' : Surroundings}
    (henv : ∀ past c, P c → env' past c = env past c) (p : Act α) (past : Trace)
    (h : ∀ e ∈ (p.meet env past).1, P e.1) : p.meet env' past = p.meet env past := by
  induction p generalizing past with
  | done a => rfl
  | ask c next ih =>
    have hcall : env' past c = env past c := henv past c (h _ List.mem_cons_self)
    rw [meet, meet, hcall, ih]
    exact fun e he => h e (List.mem_cons_of_mem _ he)

/-! ## The end of a program -/

/-- What is left of a program after its first call. -/
def Left (q p : Act α) : Prop := ∃ c next answer, p = .ask c next ∧ q = next answer

/-- **Every program ends**: no calls follow one another without end. -/
theorem wellFounded_left : WellFounded fun q p : Act α => q.Left p := by
  refine ⟨fun p => ?_⟩
  induction p with
  | done a =>
    refine .intro _ ?_
    rintro q ⟨c, next, answer, ⟨⟩, -⟩
  | ask c next ih =>
    refine .intro _ ?_
    rintro q ⟨c', next', answer, ⟨⟩, rfl⟩
    exact ih answer

/-! ## Surroundings that do not change -/

/-- The result of a program if every call is answered alike whenever it is made. -/
def answered (env : (c : Call) → c.Answer) : Act α → α
  | done a => a
  | ask c next => (next (env c)).answered env

variable (env : (c : Call) → c.Answer)

@[simp] theorem answered_pure (a : α) : (pure a : Act α).answered env = a := rfl

@[simp] theorem answered_bind (p : Act α) (k : α → Act β) :
    (p >>= k).answered env = (k (p.answered env)).answered env := by
  change (p.bind k).answered env = _
  induction p with
  | done a => rfl
  | ask c next ih => exact ih (env c)

theorem meet_constant (p : Act α) (past : Trace) :
    (p.meet (fun _ => env) past).2 = p.answered env := by
  induction p generalizing past with
  | done a => rfl
  | ask c next ih => exact ih _ _

end Act

/-- Surroundings that refuse everything, but for the test data. -/
def holding (data : Entries) : (c : Call) → c.Answer
  | .send .. | .query .. | .pause .. => .cancelled
  | .attempt _ | .write .. => ()
  | .isCancelled => false
  | .now => (0 : Nat)
  | .read .. => data

namespace World

/-- The world after some exchanges. -/
def after (o : Outside) (w : World) (past : Trace) : World :=
  past.foldl (fun w e => (w.answer o e.1).2) w

/-- A world as surroundings. -/
def surroundings (o : Outside) (w : World) : Surroundings :=
  fun past c => ((w.after o past).answer o c).1

end World

/-- **What a program does in a world is what it does in the surroundings that the world is.** -/
theorem Act.run_eq_meet {α : Type} (o : Outside) (w : World) (p : Act α) (past : Trace) :
    p.run o (w.after o past) =
      ((p.meet (w.surroundings o) past).2,
        w.after o (past ++ (p.meet (w.surroundings o) past).1)) := by
  induction p generalizing past with
  | done a => simp [run, meet]
  | ask c next ih =>
    have hpast : ∀ e : Exchange, w.after o (past ++ [e]) = ((w.after o past).answer o e.1).2 :=
      fun e => by simp [World.after]
    rw [run, meet]
    have key := ih (w.surroundings o past c) (past ++ [⟨c, w.surroundings o past c⟩])
    rw [hpast] at key
    simpa [World.surroundings] using key

end CaseScript

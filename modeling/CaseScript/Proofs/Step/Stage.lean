import CaseScript.Proofs.Source.Quiet

/-!
# Proofs/Step/Stage — runs of stages, and laws that they obey

`Stage.Runs` is `Act.Runs` with the log before and after.  One lemma for each way of building a
stage says what its runs are, so no proof about a stage unfolds the transformers it is made of.

A **law** (`Law`) is a property of runs that holds of doing nothing, of adding a line to the log,
and of two runs in sequence; `Stage.Obeys` says that every run of a stage has it.  What is proved
of an executor's calls as a law carries over to everything built from them.
-/

namespace CaseScript

namespace Stage

variable {α β : Type}

/-- From a log, and answered as in the trace, the stage has the result and leaves the other log. -/
def Runs (s : Stage α) (log : Log) (t : Trace) (r : Except StepError α) (log' : Log) : Prop :=
  (s.start log).Runs t (r, log')

@[simp] theorem runs_pure {a : α} {log log' : Log} {t : Trace} {r : Except StepError α} :
    (pure a : Stage α).Runs log t r log' ↔ t = [] ∧ r = .ok a ∧ log' = log := by
  change (Act.done (Except.ok a, log)).Runs t (r, log') ↔ _
  simp

@[simp] theorem runs_throw {e : StepError} {log log' : Log} {t : Trace} {r : Except StepError α} :
    (throw e : Stage α).Runs log t r log' ↔ t = [] ∧ r = .error e ∧ log' = log := by
  change (Act.done (Except.error e, log)).Runs t (r, log') ↔ _
  simp

@[simp] theorem runs_log {line : String} {log log' : Log} {t : Trace}
    {r : Except StepError Unit} :
    (Stage.log line).Runs log t r log' ↔ t = [] ∧ r = .ok () ∧ log' = log ++ [line] := by
  change (Act.done (Except.ok (), log ++ [line])).Runs t (r, log') ↔ _
  simp

@[simp] theorem runs_ofExcept {r₀ r : Except StepError α} {log log' : Log} {t : Trace} :
    (Stage.ofExcept r₀).Runs log t r log' ↔ t = [] ∧ r = r₀ ∧ log' = log := by
  cases r₀ <;> simp [Stage.ofExcept]

/-- What follows a stage by its result, on the log that it left. -/
def next (k : α → Stage β) : Except StepError α × Log → Act (Except StepError β × Log)
  | (.ok a, log) => (k a).start log
  | (.error e, log) => pure (.error e, log)

theorem start_bind (s : Stage α) (k : α → Stage β) (log : Log) :
    (s >>= k).start log = s.start log >>= next k := by
  change Act.bind (s.start log) _ = Act.bind (s.start log) _
  congr 1
  funext p
  obtain ⟨r | r, log₁⟩ := p <;> rfl

theorem start_map (f : α → β) (s : Stage α) (log : Log) :
    (f <$> s).start log = (fun p => (Except.map f p.1, p.2)) <$> s.start log := by
  rw [← bind_pure_comp, start_bind, ← bind_pure_comp]
  congr 1
  funext p
  obtain ⟨e | a, log'⟩ := p <;> rfl

theorem start_call (p : Act α) (log : Log) :
    (Stage.call p).start log = p >>= fun a => pure (Except.ok a, log) := by
  change ((p.bind fun a => .done (a, log)).bind fun q => .done (Except.ok q.1, q.2)) =
    p.bind fun a => .done (Except.ok a, log)
  induction p with
  | done a => rfl
  | ask c next ih => exact congrArg (Act.ask c) (funext ih)

theorem start_outcome (s : Stage α) (log : Log) :
    (Stage.outcome s).start log = s.start log >>= fun p => pure (Except.ok p.1, p.2) := rfl

/-- A program whose result is changed, as a stage. -/
theorem ofAct_map (f : α → β) (p : Act (Except StepError α)) :
    Stage.ofAct (Except.map f <$> p) = f <$> Stage.ofAct p := by
  unfold Stage.ofAct Stage.call
  rw [liftM_map, bind_map_left, map_bind]
  congr 1
  funext r
  cases r with
  | ok a => exact (map_pure f a).symm
  | error e => rfl

/-- **A stage in sequence with others either fails, and nothing follows, or the rest runs on the
log that it leaves.** -/
theorem runs_bind {s : Stage α} {k : α → Stage β} {log log' : Log} {t : Trace}
    {r : Except StepError β} :
    (s >>= k).Runs log t r log' ↔
      (∃ e, s.Runs log t (.error e) log' ∧ r = .error e) ∨
      ∃ t₁ t₂ a log₁, t = t₁ ++ t₂ ∧ s.Runs log t₁ (.ok a) log₁ ∧ (k a).Runs log₁ t₂ r log' := by
  rw [Runs, start_bind, Act.runs_bind]
  constructor
  · rintro ⟨t₁, t₂, ⟨a | a, log₁⟩, rfl, h₁, h₂⟩
    · obtain ⟨rfl, hr⟩ := Act.runs_pure.mp h₂
      obtain ⟨rfl, rfl⟩ := Prod.mk.inj hr
      exact .inl ⟨a, by rwa [List.append_nil], rfl⟩
    · exact .inr ⟨t₁, t₂, a, log₁, rfl, h₁, h₂⟩
  · rintro (⟨e, h, rfl⟩ | ⟨t₁, t₂, a, log₁, rfl, h₁, h₂⟩)
    · exact ⟨t, [], (.error e, log'), (List.append_nil t).symm, h, Act.runs_pure.mpr ⟨rfl, rfl⟩⟩
    · exact ⟨t₁, t₂, (.ok a, log₁), rfl, h₁, h₂⟩

@[simp] theorem runs_call {p : Act α} {log log' : Log} {t : Trace} {r : Except StepError α} :
    (Stage.call p).Runs log t r log' ↔ ∃ a, p.Runs t a ∧ r = .ok a ∧ log' = log := by
  rw [Runs, start_call, Act.runs_bind]
  constructor
  · rintro ⟨t₁, t₂, a, rfl, h₁, h₂⟩
    obtain ⟨rfl, hr⟩ := Act.runs_pure.mp h₂
    obtain ⟨rfl, rfl⟩ := Prod.mk.inj hr
    exact ⟨a, by rwa [List.append_nil], rfl, rfl⟩
  · rintro ⟨a, h, rfl, rfl⟩
    exact ⟨t, [], a, (List.append_nil t).symm, h, Act.runs_pure.mpr ⟨rfl, rfl⟩⟩

@[simp] theorem runs_outcome {s : Stage α} {log log' : Log} {t : Trace}
    {r : Except StepError (Except StepError α)} :
    (Stage.outcome s).Runs log t r log' ↔ ∃ r₀, s.Runs log t r₀ log' ∧ r = .ok r₀ := by
  rw [Runs, start_outcome, Act.runs_bind]
  constructor
  · rintro ⟨t₁, t₂, ⟨r₀, log₁⟩, rfl, h₁, h₂⟩
    obtain ⟨rfl, hr⟩ := Act.runs_pure.mp h₂
    obtain ⟨rfl, rfl⟩ := Prod.mk.inj hr
    exact ⟨r₀, by rwa [List.append_nil], rfl⟩
  · rintro ⟨r₀, h, rfl⟩
    exact ⟨t, [], (r₀, log'), (List.append_nil t).symm, h, Act.runs_pure.mpr ⟨rfl, rfl⟩⟩

@[simp] theorem runs_ofAct {p : Act (Except StepError α)} {log log' : Log} {t : Trace}
    {r : Except StepError α} :
    (Stage.ofAct p).Runs log t r log' ↔ p.Runs t r ∧ log' = log := by
  rw [Stage.ofAct, runs_bind]
  constructor
  · rintro (⟨e, h, rfl⟩ | ⟨t₁, t₂, r₀, log₁, rfl, h₁, h₂⟩)
    · simp at h
    · obtain ⟨r₁, hp, hr, rfl⟩ := runs_call.mp h₁
      obtain rfl : r₀ = r₁ := Except.ok.inj hr
      cases r₀ with
      | ok a =>
        obtain ⟨rfl, rfl, rfl⟩ := runs_pure.mp h₂
        exact ⟨by rwa [List.append_nil], rfl⟩
      | error e =>
        obtain ⟨rfl, rfl, rfl⟩ := runs_throw.mp h₂
        exact ⟨by rwa [List.append_nil], rfl⟩
  · rintro ⟨h, rfl⟩
    refine .inr ⟨t, [], r, log', (List.append_nil t).symm, runs_call.mpr ⟨r, h, rfl, rfl⟩, ?_⟩
    cases r <;> simp

/-! What cannot fail, at the head of a sequence, always hands over to the rest. -/

theorem runs_log_bind {line : String} {k : Unit → Stage β} {log log' : Log} {t : Trace}
    {r : Except StepError β} :
    (Stage.log line >>= k).Runs log t r log' ↔ (k ()).Runs (log ++ [line]) t r log' := by
  rw [runs_bind]
  constructor
  · rintro (⟨e, h, -⟩ | ⟨t₁, t₂, a, log₁, rfl, h₁, h₂⟩)
    · simp at h
    · obtain ⟨rfl, -, rfl⟩ := runs_log.mp h₁
      exact h₂
  · exact fun h => .inr ⟨[], t, (), _, rfl, runs_log.mpr ⟨rfl, rfl, rfl⟩, h⟩

theorem runs_call_bind {p : Act α} {k : α → Stage β} {log log' : Log} {t : Trace}
    {r : Except StepError β} :
    (Stage.call p >>= k).Runs log t r log' ↔
      ∃ t₁ t₂ a, t = t₁ ++ t₂ ∧ p.Runs t₁ a ∧ (k a).Runs log t₂ r log' := by
  rw [runs_bind]
  constructor
  · rintro (⟨e, h, -⟩ | ⟨t₁, t₂, a, log₁, rfl, h₁, h₂⟩)
    · simp at h
    · obtain ⟨b, hp, hb, rfl⟩ := runs_call.mp h₁
      obtain rfl := Except.ok.inj hb
      exact ⟨t₁, t₂, a, rfl, hp, h₂⟩
  · rintro ⟨t₁, t₂, a, rfl, h₁, h₂⟩
    exact .inr ⟨t₁, t₂, a, log, rfl, runs_call.mpr ⟨a, h₁, rfl, rfl⟩, h₂⟩

theorem runs_outcome_bind {s : Stage α} {k : Except StepError α → Stage β} {log log' : Log}
    {t : Trace} {r : Except StepError β} :
    (Stage.outcome s >>= k).Runs log t r log' ↔
      ∃ t₁ t₂ r₀ log₁, t = t₁ ++ t₂ ∧ s.Runs log t₁ r₀ log₁ ∧ (k r₀).Runs log₁ t₂ r log' := by
  rw [runs_bind]
  constructor
  · rintro (⟨e, h, -⟩ | ⟨t₁, t₂, r₀, log₁, rfl, h₁, h₂⟩)
    · simp at h
    · obtain ⟨r₁, hs, hr⟩ := runs_outcome.mp h₁
      obtain rfl := Except.ok.inj hr
      exact ⟨t₁, t₂, r₀, log₁, rfl, hs, h₂⟩
  · rintro ⟨t₁, t₂, r₀, log₁, rfl, h₁, h₂⟩
    exact .inr ⟨t₁, t₂, r₀, log₁, rfl, runs_outcome.mpr ⟨r₀, h₁, rfl⟩, h₂⟩

end Stage

/-! ## Laws -/

/-- A property of runs: the log before, the trace, what the run failed with, and the log after. -/
structure Law where
  Holds : Log → Trace → Option StepError → Log → Prop
  rest : ∀ log, Holds log [] none log
  line : ∀ log line, Holds log [] none (log ++ [line])
  seq : ∀ {log t log₁ t' e log'}, Holds log t none log₁ → Holds log₁ t' e log' →
    Holds log (t ++ t') e log'

/-- The law that only calls of a kind are made. -/
def Law.calls (P : Call → Prop) : Law where
  Holds _ t _ _ := ∀ e ∈ t, P e.1
  rest _ := by simp
  line _ _ := by simp
  seq h h' := by
    intro e he
    obtain he | he := List.mem_append.mp he
    · exact h e he
    · exact h' e he

namespace Stage

variable {α β : Type} {L : Law}

/-- Every run of the stage is as the law says. -/
def Obeys (s : Stage α) (L : Law) : Prop :=
  ∀ ⦃log t r log'⦄, s.Runs log t r log' → L.Holds log t (failure? r) log'

theorem obeys_pure (a : α) : (pure a : Stage α).Obeys L := by
  intro log t r log' h
  obtain ⟨rfl, rfl, rfl⟩ := runs_pure.mp h
  exact L.rest log'

theorem obeys_log (line : String) : (Stage.log line).Obeys L := by
  intro log t r log' h
  obtain ⟨rfl, rfl, rfl⟩ := runs_log.mp h
  exact L.line log line

theorem obeys_ofExcept {r₀ : Except StepError α}
    (h : ∀ log e, r₀ = .error e → L.Holds log [] (some e) log) : (Stage.ofExcept r₀).Obeys L := by
  intro log t r log' hr
  obtain ⟨rfl, rfl, rfl⟩ := runs_ofExcept.mp hr
  cases r with
  | ok a => exact L.rest log'
  | error e => exact h log' e rfl

/-- **A law is obeyed by a sequence if it is obeyed by its parts.** -/
theorem obeys_bind {s : Stage α} {k : α → Stage β} (hs : s.Obeys L) (hk : ∀ a, (k a).Obeys L) :
    (s >>= k).Obeys L := by
  intro log t r log' h
  obtain ⟨e, hfail, rfl⟩ | ⟨t₁, t₂, a, log₁, rfl, h₁, h₂⟩ := runs_bind.mp h
  · exact hs hfail
  · exact L.seq (hs h₁) (hk a h₂)

theorem obeys_throw {e : StepError} (h : ∀ log, L.Holds log [] (some e) log) :
    (throw e : Stage α).Obeys L := by
  intro log t r log' hr
  obtain ⟨rfl, rfl, rfl⟩ := runs_throw.mp hr
  exact h log'

theorem obeys_call {p : Act α} (h : ∀ log t a, p.Runs t a → L.Holds log t none log) :
    (Stage.call p).Obeys L := by
  intro log t r log' hr
  obtain ⟨a, hp, rfl, rfl⟩ := runs_call.mp hr
  exact h log' t a hp

theorem obeys_ofAct {p : Act (Except StepError α)}
    (h : ∀ log t r, p.Runs t r → L.Holds log t (failure? r) log) : (Stage.ofAct p).Obeys L := by
  intro log t r log' hr
  obtain ⟨hp, rfl⟩ := runs_ofAct.mp hr
  exact h log' t r hp

end Stage

end CaseScript

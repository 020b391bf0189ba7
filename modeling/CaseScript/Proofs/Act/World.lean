import CaseScript.Proofs.Act.Trace

/-!
# Proofs/Act/World — the runs that a world tells

A world **tells** a trace if it gives the answers of the trace when it is asked its calls.  What a
program does in a world is the run whose trace the world tells (`run_eq_iff`), so everything known of
runs with a trace is known of runs in a world.

A document changes only when it is written: `stores_after` is the frame of all other calls, and
`mem_events_after` the same of what is recorded.  From them follows what a program can do in any
world whose calls are known (`Within.stores_run`, `Within.mem_events_run`).
-/

namespace CaseScript

variable {o : Outside} {w w' : World} {t t' : Trace}

namespace World

/-- Asked the calls of the trace one after another, the world gives the answers of the trace. -/
def Tells (o : Outside) : World → Trace → Prop
  | _, [] => True
  | w, e :: t => (w.answer o e.1).1 = e.2 ∧ Tells o (w.answer o e.1).2 t

@[simp] theorem after_nil : w.after o [] = w := rfl

@[simp] theorem after_cons {e : Exchange} :
    w.after o (e :: t) = (w.answer o e.1).2.after o t := rfl

@[simp] theorem after_append : w.after o (t ++ t') = (w.after o t).after o t' :=
  List.foldl_append

theorem tells_append : w.Tells o (t ++ t') ↔ w.Tells o t ∧ (w.after o t).Tells o t' := by
  induction t generalizing w with
  | nil => simp [Tells]
  | cons e t ih =>
    change _ ∧ Tells o _ (t ++ t') ↔ (_ ∧ Tells o _ t) ∧ _
    rw [ih, and_assoc]
    rfl

end World

namespace Act

variable {α : Type} {p : Act α} {a : α}

theorem run_of_runs (h : p.Runs t a) (ht : w.Tells o t) : p.run o w = (a, w.after o t) := by
  induction h generalizing w with
  | done a => rfl
  | @ask c next answer t a _ ih =>
    obtain ⟨hanswer, hrest⟩ : (w.answer o c).1 = answer ∧ (w.answer o c).2.Tells o t := ht
    change (next (w.answer o c).1).run o (w.answer o c).2 = _
    rw [hanswer, ih hrest, World.after_cons]

theorem exists_told (o : Outside) (w : World) (p : Act α) :
    ∃ t, p.Runs t (p.run o w).1 ∧ w.Tells o t ∧ (p.run o w).2 = w.after o t := by
  induction p generalizing w with
  | done a => exact ⟨[], .done a, trivial, rfl⟩
  | ask c next ih =>
    obtain ⟨t, hruns, htold, hafter⟩ := ih (w.answer o c).1 (w.answer o c).2
    exact ⟨⟨c, (w.answer o c).1⟩ :: t, .ask hruns, ⟨rfl, htold⟩, hafter⟩

theorem run_bind {β : Type} (o : Outside) (w : World) (p : Act α) (k : α → Act β) :
    (p >>= k).run o w = (k (p.run o w).1).run o (p.run o w).2 := by
  induction p generalizing w with
  | done a => rfl
  | ask c next ih => exact ih (w.answer o c).1 (w.answer o c).2

/-- **The run of a program in a world is its run with the trace that the world tells.** -/
theorem run_eq_iff :
    p.run o w = (a, w') ↔ ∃ t, p.Runs t a ∧ w.Tells o t ∧ w' = w.after o t := by
  constructor
  · intro h
    obtain ⟨t, hruns, htold, hafter⟩ := exists_told o w p
    rw [h] at hruns hafter
    exact ⟨t, hruns, htold, hafter⟩
  · rintro ⟨t, hruns, htold, rfl⟩
    exact run_of_runs hruns htold

end Act

/-! ## Documents -/

/-- Whether the call changes a document. -/
def Call.isWrite : Call → Bool
  | .write .. => true
  | _ => false

namespace World

@[simp] theorem stores_wait (millis : Nat) (g : Guard) : (w.wait millis g).2.stores = w.stores := by
  unfold wait
  split
  · rfl
  · split
    · rfl
    · split
      · split <;> rfl
      · rfl

@[simp] theorem stores_take {α : Type} (turn : Turn α) (g : Guard) :
    (w.take turn g).2.stores = w.stores := by
  unfold take
  have hwait := stores_wait (w := { w with cancelled := w.cancelled || turn.cancels }) turn.delay g
  split <;> (rename_i h; rw [h] at hwait; exact hwait)

theorem stores_answer {c : Call} (h : !c.isWrite) : (w.answer o c).2.stores = w.stores := by
  cases c with
  | send r g => exact stores_take _ g
  | query q g => exact stores_take _ g
  | pause millis g => exact stores_wait millis g
  | write => cases h
  | _ => rfl

/-- **What writes nothing changes no document.** -/
theorem stores_after (h : ∀ e ∈ t, !e.1.isWrite) : (w.after o t).stores = w.stores := by
  induction t generalizing w with
  | nil => rfl
  | cons e t ih =>
    obtain ⟨he, hrest⟩ := List.forall_mem_cons.mp h
    rw [after_cons, ih hrest, stores_answer he]

end World

/-! ## Events -/

/-- What is recorded of the call, if anything is. -/
def Call.kind? : Call → Option EventKind
  | .send r _ => some (.sent r)
  | .query q _ => some (.queried q)
  | .attempt n => some (.attempted n)
  | _ => none

namespace World

/-- A turn takes as long as its wait. -/
theorem take_snd {α : Type} (w : World) (turn : Turn α) (g : Guard) :
    (w.take turn g).2 = ({ w with cancelled := w.cancelled || turn.cancels }.wait turn.delay g).2 := by
  rw [take]
  split <;> (rename_i hwait; rw [hwait])

@[simp] theorem events_wait (millis : Nat) (g : Guard) : (w.wait millis g).2.events = w.events := by
  unfold wait
  split
  · rfl
  · split
    · rfl
    · split
      · split <;> rfl
      · rfl

@[simp] theorem events_take {α : Type} (turn : Turn α) (g : Guard) :
    (w.take turn g).2.events = w.events := by
  rw [take_snd, events_wait]

theorem mem_events_answer {c : Call} {e : Event} (h : e ∈ (w.answer o c).2.events) :
    e ∈ w.events ∨ c.kind? = some e.kind := by
  have hrecord : ∀ kind, c.kind? = some kind → e ∈ (w.record kind).events →
      e ∈ w.events ∨ c.kind? = some e.kind := by
    intro kind hkind he
    obtain he | he := List.mem_append.mp he
    · exact .inl he
    · obtain rfl := List.mem_singleton.mp he
      exact .inr hkind
  cases c with
  | send r g => exact hrecord _ rfl (by rwa [answer, events_take] at h)
  | query q g => exact hrecord _ rfl (by rwa [answer, events_take] at h)
  | attempt n => exact hrecord _ rfl h
  | pause millis g => exact .inl (by rwa [answer, events_wait] at h)
  | isCancelled | now | read | write => exact .inl h

/-- **What was recorded is from before, or there is a call of which it was recorded.** -/
theorem mem_events_after {e : Event} (h : e ∈ (w.after o t).events) :
    e ∈ w.events ∨ ∃ made ∈ t, made.1.kind? = some e.kind := by
  induction t generalizing w with
  | nil => exact .inl h
  | cons made t ih =>
    obtain he | ⟨later, hmem, hkind⟩ := ih (after_cons ▸ h)
    · exact (mem_events_answer he).imp_right fun hkind => ⟨made, List.mem_cons_self, hkind⟩
    · exact .inr ⟨later, List.mem_cons_of_mem _ hmem, hkind⟩

end World

/-! ## What calls of a kind can do -/

namespace Act

variable {α : Type} {p : Act α} {P : Call → Prop} {Q : α → Prop}

/-- **A program none of whose calls writes changes no document.** -/
theorem Within.stores_run (h : p.Within P Q) (hP : ∀ c, P c → !c.isWrite) :
    (p.run o w).2.stores = w.stores := by
  obtain ⟨t, hruns, -, hafter⟩ := exists_told o w p
  rw [hafter]
  exact World.stores_after fun e he => hP e.1 ((hruns.within h).1 e he)

/-- **What a program records, a call that it can make records.** -/
theorem Within.mem_events_run (h : p.Within P Q) {e : Event} (he : e ∈ (p.run o w).2.events) :
    e ∈ w.events ∨ ∃ c, P c ∧ c.kind? = some e.kind := by
  obtain ⟨t, hruns, -, hafter⟩ := exists_told o w p
  rw [hafter] at he
  refine (World.mem_events_after he).imp_right ?_
  rintro ⟨made, hmade, hkind⟩
  exact ⟨made.1, (hruns.within h).1 made hmade, hkind⟩

end Act

end CaseScript

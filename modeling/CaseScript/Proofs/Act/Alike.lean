import CaseScript.Proofs.Act.World

/-!
# Proofs/Act/Alike — one program on two documents

A program that works on a document at some time and the same program on another document at another
time ask for the same, but for the slot of the document and the points of time that they name
(`Act.Alike`).  Worlds are alike (`World.Alike`) if those two documents are equal and their clocks
show times that count as the same.

If the outside is **steady** — what it does depends on the call alone, and it cancels nothing — then
alike programs go on alike in alike worlds (`Alike.step`), and the first leaves every document but
its own as it is (`Alike.frame`).
-/

namespace CaseScript

/-- A document of a case in two slots, and two points of time that count as the same. -/
structure Likeness where
  key : CaseKey
  slot : Slot
  slot' : Slot
  clock : Nat
  clock' : Nat

namespace Likeness

/-- Two points of time that are equally far from the given ones. -/
def SameTime (L : Likeness) (n n' : Nat) : Prop := n + L.clock' = n' + L.clock

theorem SameTime.add {L : Likeness} {n n' : Nat} (h : L.SameTime n n') (millis : Nat) :
    L.SameTime (n + millis) (n' + millis) := by
  unfold SameTime at h ⊢
  omega

/-- Between points of time that count as the same passes the same time. -/
theorem SameTime.sub_eq {L : Likeness} {n n' m m' : Nat} (hn : L.SameTime n n')
    (hm : L.SameTime m m') : m - n = m' - n' := by
  unfold SameTime at hn hm
  omega

/-- Guards that differ in their deadlines only, which count as the same. -/
inductive SameGuard (L : Likeness) : Guard → Guard → Prop
  | untimed (cancellable : Bool) : L.SameGuard ⟨cancellable, none⟩ ⟨cancellable, none⟩
  | timed (cancellable : Bool) {d d' : Nat} :
      L.SameTime d d' → L.SameGuard ⟨cancellable, some d⟩ ⟨cancellable, some d'⟩

end Likeness

/-- Whether the call names neither a document nor a point of time. -/
def Call.isPortable : Call → Bool
  | .send _ g | .query _ g | .pause _ g => g.deadline.isNone
  | .attempt _ | .isCancelled => true
  | .now | .read .. | .write .. => false

namespace Act

variable {L : Likeness} {α β : Type} {R : α → α → Prop} {S : β → β → Prop}

/-- The programs ask alike and go on alike whatever they are answered, to results in `R`. -/
inductive Alike (L : Likeness) {α : Type} (R : α → α → Prop) : Act α → Act α → Prop
  | done {a a' : α} : R a a' → Alike L R (.done a) (.done a')
  | send {r : Request} {g g' : Guard}
      {next next' : Outcome (Except TransportError Response) → Act α} : L.SameGuard g g' →
      (∀ answer, Alike L R (next answer) (next' answer)) →
      Alike L R (.ask (.send r g) next) (.ask (.send r g') next')
  | query {q : Query} {g g' : Guard}
      {next next' : Outcome (Except QueryError (List Row)) → Act α} : L.SameGuard g g' →
      (∀ answer, Alike L R (next answer) (next' answer)) →
      Alike L R (.ask (.query q g) next) (.ask (.query q g') next')
  | pause {millis : Nat} {g g' : Guard} {next next' : Outcome Unit → Act α} :
      L.SameGuard g g' → (∀ answer, Alike L R (next answer) (next' answer)) →
      Alike L R (.ask (.pause millis g) next) (.ask (.pause millis g') next')
  | attempt {n : Nat} {next next' : Unit → Act α} : Alike L R (next ()) (next' ()) →
      Alike L R (.ask (.attempt n) next) (.ask (.attempt n) next')
  | isCancelled {next next' : Bool → Act α} :
      (∀ answer, Alike L R (next answer) (next' answer)) →
      Alike L R (.ask .isCancelled next) (.ask .isCancelled next')
  | now {next next' : Nat → Act α} :
      (∀ n n', L.SameTime n n' → Alike L R (next n) (next' n')) →
      Alike L R (.ask .now next) (.ask .now next')
  | read {next next' : Entries → Act α} :
      (∀ answer, Alike L R (next answer) (next' answer)) →
      Alike L R (.ask (.read L.slot L.key) next) (.ask (.read L.slot' L.key) next')
  | write {c : Change} {next next' : Unit → Act α} : Alike L R (next ()) (next' ()) →
      Alike L R (.ask (.write L.slot L.key c) next) (.ask (.write L.slot' L.key c) next')

theorem alike_pure {a a' : α} (h : R a a') : (pure a : Act α).Alike L R (pure a') := .done h

/-- **Alike programs that go on alike from alike results are alike.** -/
theorem alike_bind {p p' : Act α} {k k' : α → Act β} (hp : p.Alike L R p')
    (hk : ∀ a a', R a a' → (k a).Alike L S (k' a')) : (p >>= k).Alike L S (p' >>= k') := by
  induction hp with
  | done h => exact hk _ _ h
  | send hg _ ih => exact .send hg ih
  | query hg _ ih => exact .query hg ih
  | pause hg _ ih => exact .pause hg ih
  | attempt _ ih => exact .attempt ih
  | isCancelled _ ih => exact .isCancelled ih
  | now _ ih => exact .now ih
  | read _ ih => exact .read ih
  | write _ ih => exact .write ih

/-- Results that are equal are handed on as one. -/
theorem alike_bind_eq {p p' : Act α} {k k' : α → Act β} (hp : p.Alike L (· = ·) p')
    (hk : ∀ a, (k a).Alike L S (k' a)) : (p >>= k).Alike L S (p' >>= k') :=
  alike_bind hp fun a _ h => h ▸ hk a

theorem alike_now_bind {k k' : Nat → Act β}
    (hk : ∀ n n', L.SameTime n n' → (k n).Alike L S (k' n')) :
    (Act.now >>= k).Alike L S (Act.now >>= k') := .now hk

/-- A program that names neither a document nor a point of time is its own like. -/
theorem alike_of_within {Q : α → Prop} {p : Act α} (h : p.Within (·.isPortable) Q) :
    p.Alike L (· = ·) p := by
  have huntimed : ∀ g : Guard, g.deadline.isNone → L.SameGuard g g := by
    rintro ⟨cancellable, none | d⟩ hg
    · exact .untimed cancellable
    · cases hg
  induction p with
  | done a => exact .done rfl
  | ask c next ih =>
    have hnext := fun answer => ih answer (h.2 answer)
    cases c with
    | send r g => exact .send (huntimed g h.1) hnext
    | query q g => exact .query (huntimed g h.1) hnext
    | pause millis g => exact .pause (huntimed g h.1) hnext
    | attempt n => exact .attempt (hnext ())
    | isCancelled => exact .isCancelled hnext
    | now | read | write => exact absurd h.1 nofun

end Act

/-! ## Alike worlds -/

/-- What the outside does depends on the call alone, and it cancels nothing. -/
structure Outside.Steady (o : Outside) : Prop where
  send : ∀ events r, o.send events r = o.send [] r
  query : ∀ events q, o.query events q = o.query [] q
  keepsSend : ∀ r, (o.send [] r).cancels = false
  keepsQuery : ∀ q, (o.query [] q).cancels = false

namespace World

theorem cancelled_wait (w : World) (millis : Nat) (g : Guard) :
    (w.wait millis g).2.cancelled = w.cancelled := by
  unfold wait
  split
  · rfl
  · split
    · rfl
    · split
      · split <;> rfl
      · rfl

/-- A turn that cancels nothing is a wait and then the answer. -/
theorem take_of_keeps {α : Type} {t : Turn α} (ht : t.cancels = false) (w : World) (g : Guard) :
    w.take t g =
      (match (w.wait t.delay g).1 with
        | .done () => .done t.answer
        | .cancelled => .cancelled
        | .expired => .expired, (w.wait t.delay g).2) := by
  rw [take, ht, Bool.or_false]
  obtain ⟨⟨⟩ | _ | _, v⟩ := w.wait t.delay g <;> rfl

/-- A steady outside does not cancel the run. -/
theorem cancelled_answer {o : Outside} (ho : o.Steady) (w : World) (c : Call) :
    (w.answer o c).2.cancelled = w.cancelled := by
  cases c with
  | send r g =>
    rw [answer, ho.send, take_of_keeps (ho.keepsSend r)]
    exact cancelled_wait _ _ g
  | query q g =>
    rw [answer, ho.query, take_of_keeps (ho.keepsQuery q)]
    exact cancelled_wait _ _ g
  | pause millis g => exact cancelled_wait w millis g
  | _ => rfl

/-- Neither world is cancelled, their clocks show the same, and their documents are equal. -/
structure Alike (L : Likeness) (w w' : World) : Prop where
  runs : w.cancelled = false
  runs' : w'.cancelled = false
  time : L.SameTime w.clock w'.clock
  document : w.stores L.slot L.key = w'.stores L.slot' L.key

variable {L : Likeness} {w w' : World}

theorem Alike.record (h : w.Alike L w') (kind : EventKind) :
    (w.record kind).Alike L (w'.record kind) := ⟨h.runs, h.runs', h.time, h.document⟩

/-- Waits under the same guard end alike. -/
theorem Alike.wait {g g' : Guard} (h : w.Alike L w') (hg : L.SameGuard g g') (millis : Nat) :
    (w.wait millis g).1 = (w'.wait millis g').1 ∧
      (w.wait millis g).2.Alike L (w'.wait millis g').2 := by
  obtain ⟨hruns, hruns', htime, hdocument⟩ := h
  have hlater := htime.add millis
  by_cases hzero : millis = 0
  · simp only [World.wait, if_pos hzero]
    exact ⟨trivial, hruns, hruns', htime, hdocument⟩
  · cases hg with
    | untimed cancellable =>
      simp only [World.wait, if_neg hzero, hruns, hruns', Bool.and_false, Bool.false_eq_true,
        if_false]
      exact ⟨trivial, rfl, rfl, hlater, hdocument⟩
    | @timed cancellable d d' hd =>
      simp only [World.wait, if_neg hzero, hruns, hruns', Bool.and_false, Bool.false_eq_true,
        if_false]
      unfold Likeness.SameTime at htime hd
      by_cases hlate : d < w.clock + millis
      · have hlate' : d' < w'.clock + millis := by omega
        have hended : L.SameTime (max w.clock d) (max w'.clock d') := by
          unfold Likeness.SameTime
          omega
        rw [if_pos hlate, if_pos hlate']
        exact ⟨rfl, rfl, rfl, hended, hdocument⟩
      · have hlate' : ¬d' < w'.clock + millis := by omega
        rw [if_neg hlate, if_neg hlate']
        exact ⟨rfl, rfl, rfl, hlater, hdocument⟩

/-- A turn that cancels nothing is taken alike. -/
theorem Alike.take {α : Type} {g g' : Guard} (h : w.Alike L w') (hg : L.SameGuard g g')
    {t : Turn α} (ht : t.cancels = false) :
    (w.take t g).1 = (w'.take t g').1 ∧ (w.take t g).2.Alike L (w'.take t g').2 := by
  obtain ⟨hanswer, hafter⟩ := h.wait hg t.delay
  rw [take_of_keeps ht, take_of_keeps ht, hanswer]
  exact ⟨rfl, hafter⟩

section

variable {o : Outside} (ho : o.Steady) {g g' : Guard}
include ho

/-- A request is answered alike. -/
theorem Alike.send (h : w.Alike L w') (hg : L.SameGuard g g') (r : Request) :
    (w.answer o (.send r g)).1 = (w'.answer o (.send r g')).1 ∧
      (w.answer o (.send r g)).2.Alike L (w'.answer o (.send r g')).2 := by
  have htaken := (h.record (.sent r)).take hg (ho.keepsSend r)
  rw [answer, answer, ho.send w.events, ho.send w'.events]
  exact htaken

/-- A query is answered alike. -/
theorem Alike.query (h : w.Alike L w') (hg : L.SameGuard g g') (q : Query) :
    (w.answer o (.query q g)).1 = (w'.answer o (.query q g')).1 ∧
      (w.answer o (.query q g)).2.Alike L (w'.answer o (.query q g')).2 := by
  have htaken := (h.record (.queried q)).take hg (ho.keepsQuery q)
  rw [answer, answer, ho.query w.events, ho.query w'.events]
  exact htaken

end

/-- A change of the two documents keeps them equal. -/
theorem Alike.write (h : w.Alike L w') (o : Outside) (c : Change) :
    (w.answer o (.write L.slot L.key c)).2.Alike L (w'.answer o (.write L.slot' L.key c)).2 where
  runs := h.runs
  runs' := h.runs'
  time := h.time
  document := by simp [answer, setStore, Store.change, Store.set, h.document]

end World

/-! ## One step -/

namespace Act

variable {L : Likeness} {α : Type} {R : α → α → Prop} {o : Outside} {w w' : World}

/-- **In alike worlds alike programs take alike steps**, if the outside is steady. -/
theorem Alike.step {c : Call} {next : c.Answer → Act α} {p' : Act α} (ho : o.Steady)
    (h : (ask c next).Alike L R p') (hw : w.Alike L w') :
    ∃ q' v', (next (w.answer o c).1).Alike L R q' ∧ (w.answer o c).2.Alike L v' ∧
      p'.run o w' = q'.run o v' := by
  cases h with
  | @send r g g' next next' hg hnext =>
    obtain ⟨hanswer, hafter⟩ := hw.send ho hg r
    exact ⟨_, _, hnext _, hafter, congrArg (fun a => (next' a).run o _) hanswer.symm⟩
  | @query q g g' next next' hg hnext =>
    obtain ⟨hanswer, hafter⟩ := hw.query ho hg q
    exact ⟨_, _, hnext _, hafter, congrArg (fun a => (next' a).run o _) hanswer.symm⟩
  | @pause millis g g' next next' hg hnext =>
    obtain ⟨hanswer, hafter⟩ := hw.wait hg millis
    exact ⟨_, _, hnext _, hafter, congrArg (fun a => (next' a).run o _) hanswer.symm⟩
  | @attempt n next next' hnext => exact ⟨_, _, hnext, hw.record (.attempted n), rfl⟩
  | @isCancelled next next' hnext =>
    have hanswer : w'.cancelled = w.cancelled := hw.runs'.trans hw.runs.symm
    exact ⟨_, _, hnext _, hw, congrArg (fun a => (next' a).run o w') hanswer⟩
  | @now next next' hnext => exact ⟨_, _, hnext _ _ hw.time, hw, rfl⟩
  | @read next next' hnext =>
    exact ⟨_, _, hnext _, hw, congrArg (fun a => (next' a).run o w') hw.document.symm⟩
  | @write c next next' hnext => exact ⟨_, _, hnext, hw.write o c, rfl⟩

/-- **A program that has a like changes no document but its own.** -/
theorem Alike.frame {c : Call} {next : c.Answer → Act α} {p' : Act α}
    (h : (ask c next).Alike L R p') {slot : Slot} {key : CaseKey}
    (hother : slot = L.slot → key ≠ L.key) :
    (w.answer o c).2.stores slot key = w.stores slot key := by
  cases h with
  | write =>
    change (if slot = L.slot then _ else _ : Store) key = _
    split
    · rename_i hslot
      rw [hslot]
      exact if_neg (hother hslot)
    · rfl
  | _ => rw [World.stores_answer rfl]

end Act

end CaseScript

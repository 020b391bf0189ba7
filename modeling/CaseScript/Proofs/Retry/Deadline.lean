import CaseScript.Proofs.Act.World
import CaseScript.Proofs.Retry.Attempts

/-!
# Proofs/Retry/Deadline — attempts with a deadline, beside those without

Time passes, and what happened stays: `World.Since` orders the worlds of a run.  Two programs that
differ in their guards only, the one **free** and the other **held** to a limit, go alike until the
limit is passed: if the free one ends in time they are the same run, and if not the held one expires
just at the limit, with the events that the free one has until then (`CutAt`).  This holds of a wait,
goes through a sequence (`heldTo_bind`), and so holds of all attempts (`heldTo_retry`).
-/

namespace CaseScript

/-! ## Time passes -/

namespace World

/-- The world is the other one or comes after it: its clock is not behind, and the events since are
of the time between. -/
structure Since (w w' : World) : Prop where
  clock_le : w.clock ≤ w'.clock
  events : ∃ later, w'.events = w.events ++ later ∧
    ∀ e ∈ later, w.clock ≤ e.time ∧ e.time ≤ w'.clock

theorem Since.refl (w : World) : w.Since w := ⟨Nat.le_refl _, [], by simp⟩

theorem Since.trans {u v w : World} (h : u.Since v) (h' : v.Since w) : u.Since w := by
  obtain ⟨hle, later, hevents, htimes⟩ := h
  obtain ⟨hle', later', hevents', htimes'⟩ := h'
  refine ⟨Nat.le_trans hle hle', later ++ later', by rw [hevents', hevents, List.append_assoc], ?_⟩
  intro e he
  obtain he | he := List.mem_append.mp he
  · exact ⟨(htimes e he).1, Nat.le_trans (htimes e he).2 hle'⟩
  · exact ⟨Nat.le_trans hle (htimes' e he).1, (htimes' e he).2⟩

/-- What happened since the limit was passed is of the time after it. -/
theorem Since.later {w w' : World} {limit : Nat} (h : w.Since w') (hlate : limit < w.clock) :
    limit < w'.clock ∧ ∃ later, w'.events = w.events ++ later ∧ ∀ e ∈ later, limit < e.time := by
  obtain ⟨hle, later, hevents, htimes⟩ := h
  exact ⟨Nat.lt_of_lt_of_le hlate hle, later, hevents,
    fun e he => Nat.lt_of_lt_of_le hlate (htimes e he).1⟩

theorem since_record (w : World) (kind : EventKind) : w.Since (w.record kind) :=
  ⟨Nat.le_refl _, [⟨w.clock, kind⟩], rfl, by simp [record]⟩

theorem since_wait (w : World) (millis : Nat) (g : Guard) : w.Since (w.wait millis g).2 := by
  have hlater : ∀ clock, w.clock ≤ clock → w.Since { w with clock := clock } :=
    fun clock h => ⟨h, [], by simp⟩
  unfold wait
  split
  · exact .refl w
  · split
    · exact .refl w
    · split
      · split
        · exact hlater _ (Nat.le_max_left _ _)
        · exact hlater _ (Nat.le_add_right _ _)
      · exact hlater _ (Nat.le_add_right _ _)

theorem since_take {α : Type} (w : World) (t : Turn α) (g : Guard) :
    w.Since (w.take t g).2 := by
  rw [take_snd]
  obtain ⟨hle, later, hevents, htimes⟩ :=
    since_wait { w with cancelled := w.cancelled || t.cancels } t.delay g
  exact ⟨hle, later, hevents, htimes⟩

theorem since_answer (o : Outside) (w : World) (c : Call) : w.Since (w.answer o c).2 := by
  cases c with
  | send r g => exact (since_record w _).trans (since_take _ _ g)
  | query q g => exact (since_record w _).trans (since_take _ _ g)
  | pause millis g => exact since_wait w millis g
  | attempt n => exact since_record w _
  | isCancelled | now | read => exact .refl w
  | write => exact ⟨Nat.le_refl _, [], by simp [answer, setStore]⟩

end World

/-- **A run ends in a world that comes after the one in which it began.** -/
theorem Act.since_run {α : Type} (o : Outside) (p : Act α) (w : World) :
    w.Since (p.run o w).2 := by
  induction p generalizing w with
  | done a => exact .refl w
  | ask c next ih => exact (w.since_answer o c).trans (ih _ _)

/-! ## Free runs and held runs -/

variable {α β : Type} {limit : Nat}

/-- The held run is the free one if that ends in time, and else it expires at the limit with what had
happened until then. -/
inductive CutAt (limit : Nat) (free held : Outcome α × World) : Prop
  | inTime : free.2.clock ≤ limit → held = free → CutAt limit free held
  | late : limit < free.2.clock → held.1 = .expired → held.2.clock = limit →
      (∃ later, free.2.events = held.2.events ++ later ∧ ∀ e ∈ later, limit < e.time) →
      CutAt limit free held

namespace CutAt

variable {free held : Outcome α × World}

/-- The held run ends no later than the limit. -/
theorem clock_le (h : CutAt limit free held) : held.2.clock ≤ limit := by
  cases h with
  | inTime htime hsame => rwa [hsame]
  | late _ _ hends _ => exact Nat.le_of_eq hends

theorem eq_of_le (h : CutAt limit free held) (htime : free.2.clock ≤ limit) : held = free := by
  cases h with
  | inTime _ hsame => exact hsame
  | late hlate => omega

theorem of_lt (h : CutAt limit free held) (hlate : limit < free.2.clock) :
    held.1 = .expired ∧ held.2.clock = limit ∧
      ∃ later, free.2.events = held.2.events ++ later ∧ ∀ e ∈ later, limit < e.time := by
  cases h with
  | inTime htime => omega
  | late _ hexpired hends hevents => exact ⟨hexpired, hends, hevents⟩

/-- A wait that begins in time is cut at the limit. -/
theorem wait {w : World} (hbegins : w.clock ≤ limit) (millis : Nat) (cancellable : Bool) :
    CutAt limit (w.wait millis ⟨cancellable, none⟩) (w.wait millis ⟨cancellable, some limit⟩) := by
  unfold World.wait
  by_cases hnothing : millis = 0
  · rw [if_pos hnothing, if_pos hnothing]
    exact .inTime hbegins rfl
  rw [if_neg hnothing, if_neg hnothing]
  by_cases hcancelled : (cancellable && w.cancelled) = true
  · rw [if_pos hcancelled, if_pos hcancelled]
    exact .inTime hbegins rfl
  rw [if_neg hcancelled, if_neg hcancelled]
  dsimp only
  by_cases hlate : limit < w.clock + millis
  · rw [if_pos hlate]
    exact .late hlate rfl (Nat.max_eq_right hbegins) ⟨[], (List.append_nil _).symm, nofun⟩
  · rw [if_neg hlate]
    exact .inTime (Nat.not_lt.mp hlate) rfl

/-- A turn that begins in time is cut at the limit. -/
theorem take {w : World} (hbegins : w.clock ≤ limit) (t : Turn α) (cancellable : Bool) :
    CutAt limit (w.take t ⟨cancellable, none⟩) (w.take t ⟨cancellable, some limit⟩) := by
  have hwait := wait (w := { w with cancelled := w.cancelled || t.cancels }) hbegins t.delay
    cancellable
  have hfree := w.take_snd t ⟨cancellable, none⟩
  have hheld := w.take_snd t ⟨cancellable, some limit⟩
  cases hwait with
  | inTime htime hsame =>
    refine .inTime (by rwa [hfree]) ?_
    rw [World.take, World.take, hsame]
  | late hlate hexpired hends hevents =>
    refine .late (by rwa [hfree]) ?_ (by rwa [hheld]) (by rwa [hfree, hheld])
    rw [World.take]
    split
    · rename_i hwaited
      rw [hwaited] at hexpired
      cases hexpired
    · rename_i hwaited
      rw [hwaited] at hexpired
      cases hexpired
    · rfl

end CutAt

namespace Act

/-- From every world in which the limit is not passed, the second program is the first one held to
the limit. -/
def HeldTo (limit : Nat) (free held : Act (Outcome α)) : Prop :=
  ∀ o w, w.clock ≤ limit → CutAt limit (free.run o w) (held.run o w)

theorem heldTo_pure (out : Outcome α) : HeldTo limit (pure out) (pure out) :=
  fun _ _ hbegins => .inTime hbegins rfl

theorem heldTo_send (r : Request) (cancellable : Bool) :
    HeldTo limit (Act.send r ⟨cancellable, none⟩) (Act.send r ⟨cancellable, some limit⟩) :=
  fun o w hbegins => CutAt.take (w := w.record (.sent r)) hbegins (o.send w.events r) cancellable

theorem heldTo_pause (millis : Nat) (cancellable : Bool) :
    HeldTo limit (Act.pause millis ⟨cancellable, none⟩)
      (Act.pause millis ⟨cancellable, some limit⟩) :=
  fun _ _ hbegins => .wait hbegins millis cancellable

/-- **What goes on from a held part as from the free one is held too**, if it ends where the part
expired. -/
theorem heldTo_bind {free held : Act (Outcome α)} {k k' : Outcome α → Act (Outcome β)}
    (h : HeldTo limit free held) (hk : ∀ out, HeldTo limit (k out) (k' out))
    (hexpired : k' .expired = pure .expired) : HeldTo limit (free >>= k) (held >>= k') := by
  intro o w hbegins
  rw [run_bind, run_bind]
  cases h o w hbegins with
  | inTime htime hsame =>
    rw [hsame]
    exact hk _ o _ htime
  | late hlate hout hends hevents =>
    obtain ⟨later, hsplit, htimes⟩ := hevents
    obtain ⟨hlater, since, hsince, hafter⟩ :=
      (since_run o (k (free.run o w).1) (free.run o w).2).later hlate
    rw [hout, hexpired]
    refine .late hlater rfl hends ⟨later ++ since, ?_, ?_⟩
    · rw [hsince, hsplit, List.append_assoc]
      rfl
    · intro e he
      exact (List.mem_append.mp he).elim (htimes e) (hafter e)

/-- A call that takes no time may come first. -/
theorem heldTo_call_bind {c : Call} {k k' : c.Answer → Act (Outcome α)}
    (hinstant : ∀ o (w : World), (w.answer o c).2.clock = w.clock)
    (hk : ∀ answer, HeldTo limit (k answer) (k' answer)) :
    HeldTo limit (ask c done >>= k) (ask c done >>= k') := by
  intro o w hbegins
  rw [run_bind, run_bind]
  exact hk _ o _ ((hinstant o w).symm ▸ hbegins)

end Act

/-! ## Attempts -/

open Act

variable {ε : Type} {operation : Guard → Act (Outcome (Except ε α))} {isFinal : Except ε α → Bool}
  {millis : Nat}

/-- An attempt is held to the limit if all further ones are. -/
theorem heldTo_attempt {left n : Nat}
    (hoperation : HeldTo limit (operation ⟨true, none⟩) (operation ⟨true, some limit⟩))
    (hrest : ∀ left', left = left' + 1 →
      HeldTo limit (retryFrom millis ⟨true, none⟩ operation isFinal left' (n + 1))
        (retryFrom millis ⟨true, some limit⟩ operation isFinal left' (n + 1))) :
    HeldTo limit (retryFrom millis ⟨true, none⟩ operation isFinal left n)
      (retryFrom millis ⟨true, some limit⟩ operation isFinal left n) := by
  unfold retryFrom
  refine heldTo_call_bind (fun _ _ => rfl) fun _ => ?_
  refine heldTo_call_bind (fun _ _ => rfl) fun cancelled => ?_
  cases cancelled with
  | true => exact heldTo_pure .cancelled
  | false =>
    refine heldTo_bind hoperation (fun out => ?_) rfl
    rcases out with r | _ | _
    · cases left with
      | zero => exact heldTo_pure (.done r)
      | succ left =>
        dsimp only
        split
        · exact heldTo_pure (.done r)
        · refine heldTo_bind (heldTo_pause millis true) (fun paused => ?_) rfl
          cases paused with
          | done => exact hrest left rfl
          | cancelled => exact heldTo_pure .cancelled
          | expired => exact heldTo_pure .expired
    · exact heldTo_pure .cancelled
    · exact heldTo_pure .expired

/-- **Attempts with a deadline are those without, held to it**, by induction on the attempts that are
left. -/
theorem heldTo_retry (policy : RetryPolicy) (isRetryable : ε → Bool) (accepts : α → Bool)
    (hoperation : HeldTo limit (operation ⟨true, none⟩) (operation ⟨true, some limit⟩)) :
    HeldTo limit (retry policy none operation isRetryable accepts)
      (retry policy (some limit) operation isRetryable accepts) := by
  have hfrom : ∀ left n, HeldTo limit
      (retryFrom policy.pauseMillis ⟨true, none⟩ operation (isFinalResult isRetryable accepts) left n)
      (retryFrom policy.pauseMillis ⟨true, some limit⟩ operation
        (isFinalResult isRetryable accepts) left n) := by
    intro left
    induction left with
    | zero => exact fun n => heldTo_attempt hoperation nofun
    | succ left ih =>
      intro n
      refine heldTo_attempt hoperation fun left' hleft => ?_
      obtain rfl := Nat.succ.inj hleft
      exact ih (n + 1)
  exact hfrom _ 1

/-! ## Attempts without a deadline -/

namespace World

theorem wait_ne_expired (w : World) (millis : Nat) (cancellable : Bool) :
    (w.wait millis ⟨cancellable, none⟩).1 ≠ .expired := by
  unfold wait
  split
  · nofun
  · split <;> nofun

theorem take_ne_expired {α : Type} (w : World) (t : Turn α) (cancellable : Bool) :
    (w.take t ⟨cancellable, none⟩).1 ≠ .expired := by
  unfold take
  split
  · nofun
  · nofun
  · rename_i hwait
    exact absurd (congrArg Prod.fst hwait) (wait_ne_expired _ _ _)

end World

namespace Act

/-- No world lets the program expire. -/
def Unexpired (p : Act (Outcome α)) : Prop := ∀ o w, (p.run o w).1 ≠ .expired

theorem unexpired_done (a : α) : Unexpired (pure (.done a)) := fun _ _ => nofun

theorem unexpired_cancelled : Unexpired (pure .cancelled : Act (Outcome α)) := fun _ _ => nofun

theorem unexpired_send (r : Request) (cancellable : Bool) :
    Unexpired (Act.send r ⟨cancellable, none⟩) :=
  fun o w => (w.record (.sent r)).take_ne_expired (o.send w.events r) cancellable

theorem unexpired_pause (millis : Nat) (cancellable : Bool) :
    Unexpired (Act.pause millis ⟨cancellable, none⟩) :=
  fun _ w => w.wait_ne_expired millis cancellable

theorem unexpired_bind {p : Act (Outcome α)} {k : Outcome α → Act (Outcome β)} (hp : Unexpired p)
    (hk : ∀ out, out ≠ .expired → Unexpired (k out)) : Unexpired (p >>= k) := by
  intro o w
  rw [run_bind]
  exact hk _ (hp o w) o _

theorem unexpired_call_bind {c : Call} {k : c.Answer → Act (Outcome α)}
    (hk : ∀ answer, Unexpired (k answer)) : Unexpired (ask c done >>= k) := by
  intro o w
  rw [run_bind]
  exact hk _ o _

end Act

theorem unexpired_attempt {left n : Nat} (hoperation : Unexpired (operation ⟨true, none⟩))
    (hrest : ∀ left', left = left' + 1 →
      Unexpired (retryFrom millis ⟨true, none⟩ operation isFinal left' (n + 1))) :
    Unexpired (retryFrom millis ⟨true, none⟩ operation isFinal left n) := by
  unfold retryFrom
  refine unexpired_call_bind fun _ => unexpired_call_bind fun cancelled => ?_
  cases cancelled with
  | true => exact unexpired_cancelled
  | false =>
    refine unexpired_bind hoperation fun out hout => ?_
    rcases out with r | _ | _
    · cases left with
      | zero => exact unexpired_done r
      | succ left =>
        dsimp only
        split
        · exact unexpired_done r
        · refine unexpired_bind (unexpired_pause millis true) fun paused hpaused => ?_
          cases paused with
          | done => exact hrest left rfl
          | cancelled => exact unexpired_cancelled
          | expired => exact absurd rfl hpaused
    · exact unexpired_cancelled
    · exact absurd rfl hout

/-- **Attempts without a deadline never run out of time.** -/
theorem unexpired_retry (policy : RetryPolicy) (isRetryable : ε → Bool) (accepts : α → Bool)
    (hoperation : Unexpired (operation ⟨true, none⟩)) :
    Unexpired (retry policy none operation isRetryable accepts) := by
  have hfrom : ∀ left n, Unexpired (retryFrom policy.pauseMillis ⟨true, none⟩ operation
      (isFinalResult isRetryable accepts) left n) := by
    intro left
    induction left with
    | zero => exact fun n => unexpired_attempt hoperation nofun
    | succ left ih =>
      intro n
      refine unexpired_attempt hoperation fun left' hleft => ?_
      obtain rfl := Nat.succ.inj hleft
      exact ih (n + 1)
  exact hfrom _ 1

end CaseScript

import CaseScript.Proofs.Case.Steps
import CaseScript.Proofs.Step.Alike
import CaseScript.Proofs.Step.Stored
import CaseScript.Proofs.Text.Keyed
import Mathlib.Logic.Hydra
import Mathlib.Logic.Relation

/-!
# Proofs/Case/Isolation — cases that run side by side do not notice each other

The cases of a run share one store in memory, and the calls that they make may follow each other in
any order (`Interleaving.Step`).  Each case has a **lane** with what is left of its run and a clock
of its own, since nobody waits for the waiting of another.

Every lane **follows** the run of its case alone in debug mode (`Lane.Follows`): the two programs are
alike, and so are their documents.  A lane's own step keeps this since alike programs take alike
steps; the steps of other lanes keep it since they change other documents.  So a case that has ended
has the report and the document that it has alone (`interleaved_isolated`).

Cases that are run one after another are interleaved as well (`exists_steps_runFrom`), and debug mode
comes to the same as a store that holds the test data from the beginning (`debugging_eq_given`).
-/

namespace CaseScript

open Relation

/-! ## A case on two documents -/

/-- The report without the time at which the case started. -/
def CaseReport.undated (p : CaseReport) : CaseReport := { p with startedMs := 0 }

namespace Runner

variable {L : Likeness}

/-- The runner in debug mode: each case has a store of its own, in the slots from the given one. -/
def debugging (r : Runner) (first : Slot) : Runner := { r with plan := .separate first }

theorem alike_seed : ∀ data : Entries,
    (seed L.slot L.key data).Alike L (· = ·) (seed L.slot' L.key data)
  | [] => .done rfl
  | (_, _) :: rest => .write (alike_seed rest)

theorem alike_runSteps (x : Executor) (ctx : StepContext) (hkey : ctx.key = L.key)
    (goesOn : Bool) : ∀ specs : List StepSpec,
    (runSteps (x.here L) ctx goesOn specs).Alike L (· = ·) (runSteps (x.there L) ctx goesOn specs)
  | [] => .done rfl
  | spec :: rest => by
    refine .isCancelled fun cancelled => ?_
    cases cancelled with
    | true => exact .done rfl
    | false =>
      change ((x.here L).runStep ctx spec >>= _).Alike L (· = ·)
        ((x.there L).runStep ctx spec >>= _)
      refine Act.alike_bind_eq (x.alike_runStep ctx hkey spec) fun report => ?_
      split
      · exact .done rfl
      · exact Act.alike_bind_eq (alike_runSteps x ctx hkey goesOn rest) fun _ => .done rfl

/-- **A case runs in a shared store as it does in debug mode**, but for when it started. -/
theorem alike_runCase {r : Runner} {c : CaseDefinition} {first : Slot} {place : Nat}
    (hplan : r.plan = .shared L.slot) (hkey : r.keyOf c = L.key) (hslot : first + place = L.slot')
    (position : Nat) :
    (r.runCase position c).Alike L (fun p p' => p.undated = p'.undated)
      ((r.debugging first).runCase place c) := by
  have hstore : (r.storeFor position c).Alike L
      (fun h h' => h = .memory L.slot ∧ h' = .memory L.slot')
      ((r.debugging first).storeFor place c) := by
    have hseed := alike_seed (L := L) c.testData
    rw [← hkey, ← hslot] at hseed
    rw [storeFor, hplan]
    exact Act.alike_bind_eq hseed fun _ => .done ⟨rfl, hslot ▸ rfl⟩
  have hdocument := StoreHandle.alike_document (L := L)
  rw [← hkey] at hdocument
  refine Act.alike_now_bind fun started started' hstarted => ?_
  refine Act.alike_bind hstore ?_
  rintro _ _ ⟨rfl, rfl⟩
  refine Act.alike_bind_eq hdocument fun _ => ?_
  refine Act.alike_bind_eq (alike_runSteps (r.executor (.memory 0)) (r.contextOf c) hkey
    r.config.continueOnFailure c.orderedSteps) fun out => ?_
  refine Act.alike_now_bind fun ended ended' hended => .done ?_
  rw [CaseReport.undated, CaseReport.undated, hstarted.sub_eq hended]
  rfl

end Runner

/-! ## Cases side by side -/

/-- A case under way: its clock, and what is left of its run. -/
structure Lane where
  case : CaseDefinition
  clock : Nat
  rest : Act CaseReport

/-- Cases under way on the same stores. -/
structure Interleaving where
  stores : Slot → Store
  events : List Event
  lanes : List Lane

namespace Interleaving

/-- The world as a lane finds it. -/
def world (s : Interleaving) (lane : Lane) : World := ⟨lane.clock, false, s.stores, s.events⟩

/-- The lane makes its next call, and has the answer before any other lane goes on. -/
inductive Move (o : Outside) (lane : Lane) : Interleaving → Interleaving → Prop
  | mk {s : Interleaving} {before after : List Lane} {c : Call}
      {next : c.Answer → Act CaseReport} (hlanes : s.lanes = before ++ lane :: after)
      (hrest : lane.rest = .ask c next) :
      Move o lane s
        ⟨((s.world lane).answer o c).2.stores, ((s.world lane).answer o c).2.events,
          before ++ ⟨lane.case, ((s.world lane).answer o c).2.clock,
            next ((s.world lane).answer o c).1⟩ :: after⟩

/-- Some lane moves. -/
def Step (o : Outside) (s t : Interleaving) : Prop := ∃ lane, Move o lane s t

/-- The cases are about to begin, and the store of the run has no documents for them. -/
structure Starts (r : Runner) (slot : Slot) (cs : List CaseDefinition) (s : Interleaving) :
    Prop where
  cases : s.lanes.map (·.case) = cs
  begins : ∀ lane ∈ s.lanes, ∃ position, lane.rest = r.runCase position lane.case
  fresh : ∀ c ∈ cs, s.stores slot (r.keyOf c) = []

end Interleaving

open Interleaving

/-- The lane stands where the run of its case alone in debug mode stands, whenever and wherever that
is. -/
def Lane.Follows (r : Runner) (slot : Slot) (o : Outside) (s : Interleaving) (lane : Lane) : Prop :=
  ∀ (first : Slot) (place : Nat) (w : World), w.cancelled = false →
    w.stores (first + place) (r.keyOf lane.case) = [] →
    ∃ (L : Likeness) (p : Act CaseReport) (v : World),
      L.key = r.keyOf lane.case ∧ L.slot = slot ∧ L.slot' = first + place ∧
      lane.rest.Alike L (fun p p' => p.undated = p'.undated) p ∧ (s.world lane).Alike L v ∧
      ((r.debugging first).runCase place lane.case).run o w = p.run o v

section

variable {r : Runner} {slot : Slot} {o : Outside} {s t : Interleaving} {lane : Lane}

/-- A lane that is about to begin follows its case alone. -/
theorem follows_of_begins (hplan : r.plan = .shared slot) {position : Nat}
    (hrest : lane.rest = r.runCase position lane.case)
    (hfresh : s.stores slot (r.keyOf lane.case) = []) : lane.Follows r slot o s := by
  intro first place w hruns hempty
  refine ⟨⟨r.keyOf lane.case, slot, first + place, lane.clock, w.clock⟩, _, w, rfl, rfl, rfl, ?_,
    ⟨rfl, hruns, Nat.add_comm _ _, hfresh.trans hempty.symm⟩, rfl⟩
  rw [hrest]
  exact Runner.alike_runCase hplan rfl rfl position

/-- A lane that follows its case changes no document but that of the case. -/
theorem stores_of_move (hmove : Move o lane s t) (hfollows : lane.Follows r slot o s)
    {slot' : Slot} {key : CaseKey} (hother : slot' = slot → key ≠ r.keyOf lane.case) :
    t.stores slot' key = s.stores slot' key := by
  obtain ⟨hlanes, hrest⟩ := hmove
  obtain ⟨L, p, v, hkey, hslot, -, halike, -, -⟩ := hfollows 0 0 .start rfl rfl
  rw [hrest] at halike
  rw [← hkey, ← hslot] at hother
  exact halike.frame hother

theorem mem_of_move (hmove : Move o lane s t) : lane ∈ s.lanes := by
  obtain ⟨hlanes, -⟩ := hmove
  rw [hlanes]
  exact List.mem_append_right _ List.mem_cons_self

theorem cases_of_move (hmove : Move o lane s t) :
    t.lanes.map (·.case) = s.lanes.map (·.case) := by
  obtain ⟨hlanes, -⟩ := hmove
  rw [hlanes]
  simp

/-- A lane that moves goes on following its case. -/
theorem follows_of_answer (ho : o.Steady) {c : Call} {next : c.Answer → Act CaseReport}
    (hrest : lane.rest = .ask c next) (hfollows : lane.Follows r slot o s) (lanes : List Lane) :
    let w := ((s.world lane).answer o c).2
    Lane.Follows r slot o ⟨w.stores, w.events, lanes⟩
      ⟨lane.case, w.clock, next ((s.world lane).answer o c).1⟩ := by
  intro w first place v hruns hempty
  obtain ⟨L, p, v', hkey, hslot, hslot', halike, hworld, hrun⟩ := hfollows first place v hruns hempty
  rw [hrest] at halike
  obtain ⟨q, v'', hnext, hafter, hsame⟩ := halike.step ho hworld
  exact ⟨L, q, v'', hkey, hslot, hslot', hnext,
    ⟨rfl, hafter.runs', hafter.time, hafter.document⟩, hrun.trans hsame⟩

/-- A lane goes on following its case while its document stays. -/
theorem Lane.Follows.of_document (hfollows : lane.Follows r slot o s)
    (hdocument : t.stores slot (r.keyOf lane.case) = s.stores slot (r.keyOf lane.case)) :
    lane.Follows r slot o t := by
  intro first place w hruns hempty
  obtain ⟨L, p, v, hkey, hslot, hslot', halike, hworld, hrun⟩ := hfollows first place w hruns hempty
  rw [← hkey, ← hslot] at hdocument
  exact ⟨L, p, v, hkey, hslot, hslot', halike,
    ⟨rfl, hworld.runs', hworld.time, hdocument.trans hworld.document⟩, hrun⟩

/-- **A move of one lane keeps all lanes following their cases**, if no two cases have one id. -/
theorem follows_of_move (ho : o.Steady) (hmove : Move o lane s t)
    (hids : (s.lanes.map fun l => l.case.id).Nodup)
    (hfollows : ∀ l ∈ s.lanes, l.Follows r slot o s) : ∀ l ∈ t.lanes, l.Follows r slot o t := by
  have hstores : ∀ l ∈ s.lanes, l.case.id ≠ lane.case.id → l.Follows r slot o t := by
    intro l hl hne
    refine (hfollows l hl).of_document (stores_of_move hmove (hfollows lane (mem_of_move hmove)) ?_)
    exact fun _ hkey => hne (congrArg CaseKey.case hkey)
  have hmoved := hfollows lane (mem_of_move hmove)
  obtain ⟨hlanes, hrest⟩ := hmove
  rw [hlanes] at hids hstores
  rw [List.map_append, List.map_cons, List.nodup_middle, List.nodup_cons, ← List.map_append,
    List.mem_map] at hids
  intro l hl
  obtain hl | hl | hl : l ∈ _ ∨ l = _ ∨ l ∈ _ := by
    rwa [List.mem_append, List.mem_cons] at hl
  · exact hstores l (List.mem_append_left _ hl) fun hid =>
      hids.1 ⟨l, List.mem_append_left _ hl, hid⟩
  · rw [hl]
    exact follows_of_answer ho hrest hmoved _
  · exact hstores l (List.mem_append_right _ (List.mem_cons_of_mem _ hl)) fun hid =>
      hids.1 ⟨l, List.mem_append_right _ hl, hid⟩

/-- **However the cases are interleaved, every lane follows its case alone.** -/
theorem follows_of_steps (hplan : r.plan = .shared slot) (ho : o.Steady)
    {cs : List CaseDefinition} (hids : (cs.map (·.id)).Nodup) (hstart : s.Starts r slot cs)
    (hsteps : ReflTransGen (Step o) s t) :
    t.lanes.map (·.case) = cs ∧ ∀ l ∈ t.lanes, l.Follows r slot o t := by
  induction hsteps with
  | refl =>
    refine ⟨hstart.cases, fun l hl => ?_⟩
    obtain ⟨position, hrest⟩ := hstart.begins l hl
    refine follows_of_begins hplan hrest (hstart.fresh l.case ?_)
    rw [← hstart.cases]
    exact List.mem_map_of_mem hl
  | @tail t u _ hstep ih =>
    obtain ⟨lane, hmove⟩ := hstep
    refine ⟨(cases_of_move hmove).trans ih.1, follows_of_move ho hmove ?_ ih.2⟩
    rw [← ih.1, List.map_map] at hids
    exact hids

/-! ## The end of an interleaving -/

/-- A lane that has ended has the report and the document of its case alone. -/
theorem Lane.Follows.of_done (hfollows : lane.Follows r slot o s) {report : CaseReport}
    (hdone : lane.rest = .done report) {first place : Nat} {w : World} (hruns : w.cancelled = false)
    (hempty : w.stores (first + place) (r.keyOf lane.case) = []) :
    let alone := ((r.debugging first).runCase place lane.case).run o w
    report.undated = alone.1.undated ∧
      s.stores slot (r.keyOf lane.case) = alone.2.stores (first + place) (r.keyOf lane.case) := by
  obtain ⟨L, p, v, hkey, hslot, hslot', halike, hworld, hrun⟩ := hfollows first place w hruns hempty
  rw [hdone] at halike
  cases halike with
  | done hsame =>
    rw [hrun, ← hkey, ← hslot, ← hslot']
    exact ⟨hsame, hworld.document⟩

/-- A lane that has not ended can move. -/
theorem done_or_moves (o : Outside) (hlane : lane ∈ s.lanes) :
    (∃ report, lane.rest = .done report) ∨ ∃ t, Move o lane s t := by
  cases hrest : lane.rest with
  | done report => exact .inl ⟨report, rfl⟩
  | ask c next =>
    obtain ⟨before, after, hlanes⟩ := List.append_of_mem hlane
    exact .inr ⟨_, .mk hlanes hrest⟩

end

/-- **Every interleaving ends**: a step shortens what is left of one lane. -/
theorem Interleaving.wellFounded_step (o : Outside) :
    WellFounded fun t s : Interleaving => s.Step o t := by
  refine Subrelation.wf ?_ (InvImage.wf
    (fun s : Interleaving => (s.lanes.map (·.rest) : Multiset (Act CaseReport)))
    Act.wellFounded_left.cutExpand)
  rintro t s ⟨lane, ⟨hlanes, hrest⟩⟩
  simp only [InvImage, hlanes, List.map_append, List.map_cons]
  rw [Multiset.coe_eq_coe.mpr List.perm_middle, Multiset.coe_eq_coe.mpr List.perm_middle,
    ← Multiset.cons_coe, ← Multiset.cons_coe, ← Multiset.singleton_add, ← Multiset.singleton_add]
  exact cutExpand_single_add ⟨_, _, _, hrest, rfl⟩ _

/-! ## Cases one after another -/

section

variable {r : Runner} {slot : Slot} {o : Outside} (ho : o.Steady)
include ho

/-- A lane may run to its end before any other moves. -/
theorem steps_of_run (c : CaseDefinition) (before after : List Lane) {w : World}
    (hruns : w.cancelled = false) (p : Act CaseReport) :
    let run := p.run o w
    run.2.cancelled = false ∧ ReflTransGen (Step o)
      ⟨w.stores, w.events, before ++ ⟨c, w.clock, p⟩ :: after⟩
      ⟨run.2.stores, run.2.events, before ++ ⟨c, run.2.clock, .done run.1⟩ :: after⟩ := by
  induction p generalizing w with
  | done report => exact ⟨hruns, .refl⟩
  | ask call next ih =>
    have hnext := (World.cancelled_answer ho w call).trans hruns
    obtain ⟨hends, hsteps⟩ := ih (w.answer o call).1 hnext
    refine ⟨hends, .head ⟨⟨c, w.clock, .ask call next⟩, ?_⟩ hsteps⟩
    obtain ⟨clock, cancelled, stores, events⟩ := w
    obtain rfl : cancelled = false := hruns
    exact .mk rfl rfl

/-- **Cases that run one after another are interleaved**, each with a clock that shows the end of
the one before when it begins. -/
theorem exists_steps_runFrom (r : Runner) : ∀ (cs : List CaseDefinition) (position : Nat)
    (before : List Lane) {w : World}, w.cancelled = false →
    ∃ lanes ended, lanes.map (·.case) = cs ∧ ended.map (·.case) = cs ∧
      (∀ lane ∈ lanes, ∃ place, lane.rest = r.runCase place lane.case) ∧
      List.Forall₂ (fun lane report => lane.rest = .done report) ended
        ((r.runFrom position cs).run o w).1 ∧
      ReflTransGen (Step o) ⟨w.stores, w.events, before ++ lanes⟩
        ⟨((r.runFrom position cs).run o w).2.stores, ((r.runFrom position cs).run o w).2.events,
          before ++ ended⟩
  | [], _, before, w, _ => ⟨[], [], rfl, rfl, nofun, .nil, .refl⟩
  | c :: cs, position, before, w, hruns => by
    have hrun : (r.runFrom position (c :: cs)).run o w =
        (((r.runCase position c).run o w).1 ::
            ((r.runFrom (position + 1) cs).run o ((r.runCase position c).run o w).2).1,
          ((r.runFrom (position + 1) cs).run o ((r.runCase position c).run o w).2).2) := by
      rw [Runner.runFrom, Act.run_bind, Act.run_bind]
      rfl
    rw [hrun]
    generalize hcase : (r.runCase position c).run o w = run
    have hlane := fun after => steps_of_run ho c before after hruns (r.runCase position c)
    rw [hcase] at hlane
    obtain ⟨lanes, ended, hcases, hended, hbegins, hdone, hsteps⟩ :=
      exists_steps_runFrom r cs (position + 1) (before ++ [⟨c, run.2.clock, .done run.1⟩])
        (hlane []).1
    refine ⟨⟨c, w.clock, r.runCase position c⟩ :: lanes, ⟨c, run.2.clock, .done run.1⟩ :: ended,
      congrArg (c :: ·) hcases, congrArg (c :: ·) hended, ?_, .cons rfl hdone, ?_⟩
    · exact List.forall_mem_cons.mpr ⟨⟨position, rfl⟩, hbegins⟩
    · rw [List.append_assoc, List.append_assoc] at hsteps
      exact (hlane lanes).2.trans hsteps

/-- **Cases that run in order are isolated.** -/
theorem Runner.runAll_isolated (hplan : r.plan = .shared slot) {cs : List CaseDefinition}
    (hids : (cs.map (·.id)).Nodup) {w : World} (hruns : w.cancelled = false)
    (hfresh : ∀ c ∈ cs, w.stores slot (r.keyOf c) = []) :
    let run := (r.runAll cs).run o w
    List.Forall₂ (fun c report => ∀ (first : Slot) (place : Nat) (v : World), v.cancelled = false →
        v.stores (first + place) (r.keyOf c) = [] →
        let alone := ((r.debugging first).runCase place c).run o v
        report.undated = alone.1.undated ∧
          run.2.stores slot (r.keyOf c) = alone.2.stores (first + place) (r.keyOf c)) cs run.1 := by
  intro run
  obtain ⟨lanes, ended, hcases, hended, hbegins, hdone, hsteps⟩ :=
    exists_steps_runFrom ho r cs 0 [] hruns
  obtain ⟨-, hfollows⟩ := follows_of_steps hplan ho hids ⟨hcases, hbegins, hfresh⟩ hsteps
  rw [← hended, List.forall₂_map_left_iff]
  refine List.Forall₂.imp ?_ ((List.forall₂_and_left _ _).mpr ⟨hfollows, hdone⟩)
  rintro lane report ⟨hlane, hreport⟩ first place v hv hempty
  exact hlane.of_done hreport hv hempty

end

/-! ## In any order -/

/-- **Cases that run side by side are isolated.**  Whatever calls follow each other, a case that has
ended has the report and the document that it has when it runs alone in debug mode on a fresh store.
A case changes its own document only, a case that has not ended can go on, and all of them come to
an end. -/
theorem Runner.interleaved_isolated {r : Runner} {slot : Slot} (hplan : r.plan = .shared slot)
    {o : Outside} (ho : o.Steady) {cs : List CaseDefinition} (hids : (cs.map (·.id)).Nodup)
    {s t : Interleaving} (hstart : s.Starts r slot cs) (hsteps : ReflTransGen (Step o) s t) :
    t.lanes.map (·.case) = cs ∧
      (∀ lane ∈ t.lanes, ∀ report, lane.rest = .done report →
        ∀ (first : Slot) (place : Nat) (w : World), w.cancelled = false →
          w.stores (first + place) (r.keyOf lane.case) = [] →
          let alone := ((r.debugging first).runCase place lane.case).run o w
          report.undated = alone.1.undated ∧
            t.stores slot (r.keyOf lane.case) =
              alone.2.stores (first + place) (r.keyOf lane.case)) ∧
      (∀ lane u, Move o lane t u → ∀ slot' key, (slot' = slot → key ≠ r.keyOf lane.case) →
        u.stores slot' key = t.stores slot' key) ∧
      (∀ lane ∈ t.lanes, (∃ report, lane.rest = .done report) ∨ ∃ u, Move o lane t u) ∧
      Acc (fun v u => u.Step o v) t := by
  obtain ⟨hcases, hfollows⟩ := follows_of_steps hplan ho hids hstart hsteps
  refine ⟨hcases, ?_, ?_, fun lane hlane => done_or_moves o hlane, (wellFounded_step o).apply t⟩
  · intro lane hlane report hdone first place w hruns hempty
    exact (hfollows lane hlane).of_done hdone hruns hempty
  · intro lane u hmove slot' key hother
    exact stores_of_move hmove (hfollows lane (mem_of_move hmove)) hother

/-- A case of one step that stores what a call gives. -/
def callingCase (id : String) : CaseDefinition :=
  ⟨id, none, "", "", [], [], [], [⟨1, "call", [("test", Executor.callUnder "orderId")]⟩]⟩

/-- A runner whose cases share the first store. -/
def sharingRunner : Runner := ⟨"", .standard, .shared 0, .fixed ⟨[], [], []⟩, none⟩

/-- Two such cases can run to their ends side by side, and both have what they have alone. -/
theorem callingCases_isolated :
    let cs := [callingCase "a", callingCase "b"]
    ∃ s t : Interleaving, s.Starts sharingRunner 0 cs ∧ ReflTransGen (Step Executor.rowDatabase) s t ∧
      t.lanes.map (·.case) = cs ∧
      ∀ lane ∈ t.lanes, ∃ report, lane.rest = .done report ∧
        let alone := ((sharingRunner.debugging 0).runCase 0 lane.case).run Executor.rowDatabase .start
        report.undated = alone.1.undated ∧
          t.stores 0 (sharingRunner.keyOf lane.case) =
            alone.2.stores 0 (sharingRunner.keyOf lane.case) := by
  intro cs
  have hsteady : Executor.rowDatabase.Steady :=
    ⟨fun _ _ => rfl, fun _ _ => rfl, fun _ => rfl, fun _ => rfl⟩
  obtain ⟨lanes, ended, hcases, hended, hbegins, hdone, hsteps⟩ :=
    exists_steps_runFrom hsteady sharingRunner cs 0 [] (w := .start) rfl
  have hstart : Starts sharingRunner 0 cs ⟨World.start.stores, World.start.events, lanes⟩ :=
    ⟨hcases, hbegins, fun _ _ => rfl⟩
  obtain ⟨hsame, hisolated, -⟩ := Runner.interleaved_isolated rfl hsteady (by decide) hstart hsteps
  refine ⟨_, _, hstart, hsteps, hsame, fun lane hlane => ?_⟩
  obtain ⟨i, hi, rfl⟩ := List.getElem_of_mem hlane
  have hreport := hdone.get hi (hdone.length_eq ▸ hi)
  exact ⟨_, hreport, hisolated _ hlane _ hreport 0 0 .start rfl rfl⟩

/-! ## Test data that is there already -/

namespace World

/-- The world with another document of a case. -/
def hold (w : World) (slot : Slot) (key : CaseKey) (document : Entries) : World :=
  w.setStore slot ((w.stores slot).set key document)

@[simp] theorem stores_hold (w : World) (slot : Slot) (key : CaseKey) (document : Entries) :
    (w.hold slot key document).stores slot key = document := by
  simp [hold, setStore, Store.set]

theorem hold_self (w : World) (slot : Slot) (key : CaseKey) :
    w.hold slot key (w.stores slot key) = w := by
  have hstores : (w.hold slot key (w.stores slot key)).stores = w.stores := by
    funext i k
    by_cases hi : i = slot <;> by_cases hk : k = key <;> simp [hold, setStore, Store.set, hi, hk]
  obtain ⟨clock, cancelled, stores, events⟩ := w
  exact congrArg (fun stores => (⟨clock, cancelled, stores, events⟩ : World)) hstores

theorem hold_hold (w : World) (slot : Slot) (key : CaseKey) (document document' : Entries) :
    (w.hold slot key document).hold slot key document' = w.hold slot key document' := by
  have hstores : ((w.hold slot key document).hold slot key document').stores =
      (w.hold slot key document').stores := by
    funext i k
    by_cases hi : i = slot <;> by_cases hk : k = key <;> simp [hold, setStore, Store.set, hi, hk]
  exact congrArg (fun stores => (⟨w.clock, w.cancelled, stores, w.events⟩ : World)) hstores

end World

namespace Runner

/-- Test data that is put in key by key is added to the document. -/
theorem run_seed (o : Outside) (slot : Slot) (key : CaseKey) : ∀ (data : Entries) (w : World),
    (seed slot key data).run o w = ((), w.hold slot key
      (data.foldl (fun es e => es.insert e.1 e.2) (w.stores slot key)))
  | [], w => by
    rw [List.foldl_nil, w.hold_self]
    rfl
  | (name, value) :: rest, w => by
    have hwritten : (w.answer o (.write slot key (.merge name value))).2 =
        w.hold slot key ((w.stores slot key).insert name value) := rfl
    change (seed slot key rest).run o (w.answer o (.write slot key (.merge name value))).2 = _
    rw [hwritten, run_seed o slot key rest, World.hold_hold, World.stores_hold, List.foldl_cons]

/-- **A case in debug mode runs as on a store that holds its test data from the beginning.** -/
theorem debugging_eq_given (r : Runner) (o : Outside) {c : CaseDefinition}
    (hdata : Keyed.Increasing c.testData) {first : Slot} {place : Nat} {w : World}
    (hempty : w.stores (first + place) (r.keyOf c) = []) :
    ((r.debugging first).runCase place c).run o w =
      (({ r with plan := .given (.memory (first + place)) } : Runner).runCase place c).run o
        (w.hold (first + place) (r.keyOf c) c.testData) := by
  have hseed : ((r.debugging first).storeFor place c).run o w =
      (.memory (first + place), w.hold (first + place) (r.keyOf c) c.testData) := by
    change ((seed (first + place) (r.keyOf c) c.testData) >>= fun _ => pure _).run o w = _
    rw [Act.run_bind, run_seed, hempty]
    exact congrArg (fun document => (_, w.hold (first + place) (r.keyOf c) document))
      (Keyed.ofPairs_eq_self hdata)
  change ((r.debugging first).storeFor place c >>= _).run o w = _
  rw [Act.run_bind, hseed]
  rfl

end Runner

end CaseScript

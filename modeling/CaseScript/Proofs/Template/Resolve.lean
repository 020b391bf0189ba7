import CaseScript.Proofs.Act.Trace
import CaseScript.Proofs.Template.Plain
import CaseScript.Template.Resolve

/-!
# Proofs/Template/Resolve — resolving a part, and a part of what is resolved

As long as what is outside does not change, a part of a template at a plain path resolves to the
part at that path of what the template resolves to (`resolvePasses_walk`).  The passes that the
template takes and those of its part may differ: what has no names left is left alone by all further
ones.
-/

namespace CaseScript

namespace Template

mutual

theorem blank_not_mem_namesIn : ∀ v : Json, "" ∉ namesIn v
  | .str s => blank_not_mem_namesInText s
  | .arr items => blank_not_mem_namesInItems items
  | .obj entries => blank_not_mem_namesInEntries entries
  | .null | .bool _ | .num _ => List.not_mem_nil

theorem blank_not_mem_namesInItems : ∀ vs : List Json, "" ∉ namesInItems vs
  | [] => List.not_mem_nil
  | v :: vs => fun h => (List.mem_append.mp h).elim (blank_not_mem_namesIn v)
      (blank_not_mem_namesInItems vs)

theorem blank_not_mem_namesInEntries : ∀ es : List (String × Json), "" ∉ namesInEntries es
  | [] => List.not_mem_nil
  | (k, v) :: es => fun h => (List.mem_append.mp h).elim (blank_not_mem_namesInText k) fun h =>
      (List.mem_append.mp h).elim (blank_not_mem_namesIn v) (blank_not_mem_namesInEntries es)

end

theorem mem_placeholderNames {v : Json} {n : String} : n ∈ placeholderNames v ↔ n ∈ namesIn v :=
  mem_nameSet

theorem blank_not_mem_placeholderNames (v : Json) : "" ∉ placeholderNames v := fun h =>
  blank_not_mem_namesIn v (mem_placeholderNames.mp h)

theorem placeholderNames_eq_nil {v : Json} : placeholderNames v = [] ↔ namesIn v = [] :=
  nameSet_eq_nil

end Template

namespace Sources

open Template

variable {s : Sources} {ctx : StepContext} {scope : Scope} {env : (c : Call) → c.Answer}

/-! ## Fetching names -/

/-- Every entry that is fetched is the value of its name, and no name is left out or added. -/
theorem fetchAll_ok {names : List String} {values : Entries}
    (h : (s.fetchAll ctx scope names).answered env = .ok values) :
    values.keys = names ∧ ∀ e ∈ values, (s.resolveName ctx scope e.1).answered env = .ok e.2 := by
  induction names generalizing values with
  | nil =>
    obtain rfl := Except.ok.inj h
    exact ⟨rfl, fun e he => absurd he List.not_mem_nil⟩
  | cons n names ih =>
    rw [fetchAll, Act.answered_bind] at h
    cases hn : (s.resolveName ctx scope n).answered env with
    | error e => rw [hn] at h; cases h
    | ok v =>
      rw [hn] at h
      dsimp only at h
      rw [Act.answered_bind] at h
      cases hrest : (s.fetchAll ctx scope names).answered env with
      | error e => rw [hrest] at h; cases h
      | ok rest =>
        rw [hrest] at h
        obtain rfl := Except.ok.inj h
        obtain ⟨hkeys, hvalues⟩ := ih hrest
        exact ⟨congrArg (n :: ·) hkeys, List.forall_mem_cons.mpr ⟨hn, hvalues⟩⟩

theorem fetchAll_of_ok {names : List String}
    (h : ∀ n ∈ names, ∃ v, (s.resolveName ctx scope n).answered env = .ok v) :
    ∃ values, (s.fetchAll ctx scope names).answered env = .ok values := by
  induction names with
  | nil => exact ⟨[], rfl⟩
  | cons n names ih =>
    obtain ⟨⟨v, hv⟩, hrest⟩ := List.forall_mem_cons.mp h
    obtain ⟨values, hvalues⟩ := ih hrest
    refine ⟨(n, v) :: values, ?_⟩
    rw [fetchAll, Act.answered_bind, hv]
    dsimp only
    rw [Act.answered_bind, hvalues]
    rfl

/-- What is fetched for some names is, for those of them that are fetched again, the same. -/
theorem agree_fetchAll {names names' : List String} {values values' : Entries}
    (hblank : "" ∉ names) (hblank' : "" ∉ names') (hsub : ∀ n ∈ names', n ∈ names)
    (h : (s.fetchAll ctx scope names).answered env = .ok values)
    (h' : (s.fetchAll ctx scope names').answered env = .ok values') :
    Agree values' values names' := by
  obtain ⟨rfl, hvalues⟩ := fetchAll_ok h
  obtain ⟨rfl, hvalues'⟩ := fetchAll_ok h'
  refine ⟨Keyed.get?_eq_none_iff.mpr hblank', Keyed.get?_eq_none_iff.mpr hblank, fun n hn => ?_⟩
  obtain ⟨v, hv⟩ := Keyed.exists_get? hn
  obtain ⟨v', hv'⟩ := Keyed.exists_get? (hsub n hn)
  have hsame : (.ok v : Except StepError Json) = .ok v' :=
    (hvalues' _ (Keyed.mem_of_get? hv)).symm.trans (hvalues _ (Keyed.mem_of_get? hv'))
  rw [hv, hv', Except.ok.inj hsame]

/-! ## Passes -/

theorem resolvePasses_eq_self (passes : Nat) {v : Json} (h : namesIn v = []) :
    (s.resolvePasses ctx scope passes v).answered env = .ok v := by
  cases passes with
  | zero => rfl
  | succ passes => rw [resolvePasses, placeholderNames_eq_nil.mpr h]; rfl

theorem resolvePasses_succ (passes : Nat) {v : Json} (h : namesIn v ≠ []) :
    (s.resolvePasses ctx scope (passes + 1) v).answered env =
      match (s.fetchAll ctx scope (placeholderNames v)).answered env with
      | .error e => .error e
      | .ok values => (s.resolvePasses ctx scope passes (fill values false v)).answered env := by
  rw [resolvePasses]
  split
  · exact absurd (placeholderNames_eq_nil.mp ‹_›) h
  · rw [Act.answered_bind]
    cases (s.fetchAll ctx scope (placeholderNames v)).answered env <;> rfl

/-- What a pass can do: leave a template without names as it is, or fetch them all and fill it. -/
theorem resolvePasses_cases {passes : Nat} {v v' : Json}
    (h : (s.resolvePasses ctx scope (passes + 1) v).answered env = .ok v') :
    (namesIn v = [] ∧ v' = v) ∨ ∃ values,
      (s.fetchAll ctx scope (placeholderNames v)).answered env = .ok values ∧
        (s.resolvePasses ctx scope passes (fill values false v)).answered env = .ok v' := by
  by_cases hnames : namesIn v = []
  · rw [resolvePasses_eq_self _ hnames] at h
    exact .inl ⟨hnames, (Except.ok.inj h).symm⟩
  · rw [resolvePasses_succ passes hnames] at h
    cases hvalues : (s.fetchAll ctx scope (placeholderNames v)).answered env with
    | error e => rw [hvalues] at h; cases h
    | ok values =>
      rw [hvalues] at h
      exact .inr ⟨values, rfl, h⟩

/-- A pass over a part of a template may as well use the values of the whole. -/
theorem resolvePasses_part (passes : Nat) {v w : Json} {values : Entries}
    (hvalues : (s.fetchAll ctx scope (placeholderNames v)).answered env = .ok values)
    (hnames : ∀ n ∈ namesIn w, n ∈ namesIn v) (hsorted : w.Sorted) :
    (s.resolvePasses ctx scope (passes + 1) w).answered env =
      (s.resolvePasses ctx scope passes (fill values false w)).answered env := by
  have hblank := blank_not_mem_placeholderNames
  have hsub : ∀ n ∈ placeholderNames w, n ∈ placeholderNames v := fun n hn =>
    mem_placeholderNames.mpr (hnames n (mem_placeholderNames.mp hn))
  obtain ⟨hkeys, hentries⟩ := fetchAll_ok hvalues
  by_cases hw : namesIn w = []
  · have hnone : values.get? "" = none := Keyed.get?_eq_none_iff.mpr (hkeys ▸ hblank v)
    rw [fill_eq_self hnone false w hw hsorted, resolvePasses_eq_self _ hw,
      resolvePasses_eq_self _ hw]
  · obtain ⟨values', hvalues'⟩ : ∃ values',
        (s.fetchAll ctx scope (placeholderNames w)).answered env = .ok values' := by
      refine fetchAll_of_ok fun n hn => ?_
      obtain ⟨u, hu⟩ := Keyed.exists_get? (hkeys ▸ hsub n hn)
      exact ⟨u, hentries _ (Keyed.mem_of_get? hu)⟩
    have hagree : Agree values' values (namesIn w) :=
      (agree_fetchAll (hblank v) (hblank w) hsub hvalues hvalues').mono fun n hn =>
        mem_placeholderNames.mpr hn
    rw [resolvePasses_succ _ hw, hvalues']
    dsimp only
    rw [fill_congr false w hagree]

/-- **A part of a template, at a plain path, resolves to the part of what the template resolves
to**, by induction on the passes: filling the template fills its part, and keeps the path plain. -/
theorem resolvePasses_walk
    (hfetched : ∀ n v, (s.resolveName ctx scope n).answered env = .ok v → v.Sorted)
    {passes : Nat} {v v' w : Json} {path : List String} (hsorted : v.Sorted)
    (h : (s.resolvePasses ctx scope passes v).answered env = .ok v')
    (hw : plainWalk? v path = some w) :
    ∃ w', (s.resolvePasses ctx scope passes w).answered env = .ok w' ∧
      plainWalk? v' path = some w' := by
  induction passes generalizing v w with
  | zero =>
    obtain rfl := Except.ok.inj h
    exact ⟨w, rfl, hw⟩
  | succ passes ih =>
    have hwalk := walk?_of_plainWalk? hw
    have hnames : ∀ n ∈ namesIn w, n ∈ namesIn v := fun n hn => mem_namesIn_of_walk? hwalk hn
    obtain ⟨hnone, rfl⟩ | ⟨values, hvalues, hrest⟩ := resolvePasses_cases h
    · have hnone : namesIn w = [] := List.eq_nil_iff_forall_not_mem.mpr fun n hn =>
        absurd (hnames n hn) (hnone ▸ List.not_mem_nil)
      exact ⟨w, resolvePasses_eq_self _ hnone, hw⟩
    · obtain ⟨hkeys, hentries⟩ := fetchAll_ok hvalues
      have hblank : values.get? "" = none := by
        rw [Keyed.get?_eq_none_iff, hkeys, mem_placeholderNames]
        exact blank_not_mem_namesIn v
      have hsortedValues : Json.EntriesSorted values :=
        Json.entriesSorted_iff.mpr fun e he => hfetched e.1 e.2 (hentries e he)
      rw [resolvePasses_part passes hvalues hnames (Json.sorted_walk? hsorted hwalk)]
      exact ih (fill_sorted hsortedValues false v) hrest (plainWalk?_fill hblank hsorted hw)

end Sources

end CaseScript

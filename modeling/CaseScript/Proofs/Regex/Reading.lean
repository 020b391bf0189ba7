import CaseScript.Proofs.Regex.Steps

/-!
# Proofs/Regex/Reading — patterns in a group

A pattern is read element by element (`Takes`).  Put in a group, it is read as before if it is read
by itself (`Takes.append`), unless it ends in a comment, which then hides the end of the group
(`EndsInComment`).  If it is not read by itself, neither is it in a group (`Takes.of_append`) —
unless it closes the group too early, and what is left of it is read outside (`ClosesUnopened`).
-/

namespace CaseScript.Regex

namespace Reader

/-- The elements of a text are taken one after another, up to its end. -/
inductive Takes : Reader → List Char → Reader → Prop
  | done {s : Reader} {cs : List Char} : skipSpace s.flags.spaced cs = [] → Takes s cs s
  | step {s s' t : Reader} {c : Char} {cs cs' rest : List Char} :
      skipSpace s.flags.spaced cs = c :: cs' → s.step c cs' = some (s', rest) → Takes s' rest t →
      Takes s cs t

theorem takes_of_skipSpace {s t : Reader} {cs : List Char}
    (h : skipSpace s.flags.spaced cs = []) : Takes s cs t ↔ t = s := by
  constructor
  · intro htakes
    cases htakes with
    | done => rfl
    | step hskip => exact absurd (h.symm.trans hskip) (List.cons_ne_nil _ _).symm
  · rintro rfl
    exact .done h

theorem takes_of_step {s s' t : Reader} {c : Char} {cs cs' rest : List Char}
    (hskip : skipSpace s.flags.spaced cs = c :: cs') (hstep : s.step c cs' = some (s', rest)) :
    Takes s cs t ↔ Takes s' rest t := by
  refine ⟨fun htakes => ?_, .step hskip hstep⟩
  cases htakes with
  | done h => exact absurd (h.symm.trans hskip) (List.cons_ne_nil _ _).symm
  | step hskip' hstep' hrest =>
    cases hskip.symm.trans hskip'
    cases hstep.symm.trans hstep'
    exact hrest

theorem not_takes_of_step {s t : Reader} {c : Char} {cs cs' : List Char}
    (hskip : skipSpace s.flags.spaced cs = c :: cs') (hstep : s.step c cs' = none) :
    ¬Takes s cs t := by
  intro htakes
  cases htakes with
  | done h => exact List.cons_ne_nil _ _ (hskip.symm.trans h)
  | step hskip' hstep' =>
    cases hskip.symm.trans hskip'
    cases hstep.symm.trans hstep'

/-- Space at the start of a text makes no difference. -/
theorem takes_congr {s t : Reader} {cs ds : List Char}
    (h : skipSpace s.flags.spaced cs = skipSpace s.flags.spaced ds) :
    Takes s cs t ↔ Takes s ds t := by
  cases hds : skipSpace s.flags.spaced ds with
  | nil => rw [takes_of_skipSpace hds, takes_of_skipSpace (h.trans hds)]
  | cons c ds' =>
    cases hstep : s.step c ds' with
    | none =>
      exact iff_of_false (not_takes_of_step (h.trans hds) hstep) (not_takes_of_step hds hstep)
    | some found => rw [takes_of_step (h.trans hds) hstep, takes_of_step hds hstep]

theorem run_eq_some_iff {n : Nat} : ∀ {s t : Reader} {cs : List Char}, cs.length < n →
    (run n s cs = some t ↔ Takes s cs t) := by
  induction n with
  | zero => intro s t cs hn; cases hn
  | succ n ih =>
    intro s t cs hn
    rw [run]
    have hlength := (skipSpace_suffix s.flags.spaced cs).length_le
    cases hskip : skipSpace s.flags.spaced cs with
    | nil => rw [takes_of_skipSpace hskip, Option.some.injEq, eq_comm]
    | cons c cs' =>
      rw [hskip] at hlength
      dsimp only
      cases hstep : s.step c cs' with
      | none => exact iff_of_false (by simp) (not_takes_of_step hskip hstep)
      | some found =>
        obtain ⟨s', rest⟩ := found
        rw [takes_of_step hskip hstep]
        have hrest := (step_suffix hstep).length_le
        rw [List.length_cons] at hlength
        exact ih (by omega)

/-! ## Groups that are closed -/

/-- The part that a group becomes. -/
def partOfGroup (g : Group) : Part :=
  let outline := match g.number with
    | some n => .group n g.value.outline
    | none => g.value.outline
  ⟨g.value.regex, outline, g.value.depth + 1, true⟩

theorem step_close {s : Reader} {o : Group} {outer : List Group} (h : s.outer = o :: outer)
    (cs : List Char) : s.step ')' cs =
      some ({ s with
        group := o.add (partOfGroup s.group), outer := outer,
        flags := s.group.outerFlags }, cs) := by
  simp only [step, closeGroup?, h]
  rfl

theorem step_close_nil {s : Reader} (h : s.outer = []) (cs : List Char) : s.step ')' cs = none := by
  simp only [step, closeGroup?, h]
  rfl

/-- **A step is the same under further groups**, unless it closes one of them. -/
theorem step_under {s : Reader} {c : Char} (h : c = ')' → s.outer ≠ []) (base : List Group)
    (cs : List Char) :
    (s.under base).step c cs = (s.step c cs).map fun (s', rest) => (s'.under base, rest) := by
  by_cases hc : c = ')'
  · subst hc
    obtain ⟨o, outer, houter⟩ := List.exists_cons_of_ne_nil (h rfl)
    have hbase : (s.under base).outer = o :: (outer ++ base) := by
      rw [under_outer, houter, List.cons_append]
    rw [step_close houter, step_close hbase]
    rfl
  · exact (framed_step hc cs).under s base

theorem step_under_of_eq_some {s s' : Reader} {c : Char} {cs rest : List Char}
    (h : s.step c cs = some (s', rest)) (base : List Group) :
    (s.under base).step c cs = some (s'.under base, rest) := by
  rw [step_under, h]
  · rfl
  · rintro rfl hnil
    rw [step_close_nil hnil] at h
    cases h

/-- What has no closing parenthesis closes no group. -/
theorem Takes.outer_suffix {s t : Reader} {cs : List Char} (h : Takes s cs t) (hcs : ')' ∉ cs) :
    s.outer <:+ t.outer := by
  induction h with
  | done => exact List.suffix_rfl
  | @step s s' t c cs cs' rest hskip hstep _ ih =>
    have hsuffix : c :: cs' <:+ cs := hskip ▸ skipSpace_suffix s.flags.spaced cs
    have hc : c ≠ ')' := by
      rintro rfl
      exact hcs (hsuffix.subset List.mem_cons_self)
    have hrest := ((step_suffix hstep).trans (List.suffix_cons c cs')).trans hsuffix
    have houter := ih fun hmem => hcs (hrest.subset hmem)
    cases (framed_step hc cs').frames hstep with
    | edits hsame => exact hsame ▸ houter
    | opens hopened => exact (hopened ▸ List.suffix_cons s.group s.outer).trans houter

/-! ## The outermost group -/

/-- The outermost group has no number, and the flags around it are those at the start. -/
def Rooted (s : Reader) : Prop :=
  ∃ g, (s.group :: s.outer).getLast? = some g ∧ g.number = none ∧ g.outerFlags = .initial

theorem rooted_initial : Rooted initial := ⟨_, rfl, rfl, rfl⟩

theorem Rooted.group {s : Reader} (h : Rooted s) (houter : s.outer = []) :
    s.group.number = none ∧ s.group.outerFlags = .initial := by
  obtain ⟨g, hg, hnumber, hflags⟩ := h
  rw [houter] at hg
  obtain rfl : s.group = g := Option.some.inj hg
  exact ⟨hnumber, hflags⟩

theorem Rooted.step {s s' : Reader} {c : Char} {cs rest : List Char} (h : Rooted s)
    (hstep : s.step c cs = some (s', rest)) : Rooted s' := by
  obtain ⟨g, hg, hnumber, hflags⟩ := h
  by_cases hc : c = ')'
  · subst hc
    cases houter : s.outer with
    | nil =>
      rw [step_close_nil houter] at hstep
      cases hstep
    | cons o outer =>
      rw [step_close houter] at hstep
      cases hstep
      rw [houter] at hg
      cases outer with
      | nil => exact ⟨_, rfl, by cases hg; exact hnumber, by cases hg; exact hflags⟩
      | cons o' outer => exact ⟨g, by simpa using hg, hnumber, hflags⟩
  · cases (framed_step hc cs).frames hstep with
    | edits hsame hnumber' hflags' =>
      cases houter : s.outer with
      | nil =>
        rw [houter] at hg hsame
        refine ⟨s'.group, by rw [hsame]; rfl, ?_, ?_⟩
        · cases hg
          exact hnumber'.trans hnumber
        · cases hg
          exact hflags'.trans hflags
      | cons o outer =>
        rw [houter] at hg hsame
        exact ⟨g, by rw [hsame]; simpa using hg, hnumber, hflags⟩
    | opens hopened => exact ⟨g, by rw [hopened]; simpa using hg, hnumber, hflags⟩

theorem Takes.rooted {s t : Reader} {cs : List Char} (h : Takes s cs t) (hs : Rooted s) :
    Rooted t := by
  induction h with
  | done => exact hs
  | step _ hstep _ ih => exact ih (hs.step hstep)

/-! ## Texts with something behind them -/

/-- Nothing dangles where a step can be taken. -/
theorem not_itemDangles {s s' : Reader} {c : Char} {cs rest : List Char}
    (h : s.step c cs = some (s', rest)) : ¬ItemDangles s.flags (c :: cs) := fun hdangles => by
  rw [(step_dangles hdangles).1] at h
  cases h

theorem skipSpace_closing_cons {spaced : Bool} {cs cs' : List Char} {c : Char}
    (h : skipSpace spaced cs = c :: cs') :
    skipSpace spaced (cs ++ closing) = c :: (cs' ++ closing) := by
  obtain hclosing | ⟨hnil, -⟩ := skipSpace_closing spaced cs
  · rw [hclosing, h, List.cons_append]
  · exact absurd (hnil.symm.trans h) (List.cons_ne_nil _ _).symm

theorem skipSpace_nil (spaced : Bool) : skipSpace spaced [] = [] := by
  cases spaced <;> rfl

theorem skipSpace_closing_self (spaced : Bool) : skipSpace spaced closing = closing := by
  cases spaced <;> rfl

/-- **A text that is read to its end is read as before with `closing` behind it**, under whatever
groups: then `closing` is left to be read, or a comment at the end hides it. -/
theorem Takes.append {s t : Reader} {cs : List Char} (h : Takes s cs t) :
    (∀ base u, Takes (s.under base) (cs ++ closing) u ↔ Takes (t.under base) closing u) ∨
      Commented cs ∧ ∀ base, Takes (s.under base) (cs ++ closing) (t.under base) := by
  induction h with
  | @done s cs hskip =>
    obtain hclosing | ⟨-, hclosing, hcommented⟩ := skipSpace_closing s.flags.spaced cs
    · refine .inl fun base u => takes_congr ?_
      rw [under_flags, hclosing, hskip, skipSpace_closing_self, List.nil_append]
    · exact .inr ⟨hcommented, fun base => .done hclosing⟩
  | @step s s' t c cs cs' rest hskip hstep htakes ih =>
    have hskip' := skipSpace_closing_cons hskip
    have hsuffix : cs' <:+ cs :=
      (List.suffix_cons c cs').trans (hskip ▸ skipSpace_suffix s.flags.spaced cs)
    have hextended := step_extended (not_itemDangles hstep)
    rw [hstep] at hextended
    cases hstep' : s.step c (cs' ++ closing) with
    | none =>
      rw [hstep'] at hextended
      cases hextended
    | some found =>
      rw [hstep'] at hextended
      obtain ⟨w, rest'⟩ := found
      have hunder base := step_under_of_eq_some hstep' base
      cases hextended with
      | goesOn =>
        obtain hgoes | ⟨hcommented, hhidden⟩ := ih
        · exact .inl fun base u =>
          (takes_of_step (s := s.under base) hskip' (hunder base)).trans (hgoes base u)
        · have hrest := (step_suffix hstep).trans hsuffix
          refine .inr ⟨hcommented.of_suffix hrest, fun base => ?_⟩
          exact .step hskip' (hunder base) (hhidden base)
      | hidden _ hcommented =>
        obtain rfl := (takes_of_skipSpace (skipSpace_nil _)).mp htakes
        refine .inr ⟨hcommented.of_suffix hsuffix, fun base => ?_⟩
        exact .step hskip' (hunder base) (.done (skipSpace_nil _))

/-- The reading comes to a closing parenthesis where no group is open. -/
inductive ClosesUnopened : Reader → List Char → Prop
  | here {s : Reader} {cs cs' : List Char} : skipSpace s.flags.spaced cs = ')' :: cs' →
      s.outer = [] → ClosesUnopened s cs
  | later {s s' : Reader} {c : Char} {cs cs' rest : List Char} :
      skipSpace s.flags.spaced cs = c :: cs' → s.step c cs' = some (s', rest) →
      ClosesUnopened s' rest → ClosesUnopened s cs

/-- A group stays open where there is no closing parenthesis. -/
theorem not_takes_under {s u : Reader} {g : Group} {cs : List Char} (hu : u.outer = [])
    (hcs : ')' ∉ cs) : ¬Takes (s.under [g]) cs u := fun htakes => by
  have hsuffix := htakes.outer_suffix hcs
  rw [hu, under_outer] at hsuffix
  cases (List.append_eq_nil_iff.mp (List.suffix_nil.mp hsuffix)).2

/-- Braces that dangle make the reading fail. -/
theorem not_takes_dangling {s u : Reader} {blanks : List Char}
    (h : next? s.flags.spaced blanks = none) : ¬Takes s ('{' :: (blanks ++ closing)) u :=
  not_takes_of_step (by cases s.flags.spaced <;> rfl) (step_brace_closing h)

/-- Where nothing is left to read but what closes the group, no other group is open. -/
theorem Takes.outer_eq_nil {s u : Reader} {cs : List Char} {g : Group}
    (h : Takes (s.under [g]) (cs ++ closing) u) (hu : u.outer = [])
    (hcs : skipSpace s.flags.spaced cs = []) : s.outer = [] := by
  obtain hclosing | ⟨-, hclosing, -⟩ := skipSpace_closing s.flags.spaced cs
  · rw [hcs, List.nil_append] at hclosing
    cases houter : s.outer with
    | nil => rfl
    | cons o outer =>
      have hstep := step_under_of_eq_some (step_close houter ['$']) [g]
      have htakes := (takes_of_step (s := s.under [g]) hclosing hstep).mp h
      exact absurd htakes (not_takes_under hu (by decide))
  · obtain rfl := (takes_of_skipSpace (s := s.under [g]) hclosing).mp h
    cases (List.append_eq_nil_iff.mp hu).2

/-- A step in a group that is closed in the end is the step that is taken without the group. -/
theorem step_of_append {s s' u : Reader} {c : Char} {cs rest' : List Char} {g : Group}
    (hstep : s.step c (cs ++ closing) = some (s', rest')) (h : Takes (s'.under [g]) rest' u)
    (hu : u.outer = []) : ∃ rest, s.step c cs = some (s', rest) ∧ rest' = rest ++ closing := by
  by_cases hdangles : ItemDangles s.flags (c :: cs)
  · obtain ⟨hflags, blanks, rfl, hblanks⟩ := (step_dangles hdangles).2 _ _ hstep
    exact absurd h (not_takes_dangling (by rw [under_flags, hflags]; exact hblanks))
  have hextended := step_extended hdangles
  rw [hstep] at hextended
  cases halone : s.step c cs with
  | none =>
    rw [halone] at hextended
    cases hextended with
    | overruns _ hrest =>
      have hclose : ')' ∉ rest' := fun hmem => absurd (hrest.subset hmem) (by decide)
      exact absurd h (not_takes_under hu hclose)
  | some found =>
    rw [halone] at hextended
    cases hextended with
    | hidden => exact absurd h (not_takes_under hu List.not_mem_nil)
    | goesOn => exact ⟨_, rfl, rfl⟩

/-- **A text that is read in a group, to the end of the group, is read by itself**, or it closes the
group itself. -/
theorem Takes.of_append {s u : Reader} {cs : List Char} {g : Group}
    (h : Takes (s.under [g]) (cs ++ closing) u) (hu : u.outer = []) :
    (∃ t, Takes s cs t ∧ t.outer = []) ∨ ClosesUnopened s cs := by
  generalize hw : s.under [g] = w at h
  generalize hds : cs ++ closing = ds at h
  induction h generalizing s cs with
  | done hskip =>
    subst hw
    cases (List.append_eq_nil_iff.mp hu).2
  | @step w w' u c ds ds' rest hskip hstep htakes ih =>
    subst hw hds
    cases hown : skipSpace s.flags.spaced cs with
    | nil => exact .inl ⟨s, .done hown, (Takes.step hskip hstep htakes).outer_eq_nil hu hown⟩
    | cons c' cs' =>
      cases (skipSpace_closing_cons hown).symm.trans hskip
      by_cases hunopened : c = ')' ∧ s.outer = []
      · obtain ⟨rfl, houter⟩ := hunopened
        exact .inr (.here hown houter)
      rw [step_under fun hc houter => hunopened ⟨hc, houter⟩] at hstep
      obtain ⟨⟨s', rest'⟩, hstep', hsame⟩ := Option.map_eq_some_iff.mp hstep
      cases hsame
      obtain ⟨rest, halone, rfl⟩ := step_of_append hstep' htakes hu
      obtain ⟨t, ht, houter⟩ | hcloses := ih hu rfl rfl
      · exact .inl ⟨t, .step hown halone ht, houter⟩
      · exact .inr (.later hown halone hcloses)

theorem Takes.unique {s t u : Reader} {cs : List Char} (ht : Takes s cs t) (hu : Takes s cs u) :
    t = u := by
  rw [← run_eq_some_iff (Nat.lt_succ_self _)] at ht hu
  exact Option.some.inj (ht.symm.trans hu)

end Reader

/-! ## Patterns -/

open Regex.Reader

/-- What a text spells, however deeply it is nested. -/
def spelled? (cs : List Char) : Option Part :=
  match run (cs.length + 1) .initial cs with
  | some s => if s.outer.isEmpty then some s.group.value else none
  | none => none

theorem spelled?_eq_some_iff {cs : List Char} {p : Part} :
    spelled? cs = some p ↔ ∃ t, Takes .initial cs t ∧ t.outer = [] ∧ t.group.value = p := by
  unfold spelled?
  cases hrun : run (cs.length + 1) .initial cs with
  | none =>
    refine iff_of_false nofun fun ⟨t, ht, _⟩ => ?_
    cases hrun.symm.trans ((run_eq_some_iff (Nat.lt_succ_self _)).mpr ht)
  | some s =>
    have hs := (run_eq_some_iff (Nat.lt_succ_self _)).mp hrun
    simp only [List.isEmpty_iff]
    constructor
    · intro h
      split at h
      · rename_i houter
        exact ⟨s, hs, houter, Option.some.inj h⟩
      · cases h
    · rintro ⟨t, ht, houter, rfl⟩
      obtain rfl := hs.unique ht
      exact if_pos houter

/-- A pattern is what a text spells, unless that is nested too deeply. -/
theorem parse?_eq (cs : List Char) : parse? cs = (spelled? cs).bind fun p =>
    if p.depth ≤ maxDepth then some (p.regex, p.outline) else none := by
  unfold parse? spelled?
  cases run (cs.length + 1) .initial cs with
  | none => rfl
  | some s =>
    dsimp only
    split <;> rfl

/-- **A pattern is read in the same way with `closing` behind it just if it ends in a comment**,
which hides that. -/
def EndsInComment (cs : List Char) : Prop :=
  (spelled? cs).isSome = true ∧ (spelled? (cs ++ closing)).isSome = true

instance (cs : List Char) : Decidable (EndsInComment cs) :=
  inferInstanceAs (Decidable (_ ∧ _))

/-- Where `closing` is left to be read and no group is open, the reading fails. -/
theorem not_endsInComment {t : Reader} {cs : List Char} (houter : t.outer = [])
    (hgoes : ∀ base u, Takes (initial.under base) (cs ++ closing) u ↔
      Takes (t.under base) closing u) : ¬EndsInComment cs := by
  rintro ⟨-, hends⟩
  obtain ⟨p, hp⟩ := Option.isSome_iff_exists.mp hends
  obtain ⟨u, hu, -⟩ := spelled?_eq_some_iff.mp hp
  have hclosing := (hgoes [] u).mp (by rwa [under_nil])
  rw [under_nil] at hclosing
  exact not_takes_of_step (skipSpace_closing_self _) (step_close_nil houter _) hclosing

/-- The comment begins with a number sign, and no line ends behind that. -/
theorem EndsInComment.commented {cs : List Char} (h : EndsInComment cs) : Commented cs := by
  obtain ⟨p, hp⟩ := Option.isSome_iff_exists.mp h.1
  obtain ⟨t, ht, houter, -⟩ := spelled?_eq_some_iff.mp hp
  obtain hgoes | ⟨hcommented, -⟩ := ht.append
  · exact absurd h (not_endsInComment houter hgoes)
  · exact hcommented

end CaseScript.Regex

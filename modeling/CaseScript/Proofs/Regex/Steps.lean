import CaseScript.Proofs.Regex.Sets

/-!
# Proofs/Regex/Steps — what one step of the reader does

A step edits the branch under construction, opens a group or closes one (`step_frames`), and it does
so whatever groups stand around those it knows of (`step_under`).  It is local (`step_extended`),
but for a word boundary whose braces dangle, behind which no other step can be taken
(`step_dangles`).
-/

namespace CaseScript.Regex.Reader

/-! ## Groups around a reader -/

/-- The reader with further groups around all of its own. -/
def under (s : Reader) (base : List Group) : Reader := { s with outer := s.outer ++ base }

@[simp] theorem under_flags (s : Reader) (base : List Group) : (s.under base).flags = s.flags := rfl

@[simp] theorem under_group (s : Reader) (base : List Group) : (s.under base).group = s.group := rfl

@[simp] theorem under_outer (s : Reader) (base : List Group) :
    (s.under base).outer = s.outer ++ base := rfl

@[simp] theorem under_nil (s : Reader) : s.under [] = s := by
  rw [under, List.append_nil]

/-- What happens to the groups when an element is taken that does not close one. -/
inductive Frames (s s' : Reader) : Prop
  | edits : s'.outer = s.outer → s'.group.number = s.group.number →
      s'.group.outerFlags = s.group.outerFlags → Frames s s'
  | opens : s'.outer = s.group :: s.outer → Frames s s'

/-- Something that is done to a reader whatever groups are around it. -/
structure Framed (f : Reader → Option (Reader × List Char)) : Prop where
  under (s : Reader) (base : List Group) :
    f (s.under base) = (f s).map fun (s', rest) => (s'.under base, rest)
  frames {s s' : Reader} {rest : List Char} : f s = some (s', rest) → Frames s s'

theorem framed_repeatLast (min : Nat) (max : Option Nat) (cs : List Char) :
    Framed fun s => s.repeatLast min max cs where
  under s base := by
    unfold repeatLast
    rw [under_group]
    cases s.group.parts with
    | nil => rfl
    | cons p parts =>
      dsimp only
      split
      · rfl
      · rfl
  frames {s s' rest} h := by
    unfold repeatLast at h
    split at h
    · split at h
      · cases h
        exact .edits rfl rfl rfl
      · cases h
    · cases h

/-- A part is added that depends on the flags alone. -/
theorem framed_add (e : Flags → Option (Part × List Char)) :
    Framed fun s => (e s.flags).map fun (p, rest) => (s.add p, rest) where
  under s base := by
    rw [under_flags]
    cases e s.flags <;> rfl
  frames {s s' rest} h := by
    obtain ⟨_, -, hsame⟩ := Option.map_eq_some_iff.mp h
    cases hsame
    exact .edits rfl rfl rfl

theorem Framed.congr {f g : Reader → Option (Reader × List Char)} (hg : Framed g)
    (h : ∀ s, f s = g s) : Framed f := (funext h : f = g) ▸ hg

/-- The part that an element becomes. -/
def partOf (flags : Flags) : Element → Part
  | .literal c => .ofSet flags (flags.fold (.single c)) 0
  | .set cs => .ofSet flags cs 0
  | .look l => ⟨.look l, .look l, 0, true⟩

theorem element_eq (s : Reader) (e : Element) : s.element e = s.add (partOf s.flags e) := by
  cases e <;> rfl

theorem frames_openGroup (s : Reader) (kept : Bool) (flags : Flags) (names : List (List Char)) :
    Frames s { s.openGroup kept flags with names := names } := .opens rfl

theorem framed_openNamed (cs : List Char) : Framed fun s => s.openNamed cs where
  under s base := by
    unfold openNamed
    cases Text.cutAt? '>' cs with
    | none => rfl
    | some found =>
      dsimp only
      split
      · rename_i h
        exact (if_pos h).symm ▸ rfl
      · rename_i h
        exact (if_neg h).symm ▸ rfl
  frames {s s' rest} h := by
    unfold openNamed at h
    split at h
    · split at h
      · cases h
        exact frames_openGroup s true s.flags _
      · cases h
    · cases h

theorem Framed.none : Framed fun _ => none where
  under _ _ := rfl
  frames h := nomatch h

/-- Flags hold for the rest of the group, or for a group of their own. -/
def openFlags (s : Reader) (cs : List Char) : Option (Reader × List Char) :=
  (flagsRead s.flags [] true false cs).bind fun ((flags, seen, c), rest) =>
    if c = ')' then
      if seen.isEmpty then none else some ({ s with flags := flags }.add (.empty false), rest)
    else some (s.openGroup false flags, rest)

theorem framed_openFlags (cs : List Char) : Framed fun s => s.openFlags cs where
  under s base := by
    unfold openFlags
    rw [under_flags]
    cases flagsRead s.flags [] true false cs with
    | none => rfl
    | some found =>
      obtain ⟨⟨flags, seen, c⟩, rest⟩ := found
      simp only [Option.bind_some]
      split
      · split <;> rfl
      · rfl
  frames {s s' rest} h := by
    obtain ⟨⟨⟨flags, seen, c⟩, rest⟩, -, h⟩ := Option.bind_eq_some_iff.mp h
    dsimp only at h
    split at h
    · split at h
      · cases h
      · cases h
        exact .edits rfl rfl rfl
    · cases h
      exact .opens rfl

/-- What follows an opening parenthesis and the space behind it. -/
def openingFrom (s : Reader) (cs : List Char) : Option (Reader × List Char) :=
  if cs.head? = some '?' then
    if cs.tail.head? = some '=' then none
    else if cs.tail.head? = some '!' then none
    else if cs.tail.head? = some '<' then
      if cs.tail.tail.head? = some '=' then none
      else if cs.tail.tail.head? = some '!' then none
      else s.openNamed cs.tail.tail
    else if cs.tail.head? = some 'P' then
      if cs.tail.tail.head? = some '<' then s.openNamed cs.tail.tail.tail else none
    else s.openFlags cs.tail
  else some (s.openGroup true s.flags, cs)

theorem head?_ne {c : Char} {cs : List Char} (h : ∀ tail, cs = c :: tail → False) :
    cs.head? ≠ some c := fun hhead => by
  obtain ⟨tail, rfl⟩ := List.head?_eq_some_iff.mp hhead
  exact h tail rfl

theorem readOpening_eq (s : Reader) (cs : List Char) :
    s.readOpening cs = s.openingFrom (skipSpace s.flags.spaced cs) := by
  rw [readOpening]
  generalize skipSpace s.flags.spaced cs = u
  split
  case h_6 v heq hneq => simp [openingFrom, head?_ne heq, head?_ne hneq]
  case h_7 v heq hneq _ _ hnamed hname =>
    by_cases hletter : v.head? = some 'P'
    · obtain ⟨w, rfl⟩ := List.head?_eq_some_iff.mp hletter
      have hw : w.head? ≠ some '<' := head?_ne fun tail hw => hnamed tail (by rw [hw])
      simp [openingFrom, hw, readFlags, Flags.set?]
    · simp only [openingFrom, List.head?_cons, List.tail_cons, if_true, head?_ne heq,
        head?_ne hneq, head?_ne hname, hletter, if_false, openFlags, flagsRead]
      cases readFlags s.flags [] true false v with
      | none => rfl
      | some found =>
        obtain ⟨flags, seen, c, rest⟩ := found
        by_cases hc : c = ')'
        · subst hc
          rfl
        · simp [hc]
  case h_8 v _ _ _ _ _ _ hplain => rw [openingFrom, if_neg (head?_ne hplain)]
  all_goals rfl

theorem framed_openingFrom (cs : List Char) : Framed fun s => s.openingFrom cs := by
  unfold openingFrom
  repeat' split
  all_goals first
    | exact .none
    | exact framed_openNamed _
    | exact framed_openFlags _
    | exact ⟨fun _ _ => rfl, fun h => by cases h; exact .opens rfl⟩

theorem framed_readOpening (cs : List Char) : Framed fun s => s.readOpening cs where
  under s base := by
    rw [readOpening_eq, readOpening_eq]
    exact (framed_openingFrom _).under s base
  frames {s s' rest} h := by
    rw [readOpening_eq] at h
    exact (framed_openingFrom _).frames h

theorem framed_readBounds (cs : List Char) : Framed fun s =>
    match readBounds s.flags.spaced cs with
    | some (low, high, rest) => s.repeatLast low high (skipSpace s.flags.spaced rest)
    | none => none where
  under s base := by
    rw [under_flags]
    cases readBounds s.flags.spaced cs with
    | none => rfl
    | some found => exact (framed_repeatLast _ _ _).under s base
  frames {s s' rest} h := by
    split at h
    · exact (framed_repeatLast _ _ _).frames h
    · cases h

/-- **A step is the same under further groups**, unless it closes one of them. -/
theorem framed_step {c : Char} (hc : c ≠ ')') (cs : List Char) : Framed fun s => s.step c cs := by
  simp only [step]
  split
  · exact framed_readOpening cs
  · exact absurd rfl hc
  · exact ⟨fun _ _ => rfl, fun h => by cases h; exact .edits rfl rfl rfl⟩
  · refine (framed_add fun flags => (readSet flags (cs.length + 1) []
      (Bracket.start flags.spaced cs).1 (Bracket.start flags.spaced cs).2).map
        fun found => (.ofSet flags found.1.members found.1.depth, found.2)).congr fun s => ?_
    rw [Option.map_map]
    rfl
  · exact framed_repeatLast _ _ cs
  · exact framed_repeatLast _ _ cs
  · exact framed_repeatLast _ _ cs
  · exact framed_readBounds cs
  · refine (framed_add fun flags => (readEscape flags cs).map
      fun found => (partOf flags found.1, found.2)).congr fun s => ?_
    rw [Option.map_map]
    refine congrArg (Option.map · _) (funext fun found => ?_)
    rw [element_eq]
    rfl
  · refine (framed_add fun flags => (dot? flags).map
      fun members => (.ofSet flags members 0, cs)).congr fun s => ?_
    rw [Option.map_map]
    rfl
  · exact framed_add fun flags =>
      let start := if flags.multiLine then .lineStart flags.crlf else .textStart
      some (partOf flags (.look start), cs)
  · exact framed_add fun flags =>
      some (partOf flags (.look (if flags.multiLine then .lineEnd flags.crlf else .textEnd)), cs)
  · exact framed_add fun flags => some (partOf flags (.literal c), cs)

/-! ## What is put behind a pattern -/

theorem local_repeatLast (s : Reader) (min : Nat) (max : Option Nat) :
    Local (s.repeatLast min max) := by
  unfold repeatLast
  cases s.group.parts with
  | nil => exact .none
  | cons p parts =>
    dsimp only
    split
    · have hmark := Local.ifHead (c := '?') (by decide) (.pure true) (.pure false)
      refine (hmark.map fun marked =>
        let repeated := p.repeated (marked != s.flags.reluctant) min max
        { s with group := { s.group with parts := repeated :: parts } }).congr fun cs => ?_
      cases cs with
      | nil => rfl
      | cons c cs =>
        by_cases hc : c = '?'
        · subst hc
          rfl
        · simp [hc]
    · exact .none

theorem local_openFlags (s : Reader) : Local s.openFlags := by
  refine (local_flagsRead s.flags [] true false).bind (g := fun (flags, seen, c) rest =>
    if c = ')' then
      if seen.isEmpty then none
      else some (({ s with flags := flags } : Reader).add (.empty false), rest)
    else some (s.openGroup false flags, rest)) fun (flags, seen, c) => ?_
  dsimp only
  repeat' split
  · exact .none
  · exact .pure _
  · exact .pure _

theorem local_openNamed (s : Reader) : Local s.openNamed := by
  refine ((local_cutAt? (by decide : '>' ∉ closing)).bind (g := fun name rest =>
    if isName name ∧ ¬s.names.contains name then
      some ({ s.openGroup true s.flags with names := name :: s.names }, rest)
    else none) fun name => ?_).congr fun cs => ?_
  · split
    · exact .pure _
    · exact .none
  · rw [openNamed]
    cases Text.cutAt? '>' cs <;> rfl

theorem local_openingFrom (s : Reader) : Local s.openingFrom := by
  have hbehind : Local fun cs => if cs.head? = some '=' then none
      else if cs.head? = some '!' then none else s.openNamed cs :=
    .ifHead (f := fun _ => none) (by decide) .none
      (.ifHead (f := fun _ => none) (by decide) .none (local_openNamed s))
  have hnamed : Local fun cs => if cs.head? = some '<' then s.openNamed cs.tail else none :=
    .ifHead (by decide) (local_openNamed s) .none
  have hmarked : Local fun cs => if cs.head? = some '=' then none
      else if cs.head? = some '!' then none
      else if cs.head? = some '<' then
        if cs.tail.head? = some '=' then none
        else if cs.tail.head? = some '!' then none else s.openNamed cs.tail
      else if cs.head? = some 'P' then
        if cs.tail.head? = some '<' then s.openNamed cs.tail.tail else none
      else s.openFlags cs :=
    .ifHead (f := fun _ => none) (by decide) .none
      (.ifHead (f := fun _ => none) (by decide) .none
        (.ifHead (by decide) hbehind (.ifHead (by decide) hnamed (local_openFlags s))))
  exact .ifHead (by decide) hmarked (.pure (s.openGroup true s.flags))

theorem local_bracket (flags : Flags) : Local fun cs =>
    readSet flags (cs.length + 1) [] (Bracket.start flags.spaced cs).1
      (Bracket.start flags.spaced cs).2 where
  suffix h := (readSet_suffix h).trans ((Bracket.local_start flags.spaced).suffix rfl)
  extended cs := by
    have hstart := (Bracket.local_start flags.spaced).extended cs
    have hsuffix : (Bracket.start flags.spaced cs).2 <:+ cs :=
      (Bracket.local_start flags.spaced).suffix rfl
    have hlength' :
        (Bracket.start flags.spaced (cs ++ closing)).2.length ≤ (cs ++ closing).length :=
      ((Bracket.local_start flags.spaced).suffix rfl).length_le
    generalize Bracket.start flags.spaced cs = x at hstart hsuffix ⊢
    generalize Bracket.start flags.spaced (cs ++ closing) = y at hstart hlength' ⊢
    cases hstart with
    | goesOn b rest =>
      refine .of_suffix ?_ hsuffix
      exact readSet_extended (Nat.lt_succ_of_le hsuffix.length_le) (Nat.lt_succ_of_le hlength')
    | hidden b =>
      rw [readSet_nil, readSet_nil]
      exact .fails

theorem local_step (s : Reader) {c : Char} (hc : c ≠ '\\') : Local fun cs => s.step c cs := by
  simp only [step]
  split
  · exact ((local_skipSpace s.flags.spaced).bind fun _ => local_openingFrom s).congr
      fun cs => readOpening_eq s cs
  · exact .lift s.closeGroup?
  · exact .pure _
  · exact (local_bracket s.flags).map fun read =>
      s.add (.ofSet s.flags read.members read.depth)
  · exact local_repeatLast s _ _
  · exact local_repeatLast s _ _
  · exact local_repeatLast s _ _
  · refine ((local_boundsRead s.flags.spaced).bind (g := fun (low, high) rest =>
      s.repeatLast low high (skipSpace s.flags.spaced rest)) fun (low, high) => ?_).congr
        fun cs => ?_
    · exact (local_skipSpace s.flags.spaced).bind fun _ => local_repeatLast s low high
    · unfold boundsRead
      cases readBounds s.flags.spaced cs <;> rfl
  · exact absurd rfl hc
  · refine ((Local.lift (dot? s.flags)).map fun members =>
      s.add (.ofSet s.flags members 0)).congr fun cs => ?_
    cases dot? s.flags <;> rfl
  · exact .pure _
  · exact .pure _
  · exact .pure _

theorem step_suffix {s s' : Reader} {c : Char} {cs rest : List Char}
    (h : s.step c cs = some (s', rest)) : rest <:+ cs := by
  by_cases hc : c = '\\'
  · subst hc
    obtain ⟨⟨e, rest'⟩, hescape, hsame⟩ := Option.map_eq_some_iff.mp h
    cases hsame
    exact readEscape_suffix hescape
  · exact (local_step s hc).suffix h

/-- **A step is local**, unless it reads a word boundary whose braces dangle. -/
theorem step_extended {s : Reader} {c : Char} {cs : List Char}
    (h : ¬ItemDangles s.flags (c :: cs)) :
    Extended cs (s.step c cs) (s.step c (cs ++ closing)) := by
  by_cases hc : c = '\\'
  · subst hc
    refine (readEscape_extended fun cs' hcs hdangles => h ⟨cs', ?_, hdangles⟩).map s.element
    rw [hcs]
  · exact (local_step s hc).extended cs

/-- Braces that dangle are left to be read as a repetition. -/
theorem step_dangles {s : Reader} {c : Char} {cs : List Char} (h : ItemDangles s.flags (c :: cs)) :
    s.step c cs = none ∧ ∀ s' rest, s.step c (cs ++ closing) = some (s', rest) →
      s'.flags = s.flags ∧
      ∃ blanks, rest = '{' :: (blanks ++ closing) ∧ next? s.flags.spaced blanks = none := by
  obtain ⟨_, hcs, blanks, rfl, hblanks⟩ := h
  cases hcs
  obtain ⟨hnone, hlook⟩ := readBoundary_dangles hblanks
  refine ⟨?_, fun s' rest hstep => ?_⟩
  · change (readEscape s.flags ('b' :: '{' :: blanks)).map _ = none
    rw [readEscape_b, hnone]
    rfl
  · obtain ⟨⟨e, rest'⟩, hescape, hsame⟩ := Option.map_eq_some_iff.mp hstep
    cases hsame
    obtain ⟨rfl, l, rfl⟩ := hlook _ _ ((readEscape_b _ _).symm.trans hescape)
    exact ⟨rfl, blanks, rfl, hblanks⟩

/-- Braces that hold nothing but space do not hold the bounds of a repetition. -/
theorem step_brace_closing {s : Reader} {blanks : List Char}
    (h : next? s.flags.spaced blanks = none) : s.step '{' (blanks ++ closing) = none := by
  have hskip : skipSpace s.flags.spaced blanks = [] := skipSpace_of_next? h
  have hbounds : readBounds s.flags.spaced (blanks ++ closing) = none := by
    obtain hclosing | ⟨-, hclosing, -⟩ := skipSpace_closing s.flags.spaced blanks
    · rw [readBounds, hclosing, hskip]
      rfl
    · rw [readBounds, hclosing]
      rfl
  simp only [step, hbounds]

end CaseScript.Regex.Reader

import CaseScript.Regex.Reader

/-!
# Proofs/Regex/Local — reading a pattern that something is put behind

To match whole texts a pattern is put in a group, and behind it stands what closes the group
(`closing`).  A reading function is **local** if that makes no difference to what it reads in the
pattern (`Local`): it goes on as before, or all that is put behind the pattern is hidden in a
comment, or it fails as before — or it reads the closing parenthesis as the end of something that
the pattern has begun, and then the group stays open.
-/

namespace CaseScript.Regex

/-- What closes the group that a pattern is put in, to the end of the text. -/
def closing : List Char := [')', '$']

variable {α β : Type}

/-- What may be a comment stands at the end of the text. -/
def Commented (cs : List Char) : Prop := ∃ comment, '#' :: comment <:+ cs ∧ '\n' ∉ comment

theorem Commented.of_suffix {cs rest : List Char} (h : Commented rest) (hrest : rest <:+ cs) :
    Commented cs := by
  obtain ⟨comment, hcomment, hline⟩ := h
  exact ⟨comment, hcomment.trans hrest, hline⟩

/-- What is read in a text, beside what is read in the text with `closing` behind it. -/
inductive Extended (cs : List Char) : Option (α × List Char) → Option (α × List Char) → Prop
  | goesOn (a : α) (rest : List Char) : Extended cs (some (a, rest)) (some (a, rest ++ closing))
  | hidden (a : α) : Commented cs → Extended cs (some (a, [])) (some (a, []))
  | fails : Extended cs none none
  | overruns (a : α) {rest : List Char} : rest <:+ ['$'] → Extended cs none (some (a, rest))

/-- What a function leaves of a text is the end of it, and it is local in every text. -/
structure Local (f : List Char → Option (α × List Char)) : Prop where
  suffix {cs : List Char} {a : α} {rest : List Char} : f cs = some (a, rest) → rest <:+ cs
  extended (cs : List Char) : Extended cs (f cs) (f (cs ++ closing))

/-! ## Reading one thing after another -/

/-- What is read at the end of a text is read in the text. -/
theorem Extended.of_suffix {cs rest : List Char} {x y : Option (α × List Char)}
    (h : Extended rest x y) (hrest : rest <:+ cs) : Extended cs x y := by
  cases h with
  | goesOn a rest => exact .goesOn a rest
  | hidden a hcommented => exact .hidden a (hcommented.of_suffix hrest)
  | fails => exact .fails
  | overruns a hoverrun => exact .overruns a hoverrun

theorem Extended.of_tail {cs : List Char} {c : Char} {x y : Option (α × List Char)}
    (h : Extended cs x y) : Extended (c :: cs) x y :=
  h.of_suffix (List.suffix_cons c cs)

/-- Where the first function has read, the second goes on. -/
theorem Extended.bind {cs : List Char} {x y : Option (α × List Char)}
    {g : α × List Char → Option (β × List Char)} (h : Extended cs x y)
    (hsuffix : ∀ a cs b rest, g (a, cs) = some (b, rest) → rest <:+ cs)
    (hg : ∀ a rest, x = some (a, rest) → Extended cs (g (a, rest)) (g (a, rest ++ closing))) :
    Extended cs (x.bind g) (y.bind g) := by
  cases h with
  | goesOn a rest => exact hg a rest rfl
  | hidden a hcommented =>
    change Extended cs (g (a, [])) (g (a, []))
    cases hb : g (a, []) with
    | none => exact .fails
    | some found =>
      obtain ⟨b, rest⟩ := found
      obtain rfl := List.suffix_nil.mp (hsuffix a [] b rest hb)
      exact .hidden b hcommented
  | fails => exact .fails
  | @overruns a rest hrest =>
    change Extended cs none (g (a, rest))
    cases hb : g (a, rest) with
    | none => exact .fails
    | some found => exact .overruns found.1 ((hsuffix a rest found.1 found.2 hb).trans hrest)

/-- What is read is turned into something else, if it can be. -/
theorem Extended.filterMap {cs : List Char} {x y : Option (α × List Char)} (h : Extended cs x y)
    (g : α → Option β) : Extended cs (x.bind fun (a, rest) => (g a).map (·, rest))
      (y.bind fun (a, rest) => (g a).map (·, rest)) := by
  refine h.bind (fun a cs b rest hb => ?_) fun a rest _ => ?_
  · obtain ⟨_, _, hsame⟩ := Option.map_eq_some_iff.mp hb
    obtain ⟨-, rfl⟩ := Prod.mk.inj hsame
    exact List.suffix_rfl
  · cases hga : g a with
    | none => simpa [hga] using Extended.fails
    | some b => simpa [hga] using Extended.goesOn b rest

theorem Extended.map {cs : List Char} {x y : Option (α × List Char)} (h : Extended cs x y)
    (g : α → β) :
    Extended cs (x.map fun (a, rest) => (g a, rest)) (y.map fun (a, rest) => (g a, rest)) := by
  cases h with
  | goesOn a rest => exact .goesOn (g a) rest
  | hidden a hcommented => exact .hidden (g a) hcommented
  | fails => exact .fails
  | overruns a hrest => exact .overruns (g a) hrest

namespace Local

theorem congr {f g : List Char → Option (α × List Char)} (hg : Local g) (h : ∀ cs, f cs = g cs) :
    Local f := (funext h : f = g) ▸ hg

theorem none : Local fun _ => (none : Option (α × List Char)) where
  suffix h := nomatch h
  extended _ := .fails

/-- Nothing is read. -/
theorem pure (a : α) : Local fun cs => some (a, cs) where
  suffix h := (Prod.mk.inj (Option.some.inj h)).2 ▸ List.suffix_rfl
  extended cs := .goesOn a cs

theorem lift (x : Option α) : Local fun cs => x.map (·, cs) := by
  cases x with
  | none => exact Local.none
  | some a => exact Local.pure a

theorem bind {f : List Char → Option (α × List Char)}
    {g : α → List Char → Option (β × List Char)} (hf : Local f) (hg : ∀ a, Local (g a)) :
    Local fun cs => (f cs).bind fun (a, rest) => g a rest where
  suffix h := by
    obtain ⟨⟨a, rest⟩, ha, hb⟩ := Option.bind_eq_some_iff.mp h
    exact ((hg a).suffix hb).trans (hf.suffix ha)
  extended cs := (hf.extended cs).bind (fun a _ _ _ hb => (hg a).suffix hb)
    fun a rest ha => ((hg a).extended rest).of_suffix (hf.suffix ha)

theorem map {f : List Char → Option (α × List Char)} (hf : Local f) (g : α → β) :
    Local fun cs => (f cs).map fun (a, rest) => (g a, rest) where
  suffix h := by
    obtain ⟨⟨a, rest⟩, ha, hsame⟩ := Option.map_eq_some_iff.mp h
    obtain ⟨-, rfl⟩ := Prod.mk.inj hsame
    exact hf.suffix ha
  extended cs := (hf.extended cs).map g

theorem filterMap {f : List Char → Option (α × List Char)} (hf : Local f) (g : α → Option β) :
    Local fun cs => (f cs).bind fun (a, rest) => (g a).map (·, rest) :=
  hf.bind fun a => lift (g a)

/-- What is read depends on whether the text begins with a certain character. -/
theorem ifHead {c : Char} (hc : c ≠ ')') {f g : List Char → Option (α × List Char)} (hf : Local f)
    (hg : Local g) : Local fun cs => if cs.head? = some c then f cs.tail else g cs where
  suffix {cs a rest} h := by
    split at h
    · exact (hf.suffix h).trans (List.tail_suffix cs)
    · exact hg.suffix h
  extended cs := by
    cases cs with
    | nil =>
      have hhead : ([] ++ closing).head? ≠ some c := fun h => hc (Option.some.inj h).symm
      rw [if_neg hhead]
      exact hg.extended []
    | cons d cs =>
      rw [List.cons_append, List.head?_cons, List.head?_cons]
      split
      · exact (hf.extended cs).of_tail
      · exact hg.extended (d :: cs)

end Local

/-! ## Space -/

theorem skipSpace_go_suffix : ∀ (comment : Bool) (cs : List Char), skipSpace.go comment cs <:+ cs
  | _, [] => List.suffix_rfl
  | true, c :: cs => (skipSpace_go_suffix _ cs).trans (List.suffix_cons c cs)
  | false, c :: cs => by
    rw [skipSpace.go]
    split
    · exact (skipSpace_go_suffix true cs).trans (List.suffix_cons c cs)
    · split
      · exact (skipSpace_go_suffix false cs).trans (List.suffix_cons c cs)
      · exact List.suffix_rfl

/-- A comment at the end of a text hides what is put behind it. -/
theorem skipSpace_go_closing : ∀ (comment : Bool) (cs : List Char),
    skipSpace.go comment (cs ++ closing) = skipSpace.go comment cs ++ closing ∨
      skipSpace.go comment cs = [] ∧ skipSpace.go comment (cs ++ closing) = [] ∧
        (Commented cs ∨ comment = true ∧ '\n' ∉ cs)
  | false, [] => .inl rfl
  | true, [] => .inr ⟨rfl, rfl, .inr ⟨rfl, List.not_mem_nil⟩⟩
  | true, c :: cs => by
    obtain h | ⟨hnil, hclosing, hcommented | ⟨hc, hline⟩⟩ := skipSpace_go_closing (c ≠ '\n') cs
    · exact .inl h
    · exact .inr ⟨hnil, hclosing, .inl (hcommented.of_suffix (List.suffix_cons c cs))⟩
    · have hne : '\n' ≠ c := (of_decide_eq_true hc).symm
      exact .inr ⟨hnil, hclosing, .inr ⟨rfl, List.not_mem_cons_of_ne_of_not_mem hne hline⟩⟩
  | false, c :: cs => by
    rw [List.cons_append, skipSpace.go, skipSpace.go]
    split
    · rename_i hc
      obtain h | ⟨hnil, hclosing, hcommented⟩ := skipSpace_go_closing true cs
      · exact .inl h
      · refine .inr ⟨hnil, hclosing, .inl ?_⟩
        obtain hcommented | ⟨-, hline⟩ := hcommented
        · exact hcommented.of_suffix (List.suffix_cons c cs)
        · exact ⟨cs, hc ▸ List.suffix_rfl, hline⟩
    · split
      · obtain h | ⟨hnil, hclosing, hcommented | ⟨hc, -⟩⟩ := skipSpace_go_closing false cs
        · exact .inl h
        · exact .inr ⟨hnil, hclosing, .inl (hcommented.of_suffix (List.suffix_cons c cs))⟩
        · cases hc
      · exact .inl rfl

theorem skipSpace_suffix (spaced : Bool) (cs : List Char) : skipSpace spaced cs <:+ cs := by
  cases spaced with
  | false => exact List.suffix_rfl
  | true => exact skipSpace_go_suffix false cs

theorem skipSpace_closing (spaced : Bool) (cs : List Char) :
    skipSpace spaced (cs ++ closing) = skipSpace spaced cs ++ closing ∨
      skipSpace spaced cs = [] ∧ skipSpace spaced (cs ++ closing) = [] ∧ Commented cs := by
  cases spaced with
  | false => exact .inl rfl
  | true =>
    obtain h | ⟨hnil, hclosing, hcommented | ⟨hc, -⟩⟩ := skipSpace_go_closing false cs
    · exact .inl h
    · exact .inr ⟨hnil, hclosing, hcommented⟩
    · cases hc

theorem local_skipSpace (spaced : Bool) : Local fun cs => some ((), skipSpace spaced cs) where
  suffix h := (Prod.mk.inj (Option.some.inj h)).2 ▸ skipSpace_suffix spaced _
  extended cs := by
    obtain h | ⟨h, hhidden, hcommented⟩ := skipSpace_closing spaced cs
    · rw [h]
      exact .goesOn () _
    · rw [h, hhidden]
      exact .hidden () hcommented

/-! ## Single characters -/

/-- The first character of a text. -/
def uncons : List Char → Option (Char × List Char)
  | [] => none
  | c :: cs => some (c, cs)

theorem local_uncons : Local uncons where
  suffix {cs a rest} h := by
    cases cs with
    | nil => cases h
    | cons c cs =>
      cases h
      exact List.suffix_cons _ _
  extended cs := by
    cases cs with
    | nil => exact .overruns ')' List.suffix_rfl
    | cons c cs => exact .goesOn c cs

theorem local_next? (spaced : Bool) : Local (next? spaced) := by
  refine ((local_skipSpace spaced).bind fun _ => local_uncons).congr fun cs => ?_
  rw [next?]
  change _ = uncons (skipSpace spaced cs)
  cases skipSpace spaced cs <;> rfl

theorem local_takeSpaced (spaced : Bool) : ∀ n, Local (takeSpaced spaced n)
  | 0 => .pure []
  | n + 1 => by
    refine ((local_next? spaced).bind fun c => (local_takeSpaced spaced n).map (c :: ·)).congr
      fun cs => ?_
    rw [takeSpaced]
    cases next? spaced cs <;> rfl

/-! ## Braces -/

/-- The next character stands in the text, with what is left behind it. -/
theorem next?_suffix {spaced : Bool} {cs rest : List Char} {c : Char}
    (h : next? spaced cs = some (c, rest)) : c :: rest <:+ cs := by
  have hskip := skipSpace_suffix spaced cs
  rw [next?] at h
  split at h
  · cases h
  · rename_i hcs
    cases h
    rw [hcs] at hskip
    exact hskip

theorem next?_length {spaced : Bool} {cs rest : List Char} {c : Char}
    (h : next? spaced cs = some (c, rest)) : rest.length < cs.length :=
  (next?_suffix h).length_le

theorem takeBracedFrom_succ (spaced : Bool) (n : Nat) (cs : List Char) :
    takeBracedFrom spaced (n + 1) cs = (next? spaced cs).bind fun (c, rest) =>
      if c = '}' then some ([], rest)
      else (takeBracedFrom spaced n rest).map fun (cs, rest) => (c :: cs, rest) := by
  rw [takeBracedFrom]
  split
  · rename_i hnext
    rw [hnext]
    rfl
  · rename_i c rest hbrace hnext
    rw [hnext, Option.bind_some]
    exact (if_neg hbrace).symm
  · rename_i hnext
    rw [hnext]
    rfl

theorem takeBracedFrom_fuel {spaced : Bool} {n m : Nat} : ∀ {cs : List Char},
    cs.length < n → cs.length < m → takeBracedFrom spaced n cs = takeBracedFrom spaced m cs := by
  induction n generalizing m with
  | zero => intro cs hn; cases hn
  | succ n ih =>
    intro cs hn hm
    cases m with
    | zero => cases hm
    | succ m =>
      rw [takeBracedFrom_succ, takeBracedFrom_succ]
      refine Option.bind_congr fun ⟨c, rest⟩ hnext => ?_
      have hshorter := next?_length hnext
      dsimp only
      rw [ih (by omega : rest.length < n) (by omega : rest.length < m)]

/-- The braces are read character by character. -/
theorem takeBraced_eq (spaced : Bool) (cs : List Char) :
    takeBraced spaced cs = (next? spaced cs).bind fun (c, rest) =>
      if c = '}' then some ([], rest)
      else (takeBraced spaced rest).map fun (cs, rest) => (c :: cs, rest) := by
  rw [takeBraced, takeBracedFrom_succ]
  refine Option.bind_congr fun ⟨c, rest⟩ hnext => ?_
  dsimp only
  rw [takeBracedFrom_fuel (next?_length hnext) (Nat.lt_succ_self _), takeBraced]

theorem takeBraced_suffix {spaced : Bool} : ∀ {cs name rest : List Char},
    takeBraced spaced cs = some (name, rest) → rest <:+ cs := by
  intro cs
  induction hn : cs.length using Nat.strongRecOn generalizing cs with
  | ind n ih =>
    subst hn
    intro name rest h
    rw [takeBraced_eq] at h
    obtain ⟨⟨c, cs'⟩, hnext, h⟩ := Option.bind_eq_some_iff.mp h
    have hcs' := (local_next? spaced).suffix hnext
    dsimp only at h
    split at h
    · cases h
      exact hcs'
    · obtain ⟨⟨name', rest'⟩, hrest, hsame⟩ := Option.map_eq_some_iff.mp h
      cases hsame
      exact (ih _ (next?_length hnext) rfl hrest).trans hcs'

/-- **Braces are local**, by induction on the length of the text. -/
theorem local_takeBraced (spaced : Bool) : Local (takeBraced spaced) where
  suffix h := takeBraced_suffix h
  extended cs := by
    induction hn : cs.length using Nat.strongRecOn generalizing cs with
    | ind n ih =>
      subst hn
      rw [takeBraced_eq, takeBraced_eq]
      refine ((local_next? spaced).extended cs).bind (fun c cs name rest h => ?_)
        fun c rest hnext => ?_
      · dsimp only at h
        split at h
        · cases h
          exact List.suffix_rfl
        · obtain ⟨⟨name', rest'⟩, hrest, hsame⟩ := Option.map_eq_some_iff.mp h
          cases hsame
          exact takeBraced_suffix hrest
      · dsimp only
        split
        · exact .goesOn [] rest
        · refine .of_suffix ?_ ((local_next? spaced).suffix hnext)
          exact (ih _ (next?_length hnext) rest rfl).map (c :: ·)

end CaseScript.Regex

import CaseScript.Proofs.Regex.Escapes

/-!
# Proofs/Regex/Sets — bracketed sets and repetition counts are local

A bracketed set is read in rounds (`setRound`), each of which takes an item, opens or closes a
bracket, or begins an operation.  A round is local, and so is the set (`local_readSet`); the same
holds of the bounds of a repetition (`local_boundsRead`).  Neither is ever closed by what is put
behind a pattern, which has no brackets and no braces in it.
-/

namespace CaseScript.Regex

/-! ## Named sets -/

/-- What stands behind the name of a set, up to the bracket that ends it. -/
def namedSet (flags : Flags) (negated : Bool) (cs : List Char) :
    Option (Option CharSet × List Char) :=
  match Text.cutAt? ':' cs with
  | some (name, ']' :: rest) =>
    (CharSet.asciiNamed? (String.ofList name)).map fun s =>
      (flags.negate? negated (flags.fold s), rest)
  | _ => none

/-- A name with and without the sign that negates it. -/
theorem readNamedSet_colon (flags : Flags) : ∀ cs : List Char,
    readNamedSet flags (':' :: cs) =
      if cs.head? = some '^' then namedSet flags true cs.tail else namedSet flags false cs
  | [] => rfl
  | c :: cs => by
    by_cases hc : c = '^'
    · subst hc
      rfl
    · simp [readNamedSet, hc]
      rfl

theorem readNamedSet_of_ne {flags : Flags} {c : Char} (hc : c ≠ ':') (cs : List Char) :
    readNamedSet flags (c :: cs) = none := by
  simp [readNamedSet, hc]

/-- Nothing that is put behind a named set is looked at. -/
theorem namedSet_closing (flags : Flags) (negated : Bool) (cs : List Char) :
    namedSet flags negated (cs ++ closing) =
      (namedSet flags negated cs).map fun (s, rest) => (s, rest ++ closing) := by
  unfold namedSet
  by_cases hmem : ':' ∈ cs
  · obtain ⟨name, back, hcut, -⟩ := Text.exists_cutAt? hmem
    rw [hcut, Text.cutAt?_append_of_eq_some hcut]
    cases back with
    | nil => rfl
    | cons c back =>
      by_cases hc : c = ']'
      · subst hc
        simp [Function.comp_def]
      · simp [hc]
  · have hboth : ':' ∉ cs ++ closing := by simp [hmem, closing]
    rw [Text.cutAt?_eq_none hmem, Text.cutAt?_eq_none hboth]
    rfl

theorem namedSet_suffix {flags : Flags} {negated : Bool} {cs rest : List Char}
    {s : Option CharSet} (h : namedSet flags negated cs = some (s, rest)) : rest <:+ cs := by
  unfold namedSet at h
  split at h
  · rename_i name rest' hcut
    obtain ⟨_, -, hsame⟩ := Option.map_eq_some_iff.mp h
    cases hsame
    rw [Text.cutAt?_eq_some hcut]
    exact ⟨name ++ [':', ']'], by simp⟩
  · cases h

theorem readNamedSet_closing (flags : Flags) : ∀ cs : List Char,
    readNamedSet flags (cs ++ closing) =
      (readNamedSet flags cs).map fun (s, rest) => (s, rest ++ closing)
  | [] => rfl
  | c :: cs => by
    rw [List.cons_append]
    by_cases hc : c = ':'
    · subst hc
      rw [readNamedSet_colon, readNamedSet_colon]
      cases cs with
      | nil => exact namedSet_closing flags false []
      | cons d cs =>
        rw [List.cons_append, List.head?_cons, List.head?_cons]
        split
        · exact namedSet_closing flags true cs
        · exact namedSet_closing flags false (d :: cs)
    · rw [readNamedSet_of_ne hc, readNamedSet_of_ne hc]
      rfl

theorem readNamedSet_suffix {flags : Flags} {cs rest : List Char} {s : Option CharSet}
    (h : readNamedSet flags cs = some (s, rest)) : rest <:+ cs := by
  cases cs with
  | nil => cases h
  | cons c cs =>
    refine List.IsSuffix.trans ?_ (List.suffix_cons c cs)
    by_cases hc : c = ':'
    · subst hc
      rw [readNamedSet_colon] at h
      split at h
      · exact (namedSet_suffix h).trans (List.tail_suffix cs)
      · exact namedSet_suffix h
    · rw [readNamedSet_of_ne hc] at h
      cases h

/-! ## The start of a bracket -/

namespace Bracket

theorem openDashes_nil (spaced : Bool) (n : Nat) (b : Bracket) :
    openDashes spaced n b [] = (b, []) := by
  cases n <;> rfl

theorem openDashes_of_ne {spaced : Bool} {c : Char} (hc : c ≠ '-') (n : Nat) (b : Bracket)
    (cs : List Char) : openDashes spaced n b (c :: cs) = (b, c :: cs) := by
  cases n <;> simp [openDashes, hc]

theorem openDashes_suffix {spaced : Bool} : ∀ (n : Nat) (b : Bracket) (cs : List Char),
    (openDashes spaced n b cs).2 <:+ cs
  | 0, _, _ => by
    unfold openDashes
    exact List.suffix_rfl
  | _ + 1, b, [] => by simp only [openDashes_nil, List.suffix_rfl]
  | n + 1, b, c :: cs => by
    by_cases hc : c = '-'
    · subst hc
      rw [openDashes]
      exact ((openDashes_suffix n _ _).trans (skipSpace_suffix spaced cs)).trans
        (List.suffix_cons '-' cs)
    · simp only [openDashes_of_ne hc, List.suffix_rfl]

theorem openDashes_extended {spaced : Bool} : ∀ (n m : Nat) (b : Bracket) (cs : List Char),
    cs.length ≤ n → cs.length ≤ m →
    Extended cs (some (openDashes spaced n b cs)) (some (openDashes spaced m b (cs ++ closing)))
  | n, m, b, [], _, _ => by
    rw [openDashes_nil, List.nil_append, closing, openDashes_of_ne (by decide)]
    exact .goesOn b []
  | n + 1, m + 1, b, c :: cs, hn, hm => by
    by_cases hc : c = '-'
    · subst hc
      rw [List.cons_append, openDashes, openDashes]
      have hshorter := (skipSpace_suffix spaced cs).length_le
      have hn' : cs.length ≤ n := Nat.le_of_succ_le_succ hn
      have hm' : cs.length ≤ m := Nat.le_of_succ_le_succ hm
      obtain hclosing | ⟨hnil, hclosing, hcommented⟩ := skipSpace_closing spaced cs
      · rw [hclosing]
        refine .of_tail (.of_suffix ?_ (skipSpace_suffix spaced cs))
        exact openDashes_extended n m _ _ (Nat.le_trans hshorter hn') (Nat.le_trans hshorter hm')
      · rw [hclosing, hnil, openDashes_nil, openDashes_nil]
        exact (Extended.hidden _ hcommented).of_tail
    · rw [List.cons_append, openDashes_of_ne hc, openDashes_of_ne hc]
      exact .goesOn b (c :: cs)

/-- The caret that negates a set. -/
def caret (spaced : Bool) (cs : List Char) : Bool × List Char :=
  if cs.head? = some '^' then (true, skipSpace spaced cs.tail) else (false, cs)

/-- The characters at the start of a bracket that stand for themselves. -/
def firstItems (spaced : Bool) (negated : Bool) (cs : List Char) : Bracket × List Char :=
  if cs.head? = some ']' then ((opened negated).add ⟨.single ']', 0⟩, cs.tail)
  else openDashes spaced cs.length (opened negated) cs

theorem start_of_caret {spaced : Bool} {cs v : List Char} (h : skipSpace spaced cs = '^' :: v) :
    start spaced cs = firstItems spaced true (skipSpace spaced v) := by
  simp only [start, h]
  generalize skipSpace spaced v = w
  split
  · rfl
  · rename_i hother
    refine (if_neg fun hhead => ?_).symm
    obtain ⟨rest, hrest⟩ := List.head?_eq_some_iff.mp hhead
    exact hother rest hrest

theorem start_of_not_caret {spaced : Bool} {cs : List Char}
    (h : (skipSpace spaced cs).head? ≠ some '^') :
    start spaced cs = firstItems spaced false (skipSpace spaced cs) := by
  rw [start]
  generalize skipSpace spaced cs = u at h ⊢
  cases u with
  | nil => rfl
  | cons c u =>
    have hc : c ≠ '^' := fun hc => h (congrArg some hc)
    by_cases hbracket : c = ']'
    · subst hbracket
      rfl
    · simp [firstItems, hc, hbracket]

theorem start_eq (spaced : Bool) (cs : List Char) :
    start spaced cs =
      firstItems spaced (caret spaced (skipSpace spaced cs)).1
        (caret spaced (skipSpace spaced cs)).2 := by
  by_cases hcaret : (skipSpace spaced cs).head? = some '^'
  · obtain ⟨v, hv⟩ := List.head?_eq_some_iff.mp hcaret
    rw [start_of_caret hv, hv]
    rfl
  · rw [start_of_not_caret hcaret, caret, if_neg hcaret]

theorem local_caret (spaced : Bool) : Local fun cs => some (caret spaced cs) :=
  (Local.ifHead (by decide) ((local_skipSpace spaced).map fun _ => true) (.pure false)).congr
    fun _ => apply_ite some _ _ _

theorem local_openDashes (spaced : Bool) (b : Bracket) :
    Local fun cs => some (openDashes spaced cs.length b cs) where
  suffix {cs b' rest} h := by
    have hrest : (openDashes spaced cs.length b cs).2 = rest :=
      congrArg Prod.snd (Option.some.inj h)
    exact hrest ▸ openDashes_suffix _ b cs
  extended cs := by
    refine openDashes_extended _ _ b cs (Nat.le_refl _) ?_
    rw [List.length_append]
    exact Nat.le_add_right _ _

theorem local_firstItems (spaced negated : Bool) :
    Local fun cs => some (firstItems spaced negated cs) :=
  (Local.ifHead (by decide) (.pure _) (local_openDashes spaced (opened negated))).congr
    fun _ => apply_ite some _ _ _

theorem local_start (spaced : Bool) : Local fun cs => some (start spaced cs) :=
  (((local_skipSpace spaced).bind fun _ => local_caret spaced).bind fun negated =>
    local_firstItems spaced negated).congr fun cs => congrArg some (start_eq spaced cs)

end Bracket

/-! ## Items and ranges -/

/-- A word boundary with braces behind it dangles. -/
def ItemDangles (flags : Flags) (cs : List Char) : Prop :=
  ∃ cs', cs = '\\' :: 'b' :: cs' ∧ Dangles flags cs'

theorem readSetItem_suffix {flags : Flags} {cs rest : List Char} {e : Element}
    (h : readSetItem flags cs = some (e, rest)) : rest <:+ cs.tail := by
  unfold readSetItem at h
  split at h
  · cases h
  · exact readEscape_suffix h
  · cases h
    exact List.suffix_rfl

theorem readSetItem_extended {flags : Flags} {cs : List Char} (h : ¬ItemDangles flags cs) :
    Extended cs (readSetItem flags cs) (readSetItem flags (cs ++ closing)) := by
  cases cs with
  | nil => exact .overruns (Element.literal ')') List.suffix_rfl
  | cons c cs =>
    by_cases hc : c = '\\'
    · subst hc
      have hescape : Extended cs (readEscape flags cs) (readEscape flags (cs ++ closing)) :=
        readEscape_extended fun cs' hcs hdangles => h ⟨cs', by rw [hcs], hdangles⟩
      exact hescape.of_tail
    · have hplain : ∀ cs, readSetItem flags (c :: cs) = some (.literal c, cs) := by
        intro cs
        simp [readSetItem]
      rw [List.cons_append, hplain, hplain]
      exact .goesOn _ cs

theorem readSetItem_dangles {flags : Flags} {cs : List Char} (h : ItemDangles flags cs) :
    readSetItem flags cs = none ∧ ∀ e rest, readSetItem flags (cs ++ closing) = some (e, rest) →
      rest.head? = some '{' ∧ ∃ l, e = .look l := by
  obtain ⟨_, rfl, blanks, rfl, hblanks⟩ := h
  obtain ⟨hnone, hlook⟩ := readBoundary_dangles hblanks
  refine ⟨(readEscape_b flags _).trans hnone, fun e rest hread => ?_⟩
  obtain ⟨rfl, hl⟩ := hlook e rest ((readEscape_b flags _).symm.trans hread)
  exact ⟨rfl, hl⟩

theorem dropWhile_isBlank_closing (cs : List Char) :
    (cs ++ closing).dropWhile Unicode.isBlank = cs.dropWhile Unicode.isBlank ++ closing := by
  induction cs with
  | nil => rfl
  | cons c cs ih =>
    rw [List.cons_append, List.dropWhile_cons, List.dropWhile_cons]
    split
    · exact ih
    · rfl

theorem afterDash?_closing (spaced : Bool) (cs : List Char) :
    afterDash? spaced (cs ++ closing) = (afterDash? spaced cs).or (some ')') := by
  unfold afterDash?
  cases spaced with
  | false => exact List.head?_append
  | true =>
    simp only [if_true, dropWhile_isBlank_closing]
    generalize cs.dropWhile Unicode.isBlank = u
    cases u with
    | nil => rfl
    | cons c u =>
      by_cases hc : c = '#'
      · subst hc
        simp only [List.cons_append, dropWhile_isBlank_closing]
        exact List.head?_append
      · simp [hc]

/-- The range between two elements. -/
def rangeOf? (flags : Flags) : Element → Element → Option CharSet
  | .literal a, .literal b => setRange? flags a b
  | _, _ => none

/-- What stands behind the first element of a range, or behind an element that stands alone. -/
def rangeFrom (flags : Flags) (first : Element) (cs : List Char) :
    Option (CharSet × List Char) :=
  if cs.head? = some '-' ∧ ¬(afterDash? flags.spaced cs.tail = some ']' ∨
      afterDash? flags.spaced cs.tail = some '-') then
    (readSetItem flags (skipSpace flags.spaced cs.tail)).bind fun (second, rest) =>
      (rangeOf? flags first second).map (·, rest)
  else (first.asSet? flags).map (·, cs)

theorem readSetRange_eq (flags : Flags) (cs : List Char) :
    readSetRange flags cs = (readSetItem flags cs).bind fun (first, rest) =>
      rangeFrom flags first (skipSpace flags.spaced rest) := by
  rw [readSetRange]
  refine Option.bind_congr fun ⟨first, rest⟩ _ => ?_
  dsimp only
  generalize skipSpace flags.spaced rest = u
  unfold rangeFrom
  cases u with
  | nil => rfl
  | cons c u =>
    by_cases hc : c = '-'
    · subst hc
      by_cases hend : afterDash? flags.spaced u = some ']' ∨ afterDash? flags.spaced u = some '-'
      · simp [hend]
      · simp only [hend, if_false, List.head?_cons, List.tail_cons, not_false_iff, and_self,
          if_true]
        refine Option.bind_congr fun ⟨second, rest⟩ _ => ?_
        cases first <;> cases second <;> rfl
    · rw [if_neg fun h => hc (Option.some.inj h.1)]
      simp [hc]

theorem rangeFrom_suffix {flags : Flags} {first : Element} {cs rest : List Char} {s : CharSet}
    (h : rangeFrom flags first cs = some (s, rest)) : rest <:+ cs := by
  unfold rangeFrom at h
  split at h
  · obtain ⟨⟨second, rest'⟩, hread, h⟩ := Option.bind_eq_some_iff.mp h
    obtain ⟨_, -, hsame⟩ := Option.map_eq_some_iff.mp h
    cases hsame
    exact (((readSetItem_suffix hread).trans (List.tail_suffix _)).trans
      (skipSpace_suffix _ _)).trans (List.tail_suffix cs)
  · obtain ⟨_, -, hsame⟩ := Option.map_eq_some_iff.mp h
    cases hsame
    exact List.suffix_rfl

theorem rangeOf?_look (flags : Flags) (first : Element) (l : Look) :
    rangeOf? flags first (.look l) = none := by
  cases first <;> rfl

theorem rangeFrom_extended (flags : Flags) (first : Element) (cs : List Char) :
    Extended cs (rangeFrom flags first cs) (rangeFrom flags first (cs ++ closing)) := by
  cases cs with
  | nil => exact (Local.lift (first.asSet? flags)).extended []
  | cons c cs =>
    unfold rangeFrom
    rw [List.cons_append, List.head?_cons, List.head?_cons, List.tail_cons, List.tail_cons]
    have hsame : (afterDash? flags.spaced (cs ++ closing) = some ']' ∨
        afterDash? flags.spaced (cs ++ closing) = some '-') ↔
        (afterDash? flags.spaced cs = some ']' ∨ afterDash? flags.spaced cs = some '-') := by
      rw [afterDash?_closing]
      cases afterDash? flags.spaced cs <;> simp
    simp only [hsame]
    split
    · obtain hclosing | ⟨hnil, hclosing, -⟩ := skipSpace_closing flags.spaced cs
      · rw [hclosing]
        by_cases hdangles : ItemDangles flags (skipSpace flags.spaced cs)
        · obtain ⟨hnone, hlook⟩ := readSetItem_dangles hdangles
          rw [hnone]
          cases hread : readSetItem flags (skipSpace flags.spaced cs ++ closing) with
          | none => exact .fails
          | some found =>
            obtain ⟨-, l, hl⟩ := hlook found.1 found.2 hread
            simp only [Option.bind_some, Option.bind_none, hl, rangeOf?_look]
            exact .fails
        · have hitem := (readSetItem_extended hdangles).filterMap (rangeOf? flags first)
          exact (hitem.of_suffix (skipSpace_suffix flags.spaced cs)).of_tail
      · rw [hclosing, hnil]
        exact .fails
    · exact (Local.lift (first.asSet? flags)).extended (c :: cs)

theorem local_rangeFrom (flags : Flags) (first : Element) : Local (rangeFrom flags first) where
  suffix := rangeFrom_suffix
  extended := rangeFrom_extended flags first

theorem head?_skipSpace (spaced : Bool) {cs : List Char} (h : cs.head? = some '{') :
    (skipSpace spaced cs).head? = some '{' := by
  cases cs with
  | nil => cases h
  | cons c cs =>
    obtain rfl := Option.some.inj h
    cases spaced <;> rfl

theorem readSetRange_suffix {flags : Flags} {cs rest : List Char} {s : CharSet}
    (h : readSetRange flags cs = some (s, rest)) : rest <:+ cs.tail := by
  rw [readSetRange_eq] at h
  obtain ⟨⟨first, rest'⟩, hread, h⟩ := Option.bind_eq_some_iff.mp h
  exact ((rangeFrom_suffix h).trans (skipSpace_suffix _ _)).trans (readSetItem_suffix hread)

theorem readSetRange_extended (flags : Flags) (cs : List Char) :
    Extended cs (readSetRange flags cs) (readSetRange flags (cs ++ closing)) := by
  rw [readSetRange_eq, readSetRange_eq]
  by_cases hdangles : ItemDangles flags cs
  · obtain ⟨hnone, hlook⟩ := readSetItem_dangles hdangles
    rw [hnone]
    cases hread : readSetItem flags (cs ++ closing) with
    | none => exact .fails
    | some found =>
      -- the brace is no minus sign, and a condition on places is no item
      obtain ⟨hbrace, l, hl⟩ := hlook found.1 found.2 hread
      have hskip := head?_skipSpace flags.spaced hbrace
      simp only [Option.bind_none, Option.bind_some, rangeFrom, hskip, hl]
      exact .fails
  · have hrange first := (local_skipSpace flags.spaced).bind fun _ => local_rangeFrom flags first
    refine (readSetItem_extended hdangles).bind (fun first cs s rest h => (hrange first).suffix h)
      fun first rest hread => ((hrange first).extended rest).of_suffix ?_
    exact (readSetItem_suffix hread).trans (List.tail_suffix cs)

/-! ## Rounds -/

/-- The operation that two signs spell, the first of which is read already. -/
def setOperation? (c : Char) (cs : List Char) : Option (SetOp × List Char) :=
  if cs.head? = some c then
    (if c = '&' then some SetOp.inter else if c = '-' then some .diff
      else if c = '~' then some .symmDiff else none).map (·, cs.tail)
  else none

/-- What a round makes of the character that it begins with. -/
def roundFrom (flags : Flags) (outer : List Bracket) (b : Bracket) (c : Char) (cs : List Char) :
    Option ((Nested ⊕ List Bracket × Bracket) × List Char) :=
  if c = '[' then
    match readNamedSet flags cs with
    | some (some s, rest) => some (.inr (outer, b.add ⟨s, 0⟩), rest)
    | some (none, _) => none
    | none =>
      let (inner, rest) := Bracket.start flags.spaced cs
      some (.inr (b :: outer, inner), rest)
  else if c = ']' then
    match b.close? flags, outer with
    | some s, [] => some (.inl s, cs)
    | some s, o :: outer => some (.inr (outer, o.add s), cs)
    | none, _ => none
  else
    match setOperation? c cs with
    | some (op, rest) => some (.inr (outer, b.operate flags op), rest)
    | none => (readSetRange flags (c :: cs)).map fun (s, rest) =>
      (.inr (outer, b.add ⟨s, 0⟩), rest)

/-- One round in reading a bracketed set: the set, if that ends it, or else the brackets under
construction, the outer ones apart. -/
def setRound (flags : Flags) (outer : List Bracket) (b : Bracket) (cs : List Char) :
    Option ((Nested ⊕ List Bracket × Bracket) × List Char) :=
  (next? flags.spaced cs).bind fun (c, rest) => roundFrom flags outer b c rest

/-- There is an operation only where a sign of one stands twice. -/
theorem setOperation?_eq_none {c : Char} {cs : List Char}
    (h : ∀ d v, c :: cs = d :: d :: v → d ≠ '&' ∧ d ≠ '-' ∧ d ≠ '~') :
    setOperation? c cs = none := by
  cases cs with
  | nil => rfl
  | cons d cs =>
    by_cases hsame : d = c
    · subst hsame
      obtain ⟨hand, hminus, htilde⟩ := h d cs rfl
      simp [setOperation?, hand, hminus, htilde]
    · simp [setOperation?, hsame]

theorem readSet_succ (flags : Flags) (n : Nat) (outer : List Bracket) (b : Bracket)
    (cs : List Char) : readSet flags (n + 1) outer b cs =
      (setRound flags outer b cs).bind fun
        | (.inl s, rest) => some (s, rest)
        | (.inr (outer, b), rest) => readSet flags n outer b rest := by
  rw [readSet, setRound, next?]
  generalize skipSpace flags.spaced cs = u
  split
  case h_1 => rfl
  case h_2 rest =>
    dsimp only [Option.bind_some, roundFrom]
    rw [if_pos rfl]
    cases readNamedSet flags rest with
    | none => rfl
    | some found => obtain ⟨_ | s, rest⟩ := found <;> rfl
  case h_3 rest =>
    dsimp only [Option.bind_some, roundFrom]
    rw [if_neg (by decide), if_pos rfl]
    cases b.close? flags with
    | none => rfl
    | some s => cases outer <;> rfl
  case h_4 | h_5 | h_6 => rfl
  case h_7 hnil hopen hclose hand hminus htilde =>
    cases u with
    | nil => exact absurd rfl hnil
    | cons c u =>
      have hoperation : setOperation? c u = none := by
        refine setOperation?_eq_none fun d v hpair => ⟨?_, ?_, ?_⟩ <;> rintro rfl
        · exact hand v hpair
        · exact hminus v hpair
        · exact htilde v hpair
      dsimp only [Option.bind_some, roundFrom]
      rw [if_neg (by rintro rfl; exact hopen u rfl), if_neg (by rintro rfl; exact hclose u rfl),
        hoperation]
      cases readSetRange flags (c :: u) <;> rfl

/-- An operation is followed by what stands behind its two signs. -/
theorem setOperation?_closing (c : Char) : ∀ cs : List Char,
    setOperation? c (cs ++ closing) =
      (setOperation? c cs).map fun (op, rest) => (op, rest ++ closing)
  | [] => by
    by_cases hc : c = ')'
    · subst hc
      rfl
    · have hhead : ([] ++ closing).head? ≠ some c := fun h => hc (Option.some.inj h).symm
      rw [setOperation?, if_neg hhead]
      rfl
  | d :: cs => by
    rw [List.cons_append, setOperation?, setOperation?, List.head?_cons, List.head?_cons]
    split
    · rw [Option.map_map]
      rfl
    · rfl

theorem setOperation?_suffix {c : Char} {cs rest : List Char} {op : SetOp}
    (h : setOperation? c cs = some (op, rest)) : rest <:+ cs := by
  unfold setOperation? at h
  split at h
  · obtain ⟨_, -, hsame⟩ := Option.map_eq_some_iff.mp h
    cases hsame
    exact List.tail_suffix cs
  · cases h

theorem roundFrom_suffix {flags : Flags} {outer : List Bracket} {b : Bracket} {c : Char}
    {cs rest : List Char} {x : Nested ⊕ List Bracket × Bracket}
    (h : roundFrom flags outer b c cs = some (x, rest)) : rest <:+ cs := by
  unfold roundFrom at h
  split at h
  · split at h
    · rename_i hnamed
      cases h
      exact readNamedSet_suffix hnamed
    · cases h
    · cases h
      exact (Bracket.local_start flags.spaced).suffix rfl
  · split at h
    · split at h
      · cases h
        exact List.suffix_rfl
      · cases h
        exact List.suffix_rfl
      · cases h
    · split at h
      · rename_i hoperation
        cases h
        exact setOperation?_suffix hoperation
      · obtain ⟨⟨s, rest'⟩, hrange, hsame⟩ := Option.map_eq_some_iff.mp h
        cases hsame
        exact readSetRange_suffix hrange

theorem roundFrom_extended (flags : Flags) (outer : List Bracket) (b : Bracket) (c : Char)
    (cs : List Char) :
    Extended (c :: cs) (roundFrom flags outer b c cs)
      (roundFrom flags outer b c (cs ++ closing)) := by
  unfold roundFrom
  split
  · rw [readNamedSet_closing]
    cases readNamedSet flags cs with
    | none =>
      exact (((Bracket.local_start flags.spaced).extended cs).map
        fun inner => Sum.inr (b :: outer, inner)).of_tail
    | some found =>
      obtain ⟨_ | s, rest⟩ := found
      · exact .fails
      · exact .goesOn _ rest
  · split
    · cases b.close? flags with
      | none => exact .fails
      | some s =>
        cases outer with
        | nil => exact .goesOn _ cs
        | cons => exact .goesOn _ cs
    · rw [setOperation?_closing]
      cases setOperation? c cs with
      | none =>
        exact (readSetRange_extended flags (c :: cs)).map
          fun s => Sum.inr (outer, b.add ⟨s, 0⟩)
      | some found => exact .goesOn _ found.2

theorem setRound_length {flags : Flags} {outer : List Bracket} {b : Bracket} {cs rest : List Char}
    {x : Nested ⊕ List Bracket × Bracket} (h : setRound flags outer b cs = some (x, rest)) :
    rest.length < cs.length := by
  obtain ⟨⟨c, rest'⟩, hnext, hround⟩ := Option.bind_eq_some_iff.mp h
  have hle := (roundFrom_suffix hround).length_le
  exact Nat.lt_of_le_of_lt hle (next?_length hnext)

theorem local_setRound (flags : Flags) (outer : List Bracket) (b : Bracket) :
    Local (setRound flags outer b) where
  suffix {cs x rest} h := by
    obtain ⟨⟨c, rest'⟩, hnext, hround⟩ := Option.bind_eq_some_iff.mp h
    exact (roundFrom_suffix hround).trans ((local_next? flags.spaced).suffix hnext)
  extended cs :=
    ((local_next? flags.spaced).extended cs).bind (fun _ _ _ _ h => roundFrom_suffix h)
      fun c rest hnext => (roundFrom_extended flags outer b c rest).of_suffix (next?_suffix hnext)

/-! ## Bracketed sets -/

theorem readSet_suffix {flags : Flags} {n : Nat} : ∀ {outer : List Bracket} {b : Bracket}
    {cs rest : List Char} {s : Nested},
    readSet flags n outer b cs = some (s, rest) → rest <:+ cs := by
  induction n with
  | zero => intro outer b cs rest s h; cases h
  | succ n ih =>
    intro outer b cs rest s h
    rw [readSet_succ] at h
    obtain ⟨⟨x, rest'⟩, hround, h⟩ := Option.bind_eq_some_iff.mp h
    have hrest := (local_setRound flags outer b).suffix hround
    match x, h with
    | .inl s', h =>
      cases h
      exact hrest
    | .inr (outer', b'), h => exact (ih h).trans hrest

/-- There is nothing to be read in an empty text. -/
theorem readSet_nil (flags : Flags) (n : Nat) (outer : List Bracket) (b : Bracket) :
    readSet flags n outer b [] = none := by
  cases h : readSet flags n outer b [] with
  | none => rfl
  | some found =>
    cases n with
    | zero => cases h
    | succ n =>
      rw [readSet_succ] at h
      obtain ⟨⟨x, rest⟩, hround, -⟩ := Option.bind_eq_some_iff.mp h
      exact absurd (setRound_length hround) (Nat.not_lt_zero _)

/-- **A bracketed set is local**, by induction on its rounds: whatever is put behind the pattern
does not end it. -/
theorem readSet_extended {flags : Flags} {n : Nat} : ∀ {m : Nat} {outer : List Bracket}
    {b : Bracket} {cs : List Char}, cs.length < n → (cs ++ closing).length < m →
    Extended cs (readSet flags n outer b cs) (readSet flags m outer b (cs ++ closing)) := by
  induction n with
  | zero => intro m outer b cs hn; cases hn
  | succ n ih =>
    intro m outer b cs hn hm
    cases m with
    | zero => cases hm
    | succ m =>
      have hround := (local_setRound flags outer b).extended cs
      have hshorter {x rest} (h : setRound flags outer b cs = some (x, rest)) := setRound_length h
      have hshorter' {x rest} (h : setRound flags outer b (cs ++ closing) = some (x, rest)) :=
        setRound_length h
      have hsuffix {x rest} (h : setRound flags outer b cs = some (x, rest)) : rest <:+ cs :=
        (local_setRound flags outer b).suffix h
      rw [readSet_succ, readSet_succ]
      generalize setRound flags outer b cs = x at hround hshorter hsuffix ⊢
      generalize setRound flags outer b (cs ++ closing) = y at hround hshorter' ⊢
      cases hround with
      | fails => exact .fails
      | goesOn x rest =>
        match x with
        | .inl s => exact .goesOn s rest
        | .inr (outer', b') =>
          refine .of_suffix ?_ (hsuffix rfl)
          exact ih (Nat.lt_of_lt_of_le (hshorter rfl) (Nat.le_of_lt_succ hn))
            (Nat.lt_of_lt_of_le (hshorter' rfl) (Nat.le_of_lt_succ hm))
      | hidden x hcommented =>
        match x with
        | .inl s => exact .hidden s hcommented
        | .inr (outer', b') =>
          simp only [Option.bind_some, readSet_nil]
          exact .fails
      | @overruns x rest hrest =>
        match x with
        | .inl s => exact .overruns s hrest
        | .inr (outer', b') =>
          change Extended cs none (readSet flags m outer' b' rest)
          cases hread : readSet flags m outer' b' rest with
          | none => exact .fails
          | some found => exact .overruns found.1 ((readSet_suffix hread).trans hrest)

/-! ## Repetition counts -/

theorem takeDigits_nil (spaced : Bool) (n : Nat) : takeDigits spaced n [] = ([], []) := by
  cases n <;> rfl

theorem takeDigits_closing (spaced : Bool) (n : Nat) :
    takeDigits spaced n closing = ([], closing) := by
  cases n <;> rfl

theorem takeDigits_suffix {spaced : Bool} : ∀ (n : Nat) (cs : List Char),
    (takeDigits spaced n cs).2 <:+ cs
  | 0, _ => List.suffix_rfl
  | _ + 1, [] => List.suffix_rfl
  | n + 1, c :: cs => by
    rw [takeDigits]
    split
    · exact ((takeDigits_suffix n _).trans (skipSpace_suffix spaced cs)).trans
        (List.suffix_cons c cs)
    · exact List.suffix_rfl

theorem takeDigits_extended {spaced : Bool} : ∀ (n m : Nat) (cs : List Char),
    cs.length ≤ n → cs.length ≤ m →
    Extended cs (some (takeDigits spaced n cs)) (some (takeDigits spaced m (cs ++ closing)))
  | n, m, [], _, _ => by
    rw [takeDigits_nil, List.nil_append, takeDigits_closing]
    exact .goesOn [] []
  | n + 1, m + 1, c :: cs, hn, hm => by
    rw [List.cons_append, takeDigits, takeDigits]
    split
    · have hshorter := (skipSpace_suffix spaced cs).length_le
      have hn' : cs.length ≤ n := Nat.le_of_succ_le_succ hn
      have hm' : cs.length ≤ m := Nat.le_of_succ_le_succ hm
      obtain hclosing | ⟨hnil, hclosing, hcommented⟩ := skipSpace_closing spaced cs
      · rw [hclosing]
        refine .of_tail (.of_suffix ?_ (skipSpace_suffix spaced cs))
        exact (takeDigits_extended n m _ (Nat.le_trans hshorter hn')
          (Nat.le_trans hshorter hm')).map (c :: ·)
      · rw [hclosing, hnil, takeDigits_nil, takeDigits_nil]
        exact (Extended.hidden [c] hcommented).of_tail
    · exact .goesOn [] (c :: cs)

theorem local_dropBlanks : Local fun cs => some ((), cs.dropWhile Unicode.isBlank) where
  suffix h := (Prod.mk.inj (Option.some.inj h)).2 ▸ List.dropWhile_suffix _
  extended cs := by
    rw [dropWhile_isBlank_closing]
    exact .goesOn () _

theorem local_takeDigits (spaced : Bool) :
    Local fun cs => some (takeDigits spaced cs.length cs) where
  suffix {cs ds rest} h := by
    have hrest : (takeDigits spaced cs.length cs).2 = rest :=
      congrArg Prod.snd (Option.some.inj h)
    exact hrest ▸ takeDigits_suffix _ cs
  extended cs := by
    refine takeDigits_extended _ _ cs (Nat.le_refl _) ?_
    rw [List.length_append]
    exact Nat.le_add_right _ _

theorem local_readCount (spaced : Bool) : Local fun cs => some (readCount spaced cs) := by
  refine (((local_dropBlanks.bind fun _ => local_takeDigits spaced).bind
    (g := fun digits rest => some (digits, rest.dropWhile Unicode.isBlank)) fun digits =>
      local_dropBlanks.map fun _ => digits).map fun digits =>
        if digits = [] then none
        else some (if ofDecimalDigits digits < Nat.pow 2 32 then some (ofDecimalDigits digits)
          else none)).congr fun cs => ?_
  rw [readCount]
  dsimp only [Option.bind_some, Option.map_some]
  split <;> rfl

/-- The upper bound of a repetition, if there is one, and the brace that closes the bounds. -/
def upperBound (spaced : Bool) (low : Nat) (cs : List Char) :
    Option ((Nat × Option Nat) × List Char) :=
  if cs.head? = some '}' then some ((low, none), cs.tail)
  else
    match readCount spaced cs with
    | (some (some high), rest) =>
      if rest.head? = some '}' ∧ low ≤ high then some ((low, some high), rest.tail) else none
    | _ => none

/-- What stands behind the lower bound of a repetition. -/
def boundsFrom (spaced : Bool) (count : Option (Option Nat)) (cs : List Char) :
    Option ((Nat × Option Nat) × List Char) :=
  match count with
  | some (some low) =>
    if cs.head? = some ',' then upperBound spaced low (skipSpace spaced cs.tail)
    else if cs.head? = some '}' then some ((low, some low), cs.tail)
    else none
  | _ => none

/-- The bounds of a repetition, apart from what follows them. -/
def boundsRead (spaced : Bool) (cs : List Char) : Option ((Nat × Option Nat) × List Char) :=
  (readBounds spaced cs).map fun (low, high, rest) => ((low, high), rest)

theorem boundsRead_of_comma {spaced : Bool} {cs rest : List Char} {low : Nat}
    (h : readCount spaced (skipSpace spaced cs) = (some (some low), ',' :: rest)) :
    boundsRead spaced cs = upperBound spaced low (skipSpace spaced rest) := by
  simp only [boundsRead, readBounds, h]
  generalize skipSpace spaced rest = u
  unfold upperBound
  split
  · rfl
  · rename_i hother
    have hbrace : u.head? ≠ some '}' := fun hhead => by
      obtain ⟨rest, hrest⟩ := List.head?_eq_some_iff.mp hhead
      exact hother rest hrest
    rw [if_neg hbrace]
    generalize readCount spaced u = counted
    obtain ⟨_ | _ | high, rest⟩ := counted
    · rfl
    · rfl
    cases rest with
    | nil => rfl
    | cons c rest =>
      by_cases hc : c = '}'
      · subst hc
        by_cases hle : low ≤ high <;> simp [hle]
      · simp [hc]

theorem boundsRead_eq (spaced : Bool) (cs : List Char) :
    boundsRead spaced cs =
      (some (readCount spaced (skipSpace spaced cs))).bind fun (count, rest) =>
        boundsFrom spaced count rest := by
  rw [Option.bind_some]
  rcases hcounted : readCount spaced (skipSpace spaced cs) with ⟨count, rest⟩
  dsimp only
  by_cases hcomma : ∃ low rest', count = some (some low) ∧ rest = ',' :: rest'
  · obtain ⟨low, rest, rfl, rfl⟩ := hcomma
    exact boundsRead_of_comma hcounted
  · simp only [boundsRead, readBounds, hcounted]
    obtain _ | _ | low := count
    · rfl
    · rfl
    cases rest with
    | nil => rfl
    | cons c rest =>
      have hc : c ≠ ',' := fun hc => hcomma ⟨low, rest, rfl, hc ▸ rfl⟩
      by_cases hbrace : c = '}'
      · subst hbrace
        rfl
      · simp [boundsFrom, hc, hbrace]

theorem local_upperBound (spaced : Bool) (low : Nat) : Local (upperBound spaced low) := by
  refine Local.ifHead (by decide) (.pure (low, none)) ?_
  refine ((local_readCount spaced).bind (g := fun count rest => match count with
    | some (some high) => if rest.head? = some '}' then
        (if low ≤ high then some (low, some high) else none).map (·, rest.tail) else none
    | _ => none) fun count => ?_).congr fun cs => ?_
  · obtain _ | _ | high := count
    · exact .none
    · exact .none
    · exact .ifHead (by decide) (.lift _) .none
  · generalize readCount spaced cs = counted
    obtain ⟨_ | _ | high, rest⟩ := counted
    · rfl
    · rfl
    · by_cases hbrace : rest.head? = some '}' <;> by_cases hle : low ≤ high <;> simp [hbrace, hle]

theorem local_boundsFrom (spaced : Bool) (count : Option (Option Nat)) :
    Local (boundsFrom spaced count) := by
  obtain _ | _ | low := count
  · exact .none
  · exact .none
  · exact .ifHead (by decide) ((local_skipSpace spaced).bind fun _ => local_upperBound spaced low)
      (.ifHead (by decide) (.pure _) .none)

theorem local_boundsRead (spaced : Bool) : Local (boundsRead spaced) :=
  (((local_skipSpace spaced).bind fun _ => local_readCount spaced).bind fun count =>
    local_boundsFrom spaced count).congr (boundsRead_eq spaced)

end CaseScript.Regex

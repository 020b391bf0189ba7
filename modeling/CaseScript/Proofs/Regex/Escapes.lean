import CaseScript.Proofs.Regex.Local
import CaseScript.Proofs.Text.Search

/-!
# Proofs/Regex/Escapes — escapes, flags and names are local

All that follows a backslash, or the question mark that opens a group, is local, but for the braces
behind a word boundary: where nothing but space follows them in the pattern, the pattern fails, and
with `closing` behind it they are left to be read as a repetition, which then fails (`Dangles`).
-/

namespace CaseScript.Regex

/-! ## Numbers and properties -/

/-- A number in braces, or one whose first character is read and `width` others are not. -/
def numberFrom (flags : Flags) (letter : Char) (width : Nat) (c : Char) (cs : List Char) :
    Option (Element × List Char) :=
  if c = '{' then
    (takeBraced flags.spaced cs).bind fun (digits, rest) =>
      ((hexValue? digits).bind charOf?).map fun c => (.literal c, rest)
  else
    (takeSpaced flags.spaced width cs).bind fun (digits, rest) =>
      ((hexValue? (c :: digits)).bind charOf?).bind fun c =>
        if letter = 'x' ∧ ¬flags.unicode ∧ 128 ≤ c.toNat then none else some (.literal c, rest)

theorem readNumbered_eq (flags : Flags) (letter : Char) : ∃ width, ∀ cs,
    readNumbered flags letter cs =
      (next? flags.spaced cs).bind fun (c, rest) => numberFrom flags letter width c rest := by
  obtain ⟨width, hwidth⟩ : ∃ width,
      (if letter = 'x' then 2 else if letter = 'u' then 4 else 8) = width + 1 := by
    split
    · exact ⟨1, rfl⟩
    · split
      · exact ⟨3, rfl⟩
      · exact ⟨7, rfl⟩
  refine ⟨width, fun cs => ?_⟩
  rw [readNumbered, hwidth]
  cases hnext : next? flags.spaced cs with
  | none =>
    dsimp only
    rw [takeSpaced, hnext]
    rfl
  | some found =>
    obtain ⟨c, rest⟩ := found
    simp only [Option.bind_some]
    unfold numberFrom
    split
    · rename_i hbrace
      cases hbrace
      rw [if_pos rfl]
      cases takeBraced flags.spaced rest with
      | none => rfl
      | some read =>
        simp only [Option.bind_eq_bind, Option.bind_some]
        generalize (hexValue? read.1).bind charOf? = x
        cases x <;> rfl
    · rename_i hbrace
      rw [if_neg (by rintro rfl; exact hbrace rest rfl), takeSpaced, hnext]
      dsimp only
      cases takeSpaced flags.spaced width rest with
      | none => rfl
      | some read =>
        simp only [Option.bind_eq_bind, Option.map_some, Option.bind_some]

theorem local_readNumbered (flags : Flags) (letter : Char) : Local (readNumbered flags letter) := by
  obtain ⟨width, hread⟩ := readNumbered_eq flags letter
  refine ((local_next? flags.spaced).bind (g := numberFrom flags letter width) fun c => ?_).congr
    hread
  unfold numberFrom
  split
  · refine (local_takeBraced flags.spaced).bind (g := fun digits rest =>
      ((hexValue? digits).bind charOf?).map fun c => (Element.literal c, rest)) fun digits => ?_
    cases (hexValue? digits).bind charOf? with
    | none => exact .none
    | some c => exact .pure (Element.literal c)
  · refine (local_takeSpaced flags.spaced width).bind (g := fun digits rest =>
      ((hexValue? (c :: digits)).bind charOf?).bind fun c =>
        if letter = 'x' ∧ ¬flags.unicode ∧ 128 ≤ c.toNat then none
        else some (Element.literal c, rest)) fun digits => ?_
    cases (hexValue? (c :: digits)).bind charOf? with
    | none => exact .none
    | some c =>
      simp only [Option.bind_some]
      split
      · exact .none
      · exact .pure (Element.literal c)

/-- The name of a property: a letter, or what stands in braces. -/
def propertyName (spaced : Bool) (c : Char) (cs : List Char) : Option (List Char × List Char) :=
  if c = '{' then takeBraced spaced cs else if c = '\\' then none else some ([c], cs)

theorem readProperty_eq (flags : Flags) (negated : Bool) (cs : List Char) :
    readProperty flags negated cs =
      ((next? flags.spaced cs).bind fun (c, rest) => propertyName flags.spaced c rest).bind
        fun (name, rest) => (propertySet? name).bind fun s =>
          if flags.unicode then some (.set ((flags.fold s).negatedIf negated), rest) else none := by
  rw [readProperty]
  cases hnext : next? flags.spaced cs with
  | none => rfl
  | some found =>
    obtain ⟨c, rest⟩ := found
    simp only [Option.bind_some]
    unfold propertyName
    split
    · rename_i hbrace
      cases hbrace
      rfl
    · rename_i hbackslash
      cases hbackslash
      rfl
    · rename_i hbrace hbackslash hsame
      cases hsame
      rw [if_neg hbrace, if_neg hbackslash]
      rfl
    · rename_i hnone
      cases hnone

theorem local_readProperty (flags : Flags) (negated : Bool) :
    Local (readProperty flags negated) := by
  have hname : Local fun cs =>
      (next? flags.spaced cs).bind fun (c, rest) => propertyName flags.spaced c rest := by
    refine (local_next? flags.spaced).bind fun c => ?_
    unfold propertyName
    split
    · exact local_takeBraced flags.spaced
    · split
      · exact .none
      · exact .pure [c]
  refine (hname.bind (g := fun name rest => (propertySet? name).bind fun s =>
    if flags.unicode then some (Element.set ((flags.fold s).negatedIf negated), rest)
    else none) fun name => ?_).congr (readProperty_eq flags negated)
  cases propertySet? name with
  | none => exact .none
  | some s =>
    simp only [Option.bind_some]
    split
    · exact .pure (Element.set ((flags.fold s).negatedIf negated))
    · exact .none

/-! ## Word boundaries -/

/-- Nothing but space follows the braces behind a word boundary. -/
def Dangles (flags : Flags) (cs : List Char) : Prop :=
  ∃ blanks, cs = '{' :: blanks ∧ next? flags.spaced blanks = none

theorem readBoundary_suffix {flags : Flags} {cs rest : List Char} {e : Element}
    (h : readBoundary flags cs = some (e, rest)) : rest <:+ cs := by
  unfold readBoundary at h
  split at h
  · rename_i cs'
    split at h
    · cases h
    · split at h
      · split at h
        · rename_i name rest' hname
          have hrest := (takeBraced_suffix hname).trans (List.suffix_cons '{' cs')
          split at h
          case h_5 => cases h
          all_goals exact (Prod.mk.inj (Option.some.inj h)).2 ▸ hrest
        · cases h
      · cases h
        exact List.suffix_rfl
  · cases h
    exact List.suffix_rfl

theorem exists_next?_closing {spaced : Bool} {cs rest : List Char} {c : Char}
    (h : next? spaced cs = some (c, rest)) :
    ∃ rest', next? spaced (cs ++ closing) = some (c, rest') := by
  have hextended := (local_next? spaced).extended cs
  rw [h] at hextended
  generalize next? spaced (cs ++ closing) = y at hextended
  cases hextended with
  | goesOn => exact ⟨_, rfl⟩
  | hidden => exact ⟨_, rfl⟩

/-- The word boundary that a name in braces stands for. -/
def namedBoundary? (flags : Flags) (name : List Char) : Option Element :=
  match String.ofList name with
  | "start" => some (.look (.wordStart !flags.unicode))
  | "end" => some (.look (.wordEnd !flags.unicode))
  | "start-half" => some (.look (.wordStartHalf !flags.unicode))
  | "end-half" => some (.look (.wordEndHalf !flags.unicode))
  | _ => none

theorem readBoundary_braced {flags : Flags} {cs rest : List Char} {d : Char}
    (h : next? flags.spaced cs = some (d, rest)) (hd : d = '-' ∨ d.isAlpha) :
    readBoundary flags ('{' :: cs) =
      (takeBraced flags.spaced cs).bind fun (name, rest) =>
        (namedBoundary? flags name).map (·, rest) := by
  simp only [readBoundary, h]
  rw [if_pos hd]
  cases takeBraced flags.spaced cs with
  | none => rfl
  | some found =>
    dsimp only [Option.bind_some, namedBoundary?]
    generalize String.ofList found.1 = name
    split
    case h_5 => simp only [Option.map_none]
    all_goals rfl

theorem readBoundary_of_ne {flags : Flags} {c : Char} (hc : c ≠ '{') (cs : List Char) :
    readBoundary flags (c :: cs) = some (.look (.wordBoundary !flags.unicode), c :: cs) := by
  unfold readBoundary
  split
  · rename_i hsame
    exact absurd (List.cons.inj hsame).1 hc
  · rfl

theorem readBoundary_extended {flags : Flags} {cs : List Char} (h : ¬Dangles flags cs) :
    Extended cs (readBoundary flags cs) (readBoundary flags (cs ++ closing)) := by
  cases cs with
  | nil => exact .goesOn (Element.look (.wordBoundary !flags.unicode)) []
  | cons c cs =>
    by_cases hc : c = '{'
    · subst hc
      cases hnext : next? flags.spaced cs with
      | none => exact absurd ⟨cs, rfl, hnext⟩ h
      | some found =>
        obtain ⟨rest', hclosing⟩ := exists_next?_closing hnext
        by_cases hd : found.1 = '-' ∨ found.1.isAlpha
        · rw [List.cons_append, readBoundary_braced hnext hd, readBoundary_braced hclosing hd]
          exact (((local_takeBraced flags.spaced).extended cs).filterMap
            (namedBoundary? flags)).of_tail
        · simp only [readBoundary, List.cons_append, hnext, hclosing]
          rw [if_neg hd, if_neg hd]
          exact .goesOn (Element.look (.wordBoundary !flags.unicode)) ('{' :: cs)
    · rw [List.cons_append, readBoundary_of_ne hc, readBoundary_of_ne hc]
      exact .goesOn _ (c :: cs)

theorem skipSpace_of_next? {spaced : Bool} {cs : List Char} (h : next? spaced cs = none) :
    skipSpace spaced cs = [] := by
  rw [next?] at h
  split at h
  · assumption
  · cases h

theorem next?_closing {spaced : Bool} {blanks : List Char} (h : next? spaced blanks = none) :
    next? spaced (blanks ++ closing) = some (')', ['$']) ∨
      next? spaced (blanks ++ closing) = none := by
  rw [next?]
  obtain hclosing | ⟨-, hclosing, -⟩ := skipSpace_closing spaced blanks
  · rw [hclosing, skipSpace_of_next? h]
    exact .inl rfl
  · rw [hclosing]
    exact .inr rfl

theorem readBoundary_dangles {flags : Flags} {blanks : List Char}
    (h : next? flags.spaced blanks = none) :
    readBoundary flags ('{' :: blanks) = none ∧
      ∀ e rest, readBoundary flags ('{' :: (blanks ++ closing)) = some (e, rest) →
        rest = '{' :: (blanks ++ closing) ∧ ∃ l, e = .look l := by
  unfold readBoundary
  simp only [h, true_and]
  intro e rest hread
  obtain hclosing | hclosing := next?_closing h
  · rw [hclosing] at hread
    dsimp only at hread
    rw [if_neg (by decide)] at hread
    cases hread
    exact ⟨rfl, _, rfl⟩
  · rw [hclosing] at hread
    cases hread

theorem local_readEscape (flags : Flags) {c : Char} (hc : c ≠ 'b') :
    Local fun cs => readEscape flags (c :: cs) := by
  simp only [readEscape]
  split
  · exact local_readNumbered flags c
  · split
    · exact local_readProperty flags (c = 'P')
    · split
      · exact ((Local.lift (classEscape? flags c)).map Element.set).congr fun cs => by
          cases classEscape? flags c <;> rfl
      · split
        case h_9 => exact absurd rfl hc
        case h_13 =>
          split
          · exact .pure _
          · exact .none
        all_goals exact .pure _

theorem readEscape_b (flags : Flags) (cs : List Char) :
    readEscape flags ('b' :: cs) = readBoundary flags cs := by
  simp [readEscape]

theorem readEscape_suffix {flags : Flags} {cs rest : List Char} {e : Element}
    (h : readEscape flags cs = some (e, rest)) : rest <:+ cs := by
  cases cs with
  | nil => cases h
  | cons c cs =>
    refine List.IsSuffix.trans ?_ (List.suffix_cons c cs)
    by_cases hc : c = 'b'
    · subst hc
      rw [readEscape_b] at h
      exact readBoundary_suffix h
    · exact (local_readEscape flags hc).suffix h

theorem readEscape_extended {flags : Flags} {cs : List Char}
    (h : ∀ cs', cs = 'b' :: cs' → ¬Dangles flags cs') :
    Extended cs (readEscape flags cs) (readEscape flags (cs ++ closing)) := by
  cases cs with
  | nil => exact .overruns (Element.literal ')') List.suffix_rfl
  | cons c cs =>
    by_cases hc : c = 'b'
    · subst hc
      rw [List.cons_append, readEscape_b, readEscape_b]
      exact (readBoundary_extended (h cs rfl)).of_tail
    · exact ((local_readEscape flags hc).extended cs).of_tail

/-! ## Flags and names -/

/-- The flags read with their letters, and the character that ends them. -/
def flagsRead (flags : Flags) (seen : List Char) (on last : Bool) (cs : List Char) :
    Option ((Flags × List Char × Char) × List Char) :=
  (readFlags flags seen on last cs).map fun (flags, seen, c, rest) => ((flags, seen, c), rest)

theorem flagsRead_suffix : ∀ {cs : List Char} {flags : Flags} {seen : List Char} {on last : Bool}
    {read : Flags × List Char × Char} {rest : List Char},
    flagsRead flags seen on last cs = some (read, rest) → rest <:+ cs
  | [], _, _, _, _, _, _, h => nomatch h
  | c :: cs, flags, seen, on, last, read, rest, h => by
    unfold flagsRead at h
    rw [readFlags] at h
    split at h
    · split at h
      · cases h
      · cases h
        exact List.suffix_cons c cs
    · split at h
      · cases h
      · split at h
        · exact (flagsRead_suffix h).trans (List.suffix_cons c cs)
        · split at h
          · exact (flagsRead_suffix h).trans (List.suffix_cons c cs)
          · cases h

theorem flagsRead_extended : ∀ (cs : List Char) (flags : Flags) (seen : List Char) (on last : Bool),
    Extended cs (flagsRead flags seen on last cs) (flagsRead flags seen on last (cs ++ closing))
  | [], flags, seen, on, false => .overruns (flags, seen, ')') List.suffix_rfl
  | [], flags, seen, on, true => .fails
  | c :: cs, flags, seen, on, last => by
    unfold flagsRead
    rw [List.cons_append, readFlags, readFlags]
    split
    · split
      · exact .fails
      · exact .goesOn (flags, seen, c) cs
    · split
      · exact .fails
      · split
        · exact (flagsRead_extended cs flags (c :: seen) false true).of_tail
        · cases flags.set? c on with
          | none => exact .fails
          | some flags => exact (flagsRead_extended cs flags (c :: seen) on false).of_tail

theorem local_flagsRead (flags : Flags) (seen : List Char) (on last : Bool) :
    Local (flagsRead flags seen on last) where
  suffix h := flagsRead_suffix h
  extended cs := flagsRead_extended cs flags seen on last

theorem local_cutAt? {separator : Char} (h : separator ∉ closing) :
    Local (Text.cutAt? separator) where
  suffix {cs front back} hcut := by
    rw [Text.cutAt?_eq_some hcut]
    exact ⟨front ++ [separator], by simp⟩
  extended cs := by
    by_cases hmem : separator ∈ cs
    · obtain ⟨front, back, hcut, -⟩ := Text.exists_cutAt? hmem
      rw [hcut, Text.cutAt?_append_of_eq_some hcut]
      exact .goesOn front back
    · have hboth : separator ∉ cs ++ closing := by simp [hmem, h]
      rw [Text.cutAt?_eq_none hmem, Text.cutAt?_eq_none hboth]
      exact .fails

end CaseScript.Regex

import CaseScript.Proofs.Template.Passes
import CaseScript.Proofs.Text.Trim

/-!
# Proofs/Template/Quotes — in a statement every quote of the data is doubled once

A template under a key `sql` is filled like the same template under any other key, but for the
quotes of the values, which are doubled.  What is doubled already is filled again by the next pass:
the pieces of a doubled text are those of the text, doubled (`pieces_doubleQuotes`), so that doubling
and filling can change places (`fillText_doubleQuotes`) as long as no name has a quote.  The
statement of every pass is then the text of that pass with its quotes doubled, and so is the last
one (`sql_doublesQuotes`).
-/

namespace CaseScript

namespace Template

/-! ## Doubled texts -/

theorem doubleQuotes_cons (c : Char) (cs : List Char) :
    doubleQuotes (c :: cs) = (if c = '\'' then ['\'', '\''] else [c]) ++ doubleQuotes cs :=
  List.flatMap_cons

theorem doubleQuotes_append (a b : List Char) :
    doubleQuotes (a ++ b) = doubleQuotes a ++ doubleQuotes b :=
  List.flatMap_append

theorem doubleQuotes_cons_of_ne {c : Char} (h : c ≠ '\'') (cs : List Char) :
    doubleQuotes (c :: cs) = c :: doubleQuotes cs := by
  rw [doubleQuotes_cons, if_neg h]
  rfl

theorem doubleQuotes_eq_self {cs : List Char} (h : '\'' ∉ cs) : doubleQuotes cs = cs := by
  induction cs with
  | nil => rfl
  | cons c cs ih =>
    obtain ⟨hc, hcs⟩ := not_or.mp (mt List.mem_cons.mpr h)
    rw [doubleQuotes_cons_of_ne (Ne.symm hc), ih hcs]

theorem mem_doubleQuotes {c : Char} {cs : List Char} : c ∈ doubleQuotes cs ↔ c ∈ cs := by
  induction cs with
  | nil => exact Iff.rfl
  | cons d cs ih =>
    rw [doubleQuotes_cons, List.mem_append, ih, List.mem_cons]
    split
    · rename_i hd
      simp [hd]
    · rw [List.mem_singleton]

/-- A doubled text is cut where the text is, unless it is cut before a quote. -/
theorem doubleQuotes_eq_append {cs a : List Char} {c : Char} {b : List Char} (hc : c ≠ '\'')
    (h : doubleQuotes cs = a ++ c :: b) :
    ∃ front rest, cs = front ++ c :: rest ∧ a = doubleQuotes front ∧ b = doubleQuotes rest := by
  induction cs generalizing a with
  | nil => exact absurd h.symm (List.append_ne_nil_of_right_ne_nil a (List.cons_ne_nil c b))
  | cons d cs ih =>
    by_cases hd : d = '\''
    · subst hd
      obtain _ | ⟨a₁, _ | ⟨a₂, a⟩⟩ := a
      · exact absurd (List.cons.inj h).1 (Ne.symm hc)
      · exact absurd (List.cons.inj (List.cons.inj h).2).1 (Ne.symm hc)
      · obtain ⟨hfirst, hrest⟩ := List.cons.inj h
        obtain ⟨hsecond, hrest⟩ := List.cons.inj hrest
        obtain ⟨front, rest, rfl, rfl, rfl⟩ := ih hrest
        exact ⟨'\'' :: front, rest, rfl, by rw [← hfirst, ← hsecond]; rfl, rfl⟩
    · rw [doubleQuotes_cons_of_ne hd] at h
      obtain _ | ⟨a₁, a⟩ := a
      · obtain ⟨rfl, rfl⟩ := List.cons.inj h
        exact ⟨[], cs, rfl, rfl, rfl⟩
      · obtain ⟨rfl, hrest⟩ := List.cons.inj h
        obtain ⟨front, rest, rfl, rfl, rfl⟩ := ih hrest
        exact ⟨d :: front, rest, rfl, (doubleQuotes_cons_of_ne hd front).symm, rfl⟩

theorem doubleQuotes_eq_cons {cs b : List Char} {c : Char} (hc : c ≠ '\'')
    (h : doubleQuotes cs = c :: b) : ∃ rest, cs = c :: rest ∧ b = doubleQuotes rest := by
  obtain ⟨front, rest, rfl, hfront, rfl⟩ := doubleQuotes_eq_append (a := []) hc h
  cases front with
  | nil => exact ⟨rest, rfl, rfl⟩
  | cons d front =>
    have hmem : d ∈ doubleQuotes (d :: front) := mem_doubleQuotes.mpr List.mem_cons_self
    exact absurd (hfront ▸ hmem) List.not_mem_nil

/-! ## Pieces of doubled texts -/

/-- The pieces that a piece becomes when its text is doubled. -/
def doublePiece : Piece → List Piece
  | .char c => if c = '\'' then [.char c, .char c] else [.char c]
  | .slot inner => [.slot (doubleQuotes inner)]

theorem doubleQuotes_slot (inner : List Char) :
    doubleQuotes (Piece.slot inner).text = (Piece.slot (doubleQuotes inner)).text := by
  change doubleQuotes ('{' :: '{' :: (inner ++ ['}', '}'])) =
    '{' :: '{' :: (doubleQuotes inner ++ ['}', '}'])
  rw [doubleQuotes_cons_of_ne (by decide), doubleQuotes_cons_of_ne (by decide),
    doubleQuotes_append]
  rfl

theorem slot?_doubleQuotes {cs : List Char} (h : slot? cs = none) :
    slot? (doubleQuotes cs) = none := by
  cases hslot : slot? (doubleQuotes cs) with
  | none => rfl
  | some inner =>
    obtain ⟨⟨rest, htext⟩, hinner⟩ := slot?_eq_some.mp hslot
    have hopened : doubleQuotes cs = '{' :: '{' :: (inner ++ '}' :: '}' :: rest) := by
      simpa [Piece.text] using htext
    have hopen : '{' ≠ '\'' := by decide
    have hclose : '}' ≠ '\'' := by decide
    obtain ⟨cs₁, rfl, hcs₁⟩ := doubleQuotes_eq_cons hopen hopened
    obtain ⟨cs₂, rfl, hcs₂⟩ := doubleQuotes_eq_cons hopen hcs₁.symm
    obtain ⟨front, closed, rfl, rfl, hclosed⟩ := doubleQuotes_eq_append hclose hcs₂.symm
    obtain ⟨last, rfl, -⟩ := doubleQuotes_eq_cons hclose hclosed.symm
    have hfound : slot? ('{' :: '{' :: (front ++ '}' :: '}' :: last)) = some front :=
      slot?_eq_some.mpr ⟨⟨last, by simp [Piece.text]⟩,
        fun c hc => hinner c (mem_doubleQuotes.mpr hc)⟩
    rw [hfound] at h
    cases h

/-- **The pieces of a doubled text are those of the text, doubled.** -/
theorem pieces_doubleQuotes (cs : List Char) :
    pieces (doubleQuotes cs) = (pieces cs).flatMap doublePiece := by
  induction cs using pieces_induction with
  | nil => rfl
  | slot inner rest hinner ih =>
    have hdoubled : ∀ c ∈ doubleQuotes inner, isInner c := fun c hc =>
      hinner c (mem_doubleQuotes.mp hc)
    rw [doubleQuotes_append, doubleQuotes_slot, pieces_slot_append hdoubled,
      pieces_slot_append hinner, ih]
    rfl
  | char c rest hslot ih =>
    have hslot' := slot?_doubleQuotes hslot
    rw [pieces_char hslot, List.flatMap_cons, ← ih, doublePiece]
    by_cases hc : c = '\''
    · subst hc
      rfl
    · rw [doubleQuotes_cons_of_ne hc] at hslot' ⊢
      rw [pieces_char hslot', if_neg hc]
      rfl

/-- What is read off the slots only is the same in a doubled text, if no slot has a quote. -/
theorem filterMap_doublePiece {α : Type} {f : Piece → Option α} (hf : ∀ c, f (.char c) = none)
    {ps : List Piece} (hps : ∀ inner, .slot inner ∈ ps → '\'' ∉ inner) :
    (ps.flatMap doublePiece).filterMap f = ps.filterMap f := by
  induction ps with
  | nil => rfl
  | cons piece ps ih =>
    have hrest := ih fun inner h => hps inner (List.mem_cons_of_mem _ h)
    rw [List.flatMap_cons, List.filterMap_append, hrest]
    cases piece with
    | char c =>
      rw [List.filterMap_cons_none (hf c), doublePiece]
      split <;> simp [hf]
    | slot inner =>
      rw [doublePiece, doubleQuotes_eq_self (hps inner List.mem_cons_self),
        ← List.filterMap_append]
      rfl

/-- A doubled text is a single slot only if the text is. -/
theorem eq_slot_of_doubled {ps : List Piece} {inner : List Char}
    (h : ps.flatMap doublePiece = [.slot inner]) : ∃ inner', ps = [.slot inner'] := by
  match ps with
  | [] => cases h
  | .char c :: ps =>
    rw [List.flatMap_cons, doublePiece] at h
    split at h <;> cases h
  | [.slot inner'] => exact ⟨inner', rfl⟩
  | .slot _ :: .char c :: ps =>
    rw [List.flatMap_cons, List.flatMap_cons, doublePiece, doublePiece] at h
    split at h <;> cases h
  | .slot _ :: .slot _ :: ps => cases h

/-! ## Names without quotes -/

/-- No name has a quote. -/
def QuoteFree (names : List String) : Prop := ∀ n ∈ names, '\'' ∉ n.toList

theorem quote_not_mem_slot {s : String} (h : QuoteFree (namesInText s)) {inner : List Char}
    (hinner : .slot inner ∈ pieces s.toList) : '\'' ∉ inner := by
  intro hquote
  have htrim : '\'' ∈ Text.trim inner := Text.mem_trim hquote (by decide)
  by_cases hname : slotName inner = ""
  · have hblank : Text.trim inner = [] := String.ofList_injective hname
    exact absurd (hblank ▸ htrim) List.not_mem_nil
  · refine h _ (mem_namesInText hinner hname) ?_
    rwa [slotName, String.toList_ofList]

/-- The text with its quotes doubled. -/
def doubled (s : String) : String := String.ofList (doubleQuotes s.toList)

theorem namesInText_doubled {s : String} (h : QuoteFree (namesInText s)) :
    namesInText (doubled s) = namesInText s := by
  rw [namesInText, namesInText, doubled, String.toList_ofList, pieces_doubleQuotes,
    filterMap_doublePiece (fun _ => rfl) fun _ => quote_not_mem_slot h]

variable {values : Entries}

theorem splice_doubled {s : String} (h : QuoteFree (namesInText s)) :
    splice values true (doubled s) = doubled (splice values false s) := by
  have hpieces : ∀ ps : List Piece, (∀ inner, .slot inner ∈ ps → '\'' ∉ inner) →
      (ps.flatMap doublePiece).flatMap (splicePiece values true) =
        doubleQuotes (ps.flatMap (splicePiece values false)) := by
    intro ps hps
    induction ps with
    | nil => rfl
    | cons piece ps ih =>
      have hrest := ih fun inner h => hps inner (List.mem_cons_of_mem _ h)
      rw [List.flatMap_cons, List.flatMap_append, hrest, List.flatMap_cons, doubleQuotes_append]
      refine congrArg (· ++ _) ?_
      cases piece with
      | char c =>
        by_cases hc : c = '\''
        · subst hc
          rfl
        · rw [doublePiece, if_neg hc, splicePiece, doubleQuotes_cons_of_ne hc]
          rfl
      | slot inner =>
        have hself := doubleQuotes_eq_self (hps inner List.mem_cons_self)
        rw [doublePiece, hself, List.flatMap_singleton, splicePiece, splicePiece]
        split
        · rfl
        · rw [doubleQuotes_slot, hself]
  rw [splice, splice, doubled, doubled, String.toList_ofList, String.toList_ofList,
    pieces_doubleQuotes, hpieces _ fun _ => quote_not_mem_slot h]

theorem fillText_of_not_slot {inSql : Bool} {s : String}
    (h : ¬∃ inner, pieces s.toList = [.slot inner]) :
    fillText values inSql s = .str (splice values inSql s) := by
  unfold fillText
  split
  · exact absurd ⟨_, ‹_›⟩ h
  · rfl

/-- **Filling a text that is doubled doubles what the text is filled to**, if that is a text. -/
theorem fillText_doubled {s filled : String} (h : QuoteFree (namesInText s))
    (hfilled : fillText values false s = .str filled) :
    fillText values true (doubled s) = .str (doubled filled) := by
  have hpieces : pieces (doubled s).toList = (pieces s.toList).flatMap doublePiece := by
    rw [doubled, String.toList_ofList, pieces_doubleQuotes]
  by_cases hslot : ∃ inner, pieces s.toList = [.slot inner]
  · obtain ⟨inner, hinner⟩ := hslot
    have hself : doubleQuotes inner = inner :=
      doubleQuotes_eq_self (quote_not_mem_slot h (hinner ▸ List.mem_singleton_self _))
    rw [hinner, List.flatMap_singleton, doublePiece, hself] at hpieces
    rw [fillText, hinner] at hfilled
    rw [fillText, hpieces]
    dsimp only at hfilled ⊢
    split at hfilled
    · obtain rfl : _ = Json.str filled := hfilled
      rfl
    · obtain rfl := Json.str.inj hfilled
      rfl
  · have hnot : ¬∃ inner, pieces (doubled s).toList = [.slot inner] := by
      rintro ⟨inner, hinner⟩
      exact hslot (eq_slot_of_doubled (hpieces ▸ hinner))
    rw [fillText_of_not_slot hslot] at hfilled
    rw [fillText_of_not_slot hnot, splice_doubled h, Json.str.inj hfilled]

/-! ## A template with a single entry -/

variable {answers : String → Except StepError Json} {key : String} {v w : Json}

theorem namesIn_entry (hkey : namesInText key = []) : namesIn (.obj [(key, v)]) = namesIn v := by
  rw [namesIn, namesInEntries, namesInEntries, hkey, List.append_nil, List.nil_append]

theorem placeholderNames_entry (hkey : namesInText key = []) :
    placeholderNames (.obj [(key, v)]) = placeholderNames v := by
  rw [placeholderNames, placeholderNames, namesIn_entry hkey]

theorem fill_entry {inSql : Bool} (hkey : namesInText key = [])
    (hin : decide (key = "sql") = inSql) (hblank : values.get? "" = none) :
    fill values false (.obj [(key, v)]) = .obj [(key, fill values inSql v)] := by
  rw [fill, fillEntries, fillEntries, splice_eq_self hblank hkey, Bool.false_or, hin]
  rfl

theorem keys_valuesOf {names : List String} (h : valuesOf answers names = .ok values) :
    values.keys = names := by
  induction names generalizing values with
  | nil =>
    obtain rfl := Except.ok.inj h
    rfl
  | cons n ns ih =>
    rw [valuesOf] at h
    cases hn : answers n with
    | error e => rw [hn] at h; cases h
    | ok v =>
      cases hrest : valuesOf answers ns with
      | error e => rw [hn, hrest] at h; cases h
      | ok rest =>
        rw [hn, hrest] at h
        obtain rfl := Except.ok.inj h
        exact congrArg (n :: ·) (ih hrest)

theorem fillUpTo_of_nil (passes : Nat) (h : placeholderNames v = []) :
    fillUpTo answers passes v = .ok v := by
  cases passes with
  | zero => rfl
  | succ passes => rw [fillUpTo, h]

theorem fillUpTo_entry {inSql : Bool} (hkey : namesInText key = [])
    (hin : decide (key = "sql") = inSql) (h : placeholderNames v ≠ [])
    (hvalues : valuesOf answers (placeholderNames v) = .ok values) (passes : Nat) :
    fillUpTo answers (passes + 1) (.obj [(key, v)]) =
      fillUpTo answers passes (.obj [(key, fill values inSql v)]) := by
  have hblank : values.get? "" = none := by
    rw [Keyed.get?_eq_none_iff, keys_valuesOf hvalues]
    exact blank_not_mem_placeholderNames v
  rw [fillUpTo, placeholderNames_entry hkey]
  split
  · exact absurd ‹_› h
  · rw [hvalues, ← fill_entry hkey hin hblank]
    rfl

/-- What a pass can do: nothing, or fill the entry with the values of all its names. -/
theorem fillUpTo_entry_cases {inSql : Bool} {passes : Nat} (hkey : namesInText key = [])
    (hin : decide (key = "sql") = inSql)
    (h : fillUpTo answers (passes + 1) (.obj [(key, v)]) = .ok w) :
    (placeholderNames v = [] ∧ w = .obj [(key, v)]) ∨
      (placeholderNames v ≠ [] ∧ ∃ values,
        valuesOf answers (placeholderNames v) = .ok values ∧
          fillUpTo answers passes (.obj [(key, fill values inSql v)]) = .ok w) := by
  by_cases hnames : placeholderNames v = []
  · rw [fillUpTo_of_nil _ ((placeholderNames_entry hkey).trans hnames)] at h
    exact .inl ⟨hnames, (Except.ok.inj h).symm⟩
  · cases hvalues : valuesOf answers (placeholderNames v) with
    | error e =>
      rw [fillUpTo, placeholderNames_entry hkey] at h
      split at h
      · exact absurd ‹_› hnames
      · rw [hvalues] at h
        cases h
    | ok values =>
      rw [fillUpTo_entry hkey hin hnames hvalues] at h
      exact .inr ⟨hnames, values, rfl, h⟩

/-- What ends as a text was one before, since nothing else is filled to a text. -/
theorem isText_of_fillUpTo {passes : Nat} {r : String} (hkey : namesInText key = [])
    (h : fillUpTo answers passes (.obj [(key, v)]) = .ok w)
    (hr : w.get? key = some (.str r)) : ∃ s, v = .str s := by
  induction passes generalizing v with
  | zero =>
    obtain rfl := Except.ok.inj h
    exact ⟨r, by simpa [Json.get?, Keyed.get?] using hr⟩
  | succ passes ih =>
    obtain ⟨-, rfl⟩ | ⟨-, values, -, hrest⟩ := fillUpTo_entry_cases hkey rfl h
    · exact ⟨r, by simpa [Json.get?, Keyed.get?] using hr⟩
    · obtain ⟨s, hs⟩ := ih hrest
      cases v with
      | str s => exact ⟨s, rfl⟩
      | _ => cases hs

/-- **The statement after some passes is the text after these passes, doubled**, by induction on the
passes: each of them fills the doubled text, and the names in it are those of the text. -/
theorem fillUpTo_doubled {passes : Nat} {s r : String}
    (hnames : ∀ k < passes, ∀ u, fillUpTo answers k (.obj [("note", .str s)]) = .ok u →
      QuoteFree (placeholderNames u))
    (h : fillUpTo answers passes (.obj [("note", .str s)]) = .ok w)
    (hr : w.get? "note" = some (.str r)) :
    fillUpTo answers passes (.obj [("sql", .str (doubled s))]) =
      .ok (.obj [("sql", .str (doubled r))]) := by
  have hnote : namesInText "note" = [] := by decide
  have hsql : namesInText "sql" = [] := by decide
  have hout : decide ("note" = "sql") = false := by decide
  have hin : decide ("sql" = "sql") = true := by decide
  induction passes generalizing s with
  | zero =>
    obtain rfl := Except.ok.inj h
    obtain rfl := Json.str.inj (Option.some.inj hr)
    rfl
  | succ passes ih =>
    have hstart : QuoteFree (placeholderNames (.obj [("note", .str s)])) :=
      hnames 0 (Nat.succ_pos passes) _ (fillUpTo.eq_1 answers _)
    rw [placeholderNames_entry hnote] at hstart
    have hfree : QuoteFree (namesInText s) := fun n hn => hstart n (mem_placeholderNames.mpr hn)
    have hsame : placeholderNames (.str (doubled s)) = placeholderNames (.str s) :=
      congrArg nameSet (namesInText_doubled hfree)
    obtain ⟨hend, rfl⟩ | ⟨hne, values, hvalues, hrest⟩ := fillUpTo_entry_cases hnote hout h
    · obtain rfl := Json.str.inj (Option.some.inj hr)
      rw [fillUpTo_of_nil _ ((placeholderNames_entry hsql).trans (hsame.trans hend))]
    · obtain ⟨filled, hfilled⟩ := isText_of_fillUpTo hnote hrest hr
      have hdoubled : fill values true (.str (doubled s)) = .str (doubled filled) := by
        rw [fill] at hfilled ⊢
        exact fillText_doubled hfree hfilled
      have hpass := fillUpTo_entry hnote hout hne hvalues
      rw [hfilled] at hrest hpass
      rw [← hsame] at hne hvalues
      rw [fillUpTo_entry hsql hin hne hvalues, hdoubled]
      exact ih (fun k hk u hu => hnames (k + 1) (Nat.succ_lt_succ hk) u ((hpass k).trans hu)) hrest

end Template

namespace Sources

open Template

variable {s : Sources} {ctx : StepContext} {scope : Scope} {env : Surroundings}

/-- **In a statement every quote of the data is doubled exactly once.**  While every name is fixed,
a text without quotes, filled from names without quotes, becomes under the key `sql` what it becomes
under another key, with every quote doubled. -/
theorem sql_doublesQuotes {answers : String → Except StepError Json}
    (h : s.Fixed ctx scope env answers) (past : Trace) {text : String}
    (hplain : '\'' ∉ text.toList)
    (hnames : ∀ k < maxPasses, ∀ v,
      ((s.resolvePasses ctx scope k (.obj [("note", .str text)])).meet env past).2 = .ok v →
        QuoteFree (placeholderNames v))
    {v : Json} {r : String}
    (hnote : s.resolved ctx scope env past (.obj [("note", .str text)]) = .ok v)
    (hr : v.get? "note" = some (.str r)) :
    ∃ w, s.resolved ctx scope env past (.obj [("sql", .str text)]) = .ok w ∧
      w.get? "sql" = some (.str (String.ofList (doubleQuotes r.toList))) := by
  have hself : doubled text = text := by
    rw [doubled, doubleQuotes_eq_self hplain, String.ofList_toList]
  simp only [resolved, resolve, result_resolvePasses h] at hnames hnote ⊢
  have hsql := fillUpTo_doubled hnames hnote hr
  rw [hself] at hsql
  exact ⟨_, hsql, rfl⟩

/-- Test data with a quote in each of three values, which different passes put in. -/
def quotedData : Entries :=
  [("mood", .str "{{name}} said it's {{ word }}"), ("name", .str "O'Brien"), ("so", .str "'so'"),
    ("word", .str "{{so}}")]

/-- Every quote is doubled, whichever pass brought it. -/
theorem sql_quotedData :
    let s : Sources := ⟨.memory 0, .fixed ⟨[], [], []⟩⟩
    let env : Surroundings := fun _ => holding quotedData
    s.resolved plainContext .none env [] (.obj [("note", .str "select {{mood}}")]) =
        .ok (.obj [("note", .str "select O'Brien said it's 'so'")]) ∧
      ∃ w, s.resolved plainContext .none env [] (.obj [("sql", .str "select {{mood}}")]) = .ok w ∧
        w.get? "sql" = some (.str "select O''Brien said it''s ''so''") := by
  intro s env
  have hfixed : s.FixedValues plainContext .none env (dataValue quotedData) :=
    .of_memory rfl rfl ⟨trivial, trivial, trivial, trivial, trivial⟩
  have hpass : ∀ {k : Nat} (v : Json) (names : List String),
      (s.resolvePasses plainContext .none k (.obj [("note", .str "select {{mood}}")])).answered
        (holding quotedData) = .ok v → placeholderNames v = names → QuoteFree names →
      ∀ u, ((s.resolvePasses plainContext .none k
        (.obj [("note", .str "select {{mood}}")])).meet env []).2 = .ok u →
          QuoteFree (placeholderNames u) := by
    intro k v names hv hnames hfree u hu
    rw [Act.meet_constant, hv] at hu
    obtain rfl := Except.ok.inj hu
    rwa [hnames]
  have hnames : ∀ k < maxPasses, ∀ v,
      ((s.resolvePasses plainContext .none k (.obj [("note", .str "select {{mood}}")])).meet env
        []).2 = .ok v → QuoteFree (placeholderNames v) := by
    intro k hk
    obtain rfl | rfl | rfl : k = 0 ∨ k = 1 ∨ k = 2 := by
      rw [maxPasses] at hk
      omega
    · refine hpass (.obj [("note", .str "select {{mood}}")]) ["mood"] ?_ ?_ ?_
      · cbv
      · cbv
      · exact List.forall_mem_singleton.mpr (by decide)
    · refine hpass (.obj [("note", .str "select {{name}} said it's {{ word }}")])
        ["name", "word"] ?_ ?_ ?_
      · cbv
      · cbv
      · exact List.forall_mem_cons.mpr ⟨by decide, List.forall_mem_singleton.mpr (by decide)⟩
    · refine hpass (.obj [("note", .str "select O'Brien said it's {{so}}")]) ["so"] ?_ ?_ ?_
      · cbv
      · cbv
      · exact List.forall_mem_singleton.mpr (by decide)
  have hnote : s.resolved plainContext .none env [] (.obj [("note", .str "select {{mood}}")]) =
      .ok (.obj [("note", .str "select O'Brien said it's 'so'")]) := by
    rw [resolved, Act.meet_constant]
    cbv
  have hdoubled : String.ofList (doubleQuotes "select O'Brien said it's 'so'".toList) =
      "select O''Brien said it''s ''so''" := by cbv
  obtain ⟨w, hw, hsql⟩ := sql_doublesQuotes hfixed.answers [] (by decide) hnames hnote rfl
  rw [hdoubled] at hsql
  exact ⟨hnote, w, hw, hsql⟩

end Sources

end CaseScript

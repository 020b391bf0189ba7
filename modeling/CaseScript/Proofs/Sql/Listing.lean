import CaseScript.Proofs.Sql.Outside
import CaseScript.Proofs.Sql.Shape

/-!
# Proofs/Sql/Listing — the columns of a plain selection

The columns of `select`, a list and `from` are the items that the list was joined from, also behind
`distinct` or a row count, unless one of them stands for any number of columns (`columns_selection`).
The items are tidy text with no comma and no `from` outside of literals and parentheses.  Such text
stays so when it is joined (`Phrase`), and it is even already, so the scans of the statement meet the
list as it was written.  Control characters count as blanks there (`columns_readsControls`).
-/

namespace CaseScript.Sql

/-! ## Text that is even already -/

/-- Lower-case words with single blanks, without comments. -/
structure Tidy (cs : List Char) : Prop where
  ne_nil : cs ≠ []
  lower : Unicode.lower cs = cs
  spaced : Text.Spaced cs
  blocks : Text.contains ['/', '*'] cs = false
  lines : Text.contains ['-', '-'] cs = false

instance (cs : List Char) : Decidable (Tidy cs) :=
  decidable_of_iff
    (cs ≠ [] ∧ Unicode.lower cs = cs ∧ Text.Spaced cs ∧ Text.contains ['/', '*'] cs = false ∧
      Text.contains ['-', '-'] cs = false)
    ⟨fun ⟨h₁, h₂, h₃, h₄, h₅⟩ => ⟨h₁, h₂, h₃, h₄, h₅⟩, fun ⟨h₁, h₂, h₃, h₄, h₅⟩ => ⟨h₁, h₂, h₃, h₄, h₅⟩⟩

/-- No character of the text is a control character. -/
def NoControl (cs : List Char) : Prop := ∀ c ∈ cs, ¬Unicode.isControl c

instance (cs : List Char) : Decidable (NoControl cs) :=
  List.decidableBAll (fun c => ¬Unicode.isControl c) cs

/-- Tidy text in which nothing is a blank but the blanks between its words. -/
structure Evened (cs : List Char) : Prop extends Tidy cs where
  noControl : NoControl cs

instance (cs : List Char) : Decidable (Evened cs) :=
  decidable_of_iff (Tidy cs ∧ NoControl cs) ⟨fun ⟨h, h'⟩ => ⟨h, h'⟩, fun ⟨h, h'⟩ => ⟨h, h'⟩⟩

theorem Evened.comma {cs : List Char} (h : Evened cs) : Evened (cs ++ [',']) where
  ne_nil := by simp
  lower := Unicode.lower_append_eq_self h.lower (by decide)
  spaced := h.spaced.append_singleton (by decide)
  noControl := List.forall_mem_append.mpr ⟨h.noControl, (by decide : NoControl [','])⟩
  blocks := by
    rw [Text.contains_append_cons (by decide), h.blocks]
    rfl
  lines := by
    rw [Text.contains_append_cons (by decide), h.lines]
    rfl

theorem Evened.join {a b : List Char} (ha : Evened a) (hb : Evened b) :
    Evened (a ++ ' ' :: b) where
  ne_nil := by simp
  lower := Unicode.lower_append_eq_self ha.lower
    (Unicode.lower_append_eq_self (by decide : Unicode.lower [' '] = [' ']) hb.lower)
  spaced := ha.spaced.append hb.spaced ha.ne_nil hb.ne_nil
  noControl := List.forall_mem_append.mpr
    ⟨ha.noControl, List.forall_mem_cons.mpr ⟨by decide, hb.noControl⟩⟩
  blocks := by rw [Text.contains_append_cons (by decide), ha.blocks, hb.blocks, Bool.or_false]
  lines := by rw [Text.contains_append_cons (by decide), ha.lines, hb.lines, Bool.or_false]

/-- **Even text stays as it is in front of what is visible.** -/
theorem Evened.evenly_append {cs : List Char} (h : Evened cs) {rest : List Char} {c : Char}
    (hmem : c ∈ rest) (hc : Unicode.isVisible c) :
    ∃ back, evenly (cs ++ ' ' :: rest) = cs ++ ' ' :: back := by
  obtain ⟨d, hd, hvisible⟩ := Unicode.exists_isVisible_lowerBetween hmem hc (' ' :: cs.reverse) []
  obtain ⟨hblank, hcontrol⟩ := Unicode.isVisible_iff.mp hvisible
  -- with no word behind it, the blank would be cut off
  have hrest : Text.words
      ((Unicode.lowerBetween (' ' :: cs.reverse) [] rest).map blankControl) ≠ [] := by
    refine Text.words_ne_nil (List.mem_map_of_mem hd) ?_
    rwa [blankControl, if_neg hcontrol]
  have hcs : cs.map blankControl = cs := by
    have hsame : cs.map blankControl = cs.map id :=
      List.map_congr_left fun e he => if_neg (h.noControl e he)
    rwa [List.map_id] at hsame
  have heven : evenly (cs ++ ' ' :: rest) =
      List.intercalate [' '] (Text.words (cs ++ ' ' ::
        (Unicode.lowerBetween (' ' :: cs.reverse) [] rest).map blankControl)) := by
    rw [evenly, Unicode.lower_append_of_lower h.lower, List.map_append, hcs]
    rfl
  rw [Text.intercalate_words_append (h.spaced.words_ne_nil h.ne_nil) hrest, h.spaced] at heven
  exact ⟨_, heven⟩

/-! ## Phrases -/

/-- Even text that closes what it opens and has no `from` outside of literals and parentheses. -/
structure Phrase (cs : List Char) : Prop extends Evened cs where
  closed : Scan.start.after cs = .start
  noFrom : "from".toList ∉ Text.words (outside .start cs)

theorem Phrase.comma {cs : List Char} (h : Phrase cs) : Phrase (cs ++ [',']) where
  toEvened := h.toEvened.comma
  closed := by
    rw [Scan.after_append, h.closed]
    rfl
  noFrom := by
    rw [outside_append, h.closed]
    exact mt (Text.mem_words_of_append (by decide) (by decide)) h.noFrom

theorem Phrase.join {a b : List Char} (ha : Phrase a) (hb : Phrase b) : Phrase (a ++ ' ' :: b) where
  toEvened := ha.toEvened.join hb.toEvened
  closed := by
    rw [Scan.after_append, ha.closed]
    exact hb.closed
  noFrom := by
    rw [outside_append, ha.closed, outside_start_cons (by decide), Text.words_append (by decide),
      List.mem_append]
    exact not_or.mpr ⟨ha.noFrom, hb.noFrom⟩

/-- Phrases joined by commas are a phrase. -/
theorem phrase_intercalate {first : List Char} {others : List (List Char)}
    (h : ∀ item ∈ first :: others, Phrase item) :
    Phrase (List.intercalate [',', ' '] (first :: others)) := by
  induction others generalizing first with
  | nil =>
    rw [List.intercalate_singleton]
    exact h first List.mem_cons_self
  | cons next others ih =>
    obtain ⟨hfirst, hothers⟩ := List.forall_mem_cons.mp h
    have hjoined := hfirst.comma.join (ih hothers)
    rw [List.append_assoc] at hjoined
    rw [List.intercalate_cons_cons, List.append_assoc]
    exact hjoined

/-- What is listed in a phrase before a `from`. -/
theorem Phrase.listed_from {cs : List Char} (h : Phrase cs) (rest : List Char) :
    listed (cs ++ " from ".toList ++ rest) =
      dropCount (dropWord "all " (dropWord "distinct " cs)) := by
  have hblank : ∀ c ∈ "from".toList, ¬Unicode.isBlank c := by simp [Unicode.isBlank]
  have hcut := cutAtTop?_of_not_mem_words (by decide) hblank (by decide) h.closed h.noFrom rest
  have hfrom : toFrom (cs ++ " from ".toList ++ rest) = cs := by
    rw [List.append_assoc, toFrom]
    exact congrArg (fun p => (Option.map Prod.fst p).getD _) hcut
  rw [listed, hfrom, h.spaced.trim]

/-! ## Items of a list -/

/-- A text that can be listed: it is tidy, closes in order what it opens, and has no comma and no
`from` outside of literals and parentheses. -/
structure ListItem (cs : List Char) : Prop extends Tidy cs where
  balanced : balancedFrom .start cs
  noComma : ',' ∉ outside .start cs
  noFrom : "from".toList ∉ Text.words (outside .start cs)

instance (cs : List Char) : Decidable (ListItem cs) :=
  decidable_of_iff
    (Tidy cs ∧ balancedFrom .start cs ∧ ',' ∉ outside .start cs ∧
      "from".toList ∉ Text.words (outside .start cs))
    ⟨fun ⟨h, h₁, h₂, h₃⟩ => ⟨h, h₁, h₂, h₃⟩, fun ⟨h, h₁, h₂, h₃⟩ => ⟨h, h₁, h₂, h₃⟩⟩

theorem after_of_balancedFrom {s : Scan} {cs : List Char} (h : balancedFrom s cs) :
    s.after cs = .start := by
  induction cs generalizing s with
  | nil => exact Scan.isTop_iff.mp h
  | cons c cs ih =>
    rw [balancedFrom, Bool.and_eq_true] at h
    exact ih h.2

theorem ListItem.phrase {cs : List Char} (h : ListItem cs) (hcontrol : NoControl cs) :
    Phrase cs where
  toTidy := h.toTidy
  noControl := hcontrol
  closed := after_of_balancedFrom h.balanced
  noFrom := h.noFrom

/-- The item is a star or ends in one behind a dot. -/
def IsStarred (item : List Char) : Prop := item = ['*'] ∨ ['.', '*'] <:+ item

instance (item : List Char) : Decidable (IsStarred item) :=
  inferInstanceAs (Decidable (item = ['*'] ∨ ['.', '*'] <:+ item))

theorem isStar_iff {item : List Char} (h : Text.Spaced item) : isStar item ↔ IsStarred item := by
  rw [isStar, h.trim, Bool.or_eq_true, beq_iff_eq, List.isSuffixOf_iff_suffix]
  exact Iff.rfl

/-- The columns of a list of phrases without commas outside. -/
theorem countColumns?_intercalate {first : List Char} {others : List (List Char)}
    (h : ∀ item ∈ first :: others, Scan.start.after item = .start ∧ ',' ∉ outside .start item) :
    countColumns? (List.intercalate [',', ' '] (first :: others)) =
      if (first :: others).any isStar then none else some (others.length + 1) := by
  have hstars : (first :: others.map (' ' :: ·)).any isStar = (first :: others).any isStar := by
    rw [List.any_cons, List.any_map]
    rfl
  simp only [countColumns?, topItems_intercalate h, hstars, List.length_cons, List.length_map]

/-! ## What may stand before the list -/

/-- What may stand between `select` and the first item. -/
inductive Lead : List Char → Prop
  | nothing : Lead []
  | distinct : Lead "distinct ".toList
  | top (count : List Char) (hne : count ≠ []) (hdigits : ∀ c ∈ count, c.isDigit) :
    Lead ("top ".toList ++ (count ++ [' ']))

/-- The words that are taken off the front of a list. -/
def leadingWords : List String := ["distinct ", "all ", "top "]

theorem dropWord_of_not_prefix {word : String} {cs : List Char} (h : ¬word.toList <+: cs) :
    dropWord word cs = cs := by
  rw [dropWord, Text.dropFront?_eq_none_iff.mpr h]

theorem dropCount_of_not_prefix {cs : List Char} (h : ¬"top ".toList <+: cs) :
    dropCount cs = cs := by
  rw [dropCount, Text.dropFront?_eq_none_iff.mpr h]

/-- A list begins with a word just if its first item does. -/
theorem prefix_intercalate_iff {word first : List Char} (h : ',' ∉ word)
    {others : List (List Char)} :
    word <+: List.intercalate [',', ' '] (first :: others) ↔ word <+: first := by
  cases others with
  | nil => rw [List.intercalate_singleton]
  | cons next others =>
    have hfront := Text.isPrefixOf_append_cons h first
      (' ' :: List.intercalate [',', ' '] (next :: others))
    rw [List.intercalate_cons_cons, List.append_assoc, ← List.isPrefixOf_iff_prefix,
      ← List.isPrefixOf_iff_prefix]
    exact iff_of_eq (congrArg (· = true) hfront)

/-- What holds of the ten digits holds of all digits of a number. -/
theorem forall_mem_of_isDigit {p : Char → Prop} [DecidablePred p]
    (hp : ("0123456789".toList.all fun c => decide (p c)) = true) {count : List Char}
    (hdigits : ∀ c ∈ count, c.isDigit) : ∀ c ∈ count, p c := by
  intro c hc
  have h := hdigits c hc
  have hcode : 48 ≤ c.toNat ∧ c.toNat < 58 := by
    simp only [Char.isDigit, Bool.and_eq_true, decide_eq_true_eq, ge_iff_le,
      UInt32.le_iff_toNat_le] at h
    exact ⟨h.1, Nat.lt_succ_of_le h.2⟩
  have htable : ∀ n < 58, 48 ≤ n → Char.ofNat n ∈ "0123456789".toList := by decide
  have hmem := htable c.toNat hcode.2 hcode.1
  rw [Char.ofNat_toNat] at hmem
  exact of_decide_eq_true (List.all_eq_true.mp hp c hmem)

theorem phrase_of_isDigit {count : List Char} (hne : count ≠ [])
    (hdigits : ∀ c ∈ count, c.isDigit) : Phrase count := by
  have hblank : ∀ c ∈ count, ¬Unicode.isBlank c := forall_mem_of_isDigit (by decide) hdigits
  have hcontrol : ∀ c ∈ count, ¬Unicode.isControl c := forall_mem_of_isDigit (by decide) hdigits
  have hlower : ∀ c ∈ count, Unicode.lowered c = [c] := forall_mem_of_isDigit (by decide) hdigits
  have hmarks : ∀ c ∈ count, c ∉ marks := forall_mem_of_isDigit (by decide) hdigits
  have hother : ∀ {c : Char}, ¬c.isDigit → c ∉ count := fun hc hmem => hc (hdigits _ hmem)
  exact {
    ne_nil := hne
    lower := Unicode.lower_eq_self_iff.mpr hlower
    spaced := Text.spaced_of_not_isBlank hne hblank
    noControl := hcontrol
    blocks := Text.contains_eq_false_of_not_mem List.mem_cons_self (hother (by decide))
    lines := Text.contains_eq_false_of_not_mem List.mem_cons_self (hother (by decide))
    closed := Scan.after_of_unmarked hmarks .start
    noFrom := fun hfrom => by
      rw [outside_of_unmarked hmarks] at hfrom
      exact hother (by decide) (Text.mem_of_mem_words hfrom (by decide : 'f' ∈ "from".toList)) }

theorem phrase_distinct : Phrase "distinct".toList :=
  (by decide +kernel : ListItem "distinct".toList).phrase (by decide)

theorem phrase_top : Phrase "top".toList :=
  (by decide +kernel : ListItem "top".toList).phrase (by decide)

theorem Lead.phrase {lead list : List Char} (hlead : Lead lead) (h : Phrase list) :
    Phrase (lead ++ list) := by
  cases hlead with
  | nothing => exact h
  | distinct => exact phrase_distinct.join h
  | top count hne hdigits =>
    have hjoined := phrase_top.join ((phrase_of_isDigit hne hdigits).join h)
    simpa using hjoined

/-- **What stands before the list is dropped**, and nothing of the list. -/
theorem Lead.drop {lead list : List Char} (hlead : Lead lead) (hhead : Text.trimStart list = list)
    (h : ∀ word ∈ leadingWords, ¬word.toList <+: list) :
    dropCount (dropWord "all " (dropWord "distinct " (lead ++ list))) = list := by
  have hall : dropWord "all " list = list := dropWord_of_not_prefix (h _ (by decide))
  have hcount : dropCount list = list := dropCount_of_not_prefix (h _ (by decide))
  cases hlead with
  | nothing => rw [List.nil_append, dropWord_of_not_prefix (h _ (by decide)), hall, hcount]
  | distinct =>
    have hdistinct : dropWord "distinct " ("distinct ".toList ++ list) = list := by
      simp only [dropWord, Text.dropFront?_append, hhead]
    rw [hdistinct, hall, hcount]
  | top count hne hdigits =>
    -- the count ends at the first blank, which is the one in front of the list
    have hspace : ' ' ∉ count := fun hmem => absurd (hdigits ' ' hmem) (by decide)
    have hcut : Text.cutAt? ' ' (count ++ ' ' :: list) = some (count, list) := by
      rw [Text.cutAt?_append, Text.cutAt?_eq_none hspace]
    have hdistinct : ¬"distinct ".toList <+: "top ".toList ++ (count ++ ' ' :: list) := fun hfront =>
      absurd (List.cons_prefix_cons.mp hfront).1 (by decide)
    have hall : ¬"all ".toList <+: "top ".toList ++ (count ++ ' ' :: list) := fun hfront =>
      absurd (List.cons_prefix_cons.mp hfront).1 (by decide)
    rw [List.append_assoc, List.append_assoc, List.singleton_append,
      dropWord_of_not_prefix hdistinct, dropWord_of_not_prefix hall, dropCount,
      Text.dropFront?_append]
    simp only [hcut, hhead]

/-! ## The columns of a selection -/

/-- What is listed is read off what stands behind a `select` at the front. -/
theorem selectList?_select (cs : List Char) :
    selectList? ("select ".toList ++ cs) = some (listed cs) := by
  have hcut : cutAtTop? "select ".toList 0 .start ("select ".toList ++ cs) =
      some ([], "select ".toList ++ cs) :=
    if_pos ⟨rfl, rfl, by decide, rfl⟩
  rw [selectList?_eq, hcut]
  rfl

theorem columns_shapeOf_select (cs : List Char) :
    (shapeOf ("select ".toList ++ cs)).columns = countColumns? (listed cs) := by
  have hselects : selects ("select ".toList ++ cs) = true := rfl
  rw [shapeOf, hselects, selectList?_select]
  rfl

/-- The columns of a statement that selects a phrase. -/
theorem columns_ofSql_select {sql : String} {list rest : List Char} (h : Phrase list)
    (hsql : sql.toList = "select ".toList ++ (list ++ (" from ".toList ++ rest))) {c : Char}
    (hmem : c ∈ rest) (hc : Unicode.isVisible c) (hblocks : Text.contains ['/', '*'] rest = false)
    (hlines : Text.contains ['-', '-'] rest = false) :
    (SqlShape.ofSql sql).columns =
      countColumns? (dropCount (dropWord "all " (dropWord "distinct " list))) := by
  have hselect : Evened "select".toList := by decide +kernel
  have hfrom : Evened "from".toList := by decide +kernel
  have hfront := (hselect.join h.toEvened).join hfrom
  have htext : sql.toList =
      (("select".toList ++ ' ' :: list) ++ ' ' :: "from".toList) ++ ' ' :: rest := by
    rw [hsql]
    simp
  have hplain : uncommented sql = sql.toList := by
    refine uncommented_of_not_contains ?_ ?_
    · rw [htext, Text.contains_append_cons (by decide), hfront.blocks, hblocks, Bool.or_false]
    · rw [htext, Text.contains_append_cons (by decide), hfront.lines, hlines, Bool.or_false]
  obtain ⟨back, heven⟩ := hfront.evenly_append hmem hc
  have hshape : evenly sql.toList = "select ".toList ++ (list ++ " from ".toList ++ back) := by
    rw [htext, heven]
    simp
  rw [ofSql_eq, hplain, hshape, columns_shapeOf_select, h.listed_from]

/-- **A plain selection has as many columns as its list has items**, and no number of columns if one
of them is a star or ends in one. -/
theorem columns_selection {lead : String} (hlead : Lead lead.toList) {first : String}
    {others : List String} (hitems : ∀ item ∈ first :: others, ListItem item.toList)
    (hcontrol : ∀ item ∈ first :: others, NoControl item.toList)
    (hfirst : ∀ word ∈ leadingWords, ¬word.toList <+: first.toList) {rest : String}
    (hrest : ∃ c ∈ rest.toList, Unicode.isVisible c)
    (hblocks : Text.contains ['/', '*'] rest.toList = false)
    (hlines : Text.contains ['-', '-'] rest.toList = false) :
    (SqlShape.ofSql
        ("select " ++ lead ++ ", ".intercalate (first :: others) ++ " from " ++ rest)).columns =
      if ∃ item ∈ first :: others, IsStarred item.toList then none
      else some (first :: others).length := by
  have hlists : ∀ item ∈ first.toList :: others.map String.toList,
      ListItem item ∧ NoControl item := by
    rw [← List.map_cons, List.forall_mem_map]
    exact fun item hitem => ⟨hitems item hitem, hcontrol item hitem⟩
  have hlist : Phrase (List.intercalate [',', ' '] (first.toList :: others.map String.toList)) :=
    phrase_intercalate fun item hitem => (hlists item hitem).1.phrase (hlists item hitem).2
  have hhead := Text.trimStart_eq_self_iff.mpr (Text.trim_eq_self_iff.mp hlist.spaced.trim).1
  have hleading : ∀ word ∈ leadingWords, ¬word.toList <+:
      List.intercalate [',', ' '] (first.toList :: others.map String.toList) := by
    have hcomma : ∀ word ∈ leadingWords, ',' ∉ word.toList := by decide
    exact fun word hword => mt (prefix_intercalate_iff (hcomma word hword)).mp (hfirst word hword)
  obtain ⟨c, hmem, hc⟩ := hrest
  have hsql : ("select " ++ lead ++ ", ".intercalate (first :: others) ++ " from " ++ rest).toList =
      "select ".toList ++
        (lead.toList ++ List.intercalate [',', ' '] (first.toList :: others.map String.toList) ++
          (" from ".toList ++ rest.toList)) := by
    simp [String.toList_intercalate]
  have hstars : (first.toList :: others.map String.toList).any isStar ↔
      ∃ item ∈ first :: others, IsStarred item.toList := by
    rw [← List.map_cons, List.any_map, List.any_eq_true]
    exact exists_congr fun item => and_congr_right fun hitem => isStar_iff (hitems item hitem).spaced
  rw [columns_ofSql_select (hlead.phrase hlist) hsql hmem hc hblocks hlines,
    hlead.drop hhead hleading,
    countColumns?_intercalate fun item hitem =>
      ⟨after_of_balancedFrom (hlists item hitem).1.balanced, (hlists item hitem).1.noComma⟩]
  simp only [hstars, List.length_map, List.length_cons]

theorem columns_selection_counted :
    Lead "top 5 ".toList ∧ (∀ item ∈ ["a", "coalesce(b, ', ') c"], ListItem item.toList) ∧
      (SqlShape.ofSql "select top 5 a, coalesce(b, ', ') c from t").columns = some 2 := by
  have hlead : Lead "top 5 ".toList :=
    .top ['5'] (by decide) (List.forall_mem_singleton.mpr (by decide))
  have hitems : ∀ item ∈ ["a", "coalesce(b, ', ') c"], ListItem item.toList := by decide +kernel
  have hstars : ¬∃ item ∈ ["a", "coalesce(b, ', ') c"], IsStarred item.toList := by decide +kernel
  have hsql : "select " ++ "top 5 " ++ ", ".intercalate ["a", "coalesce(b, ', ') c"] ++ " from " ++
      "t" = "select top 5 a, coalesce(b, ', ') c from t" := by decide +kernel
  have hcolumns := columns_selection hlead hitems (by decide +kernel) (by decide)
    (⟨'t', by decide, by decide⟩ : ∃ c ∈ "t".toList, Unicode.isVisible c) (by decide) (by decide)
  rw [hsql, if_neg hstars] at hcolumns
  exact ⟨hlead, hitems, hcolumns⟩

/-- Control characters are blanks: where they stand, a list is read in another way. -/
theorem columns_readsControls :
    (ListItem "top\x015".toList ∧ ListItem ['b'] ∧ ¬IsStarred "top\x015".toList ∧ ¬IsStarred ['b'] ∧
        (∀ word ∈ leadingWords, ¬word.toList <+: "top\x015".toList) ∧
        (SqlShape.ofSql "select top\x015, b from t").columns = some 1) ∧
      (ListItem ['*'] ∧ IsStarred ['*'] ∧ ¬Unicode.isBlank '\x01' ∧
        (SqlShape.ofSql "select * from \x01").columns = some 1) := by
  decide +kernel

end CaseScript.Sql

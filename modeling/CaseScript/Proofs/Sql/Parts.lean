import CaseScript.Proofs.Sql.Depth
import CaseScript.Proofs.Text.Trim
import CaseScript.Proofs.Unicode.Words

/-!
# Proofs/Sql/Parts — the shape of a statement with a closed part

The columns of a statement do not depend on what stands in a literal or in parentheses
(`columns_part`), as long as no row count ends in the part.  Whether one row is asked for is read off
the whole text: off what stands before the part, the part and what stands behind it
(`asksOneRow_part`).
-/

namespace CaseScript.Sql

/-- No mark is blank. -/
theorem not_isBlank_of_mem_marks : ∀ m ∈ marks, ¬Unicode.isBlank m :=
  forall_mem_marks.mpr (by decide)

theorem not_mem_wordSet_of_mem_marks {m : Char} (h : m ∈ marks) : Unicode.wordSet.mem m = false :=
  Unicode.not_mem_wordSet (toNat_of_mem_marks m h).2

/-! ## The list of columns -/

/-- The text up to a `from` at the top, all of it if there is none. -/
def toFrom (cs : List Char) : List Char :=
  ((cutAtTop? " from ".toList 0 .start cs).map Prod.fst).getD cs

/-- The list without a row count. -/
def dropCount (listed : List Char) : List Char :=
  match Text.dropFront? "top ".toList listed with
  | some rest =>
    match Text.cutAt? ' ' rest with
    | some (_, tail) => Text.trimStart tail
    | none => []
  | none => listed

/-- What is listed in the text behind a `select`. -/
def listed (cs : List Char) : List Char :=
  dropCount (dropWord "all " (dropWord "distinct " (Text.trim (toFrom cs))))

/-- The list of columns is read off what stands behind the `select`, without its place. -/
theorem selectList?_eq (text : List Char) :
    selectList? text =
      (cutAtTop? "select ".toList 0 .start text).map fun p => listed (p.2.drop 7) := by
  unfold selectList?
  cases hcut : cutAtTop? "select ".toList 0 .start text with
  | none => rfl
  | some p =>
    obtain ⟨front, back⟩ := p
    obtain ⟨rfl, ⟨rest, rfl⟩, htop⟩ := cutAtTop?_eq_some hcut
    have hstart : front.length + "select ".length = (front ++ "select ".toList).length :=
      List.length_append.symm
    have hafter : Scan.start.after (front ++ "select ".toList) = .start := by
      rw [Scan.after_append, Scan.isTop_iff.mp htop]
      rfl
    have hfrom := cutAtTop?_length " from ".toList (front ++ "select ".toList) rest .start
    rw [hafter] at hfrom
    have hback : ("select ".toList ++ rest).drop 7 = rest := rfl
    simp only [Option.map_some, ← List.append_assoc, hstart, hfrom]
    rw [List.append_assoc, hback, listed, toFrom]
    cases cutAtTop? " from ".toList 0 .start rest with
    | none =>
      rw [Option.map_none, ← List.append_assoc]
      simp only [List.drop_left]
      rfl
    | some p =>
      simp only [Option.map_some, List.drop_left]
      rfl

/-! ## Before a part -/

/-- The row count of a list, if it has one, ends with a blank and has no quote. -/
def CountEnds (list : List Char) : Prop :=
  ∀ rest ∈ Text.dropFront? "top ".toList list, ∃ cut ∈ Text.cutAt? ' ' rest, '\'' ∉ cut.1

instance (list : List Char) : Decidable (CountEnds list) :=
  inferInstanceAs (Decidable (∀ rest ∈ Text.dropFront? "top ".toList list,
    ∃ cut ∈ Text.cutAt? ' ' rest, '\'' ∉ cut.1))

/-- What stands behind the first `select` at the top, if no `from` ends it. -/
def openList? (x : List Char) : Option (List Char) :=
  ((cutAtTop? "select ".toList 0 .start x).map fun p => p.2.drop 7).filter
    fun list => (cutAtTop? " from ".toList 0 .start list).isNone

/-- What may stand before a part: at its end no literal is open, and no row count of a list. -/
structure Leads (x : List Char) : Prop where
  unquoted : (Scan.start.after x).quoted = false
  counts : ∀ list ∈ openList? x,
    CountEnds (dropWord "all " (dropWord "distinct " (Text.trimStart list)))

theorem Scan.after_trimStart (s : Scan) (x : List Char) :
    s.after (Text.trimStart x) = s.after x := by
  have hblank : Unmarked (x.takeWhile Unicode.isBlank) := fun c hc hmark =>
    not_isBlank_of_mem_marks c hmark (List.all_eq_true.mp List.all_takeWhile c hc)
  have happend := after_append s (x.takeWhile Unicode.isBlank) (x.dropWhile Unicode.isBlank)
  rw [after_of_unmarked hblank, List.takeWhile_append_dropWhile] at happend
  exact happend.symm

theorem Scan.after_dropWord {word : String} (hword : Unmarked word.toList) (s : Scan)
    (x : List Char) : s.after (dropWord word x) = s.after x := by
  unfold dropWord
  split
  · rename_i rest hrest
    rw [after_trimStart, Text.dropFront?_eq_some_iff.mp hrest, after_append,
      after_of_unmarked hword]
  · rfl

/-- Without quotes, a literal is open behind a text if one is open before it. -/
theorem Scan.quoted_after_of_not_mem {cs : List Char} (h : '\'' ∉ cs) (s : Scan) :
    (s.after cs).quoted = s.quoted := by
  induction cs generalizing s with
  | nil => rfl
  | cons c cs ih =>
    obtain ⟨hc, hcs⟩ := not_or.mp (mt List.mem_cons.mpr h)
    rw [after_cons, ih hcs, next, if_neg (Ne.symm hc)]
    grind

/-- Whether a literal is open does not depend on parentheses. -/
theorem Scan.quoted_after_congr {s t : Scan} (h : s.quoted = t.quoted) (cs : List Char) :
    (s.after cs).quoted = (t.after cs).quoted := by
  induction cs generalizing s t with
  | nil => exact h
  | cons c cs ih =>
    refine ih ?_
    unfold next
    grind

/-- A literal is not open behind a list without its row count, if none is open behind the list. -/
theorem CountEnds.unquoted_dropCount {list : List Char} (h : CountEnds list)
    (hopen : (Scan.start.after list).quoted = false) :
    (Scan.start.after (dropCount list)).quoted = false := by
  unfold dropCount
  split
  · rename_i rest hfront
    obtain ⟨⟨count, back⟩, hcut, hquote⟩ := h rest hfront
    rw [Option.mem_def] at hcut
    rw [Text.dropFront?_eq_some_iff.mp hfront, Scan.after_append, Text.cutAt?_eq_some hcut,
      Scan.after_append] at hopen
    -- the row count can leave parentheses open, which a scan of the list does not see
    have hback := Scan.quoted_after_congr (Scan.quoted_after_of_not_mem hquote .start) (' ' :: back)
    simp only [hcut, Scan.after_trimStart]
    exact hback.symm.trans hopen
  · exact hopen

/-! ## A part in the list -/

theorem trimStart_part {w : List Char} (hw : IsPart w) (a b : List Char) :
    Text.trimStart (a ++ (w ++ b)) = Text.trimStart a ++ (w ++ b) := by
  obtain ⟨m, hm, rest, rfl⟩ := hw.head
  exact Text.trimStart_append_cons (not_isBlank_of_mem_marks m hm) a (rest ++ b)

theorem trimEnd_part {w : List Char} (hw : IsPart w) (a b : List Char) :
    Text.trimEnd (a ++ (w ++ b)) = a ++ (w ++ Text.trimEnd b) := by
  obtain ⟨m, hm, rest, rfl⟩ := hw.last
  have hend := Text.trimEnd_append_cons (not_isBlank_of_mem_marks m hm) (a ++ rest) b
  simpa using hend

theorem trim_part {w : List Char} (hw : IsPart w) (a b : List Char) :
    Text.trim (a ++ (w ++ b)) = Text.trimStart a ++ (w ++ Text.trimEnd b) := by
  rw [Text.trim, trimStart_part hw, trimEnd_part hw]

theorem isPrefixOf_part {needle : List Char} (hneedle : Unmarked needle) {w : List Char}
    (hw : IsPart w) (x z : List Char) :
    needle.isPrefixOf (x ++ (w ++ z)) = needle.isPrefixOf x := by
  obtain ⟨m, hm, rest, rfl⟩ := hw.head
  exact Text.isPrefixOf_append_cons (hneedle.not_mem hm) x (rest ++ z)

theorem dropFront?_part {front : List Char} (hfront : Unmarked front) {w : List Char}
    (hw : IsPart w) (x z : List Char) :
    Text.dropFront? front (x ++ (w ++ z)) = (Text.dropFront? front x).map (· ++ (w ++ z)) := by
  obtain ⟨m, hm, rest, rfl⟩ := hw.head
  exact Text.dropFront?_append_cons (hfront.not_mem hm) x (rest ++ z)

theorem dropWord_part {word : String} (hword : Unmarked word.toList) {w : List Char}
    (hw : IsPart w) (x z : List Char) :
    dropWord word (x ++ (w ++ z)) = dropWord word x ++ (w ++ z) := by
  rw [dropWord, dropWord, dropFront?_part hword hw]
  cases Text.dropFront? word.toList x with
  | none => rfl
  | some back => exact trimStart_part hw back z

theorem dropCount_part {x : List Char} (hx : CountEnds x) {w : List Char} (hw : IsPart w)
    (z : List Char) : dropCount (x ++ (w ++ z)) = dropCount x ++ (w ++ z) := by
  rw [dropCount, dropCount, dropFront?_part (by decide) hw]
  cases hfront : Text.dropFront? "top ".toList x with
  | none => rfl
  | some rest =>
    obtain ⟨⟨count, back⟩, hcut, -⟩ := hx rest hfront
    rw [Option.mem_def] at hcut
    simp only [Option.map_some, Text.cutAt?_append_of_eq_some hcut, hcut]
    exact trimStart_part hw back z

/-- An item that has a part stands for any number of columns if it ends so behind the part. -/
theorem isStar_part {w : List Char} (hw : IsPart w) (a b : List Char) :
    isStar (a ++ (w ++ b)) = ['.', '*'].isSuffixOf (Text.trimEnd b) := by
  obtain ⟨m, hm, rest, hrest⟩ := hw.head
  obtain ⟨m', hm', rest', hrest'⟩ := hw.last
  have hnot : (Text.trimStart a ++ (w ++ Text.trimEnd b) == ['*']) = false := by
    refine beq_eq_false_iff_ne.mpr fun hsame => ?_
    have hmem : m ∈ ['*'] := by
      rw [← hsame, hrest]
      simp
    exact (by decide : Unmarked ['*']).not_mem hm hmem
  have hreverse : (Text.trimStart a ++ (w ++ Text.trimEnd b)).reverse =
      (Text.trimEnd b).reverse ++ m' :: (rest'.reverse ++ (Text.trimStart a).reverse) := by
    rw [hrest']
    simp
  have hsuffix := Text.isPrefixOf_append_cons
    ((by decide : Unmarked ['.', '*'].reverse).not_mem hm') (Text.trimEnd b).reverse
    (rest'.reverse ++ (Text.trimStart a).reverse)
  rw [isStar, trim_part hw, hnot, Bool.false_or, List.isSuffixOf, hreverse, hsuffix,
    List.isSuffixOf]

/-! ## The columns -/

/-- The number of columns of a list around a part. -/
theorem countColumns?_part {x : List Char} (hx : (Scan.start.after x).quoted = false)
    (z : List Char) :
    ∃ columns, ∀ w, IsPart w → countColumns? (x ++ (w ++ z)) = columns := by
  obtain ⟨items, last, first, rest, hitems⟩ := topItems_part hx z
  refine ⟨if items.any isStar || (['.', '*'].isSuffixOf (Text.trimEnd first) || rest.any isStar)
    then none else some (items.length + (rest.length + 1)), fun w hw => ?_⟩
  simp only [countColumns?, hitems w hw, List.any_append, List.any_cons, isStar_part hw,
    List.length_append, List.length_cons]

/-- What is listed behind a `select` around a part, and how many columns that is. -/
theorem countColumns?_listed_part {x : List Char} (hx : (Scan.start.after x).quoted = false)
    (hcounts : cutAtTop? " from ".toList 0 .start x = none →
      CountEnds (dropWord "all " (dropWord "distinct " (Text.trimStart x)))) (z : List Char) :
    ∃ columns, ∀ w, IsPart w → countColumns? (listed (x ++ (w ++ z))) = columns := by
  have hfrom : Unmarked " from ".toList := by decide
  cases hcut : cutAtTop? " from ".toList 0 .start x with
  | some p =>
    refine ⟨countColumns? (dropCount (dropWord "all " (dropWord "distinct " (Text.trim p.1)))),
      fun w hw => ?_⟩
    rw [listed, toFrom, cutAtTop?_part hfrom hw hx, hcut]
    rfl
  | none =>
    have hall : Unmarked "all ".toList := by decide
    have hdistinct : Unmarked "distinct ".toList := by decide
    have hlist := hcounts hcut
    have hopen := hlist.unquoted_dropCount (by
      rw [Scan.after_dropWord hall, Scan.after_dropWord hdistinct, Scan.after_trimStart, hx])
    obtain ⟨columns, hcolumns⟩ := countColumns?_part hopen
      (Text.trimEnd (((cutAtTop? " from ".toList 0 (Scan.start.after x) z).map Prod.fst).getD z))
    refine ⟨columns, fun w hw => ?_⟩
    have hto : toFrom (x ++ (w ++ z)) = x ++ (w ++
        ((cutAtTop? " from ".toList 0 (Scan.start.after x) z).map Prod.fst).getD z) := by
      rw [toFrom, cutAtTop?_part hfrom hw hx, hcut]
      cases cutAtTop? " from ".toList 0 (Scan.start.after x) z <;> rfl
    rw [← hcolumns w hw, listed, hto, trim_part hw, dropWord_part hdistinct hw,
      dropWord_part hall hw, dropCount_part hlist hw]

/-- **The columns of a statement do not depend on a part.** -/
theorem columns_part {x : List Char} (hx : Leads x) (z : List Char) :
    ∃ columns, ∀ w, IsPart w → (selectList? (x ++ (w ++ z))).bind countColumns? = columns := by
  have hselect : Unmarked "select ".toList := by decide
  cases hcut : cutAtTop? "select ".toList 0 .start x with
  | some p =>
    obtain ⟨front, back⟩ := p
    obtain ⟨hfront, ⟨rest, rfl⟩, htop⟩ := cutAtTop?_eq_some hcut
    have hopen : (Scan.start.after rest).quoted = false := by
      rw [← hx.unquoted, hfront, Scan.after_append, Scan.isTop_iff.mp htop, Scan.after_append,
        Scan.after_of_unmarked (by decide : Unmarked "select ".toList)]
    have hcounts : cutAtTop? " from ".toList 0 .start rest = none →
        CountEnds (dropWord "all " (dropWord "distinct " (Text.trimStart rest))) := by
      intro hnone
      refine hx.counts rest ?_
      have hrest : ("select ".toList ++ rest).drop 7 = rest := rfl
      rw [openList?, hcut, Option.map_some, hrest, Option.mem_def, Option.filter_some, hnone]
      rfl
    obtain ⟨columns, hcolumns⟩ := countColumns?_listed_part hopen hcounts z
    refine ⟨columns, fun w hw => ?_⟩
    rw [← hcolumns w hw, selectList?_eq, cutAtTop?_part hselect hw hx.unquoted, hcut]
    rfl
  | none =>
    refine ⟨((cutAtTop? "select ".toList 0 (Scan.start.after x) z).map
      fun p => listed (p.2.drop 7)).bind countColumns?, fun w hw => ?_⟩
    rw [selectList?_eq, cutAtTop?_part hselect hw hx.unquoted, hcut]
    cases cutAtTop? "select ".toList 0 (Scan.start.after x) z <;> rfl

/-! ## One row -/

theorem endsWord_append_cons {m : Char} (hm : m ∈ marks) (x rest : List Char) :
    endsWord (x ++ m :: rest) = endsWord x := by
  cases x with
  | nil => exact congrArg Bool.not (not_mem_wordSet_of_mem_marks hm)
  | cons c x => rfl

theorem afterBlanks?_append_cons {m : Char} (hm : m ∈ marks) (x rest : List Char) :
    afterBlanks? (x ++ m :: rest) = (afterBlanks? x).map (· ++ m :: rest) := by
  have hblank := not_isBlank_of_mem_marks m hm
  cases x with
  | nil => exact if_neg hblank
  | cons c x =>
    rw [List.cons_append, afterBlanks?, afterBlanks?, Text.trimStart_append_cons hblank]
    split <;> rfl

theorem beginsWithWords_singleton (word : String) (cs : List Char) :
    beginsWithWords [word] cs = (Text.dropFront? word.toList cs).any endsWord := by
  rw [beginsWithWords]
  cases Text.dropFront? word.toList cs <;> rfl

theorem beginsWithWords_cons_cons (word next : String) (words : List String) (cs : List Char) :
    beginsWithWords (word :: next :: words) cs =
      ((Text.dropFront? word.toList cs).bind afterBlanks?).any (beginsWithWords (next :: words)) := by
  rw [beginsWithWords]
  · cases (Text.dropFront? word.toList cs).bind afterBlanks? <;> rfl
  · exact List.cons_ne_nil next words

/-- Words that begin a text end before a mark. -/
theorem beginsWithWords_append_cons {m : Char} (hm : m ∈ marks) {words : List String}
    (hwords : ∀ word ∈ words, Unmarked word.toList) (x rest : List Char) :
    beginsWithWords words (x ++ m :: rest) = beginsWithWords words x := by
  induction words generalizing x with
  | nil => exact endsWord_append_cons hm x rest
  | cons word words ih =>
    obtain ⟨hword, hwords⟩ := List.forall_mem_cons.mp hwords
    have hfront := Text.dropFront?_append_cons (hword.not_mem hm) x rest
    cases words with
    | nil =>
      rw [beginsWithWords_singleton, beginsWithWords_singleton, hfront, Option.any_map]
      exact congrArg (Option.any · _) (funext fun back => endsWord_append_cons hm back rest)
    | cons next words =>
      rw [beginsWithWords_cons_cons, beginsWithWords_cons_cons, hfront]
      cases Text.dropFront? word.toList x with
      | none => rfl
      | some back =>
        rw [Option.map_some, Option.bind_some, Option.bind_some, afterBlanks?_append_cons hm,
          Option.any_map]
        exact congrArg (Option.any · _) (funext (ih hwords))

/-- No phrase goes across a mark. -/
theorem asksOneRow_append_cons {m : Char} (hm : m ∈ marks) (inWord : Bool) (x rest : List Char) :
    asksOneRow inWord (x ++ m :: rest) = (asksOneRow inWord x || asksOneRow false rest) := by
  have hphrases : ∀ words ∈ singleRowPhrases, ∀ word ∈ words, Unmarked word.toList := by decide
  have hany : ∀ cs : List Char,
      singleRowPhrases.any (beginsWithWords · (cs ++ m :: rest)) =
        singleRowPhrases.any (beginsWithWords · cs) := by
    intro cs
    rw [Bool.eq_iff_iff, List.any_eq_true, List.any_eq_true]
    refine exists_congr fun words => and_congr_right fun hwords => ?_
    rw [beginsWithWords_append_cons hm (hphrases words hwords)]
  induction x generalizing inWord with
  | nil =>
    have hnone : singleRowPhrases.any (beginsWithWords · []) = false := rfl
    have hmark := hany []
    rw [List.nil_append, hnone] at hmark
    rw [List.nil_append, asksOneRow, asksOneRow, not_mem_wordSet_of_mem_marks hm, hmark,
      Bool.and_false]
  | cons c x ih =>
    rw [List.cons_append, asksOneRow, asksOneRow, ih, ← List.cons_append, hany, Bool.or_assoc]

/-- **One row is asked for before the part, in it or behind it.** -/
theorem asksOneRow_part {w : List Char} (hw : IsPart w) (inWord : Bool) (x z : List Char) :
    asksOneRow inWord (x ++ (w ++ z)) =
      (asksOneRow inWord x || (asksOneRow false w || asksOneRow false z)) := by
  obtain ⟨m, hm, rest, hrest⟩ := hw.head
  obtain ⟨m', hm', rest', hrest'⟩ := hw.last
  have hfront : asksOneRow inWord (x ++ (w ++ z)) =
      (asksOneRow inWord x || asksOneRow false (w ++ z)) := by
    rw [hrest, List.cons_append, asksOneRow_append_cons hm, ← List.nil_append (m :: (rest ++ z)),
      asksOneRow_append_cons hm false []]
    rfl
  have hback : asksOneRow false (w ++ z) = (asksOneRow false w || asksOneRow false z) := by
    rw [hrest', List.append_assoc, List.singleton_append, asksOneRow_append_cons hm',
      asksOneRow_append_cons hm']
    exact congrArg (· || asksOneRow false z) (Bool.or_false _).symm
  rw [hfront, hback]

theorem contains_cons_eq_false {needle : List Char} (c : Char) {cs : List Char}
    (h : Text.contains needle (c :: cs) = false) :
    needle.isPrefixOf (c :: cs) = false ∧ Text.contains needle cs = false := by
  rwa [Text.contains, Bool.or_eq_false_iff] at h

theorem beginsWithWords_eq_false {word : String} {cs : List Char}
    (h : word.toList.isPrefixOf cs = false) (words : List String) :
    beginsWithWords (word :: words) cs = false := by
  have hfront : Text.dropFront? word.toList cs = none :=
    Text.dropFront?_eq_none_iff.mpr (mt List.isPrefixOf_iff_prefix.mpr (Bool.eq_false_iff.mp h))
  cases words with
  | nil => rw [beginsWithWords_singleton, hfront, Option.any_none]
  | cons next words => rw [beginsWithWords_cons_cons, hfront, Option.bind_none, Option.any_none]

/-- **A text without the first words of the phrases does not ask for one row.** -/
theorem asksOneRow_eq_false {cs : List Char}
    (h : ∀ words ∈ singleRowPhrases, ∀ word ∈ words.head?, Text.contains word.toList cs = false)
    (inWord : Bool) : asksOneRow inWord cs = false := by
  induction cs generalizing inWord with
  | nil => rfl
  | cons c cs ih =>
    have hnone : singleRowPhrases.any (beginsWithWords · (c :: cs)) = false := by
      refine List.any_eq_false.mpr fun words hwords => ?_
      cases words with
      | nil => exact absurd hwords (by decide)
      | cons word words =>
        have hword := (contains_cons_eq_false c (h _ hwords word rfl)).1
        rw [beginsWithWords_eq_false hword]
        exact Bool.false_ne_true
    rw [asksOneRow, hnone, Bool.and_false, Bool.false_or]
    exact ih (fun words hwords word hword => (contains_cons_eq_false c (h words hwords word hword)).2) _

end CaseScript.Sql

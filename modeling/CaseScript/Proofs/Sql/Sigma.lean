import CaseScript.Proofs.Sql.Parts
import CaseScript.Proofs.Unicode.Lower

/-!
# Proofs/Sql/Sigma — the shape of a statement does not depend on the form of its sigmas

Every search looks for characters below 128 (`isPrefixOf_map_plain`, `cutAtTop?_map_plain`), and both
forms of the small sigma are letters, so the shape of a text is that of the text with one form for
both (`shapeOf_map_plain`).
-/

namespace CaseScript

open Unicode (plain)

/-- Every character is below 128. -/
def IsAscii (cs : List Char) : Prop := ∀ c ∈ cs, c.toNat < 128

instance (cs : List Char) : Decidable (IsAscii cs) := List.decidableBAll (fun c : Char => c.toNat < 128) cs

namespace Unicode

theorem plain_eq_iff {c d : Char} (hd : d.toNat < 128) : plain c = d ↔ c = d := by
  unfold plain
  split
  · rename_i hc
    subst hc
    refine iff_of_false ?_ ?_ <;> rintro rfl <;> exact absurd hd (by decide)
  · exact Iff.rfl

theorem isBlank_plain (c : Char) : isBlank (plain c) = isBlank c := by
  unfold plain
  split
  · rename_i hc
    subst hc
    rfl
  · rfl

theorem mem_wordSet_plain (c : Char) : wordSet.mem (plain c) = wordSet.mem c := by
  unfold plain
  split
  · rename_i hc
    subst hc
    exact sigma_mem_wordSet.1.trans sigma_mem_wordSet.2.symm
  · rfl

end Unicode

namespace Text

theorem isPrefixOf_map_plain {needle : List Char} (h : IsAscii needle)
    (cs : List Char) : needle.isPrefixOf (cs.map plain) = needle.isPrefixOf cs := by
  induction needle generalizing cs with
  | nil => rfl
  | cons d needle ih =>
    obtain ⟨hd, hneedle⟩ := List.forall_mem_cons.mp h
    cases cs with
    | nil => rfl
    | cons c cs =>
      have hsame : (d == plain c) = (d == c) := by
        rw [Bool.eq_iff_iff, beq_iff_eq, beq_iff_eq, eq_comm, Unicode.plain_eq_iff hd, eq_comm]
      rw [List.map_cons, List.isPrefixOf, List.isPrefixOf, ih hneedle, hsame]

theorem dropFront?_map_plain {front : List Char} (h : IsAscii front)
    (cs : List Char) :
    dropFront? front (cs.map plain) = (dropFront? front cs).map (List.map plain) := by
  induction front generalizing cs with
  | nil => rfl
  | cons d front ih =>
    obtain ⟨hd, hfront⟩ := List.forall_mem_cons.mp h
    cases cs with
    | nil => rfl
    | cons c cs =>
      rw [List.map_cons, dropFront?, dropFront?, ih hfront]
      simp only [@eq_comm _ d, Unicode.plain_eq_iff hd]
      split <;> rfl

theorem trimStart_map_plain (cs : List Char) :
    trimStart (cs.map plain) = (trimStart cs).map plain := by
  rw [trimStart, List.dropWhile_map, trimStart]
  exact congrArg (fun p => (cs.dropWhile p).map plain) (funext Unicode.isBlank_plain)

theorem trimEnd_map_plain (cs : List Char) : trimEnd (cs.map plain) = (trimEnd cs).map plain := by
  rw [trimEnd, ← List.map_reverse, trimStart_map_plain, ← List.map_reverse, trimEnd]

theorem trim_map_plain (cs : List Char) : trim (cs.map plain) = (trim cs).map plain := by
  rw [trim, trimStart_map_plain, trimEnd_map_plain, trim]

theorem cutAt?_map_plain {separator : Char} (h : separator.toNat < 128) (cs : List Char) :
    cutAt? separator (cs.map plain) =
      (cutAt? separator cs).map fun p => (p.1.map plain, p.2.map plain) := by
  induction cs with
  | nil => rfl
  | cons c cs ih =>
    rw [List.map_cons, cutAt?, cutAt?, ih]
    simp only [Unicode.plain_eq_iff h]
    split
    · rfl
    · simp [Function.comp_def]

end Text

namespace Sql

theorem Scan.isMark_plain (s : Scan) (c : Char) : s.isMark (plain c) = s.isMark c := by
  have hsame : ∀ d ∈ marks, (plain c == d) = (c == d) := fun d hd => by
    rw [Bool.eq_iff_iff, beq_iff_eq, beq_iff_eq,
      Unicode.plain_eq_iff (Nat.lt_of_le_of_lt (toNat_of_mem_marks d hd).2 (by decide))]
  simp only [marks, List.forall_mem_cons] at hsame
  rw [isMark, isMark, hsame.1, hsame.2.1, hsame.2.2.1]

theorem Scan.next_plain (s : Scan) (c : Char) : s.next (plain c) = s.next c := by
  unfold next
  simp only [Unicode.plain_eq_iff (by decide : '\''.toNat < 128),
    Unicode.plain_eq_iff (by decide : '('.toNat < 128),
    Unicode.plain_eq_iff (by decide : ')'.toNat < 128)]

theorem Scan.after_map_plain (s : Scan) (cs : List Char) :
    s.after (cs.map plain) = s.after cs := by
  induction cs generalizing s with
  | nil => rfl
  | cons c cs ih => rw [List.map_cons, after_cons, after_cons, next_plain, ih]

theorem cutAtTop?_map_plain {needle : List Char} (h : IsAscii needle) (k : Nat)
    (s : Scan) (cs : List Char) :
    cutAtTop? needle k s (cs.map plain) =
      (cutAtTop? needle k s cs).map fun p => (p.1.map plain, p.2.map plain) := by
  induction cs generalizing k s with
  | nil => rfl
  | cons c cs ih =>
    have hprefix := Text.isPrefixOf_map_plain h (c :: cs)
    rw [List.map_cons] at hprefix
    rw [List.map_cons, cutAtTop?, cutAtTop?, hprefix, s.isMark_plain, s.next_plain, ih]
    split
    · rfl
    · simp [Function.comp_def]

theorem topItems_map_plain (s : Scan) (cs : List Char) :
    topItems s (cs.map plain) = (topItems s cs).map (List.map plain) := by
  induction cs generalizing s with
  | nil => rfl
  | cons c cs ih =>
    simp only [List.map_cons, topItems, s.next_plain, ih,
      Unicode.plain_eq_iff (by decide : ','.toNat < 128)]
    split
    · rfl
    · cases topItems (s.next c) cs <;> rfl

theorem isStar_map_plain (item : List Char) : isStar (item.map plain) = isStar item := by
  have hstar : ∀ cs : List Char, (cs.map plain == ['*']) = (cs == ['*']) := by
    intro cs
    rw [Bool.eq_iff_iff, beq_iff_eq, beq_iff_eq, List.map_eq_singleton_iff]
    simp [Unicode.plain_eq_iff (by decide : '*'.toNat < 128)]
  rw [isStar, isStar, Text.trim_map_plain, hstar, List.isSuffixOf, List.isSuffixOf,
    ← List.map_reverse, Text.isPrefixOf_map_plain (by decide)]

theorem countColumns?_map_plain (cs : List Char) :
    countColumns? (cs.map plain) = countColumns? cs := by
  simp only [countColumns?, topItems_map_plain, List.any_map, Function.comp_def, isStar_map_plain,
    List.length_map]

theorem dropWord_map_plain {word : String} (h : IsAscii word.toList)
    (cs : List Char) : dropWord word (cs.map plain) = (dropWord word cs).map plain := by
  rw [dropWord, dropWord, Text.dropFront?_map_plain h]
  cases Text.dropFront? word.toList cs with
  | none => rfl
  | some rest => exact Text.trimStart_map_plain rest

theorem listed_map_plain (cs : List Char) : listed (cs.map plain) = (listed cs).map plain := by
  have hfrom : toFrom (cs.map plain) = (toFrom cs).map plain := by
    rw [toFrom, toFrom, cutAtTop?_map_plain (by decide)]
    cases cutAtTop? " from ".toList 0 .start cs <;> rfl
  have hcount : ∀ cs : List Char, dropCount (cs.map plain) = (dropCount cs).map plain := by
    intro cs
    rw [dropCount, dropCount, Text.dropFront?_map_plain (by decide)]
    cases Text.dropFront? "top ".toList cs with
    | none => rfl
    | some rest =>
      simp only [Option.map_some, Text.cutAt?_map_plain (by decide : ' '.toNat < 128)]
      cases Text.cutAt? ' ' rest with
      | none => rfl
      | some p => exact Text.trimStart_map_plain p.2
  rw [listed, hfrom, Text.trim_map_plain, dropWord_map_plain (by decide),
    dropWord_map_plain (by decide), hcount, listed]

theorem selectList?_map_plain (text : List Char) :
    selectList? (text.map plain) = (selectList? text).map (List.map plain) := by
  rw [selectList?_eq, selectList?_eq, cutAtTop?_map_plain (by decide), Option.map_map,
    Option.map_map]
  refine congrArg (fun f => (cutAtTop? "select ".toList 0 .start text).map f) (funext fun p => ?_)
  exact (congrArg listed List.map_drop.symm).trans (listed_map_plain _)

/-! ## Before a part -/

theorem CountEnds.map_plain {list : List Char} (h : CountEnds list) :
    CountEnds (list.map plain) := by
  intro rest hrest
  rw [Text.dropFront?_map_plain (by decide)] at hrest
  obtain ⟨rest, hfront, rfl⟩ := Option.map_eq_some_iff.mp hrest
  obtain ⟨cut, hcut, hquote⟩ := h rest hfront
  refine ⟨(cut.1.map plain, cut.2.map plain), ?_, fun hmem => ?_⟩
  · rw [Text.cutAt?_map_plain (by decide), Option.mem_def.mp hcut]
    rfl
  · obtain ⟨c, hc, hsame⟩ := List.mem_map.mp hmem
    rw [(Unicode.plain_eq_iff (by decide)).mp hsame] at hc
    exact hquote hc

theorem openList?_map_plain (x : List Char) :
    openList? (x.map plain) = (openList? x).map (List.map plain) := by
  rw [openList?, openList?, cutAtTop?_map_plain (by decide)]
  cases cutAtTop? "select ".toList 0 .start x with
  | none => rfl
  | some p =>
    simp only [Option.map_some, Option.filter_some, ← List.map_drop,
      cutAtTop?_map_plain (by decide : IsAscii " from ".toList), Option.isNone_map]
    split <;> rfl

/-- What may stand before a part may do so with one form for its sigmas. -/
theorem Leads.map_plain {x : List Char} (h : Leads x) : Leads (x.map plain) where
  unquoted := by rw [Scan.after_map_plain, h.unquoted]
  counts := by
    intro list hlist
    rw [openList?_map_plain] at hlist
    obtain ⟨list, hopen, rfl⟩ := Option.map_eq_some_iff.mp hlist
    rw [Text.trimStart_map_plain, dropWord_map_plain (by decide), dropWord_map_plain (by decide)]
    exact (h.counts list hopen).map_plain

/-! ## One row -/

theorem endsWord_map_plain (cs : List Char) : endsWord (cs.map plain) = endsWord cs := by
  cases cs with
  | nil => rfl
  | cons c cs => exact congrArg Bool.not (Unicode.mem_wordSet_plain c)

theorem afterBlanks?_map_plain (cs : List Char) :
    afterBlanks? (cs.map plain) = (afterBlanks? cs).map (List.map plain) := by
  cases cs with
  | nil => rfl
  | cons c cs =>
    rw [List.map_cons, afterBlanks?, afterBlanks?, Unicode.isBlank_plain, Text.trimStart_map_plain]
    split <;> rfl

theorem beginsWithWords_map_plain {words : List String}
    (h : ∀ word ∈ words, IsAscii word.toList) (cs : List Char) :
    beginsWithWords words (cs.map plain) = beginsWithWords words cs := by
  induction words generalizing cs with
  | nil => exact endsWord_map_plain cs
  | cons word words ih =>
    obtain ⟨hword, hwords⟩ := List.forall_mem_cons.mp h
    have hfront := Text.dropFront?_map_plain hword cs
    cases words with
    | nil =>
      rw [beginsWithWords_singleton, beginsWithWords_singleton, hfront, Option.any_map]
      exact congrArg (Option.any · _) (funext endsWord_map_plain)
    | cons next words =>
      rw [beginsWithWords_cons_cons, beginsWithWords_cons_cons, hfront]
      cases Text.dropFront? word.toList cs with
      | none => rfl
      | some rest =>
        rw [Option.map_some, Option.bind_some, Option.bind_some, afterBlanks?_map_plain,
          Option.any_map]
        exact congrArg (Option.any · _) (funext (ih hwords))

theorem asksOneRow_map_plain (inWord : Bool) (cs : List Char) :
    asksOneRow inWord (cs.map plain) = asksOneRow inWord cs := by
  have hphrases : ∀ words ∈ singleRowPhrases, ∀ word ∈ words, IsAscii word.toList := by
    decide
  induction cs generalizing inWord with
  | nil => rfl
  | cons c cs ih =>
    have hany : singleRowPhrases.any (beginsWithWords · ((c :: cs).map plain)) =
        singleRowPhrases.any (beginsWithWords · (c :: cs)) := by
      rw [Bool.eq_iff_iff, List.any_eq_true, List.any_eq_true]
      refine exists_congr fun words => and_congr_right fun hwords => ?_
      rw [beginsWithWords_map_plain (hphrases words hwords)]
    rw [List.map_cons] at hany ⊢
    rw [asksOneRow, asksOneRow, hany, Unicode.mem_wordSet_plain, ih]

end Sql

end CaseScript

import CaseScript.Proofs.Text.Search
import CaseScript.Sql.Shape
import CaseScript.Template.Placeholder

/-!
# Proofs/Sql/Depth — what a scan of a statement passes over

A literal and an expression in parentheses are **closed** parts of a statement.  A scan that meets
one outside of literals sees none of its characters at the top, and stands behind it as it stood
before it (`Closed.isPart`).  So the searches that count depth find nothing in a part:
`cutAtTop?_part` for the words of a statement, `topItems_part` for its commas.
-/

namespace CaseScript.Sql

/-! ## Where a scan stands -/

/-- Where a scan stands after a text. -/
def Scan.after (s : Scan) (cs : List Char) : Scan := cs.foldl Scan.next s

@[simp] theorem Scan.after_nil (s : Scan) : s.after [] = s := rfl

@[simp] theorem Scan.after_cons (s : Scan) (c : Char) (cs : List Char) :
    s.after (c :: cs) = (s.next c).after cs := rfl

theorem Scan.after_append (s : Scan) (a b : List Char) : s.after (a ++ b) = (s.after a).after b :=
  List.foldl_append

/-- The characters that open or close something somewhere. -/
def marks : List Char := ['\'', '(', ')']

theorem forall_mem_marks {p : Char → Prop} : (∀ m ∈ marks, p m) ↔ p '\'' ∧ p '(' ∧ p ')' := by
  simp [marks]

theorem toNat_of_mem_marks : ∀ m ∈ marks, 39 ≤ m.toNat ∧ m.toNat ≤ 41 :=
  forall_mem_marks.mpr (by decide)

/-- No character of the text opens or closes something. -/
def Unmarked (cs : List Char) : Prop := ∀ c ∈ cs, c ∉ marks

instance (cs : List Char) : Decidable (Unmarked cs) := List.decidableBAll (· ∉ marks) cs

theorem Unmarked.not_mem {cs : List Char} (h : Unmarked cs) {m : Char} (hm : m ∈ marks) : m ∉ cs :=
  fun hc => h m hc hm

theorem Scan.next_of_not_mem_marks {c : Char} (h : c ∉ marks) (s : Scan) : s.next c = s := by
  simp only [marks, List.mem_cons, List.not_mem_nil, or_false, not_or] at h
  rw [next, if_neg h.1, if_neg h.2.1, if_neg h.2.2, ite_self]

theorem Scan.after_of_unmarked {cs : List Char} (h : Unmarked cs) (s : Scan) :
    s.after cs = s := by
  induction cs with
  | nil => rfl
  | cons c cs ih =>
    obtain ⟨hc, hcs⟩ := List.forall_mem_cons.mp h
    rw [after_cons, next_of_not_mem_marks hc, ih hcs]

theorem Scan.isMark_of_not_mem_marks {c : Char} (h : c ∉ marks) (s : Scan) :
    s.isMark c = false := by
  simp only [marks, List.mem_cons, List.not_mem_nil, or_false, not_or] at h
  simp [isMark, h]

theorem Scan.isTop_iff {s : Scan} : s.isTop ↔ s = .start := by
  obtain ⟨quoted, depth⟩ := s
  simp [isTop, start]

/-- No character of the text stands at the top, but for those that open or close something. -/
def Scan.Hides : (s : Scan) → List Char → Prop
  | _, [] => True
  | s, c :: cs => (s.isTop → s.isMark c) ∧ (s.next c).Hides cs

theorem Scan.hides_append {s : Scan} {a b : List Char} :
    s.Hides (a ++ b) ↔ s.Hides a ∧ (s.after a).Hides b := by
  induction a generalizing s with
  | nil => exact (iff_of_eq (true_and _)).symm
  | cons c a ih =>
    rw [List.cons_append, Hides, Hides, ih, and_assoc]
    exact Iff.rfl

theorem Scan.hides_of_not_isTop {s : Scan} (hs : ¬s.isTop) {cs : List Char}
    (h : Unmarked cs) : s.Hides cs := by
  induction cs with
  | nil => exact trivial
  | cons c cs ih =>
    obtain ⟨hc, hcs⟩ := List.forall_mem_cons.mp h
    refine ⟨fun htop => absurd htop hs, ?_⟩
    rw [next_of_not_mem_marks hc]
    exact ih hcs

/-! ## Outside of literals and parentheses -/

/-- What of a text stands outside of literals and parentheses, without what is in them; `s` is what is
open at its start. -/
def outside : (s : Scan) → List Char → List Char
  | _, [] => []
  | s, c :: cs => (if s.isTop || s.isMark c then [c] else []) ++ outside (s.next c) cs

@[simp] theorem outside_nil (s : Scan) : outside s [] = [] := rfl

theorem outside_cons (s : Scan) (c : Char) (cs : List Char) :
    outside s (c :: cs) = (if s.isTop || s.isMark c then [c] else []) ++ outside (s.next c) cs := rfl

theorem outside_append (s : Scan) (a b : List Char) :
    outside s (a ++ b) = outside s a ++ outside (s.after a) b := by
  induction a generalizing s with
  | nil => rfl
  | cons c a ih =>
    rw [List.cons_append, outside_cons, ih, outside_cons, List.append_assoc]
    rfl

theorem outside_start_cons {c : Char} (hc : c ∉ marks) (cs : List Char) :
    outside .start (c :: cs) = c :: outside .start cs := by
  rw [outside_cons, Scan.next_of_not_mem_marks hc]
  rfl

theorem outside_of_unmarked {cs : List Char} (h : Unmarked cs) : outside .start cs = cs := by
  induction cs with
  | nil => rfl
  | cons c cs ih =>
    obtain ⟨hc, hcs⟩ := List.forall_mem_cons.mp h
    rw [outside_start_cons hc, ih hcs]

/-- Of a text that is hidden only marks stand outside. -/
theorem Scan.Hides.mem_marks {s : Scan} {cs : List Char} (h : s.Hides cs) {c : Char}
    (hc : c ∈ outside s cs) : c ∈ marks := by
  induction cs generalizing s with
  | nil => exact absurd hc List.not_mem_nil
  | cons d cs ih =>
    obtain ⟨hd, hcs⟩ := h
    rw [outside_cons, List.mem_append] at hc
    obtain hone | hrest := hc
    · split at hone
      · rename_i hkept
        have hmark : s.isMark d = true := by
          cases htop : s.isTop
          · simpa [htop] using hkept
          · exact hd htop
        rw [List.mem_singleton.mp hone]
        refine Decidable.byContradiction fun hnot => ?_
        rw [isMark_of_not_mem_marks hnot] at hmark
        exact Bool.false_ne_true hmark
      · exact absurd hone List.not_mem_nil
    · exact ih hcs hrest

/-! ## Parts -/

/-- A text that begins and ends with marks and that a scan outside of literals passes as if it were
nothing. -/
structure IsPart (w : List Char) : Prop where
  hides : ∀ s : Scan, s.quoted = false → s.Hides w
  after : ∀ s : Scan, s.quoted = false → s.after w = s
  head : ∃ m ∈ marks, ∃ rest, w = m :: rest
  last : ∃ m ∈ marks, ∃ rest, w = rest ++ [m]

/-- Every parenthesis outside of the literals of the text closes one of the text, where `s` is what is
open at its start; nothing is open at its end. -/
def balancedFrom : (s : Scan) → List Char → Bool
  | s, [] => s.isTop
  | s, c :: cs => !(c == ')' && s.isTop) && balancedFrom (s.next c) cs

/-- A literal with any content, whose quotes are doubled, or an expression in parentheses. -/
inductive Closed : List Char → Prop
  | literal (content : List Char) : Closed ('\'' :: (Template.doubleQuotes content ++ ['\'']))
  | parenthesised (content : List Char) (h : balancedFrom .start content) :
    Closed ('(' :: (content ++ [')']))

theorem Scan.hides_doubleQuotes (depth : Nat) (content : List Char) :
    (Scan.mk true depth).Hides (Template.doubleQuotes content) ∧
      (Scan.mk true depth).after (Template.doubleQuotes content) = ⟨true, depth⟩ := by
  induction content with
  | nil => exact ⟨trivial, rfl⟩
  | cons c content ih =>
    have hstep : Template.doubleQuotes (c :: content) =
        (if c = '\'' then ['\'', '\''] else [c]) ++ Template.doubleQuotes content :=
      List.flatMap_cons
    have hone : (Scan.mk true depth).Hides (if c = '\'' then ['\'', '\''] else [c]) ∧
        (Scan.mk true depth).after (if c = '\'' then ['\'', '\''] else [c]) = ⟨true, depth⟩ := by
      by_cases hc : c = '\''
      · simp [hc, Hides, isTop, isMark, next]
      · simp [hc, Hides, isTop, next]
    rw [hstep, hides_append, after_append, hone.2]
    exact ⟨⟨hone.1, ih.1⟩, ih.2⟩

/-- A balanced text is the same text behind an opened parenthesis: `s` is what the text has opened,
`d` how many parentheses were open before. -/
theorem Scan.hides_of_balancedFrom {s : Scan} {content : List Char} (d : Nat)
    (h : balancedFrom s content) :
    (Scan.mk s.quoted (s.depth + d + 1)).Hides content ∧
      (Scan.mk s.quoted (s.depth + d + 1)).after content = ⟨false, d + 1⟩ := by
  induction content generalizing s with
  | nil =>
    rw [balancedFrom, isTop_iff] at h
    subst h
    exact ⟨trivial, congrArg (Scan.mk false) (by simp [start])⟩
  | cons c content ih =>
    simp only [balancedFrom, Bool.and_eq_true] at h
    obtain ⟨hc, hrest⟩ := h
    have hnext : (Scan.mk s.quoted (s.depth + d + 1)).next c =
        ⟨(s.next c).quoted, (s.next c).depth + d + 1⟩ := by
      simp only [isTop] at hc
      unfold next
      grind
    refine ⟨⟨fun htop => ?_, ?_⟩, ?_⟩
    · simp [isTop] at htop
    · rw [hnext]
      exact (ih hrest).1
    · rw [after_cons, hnext]
      exact (ih hrest).2

/-- **A scan outside of literals passes a literal or an expression in parentheses.** -/
theorem Closed.isPart {w : List Char} (h : Closed w) : IsPart w := by
  cases h with
  | literal content =>
    have hinside := fun depth => Scan.hides_doubleQuotes depth content
    refine ⟨?_, ?_, ⟨'\'', by simp [marks], _, rfl⟩,
      ⟨'\'', by simp [marks], '\'' :: Template.doubleQuotes content, rfl⟩⟩
    · rintro ⟨_, depth⟩ rfl
      refine ⟨fun _ => rfl, Scan.hides_append.mpr ⟨(hinside depth).1, fun _ => ?_, trivial⟩⟩
      simp [Scan.isMark]
    · rintro ⟨_, depth⟩ rfl
      rw [Scan.after_cons, Scan.after_append]
      exact congrArg (Scan.after · ['\'']) (hinside depth).2
  | parenthesised content h =>
    have hinside := fun d => Scan.hides_of_balancedFrom d h
    simp only [Scan.start, Nat.zero_add] at hinside
    refine ⟨?_, ?_, ⟨'(', by simp [marks], _, rfl⟩,
      ⟨')', by simp [marks], '(' :: content, rfl⟩⟩
    · rintro ⟨_, depth⟩ rfl
      refine ⟨fun _ => rfl, Scan.hides_append.mpr ⟨(hinside depth).1, fun htop => ?_, trivial⟩⟩
      have hafter : (Scan.next ⟨false, depth⟩ '(').after content = ⟨false, depth + 1⟩ :=
        (hinside depth).2
      rw [hafter] at htop
      simp [Scan.isTop] at htop
    · rintro ⟨_, depth⟩ rfl
      rw [Scan.after_cons, Scan.after_append]
      exact congrArg (Scan.after · [')']) (hinside depth).2

/-! ## Searches at the top -/

theorem cutAtTop?_of_hides {s : Scan} {a : List Char} (h : s.Hides a) (needle b : List Char) :
    cutAtTop? needle 0 s (a ++ b) =
      (cutAtTop? needle 0 (s.after a) b).map fun p => (a ++ p.1, p.2) := by
  induction a generalizing s with
  | nil => simp
  | cons c a ih =>
    obtain ⟨hc, ha⟩ := h
    have hnot : ¬(0 = 0 ∧ s.isTop ∧ ¬s.isMark c ∧ needle.isPrefixOf (c :: (a ++ b))) :=
      fun hfound => hfound.2.2.1 (hc hfound.2.1)
    rw [List.cons_append, cutAtTop?, if_neg hnot, ih ha, Option.map_map]
    rfl

/-- A search that begins behind a text. -/
theorem cutAtTop?_length (needle x y : List Char) (s : Scan) :
    cutAtTop? needle x.length s (x ++ y) =
      (cutAtTop? needle 0 (s.after x) y).map fun p => (x ++ p.1, p.2) := by
  induction x generalizing s with
  | nil => simp
  | cons c x ih =>
    have hnot : ¬((c :: x).length = 0 ∧ s.isTop ∧ ¬s.isMark c ∧
        needle.isPrefixOf (c :: (x ++ y))) := fun hfound => Nat.succ_ne_zero _ hfound.1
    rw [List.cons_append, cutAtTop?, if_neg hnot, List.length_cons, Nat.add_sub_cancel, ih,
      Option.map_map]
    rfl

theorem cutAtTop?_eq_some {needle cs front back : List Char} {k : Nat} {s : Scan}
    (h : cutAtTop? needle k s cs = some (front, back)) :
    cs = front ++ back ∧ needle <+: back ∧ (s.after front).isTop := by
  induction cs generalizing k s front with
  | nil => cases h
  | cons c cs ih =>
    rw [cutAtTop?] at h
    split at h
    · rename_i hfound
      cases h
      exact ⟨rfl, List.isPrefixOf_iff_prefix.mp hfound.2.2.2, hfound.2.1⟩
    · obtain ⟨⟨front', back'⟩, hcut, hsame⟩ := Option.map_eq_some_iff.mp h
      cases hsame
      obtain ⟨rfl, hback, htop⟩ := ih hcut
      exact ⟨rfl, hback, htop⟩

/-- What is found before a mark is found without the mark. -/
theorem cutAtTop?_append_cons {needle : List Char} {m : Char} (h : m ∉ needle) (s : Scan)
    (x rest : List Char) :
    cutAtTop? needle 0 s (x ++ m :: rest) =
      ((cutAtTop? needle 0 s x).map fun p => (p.1, p.2 ++ m :: rest)).or
        ((cutAtTop? needle 0 (s.after x) (m :: rest)).map fun p => (x ++ p.1, p.2)) := by
  induction x generalizing s with
  | nil => simp [cutAtTop?]
  | cons c x ih =>
    rw [List.cons_append, cutAtTop?, cutAtTop?, ← List.cons_append, Text.isPrefixOf_append_cons h]
    split
    · rfl
    · rw [ih, Scan.after_cons]
      cases cutAtTop? needle 0 (s.next c) x <;> simp [Function.comp_def]

/-- **A search at the top finds nothing in a part**: it is found before the part or behind it. -/
theorem cutAtTop?_part {needle w : List Char} (hneedle : Unmarked needle) (hw : IsPart w)
    {s : Scan} {x : List Char} (hx : (s.after x).quoted = false) (z : List Char) :
    cutAtTop? needle 0 s (x ++ (w ++ z)) =
      ((cutAtTop? needle 0 s x).map fun p => (p.1, p.2 ++ (w ++ z))).or
        ((cutAtTop? needle 0 (s.after x) z).map fun p => (x ++ (w ++ p.1), p.2)) := by
  obtain ⟨m, hm, rest, hrest⟩ := hw.head
  have hinside := cutAtTop?_of_hides (hw.hides _ hx) needle z
  rw [hw.after _ hx] at hinside
  have hcut := cutAtTop?_append_cons (hneedle.not_mem hm) s x (rest ++ z)
  rw [← List.cons_append, ← hrest, hinside, Option.map_map] at hcut
  exact hcut

theorem topItems_ne_nil (s : Scan) (cs : List Char) : topItems s cs ≠ [] := by
  cases cs with
  | nil => exact List.cons_ne_nil _ _
  | cons c cs =>
    rw [topItems]
    split
    · exact List.cons_ne_nil _ _
    · split <;> exact List.cons_ne_nil _ _

/-- A text without commas outside of literals and parentheses goes into one item. -/
theorem topItems_of_not_mem {s : Scan} {a : List Char} (h : ',' ∉ outside s a)
    {b first : List Char} {items : List (List Char)} (hb : topItems (s.after a) b = first :: items) :
    topItems s (a ++ b) = (a ++ first) :: items := by
  induction a generalizing s with
  | nil => exact hb
  | cons c a ih =>
    rw [outside_cons, List.mem_append, not_or] at h
    have hnot : ¬(c = ',' ∧ s.isTop) := by
      rintro ⟨rfl, htop⟩
      simp [htop] at h
    rw [List.cons_append, topItems, if_neg hnot, ih h.2 hb]
    rfl

theorem topItems_of_hides {s : Scan} {a : List Char} (h : s.Hides a) {b first : List Char}
    {items : List (List Char)} (hb : topItems (s.after a) b = first :: items) :
    topItems s (a ++ b) = (a ++ first) :: items :=
  topItems_of_not_mem (fun hcomma => absurd (h.mem_marks hcomma) (by decide)) hb

/-- The last item of a text goes on with the first one of what follows. -/
theorem topItems_append (s : Scan) (x : List Char) :
    ∃ items last, ∀ y first rest, topItems (s.after x) y = first :: rest →
      topItems s (x ++ y) = items ++ (last ++ first) :: rest := by
  induction x generalizing s with
  | nil => exact ⟨[], [], fun y first rest h => h⟩
  | cons c x ih =>
    obtain ⟨items, last, hitems⟩ := ih s
    obtain ⟨items', last', hitems'⟩ := ih (s.next c)
    by_cases hcomma : c = ',' ∧ s.isTop
    · refine ⟨[] :: items, last, fun y first rest hy => ?_⟩
      have hnext : s.next c = s := Scan.next_of_not_mem_marks (by simp [hcomma.1, marks]) s
      rw [Scan.after_cons, hnext] at hy
      rw [List.cons_append, topItems, if_pos hcomma, hitems y first rest hy]
      rfl
    · cases items' with
      | nil =>
        refine ⟨[], c :: last', fun y first rest hy => ?_⟩
        rw [List.cons_append, topItems, if_neg hcomma, hitems' y first rest hy]
        rfl
      | cons item items' =>
        refine ⟨(c :: item) :: items', last', fun y first rest hy => ?_⟩
        rw [List.cons_append, topItems, if_neg hcomma, hitems' y first rest hy]
        rfl

/-- **A part belongs to one item**, and what the other items are does not depend on it. -/
theorem topItems_part {s : Scan} {x : List Char} (hx : (s.after x).quoted = false) (z : List Char) :
    ∃ items last first rest, ∀ w, IsPart w →
      topItems s (x ++ (w ++ z)) = items ++ (last ++ (w ++ first)) :: rest := by
  obtain ⟨items, last, hitems⟩ := topItems_append s x
  obtain ⟨first, rest, hz⟩ := List.exists_cons_of_ne_nil (topItems_ne_nil (s.after x) z)
  refine ⟨items, last, first, rest, fun w hw => hitems _ _ _ (topItems_of_hides (hw.hides _ hx) ?_)⟩
  rw [hw.after _ hx, hz]

end CaseScript.Sql

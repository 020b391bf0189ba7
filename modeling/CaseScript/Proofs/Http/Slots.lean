import CaseScript.Http.Request
import CaseScript.Proofs.Text.Search
import Mathlib.Data.List.Nodup

/-!
# Proofs/Http/Slots — path parameters, one after another and all at once

A path is expanded parameter by parameter (`Request.expandedPath`), so that a parameter also finds
the slots that the values before it have brought in (`expandedPath_again`).  `fillSlots` reads the
path once from left to right and never looks at a value again.  **A path whose single reading leaves
no slot of a parameter expands to just that reading**, in whatever order the parameters come
(`expandedPath_simultaneous`): a slot that arises from values is still there in the end.
-/

namespace CaseScript

namespace Request

/-! ## A single reading -/

/-- A parameter of a path: its name and its value. -/
abbrev PathParam := String × String

/-- The slot of a name, as it is written in a path. -/
def slotText (name : String) : List Char := '{' :: (name.toList ++ ['}'])

/-- The first parameter whose slot begins the text. -/
def slotAt? (params : List PathParam) (cs : List Char) : Option PathParam :=
  params.find? fun p => (slotText p.1).isPrefixOf cs

/-- Puts the parameters into a text of which the first `skip` characters are read already. -/
def fillSlotsFrom (params : List PathParam) : (skip : Nat) → List Char → List Char
  | _, [] => []
  | skip + 1, _ :: cs => fillSlotsFrom params skip cs
  | 0, c :: cs =>
    match slotAt? params (c :: cs) with
    | some (name, value) => value.toList ++ fillSlotsFrom params (name.toList.length + 1) cs
    | none => c :: fillSlotsFrom params 0 cs

/-- The text with every slot of a parameter replaced by its value, in one reading. -/
def fillSlots (params : List PathParam) (cs : List Char) : List Char := fillSlotsFrom params 0 cs

variable {p : PathParam} {params ps : List PathParam} {c : Char} {cs rest : List Char}

theorem fillSlotsFrom_eq_drop (params : List PathParam) (skip : Nat) (cs : List Char) :
    fillSlotsFrom params skip cs = fillSlots params (cs.drop skip) := by
  induction cs generalizing skip with
  | nil => cases skip <;> rfl
  | cons c cs ih =>
    cases skip with
    | zero => rfl
    | succ skip => exact ih skip

theorem fillSlots_slot (h : slotAt? params (slotText p.1 ++ rest) = some p) :
    fillSlots params (slotText p.1 ++ rest) = p.2.toList ++ fillSlots params rest := by
  have htext : slotText p.1 ++ rest = '{' :: (p.1.toList ++ ['}'] ++ rest) := rfl
  have hlength : (p.1.toList ++ ['}']).length = p.1.toList.length + 1 := List.length_append
  rw [htext] at h ⊢
  rw [fillSlots, fillSlotsFrom, h]
  dsimp only
  rw [fillSlotsFrom_eq_drop, ← hlength, List.drop_left]

theorem fillSlots_char (h : slotAt? params (c :: rest) = none) :
    fillSlots params (c :: rest) = c :: fillSlots params rest := by
  rw [fillSlots, fillSlotsFrom, h]
  rfl

theorem slotAt?_cons (p : PathParam) (ps : List PathParam) (cs : List Char) :
    slotAt? (p :: ps) cs = if (slotText p.1).isPrefixOf cs then some p else slotAt? ps cs := by
  rw [slotAt?, List.find?_cons]
  cases (slotText p.1).isPrefixOf cs <;> rfl

theorem slotAt?_eq_some (h : slotAt? params cs = some p) :
    p ∈ params ∧ ∃ rest, cs = slotText p.1 ++ rest := by
  have hbegins : (slotText p.1).isPrefixOf cs := by simpa using List.find?_some (l := params) h
  obtain ⟨rest, hrest⟩ := List.isPrefixOf_iff_prefix.mp hbegins
  exact ⟨List.mem_of_find?_eq_some h, rest, hrest.symm⟩

theorem slotAt?_eq_none_iff :
    slotAt? params cs = none ↔ ∀ p ∈ params, ¬slotText p.1 <+: cs := by
  simp [slotAt?]

/-- Slots begin with a brace. -/
theorem slotAt?_of_ne (h : c ≠ '{') : slotAt? params (c :: rest) = none := by
  refine slotAt?_eq_none_iff.mpr fun p _ hbegins => h ?_
  exact (List.cons_prefix_cons.mp hbegins).1.symm

/-- Texts are read slot by slot and character by character: it is enough that a property passes from
what follows to the text. -/
theorem slots_induction (params : List PathParam) {P : List Char → Prop} (nil : P [])
    (slot : ∀ p rest, slotAt? params (slotText p.1 ++ rest) = some p → P rest →
      P (slotText p.1 ++ rest))
    (char : ∀ c rest, slotAt? params (c :: rest) = none → P rest → P (c :: rest))
    (cs : List Char) : P cs := by
  induction hn : cs.length using Nat.strongRecOn generalizing cs with
  | ind n ih =>
    subst hn
    cases cs with
    | nil => exact nil
    | cons c cs =>
      cases hslot : slotAt? params (c :: cs) with
      | none => exact char c cs hslot (ih cs.length (Nat.lt_succ_self _) cs rfl)
      | some p =>
        obtain ⟨-, rest, hrest⟩ := slotAt?_eq_some hslot
        rw [hrest] at hslot ⊢
        refine slot p rest hslot (ih rest.length ?_ rest rfl)
        rw [hrest, slotText, List.cons_append, List.length_cons, List.length_append]
        omega

/-- A text without opening braces is read as it is. -/
theorem fillSlots_append (h : '{' ∉ cs) (rest : List Char) :
    fillSlots params (cs ++ rest) = cs ++ fillSlots params rest := by
  induction cs with
  | nil => rfl
  | cons c cs ih =>
    rw [List.mem_cons, not_or] at h
    rw [List.cons_append, fillSlots_char (slotAt?_of_ne (Ne.symm h.1)), ih h.2, List.cons_append]

/-- **Replacing a single slot is a reading of its own.** -/
theorem replace_slotText (p : PathParam) (cs : List Char) :
    Text.replace (slotText p.1) p.2.toList cs = fillSlots [p] cs := by
  have hfrom : ∀ skip, Text.replaceFrom (slotText p.1) p.2.toList skip cs =
      fillSlotsFrom [p] skip cs := by
    induction cs with
    | nil => exact fun skip => by cases skip <;> rfl
    | cons c cs ih =>
      intro skip
      cases skip with
      | succ skip => exact ih skip
      | zero =>
        have hlength : (slotText p.1).length - 1 = p.1.toList.length + 1 := by simp [slotText]
        rw [Text.replaceFrom, fillSlotsFrom, slotAt?_cons, hlength, ih, ih]
        split <;> rfl
  exact hfrom 0

theorem toList_expandedPath (r : Request) :
    r.expandedPath.toList = r.pathParams.foldl (fun cs p => fillSlots [p] cs) r.path.toList := by
  have hfold : ∀ (params : List PathParam) (path : String),
      (params.foldl (fun path (name, value) =>
        String.ofList (Text.replace ('{' :: (name.toList ++ ['}'])) value.toList path.toList))
          path).toList = params.foldl (fun cs p => fillSlots [p] cs) path.toList := by
    intro params
    induction params with
    | nil => exact fun path => rfl
    | cons p params ih =>
      intro path
      rw [List.foldl_cons, ih, List.foldl_cons, String.toList_ofList, ← replace_slotText]
      rfl
  exact hfold r.pathParams r.path

/-! ## Names without braces -/

/-- A name has no braces in it. -/
def Braceless (name : String) : Prop := '{' ∉ name.toList ∧ '}' ∉ name.toList

theorem slotText_prefix_iff {n m : String} (hn : Braceless n) (hm : Braceless m)
    (rest : List Char) : slotText n <+: slotText m ++ rest ↔ n = m := by
  constructor
  · rintro ⟨back, hback⟩
    have hsame : n.toList ++ '}' :: back = m.toList ++ '}' :: rest := by
      simpa [slotText] using hback
    have hcut := congrArg (Text.cutAt? '}') hsame
    rw [Text.cutAt?_append, Text.cutAt?_append, Text.cutAt?_eq_none hn.2,
      Text.cutAt?_eq_none hm.2] at hcut
    exact String.toList_injective (Prod.mk.inj (Option.some.inj hcut)).1
  · rintro rfl
    exact List.prefix_append _ _

theorem slotAt?_self (p : PathParam) (rest : List Char) :
    slotAt? [p] (slotText p.1 ++ rest) = some p :=
  (slotAt?_cons _ _ _).trans (if_pos (List.isPrefixOf_iff_prefix.mpr (List.prefix_append _ _)))

theorem slotAt?_cons_of_ne {q : PathParam} (hp : Braceless p.1) (hq : Braceless q.1)
    (h : p.1 ≠ q.1) : slotAt? (p :: ps) (slotText q.1 ++ rest) =
      slotAt? ps (slotText q.1 ++ rest) := by
  refine (slotAt?_cons _ _ _).trans (if_neg fun hbegins => h ?_)
  exact (slotText_prefix_iff hp hq rest).mp (List.isPrefixOf_iff_prefix.mp hbegins)

/-- Which parameter has its slot at the start of a text does not depend on what follows it. -/
theorem slotAt?_slot_congr {q : PathParam} (hps : ∀ p ∈ ps, Braceless p.1) (hq : Braceless q.1)
    (rest rest' : List Char) :
    slotAt? ps (slotText q.1 ++ rest) = slotAt? ps (slotText q.1 ++ rest') := by
  induction ps with
  | nil => rfl
  | cons p ps ih =>
    obtain ⟨hp, hps⟩ := List.forall_mem_cons.mp hps
    have hsame : (slotText p.1).isPrefixOf (slotText q.1 ++ rest) =
        (slotText p.1).isPrefixOf (slotText q.1 ++ rest') := by
      rw [Bool.eq_iff_iff, List.isPrefixOf_iff_prefix, List.isPrefixOf_iff_prefix,
        slotText_prefix_iff hp hq, slotText_prefix_iff hp hq]
    rw [slotAt?_cons, slotAt?_cons, hsame, ih hps]

theorem fillSlots_other {q : PathParam} (hp : Braceless p.1) (hq : Braceless q.1)
    (h : p.1 ≠ q.1) (rest : List Char) :
    fillSlots [p] (slotText q.1 ++ rest) = slotText q.1 ++ fillSlots [p] rest := by
  have hbrace : '{' ∉ q.1.toList ++ ['}'] := by simp [hq.1]
  have hnone : slotAt? [p] (slotText q.1 ++ rest) = none := slotAt?_cons_of_ne hp hq h
  exact (fillSlots_char hnone).trans (congrArg ('{' :: ·) (fillSlots_append hbrace rest))

/-! ## One parameter before the others

The parameter is put in first, or with the others in a single reading: its values stand in both
texts, and where the first still has the slots of the others, the second has their values. -/

/-- A slot that is read is the first parameter's own, or one of the others'. -/
theorem slotAt?_cons_cases {q : PathParam} (h : slotAt? (p :: ps) (slotText q.1 ++ rest) = some q) :
    q = p ∨ (p.1 ≠ q.1 ∧ slotAt? ps (slotText q.1 ++ rest) = some q) := by
  rw [slotAt?_cons] at h
  split at h
  · exact .inl (Option.some.inj h).symm
  · rename_i hne
    refine .inr ⟨fun hsame => hne ?_, h⟩
    rw [hsame]
    exact List.isPrefixOf_iff_prefix.mpr (List.prefix_append _ _)

/-- The second text begins with all that the first begins with before its first opening brace. -/
def BeginsAlike (a b : List Char) : Prop := ∀ z, '{' ∉ z → z <+: a → z <+: b

theorem BeginsAlike.append {a b : List Char} (h : BeginsAlike a b) (x : List Char) :
    BeginsAlike (x ++ a) (x ++ b) := by
  induction x with
  | nil => exact h
  | cons c x ih =>
    intro z hz hbegins
    cases z with
    | nil => exact List.nil_prefix
    | cons d z =>
      obtain ⟨rfl, htail⟩ := List.cons_prefix_cons.mp hbegins
      refine List.cons_prefix_cons.mpr ⟨rfl, ih z (fun hmem => hz ?_) htail⟩
      exact List.mem_cons_of_mem _ hmem

/-- A slot that begins in the common part is in both texts, as there is no brace in its name. -/
theorem BeginsAlike.slotText_prefix {a b : List Char} (h : BeginsAlike a b) {name : String}
    (hname : Braceless name) (x : List Char) (hbegins : slotText name <+: c :: (x ++ a)) :
    slotText name <+: c :: (x ++ b) := by
  obtain ⟨rfl, htail⟩ := List.cons_prefix_cons.mp hbegins
  exact List.cons_prefix_cons.mpr ⟨rfl, h.append x _ (by simp [hname.1]) htail⟩

theorem beginsAlike_fillSlots (hp : Braceless p.1) (hps : ∀ q ∈ ps, Braceless q.1)
    (cs : List Char) : BeginsAlike (fillSlots [p] cs) (fillSlots (p :: ps) cs) := by
  induction cs using slots_induction (p :: ps) with
  | nil => exact fun _ _ h => h
  | slot q rest hslot ih =>
    rw [fillSlots_slot hslot]
    obtain rfl | ⟨hne, hother⟩ := slotAt?_cons_cases hslot
    · rw [fillSlots_slot (slotAt?_self q rest)]
      exact ih.append _
    · have hq := hps q (slotAt?_eq_some hother).1
      rw [fillSlots_other hp hq hne]
      intro z hz hbegins
      cases z with
      | nil => exact List.nil_prefix
      | cons d z => exact absurd (List.cons_prefix_cons.mp hbegins).1 (by grind)
  | char c rest hslot ih =>
    have halone : slotAt? [p] (c :: rest) = none := by
      rw [slotAt?_eq_none_iff] at hslot ⊢
      exact fun q hq => hslot q (List.mem_singleton.mp hq ▸ List.mem_cons_self)
    rw [fillSlots_char hslot, fillSlots_char halone]
    exact ih.append [c]

/-- A text in which no slot arises is read as it stands. -/
theorem fillSlots_settled {a b x : List Char} (hps : ∀ q ∈ ps, Braceless q.1)
    (halike : BeginsAlike a b) (hsettled : ∀ q ∈ ps, ¬slotText q.1 <:+: x ++ b) :
    fillSlots ps (x ++ a) = x ++ fillSlots ps a := by
  induction x with
  | nil => rfl
  | cons c x ih =>
    have hnone : slotAt? ps (c :: (x ++ a)) = none := by
      refine slotAt?_eq_none_iff.mpr fun q hq hbegins => hsettled q hq ?_
      exact (halike.slotText_prefix (hps q hq) x hbegins).isInfix
    have hrest : ∀ q ∈ ps, ¬slotText q.1 <:+: x ++ b := fun q hq hwithin =>
      hsettled q hq (List.infix_cons hwithin)
    rw [List.cons_append, fillSlots_char hnone, ih hrest, List.cons_append]

/-- **A parameter put in before the others makes no difference** if the single reading leaves no
slot of the others. -/
theorem fillSlots_cons (hp : Braceless p.1) (hps : ∀ q ∈ ps, Braceless q.1)
    (hsettled : ∀ q ∈ ps, ¬slotText q.1 <:+: fillSlots (p :: ps) cs) :
    fillSlots ps (fillSlots [p] cs) = fillSlots (p :: ps) cs := by
  induction cs using slots_induction (p :: ps) with
  | nil => rfl
  | slot q rest hslot ih =>
    rw [fillSlots_slot hslot] at hsettled ⊢
    have hrest : ∀ q ∈ ps, ¬slotText q.1 <:+: fillSlots (p :: ps) rest := fun q hq hwithin =>
      hsettled q hq (hwithin.trans (List.suffix_append _ _).isInfix)
    obtain rfl | ⟨hne, hother⟩ := slotAt?_cons_cases hslot
    · rw [fillSlots_slot (slotAt?_self q rest),
        fillSlots_settled hps (beginsAlike_fillSlots hp hps rest) hsettled, ih hrest]
    · have hq := hps q (slotAt?_eq_some hother).1
      rw [slotAt?_slot_congr hps hq rest (fillSlots [p] rest)] at hother
      rw [fillSlots_other hp hq hne, fillSlots_slot hother, ih hrest]
  | char c rest hslot ih =>
    have halone : slotAt? [p] (c :: rest) = none := by
      rw [slotAt?_eq_none_iff] at hslot ⊢
      exact fun q hq => hslot q (List.mem_singleton.mp hq ▸ List.mem_cons_self)
    rw [fillSlots_char hslot] at hsettled ⊢
    have hrest : ∀ q ∈ ps, ¬slotText q.1 <:+: fillSlots (p :: ps) rest := fun q hq hwithin =>
      hsettled q hq (List.infix_cons hwithin)
    have hstands := fillSlots_settled (x := [c]) hps (beginsAlike_fillSlots hp hps rest) hsettled
    rw [fillSlots_char halone]
    exact hstands.trans (congrArg (c :: ·) (ih hrest))

/-! ## All parameters -/

theorem fillSlots_nil (cs : List Char) : fillSlots [] cs = cs := by
  induction cs with
  | nil => rfl
  | cons c cs ih => rw [fillSlots_char rfl, ih]

theorem foldl_fillSlots (hbare : ∀ p ∈ params, Braceless p.1)
    (hsettled : ∀ p ∈ params, ¬slotText p.1 <:+: fillSlots params cs) :
    params.foldl (fun cs p => fillSlots [p] cs) cs = fillSlots params cs := by
  induction params generalizing cs with
  | nil => exact (fillSlots_nil cs).symm
  | cons p ps ih =>
    obtain ⟨hp, hps⟩ := List.forall_mem_cons.mp hbare
    obtain ⟨-, hrest⟩ := List.forall_mem_cons.mp hsettled
    have hone := fillSlots_cons hp hps hrest
    rw [← hone] at hrest ⊢
    exact ih hps hrest

/-- Of parameters with different names it does not matter in which order they are listed. -/
theorem slotAt?_perm {params' : List PathParam} (hperm : params'.Perm params)
    (hbare : ∀ p ∈ params, Braceless p.1) (hdistinct : (params.map Prod.fst).Nodup)
    (cs : List Char) : slotAt? params' cs = slotAt? params cs := by
  cases hfound : slotAt? params cs with
  | none =>
    rw [slotAt?_eq_none_iff] at hfound ⊢
    exact fun p hp => hfound p (hperm.mem_iff.mp hp)
  | some p =>
    obtain ⟨hp, rest, rfl⟩ := slotAt?_eq_some hfound
    cases hfound' : slotAt? params' (slotText p.1 ++ rest) with
    | none =>
      rw [slotAt?_eq_none_iff] at hfound'
      exact absurd (List.prefix_append _ _) (hfound' p (hperm.mem_iff.mpr hp))
    | some q =>
      obtain ⟨hq, rest', hsame⟩ := slotAt?_eq_some hfound'
      have hq := hperm.mem_iff.mp hq
      have hname : q.1 = p.1 := (slotText_prefix_iff (hbare q hq) (hbare p hp) rest).mp
        (hsame ▸ List.prefix_append _ _)
      exact congrArg some (List.inj_on_of_nodup_map hdistinct hq hp hname)

theorem fillSlots_perm {params' : List PathParam} (hperm : params'.Perm params)
    (hbare : ∀ p ∈ params, Braceless p.1) (hdistinct : (params.map Prod.fst).Nodup)
    (cs : List Char) : fillSlots params' cs = fillSlots params cs := by
  have hslot := slotAt?_perm hperm hbare hdistinct
  induction cs using slots_induction params with
  | nil => rfl
  | slot p rest h ih => rw [fillSlots_slot h, fillSlots_slot ((hslot _).trans h), ih]
  | char c rest h ih => rw [fillSlots_char h, fillSlots_char ((hslot _).trans h), ih]

/-- **A path expands to its single reading, whatever the order of the parameters**, if their names
are different and have no braces, and the reading leaves no slot of a parameter. -/
theorem expandedPath_simultaneous {r : Request} (hbare : ∀ p ∈ r.pathParams, Braceless p.1)
    (hdistinct : (r.pathParams.map Prod.fst).Nodup)
    (hsettled : ∀ p ∈ r.pathParams, ¬slotText p.1 <:+: fillSlots r.pathParams r.path.toList) :
    ∀ params, params.Perm r.pathParams →
      { r with pathParams := params }.expandedPath =
        String.ofList (fillSlots r.pathParams r.path.toList) := by
  intro params hperm
  have hsame := fillSlots_perm hperm hbare hdistinct r.path.toList
  have hfold : params.foldl (fun cs p => fillSlots [p] cs) r.path.toList =
      fillSlots params r.path.toList := by
    refine foldl_fillSlots (fun p hp => hbare p (hperm.mem_iff.mp hp)) fun p hp => ?_
    rw [hsame]
    exact hsettled p (hperm.mem_iff.mp hp)
  refine String.toList_injective ?_
  rw [toList_expandedPath, String.toList_ofList, hfold, hsame]

/-- A request of which only the path matters. -/
def onPath (path : String) (params : List PathParam) : Request :=
  ⟨"", path, .get, [], [], params, .empty, none⟩

/-- Two values make up what looks like a slot, but not that of a parameter. -/
theorem onPath_simultaneous :
    let r := onPath "/orders/{id}/{id}{no}" [("id", "\x7b4"), ("no", "2\x7d")]
    ((∀ p ∈ r.pathParams, Braceless p.1) ∧ (r.pathParams.map Prod.fst).Nodup ∧
      ∀ p ∈ r.pathParams, ¬slotText p.1 <:+: fillSlots r.pathParams r.path.toList) ∧
    (onPath r.path [("no", "2\x7d"), ("id", "\x7b4")]).expandedPath =
      String.ofList (fillSlots r.pathParams r.path.toList) ∧
    String.ofList (fillSlots r.pathParams r.path.toList) = "/orders/\x7b4/{42}" := by
  intro r
  have hbare : ∀ p ∈ r.pathParams, Braceless p.1 := by unfold Braceless; decide +kernel
  have hdistinct : (r.pathParams.map Prod.fst).Nodup := by decide
  have hsettled : ∀ p ∈ r.pathParams,
      ¬slotText p.1 <:+: fillSlots r.pathParams r.path.toList := by decide +kernel
  exact ⟨⟨hbare, hdistinct, hsettled⟩,
    expandedPath_simultaneous hbare hdistinct hsettled _ (.swap _ _ _), by cbv⟩

/-- **A slot in a value, or made up by one, is filled again**, if its parameter comes later. -/
theorem expandedPath_again :
    (onPath "/{a}/{b}" [("a", "{b}"), ("b", "x")]).expandedPath = "/x/x" ∧
    (onPath "/{a}/{b}" [("b", "x"), ("a", "{b}")]).expandedPath = "/{b}/x" ∧
    fillSlots [("a", "{b}"), ("b", "x")] "/{a}/{b}".toList = "/{b}/x".toList ∧
    (onPath "/{{a}}" [("a", "b"), ("b", "x")]).expandedPath = "/x" ∧
    fillSlots [("a", "b"), ("b", "x")] "/{{a}}".toList = "/{b}".toList := by
  refine ⟨?_, ?_, ?_, ?_, ?_⟩ <;> cbv

end Request

end CaseScript

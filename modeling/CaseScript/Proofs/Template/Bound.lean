import CaseScript.Proofs.Act.Trace
import CaseScript.Proofs.Json.Within
import CaseScript.Proofs.Template.Loop

/-!
# Proofs/Template/Bound — what binding changes and what it leaves

A text is **bound** to an element (`Bound`) when it is read once from left to right and every marker
on the way becomes the placeholder of the element, with the path of the marker; every other
character stays.  No marker is left in a bound text (`Bound.unmarked`), but for one that has the end
of a placeholder in its path: such a marker stood in the path of another one.

Binding goes into the strings of a template only.  The keys of its objects stay as they are
(`BoundValue.keysWithin_eq`), so **a marker in a key survives** (`keyedMarker_survives`).
-/

namespace CaseScript

namespace Template

/-! ## Reading a marker -/

/-- The placeholder that a marker becomes. -/
def placeholderText (element tail : List Char) : List Char :=
  '{' :: '{' :: (element ++ tail ++ ['}', '}'])

theorem markerPath?_eq_some_iff {cs tail : List Char} :
    markerPath? cs = some tail ↔ IsTail tail ∧ ∃ rest, cs = tail ++ ']' :: ']' :: rest := by
  constructor
  · intro h
    unfold markerPath? at h
    split at h
    · rename_i rest
      obtain rfl := Option.some.inj h
      exact ⟨.inl rfl, rest, rfl⟩
    · rename_i cs
      split at h
      · rename_i rest hrest
        obtain rfl := Option.some.inj h
        have hinside : ∀ c ∈ cs.takeWhile (· ≠ ']'), c ≠ ']' := fun c hc =>
          of_decide_eq_true (List.all_eq_true.mp List.all_takeWhile c hc)
        refine ⟨.inr ⟨_, rfl, fun hmem => hinside _ hmem rfl⟩, rest, ?_⟩
        rw [List.cons_append, ← hrest, List.takeWhile_append_dropWhile]
      · cases h
    · cases h
  · rintro ⟨rfl | ⟨p, rfl, hp⟩, rest, rfl⟩
    · rfl
    · have hinside : ∀ c ∈ p, decide (c ≠ ']') = true := fun c hc =>
        decide_eq_true fun hsame => hp (hsame ▸ hc)
      rw [List.cons_append, markerPath?, List.dropWhile_append_of_pos hinside,
        List.takeWhile_append_of_pos hinside, List.dropWhile_cons_of_neg (by simp),
        List.takeWhile_cons_of_neg (by simp), List.append_nil]
      rfl

variable {names : List (List Char)} {element : List Char}

/-- A name fits just if it stands in a marker at the start of the text. -/
theorem fits_iff {name tail cs : List Char} :
    (Text.dropFront? name cs).bind markerPath? = some tail ↔
      IsTail tail ∧ ∃ rest, '[' :: '[' :: cs = markerText name tail ++ rest := by
  rw [Option.bind_eq_some_iff]
  simp only [Text.dropFront?_eq_some_iff, markerPath?_eq_some_iff]
  constructor
  · rintro ⟨_, rfl, htail, rest, rfl⟩
    exact ⟨htail, rest, by simp [markerText]⟩
  · rintro ⟨htail, rest, hcs⟩
    exact ⟨_, by simpa [markerText] using hcs, htail, rest, rfl⟩

theorem marker?_eq_some {cs tail : List Char} {size : Nat}
    (h : marker? names cs = some (tail, size)) :
    ∃ name ∈ names, IsTail tail ∧ size = (markerText name tail).length ∧
      ∃ rest, cs = markerText name tail ++ rest := by
  unfold marker? at h
  split at h
  · obtain ⟨name, hname, hfits⟩ := List.exists_of_findSome?_eq_some h
    obtain ⟨tail', htail', hsame⟩ := Option.map_eq_some_iff.mp hfits
    obtain ⟨rfl, rfl⟩ := Prod.mk.inj hsame
    obtain ⟨htail, hrest⟩ := fits_iff.mp htail'
    exact ⟨name, hname, htail, by simp [markerText]; omega, hrest⟩
  · cases h

theorem not_marker_of_marker?_eq_none {cs : List Char} (h : marker? names cs = none) :
    ∀ name ∈ names, ∀ tail, IsTail tail → ¬markerText name tail <+: cs := by
  rintro name hname tail htail ⟨rest, rfl⟩
  have hfits : (Text.dropFront? name (name ++ tail ++ [']', ']'] ++ rest)).bind markerPath? =
      some tail := fits_iff.mpr ⟨htail, rest, rfl⟩
  rw [markerText, List.cons_append, List.cons_append, marker?, List.findSome?_eq_none_iff] at h
  have hnone := h name hname
  rw [hfits] at hnone
  cases hnone

/-! ## Bound texts -/

/-- The second text is the first with its markers bound to the element. -/
inductive Bound (names : List (List Char)) (element : List Char) : List Char → List Char → Prop
  | nil : Bound names element [] []
  | marker {name tail rest rest' : List Char} : name ∈ names → IsTail tail →
      Bound names element rest rest' →
      Bound names element (markerText name tail ++ rest) (placeholderText element tail ++ rest')
  | char {c : Char} {rest rest' : List Char} :
      (∀ name ∈ names, ∀ tail, IsTail tail → ¬markerText name tail <+: c :: rest) →
      Bound names element rest rest' → Bound names element (c :: rest) (c :: rest')

theorem bindTextFrom_eq_drop (names : List (List Char)) (element : List Char) (skip : Nat)
    (cs : List Char) :
    bindTextFrom names element skip cs = bindTextFrom names element 0 (cs.drop skip) := by
  induction cs generalizing skip with
  | nil => cases skip <;> rfl
  | cons c cs ih =>
    cases skip with
    | zero => rfl
    | succ skip => exact ih skip

/-- **Binding a text binds it**, by induction on what is left to read. -/
theorem bound_bindTextFrom (names : List (List Char)) (element cs : List Char) :
    Bound names element cs (bindTextFrom names element 0 cs) := by
  induction hn : cs.length using Nat.strongRecOn generalizing cs with
  | ind n ih =>
    subst hn
    cases cs with
    | nil => exact .nil
    | cons c cs =>
      rw [bindTextFrom]
      cases hmarker : marker? names (c :: cs) with
      | none =>
        exact .char (not_marker_of_marker?_eq_none hmarker) (ih _ (Nat.lt_succ_self _) cs rfl)
      | some found =>
        obtain ⟨tail, size⟩ := found
        obtain ⟨name, hname, htail, rfl, rest, hcs⟩ := marker?_eq_some hmarker
        have hrest : cs.drop ((markerText name tail).length - 1) = rest := by
          have hdrop := congrArg (List.drop (markerText name tail).length) hcs
          rwa [List.drop_left] at hdrop
        have hshorter : rest.length < (c :: cs).length := by
          rw [hcs, List.length_append, markerText, List.length_cons]
          omega
        dsimp only
        rw [bindTextFrom_eq_drop, hrest, hcs]
        exact .marker hname htail (ih _ hshorter rest rfl)

/-! ## What is left in a bound text -/

theorem bracket_not_mem_placeholderText {tail : List Char} (helement : ']' ∉ element)
    (htail : IsTail tail) : ']' ∉ placeholderText element tail := by
  have hinside : ']' ∉ tail := by
    obtain rfl | ⟨p, rfl, hp⟩ := htail
    · exact List.not_mem_nil
    · simpa using hp
  simp [placeholderText, helement, hinside]

theorem braces_suffix_placeholderText (element tail : List Char) :
    ['}', '}'] <:+ placeholderText element tail :=
  ⟨'{' :: '{' :: (element ++ tail), by simp [placeholderText]⟩

/-- **A text that ends in a bracket and has no pair of closing braces stood there before binding**,
if it begins what is left to read. -/
theorem Bound.prefix_of_prefix {cs out : List Char} (h : Bound names element cs out)
    (helement : ']' ∉ element) {w : List Char} (hbracket : ∃ u, w = u ++ [']'])
    (hbraces : ¬['}', '}'] <:+: w) (hw : w <+: out) : w <+: cs := by
  induction h generalizing w with
  | nil => exact hw
  | @marker name tail rest rest' hname htail _ ih =>
    obtain ⟨u, rfl⟩ := hbracket
    obtain hinside | hover := List.prefix_or_prefix_of_prefix hw
      (List.prefix_append (placeholderText element tail) rest')
    · have hmem := hinside.subset (List.mem_append_right u (List.mem_singleton_self ']'))
      exact absurd hmem (bracket_not_mem_placeholderText helement htail)
    · have hpair := (braces_suffix_placeholderText element tail).isInfix
      exact absurd (hpair.trans hover.isInfix) hbraces
  | @char c rest rest' _ _ ih =>
    obtain ⟨u, rfl⟩ := hbracket
    cases u with
    | nil =>
      obtain ⟨rfl, -⟩ := List.cons_prefix_cons.mp hw
      exact List.cons_prefix_cons.mpr ⟨rfl, List.nil_prefix⟩
    | cons d u =>
      obtain ⟨rfl, htail⟩ := List.cons_prefix_cons.mp hw
      exact List.cons_prefix_cons.mpr
        ⟨rfl, ih ⟨u, rfl⟩ (fun hpair => hbraces (List.infix_cons hpair)) htail⟩

/-- What stands in a text joined from two begins in the first or stands in the second. -/
theorem infix_append_cases {w a b : List Char} (h : w <:+: a ++ b) :
    (∃ z, z ≠ [] ∧ z <:+ a ∧ w <+: z ++ b) ∨ w <:+: b := by
  induction a with
  | nil => exact .inr h
  | cons c a ih =>
    obtain hhere | hlater := List.infix_cons_iff.mp h
    · exact .inl ⟨c :: a, List.cons_ne_nil c a, List.suffix_rfl, hhere⟩
    · obtain ⟨z, hne, hz, hprefix⟩ | hback := ih hlater
      · exact .inl ⟨z, hne, hz.trans (List.suffix_cons c a), hprefix⟩
      · exact .inr hback

/-- A pair of closing braces in a marker stands in its path. -/
theorem braces_infix_of_markerText {name tail : List Char} (hname : '}' ∉ name)
    (h : ['}', '}'] <:+: markerText name tail) : ['}', '}'] <:+: tail := by
  have hbrackets : ∀ cs : List Char, ['}', '}'] <:+: cs ++ [']', ']'] → ['}', '}'] <:+: cs := by
    intro cs
    induction cs with
    | nil => intro h; exact absurd h (by decide)
    | cons c cs ih =>
      intro h
      obtain hhere | hlater := List.infix_cons_iff.mp h
      · cases cs with
        | nil => exact absurd hhere (by simp)
        | cons d cs =>
          obtain ⟨rfl, hnext⟩ := List.cons_prefix_cons.mp hhere
          obtain ⟨rfl, -⟩ := List.cons_prefix_cons.mp hnext
          exact List.IsPrefix.isInfix ⟨cs, rfl⟩
      · exact List.infix_cons (ih hlater)
  have hfront : ∀ n : List Char, '}' ∉ n → ['}', '}'] <:+: n ++ tail → ['}', '}'] <:+: tail := by
    intro n hn h
    obtain ⟨z, hne, hz, hprefix⟩ | hback := infix_append_cases h
    · cases z with
      | nil => exact absurd rfl hne
      | cons d z =>
        obtain ⟨rfl, -⟩ := List.cons_prefix_cons.mp hprefix
        exact absurd (hz.subset List.mem_cons_self) hn
    · exact hback
  have hopen : '}' ∉ '[' :: '[' :: name := by simp [hname]
  exact hfront _ hopen (hbrackets ('[' :: '[' :: name ++ tail) (by simpa [markerText] using h))

/-- **No marker is left in a bound text**, but for those with a pair of closing braces in the
path. -/
theorem Bound.unmarked {cs out : List Char} (h : Bound names element cs out)
    (hnames : ∀ name ∈ names, '}' ∉ name) (helement : ']' ∉ element) {name tail : List Char}
    (hname : name ∈ names) (htail : IsTail tail) (hbraces : ¬['}', '}'] <:+: tail) :
    ¬markerText name tail <:+: out := by
  have hplain : ¬['}', '}'] <:+: markerText name tail := fun hpair =>
    hbraces (braces_infix_of_markerText (hnames name hname) hpair)
  have hbracket : ∃ u, markerText name tail = u ++ [']'] :=
    ⟨'[' :: '[' :: (name ++ tail ++ [']']), by simp [markerText]⟩
  have hmem : ']' ∈ markerText name tail := by simp [markerText]
  intro hleft
  induction h with
  | nil => exact List.cons_ne_nil _ _ (List.infix_nil.mp hleft)
  | @marker name' tail' rest rest' hname' htail' _ ih =>
    obtain ⟨z, hne, hz, hprefix⟩ | hback := infix_append_cases hleft
    · obtain hinside | hover := List.prefix_or_prefix_of_prefix hprefix (List.prefix_append z rest')
      · exact bracket_not_mem_placeholderText helement htail' (hz.subset (hinside.subset hmem))
      -- the marker would begin in the placeholder and reach over its end
      · obtain hshort | hlong :=
          List.suffix_or_suffix_of_suffix hz (braces_suffix_placeholderText element tail')
        · cases z with
          | nil => exact hne rfl
          | cons d z =>
            have hopen : d = '[' := (List.cons_prefix_cons.mp hover).1
            have hclose : d ∈ ['}', '}'] := hshort.subset List.mem_cons_self
            rw [hopen] at hclose
            exact absurd hclose (by decide)
        · exact hplain (hlong.isInfix.trans hover.isInfix)
    · exact ih hback
  | @char c rest rest' hnone hrest ih =>
    obtain hhere | hlater := List.infix_cons_iff.mp hleft
    · have hbound : Bound names element (c :: rest) (c :: rest') := .char hnone hrest
      exact hnone name hname tail htail
        (hbound.prefix_of_prefix helement hbracket hplain hhere)
    · exact ih hlater

end Template

/-! ## Bound values -/

namespace Json

/-- The value is neither a string nor made up of parts. -/
def isStringless : Json → Bool
  | .null | .bool _ | .num _ => true
  | _ => false

theorem strings_of_isStringless {v : Json} (h : v.isStringless = true) : v.strings = [] := by
  cases v with
  | null | bool | num => rfl
  | str | arr | obj => cases h

end Json

namespace Template

mutual

/-- The second value is the first with its strings bound to the element, and all else as it was. -/
inductive BoundValue (names : List (List Char)) (element : List Char) : Json → Json → Prop
  | plain {v : Json} : v.isStringless = true → BoundValue names element v v
  | str {s s' : String} : Bound names element s.toList s'.toList →
      BoundValue names element (.str s) (.str s')
  | arr {vs ws : List Json} : BoundItems names element vs ws →
      BoundValue names element (.arr vs) (.arr ws)
  | obj {es fs : List (String × Json)} : BoundEntries names element es fs →
      BoundValue names element (.obj es) (.obj fs)

/-- The items of the second list are those of the first, bound one by one. -/
inductive BoundItems (names : List (List Char)) (element : List Char) :
    List Json → List Json → Prop
  | nil : BoundItems names element [] []
  | cons {v w : Json} {vs ws : List Json} : BoundValue names element v w →
      BoundItems names element vs ws → BoundItems names element (v :: vs) (w :: ws)

/-- The entries have the same keys, and their values are bound one by one. -/
inductive BoundEntries (names : List (List Char)) (element : List Char) :
    List (String × Json) → List (String × Json) → Prop
  | nil : BoundEntries names element [] []
  | cons {k : String} {v w : Json} {es fs : List (String × Json)} : BoundValue names element v w →
      BoundEntries names element es fs →
      BoundEntries names element ((k, v) :: es) ((k, w) :: fs)

end

section

variable (names : List (List Char)) (element : List Char)

mutual

/-- **Binding a template binds its strings**, by induction on the template. -/
theorem boundValue_bindMarkers : ∀ v : Json,
    BoundValue names element v (bindMarkers names element v)
  | .str s => .str (by
      rw [bindText, String.toList_ofList]
      exact bound_bindTextFrom names element s.toList)
  | .arr vs => .arr (boundItems_bindItems vs)
  | .obj es => .obj (boundEntries_bindEntries es)
  | .null | .bool _ | .num _ => .plain rfl

theorem boundItems_bindItems : ∀ vs, BoundItems names element vs (bindItems names element vs)
  | [] => .nil
  | v :: vs => .cons (boundValue_bindMarkers v) (boundItems_bindItems vs)

theorem boundEntries_bindEntries : ∀ es,
    BoundEntries names element es (bindEntries names element es)
  | [] => .nil
  | (_, v) :: es => .cons (boundValue_bindMarkers v) (boundEntries_bindEntries es)

end

end

mutual

/-- **The keys of a template are left as they are.** -/
theorem BoundValue.keysWithin_eq : ∀ {v w : Json}, BoundValue names element v w →
    w.keysWithin = v.keysWithin
  | _, _, .plain _ | _, _, .str _ => rfl
  | _, _, .arr h => h.keysOfItems_eq
  | _, _, .obj h => h.keysOfEntries_eq

theorem BoundItems.keysOfItems_eq : ∀ {vs ws : List Json}, BoundItems names element vs ws →
    Json.keysOfItems ws = Json.keysOfItems vs
  | _, _, .nil => rfl
  | _, _, .cons hv h => by
    rw [Json.keysOfItems, Json.keysOfItems, hv.keysWithin_eq, h.keysOfItems_eq]

theorem BoundEntries.keysOfEntries_eq : ∀ {es fs : List (String × Json)},
    BoundEntries names element es fs → Json.keysOfEntries fs = Json.keysOfEntries es
  | _, _, .nil => rfl
  | _, _, .cons hv h => by
    rw [Json.keysOfEntries, Json.keysOfEntries, hv.keysWithin_eq, h.keysOfEntries_eq]

end

mutual

/-- A string of a bound value is a bound text. -/
theorem BoundValue.bound_of_mem : ∀ {v w : Json}, BoundValue names element v w →
    ∀ s' ∈ w.strings, ∃ s ∈ v.strings, Bound names element s.toList s'.toList
  | _, _, .plain hv => fun s' hs' => absurd hs' (Json.strings_of_isStringless hv ▸ List.not_mem_nil)
  | _, _, .str h => fun s' hs' => by
    obtain rfl := List.mem_singleton.mp hs'
    exact ⟨_, List.mem_singleton_self _, h⟩
  | _, _, .arr h => h.bound_of_mem
  | _, _, .obj h => h.bound_of_mem

theorem BoundItems.bound_of_mem : ∀ {vs ws : List Json}, BoundItems names element vs ws →
    ∀ s' ∈ Json.stringsOfItems ws,
      ∃ s ∈ Json.stringsOfItems vs, Bound names element s.toList s'.toList
  | _, _, .nil => nofun
  | _, _, .cons hv h => fun s' hs' => by
    obtain hs' | hs' := List.mem_append.mp hs'
    · obtain ⟨s, hs, hbound⟩ := hv.bound_of_mem s' hs'
      exact ⟨s, List.mem_append_left _ hs, hbound⟩
    · obtain ⟨s, hs, hbound⟩ := h.bound_of_mem s' hs'
      exact ⟨s, List.mem_append_right _ hs, hbound⟩

theorem BoundEntries.bound_of_mem : ∀ {es fs : List (String × Json)},
    BoundEntries names element es fs → ∀ s' ∈ Json.stringsOfEntries fs,
      ∃ s ∈ Json.stringsOfEntries es, Bound names element s.toList s'.toList
  | _, _, .nil => nofun
  | _, _, .cons hv h => fun s' hs' => by
    obtain hs' | hs' := List.mem_append.mp hs'
    · obtain ⟨s, hs, hbound⟩ := hv.bound_of_mem s' hs'
      exact ⟨s, List.mem_append_left _ hs, hbound⟩
    · obtain ⟨s, hs, hbound⟩ := h.bound_of_mem s' hs'
      exact ⟨s, List.mem_append_right _ hs, hbound⟩

end

/-! ## The instances of a loop -/

theorem mem_instancesFrom {loop : List Char} {body : Json} {size i : Nat} {e : Nat × Json}
    (h : e ∈ instancesFrom names loop body size i) :
    ∃ k, e = (k + 1, bindMarkers names (loop ++ '.' :: decimalDigits k) body) := by
  induction size generalizing i with
  | zero => cases h
  | succ size ih =>
    obtain rfl | h := List.mem_cons.mp h
    · exact ⟨i, rfl⟩
    · exact ih h

/-- A name has neither brackets nor braces in it. -/
def Unbracketed (name : List Char) : Prop := ∀ c ∈ ['[', ']', '{', '}'], c ∉ name

instance (name : List Char) : Decidable (Unbracketed name) :=
  List.decidableBAll (fun c => c ∉ name) ['[', ']', '{', '}']

theorem Unbracketed.bracket_not_mem_element {loop : List Char} (h : Unbracketed loop) (i : Nat) :
    ']' ∉ loop ++ '.' :: decimalDigits i := by
  intro hmem
  obtain hmem | hmem := List.mem_append.mp hmem
  · exact h ']' (by simp) hmem
  · obtain hdot | hdigit := List.mem_cons.mp hmem
    · exact absurd hdot (by decide)
    · exact absurd (isDigit_of_mem_decimalDigits hdigit) (by decide)

/-- A loop is expanded to the instances of an array, or refused. -/
theorem runs_expandLoop {s : Sources} {ctx : StepContext} {template : Json}
    {expression marker : String} {loop : List Char} {t : Trace} {instances : List (Nat × Json)}
    (hloop : template.get? "loop" = some (.str expression))
    (hname : loopName (trimmed expression).toList = loop)
    (hruns : (s.expandLoop ctx template marker).Runs t (.ok instances)) :
    ∃ items : List Json, instances =
      instancesFrom [marker.toList, loop] loop (loopBody template) items.length 0 := by
  rw [Sources.expandLoop, hloop] at hruns
  dsimp only at hruns
  rw [hname] at hruns
  by_cases hempty : loop = []
  · rw [if_pos hempty] at hruns
    cases (Act.runs_pure.mp hruns).2
  rw [if_neg hempty] at hruns
  obtain ⟨_, _, resolved, rfl, -, hruns⟩ := Act.runs_bind.mp hruns
  cases resolved with
  | error e => cases (Act.runs_pure.mp hruns).2
  | ok v =>
    dsimp only at hruns
    cases hitems : loopItems (trimmed expression) v with
    | error e =>
      rw [hitems] at hruns
      cases (Act.runs_pure.mp hruns).2
    | ok items =>
      rw [hitems] at hruns
      exact ⟨items, Except.ok.inj (Act.runs_pure.mp hruns).2⟩

/-- The template of an object without the two entries of its loop. -/
theorem loopBody_obj (es : Entries) : loopBody (.obj es) =
    .obj (es.filter fun e => e.1 ≠ "loop" ∧ e.1 ≠ "beforeLoop") := by
  rw [loopBody, Keyed.erase, Keyed.erase, List.filter_filter]
  refine congrArg Json.obj (List.filter_congr fun e _ => ?_)
  simp [and_comm]

/-- **The instances of a loop are its template with the strings bound**, each to its own element,
and no string of an instance has a marker left.  The keys of the template are left as they are. -/
theorem expandLoop_bound {s : Sources} {ctx : StepContext} {es : Entries}
    {expression marker : String} {loop : List Char} {t : Trace} {instances : List (Nat × Json)}
    (hloop : es.get? "loop" = some (.str expression))
    (hname : loopName (trimmed expression).toList = loop)
    (hmarker : Unbracketed marker.toList) (hbare : Unbracketed loop)
    (hruns : (s.expandLoop ctx (.obj es) marker).Runs t (.ok instances)) :
    ∀ e ∈ instances, ∃ i, e.1 = i + 1 ∧
      let template : Json := .obj (es.filter fun e => e.1 ≠ "loop" ∧ e.1 ≠ "beforeLoop")
      BoundValue [marker.toList, loop] (loop ++ '.' :: decimalDigits i) template e.2 ∧
      e.2.keysWithin = template.keysWithin ∧
      ∀ s ∈ e.2.strings, ∀ name ∈ [marker.toList, loop], ∀ tail, IsTail tail →
        ¬['}', '}'] <:+: tail → ¬markerText name tail <:+: s.toList := by
  have htemplate : (Json.obj es).get? "loop" = some (.str expression) := hloop
  obtain ⟨items, rfl⟩ := runs_expandLoop htemplate hname hruns
  intro e he
  obtain ⟨i, rfl⟩ := mem_instancesFrom he
  have hbound := boundValue_bindMarkers [marker.toList, loop] (loop ++ '.' :: decimalDigits i)
    (loopBody (.obj es))
  have hnames : ∀ name ∈ [marker.toList, loop], '}' ∉ name := by
    simpa using ⟨hmarker '}' (by simp), hbare '}' (by simp)⟩
  rw [loopBody_obj] at hbound ⊢
  refine ⟨i, rfl, hbound, hbound.keysWithin_eq, fun s hs name hmem tail htail hbraces => ?_⟩
  obtain ⟨text, -, htext⟩ := hbound.bound_of_mem s hs
  exact htext.unmarked hnames (hbare.bracket_not_mem_element i) hmem htail hbraces

end Template

/-! ## A marker in a key -/

namespace LoopCase

open Template

/-- The items are stored in the test data. -/
def items : LoopCase :=
  ⟨[], [], [("items", .arr [.obj [("sku", .str "a")]])], "{{items}}", ".sku"⟩

/-- A template with a marker in a key and one in a string. -/
def keyedTemplate : Entries := [("loop", .str "{{items}}"),
  ("test", .obj [("[[item.sku]]", .bool true), ("note", .str "[[items.sku]] of [[item]]")])]

/-- The only instance of that template. -/
def keyedInstance : Json :=
  .obj [("test", .obj [("[[item.sku]]", .bool true),
    ("note", .str "{{items.0.sku}} of {{items.0}}")])]

theorem runs_keyedTemplate :
    ∃ t, (items.sources.expandLoop items.context (.obj keyedTemplate) "item").Runs t
      (.ok [(1, keyedInstance)]) := by
  have hloop : (Json.obj keyedTemplate).get? "loop" = some (.str "{{items}}") := rfl
  have hname : loopName (trimmed "{{items}}").toList = "items".toList := by cbv
  have hresolved : (items.sources.resolve items.context .none (slotOf "items".toList)).answered
      (holding items.data) = .ok (.arr [.obj [("sku", .str "a")]]) := by cbv
  have hinstances : instancesFrom ["item".toList, "items".toList] "items".toList
      (loopBody (.obj keyedTemplate)) 1 0 = [(1, keyedInstance)] := by cbv
  have hanswered : (items.sources.expandLoop items.context (.obj keyedTemplate) "item").answered
      (holding items.data) = .ok [(1, keyedInstance)] := by
    rw [answered_expandLoop hloop hname hresolved, ← hinstances]
    rfl
  have hruns := Act.runs_meet (fun _ => holding items.data)
    (items.sources.expandLoop items.context (.obj keyedTemplate) "item") []
  rw [Act.meet_constant, hanswered] at hruns
  exact ⟨_, hruns⟩

/-- The note of the instance has no marker left. -/
theorem keyedInstance_bound :
    BoundValue ["item".toList, "items".toList] "items.0".toList
      (.obj [("test", .obj [("[[item.sku]]", .bool true),
        ("note", .str "[[items.sku]] of [[item]]")])])
      keyedInstance ∧
    ∀ name ∈ ["item".toList, "items".toList], ∀ tail, IsTail tail → ¬['}', '}'] <:+: tail →
      ¬markerText name tail <:+: "{{items.0.sku}} of {{items.0}}".toList := by
  obtain ⟨t, hruns⟩ := runs_keyedTemplate
  have hname : loopName (trimmed "{{items}}").toList = "items".toList := by cbv
  obtain ⟨i, hi, hbound, -, hunmarked⟩ := expandLoop_bound rfl hname (by decide) (by decide) hruns _
    (List.mem_singleton_self _)
  obtain rfl : i = 0 := by omega
  have hnote : "{{items.0.sku}} of {{items.0}}" ∈ keyedInstance.strings := by decide
  exact ⟨hbound, hunmarked _ hnote⟩

/-- **A marker in a key survives**: the key of the instance is the marker that it was. -/
theorem keyedMarker_survives :
    ∃ t, (items.sources.expandLoop items.context (.obj keyedTemplate) "item").Runs t
        (.ok [(1, keyedInstance)]) ∧
      Unbracketed "item".toList ∧ Unbracketed "items".toList ∧
      ∃ key ∈ keyedInstance.keysWithin, ∃ tail, IsTail tail ∧
        markerText "item".toList tail <:+: key.toList := by
  obtain ⟨t, hruns⟩ := runs_keyedTemplate
  have hkey : "[[item.sku]]" ∈ keyedInstance.keysWithin := by decide
  have htail : IsTail ".sku".toList := .inr ⟨"sku".toList, rfl, by decide⟩
  exact ⟨t, hruns, by decide, by decide, _, hkey, _, htail, List.infix_rfl⟩

end LoopCase

end CaseScript

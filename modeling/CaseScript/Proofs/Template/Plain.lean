import CaseScript.Proofs.Template.Fill

/-!
# Proofs/Template/Plain — parts that a template and what it becomes have in common

A path is **plain** in a template if it goes through no key `sql`, below which quotes are doubled,
and through no object with a placeholder in a key.  Filling the template and then following a plain
path gives what following the path and then filling the part does (`plainWalk?_fill`).
-/

namespace CaseScript.Template

/-- The part that one segment names, if it names it plainly. -/
def plainChild? (v : Json) (segment : String) : Option Json :=
  match v with
  | .obj es =>
    if segment ≠ "sql" ∧ ∀ k ∈ Keyed.keys es, namesInText k = [] then Keyed.get? segment es
    else none
  | v => v.child? segment

/-- The part at the end of a plain path. -/
def plainWalk? (v : Json) : List String → Option Json
  | [] => some v
  | s :: ss => (plainChild? v s).bind fun w => plainWalk? w ss

variable {values : Entries}

theorem child?_of_plainChild? {v w : Json} {segment : String} (h : plainChild? v segment = some w) :
    v.child? segment = some w := by
  match v with
  | .obj es =>
    rw [plainChild?] at h
    split at h
    · exact h
    · cases h
  | .arr _ | .null | .bool _ | .num _ | .str _ => exact h

theorem walk?_of_plainWalk? {v w : Json} {path : List String} (h : plainWalk? v path = some w) :
    v.walk? path = some w := by
  induction path generalizing v with
  | nil => exact h
  | cons s path ih =>
    obtain ⟨u, hu, hrest⟩ := Option.bind_eq_some_iff.mp h
    rw [Json.walk?, child?_of_plainChild? hu]
    exact ih hrest

/-! ## Filling along a plain path -/

theorem getElem?_fillItems (inSql : Bool) (vs : List Json) (i : Nat) :
    (fillItems values inSql vs)[i]? = vs[i]?.map (fill values inSql) := by
  induction vs generalizing i with
  | nil => rfl
  | cons v vs ih =>
    cases i with
    | zero => rfl
    | succ i => exact ih i

theorem keys_fillEntries (hblank : values.get? "" = none) (inSql : Bool) {es : Entries}
    (hkeys : ∀ k ∈ es.keys, namesInText k = []) :
    Keyed.keys (fillEntries values inSql es) = es.keys := by
  induction es with
  | nil => rfl
  | cons e es ih =>
    obtain ⟨hkey, hrest⟩ := List.forall_mem_cons.mp hkeys
    change splice values false e.1 :: Keyed.keys (fillEntries values inSql es) =
      e.1 :: Keyed.keys es
    rw [splice_eq_self hblank hkey, ih hrest]

theorem get?_fillEntries (hblank : values.get? "" = none) {es : Entries} {key : String}
    (hkeys : ∀ k ∈ es.keys, namesInText k = []) (hsql : key ≠ "sql") :
    Keyed.get? key (fillEntries values false es) = (es.get? key).map (fill values false) := by
  induction es with
  | nil => rfl
  | cons e es ih =>
    obtain ⟨k, v⟩ := e
    obtain ⟨hkey, hrest⟩ := List.forall_mem_cons.mp hkeys
    rw [fillEntries, splice_eq_self hblank hkey, Keyed.get?, Keyed.get?, ih hrest]
    split
    · rename_i hsame
      subst hsame
      simp [hsql]
    · rfl

theorem plainChild?_fill (hblank : values.get? "" = none) {v w : Json} {segment : String}
    (hsorted : v.Sorted) (h : plainChild? v segment = some w) :
    plainChild? (fill values false v) segment = some (fill values false w) := by
  match v with
  | .obj es =>
    rw [plainChild?] at h
    split at h
    · rename_i hplain
      have hkeys := keys_fillEntries hblank false hplain.2
      have hincreasing : Keyed.Increasing (fillEntries values false es) := by
        rw [Keyed.Increasing, hkeys]
        exact hsorted.1
      rw [fill, Keyed.ofPairs_eq_self hincreasing, plainChild?, hkeys, if_pos hplain,
        get?_fillEntries hblank hplain.2 hplain.1, h]
      rfl
    · cases h
  | .arr items =>
    obtain ⟨i, hi, hitem⟩ := Option.bind_eq_some_iff.mp h
    change (arrayIndex? segment).bind (fun i => (fillItems values false items)[i]?) = _
    rw [hi, Option.bind_some, getElem?_fillItems, hitem]
    rfl
  | .null | .bool _ | .num _ | .str _ => cases h

/-- **Filling and following a plain path commute.** -/
theorem plainWalk?_fill (hblank : values.get? "" = none) {v w : Json} {path : List String}
    (hsorted : v.Sorted) (h : plainWalk? v path = some w) :
    plainWalk? (fill values false v) path = some (fill values false w) := by
  induction path generalizing v with
  | nil =>
    obtain rfl := Option.some.inj h
    rfl
  | cons s path ih =>
    obtain ⟨u, hu, hrest⟩ := Option.bind_eq_some_iff.mp h
    have hu' := Json.sorted_child? hsorted (child?_of_plainChild? hu)
    rw [plainWalk?, plainChild?_fill hblank hsorted hu, Option.bind_some, ih hu' hrest]

/-! ## Names along a path -/

theorem mem_namesIn_of_child? {v w : Json} {segment n : String} (h : v.child? segment = some w)
    (hn : n ∈ namesIn w) : n ∈ namesIn v := by
  have hitems : ∀ (vs : List Json), w ∈ vs → n ∈ namesInItems vs := by
    intro vs hw
    induction vs with
    | nil => cases hw
    | cons v vs ih =>
      obtain rfl | hw := List.mem_cons.mp hw
      · exact List.mem_append_left _ hn
      · exact List.mem_append_right _ (ih hw)
  have hentries : ∀ (es : Entries), (segment, w) ∈ es → n ∈ namesInEntries es := by
    intro es hw
    induction es with
    | nil => cases hw
    | cons e es ih =>
      obtain rfl | hw := List.mem_cons.mp hw
      · exact List.mem_append_right _ (List.mem_append_left _ hn)
      · exact List.mem_append_right _ (List.mem_append_right _ (ih hw))
  match v with
  | .obj es => exact hentries es (Keyed.mem_of_get? h)
  | .arr items =>
    obtain ⟨i, -, hi⟩ := Option.bind_eq_some_iff.mp h
    exact hitems items (List.mem_of_getElem? hi)

theorem mem_namesIn_of_walk? {v w : Json} {path : List String} (h : v.walk? path = some w)
    {n : String} (hn : n ∈ namesIn w) : n ∈ namesIn v := by
  induction path generalizing v with
  | nil =>
    obtain rfl := Option.some.inj h
    exact hn
  | cons s path ih =>
    rw [Json.walk?] at h
    split at h
    · exact mem_namesIn_of_child? ‹_› (ih h)
    · cases h

end CaseScript.Template

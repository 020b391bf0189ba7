import CaseScript.Proofs.Source.Dotted
import CaseScript.Proofs.Source.Sorted
import CaseScript.Proofs.Template.Resolve

/-!
# Proofs/Template/Passes — a template is filled three times

While every name is **fixed**, that is, has one answer whenever it is asked for, resolving depends
on these answers only (`result_resolvePasses`).  If they are values, no pass can be told from one
that is left out because nothing asks for a name any more (`fill_eq_self`), so that a template is
filled three times whatever it is (`fillUpTo_values`).  Filling treats the items of an array and the
values of an object each on its own, hence so does resolving (`resolve_threePasses`).
-/

namespace CaseScript

namespace Template

/-! ## Filling with what the names are answered -/

/-- The values of names, or the error of the first name that has one. -/
def valuesOf (answers : String → Except StepError Json) :
    List String → Except StepError Entries
  | [] => .ok []
  | n :: ns => do
    let v ← answers n
    let rest ← valuesOf answers ns
    return (n, v) :: rest

/-- A template filled up to `passes` times, as long as it asks for names. -/
def fillUpTo (answers : String → Except StepError Json) :
    (passes : Nat) → Json → Except StepError Json
  | 0, v => .ok v
  | passes + 1, v =>
    match placeholderNames v with
    | [] => .ok v
    | names => do fillUpTo answers passes (fill (← valuesOf answers names) false v)

/-- A template filled with the values of its names. -/
def fillFrom (value : String → Json) (v : Json) : Json :=
  fill ((placeholderNames v).map fun n => (n, value n)) false v

/-- A template filled `passes` times. -/
def fillTimes (value : String → Json) : (passes : Nat) → Json → Json
  | 0, v => v
  | passes + 1, v => fillTimes value passes (fillFrom value v)

variable {value : String → Json}

theorem valuesOf_values (names : List String) :
    valuesOf (fun n => .ok (value n)) names = .ok (names.map fun n => (n, value n)) := by
  induction names with
  | nil => rfl
  | cons n ns ih => rw [valuesOf, ih]; rfl

theorem get?_values {names : List String} {n : String} (h : n ∈ names) :
    Keyed.get? n (names.map fun n => (n, value n)) = some (value n) := by
  induction names with
  | nil => cases h
  | cons m ns ih =>
    rw [List.map_cons, Keyed.get?]
    split
    · rename_i hsame
      rw [hsame]
    · rename_i hne
      exact ih ((List.mem_cons.mp h).resolve_left (Ne.symm hne))

theorem get?_values_of_not_mem {names : List String} {n : String} (h : n ∉ names) :
    Keyed.get? n (names.map fun n => (n, value n)) = none := by
  rw [Keyed.get?_eq_none_iff, Keyed.keys, List.map_map]
  simpa using h

/-- A part of a template is filled the same with the values of the names of the whole. -/
theorem fill_values {names : List String} {v : Json} (hblank : "" ∉ names)
    (hnames : ∀ n ∈ namesIn v, n ∈ names) :
    fill (names.map fun n => (n, value n)) false v = fillFrom value v := by
  refine fill_congr false v ⟨get?_values_of_not_mem hblank,
    get?_values_of_not_mem (blank_not_mem_placeholderNames v), fun n hn => ?_⟩
  rw [get?_values (hnames n hn), get?_values (mem_placeholderNames.mpr hn)]

theorem fillFrom_eq_self {v : Json} (h : namesIn v = []) (hsorted : v.Sorted) :
    fillFrom value v = v := by
  rw [fillFrom, placeholderNames_eq_nil.mpr h]
  exact fill_eq_self rfl false v h hsorted

theorem fillFrom_sorted (hvalue : ∀ n, (value n).Sorted) (v : Json) :
    (fillFrom value v).Sorted := by
  refine fill_sorted (Json.entriesSorted_iff.mpr fun e he => ?_) false v
  obtain ⟨n, -, rfl⟩ := List.mem_map.mp he
  exact hvalue n

theorem fillTimes_eq_self (passes : Nat) {v : Json} (h : namesIn v = []) (hsorted : v.Sorted) :
    fillTimes value passes v = v := by
  induction passes with
  | zero => rfl
  | succ passes ih => rw [fillTimes, fillFrom_eq_self h hsorted, ih]

/-- **It makes no difference that passes are left out** once nothing asks for a name. -/
theorem fillUpTo_values (hvalue : ∀ n, (value n).Sorted) (passes : Nat) {v : Json}
    (hsorted : v.Sorted) :
    fillUpTo (fun n => .ok (value n)) passes v = .ok (fillTimes value passes v) := by
  induction passes generalizing v with
  | zero => rfl
  | succ passes ih =>
    rw [fillUpTo]
    split
    · rename_i hnames
      rw [fillTimes_eq_self _ (placeholderNames_eq_nil.mp hnames) hsorted]
    · rw [valuesOf_values]
      exact ih (fillFrom_sorted hvalue v)

/-! ## Parts are filled each on its own -/

/-- No key has a placeholder or stands for a statement. -/
def PlainKeys (es : Entries) : Prop := ∀ e ∈ es, namesInText e.1 = [] ∧ e.1 ≠ "sql"

theorem fillItems_values {names : List String} (hblank : "" ∉ names) {items : List Json}
    (hnames : ∀ n ∈ namesInItems items, n ∈ names) :
    fillItems (names.map fun n => (n, value n)) false items = items.map (fillFrom value) := by
  induction items with
  | nil => rfl
  | cons v vs ih =>
    rw [fillItems, fill_values hblank fun n hn => hnames n (List.mem_append_left _ hn),
      ih fun n hn => hnames n (List.mem_append_right _ hn)]
    rfl

theorem fillEntries_values {names : List String} (hblank : "" ∉ names) {es : Entries}
    (hnames : ∀ n ∈ namesInEntries es, n ∈ names) (hkeys : PlainKeys es) :
    fillEntries (names.map fun n => (n, value n)) false es = es.mapValues (fillFrom value) := by
  induction es with
  | nil => rfl
  | cons e es ih =>
    obtain ⟨⟨hplain, hsql⟩, hrest⟩ := List.forall_mem_cons.mp hkeys
    have hvalue : fill (names.map fun n => (n, value n)) false e.2 = fillFrom value e.2 :=
      fill_values hblank fun n hn =>
        hnames n (List.mem_append_right _ (List.mem_append_left _ hn))
    have hothers := ih (fun n hn => hnames n (List.mem_append_right _ (List.mem_append_right _ hn)))
      hrest
    have hsame : (false || decide (e.1 = "sql")) = false := by simpa using hsql
    rw [fillEntries, splice_eq_self (get?_values_of_not_mem hblank) hplain, hsame, hvalue, hothers]
    rfl

theorem fillFrom_arr (items : List Json) :
    fillFrom value (.arr items) = .arr (items.map (fillFrom value)) :=
  congrArg Json.arr (fillItems_values (blank_not_mem_placeholderNames _)
    fun _ hn => mem_placeholderNames.mpr hn)

theorem keys_mapValues {α β : Type} (f : α → β) (es : Keyed α) :
    (es.mapValues f).keys = es.keys := by
  rw [Keyed.keys, Keyed.mapValues, List.map_map]
  rfl

theorem fillFrom_obj {es : Entries} (hsorted : es.Increasing) (hkeys : PlainKeys es) :
    fillFrom value (.obj es) = .obj (es.mapValues (fillFrom value)) := by
  have hincreasing : (es.mapValues (fillFrom value)).Increasing := by
    rwa [Keyed.Increasing, keys_mapValues]
  rw [fillFrom, fill, fillEntries_values (blank_not_mem_placeholderNames (.obj es))
    (fun _ hn => mem_placeholderNames.mpr hn) hkeys, Keyed.ofPairs_eq_self hincreasing]

theorem fillTimes_arr (passes : Nat) (items : List Json) :
    fillTimes value passes (.arr items) = .arr (items.map (fillTimes value passes)) := by
  induction passes generalizing items with
  | zero => exact congrArg Json.arr (List.map_id' items).symm
  | succ passes ih =>
    rw [fillTimes, fillFrom_arr, ih, List.map_map]
    rfl

theorem fillTimes_obj (passes : Nat) {es : Entries} (hsorted : es.Increasing)
    (hkeys : PlainKeys es) :
    fillTimes value passes (.obj es) = .obj (es.mapValues (fillTimes value passes)) := by
  induction passes generalizing es with
  | zero => exact congrArg Json.obj (List.map_id' es).symm
  | succ passes ih =>
    have hincreasing : (es.mapValues (fillFrom value)).Increasing := by
      rwa [Keyed.Increasing, keys_mapValues]
    have hplain : PlainKeys (es.mapValues (fillFrom value)) := by
      intro e he
      obtain ⟨e', he', rfl⟩ := List.mem_map.mp he
      exact hkeys e' he'
    rw [fillTimes, fillFrom_obj hsorted hkeys, ih hincreasing hplain, Keyed.mapValues,
      Keyed.mapValues, List.map_map]
    rfl

/-! ## Chains of placeholders -/

/-- Names, as they are written in their placeholders, of which the value of each is just the
placeholder of the next. -/
structure SlotChain (value : String → Json) (names : List (List Char)) : Prop where
  slots : ∀ name ∈ names, (∀ c ∈ name, isInner c) ∧ slotName name ≠ ""
  links : ∀ (i : Nat) a b, names[i]? = some a → names[i + 1]? = some b →
    value (slotName a) = slotOf b

theorem SlotChain.tail {name : List Char} {names : List (List Char)}
    (h : SlotChain value (name :: names)) : SlotChain value names :=
  ⟨fun n hn => h.slots n (List.mem_cons_of_mem _ hn), fun i => h.links (i + 1)⟩

theorem fillFrom_slotOf {name : List Char} (hinner : ∀ c ∈ name, isInner c)
    (hname : slotName name ≠ "") : fillFrom value (slotOf name) = value (slotName name) := by
  have hmem : slotName name ∈ placeholderNames (slotOf name) := by
    rw [mem_placeholderNames, namesIn_slotOf hinner hname]
    exact List.mem_singleton_self _
  rw [fillFrom, fill_slotOf hinner, get?_values hmem, Option.getD_some]

/-- **The passes go along a chain**, a name at a time, until they are used up or the chain ends. -/
theorem fillTimes_slotChain (passes : Nat) {name : List Char} {names : List (List Char)}
    (h : SlotChain value (name :: names)) :
    (∀ far, (name :: names)[passes]? = some far →
      fillTimes value passes (slotOf name) = slotOf far) ∧
    (∀ last, (name :: names).getLast? = some last → names.length < passes →
      (value (slotName last)).Sorted → namesIn (value (slotName last)) = [] →
        fillTimes value passes (slotOf name) = value (slotName last)) := by
  induction passes generalizing name names with
  | zero => exact ⟨fun far hfar => congrArg slotOf (Option.some.inj hfar), nofun⟩
  | succ passes ih =>
    obtain ⟨hinner, hname⟩ := h.slots name List.mem_cons_self
    rw [fillTimes, fillFrom_slotOf hinner hname]
    cases names with
    | nil =>
      refine ⟨nofun, fun last hlast _ hsorted hend => ?_⟩
      obtain rfl := Option.some.inj hlast
      exact fillTimes_eq_self passes hend hsorted
    | cons next names =>
      obtain ⟨hfar, hend⟩ := ih h.tail
      rw [h.links 0 name next rfl rfl]
      exact ⟨hfar, fun last hlast hlength =>
        hend last (List.getLast?_cons_cons ▸ hlast) (Nat.lt_of_succ_lt_succ hlength)⟩

end Template

namespace Sources

open Template

variable {s : Sources} {ctx : StepContext} {scope : Scope} {env : Surroundings}

/-! ## Resolving while the names are fixed -/

variable (s ctx scope env)

/-- Every name has the same answer whenever it is asked for. -/
def Fixed (answers : String → Except StepError Json) : Prop :=
  ∀ past name, ((s.resolveName ctx scope name).meet env past).2 = answers name

/-- Every name has the same value whenever it is asked for. -/
structure FixedValues (value : String → Json) : Prop where
  answers : s.Fixed ctx scope env fun n => .ok (value n)
  sorted : ∀ n, (value n).Sorted

/-- What a template resolves to after all that was asked before. -/
def resolved (past : Trace) (template : Json) : Except StepError Json :=
  ((s.resolve ctx scope template).meet env past).2

/-- A single pass, whether or not there is something to fill: every name of the template is fetched,
and then the values are put in. -/
def pass (template : Json) : Act (Except StepError Json) := do
  match ← s.fetchAll ctx scope (placeholderNames template) with
  | .error e => return .error e
  | .ok values => return .ok (fill values false template)

/-- What a single pass makes of a template after all that was asked before. -/
def passed (past : Trace) (template : Json) : Except StepError Json :=
  ((s.pass ctx scope template).meet env past).2

variable {s ctx scope env}

theorem result_fetchAll {answers : String → Except StepError Json}
    (h : s.Fixed ctx scope env answers) (names : List String) (past : Trace) :
    ((s.fetchAll ctx scope names).meet env past).2 = valuesOf answers names := by
  induction names generalizing past with
  | nil => rfl
  | cons n ns ih =>
    rw [fetchAll, Act.result_bind, h, valuesOf]
    cases answers n with
    | error e => rfl
    | ok v =>
      dsimp only
      rw [Act.result_bind, ih]
      cases valuesOf answers ns <;> rfl

/-- **What a template resolves to depends on the answers to its names only.** -/
theorem result_resolvePasses {answers : String → Except StepError Json}
    (h : s.Fixed ctx scope env answers) (passes : Nat) (template : Json) (past : Trace) :
    ((s.resolvePasses ctx scope passes template).meet env past).2 =
      fillUpTo answers passes template := by
  induction passes generalizing template past with
  | zero => rfl
  | succ passes ih =>
    rw [resolvePasses, fillUpTo]
    cases placeholderNames template with
    | nil => rfl
    | cons n ns =>
      dsimp only
      rw [Act.result_bind, result_fetchAll h]
      cases valuesOf answers (n :: ns) with
      | error e => rfl
      | ok values => exact ih _ _

theorem mapM_eq_ok {α β ε : Type} {f : α → Except ε β} {g : α → β} {xs : List α}
    (h : ∀ x ∈ xs, f x = .ok (g x)) : xs.mapM f = .ok (xs.map g) := by
  induction xs with
  | nil => rfl
  | cons x xs ih =>
    obtain ⟨hx, hxs⟩ := List.forall_mem_cons.mp h
    rw [List.mapM_cons, hx, ih hxs]
    rfl

section

variable {value : String → Json} (h : s.FixedValues ctx scope env value) (past : Trace)
include h

theorem passed_eq (template : Json) :
    s.passed ctx scope env past template = .ok (fillFrom value template) := by
  rw [passed, pass, Act.result_bind, result_fetchAll h.answers, valuesOf_values]
  rfl

theorem resolved_eq (template : Json) (hsorted : template.Sorted) :
    s.resolved ctx scope env past template = .ok (fillTimes value maxPasses template) := by
  rw [resolved, resolve, result_resolvePasses h.answers, fillUpTo_values h.sorted _ hsorted]

theorem resolved_arr {items : List Json} (hsorted : Json.AllSorted items) :
    s.resolved ctx scope env past (.arr items) =
      (items.mapM (s.resolved ctx scope env past)).map .arr := by
  have hitems : ∀ v ∈ items,
      s.resolved ctx scope env past v = .ok (fillTimes value maxPasses v) :=
    fun v hv => resolved_eq h past v (Json.allSorted_iff.mp hsorted v hv)
  rw [resolved_eq h past (.arr items) hsorted, fillTimes_arr, mapM_eq_ok hitems]
  rfl

theorem resolved_obj {es : Entries} (hsorted : (Json.obj es).Sorted) (hkeys : PlainKeys es) :
    s.resolved ctx scope env past (.obj es) =
      (es.mapM fun e => (s.resolved ctx scope env past e.2).map (e.1, ·)).map .obj := by
  have hentries : ∀ e ∈ es, (s.resolved ctx scope env past e.2).map (e.1, ·) =
      .ok (e.1, fillTimes value maxPasses e.2) := fun e he => by
    rw [resolved_eq h past e.2 (Json.entriesSorted_iff.mp hsorted.2 e he)]
    rfl
  rw [resolved_eq h past (.obj es) hsorted, fillTimes_obj _ hsorted.1 hkeys, mapM_eq_ok hentries]
  rfl

/-- **Three passes, each part on its own.**  While every name has one value, resolving a template is
a pass over it, one over what that gives, and one over what that gives.  So the items of an array,
and the values of an object under plain keys, are resolved one by one; what asks for nothing any
more is left as it is; and a chain of at most three placeholders leads to the value at its end, a
longer one to its fourth placeholder. -/
theorem resolve_threePasses :
    (∀ template : Json, template.Sorted → ∃ first second third,
      s.passed ctx scope env past template = .ok first ∧
      s.passed ctx scope env past first = .ok second ∧
      s.passed ctx scope env past second = .ok third ∧
      s.resolved ctx scope env past template = .ok third) ∧
    (∀ items, Json.AllSorted items → s.resolved ctx scope env past (.arr items) =
      (items.mapM (s.resolved ctx scope env past)).map .arr) ∧
    (∀ es, (Json.obj es).Sorted → PlainKeys es → s.resolved ctx scope env past (.obj es) =
      (es.mapM fun e => (s.resolved ctx scope env past e.2).map (e.1, ·)).map .obj) ∧
    (∀ template v, s.resolved ctx scope env past template = .ok v → placeholderNames v = [] →
      s.resolved ctx scope env past v = .ok v) ∧
    (∀ name names, SlotChain value (name :: names) →
      (∀ last, (name :: names).getLast? = some last → (name :: names).length ≤ 3 →
        placeholderNames (value (slotName last)) = [] →
          s.resolved ctx scope env past (slotOf name) = .ok (value (slotName last))) ∧
      (∀ fourth, (name :: names)[3]? = some fourth →
        s.resolved ctx scope env past (slotOf name) = .ok (slotOf fourth))) := by
  refine ⟨fun template hsorted => ⟨_, _, _, passed_eq h past _, passed_eq h past _,
    passed_eq h past _, resolved_eq h past template hsorted⟩, fun _ => resolved_arr h past,
    fun _ => resolved_obj h past, fun template v _ hend => ?_, fun name names hchain => ?_⟩
  · rw [resolved, resolve, result_resolvePasses h.answers, maxPasses, fillUpTo, hend]
  · obtain ⟨hfar, hlast⟩ := fillTimes_slotChain maxPasses hchain
    have hslot := resolved_eq h past (slotOf name) trivial
    refine ⟨fun last hmem hlength hend => ?_, fun fourth hfourth => ?_⟩
    · rw [hslot, hlast last hmem hlength (h.sorted _) (placeholderNames_eq_nil.mp hend)]
    · rw [hslot, hfar fourth hfourth]

end

/-! ## Test data in memory -/

/-- The value of a name in test data. -/
def dataValue (data : Entries) (name : String) : Json := (Store.valueAt? data name).getD .null

/-- Names are fixed that are all looked up in one document in memory. -/
theorem FixedValues.of_memory {slot : Slot} {data : Entries} (hstore : s.store = .memory slot)
    (hkinds : ctx.kinds = []) (hdata : Json.EntriesSorted data) :
    s.FixedValues ctx .none (fun _ => holding data) (dataValue data) where
  answers past name := by
    have hsource : sourceOf ctx .none name = .data := by
      rw [sourceOf, hkinds]
      rfl
    have hreads : s.store.Reads ctx.key (holding data) data name := by
      rw [hstore]
      exact StoreHandle.reads_memory (holding data) slot ctx.key name
    rw [Act.meet_constant, resolveName_eq_ok, hsource]
    exact fetchData_of_reads hreads
  sorted name := by
    rw [dataValue]
    cases hvalue : Store.valueAt? data name with
    | none => trivial
    | some v =>
      obtain ⟨w, hw, hrest⟩ := Option.bind_eq_some_iff.mp hvalue
      exact Json.sorted_walk? (Json.sorted_get? hdata hw) hrest

/-- Test data in which `a`, `b`, `c` and `d` are a chain that ends in a number. -/
def chainData : Entries :=
  [("a", .str "{{b}}"), ("b", .str "{{ c }}"), ("c", .str "{{d}}"), ("d", .num (.whole 7))]

/-- A step without sources of its own. -/
def plainContext : StepContext := ⟨⟨"run", "case"⟩, "", "", [], [], 1, "", 1, .null⟩

/-- The whole chain is too long by one, and the rest of it is not. -/
theorem resolve_chainData :
    let s : Sources := ⟨.memory 0, .fixed ⟨[], [], []⟩⟩
    let env : Surroundings := fun _ => holding chainData
    s.FixedValues plainContext .none env (dataValue chainData) ∧
      s.resolved plainContext .none env [] (.str "{{a}}") = .ok (.str "{{d}}") ∧
      s.resolved plainContext .none env [] (.str "{{b}}") = .ok (.num (.whole 7)) := by
  intro s env
  have hfixed : s.FixedValues plainContext .none env (dataValue chainData) :=
    .of_memory rfl rfl ⟨trivial, trivial, trivial, trivial, trivial⟩
  have hslots : ∀ name ∈ [['a'], ['b'], " c ".toList, ['d']],
      (∀ c ∈ name, isInner c) ∧ slotName name ≠ "" := by
    have hall : [['a'], ['b'], " c ".toList, ['d']].all
        (fun name => name.all isInner && slotName name != "") := by cbv
    intro name hname
    simpa using List.all_eq_true.mp hall name hname
  have hchain : SlotChain (dataValue chainData) [['a'], ['b'], " c ".toList, ['d']] := by
    refine ⟨hslots, fun i a b ha hb => ?_⟩
    match i, ha, hb with
    | 0, rfl, rfl | 1, rfl, rfl | 2, rfl, rfl => cbv
  obtain ⟨-, -, -, -, hchains⟩ := resolve_threePasses hfixed []
  exact ⟨hfixed, (hchains _ _ hchain).2 ['d'] rfl,
    (hchains _ _ hchain.tail).1 ['d'] rfl (by decide) (by cbv)⟩

end Sources

end CaseScript

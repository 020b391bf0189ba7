import CaseScript.Proofs.Source.Dotted
import CaseScript.Proofs.Source.Sorted
import CaseScript.Proofs.Template.Marker
import CaseScript.Proofs.Template.Resolve
import CaseScript.Proofs.Text.Trim

/-!
# Proofs/Template/Loop — a marker is bound to the element of its instance

A loop names an array, and its instances name the elements by their index (`answered_expandLoop`).
The elements are fetched anew by these names, so what a marker stands for is settled by two
readings: that of the loop as a whole, pass by pass, and that of the name with its index.  They
agree (`expandLoop_bindsOwn`) as long as the first pass already finds the array, the longer name is
read from the same place, and the path is plain.
-/

namespace CaseScript

open Template

namespace Sources

variable {s : Sources} {ctx : StepContext} {scope : Scope} {env : (c : Call) → c.Answer}

/-- A placeholder resolves to what its value does in the passes that are left. -/
theorem resolvePasses_slotOf (passes : Nat) {name : List Char} {v : Json}
    (hinner : ∀ c ∈ name, isInner c) (htrim : Text.trim name = name) (hne : name ≠ [])
    (hv : (s.resolveName ctx scope (String.ofList name)).answered env = .ok v) :
    (s.resolvePasses ctx scope (passes + 1) (slotOf name)).answered env =
      (s.resolvePasses ctx scope passes v).answered env := by
  have hslot : slotName name = String.ofList name := by rw [slotName, htrim]
  have hnames : namesIn (slotOf name) = [String.ofList name] := by
    rw [← hslot]
    exact namesIn_slotOf hinner fun h => hne (String.ofList_injective (hslot.symm.trans h))
  have hset : placeholderNames (slotOf name) = [String.ofList name] := by
    rw [placeholderNames, hnames]
    rfl
  have hvalues : (s.fetchAll ctx scope [String.ofList name]).answered env =
      .ok [(String.ofList name, v)] := by
    rw [fetchAll, Act.answered_bind, hv]
    rfl
  rw [resolvePasses_succ passes (hnames ▸ List.cons_ne_nil _ _), hset, hvalues]
  dsimp only
  rw [fill_slotOf hinner, hslot]
  simp [Keyed.get?]

/-- If a single pass makes an array of what is written like a placeholder, then it is one, of a name
whose value is that array. -/
theorem resolveName_of_slotOf {name : List Char} {items : List Json}
    (h : (s.resolvePasses ctx scope 1 (slotOf name)).answered env = .ok (.arr items)) :
    (∀ c ∈ name, isInner c) ∧ slotName name ≠ "" ∧
      (s.resolveName ctx scope (slotName name)).answered env = .ok (.arr items) := by
  obtain ⟨-, hself⟩ | ⟨values, hvalues, hfilled⟩ := resolvePasses_cases h
  · cases hself
  obtain ⟨hinner, hv⟩ := eq_of_fill_slotOf (Except.ok.inj hfilled)
  obtain ⟨hkeys, hentries⟩ := fetchAll_ok hvalues
  have hmem := Keyed.mem_of_get? hv
  have hvalue := hentries (slotName name, .arr items) hmem
  refine ⟨hinner, fun hblank => ?_, hvalue⟩
  have hasked : slotName name ∈ values.keys := List.mem_map_of_mem hmem
  rw [hblank, hkeys, mem_placeholderNames] at hasked
  exact blank_not_mem_namesIn _ hasked

end Sources

/-! ## The name of an element -/

/-- The name of an element of a loop, or of a part of it. -/
def elementName (loop : List Char) (i : Nat) (tail : List Char) : List Char :=
  loop ++ '.' :: (decimalDigits i ++ tail)

theorem isDigit_of_mem_decimalDigits {i : Nat} {c : Char} (h : c ∈ decimalDigits i) : c.isDigit :=
  Nat.isDigit_of_mem_toDigits (by omega) (by omega) h

theorem isInner_of_isDigit {c : Char} (h : c.isDigit) : isInner c := by
  have hopen : c ≠ '{' := by
    rintro rfl
    exact absurd h (by decide)
  have hclose : c ≠ '}' := by
    rintro rfl
    exact absurd h (by decide)
  simp [isInner, hopen, hclose]

theorem not_isBlank_of_isDigit {c : Char} (h : c.isDigit) : ¬Unicode.isBlank c := by
  have hcode : 48 ≤ c.toNat ∧ c.toNat ≤ 57 := by
    simpa [Char.isDigit, UInt32.le_iff_toNat_le] using h
  simp only [Unicode.isBlank, Bool.or_eq_true, Bool.and_eq_true, decide_eq_true_eq, beq_iff_eq]
  omega

theorem isInner_elementName {loop tail : List Char} {i : Nat} (hloop : ∀ c ∈ loop, isInner c)
    (htail : ∀ c ∈ tail, isInner c) : ∀ c ∈ elementName loop i tail, isInner c := by
  intro c hc
  rcases List.mem_append.mp hc with hc | hc
  · exact hloop c hc
  rcases List.mem_cons.mp hc with rfl | hc
  · decide
  rcases List.mem_append.mp hc with hc | hc
  · exact isInner_of_isDigit (isDigit_of_mem_decimalDigits hc)
  · exact htail c hc

theorem trim_elementName {loop tail : List Char} {i : Nat} (hloop : Text.trim loop = loop)
    (htail : Text.trim tail = tail) :
    Text.trim (elementName loop i tail) = elementName loop i tail := by
  have hindex : Text.trim ('.' :: decimalDigits i) = '.' :: decimalDigits i := by
    refine Text.trim_eq_self_of_not_isBlank fun c hc => ?_
    rcases List.mem_cons.mp hc with rfl | hc
    · decide
    · exact not_isBlank_of_isDigit (isDigit_of_mem_decimalDigits hc)
  have hjoined := Text.trim_append (Text.trim_append hloop hindex) htail
  rwa [List.append_assoc, List.cons_append] at hjoined

/-- The path to an element, and on into it. -/
theorem pathSegments_index (i : Nat) {tail : List Char} (htail : IsTail tail) :
    pathSegments (String.ofList (decimalDigits i ++ tail)) =
      String.ofList (decimalDigits i) :: pathSegments (String.ofList tail) := by
  obtain rfl | ⟨p, rfl, -⟩ := htail
  · rw [List.append_nil, pathSegments_decimalDigits]
    rfl
  · have hdot : pathSegments (String.ofList ('.' :: p)) = pathSegments (String.ofList p) :=
      pathSegments_dot [] p
    rw [pathSegments_dot, pathSegments_decimalDigits, hdot]
    rfl

/-! ## The loop and its elements -/

section

variable {s : Sources} {ctx : StepContext} {env : (c : Call) → c.Answer}

/-- Passes keep the number of items of an array. -/
theorem Sources.length_of_resolvePasses {scope : Scope} {passes : Nat} {raw xs : List Json}
    (h : (s.resolvePasses ctx scope passes (.arr raw)).answered env = .ok (.arr xs)) :
    xs.length = raw.length := by
  induction passes generalizing raw with
  | zero =>
    obtain rfl := Json.arr.inj (Except.ok.inj h)
    rfl
  | succ passes ih =>
    obtain ⟨-, hself⟩ | ⟨values, -, hrest⟩ := resolvePasses_cases h
    · rw [Json.arr.inj hself]
    · rw [ih hrest, length_fillItems]

/-- **The instances of a loop** that resolves to an array. -/
theorem answered_expandLoop {template : Json} {expression marker : String} {loop : List Char}
    {xs : List Json} (hloop : template.get? "loop" = some (.str expression))
    (hname : loopName (trimmed expression).toList = loop)
    (hresolved : (s.resolve ctx .none (slotOf loop)).answered env = .ok (.arr xs)) :
    (s.expandLoop ctx template marker).answered env =
      .ok (instancesFrom [marker.toList, loop] loop (loopBody template) xs.length 0) := by
  have hne : loop ≠ [] := by
    rintro rfl
    rw [Sources.resolve, Sources.resolvePasses_eq_self _ (by decide)] at hresolved
    cases hresolved
  have hslot : Json.str (String.ofList (['{', '{'] ++ loop ++ ['}', '}'])) = slotOf loop := rfl
  rw [Sources.expandLoop, hloop]
  dsimp only
  rw [hname, if_neg hne, Act.answered_bind, hslot, hresolved]
  rfl

/-- **The name of a part of an element resolves to what that part does**, as it was first read. -/
theorem resolvePasses_elementName {loop tail : List Char} {i : Nat} {raw : List Json} {u : Json}
    (passes : Nat)
    (hraw : (s.resolveName ctx .none (String.ofList loop)).answered env = .ok (.arr raw))
    (hi : i < Nat.pow 2 64) (hu : raw[i]? = some u)
    (hplace : OnePlace s ctx env (String.ofList loop) (String.ofList (elementName loop i tail)))
    (hloop : ∀ c ∈ loop, isInner c) (hlooptrim : Text.trim loop = loop)
    (htail : IsTail tail) (hinner : ∀ c ∈ tail, isInner c) (htrim : Text.trim tail = tail) :
    (s.resolvePasses ctx .none (passes + 1) (slotOf (elementName loop i tail))).answered env =
      (s.resolvePasses ctx .none passes
        ((u.at? (String.ofList tail)).getD .null)).answered env := by
  have hname := resolveName_dot hplace hraw
  have hindex : (Json.arr raw).at? (String.ofList (decimalDigits i ++ tail)) =
      u.at? (String.ofList tail) := by
    rw [Json.at?, pathSegments_index i htail, Json.walk?, Json.child?, arrayIndex?_decimalDigits hi,
      Option.bind_some, hu]
    rfl
  rw [hindex] at hname
  exact Sources.resolvePasses_slotOf passes (isInner_elementName hloop hinner)
    (trim_elementName hlooptrim htrim)
    (List.append_ne_nil_of_right_ne_nil loop (List.cons_ne_nil _ _)) hname

/-- **The part of an element resolves to the part of what the array resolves to.** -/
theorem resolvePasses_element (hsources : SortedSources s ctx env) {tail : List Char}
    {passes i : Nat} {raw xs : List Json} {u w : Json} (hrawsorted : (Json.arr raw).Sorted)
    (hxs : (s.resolvePasses ctx .none passes (.arr raw)).answered env = .ok (.arr xs))
    (hi : i < Nat.pow 2 64) (htail : IsTail tail) (hu : raw[i]? = some u)
    (hw : plainWalk? u (pathSegments (String.ofList tail)) = some w) :
    ∃ element v, xs[i]? = some element ∧ element.at? (String.ofList tail) = some v ∧
      (s.resolvePasses ctx .none passes w).answered env = .ok v := by
  have hnodata : Json.EntriesSorted Scope.none.data := trivial
  have hindex : plainWalk? (.arr raw) (pathSegments (String.ofList (decimalDigits i ++ tail))) =
      some w := by
    rw [pathSegments_index i htail, plainWalk?]
    change ((arrayIndex? (String.ofList (decimalDigits i))).bind fun i => raw[i]?).bind _ = _
    rw [arrayIndex?_decimalDigits hi, Option.bind_some, hu, Option.bind_some, hw]
  obtain ⟨v, hv, hend⟩ := Sources.resolvePasses_walk (fun _ _ => hsources.resolveName hnodata)
    hrawsorted hxs hindex
  have hwalk := walk?_of_plainWalk? hend
  rw [pathSegments_index i htail, Json.walk?, Json.child?, arrayIndex?_decimalDigits hi,
    Option.bind_some] at hwalk
  split at hwalk
  · rename_i element helement
    exact ⟨element, v, helement, hwalk, hv⟩
  · cases hwalk

/-- **A marker is bound to the element of its instance.**  The loop is read as an array in the first
pass already (`hdirect`), the name of the element leads to the same place as that of the loop
(`hplace`), and the path is plain in the element as it was first read (`hpart`); then a string that
was just the marker with that path resolves to the part of the resolved element. -/
theorem expandLoop_bindsOwn (hsources : SortedSources s ctx env)
    {template : Json} {expression marker : String} {loop name tail : List Char} {xs raw : List Json}
    {i : Nat} (hloop : template.get? "loop" = some (.str expression))
    (hname : loopName (trimmed expression).toList = loop)
    (hresolved : (s.resolve ctx .none (slotOf loop)).answered env = .ok (.arr xs))
    (hdirect : (s.resolvePasses ctx .none 1 (slotOf loop)).answered env = .ok (.arr raw))
    (hi : i < xs.length) (hsize : xs.length ≤ Nat.pow 2 64)
    (hpart : ∀ u, raw[i]? = some u → (plainWalk? u (pathSegments (String.ofList tail))).isSome)
    (hplace : OnePlace s ctx env (String.ofList loop) (String.ofList (elementName loop i tail)))
    (hmarker : FirstFits [marker.toList, loop] name tail)
    (htail : IsTail tail) (hinner : ∀ c ∈ tail, isInner c) (htrim : Text.trim tail = tail) :
    ∃ instances body element v,
      (s.expandLoop ctx template marker).answered env = .ok instances ∧
      instances.length = xs.length ∧ instances[i]? = some (i + 1, body) ∧
      xs[i]? = some element ∧ element.at? (String.ofList tail) = some v ∧
      ∀ path, (loopBody template).walk? path = some (.str (String.ofList (markerText name tail))) →
        ∃ text, body.walk? path = some (.str text) ∧
          (s.resolve ctx .none (.str text)).answered env = .ok v := by
  obtain ⟨hloopinner, hnonblank, hraw⟩ := Sources.resolveName_of_slotOf hdirect
  have hlooptrim : Text.trim loop = loop := by
    rw [← hname, loopName, Text.trim_trim]
  rw [slotName, hlooptrim] at hraw hnonblank
  have hxs : (s.resolvePasses ctx .none 2 (.arr raw)).answered env = .ok (.arr xs) := by
    have hne : loop ≠ [] := fun h => hnonblank (h ▸ rfl)
    rw [← hresolved, Sources.resolve]
    exact (Sources.resolvePasses_slotOf 2 hloopinner hlooptrim hne hraw).symm
  have hlength := Sources.length_of_resolvePasses hxs
  have hu : raw[i]? = some raw[i] := List.getElem?_eq_getElem (hlength ▸ hi)
  obtain ⟨w, hw⟩ := Option.isSome_iff_exists.mp (hpart _ hu)
  have hindex := Nat.lt_of_lt_of_le hi hsize
  have hnodata : Json.EntriesSorted Scope.none.data := trivial
  obtain ⟨element, v, helement, hv, hresolves⟩ :=
    resolvePasses_element hsources (hsources.resolveName hnodata hraw) hxs hindex htail hu hw
  have hnamed := resolvePasses_elementName 2 hraw hindex hu hplace hloopinner hlooptrim htail hinner
    htrim
  rw [Json.at?, walk?_of_plainWalk? hw, Option.getD_some, hresolves] at hnamed
  have hinstance := getElem?_instancesFrom [marker.toList, loop] loop (loopBody template) 0 hi
  rw [Nat.zero_add] at hinstance
  refine ⟨_, _, element, v, answered_expandLoop hloop hname hresolved,
    length_instancesFrom _ _ _ _ _, hinstance, helement, hv, fun path hpath => ?_⟩
  have hbound := bindText_marker (loop ++ '.' :: decimalDigits i) hmarker htail
  have htext : ['{', '{'] ++ (loop ++ '.' :: decimalDigits i) ++ tail ++ ['}', '}'] =
      (Piece.slot (elementName loop i tail)).text := by
    simp [elementName, Piece.text]
  rw [htext] at hbound
  refine ⟨_, ?_, hnamed⟩
  rw [walk?_bindMarkers, hpath, Option.map_some, bindMarkers, hbound]

end

/-- A loop over test data and configured values, and a path into its elements. -/
structure LoopCase where
  kinds : Keyed SourceKind
  config : Entries
  data : Entries
  expression : String
  tail : String

namespace LoopCase

variable (l : LoopCase)

def sources : Sources := ⟨.memory 0, .fixed ⟨l.config, [], []⟩⟩

def context : StepContext := ⟨⟨"run", "case"⟩, "", "", l.kinds, [], 1, "", 1, .null⟩

/-- A template that is just the marker with the path. -/
def template : Json := .obj [("loop", .str l.expression),
  ("test", .str (String.ofList (markerText "item".toList l.tail.toList)))]

/-- Two orders, of which the first has a note that names someone. -/
def storedOrders : List Json :=
  [.obj [("id", .str "7"), ("note", .str "for {{who}}")], .obj [("id", .str "8")]]

/-- The orders once they are resolved. -/
def resolvedOrders : List Json :=
  [.obj [("id", .str "7"), ("note", .str "for Ann")], .obj [("id", .str "8")]]

def orders : LoopCase :=
  ⟨[], [], [("orders", .arr storedOrders), ("who", .str "Ann")], "{{orders}}", ".note"⟩

/-- The first order is bound with the note it has once it is resolved. -/
theorem orders_bindOwn :
    ∃ instances body element v,
      (orders.sources.expandLoop orders.context orders.template "item").answered
        (holding orders.data) = .ok instances ∧
      instances.length = resolvedOrders.length ∧ instances[0]? = some (1, body) ∧
      resolvedOrders[0]? = some element ∧ element.at? ".note" = some v ∧
      ∀ path, (loopBody orders.template).walk? path =
          some (.str (String.ofList (markerText "item".toList ".note".toList))) →
        ∃ text, body.walk? path = some (.str text) ∧
          (orders.sources.resolve orders.context .none (.str text)).answered (holding orders.data) =
            .ok v := by
  have hstored : (Json.arr storedOrders).Sorted :=
    ⟨⟨by decide, trivial, trivial, trivial⟩, ⟨by decide, trivial, trivial⟩, trivial⟩
  have hsources : SortedSources orders.sources orders.context (holding orders.data) :=
    ⟨fun _ _ => ⟨hstored, trivial, trivial⟩, fun _ _ _ h => (by cases h),
      ⟨trivial, fun _ h => (by cases h)⟩, trivial⟩
  have hresolved : (orders.sources.resolve orders.context .none
      (slotOf "orders".toList)).answered (holding orders.data) = .ok (.arr resolvedOrders) := by
    cbv
  have hdirect : (orders.sources.resolvePasses orders.context .none 1
      (slotOf "orders".toList)).answered (holding orders.data) = .ok (.arr storedOrders) := by
    cbv
  have hpart : ∀ u, storedOrders[0]? = some u →
      (plainWalk? u (pathSegments (String.ofList ".note".toList))).isSome := by
    rintro _ ⟨⟩
    cbv
  exact expandLoop_bindsOwn hsources (by cbv) (by cbv) hresolved hdirect (by decide) (by decide)
    hpart (.of_memory rfl rfl rfl) ⟨[], ["orders".toList], rfl, fun _ h => (by cases h)⟩
    (.inr ⟨"note".toList, rfl, by decide⟩) (List.all_eq_true.mp (by cbv)) (by cbv)

/-! ## Loops whose markers go astray

Each of these departs from what `expandLoop_bindsOwn` asks for in one point, and its marker stands
for something else than the element. -/

/-- The loop has a single element with this part, and the marker for it resolves to that value. -/
def Reads (part value : Json) : Prop :=
  ∃ element text,
    (l.sources.resolve l.context .none (slotOf (loopName (trimmed l.expression).toList))).answered
      (holding l.data) = .ok (.arr [element]) ∧
    element.at? l.tail = some part ∧
    (l.sources.expandLoop l.context l.template "item").answered (holding l.data) =
      .ok [(1, .obj [("test", .str text)])] ∧
    (l.sources.resolve l.context .none (.str text)).answered (holding l.data) = .ok value

theorem reads_of_instance {l : LoopCase} (loop : List Char) (element : Json) (text : String)
    {part value : Json} (hloop : l.template.get? "loop" = some (.str l.expression))
    (hname : loopName (trimmed l.expression).toList = loop)
    (hresolved : (l.sources.resolve l.context .none (slotOf loop)).answered (holding l.data) =
      .ok (.arr [element]))
    (hpart : element.at? l.tail = some part)
    (hinstance : instancesFrom ["item".toList, loop] loop (loopBody l.template) 1 0 =
      [(1, .obj [("test", .str text)])])
    (hvalue : (l.sources.resolve l.context .none (.str text)).answered (holding l.data) =
      .ok value) : l.Reads part value := by
  subst hname
  refine ⟨element, text, hresolved, hpart, ?_, hvalue⟩
  rw [answered_expandLoop hloop rfl hresolved, ← hinstance]
  rfl

/-- What the first element of test data `a` is read as, a name with its index resolves to. -/
theorem resolve_first {l : LoopCase} {tail : List Char} {u value : Json} (hkinds : l.kinds = [])
    (hraw : (l.sources.resolveName l.context .none "a").answered (holding l.data) = .ok (.arr [u]))
    (htail : IsTail tail) (hinner : ∀ c ∈ tail, isInner c) (htrim : Text.trim tail = tail)
    (hvalue : (l.sources.resolvePasses l.context .none 2
      ((u.at? (String.ofList tail)).getD .null)).answered (holding l.data) = .ok value) :
    (l.sources.resolve l.context .none (slotOf (elementName ['a'] 0 tail))).answered
      (holding l.data) = .ok value := by
  have hdata : ∀ name, sourceOf l.context .none name = .data := by
    intro name
    rw [sourceOf, context, hkinds]
    rfl
  have hplace : OnePlace l.sources l.context (holding l.data) "a"
      (String.ofList (elementName ['a'] 0 tail)) := .of_memory rfl (hdata _) (hdata _)
  rw [Sources.resolve, ← hvalue]
  exact resolvePasses_elementName 2 hraw (by decide) rfl hplace (List.all_eq_true.mp (by cbv))
    (by cbv) htail hinner htrim

/-- The loop's own value is a placeholder of the array. -/
def hop : LoopCase :=
  ⟨[], [], [("a", .str "{{b}}"), ("b", .arr [.str "x"])], "{{a}}", ""⟩

/-- A source is given for the whole name of the loop only. -/
def dotted : LoopCase :=
  ⟨[("a.b", .config)], [("a", .obj [("b", .arr [.str "x"])])], [], "{{a.b}}", ""⟩

/-- The name of the element is itself configured. -/
def shadowed : LoopCase :=
  ⟨[("a", .config)], [("a", .arr [.str "x"]), ("a.0", .str "y")], [], "{{a}}", ""⟩

/-- The array is configured under a name with a dot. -/
def whole : LoopCase := ⟨[("a", .config)], [("a.b", .arr [.str "x"])], [], "{{a.b}}", ""⟩

/-- The path goes through a key `sql`. -/
def quoted : LoopCase :=
  ⟨[], [], [("a", .arr [.obj [("sql", .str "{{q}}")]]), ("q", .str "it's")], "{{a}}", ".sql"⟩

/-- A key of the element is a placeholder. -/
def renamed : LoopCase :=
  ⟨[], [], [("a", .arr [.obj [("k", .str "x"), ("{{q}}", .str "y")]]), ("q", .str "k")], "{{a}}",
    ".k"⟩

/-- The path goes on within the value of a placeholder. -/
def nested : LoopCase :=
  ⟨[], [], [("a", .arr [.obj [("k", .str "{{q}}")]]), ("q", .obj [("p", .str "x")])], "{{a}}",
    ".k.p"⟩

theorem reads_astray :
    hop.Reads (.str "x") .null ∧ dotted.Reads (.str "x") .null ∧
      shadowed.Reads (.str "x") (.str "y") ∧ whole.Reads (.str "x") .null ∧
      quoted.Reads (.str "it''s") (.str "it's") ∧ renamed.Reads (.str "y") (.str "x") ∧
      nested.Reads (.str "x") .null := by
  have hhop : hop.Reads (.str "x") .null := by
    refine reads_of_instance ['a'] (.str "x") "{{a.0}}" ?_ ?_ ?_ ?_ ?_ ?_ <;> cbv
  have hdotted : dotted.Reads (.str "x") .null := by
    refine reads_of_instance ['a', '.', 'b'] (.str "x") "{{a.b.0}}" ?_ ?_ ?_ ?_ ?_ ?_ <;> cbv
  have hshadowed : shadowed.Reads (.str "x") (.str "y") := by
    refine reads_of_instance ['a'] (.str "x") "{{a.0}}" ?_ ?_ ?_ ?_ ?_ ?_ <;> cbv
  have hwhole : whole.Reads (.str "x") .null := by
    refine reads_of_instance ['a', '.', 'b'] (.str "x") "{{a.b.0}}" ?_ ?_ ?_ ?_ ?_ ?_ <;> cbv
  have hquoted : quoted.Reads (.str "it''s") (.str "it's") := by
    have hvalue := resolve_first (l := quoted) rfl (by cbv) (.inr ⟨"sql".toList, rfl, by decide⟩)
      (List.all_eq_true.mp (by cbv)) (by cbv) (by cbv)
    refine reads_of_instance ['a'] (.obj [("sql", .str "it''s")]) "{{a.0.sql}}" ?_ ?_ ?_ ?_ ?_
      hvalue <;> cbv
  have hrenamed : renamed.Reads (.str "y") (.str "x") := by
    have hvalue := resolve_first (l := renamed) rfl (by cbv) (.inr ⟨"k".toList, rfl, by decide⟩)
      (List.all_eq_true.mp (by cbv)) (by cbv) (by cbv)
    refine reads_of_instance ['a'] (.obj [("k", .str "y")]) "{{a.0.k}}" ?_ ?_ ?_ ?_ ?_
      hvalue <;> cbv
  have hnested : nested.Reads (.str "x") .null := by
    have hvalue := resolve_first (l := nested) rfl (by cbv) (.inr ⟨"k.p".toList, rfl, by decide⟩)
      (List.all_eq_true.mp (by cbv)) (by cbv) (by cbv)
    refine reads_of_instance ['a'] (.obj [("k", .obj [("p", .str "x")])]) "{{a.0.k.p}}" ?_ ?_ ?_
      ?_ ?_ hvalue <;> cbv
  exact ⟨hhop, hdotted, hshadowed, hwhole, hquoted, hrenamed, hnested⟩

end LoopCase

end CaseScript

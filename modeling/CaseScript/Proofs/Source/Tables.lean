import CaseScript.Proofs.Act.Trace
import CaseScript.Proofs.Source.Tiers

/-!
# Proofs/Source/Tables — variables and files in tables, or given with the configuration

A client **serves** the content of a catalog if it answers the statements that read a variable and a
file with one row, or with none for what is not there (`FixedCatalog.Serves`).  What is fetched from
the tables behind it is what is fetched from the catalog itself **without its null variables**
(`fetch_tables`): a table does not tell a null from nothing, while a catalog that is given stops at
a null.  So the two agree unless a null stands before another place where the name is looked for.
-/

namespace CaseScript

/-! ## What a program comes to in given surroundings -/

namespace Act

variable {α β : Type} {env : Surroundings}

/-- Whatever was asked before, the program has the result. -/
def Yields (env : Surroundings) (p : Act α) (a : α) : Prop := ∀ past, (p.meet env past).2 = a

theorem yields_pure (a : α) : (pure a : Act α).Yields env a := fun _ => rfl

theorem Yields.bind {p : Act α} {k : α → Act β} {a : α} {b : β} (hp : p.Yields env a)
    (hk : (k a).Yields env b) : (p >>= k).Yields env b := fun past => by
  rw [result_bind, hp]
  exact hk _

end Act

/-! ## Content -/

/-- Whether a value is null. -/
def Json.isNull : Json → Bool
  | .null => true
  | _ => false

/-- The value, unless it is null. -/
def present? (v : Option Json) : Option Json := v.filter fun v => !v.isNull

/-- The entries but for those of keys whose value is null. -/
def presentEntries (es : Entries) : Entries := es.filter fun e => (present? (es.get? e.1)).isSome

namespace Keyed

variable {α β : Type}

theorem get?_filter_key (es : Keyed α) (p : String → Bool) (key : String) :
    get? key (es.filter fun e => p e.1) = if p key then es.get? key else none := by
  induction es with
  | nil => exact (ite_self none).symm
  | cons e es ih =>
    obtain ⟨k, v⟩ := e
    by_cases hkey : k = key
    · subst hkey
      by_cases hp : p k = true
      · simp [hp, get?]
      · simpa [hp] using ih
    · by_cases hp : p k = true <;> simp [hp, get?, hkey, ih]

theorem get?_mapValues (f : α → β) (es : Keyed α) (key : String) :
    (es.mapValues f).get? key = (es.get? key).map f := by
  induction es with
  | nil => rfl
  | cons e es ih =>
    obtain ⟨k, v⟩ := e
    change (if k = key then some (f v) else get? key (mapValues f es)) = _
    rw [get?, ih]
    split <;> rfl

end Keyed

theorem get?_presentEntries (es : Entries) (key : String) :
    (presentEntries es).get? key = present? (es.get? key) := by
  rw [presentEntries, Keyed.get?_filter_key es fun k => (present? (es.get? k)).isSome]
  cases es.get? key with
  | none => rfl
  | some v => cases v <;> rfl

namespace FixedCatalog

variable (c : FixedCatalog)

/-- The catalog with the variables that are not null. -/
def withoutNulls : FixedCatalog := { c with profiles := c.profiles.mapValues presentEntries }

theorem own?_withoutNulls (profile name : String) :
    c.withoutNulls.own? profile name = present? (c.own? profile name) := by
  rw [own?, withoutNulls, Keyed.get?_mapValues, own?]
  cases c.profiles.get? profile with
  | none => rfl
  | some vars => exact get?_presentEntries vars name

/-- What a source that is read from tables has under one key. -/
def value? (ctx : StepContext) (kind : SourceKind) (key : String) : Option Json :=
  match kind with
  | .global => c.own? globalProfile key
  | .component => c.tiered? ctx.profile key
  | .xml => (c.files.get? key).map .str
  | _ => none

end FixedCatalog

/-- One row with one cell for what there is, and no row for nothing. -/
def cellRows (column : String) (v : Option Json) : List Row := (v.map fun v => [(column, v)]).toList

theorem firstCell?_cellRows (column : String) (v : Option Json) :
    firstCell? (cellRows column v) = present? v := by
  cases v with
  | none => rfl
  | some v => cases v <;> rfl

/-- The client behind a connection has the content of a catalog in its tables. -/
structure FixedCatalog.Serves (c : FixedCatalog) (connection : String) (env : Surroundings) :
    Prop where
  variableRows : ∀ past profile name,
    env past (.query ⟨connection, Catalog.variableSql, [.str profile, .str name]⟩ .none) =
      .done (.ok (cellRows "value" (c.own? profile name)))
  fileRows : ∀ past name,
    env past (.query ⟨connection, Catalog.fileSql, [.str name]⟩ .none) =
      .done (.ok (cellRows "content" ((c.files.get? name).map .str)))

/-! ## Looking up -/

section

variable {env : Surroundings} {connection : String}

theorem yields_cellQuery {sql : String} {params : List Json} {column : String} {v : Option Json}
    (h : ∀ past, env past (.query ⟨connection, sql, params⟩ .none) =
      .done (.ok (cellRows column v))) :
    (cellQuery connection sql params).Yields env (.ok (present? v)) := by
  have hrows : (plainQuery connection sql params).Yields env (.ok (cellRows column v)) := by
    refine Act.Yields.bind (a := .done (.ok (cellRows column v))) (fun past => ?_)
      (Act.yields_pure _)
    exact h past
  refine hrows.bind ?_
  dsimp only
  rw [firstCell?_cellRows]
  exact Act.yields_pure _

theorem yields_profileVariable {c : FixedCatalog} (h : c.Serves connection env) (config : Entries)
    (profile name : String) :
    ((Catalog.tables connection config).profileVariable profile name).Yields env
      (.ok (c.withoutNulls.own? profile name)) := by
  rw [FixedCatalog.own?_withoutNulls]
  exact yields_cellQuery fun past => h.variableRows past profile name

/-- The sources that are read from the tables of variables and files. -/
inductive SourceKind.IsTabled : SourceKind → Prop
  | global : IsTabled .global
  | component : IsTabled .component
  | xml : IsTabled .xml

variable {kind : SourceKind} (hkind : kind.IsTabled) (ctx : StepContext) (key : String)
include hkind

theorem lookup_fixed (c : FixedCatalog) :
    (Catalog.fixed c).lookup ctx kind key = pure (.ok (c.value? ctx kind key)) := by
  cases hkind with
  | component => exact lookup_component key
  | global | xml => rfl

/-- A client that serves a catalog gives what the catalog has without its nulls. -/
theorem yields_lookup_tables {c : FixedCatalog} (h : c.Serves connection env) (config : Entries) :
    ((Catalog.tables connection config).lookup ctx kind key).Yields env
      (.ok (c.withoutNulls.value? ctx kind key)) := by
  cases hkind with
  | global => exact yields_profileVariable h config globalProfile key
  | xml =>
    have hpresent : present? ((c.files.get? key).map .str) = (c.files.get? key).map .str := by
      cases c.files.get? key <;> rfl
    change (cellQuery _ _ _).Yields env (.ok ((c.files.get? key).map .str))
    rw [← hpresent]
    exact yields_cellQuery fun past => h.fileRows past key
  | component =>
    refine (yields_profileVariable h config ctx.profile key).bind ?_
    change Act.Yields env _ (Except.ok (c.withoutNulls.tiered? ctx.profile key))
    rw [FixedCatalog.tiered?]
    cases c.withoutNulls.own? ctx.profile key with
    | some v => exact Act.yields_pure _
    | none => exact yields_profileVariable h config globalProfile key

end

/-! ## Fetching -/

/-- The part of a value at a path, or null. -/
def partOrNull (v : Option Json) (path : String) : Json :=
  (v.bind fun v => v.decodeText.at? path).getD .null

/-- What is fetched for a name, by what there is under one key: the value of the whole name, or else
the part within the value of its first segment. -/
def named (value? : String → Option Json) (name : String) : Json :=
  let part := partOrNull (value? (cutRoot name).1) (cutRoot name).2
  if (cutRoot name).2 = "" then part else ((value? name).map Json.decodeText).getD part

theorem yields_fetch {env : Surroundings} {catalog : Catalog} {ctx : StepContext}
    {kind : SourceKind} (hkind : kind.IsTabled) {value? : String → Option Json}
    (h : ∀ key, (catalog.lookup ctx kind key).Yields env (.ok (value? key))) (store : StoreHandle)
    (name : String) (overlay : Entries) :
    (Sources.fetch ⟨store, catalog⟩ ctx kind name overlay).Yields env
      (.ok (named value? name)) := by
  have hroot : ∀ root rest, (Sources.fetchRoot ⟨store, catalog⟩ ctx kind root rest).Yields env
      (.ok (partOrNull (value? root) rest)) := fun root rest =>
    (h root).bind (Act.yields_pure _)
  have hfetch : Sources.fetch ⟨store, catalog⟩ ctx kind name overlay =
      Sources.fetchNamed ⟨store, catalog⟩ ctx kind name := by
    cases hkind <;> rfl
  rw [hfetch, Sources.fetchNamed, named]
  dsimp only
  by_cases hrest : (cutRoot name).2 = ""
  · rw [if_pos hrest, if_pos hrest]
    exact hroot _ _
  · rw [if_neg hrest, if_neg hrest]
    refine (h name).bind ?_
    cases value? name with
    | some v => exact Act.yields_pure _
    | none => exact hroot _ _

/-! ## Nulls -/

theorem present?_of_ne {v : Option Json} (h : v ≠ some .null) : present? v = v := by
  cases v with
  | none => rfl
  | some v =>
    cases v with
    | null => exact absurd rfl h
    | _ => rfl

/-- There is nothing but null within a null. -/
theorem partOrNull_null (path : String) : partOrNull (some .null) path = .null := by
  change ((Json.walk? .null (pathSegments path)).getD .null) = .null
  cases pathSegments path <;> rfl

theorem partOrNull_present (v : Option Json) (path : String) :
    partOrNull (present? v) path = partOrNull v path := by
  by_cases h : v = some .null
  · subst h
    exact (partOrNull_null path).symm
  · rw [present?_of_ne h]

theorem present?_or {v w : Option Json} (h : v.or w ≠ some .null) :
    (present? v).or (present? w) = v.or w := by
  cases v with
  | none => exact present?_of_ne h
  | some v => rw [present?_of_ne (v := some v) h]; rfl

theorem partOrNull_or {v : Option Json} (h : v ≠ some .null) (w : Option Json) (path : String) :
    partOrNull ((present? v).or (present? w)) path = partOrNull (v.or w) path := by
  rw [present?_of_ne h]
  cases v with
  | none => exact partOrNull_present w path
  | some v => rfl

namespace SourceKind

/-- The profiles that are asked, in order. -/
def profiles (ctx : StepContext) : SourceKind → List String
  | global => [globalProfile]
  | component => [ctx.profile, globalProfile]
  | _ => []

/-- The variables that a name may stand for, in the order in which they are asked for. -/
def places (ctx : StepContext) (kind : SourceKind) (name : String) : List (String × String) :=
  let keys := if (cutRoot name).2 = "" then [(cutRoot name).1] else [name, (cutRoot name).1]
  keys.flatMap fun key => (kind.profiles ctx).map fun profile => (profile, key)

end SourceKind

/-- Of the variables that a name may stand for the first that there is, is null and not the last one
to be asked for. -/
def FixedCatalog.StopsAtNull (c : FixedCatalog) (ctx : StepContext) (kind : SourceKind)
    (name : String) : Prop :=
  (kind.places ctx name).dropLast.findSome? (fun p => c.own? p.1 p.2) = some .null

namespace FixedCatalog

variable {c : FixedCatalog} {ctx : StepContext} {name : String}

/-- A name of one segment stops at a null of the profile of the region. -/
theorem stopsAtNull_component (h : (cutRoot name).2 = "") : c.StopsAtNull ctx .component name ↔
    c.own? ctx.profile (cutRoot name).1 = some .null := by
  rw [StopsAtNull, SourceKind.places, if_pos h]
  change (List.findSome? _ [_] = _) ↔ _
  rw [List.findSome?_singleton]

theorem stopsAtNull_component_dotted (h : (cutRoot name).2 ≠ "") :
    c.StopsAtNull ctx .component name ↔
      (c.tiered? ctx.profile name).or (c.own? ctx.profile (cutRoot name).1) = some .null := by
  rw [StopsAtNull, SourceKind.places, if_neg h, tiered?]
  change (List.findSome? _ [_, _, _] = _) ↔ _
  simp only [List.findSome?_cons, List.findSome?_nil]
  cases c.own? ctx.profile name <;> cases c.own? globalProfile name <;>
    cases c.own? ctx.profile (cutRoot name).1 <;> rfl

theorem not_stopsAtNull_global (h : (cutRoot name).2 = "") :
    ¬c.StopsAtNull ctx .global name := by
  rw [StopsAtNull, SourceKind.places, if_pos h]
  exact nofun

theorem stopsAtNull_global_dotted (h : (cutRoot name).2 ≠ "") : c.StopsAtNull ctx .global name ↔
    c.own? globalProfile name = some .null := by
  rw [StopsAtNull, SourceKind.places, if_neg h]
  change (List.findSome? _ [_] = _) ↔ _
  rw [List.findSome?_singleton]

theorem not_stopsAtNull_xml : ¬c.StopsAtNull ctx .xml name := by
  rw [StopsAtNull, SourceKind.places]
  split <;> exact nofun

end FixedCatalog

/-- **Without its nulls a catalog has the same under a name, unless it stops at one of them**; and
there it has a null. -/
theorem named_withoutNulls (c : FixedCatalog) (ctx : StepContext) {kind : SourceKind}
    (hkind : kind.IsTabled) (name : String) :
    (c.StopsAtNull ctx kind name → named (c.value? ctx kind) name = .null) ∧
    (¬c.StopsAtNull ctx kind name →
      named (c.withoutNulls.value? ctx kind) name = named (c.value? ctx kind) name) := by
  unfold named
  dsimp only
  cases hkind with
  | xml => exact ⟨fun h => absurd h FixedCatalog.not_stopsAtNull_xml, fun _ => rfl⟩
  | global =>
    simp only [FixedCatalog.value?, FixedCatalog.own?_withoutNulls, partOrNull_present]
    by_cases hrest : (cutRoot name).2 = ""
    · exact ⟨fun h => absurd h (FixedCatalog.not_stopsAtNull_global hrest), fun _ => by
        rw [if_pos hrest, if_pos hrest]⟩
    · rw [if_neg hrest, if_neg hrest, FixedCatalog.stopsAtNull_global_dotted hrest]
      exact ⟨fun h => by rw [h]; rfl, fun h => by rw [present?_of_ne h]⟩
  | component =>
    simp only [FixedCatalog.value?, FixedCatalog.tiered?, FixedCatalog.own?_withoutNulls]
    by_cases hrest : (cutRoot name).2 = ""
    · rw [if_pos hrest, if_pos hrest, FixedCatalog.stopsAtNull_component hrest]
      exact ⟨fun h => by rw [h]; exact partOrNull_null _, fun h => partOrNull_or h _ _⟩
    · rw [if_neg hrest, if_neg hrest, FixedCatalog.stopsAtNull_component_dotted hrest,
        ← FixedCatalog.tiered?, ← FixedCatalog.tiered?]
      cases hwhole : c.tiered? ctx.profile name with
      | none =>
        -- nothing has the whole name, so that its first segment decides
        rw [FixedCatalog.tiered?] at hwhole
        rw [present?_or (by simp [hwhole]), hwhole]
        exact ⟨fun (h : c.own? ctx.profile (cutRoot name).1 = some .null) => by
          rw [FixedCatalog.tiered?, h]; exact partOrNull_null _, fun h => partOrNull_or h _ _⟩
      | some v =>
        refine ⟨fun h => by obtain rfl : v = .null := Option.some.inj h; rfl, fun h => ?_⟩
        rw [FixedCatalog.tiered?] at hwhole
        rw [present?_or (by rw [hwhole]; exact h), hwhole]
        rfl

section

variable {c : FixedCatalog} {connection : String} {env : Surroundings} {ctx : StepContext}
  {kind : SourceKind} (hkind : kind.IsTabled)
include hkind

theorem meet_fetch_fixed (d : FixedCatalog) (store : StoreHandle) (name : String)
    (overlay : Entries) (past : Trace) :
    ((Sources.fetch ⟨store, .fixed d⟩ ctx kind name overlay).meet env past).2 =
      .ok (named (d.value? ctx kind) name) :=
  yields_fetch hkind (fun key => by rw [lookup_fixed hkind]; exact Act.yields_pure _) store name
    overlay past

theorem meet_fetch_tables (h : c.Serves connection env) (config : Entries) (store : StoreHandle)
    (name : String) (overlay : Entries) (past : Trace) :
    ((Sources.fetch ⟨store, .tables connection config⟩ ctx kind name overlay).meet env past).2 =
      .ok (named (c.withoutNulls.value? ctx kind) name) :=
  yields_fetch hkind (fun key => yields_lookup_tables hkind ctx key h config) store name overlay
    past

end

/-- **From tables one fetches what the same catalog without its nulls gives.**  That is what the
catalog itself gives, unless it stops at a null: then it gives null, and the tables what there is at
a later place. -/
theorem fetch_tables {c : FixedCatalog} {connection : String} {env : Surroundings}
    (h : c.Serves connection env) {kind : SourceKind} (hkind : kind.IsTabled) (config : Entries)
    (store : StoreHandle) (ctx : StepContext) (name : String) (overlay : Entries) (past : Trace) :
    let fetched (catalog : Catalog) : Except StoreError Json :=
      ((Sources.fetch ⟨store, catalog⟩ ctx kind name overlay).meet env past).2
    (∃ v, fetched (.tables connection config) = .ok v ∧ fetched (.fixed c.withoutNulls) = .ok v) ∧
    (¬c.StopsAtNull ctx kind name →
      fetched (.tables connection config) = fetched (.fixed c)) ∧
    (c.StopsAtNull ctx kind name → fetched (.fixed c) = .ok .null) := by
  intro fetched
  have hfixed : ∀ d : FixedCatalog, fetched (.fixed d) = .ok (named (d.value? ctx kind) name) :=
    fun d => meet_fetch_fixed hkind d store name overlay past
  have htables : fetched (.tables connection config) =
      .ok (named (c.withoutNulls.value? ctx kind) name) :=
    meet_fetch_tables hkind h config store name overlay past
  obtain ⟨hstops, hpasses⟩ := named_withoutNulls c ctx hkind name
  refine ⟨⟨_, htables, hfixed _⟩, fun hnot => ?_, fun hstop => ?_⟩
  · rw [htables, hfixed, hpasses hnot]
  · rw [hfixed, hstops hstop]

/-! ## A client that serves a catalog -/

namespace FixedCatalog

/-- The rows that answer a statement. -/
def rows (c : FixedCatalog) (q : Query) : List Row :=
  match q.params with
  | [.str name] =>
    if q.sql = Catalog.fileSql then cellRows "content" ((c.files.get? name).map .str) else []
  | [.str profile, .str name] =>
    if q.sql = Catalog.variableSql then cellRows "value" (c.own? profile name) else []
  | _ => []

theorem rows_variable (c : FixedCatalog) (connection profile name : String) :
    c.rows ⟨connection, Catalog.variableSql, [.str profile, .str name]⟩ =
      cellRows "value" (c.own? profile name) := by
  unfold rows
  exact if_pos rfl

theorem rows_file (c : FixedCatalog) (connection name : String) :
    c.rows ⟨connection, Catalog.fileSql, [.str name]⟩ =
      cellRows "content" ((c.files.get? name).map .str) := by
  unfold rows
  exact if_pos rfl

/-- Surroundings in which every connection leads to the tables of a catalog. -/
def surroundings (c : FixedCatalog) : Surroundings := fun _ call =>
  match call with
  | .query q _ => .done (.ok (c.rows q))
  | call => holding [] call

theorem serves_surroundings (c : FixedCatalog) (connection : String) :
    c.Serves connection c.surroundings where
  variableRows _ profile name := by
    change Outcome.done (Except.ok (c.rows _)) = _
    rw [c.rows_variable]
  fileRows _ name := by
    change Outcome.done (Except.ok (c.rows _)) = _
    rw [c.rows_file]

end FixedCatalog

/-- A region without a limit of its own and with a cap, where the rate has a null of its own. -/
def openCatalog : FixedCatalog where
  config := []
  profiles := [("GLOBAL", [("limit", .ofNat 99), ("cap", .null), ("rate.max", .null),
      ("rate", .obj [("max", .ofNat 5)])]),
    ("apacuat", [("limit", .null), ("cap", .obj [("max", .ofNat 10)])])]
  files := []

/-- What a step in that region fetches, where the tables are those of the catalog. -/
def fetchOpen (catalog : Catalog) (kind : SourceKind) (name : String) : Except StoreError Json :=
  ((Sources.fetch ⟨.memory 0, catalog⟩
    ⟨⟨"run", "case"⟩, "apac", "uat", [], [], 1, "", 1, .null⟩ kind name []).meet
      openCatalog.surroundings []).2

/-- The cap of the region is fetched alike, before a null of the global profile is asked for. -/
theorem fetchOpen_cap :
    openCatalog.Serves "audit" openCatalog.surroundings ∧ SourceKind.component.IsTabled ∧
      fetchOpen (.tables "audit" []) .component "cap.max" =
        fetchOpen (.fixed openCatalog) .component "cap.max" ∧
      fetchOpen (.fixed openCatalog) .component "cap.max" = .ok (.ofNat 10) := by
  have hserves := openCatalog.serves_surroundings "audit"
  refine ⟨hserves, .component, ?_, by rfl⟩
  exact (fetch_tables hserves .component [] (.memory 0) _ "cap.max" [] []).2.1 (by nofun)

/-- **A null of the region hides the global value** in a catalog that is given, and does not in the
tables of the same catalog; nor does a null under the whole of a dotted name. -/
theorem fetchOpen_differs :
    openCatalog.Serves "audit" openCatalog.surroundings ∧
    (fetchOpen (.tables "audit" []) .component "limit" = .ok (.ofNat 99) ∧
      fetchOpen (.fixed openCatalog) .component "limit" = .ok .null) ∧
    (fetchOpen (.tables "audit" []) .global "rate.max" = .ok (.ofNat 5) ∧
      fetchOpen (.fixed openCatalog) .global "rate.max" = .ok .null) := by
  have hserves := openCatalog.serves_surroundings "audit"
  have htables : ∀ {kind : SourceKind}, kind.IsTabled → ∀ name,
      fetchOpen (.tables "audit" []) kind name = _ :=
    fun hkind name => meet_fetch_tables hkind hserves [] (.memory 0) name [] []
  have hfixed : ∀ {kind : SourceKind}, kind.IsTabled → ∀ name,
      fetchOpen (.fixed openCatalog) kind name = _ :=
    fun hkind name => meet_fetch_fixed hkind openCatalog (.memory 0) name [] []
  rw [htables .component, hfixed .component, htables .global, hfixed .global]
  exact ⟨hserves, ⟨rfl, rfl⟩, rfl, rfl⟩

end CaseScript

import CaseScript.Proofs.Act.Trace
import CaseScript.Proofs.Json.Reader
import CaseScript.Source.Fetch
import CaseScript.Template.Resolve

/-!
# Proofs/Source/Sorted — fetched values are sorted

Documents, rows, and the values of a configuration come with sorted objects.  Fetching takes parts
of them and reads texts, so that what it gives is sorted too (`SortedSources.resolveName`).
-/

namespace CaseScript

/-- What a catalog holds itself is sorted. -/
def Catalog.Sorted : Catalog → Prop
  | fixed c => Json.EntriesSorted c.config ∧ ∀ p ∈ c.profiles, Json.EntriesSorted p.2
  | tables _ config => Json.EntriesSorted config

/-- All that values are fetched from is sorted. -/
structure SortedSources (s : Sources) (ctx : StepContext) (env : (c : Call) → c.Answer) : Prop where
  document : ∀ slot key, Json.EntriesSorted (env (.read slot key))
  rows : ∀ q g rows, env (.query q g) = Outcome.done (.ok rows) →
    ∀ row ∈ rows, Json.EntriesSorted row
  catalog : s.catalog.Sorted
  scenario : Json.EntriesSorted ctx.scenario

namespace Json

theorem sorted_get? {es : Entries} {key : String} {v : Json} (hes : EntriesSorted es)
    (h : es.get? key = some v) : v.Sorted :=
  entriesSorted_iff.mp hes _ (Keyed.mem_of_get? h)

theorem sorted_getD_at? {v : Json} (hv : v.Sorted) (path : String) :
    ((v.at? path).getD .null).Sorted := by
  cases h : v.at? path with
  | none => trivial
  | some w => exact sorted_walk? hv h

end Json

variable {env : (c : Call) → c.Answer} {s : Sources} {ctx : StepContext} {v : Json}

theorem sorted_firstCell? {rows : List Row} (hrows : ∀ row ∈ rows, Json.EntriesSorted row)
    (h : firstCell? rows = some v) : v.Sorted := by
  unfold firstCell? at h
  split at h
  · cases h
  · obtain rfl := Option.some.inj h
    exact (hrows _ List.mem_cons_self).1
  · cases h

/-- The rows of a query are those it was answered with. -/
theorem plainQuery_answered (connection sql : String) (params : List Json) :
    (plainQuery connection sql params).answered env =
      match env (.query ⟨connection, sql, params⟩ .none) with
      | .done r => r
      | _ => .error .cancelled := by
  have hquery : (Act.query ⟨connection, sql, params⟩ .none).answered env =
      env (.query ⟨connection, sql, params⟩ .none) := rfl
  rw [plainQuery, Act.answered_bind, hquery]
  cases env (.query ⟨connection, sql, params⟩ .none) <;> rfl

/-- If something is found, it is sorted. -/
def SortedFind {ε : Type} (r : Except ε (Option Json)) : Prop := ∀ v, r = .ok (some v) → v.Sorted

theorem SortedFind.of_eq {ε : Type} {o : Option Json} (h : ∀ v, o = some v → v.Sorted) :
    SortedFind (.ok o : Except ε (Option Json)) := fun v hv => h v (Except.ok.inj hv)

namespace SortedSources

variable (h : SortedSources s ctx env)
include h

theorem cellQuery (connection sql : String) (params : List Json) :
    SortedFind ((CaseScript.cellQuery connection sql params).answered env) := by
  rw [CaseScript.cellQuery, Act.answered_bind, plainQuery_answered]
  have hrows := h.rows ⟨connection, sql, params⟩ .none
  generalize env (.query ⟨connection, sql, params⟩ .none) = answer at hrows ⊢
  rcases answer with (e | rows) | _ | _
  · exact nofun
  · exact .of_eq fun v hv => sorted_firstCell? (hrows rows rfl) hv
  · exact nofun
  · exact nofun

theorem part (handle : StoreHandle) (name : String) :
    SortedFind ((handle.part ctx.key name).answered env) := by
  cases handle with
  | table connection => exact h.cellQuery _ _ _
  | memory slot =>
    refine .of_eq fun v hv => ?_
    obtain ⟨w, hw, hrest⟩ := Option.bind_eq_some_iff.mp hv
    exact Json.sorted_walk? (Json.sorted_get? (h.document slot ctx.key) hw) hrest

theorem profileVariable (profile name : String) :
    SortedFind ((s.catalog.profileVariable profile name).answered env) := by
  have hcatalog := h.catalog
  cases hkind : s.catalog with
  | tables connection config => exact h.cellQuery _ _ _
  | fixed c =>
    rw [hkind] at hcatalog
    refine .of_eq fun v hv => ?_
    obtain ⟨es, hes, hvalue⟩ := Option.bind_eq_some_iff.mp hv
    exact Json.sorted_get? (hcatalog.2 _ (Keyed.mem_of_get? hes)) hvalue

theorem configValue (key : String) :
    SortedFind ((s.catalog.configValue key).answered env) := by
  have hcatalog := h.catalog
  cases hkind : s.catalog with
  | tables connection config =>
    rw [hkind] at hcatalog
    exact .of_eq fun v hv => Json.sorted_get? hcatalog hv
  | fixed c =>
    rw [hkind] at hcatalog
    exact .of_eq fun v hv => Json.sorted_get? hcatalog.1 hv

theorem file (name : String) : SortedFind ((s.catalog.file name).answered env) := by
  cases s.catalog with
  | tables connection config => exact h.cellQuery _ _ _
  | fixed c =>
    refine .of_eq fun v hv => ?_
    obtain ⟨text, -, rfl⟩ := Option.map_eq_some_iff.mp hv
    trivial

theorem scenarioColumn (column : String) :
    SortedFind ((s.catalog.scenarioColumn ctx column).answered env) := by
  unfold Catalog.scenarioColumn
  split
  · rename_i w hw
    exact .of_eq fun v hv => Option.some.inj hv ▸ Json.sorted_get? h.scenario hw
  · exact nofun
  · rename_i connection _ _ _
    rw [Act.answered_bind]
    have hrow := h.cellQuery connection Catalog.scenarioSql (StoreHandle.caseParams ctx.key)
    generalize (CaseScript.cellQuery connection Catalog.scenarioSql
      (StoreHandle.caseParams ctx.key)).answered env = row at hrow ⊢
    cases row with
    | error e => exact nofun
    | ok row =>
      refine .of_eq fun v hv => ?_
      obtain ⟨w, rfl, hw⟩ := Option.bind_eq_some_iff.mp hv
      cases w with
      | obj es => exact Json.sorted_get? (hrow _ rfl).2 hw
      | _ => cases hw

theorem lookup (kind : SourceKind) (key : String) :
    SortedFind ((s.catalog.lookup ctx kind key).answered env) := by
  cases kind with
  | data => exact nofun
  | config => exact h.configValue key
  | scenario => exact h.scenarioColumn key
  | xml => exact h.file key
  | global => exact h.profileVariable globalProfile key
  | component =>
    rw [Catalog.lookup, Act.answered_bind]
    have hown := h.profileVariable ctx.profile key
    generalize (s.catalog.profileVariable ctx.profile key).answered env = own at hown ⊢
    rcases own with e | _ | v
    · exact nofun
    · exact h.profileVariable globalProfile key
    · exact hown

theorem fetchRoot {kind : SourceKind} {root rest : String} {v : Json}
    (hv : (s.fetchRoot ctx kind root rest).answered env = .ok v) : v.Sorted := by
  rw [Sources.fetchRoot, Act.answered_bind] at hv
  have hfound := h.lookup kind root
  generalize (s.catalog.lookup ctx kind root).answered env = found at hfound hv
  rcases found with e | _ | w
  · cases hv
  · obtain rfl := Except.ok.inj hv
    trivial
  · obtain rfl := Except.ok.inj hv
    exact Json.sorted_getD_at? (Json.sorted_decodeText (hfound w rfl)) rest

theorem fetchNamed {kind : SourceKind} {name : String} {v : Json}
    (hv : (s.fetchNamed ctx kind name).answered env = .ok v) : v.Sorted := by
  rw [Sources.fetchNamed] at hv
  generalize cutRoot name = cut at hv
  obtain ⟨root, rest⟩ := cut
  dsimp only at hv
  split at hv
  · exact h.fetchRoot hv
  · rw [Act.answered_bind] at hv
    have hfound := h.lookup kind name
    generalize (s.catalog.lookup ctx kind name).answered env = found at hfound hv
    rcases found with e | _ | w
    · cases hv
    · exact h.fetchRoot hv
    · obtain rfl := Except.ok.inj hv
      exact Json.sorted_decodeText (hfound w rfl)

theorem fetchData {name : String} {overlay : Entries} {v : Json}
    (hoverlay : Json.EntriesSorted overlay)
    (hv : (s.fetchData ctx name overlay).answered env = .ok v) : v.Sorted := by
  rw [Sources.fetchData] at hv
  generalize cutRoot name = cut at hv
  obtain ⟨root, rest⟩ := cut
  dsimp only at hv
  split at hv
  · rename_i w hw
    obtain rfl := Except.ok.inj hv
    obtain ⟨u, hu, hrest⟩ := Option.bind_eq_some_iff.mp hw
    exact Json.sorted_walk? (Json.sorted_get? hoverlay hu) hrest
  · rw [Act.answered_bind] at hv
    have hfound := h.part s.store name
    generalize (s.store.part ctx.key name).answered env = found at hfound hv
    rcases found with e | _ | w
    · cases hv
    · obtain rfl := Except.ok.inj hv
      trivial
    · obtain rfl := Except.ok.inj hv
      exact hfound w rfl

/-- **The value of a name is sorted.** -/
theorem resolveName {scope : Scope} {name : String} {v : Json}
    (hscope : Json.EntriesSorted scope.data)
    (hv : (s.resolveName ctx scope name).answered env = .ok v) : v.Sorted := by
  rw [Sources.resolveName, Act.answered_bind] at hv
  cases hfetch : (s.fetch ctx (sourceOf ctx scope name) name scope.data).answered env with
  | error e => rw [hfetch] at hv; cases hv
  | ok w =>
    rw [hfetch] at hv
    obtain rfl := Except.ok.inj hv
    cases hkind : sourceOf ctx scope name with
    | data => exact h.fetchData hscope (hkind ▸ hfetch)
    | _ => exact h.fetchNamed (hkind ▸ hfetch)

end SortedSources

end CaseScript

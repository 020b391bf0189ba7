import CaseScript.Act.World
import CaseScript.Proofs.Json.Path
import CaseScript.Source.Fetch

/-!
# Proofs/Store/Paths — a document is a value like any other

A path is walked segment by segment, so a path joined from two leads where the second one leads from
the end of the first (`Json.at?_joined`).  The store and the sources cut a name only once, at its
first dot, and look its root up as it stands; unless the root is empty that is the same walk, from
the document as a whole (`Store.valueAt?_eq_at?`).
-/

namespace CaseScript

namespace Json

theorem at?_joined (v : Json) (p q : String) :
    v.at? (p ++ "." ++ q) = (v.at? p).bind fun w => w.at? q := by
  have hjoined : p ++ "." ++ q = String.ofList (p.toList ++ '.' :: q.toList) := by
    refine String.toList_inj.mp ?_
    simp
  rw [hjoined, at?_dot, String.ofList_toList, String.ofList_toList]

/-- A key without a dot is a path to its entry. -/
theorem at?_key {key : List Char} (hne : key ≠ []) (hdot : '.' ∉ key) (es : Entries) :
    (Json.obj es).at? (String.ofList key) = es.get? (String.ofList key) := by
  have hsegments : pathSegments (String.ofList key) = [String.ofList key] := by
    rw [pathSegments, String.toList_ofList, Text.splitOn_eq_singleton hdot]
    simp [hne]
  rw [at?, hsegments, walk?, child?]
  cases Keyed.get? (String.ofList key) es <;> rfl

end Json

/-- **A document is walked as a whole**, unless the path begins with an empty segment: that one is
skipped on a walk, and to the store it is a key. -/
theorem Store.valueAt?_eq_at? {path : String} (h : rootOf path ≠ "") (document : Entries) :
    Store.valueAt? document path = (Json.obj document).at? path := by
  rw [Store.valueAt?, cutRoot]
  rw [rootOf] at h
  by_cases hdot : '.' ∈ path.toList
  · obtain ⟨root, rest, hcut, hroot⟩ := Text.exists_cutAt? hdot
    have hpath : path = String.ofList (root ++ '.' :: rest) := by
      rw [← Text.cutAt?_eq_some hcut, String.ofList_toList]
    rw [hcut] at h ⊢
    have hne : root ≠ [] := fun hempty => h (by rw [hempty])
    have hwhole := Json.at?_dot (.obj document) root rest
    rw [← hpath, Json.at?_key hne hroot] at hwhole
    exact hwhole.symm
  · rw [Text.cutAt?_eq_none hdot] at h ⊢
    have hne : path.toList ≠ [] := fun hempty => h (String.toList_inj.mp hempty)
    have hkey := Json.at?_key hne hdot document
    rw [String.ofList_toList] at hkey
    rw [hkey]
    exact Option.bind_fun_some (document.get? path)

/-- What the overlay lacks is looked up in the document. -/
theorem Sources.run_fetchData {s : Sources} {slot : Slot} (hstore : s.store = .memory slot)
    (ctx : StepContext) (name : String) (overlay : Entries) (o : Outside) (w : World) :
    (s.fetchData ctx name overlay).run o w =
      (.ok (((Store.valueAt? overlay name).or
        (Store.valueAt? (w.stores slot ctx.key) name)).getD .null), w) := by
  rw [fetchData, hstore, Store.valueAt?]
  generalize cutRoot name = cut
  obtain ⟨root, rest⟩ := cut
  dsimp only
  cases (overlay.get? root).bind fun v => v.at? rest with
  | some v => rfl
  | none => rfl

/-- **Walking a path composes.**  A path that is joined from two at a dot leads where the second one
leads from the end of the first.  So the store in memory finds under a path what is there in the
document as a whole, and a name of the test data is a path into the overlay, or else into the
document; both if the path does not begin with an empty segment. -/
theorem part_walked :
    (∀ (v : Json) (p q : String), v.at? (p ++ "." ++ q) = (v.at? p).bind fun w => w.at? q) ∧
      ∀ (slot : Slot) (o : Outside) (w : World) (path : String), rootOf path ≠ "" →
        (∀ key : CaseKey, ((StoreHandle.memory slot).part key path).run o w =
          (.ok ((Json.obj (w.stores slot key)).at? path), w)) ∧
        ∀ (s : Sources) (ctx : StepContext) (overlay : Entries), s.store = .memory slot →
          (s.fetch ctx .data path overlay).run o w =
            (.ok ((((Json.obj overlay).at? path).or
              ((Json.obj (w.stores slot ctx.key)).at? path)).getD .null), w) := by
  refine ⟨Json.at?_joined, fun slot o w path hpath => ⟨fun key => ?_, ?_⟩⟩
  · rw [← Store.valueAt?_eq_at? hpath]
    rfl
  · intro s ctx overlay hstore
    rw [← Store.valueAt?_eq_at? hpath, ← Store.valueAt?_eq_at? hpath]
    exact Sources.run_fetchData hstore ctx path overlay o w

/-- An item of an order, two segments and an empty one below the root of its path. -/
theorem part_walked_item :
    let document : Entries := [("order", .obj [("items", .arr [.str "ink", .str "pen"])])]
    let ctx : StepContext := ⟨⟨"run", "case"⟩, "", "", [], [], 1, "", 1, .null⟩
    let w := World.start.setStore 0 (Store.empty.set ctx.key document)
    let o : Outside := ⟨fun _ _ => ⟨false, 0, .error .cancelled⟩, fun _ _ => ⟨false, 0, .ok []⟩⟩
    let s : Sources := ⟨.memory 0, .fixed ⟨[], [], []⟩⟩
    rootOf "order..items.1" ≠ "" ∧ s.store = .memory 0 ∧
      ((StoreHandle.memory 0).part ctx.key "order..items.1").run o w = (.ok (some (.str "pen")), w) ∧
      (s.fetch ctx .data "order..items.1" []).run o w = (.ok (.str "pen"), w) := by
  intro document ctx w o s
  have hpath : rootOf "order..items.1" ≠ "" := by decide
  obtain ⟨hpart, hfetch⟩ := part_walked.2 0 o w "order..items.1" hpath
  have hitem : (Json.obj (w.stores 0 ctx.key)).at? "order..items.1" = some (.str "pen") := by rfl
  refine ⟨hpath, rfl, ?_, ?_⟩
  · rw [hpart, hitem]
  · rw [hfetch s ctx [] rfl, hitem]
    rfl

end CaseScript

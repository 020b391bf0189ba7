import CaseScript.Proofs.Act.Trace
import CaseScript.Proofs.Json.Path
import CaseScript.Template.Resolve

/-!
# Proofs/Source/Dotted — a dotted name is a path into the value of its beginning

If a name and a longer one that continues it behind a dot are **read from one place**, the value of
the longer one is the part of the other's value at what follows the dot (`resolveName_dot`).  One
place means one source, whose catalog has no entry for the longer name as a whole, or one document
of test data.
-/

namespace CaseScript

/-- What is cut off a longer name leads on from what is cut off its beginning. -/
theorem cutRoot_dot (name path : List Char) :
    (cutRoot (String.ofList (name ++ '.' :: path))).1 = (cutRoot (String.ofList name)).1 ∧
      ∀ v : Json, v.at? (cutRoot (String.ofList (name ++ '.' :: path))).2 =
        (v.at? (cutRoot (String.ofList name)).2).bind fun w => w.at? (String.ofList path) := by
  unfold cutRoot
  rw [String.toList_ofList, String.toList_ofList, Text.cutAt?_append]
  cases Text.cutAt? '.' name with
  | none => exact ⟨rfl, fun v => rfl⟩
  | some cut => exact ⟨rfl, fun v => Json.at?_dot v cut.2 path⟩

theorem valueAt?_dot (document : Entries) (name path : List Char) :
    Store.valueAt? document (String.ofList (name ++ '.' :: path)) =
      (Store.valueAt? document (String.ofList name)).bind fun w => w.at? (String.ofList path) := by
  obtain ⟨hroot, hrest⟩ := cutRoot_dot name path
  rw [Store.valueAt?, Store.valueAt?]
  generalize cutRoot (String.ofList (name ++ '.' :: path)) = longer at hroot hrest
  generalize cutRoot (String.ofList name) = cut at hroot hrest
  obtain ⟨root, rest⟩ := longer
  obtain rfl : root = cut.1 := hroot
  dsimp only
  cases document.get? cut.1 with
  | none => rfl
  | some v => exact hrest v

/-- Nothing is within nothing. -/
theorem at?_null_getD (path : String) : (Json.null.at? path).getD .null = .null := by
  rw [Json.at?]
  cases pathSegments path <;> rfl

theorem getD_bind_at? (v : Option Json) (path : String) :
    (v.bind fun w => w.at? path).getD .null = ((v.getD .null).at? path).getD .null := by
  cases v with
  | none => exact (at?_null_getD path).symm
  | some w => rfl

section

variable (s : Sources) (ctx : StepContext) (env : (c : Call) → c.Answer)

/-- The store answers for a name as its part of a document says. -/
def StoreHandle.Reads (h : StoreHandle) (key : CaseKey) (env : (c : Call) → c.Answer)
    (document : Entries) (name : String) : Prop :=
  ∃ v, (h.part key name).answered env = .ok v ∧
    v.getD .null = (Store.valueAt? document name).getD .null

/-- Test data in memory is one document. -/
theorem StoreHandle.reads_memory (slot : Slot) (key : CaseKey) (name : String) :
    (StoreHandle.memory slot).Reads key env (env (.read slot key)) name :=
  ⟨_, rfl, rfl⟩

/-- A name and a longer one are read from one place. -/
structure OnePlace (name longer : String) : Prop where
  source : sourceOf ctx .none longer = sourceOf ctx .none name
  stored : sourceOf ctx .none name = .data → ∃ document,
    s.store.Reads ctx.key env document name ∧ s.store.Reads ctx.key env document longer
  listed : sourceOf ctx .none name ≠ .data →
    ((s.catalog.lookup ctx (sourceOf ctx .none name) longer).answered env = .ok none ∧
      ((cutRoot name).2 = "" ∨
        (s.catalog.lookup ctx (sourceOf ctx .none name) name).answered env = .ok none))

end

variable {s : Sources} {ctx : StepContext} {env : (c : Call) → c.Answer}

/-- Names of test data in memory are read from one place. -/
theorem OnePlace.of_memory {slot : Slot} {name longer : String} (hstore : s.store = .memory slot)
    (hname : sourceOf ctx .none name = .data) (hlonger : sourceOf ctx .none longer = .data) :
    OnePlace s ctx env name longer where
  source := hlonger.trans hname.symm
  stored _ := by
    rw [hstore]
    exact ⟨_, StoreHandle.reads_memory env slot ctx.key name,
      StoreHandle.reads_memory env slot ctx.key longer⟩
  listed h := absurd hname h

theorem fetchData_of_reads {document : Entries} {name : String}
    (h : s.store.Reads ctx.key env document name) :
    (s.fetchData ctx name []).answered env =
      .ok ((Store.valueAt? document name).getD .null) := by
  obtain ⟨v, hv, hsame⟩ := h
  rw [Sources.fetchData]
  change ((s.store.part ctx.key name) >>= _).answered env = _
  rw [Act.answered_bind, hv, ← hsame]
  rfl

/-- A name that is no entry of its own is looked up by its first segment. -/
theorem fetchNamed_of_unlisted {kind : SourceKind} {name : String}
    (h : (cutRoot name).2 = "" ∨ (s.catalog.lookup ctx kind name).answered env = .ok none) :
    (s.fetchNamed ctx kind name).answered env =
      (s.fetchRoot ctx kind (cutRoot name).1 (cutRoot name).2).answered env := by
  rw [Sources.fetchNamed]
  generalize cutRoot name = cut at h ⊢
  obtain ⟨root, rest⟩ := cut
  dsimp only at h ⊢
  by_cases hrest : rest = ""
  · rw [if_pos hrest]
  · rw [if_neg hrest, Act.answered_bind, h.resolve_left hrest]

theorem fetchRoot_answered (kind : SourceKind) (root rest : String) :
    (s.fetchRoot ctx kind root rest).answered env =
      ((s.catalog.lookup ctx kind root).answered env).map fun v =>
        (v.bind fun v => v.decodeText.at? rest).getD .null := by
  rw [Sources.fetchRoot, Act.answered_bind]
  cases (s.catalog.lookup ctx kind root).answered env <;> rfl

theorem resolveName_eq_ok {name : String} {v : Json} :
    (s.resolveName ctx .none name).answered env = .ok v ↔
      (s.fetch ctx (sourceOf ctx .none name) name []).answered env = .ok v := by
  rw [Sources.resolveName]
  change ((s.fetch ctx (sourceOf ctx .none name) name []) >>= _).answered env = _ ↔ _
  rw [Act.answered_bind]
  cases (s.fetch ctx (sourceOf ctx .none name) name []).answered env with
  | ok w => exact ⟨fun h => congrArg Except.ok (Except.ok.inj h),
      fun h => congrArg Except.ok (Except.ok.inj h)⟩
  | error e => exact ⟨nofun, nofun⟩

theorem fetch_of_ne_data {kind : SourceKind} (h : kind ≠ .data) (name : String)
    (overlay : Entries) : s.fetch ctx kind name overlay = s.fetchNamed ctx kind name := by
  cases kind with
  | data => exact absurd rfl h
  | _ => rfl

/-- **A name that continues another behind a dot is a path into its value**, if both are read from
one place. -/
theorem resolveName_dot {name path : List Char} {v : Json}
    (hplace : OnePlace s ctx env (String.ofList name) (String.ofList (name ++ '.' :: path)))
    (h : (s.resolveName ctx .none (String.ofList name)).answered env = .ok v) :
    (s.resolveName ctx .none (String.ofList (name ++ '.' :: path))).answered env =
      .ok ((v.at? (String.ofList path)).getD .null) := by
  rw [resolveName_eq_ok] at h ⊢
  rw [hplace.source]
  by_cases hdata : sourceOf ctx .none (String.ofList name) = .data
  · obtain ⟨document, hname, hlonger⟩ := hplace.stored hdata
    rw [hdata] at h ⊢
    have hv := (fetchData_of_reads hname).symm.trans h
    obtain rfl := Except.ok.inj hv
    rw [← getD_bind_at?, ← valueAt?_dot]
    exact fetchData_of_reads hlonger
  · obtain ⟨hlonger, hname⟩ := hplace.listed hdata
    obtain ⟨hroot, hrest⟩ := cutRoot_dot name path
    rw [fetch_of_ne_data hdata] at h ⊢
    rw [fetchNamed_of_unlisted hname, fetchRoot_answered] at h
    rw [fetchNamed_of_unlisted (.inr hlonger), fetchRoot_answered, hroot]
    generalize (s.catalog.lookup ctx (sourceOf ctx .none (String.ofList name))
      (cutRoot (String.ofList name)).1).answered env = found at h ⊢
    cases found with
    | error e => cases h
    | ok u =>
      obtain rfl := Except.ok.inj h
      have hpart : (fun w : Json =>
            w.decodeText.at? (cutRoot (String.ofList (name ++ '.' :: path))).2) =
          fun w => (w.decodeText.at? (cutRoot (String.ofList name)).2).bind fun w =>
            w.at? (String.ofList path) := funext fun w => hrest w.decodeText
      rw [← getD_bind_at?, Option.bind_assoc, Except.map, hpart]

end CaseScript

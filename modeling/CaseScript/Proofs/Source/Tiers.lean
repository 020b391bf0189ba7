import CaseScript.Proofs.Text.Search
import CaseScript.Source.Fetch

/-!
# Proofs/Source/Tiers — the profile of the region before the global one

A variable of a component is one of the profile of the region and environment, or else of the global
profile.  A dotted name can be supplied in two ways, as a variable of that name or within the
variable of its first segment, and both profiles are asked for the one before either is asked for
the other.  So what the region's profile supplies is fetched **unless** it supplies the name within
its first segment only and the global profile has a variable of the whole name
(`fetch_component_supplied`).  A variable with its only dot at the end of its name is not found.
-/

namespace CaseScript

/-- The first segment of a name has no further segments. -/
theorem cutRoot_root (name : String) : cutRoot (cutRoot name).1 = ((cutRoot name).1, "") := by
  cases hcut : Text.cutAt? '.' name.toList with
  | none =>
    have hname : cutRoot name = (name, "") := by rw [cutRoot, hcut]
    rw [hname, hname]
  | some cut =>
    obtain ⟨front, back⟩ := cut
    have hname : cutRoot name = (String.ofList front, String.ofList back) := by rw [cutRoot, hcut]
    have hmem : '.' ∈ name.toList := by simp [Text.cutAt?_eq_some hcut]
    obtain ⟨front', back', hcut', hdot⟩ := Text.exists_cutAt? hmem
    obtain rfl : front' = front := congrArg Prod.fst (Option.some.inj (hcut'.symm.trans hcut))
    rw [hname, cutRoot, String.toList_ofList, Text.cutAt?_eq_none hdot]

namespace FixedCatalog

variable (c : FixedCatalog)

/-- The variable of a profile. -/
def own? (profile name : String) : Option Json :=
  (c.profiles.get? profile).bind (Keyed.get? name)

/-- The variable of a profile, or else of the global one. -/
def tiered? (profile name : String) : Option Json :=
  (c.own? profile name).or (c.own? globalProfile name)

/-- What a profile alone supplies for a name: its variable of that name, or else what the rest of
the name leads to within its variable of the first segment. -/
def supplied? (profile name : String) : Option Json :=
  ((c.own? profile name).map Json.decodeText).or
    ((c.own? profile (cutRoot name).1).bind fun v => v.decodeText.at? (cutRoot name).2)

/-- A profile's say on a name is final: a name of more segments is a variable of the profile or
else none of the global one, and a variable of the profile with no more segments has no dot at its
end. -/
def Settles (profile name : String) : Prop :=
  if (cutRoot name).2 = "" then (c.own? profile name).isSome → (cutRoot name).1 = name
  else (c.own? profile name).isSome ∨ c.own? globalProfile name = none

variable {c} {profile name : String}

theorem tiered?_of_eq_some {v : Json} (h : c.own? profile name = some v) :
    c.tiered? profile name = some v := by
  rw [tiered?, h]
  rfl

theorem tiered?_of_eq_none (h : c.own? profile name = none) :
    c.tiered? profile name = c.own? globalProfile name := by
  rw [tiered?, h]
  rfl

theorem supplied?_of_eq_some {v : Json} (h : c.own? profile name = some v) :
    c.supplied? profile name = some v.decodeText := by
  rw [supplied?, h]
  rfl

theorem supplied?_of_eq_none (h : c.own? profile name = none) : c.supplied? profile name =
    (c.own? profile (cutRoot name).1).bind fun v => v.decodeText.at? (cutRoot name).2 := by
  rw [supplied?, h]
  rfl

end FixedCatalog

/-! ## Fetching -/

section

variable {c : FixedCatalog} {ctx : StepContext} (store : StoreHandle)

/-- One key is looked up in the region's profile and then in the global one. -/
theorem lookup_component (key : String) :
    (Catalog.fixed c).lookup ctx .component key = pure (.ok (c.tiered? ctx.profile key)) := by
  have hvariable : ∀ profile, (Catalog.fixed c).profileVariable profile key =
      pure (.ok (c.own? profile key)) := fun _ => rfl
  rw [Catalog.lookup, hvariable, hvariable, FixedCatalog.tiered?]
  cases c.own? ctx.profile key <;> rfl

/-- The value within the variable of the first segment; null, if there is none. -/
theorem fetchRoot_component (root rest : String) :
    Sources.fetchRoot ⟨store, .fixed c⟩ ctx .component root rest =
      pure (.ok
        (((c.tiered? ctx.profile root).bind fun v => v.decodeText.at? rest).getD .null)) := by
  rw [Sources.fetchRoot, lookup_component]
  rfl

/-- **What is fetched for a component**, without any call: the variable of the whole name, or else
what there is within the variable of its first segment. -/
theorem fetch_component (name : String) (overlay : Entries) :
    Sources.fetch ⟨store, .fixed c⟩ ctx .component name overlay =
      pure (.ok (
        let within := ((c.tiered? ctx.profile (cutRoot name).1).bind fun v =>
          v.decodeText.at? (cutRoot name).2).getD .null
        if (cutRoot name).2 = "" then within
        else ((c.tiered? ctx.profile name).map Json.decodeText).getD within)) := by
  change Sources.fetchNamed ⟨store, .fixed c⟩ ctx .component name = _
  rw [Sources.fetchNamed]
  dsimp only
  rw [fetchRoot_component]
  by_cases hrest : (cutRoot name).2 = ""
  · rw [if_pos hrest, if_pos hrest]
  · rw [if_neg hrest, if_neg hrest, lookup_component]
    cases c.tiered? ctx.profile name <;> rfl

theorem fetch_component_of_settles {name : String} {v : Json}
    (h : c.supplied? ctx.profile name = some v) (hsettles : c.Settles ctx.profile name)
    (overlay : Entries) :
    Sources.fetch ⟨store, .fixed c⟩ ctx .component name overlay = pure (.ok v) := by
  rw [fetch_component]
  unfold FixedCatalog.Settles at hsettles
  cases hown : c.own? ctx.profile name with
  | some w =>
    rw [FixedCatalog.supplied?_of_eq_some hown] at h
    obtain rfl := Option.some.inj h
    by_cases hrest : (cutRoot name).2 = ""
    · rw [if_pos hrest] at hsettles
      rw [if_pos hrest, hsettles (Option.isSome_of_eq_some hown), hrest,
        FixedCatalog.tiered?_of_eq_some hown]
      rfl
    · rw [if_neg hrest, FixedCatalog.tiered?_of_eq_some hown]
      rfl
  | none =>
    rw [FixedCatalog.supplied?_of_eq_none hown] at h
    obtain ⟨w, hroot, hw⟩ := Option.bind_eq_some_iff.mp h
    have hwithin : ((c.tiered? ctx.profile (cutRoot name).1).bind fun v =>
        v.decodeText.at? (cutRoot name).2).getD .null = v := by
      rw [FixedCatalog.tiered?_of_eq_some hroot, Option.bind_some, hw]
      rfl
    by_cases hrest : (cutRoot name).2 = ""
    · rw [if_pos hrest, hwithin]
    · -- no profile has a variable of the whole name
      rw [if_neg hrest, hown] at hsettles
      rw [if_neg hrest, FixedCatalog.tiered?_of_eq_none hown,
        hsettles.resolve_left Bool.false_ne_true, Option.map_none, Option.getD_none, hwithin]

/-- **The profile of the region wins over the global one** in what it settles, whatever the global
profile has.  A longer name that it supplies within its first segment only is taken from the global
profile, if that has a variable of the whole name; and a dot behind which nothing follows is
dropped. -/
theorem fetch_component_supplied {name : String} {v : Json}
    (h : c.supplied? ctx.profile name = some v) (overlay : Entries) :
    let fetched (name : String) := Sources.fetch ⟨store, .fixed c⟩ ctx .component name overlay
    (c.Settles ctx.profile name → fetched name = pure (.ok v)) ∧
    (∀ g, (cutRoot name).2 ≠ "" → c.own? ctx.profile name = none →
      c.own? globalProfile name = some g → fetched name = pure (.ok g.decodeText)) ∧
    ((cutRoot name).2 = "" → fetched name = fetched (cutRoot name).1) := by
  intro fetched
  have hfetched : ∀ name, fetched name = _ := fun name => fetch_component store name overlay
  refine ⟨fun hsettles => ?_, fun g hrest hown hglobal => ?_, fun hrest => ?_⟩
  · exact fetch_component_of_settles store h hsettles overlay
  · rw [hfetched, if_neg hrest, FixedCatalog.tiered?_of_eq_none hown, hglobal]
    rfl
  · rw [hfetched, hfetched, cutRoot_root, if_pos hrest, if_pos rfl, hrest]

end

/-- A limit of the region, and a global one under the whole name. -/
def limitCatalog : FixedCatalog where
  config := []
  profiles := [("GLOBAL", [("limit.max", .ofNat 99)]),
    ("apacuat", [("limit", .obj [("max", .ofNat 10), ("min", .ofNat 1)]), ("rate.", .ofNat 5)])]
  files := []

/-- What a step fetches in that region. -/
def fetchLimit (name : String) : Act (Except StoreError Json) :=
  Sources.fetch ⟨.memory 0, .fixed limitCatalog⟩
    ⟨⟨"run", "case"⟩, "apac", "uat", [], [], 1, "", 1, .null⟩ .component name []

theorem fetchLimit_min :
    limitCatalog.supplied? "apacuat" "limit.min" = some (.ofNat 1) ∧
      limitCatalog.Settles "apacuat" "limit.min" ∧
      fetchLimit "limit.min" = pure (.ok (.ofNat 1)) := by
  have hsupplied : limitCatalog.supplied? "apacuat" "limit.min" = some (.ofNat 1) := rfl
  have hsettles : limitCatalog.Settles "apacuat" "limit.min" := .inr rfl
  exact ⟨hsupplied, hsettles, (fetch_component_supplied _ hsupplied []).1 hsettles⟩

/-- The region's limit is supplied, but the global one is fetched; and a variable with a dot at its
end is not found. -/
theorem fetchLimit_overruled :
    (limitCatalog.supplied? "apacuat" "limit.max" = some (.ofNat 10) ∧
      fetchLimit "limit.max" = pure (.ok (.ofNat 99))) ∧
    (limitCatalog.supplied? "apacuat" "rate." = some (.ofNat 5) ∧
      fetchLimit "rate." = pure (.ok .null)) :=
  ⟨⟨rfl, rfl⟩, rfl, rfl⟩

end CaseScript

import CaseScript.Step.Executor
import Mathlib.Data.List.Nodup

/-!
# Proofs/Step/Addresses — the address of a service in any order of its profiles

Profiles are configured under names, and no order of them is promised.  The address of a service is
the first among those that compete for the profile (`Settings.rivals`): the ones under its name in
any case, or the global ones if there is none.  In another order any of these may be the first
(`Settings.exists_order`), so the order does not matter just if they are all the same
(`Settings.baseUrl?_orders`).
-/

namespace CaseScript

theorem sameLetters_iff {a b : String} :
    sameLetters a b = true ↔ Text.lowerAscii a.toList = Text.lowerAscii b.toList :=
  decide_eq_true_iff

namespace Settings

/-- The addresses of the profiles with a name, in any case. -/
def urlsUnder (name : String) (profiles : Keyed String) : List String :=
  (profiles.filter fun e => sameLetters e.1 name).map (·.2)

/-- The addresses that compete for a profile: those under its name, or else the global ones. -/
def rivals (profile : String) (profiles : Keyed String) : List String :=
  if urlsUnder profile profiles = [] then urlsUnder globalProfile profiles
  else urlsUnder profile profiles

/-- The settings have these profiles for a service, in some order. -/
def Lists (s : Settings) (service : String) (profiles : Keyed String) : Prop :=
  ∃ order, s.baseUrls.get? service = some order ∧ order.Perm profiles

/-- No two profiles have names that differ only in case. -/
def Distinct (profiles : Keyed String) : Prop :=
  (profiles.map fun e => Text.lowerAscii e.1.toList).Nodup

instance (profiles : Keyed String) : Decidable (Distinct profiles) :=
  inferInstanceAs (Decidable (List.Nodup _))

variable {s t : Settings} {service profile name : String} {profiles order : Keyed String}

/-! ## One order -/

theorem urlsUnder_head? (name : String) (profiles : Keyed String) :
    (urlsUnder name profiles).head? =
      (profiles.find? fun e => sameLetters e.1 name).map (·.2) := by
  rw [urlsUnder, List.head?_map, List.head?_filter]

/-- The address of a service is the first that competes. -/
theorem baseUrl?_eq_head? (h : s.baseUrls.get? service = some order) :
    s.baseUrl? service profile = (rivals profile order).head? := by
  rw [baseUrl?, h, Option.bind_some]
  dsimp only
  rw [← urlsUnder_head?, ← urlsUnder_head?, rivals]
  split
  · rename_i hnone
    rw [hnone]
    rfl
  · rename_i hsome
    obtain ⟨url, urls, hurls⟩ := List.exists_cons_of_ne_nil hsome
    rw [hurls]
    rfl

/-! ## All orders -/

theorem perm_urlsUnder (h : order.Perm profiles) (name : String) :
    (urlsUnder name order).Perm (urlsUnder name profiles) :=
  (h.filter _).map _

theorem perm_rivals (h : order.Perm profiles) (profile : String) :
    (rivals profile order).Perm (rivals profile profiles) := by
  have hnone : urlsUnder profile order = [] ↔ urlsUnder profile profiles = [] := by
    rw [← List.length_eq_zero_iff, ← List.length_eq_zero_iff, (perm_urlsUnder h profile).length_eq]
  unfold rivals
  by_cases hempty : urlsUnder profile profiles = []
  · rw [if_pos (hnone.mpr hempty), if_pos hempty]
    exact perm_urlsUnder h globalProfile
  · rw [if_neg (mt hnone.mp hempty), if_neg hempty]
    exact perm_urlsUnder h profile

/-- A profile that is put first is the first of its name. -/
theorem exists_order_urlsUnder {url : String} (h : url ∈ urlsUnder name profiles) :
    ∃ order, order.Perm profiles ∧ (urlsUnder name order).head? = some url := by
  obtain ⟨e, he, rfl⟩ := List.mem_map.mp h
  obtain ⟨hmem, hname⟩ := List.mem_filter.mp he
  obtain ⟨front, back, rfl⟩ := List.append_of_mem hmem
  refine ⟨e :: (front ++ back), List.perm_middle.symm, ?_⟩
  simp [urlsUnder, hname]

/-- **Whatever competes is the first in some order.** -/
theorem exists_order {url : String} (h : url ∈ rivals profile profiles) :
    ∃ order, order.Perm profiles ∧ (rivals profile order).head? = some url := by
  rw [rivals] at h
  split at h
  · rename_i hnone
    obtain ⟨order, horder, hfirst⟩ := exists_order_urlsUnder h
    have hstill : urlsUnder profile order = [] :=
      List.perm_nil.mp (hnone ▸ perm_urlsUnder horder profile)
    exact ⟨order, horder, by rwa [rivals, if_pos hstill]⟩
  · obtain ⟨order, horder, hfirst⟩ := exists_order_urlsUnder h
    have hsome : urlsUnder profile order ≠ [] := fun hnone => by simp [hnone] at hfirst
    exact ⟨order, horder, by rwa [rivals, if_neg hsome]⟩

theorem Lists.exists_eq_head? (h : s.Lists service profiles) (profile : String) :
    ∃ order : Keyed String, order.Perm profiles ∧
      s.baseUrl? service profile = (rivals profile order).head? := by
  obtain ⟨order, hlisted, horder⟩ := h
  exact ⟨order, horder, baseUrl?_eq_head? hlisted⟩

/-- Any order is that of some settings. -/
theorem exists_lists (service profile : String) (h : order.Perm profiles) :
    ∃ s : Settings, s.Lists service profiles ∧
      s.baseUrl? service profile = (rivals profile order).head? := by
  let s : Settings := ⟨0, [(service, order)]⟩
  have hlisted : s.baseUrls.get? service = some order := if_pos rfl
  exact ⟨s, ⟨order, hlisted, h⟩, baseUrl?_eq_head? hlisted⟩

/-- The answers for a service, over all orders of its profiles. -/
theorem exists_lists_iff (answer : Option String) :
    (∃ s : Settings, s.Lists service profiles ∧ s.baseUrl? service profile = answer) ↔
      match answer with
      | some url => url ∈ rivals profile profiles
      | none => rivals profile profiles = [] := by
  constructor
  · rintro ⟨s, hs, rfl⟩
    obtain ⟨order, horder, hanswer⟩ := hs.exists_eq_head? profile
    have hsame := perm_rivals horder profile
    rw [hanswer]
    cases hrivals : rivals profile order with
    | nil => exact List.nil_perm.mp (hrivals ▸ hsame)
    | cons url urls => exact hsame.subset (hrivals ▸ List.mem_cons_self)
  · intro h
    cases answer with
    | none =>
      obtain ⟨s, hs, hanswer⟩ := exists_lists service profile (.refl profiles)
      exact ⟨s, hs, hanswer.trans (List.head?_eq_none_iff.mpr h)⟩
    | some url =>
      obtain ⟨order, horder, hfirst⟩ := exists_order h
      obtain ⟨s, hs, hanswer⟩ := exists_lists service profile horder
      exact ⟨s, hs, hanswer.trans hfirst⟩

/-! ## When the order does not matter -/

/-- A service has one address for a profile in every order of its profiles. -/
def OrderFree (service profile : String) (profiles : Keyed String) : Prop :=
  ∀ s t : Settings, s.Lists service profiles → t.Lists service profiles →
    s.baseUrl? service profile = t.baseUrl? service profile

theorem orderFree_iff : OrderFree service profile profiles ↔
    ∀ url ∈ rivals profile profiles, ∀ url' ∈ rivals profile profiles, url = url' := by
  constructor
  · intro h url hurl url' hurl'
    obtain ⟨s, hs, hanswer⟩ := (exists_lists_iff (some url)).mpr hurl
    obtain ⟨t, ht, hanswer'⟩ := (exists_lists_iff (some url')).mpr hurl'
    exact Option.some.inj (hanswer.symm.trans ((h s t hs ht).trans hanswer'))
  · intro h s t hs ht
    have hsome : ∀ {s t : Settings}, s.Lists service profiles → t.Lists service profiles →
        ∀ {url}, s.baseUrl? service profile = some url →
          t.baseUrl? service profile = some url := by
      intro s t hs ht url hurl
      have hmem : url ∈ rivals profile profiles := (exists_lists_iff (some url)).mp ⟨s, hs, hurl⟩
      cases hurl' : t.baseUrl? service profile with
      | none =>
        have hnone : rivals profile profiles = [] := (exists_lists_iff none).mp ⟨t, ht, hurl'⟩
        exact absurd (hnone ▸ hmem) List.not_mem_nil
      | some url' =>
        have hmem' : url' ∈ rivals profile profiles :=
          (exists_lists_iff (some url')).mp ⟨t, ht, hurl'⟩
        exact congrArg some (h url' hmem' url hmem)
    exact Option.ext fun url => ⟨hsome hs ht, hsome ht hs⟩

/-- What has one name has it in one case, if no two names differ only in case. -/
theorem Distinct.eq_of_mem_urlsUnder (h : Distinct profiles) {url url' : String}
    (hurl : url ∈ urlsUnder name profiles) (hurl' : url' ∈ urlsUnder name profiles) :
    url = url' := by
  obtain ⟨e, he, rfl⟩ := List.mem_map.mp hurl
  obtain ⟨f, hf, rfl⟩ := List.mem_map.mp hurl'
  obtain ⟨hemem, hename⟩ := List.mem_filter.mp he
  obtain ⟨hfmem, hfname⟩ := List.mem_filter.mp hf
  have hsame := (sameLetters_iff.mp hename).trans (sameLetters_iff.mp hfname).symm
  exact congrArg Prod.snd (List.inj_on_of_nodup_map h hemem hfmem hsame)

theorem Distinct.eq_of_mem_rivals (h : Distinct profiles) {url url' : String}
    (hurl : url ∈ rivals profile profiles) (hurl' : url' ∈ rivals profile profiles) :
    url = url' := by
  rw [rivals] at hurl hurl'
  split at hurl
  · rw [if_pos ‹_›] at hurl'
    exact h.eq_of_mem_urlsUnder hurl hurl'
  · rw [if_neg ‹_›] at hurl'
    exact h.eq_of_mem_urlsUnder hurl hurl'

/-- **The address of a service is one of those that compete for the profile**, and over all orders
of the profiles each of them: the addresses under the name of the profile in any case, or else the
global ones, or else none.  So the order does not matter just if these are all the same, and it does
not if no two names differ only in case. -/
theorem baseUrl?_orders (service profile : String) (profiles : Keyed String) :
    (∀ answer,
      (∃ s : Settings, s.Lists service profiles ∧ s.baseUrl? service profile = answer) ↔
        match answer with
        | some url => url ∈ rivals profile profiles
        | none => rivals profile profiles = []) ∧
      (OrderFree service profile profiles ↔
        ∀ url ∈ rivals profile profiles, ∀ url' ∈ rivals profile profiles, url = url') ∧
      (Distinct profiles → OrderFree service profile profiles) :=
  ⟨exists_lists_iff, orderFree_iff, fun h =>
    orderFree_iff.mpr fun _ hurl _ hurl' => h.eq_of_mem_rivals hurl hurl'⟩

/-- A profile and the global one stand in either order. -/
theorem ordersUat_orderFree :
    let profiles : Keyed String := [("apacuat", "http://uat"), ("GLOBAL", "http://global")]
    Distinct profiles ∧ rivals "APACUAT" profiles = ["http://uat"] ∧
      OrderFree "orders" "APACUAT" profiles := by
  intro profiles
  have hdistinct : Distinct profiles := by decide
  exact ⟨hdistinct, by decide, (baseUrl?_orders "orders" "APACUAT" profiles).2.2 hdistinct⟩

/-- Names that differ in case are different names: which of two such profiles gives the address
depends on their order, and a global profile in small letters counts as one. -/
theorem ordersUat_swapped :
    let profiles : Keyed String := [("apacuat", "http://small"), ("APACUAT", "http://capital")]
    let listed : Settings := ⟨0, [("orders", profiles)]⟩
    let swapped : Settings := ⟨0, [("orders", profiles.reverse)]⟩
    let small : Settings := ⟨0, [("orders", [("global", "http://any")])]⟩
    profiles.keys.Nodup ∧ listed.baseUrl? "orders" "apacuat" = some "http://small" ∧
      swapped.baseUrl? "orders" "apacuat" = some "http://capital" ∧
      ¬OrderFree "orders" "apacuat" profiles ∧
      small.baseUrl? "orders" "emeaprod" = some "http://any" := by
  intro profiles listed swapped small
  have hsmall : listed.baseUrl? "orders" "apacuat" = some "http://small" := by decide
  have hcapital : swapped.baseUrl? "orders" "apacuat" = some "http://capital" := by decide
  have hboth : ¬OrderFree "orders" "apacuat" profiles := by
    intro h
    have hsame := h listed swapped ⟨profiles, rfl, .refl profiles⟩
      ⟨profiles.reverse, rfl, List.reverse_perm profiles⟩
    rw [hsmall, hcapital] at hsame
    exact absurd hsame (by decide)
  exact ⟨by decide, hsmall, hcapital, hboth, by decide⟩

end Settings

end CaseScript

import CaseScript.Proofs.Check.Membership
import CaseScript.Proofs.Json.Part

/-!
# Proofs/Check/Parts — equality at one place and elsewhere

Values that are alike are so at the end of every route (`Equals.part`), and stay so when values that
are alike are put there (`Equals.put`).  So two values are alike **just if they are at the end of a
route, and everywhere else**, whatever is put at its end on both sides (`equals_iff_part`).
-/

namespace CaseScript

variable {l r x y : Json} {route : Route}

/-! ## One segment -/

theorem equals_obj_iff_get? {es fs : Entries} (hes : es.keys.Nodup) :
    Equals (.obj es) (.obj fs) ↔ (∀ k, k ∈ es.keys ↔ k ∈ fs.keys) ∧
      ∀ (k : String) (v w : Json), es.get? k = some v → fs.get? k = some w → Equals v w := by
  constructor
  · intro h
    cases h with
    | ignored hi => exact Bool.noConfusion hi
    | scalars hs => exact Bool.noConfusion hs
    | objects hkeys hentries =>
      exact ⟨hkeys, fun k v w hv hw => hentries (k, v) (Keyed.mem_of_get? hv) w hw⟩
  · rintro ⟨hkeys, hvalues⟩
    exact .objects hkeys fun e he w hw => hvalues e.1 e.2 w (Keyed.get?_of_mem hes he) hw

theorem nodup_keys {es : Entries} (h : (Json.obj es).Sorted) : es.keys.Nodup :=
  h.1.imp String.ne_of_lt

theorem keys_insert_of_mem {es : Entries} {k : String} (h : k ∈ es.keys) (v : Json) (k' : String) :
    k' ∈ (es.insert k v).keys ↔ k' ∈ es.keys := by
  rw [Keyed.mem_keys_insert]
  exact ⟨fun hk => hk.elim (fun hsame => hsame ▸ h) id, .inr⟩

theorem Equals.next {s : Segment} {v w : Json} (h : Equals l r) (hl : l.Sorted)
    (hv : l.next? s = some v) (hw : r.next? s = some w) : Equals v w := by
  match l, r, s with
  | .obj es, .obj fs, .key k => exact ((equals_obj_iff_get? (nodup_keys hl)).mp h).2 k v w hv hw
  | .arr vs, .arr ws, .index i => exact (equals_arr_iff.mp h).2 i v w hv hw
  | .obj _, .arr _, .key _ | .arr _, .obj _, .index _ => cases hw

/-- Parts that are alike may be put in the place of parts. -/
theorem Equals.setNext {s : Segment} {v w v' w' : Json} (h : Equals l r) (hl : l.Sorted)
    (hv : l.next? s = some v) (hw : r.next? s = some w) (h' : Equals v' w') :
    Equals (l.setNext s v') (r.setNext s w') := by
  match l, r, s with
  | .obj es, .obj fs, .key k =>
    obtain ⟨hkeys, hvalues⟩ := (equals_obj_iff_get? (nodup_keys hl)).mp h
    have hes : k ∈ Keyed.keys es := List.mem_map_of_mem (Keyed.mem_of_get? hv)
    have hfs : k ∈ Keyed.keys fs := (hkeys k).mp hes
    have hnodup : (Keyed.insert k v' es).keys.Nodup :=
      (Keyed.increasing_insert hl.1).imp String.ne_of_lt
    refine (equals_obj_iff_get? hnodup).mpr ⟨fun k' => ?_, fun k' a b ha hb => ?_⟩
    · rw [keys_insert_of_mem hes, keys_insert_of_mem hfs, hkeys]
    · by_cases hsame : k' = k
      · subst hsame
        rw [Keyed.get?_insert_self] at ha hb
        obtain rfl := Option.some.inj ha
        obtain rfl := Option.some.inj hb
        exact h'
      · rw [Keyed.get?_insert_of_ne _ _ hsame] at ha hb
        exact hvalues k' a b ha hb
  | .arr vs, .arr ws, .index i =>
    obtain ⟨hlength, hitems⟩ := equals_arr_iff.mp h
    refine equals_arr_iff.mpr ⟨by simpa using hlength, fun j a b ha hb => ?_⟩
    rw [List.getElem?_set] at ha hb
    by_cases hsame : i = j
    · subst hsame
      obtain ⟨hi, -⟩ := List.getElem?_eq_some_iff.mp hv
      obtain ⟨hi', -⟩ := List.getElem?_eq_some_iff.mp hw
      rw [if_pos rfl, if_pos hi] at ha
      rw [if_pos rfl, if_pos hi'] at hb
      obtain rfl := Option.some.inj ha
      obtain rfl := Option.some.inj hb
      exact h'
    · rw [if_neg hsame] at ha hb
      exact hitems j a b ha hb
  | .obj _, .arr _, .key _ | .arr _, .obj _, .index _ => cases hw

/-! ## Routes -/

/-- **Values that are alike are so at the end of every route.** -/
theorem Equals.part (h : Equals l r) (hl : l.Sorted) (hx : l.part? route = some x)
    (hy : r.part? route = some y) : Equals x y := by
  induction route generalizing l r with
  | nil =>
    obtain rfl := Option.some.inj hx
    obtain rfl := Option.some.inj hy
    exact h
  | cons s route ih =>
    obtain ⟨v, hv, hx⟩ := Json.part?_cons_eq_some.mp hx
    obtain ⟨w, hw, hy⟩ := Json.part?_cons_eq_some.mp hy
    exact ih (h.next hl hv hw) (Json.sorted_next? hl hv) hx hy

/-- **Values that are alike stay so when values that are alike are put at the end of a route.** -/
theorem Equals.put {z z' : Json} (h : Equals l r) (hl : l.Sorted) (hx : l.part? route = some x)
    (hy : r.part? route = some y) (hz : Equals z z') : Equals (l.put route z) (r.put route z') := by
  induction route generalizing l r with
  | nil => exact hz
  | cons s route ih =>
    obtain ⟨v, hv, hx⟩ := Json.part?_cons_eq_some.mp hx
    obtain ⟨w, hw, hy⟩ := Json.part?_cons_eq_some.mp hy
    rw [Json.put_cons hv, Json.put_cons hw]
    exact h.setNext hl hv hw (ih (h.next hl hv hw) (Json.sorted_next? hl hv) hx hy)

theorem equals_null : Equals .null .null := .scalars rfl rfl

/-- **Equality is equality at the end of a route, and everywhere else.** -/
theorem equals_iff_part (hl : l.Sorted) (hr : r.Sorted) (hx : l.part? route = some x)
    (hy : r.part? route = some y) :
    Equals l r ↔ Equals x y ∧ Equals (l.put route .null) (r.put route .null) := by
  refine ⟨fun h => ⟨h.part hl hx hy, h.put hl hx hy equals_null⟩, fun ⟨hpart, helse⟩ => ?_⟩
  have hback := helse.put (Json.sorted_put hl hx trivial) (Json.part?_put hx _)
    (Json.part?_put hy _) hpart
  rwa [Json.put_put hx, Json.put_put hy, Json.put_part hl hx, Json.put_part hr hy] at hback

end CaseScript

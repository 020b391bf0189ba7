import CaseScript.Proofs.Json.Sorted

/-!
# Proofs/Json/Part — the part of a value at the end of a route

A **route** is a list of keys and indexes, each of which leads from a value to one of its parts.
What is put at the end of a route is found there (`part?_put`), of two values put there the later
stays (`put_put`), and a part that is put back changes nothing (`put_part`).
-/

namespace CaseScript

namespace Keyed

variable {α : Type}

theorem insert_of_get? {es : Keyed α} (hes : es.Increasing) {key : String} {v : α}
    (h : es.get? key = some v) : es.insert key v = es := by
  induction es with
  | nil => cases h
  | cons e es ih =>
    obtain ⟨k, w⟩ := e
    obtain ⟨hfirst, hrest⟩ := List.pairwise_cons.mp hes
    rw [get?] at h
    by_cases hkey : k = key
    · subst hkey
      rw [if_pos rfl] at h
      obtain rfl := Option.some.inj h
      rw [insert, if_neg (String.lt_irrefl k), if_pos rfl]
    · rw [if_neg hkey] at h
      have hlater : k < key := hfirst key (List.mem_map_of_mem (mem_of_get? h))
      rw [insert, if_neg (String.lt_asymm hlater), if_neg (Ne.symm hkey), ih hrest h]

end Keyed

/-- What leads from a value to one of its parts. -/
inductive Segment where
  | key (k : String)
  | index (i : Nat)
deriving DecidableEq, Repr

/-- Segments that lead on one after another. -/
abbrev Route := List Segment

namespace Json

/-- The part that a segment leads to. -/
def next? : Json → Segment → Option Json
  | .obj es, .key k => Keyed.get? k es
  | .arr vs, .index i => vs[i]?
  | _, _ => none

/-- The value with another part where a segment leads to. -/
def setNext : Json → Segment → Json → Json
  | .obj es, .key k, w => .obj (Keyed.insert k w es)
  | .arr vs, .index i, w => .arr (vs.set i w)
  | v, _, _ => v

/-- The part at the end of a route. -/
def part? : Json → Route → Option Json
  | v, [] => some v
  | v, s :: route =>
    match v.next? s with
    | some w => w.part? route
    | none => none

/-- The value with another part at the end of a route, if the route leads anywhere. -/
def put : Json → Route → Json → Json
  | _, [], z => z
  | v, s :: route, z =>
    match v.next? s with
    | some w => v.setNext s (w.put route z)
    | none => v

variable {v w x : Json} {s : Segment} {route : Route}

theorem part?_cons_eq_some :
    v.part? (s :: route) = some x ↔ ∃ w, v.next? s = some w ∧ w.part? route = some x := by
  rw [part?]
  cases v.next? s <;> simp

theorem put_cons (h : v.next? s = some w) (z : Json) :
    v.put (s :: route) z = v.setNext s (w.put route z) := by
  rw [put, h]

/-! ## One segment -/

theorem next?_setNext (h : v.next? s = some w) (u : Json) : (v.setNext s u).next? s = some u := by
  match v, s with
  | .obj es, .key k => exact Keyed.get?_insert_self es k u
  | .arr vs, .index i =>
    obtain ⟨hi, -⟩ := List.getElem?_eq_some_iff.mp h
    exact List.getElem?_set_self hi

theorem setNext_setNext (u u' : Json) : (v.setNext s u).setNext s u' = v.setNext s u' := by
  match v, s with
  | .obj es, .key k => exact congrArg Json.obj (Keyed.insert_insert_self es k u u')
  | .arr vs, .index i => exact congrArg Json.arr (List.set_set u)
  | .null, _ | .bool _, _ | .num _, _ | .str _, _ | .obj _, .index _ | .arr _, .key _ => rfl

theorem setNext_next (hv : v.Sorted) (h : v.next? s = some w) : v.setNext s w = v := by
  match v, s with
  | .obj es, .key k => exact congrArg Json.obj (Keyed.insert_of_get? hv.1 h)
  | .arr vs, .index i =>
    obtain ⟨hi, rfl⟩ := List.getElem?_eq_some_iff.mp h
    exact congrArg Json.arr (List.set_getElem_self hi)

theorem sorted_next? (hv : v.Sorted) (h : v.next? s = some w) : w.Sorted := by
  match v, s with
  | .obj es, .key k => exact entriesSorted_iff.mp hv.2 _ (Keyed.mem_of_get? h)
  | .arr vs, .index i => exact allSorted_iff.mp hv w (List.mem_of_getElem? h)

theorem sorted_setNext {u : Json} (hv : v.Sorted) (hu : u.Sorted) : (v.setNext s u).Sorted := by
  match v, s with
  | .obj es, .key k =>
    refine ⟨Keyed.increasing_insert hv.1, entriesSorted_iff.mpr fun e he => ?_⟩
    obtain rfl | he := Keyed.mem_insert he
    · exact hu
    · exact entriesSorted_iff.mp hv.2 e he
  | .arr vs, .index i =>
    refine allSorted_iff.mpr fun w hw => ?_
    obtain hw | rfl := List.mem_or_eq_of_mem_set hw
    · exact allSorted_iff.mp hv w hw
    · exact hu
  | .null, _ | .bool _, _ | .num _, _ | .str _, _ | .obj _, .index _ | .arr _, .key _ => exact hv

/-! ## Routes -/

/-- **What is put at the end of a route is found there.** -/
theorem part?_put (h : v.part? route = some x) (z : Json) :
    (v.put route z).part? route = some z := by
  induction route generalizing v with
  | nil => rfl
  | cons s route ih =>
    obtain ⟨w, hw, hx⟩ := part?_cons_eq_some.mp h
    rw [put_cons hw]
    exact part?_cons_eq_some.mpr ⟨_, next?_setNext hw _, ih hx⟩

/-- **Of two values put in one place the later stays.** -/
theorem put_put (h : v.part? route = some x) (y z : Json) :
    (v.put route y).put route z = v.put route z := by
  induction route generalizing v with
  | nil => rfl
  | cons s route ih =>
    obtain ⟨w, hw, hx⟩ := part?_cons_eq_some.mp h
    rw [put_cons hw, put_cons hw, put_cons (next?_setNext hw _), setNext_setNext, ih hx]

/-- **A part that is put back changes nothing.** -/
theorem put_part (hv : v.Sorted) (h : v.part? route = some x) : v.put route x = v := by
  induction route generalizing v with
  | nil => exact (Option.some.inj h).symm
  | cons s route ih =>
    obtain ⟨w, hw, hx⟩ := part?_cons_eq_some.mp h
    rw [put_cons hw, ih (sorted_next? hv hw) hx, setNext_next hv hw]

/-- What every segment keeps holds at the end of a route. -/
theorem part?_of_next? {P : Json → Prop} (hnext : ∀ {v s w}, P v → v.next? s = some w → P w)
    (hv : P v) (h : v.part? route = some x) : P x := by
  induction route generalizing v with
  | nil =>
    obtain rfl := Option.some.inj h
    exact hv
  | cons s route ih =>
    obtain ⟨w, hw, hx⟩ := part?_cons_eq_some.mp h
    exact ih (hnext hv hw) hx

theorem sorted_part? (hv : v.Sorted) (h : v.part? route = some x) : x.Sorted :=
  part?_of_next? sorted_next? hv h

theorem sorted_put (hv : v.Sorted) (h : v.part? route = some x) {z : Json} (hz : z.Sorted) :
    (v.put route z).Sorted := by
  induction route generalizing v with
  | nil => exact hz
  | cons s route ih =>
    obtain ⟨w, hw, hx⟩ := part?_cons_eq_some.mp h
    rw [put_cons hw]
    exact sorted_setNext hv (ih (sorted_next? hv hw) hx)

end Json

end CaseScript

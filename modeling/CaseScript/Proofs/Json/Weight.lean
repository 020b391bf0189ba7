import CaseScript.Proofs.Json.Decoded
import CaseScript.Proofs.Json.Sorted
import CaseScript.Proofs.Json.Within
import Mathlib.Algebra.Order.BigOperators.Group.List
import Mathlib.Algebra.Order.Ring.Nat
import Mathlib.Data.List.Nodup

/-!
# Proofs/Json/Weight — quotation marks and backslashes of a value, counted

In the strings and the keys of a value a quotation mark weighs one and a backslash two.  The reader
loses nothing and adds nothing: a document weighs what its tokens weigh (`Reader.weight_run`).  A
value weighs what its document weighs, but for objects that name a key twice, of which the last entry
is kept (`Node.weight_toJson?`).
-/

namespace CaseScript

/-! ## Characters and strings -/

/-- What a character of a string weighs: a backslash two, a quotation mark one. -/
def markWeight (c : Char) : Nat := if c = '\\' then 2 else if c = '"' then 1 else 0

/-- What the characters of a string weigh. -/
def marksWeight (cs : List Char) : Nat := (cs.map markWeight).sum

@[simp] theorem marksWeight_cons (c : Char) (cs : List Char) :
    marksWeight (c :: cs) = markWeight c + marksWeight cs :=
  List.sum_cons

@[simp] theorem marksWeight_reverse (cs : List Char) : marksWeight cs.reverse = marksWeight cs := by
  rw [marksWeight, List.map_reverse, List.sum_reverse]
  rfl

/-- A character beyond the first 128 weighs nothing, and a number that belongs to no character stands
for one that weighs nothing. -/
theorem markWeight_ofNat {n : Nat} (h : 0x80 ≤ n) : markWeight (Char.ofNat n) = 0 := by
  have hne : ∀ c : Char, c.toNat < 0x80 → c.toNat ≠ 0 → Char.ofNat n ≠ c := by
    rintro c hc hzero rfl
    by_cases hvalid : n.isValidChar
    · have hcode : (Char.ofNat n).toNat = n := by
        rw [Char.ofNat, dif_pos hvalid]
        rfl
      omega
    · rw [Char.ofNat, dif_neg hvalid] at hzero
      exact hzero rfl
  rw [markWeight, if_neg (hne _ (by decide) (by decide)), if_neg (hne _ (by decide) (by decide))]

/-- What a string weighs. -/
def stringWeight (s : String) : Nat := marksWeight s.toList

/-! ## Values -/

namespace Json

/-- What the strings and the keys of a value weigh. -/
def weight (v : Json) : Nat :=
  (v.strings.map stringWeight).sum + (v.keysWithin.map stringWeight).sum

/-- What an entry weighs. -/
def entryWeight (e : String × Json) : Nat := stringWeight e.1 + e.2.weight

theorem weight_arr (items : List Json) : (arr items).weight = (items.map weight).sum := by
  induction items with
  | nil => rfl
  | cons v vs ih =>
    rw [List.map_cons, List.sum_cons, ← ih]
    simp only [weight, strings, keysWithin, stringsOfItems, keysOfItems, List.map_append,
      List.sum_append]
    omega

theorem weight_obj (entries : List (String × Json)) :
    (obj entries).weight = (entries.map entryWeight).sum := by
  induction entries with
  | nil => rfl
  | cons e es ih =>
    obtain ⟨k, v⟩ := e
    rw [List.map_cons, List.sum_cons, ← ih]
    simp only [weight, entryWeight, strings, keysWithin, stringsOfEntries, keysOfEntries,
      List.map_append, List.map_cons, List.sum_append, List.sum_cons]
    omega

theorem weight_obj_ofPairs_le (pairs : List (String × Json)) :
    (obj (Keyed.ofPairs pairs)).weight ≤ (obj pairs).weight := by
  obtain ⟨kept, hperm, hsub⟩ := Keyed.subperm_ofPairs pairs
  rw [weight_obj, weight_obj, ← (hperm.map entryWeight).sum_eq]
  exact (hsub.map entryWeight).sum_le_sum fun _ _ => Nat.zero_le _

theorem weight_obj_ofPairs {pairs : List (String × Json)} (h : (Keyed.keys pairs).Nodup) :
    (obj (Keyed.ofPairs pairs)).weight = (obj pairs).weight := by
  rw [weight_obj, weight_obj, ((Keyed.perm_ofPairs h).map entryWeight).sum_eq]

end Json

/-! ## Nodes -/

namespace Node

mutual

/-- What the strings and the keys of a node weigh. -/
def weight : Node → Nat
  | .str s => stringWeight s
  | .scalar s => (s.value?.map Json.weight).getD 0
  | .seq _ items => weightOfItems items
  | .map entries => weightOfEntries entries
  | _ => 0

/-- What the items of a sequence weigh. -/
def weightOfItems : List Node → Nat
  | [] => 0
  | n :: ns => weight n + weightOfItems ns

/-- What the entries of a map weigh. -/
def weightOfEntries : List (Node × Node) → Nat
  | [] => 0
  | (k, n) :: es =>
    ((keyText? false k).map stringWeight).getD 0 + weight n + weightOfEntries es

end

mutual

/-- No map names a key twice, here and in every part. -/
def OncePerKey : Node → Prop
  | .seq _ items => AllOncePerKey items
  | .map entries => (entries.map fun e => keyText? false e.1).Nodup ∧ EntriesOncePerKey entries
  | _ => True

/-- No map of the items names a key twice. -/
def AllOncePerKey : List Node → Prop
  | [] => True
  | n :: ns => n.OncePerKey ∧ AllOncePerKey ns

/-- No map of the entries names a key twice. -/
def EntriesOncePerKey : List (Node × Node) → Prop
  | [] => True
  | (_, n) :: es => n.OncePerKey ∧ EntriesOncePerKey es

end

/-- What an entry of a map weighs. -/
def entryWeight (e : Node × Node) : Nat :=
  ((keyText? false e.1).map stringWeight).getD 0 + e.2.weight

theorem weightOfItems_eq (ns : List Node) : weightOfItems ns = (ns.map weight).sum := by
  induction ns with
  | nil => rfl
  | cons n ns ih => rw [weightOfItems, ih, List.map_cons, List.sum_cons]

theorem weightOfEntries_eq (es : List (Node × Node)) :
    weightOfEntries es = (es.map entryWeight).sum := by
  induction es with
  | nil => rfl
  | cons e es ih =>
    rw [weightOfEntries, ih, List.map_cons, List.sum_cons]
    rfl

@[simp] theorem weightOfItems_reverse (ns : List Node) :
    weightOfItems ns.reverse = weightOfItems ns := by
  rw [weightOfItems_eq, weightOfItems_eq, List.map_reverse, List.sum_reverse]

@[simp] theorem weightOfEntries_reverse (es : List (Node × Node)) :
    weightOfEntries es.reverse = weightOfEntries es := by
  rw [weightOfEntries_eq, weightOfEntries_eq, List.map_reverse, List.sum_reverse]

theorem keys_of_toPairs? {entries : List (Node × Node)} {ps : List (String × Json)}
    (h : toPairs? false entries = some ps) :
    entries.map (fun e => keyText? false e.1) = (Keyed.keys ps).map some := by
  induction entries generalizing ps with
  | nil =>
    obtain rfl := Option.some.inj h
    rfl
  | cons e es ih =>
    obtain ⟨k, n⟩ := e
    rw [toPairs?] at h
    split at h
    · rename_i key v rest hkey hvalue hrest
      obtain rfl := Option.some.inj h
      rw [List.map_cons, ih hrest, hkey]
      rfl
    · cases h

mutual

/-- **A value weighs no more than its node, and as much if no key is named twice.** -/
theorem weight_toJson? : ∀ (n : Node) {v : Json}, toJson? false n = some v →
    v.weight ≤ n.weight ∧ (n.OncePerKey → v.weight = n.weight)
  | .null, v, h | .bool _, v, h | .num _, v, h => by
    obtain rfl := Option.some.inj h
    exact ⟨Nat.le_refl _, fun _ => rfl⟩
  | .str s, v, h => by
    obtain rfl := Option.some.inj h
    exact ⟨Nat.le_refl _, fun _ => rfl⟩
  | .scalar s, v, h => by
    have hvalue : (Node.scalar s).weight = v.weight := by
      rw [weight, show s.value? = some v from h]
      rfl
    exact ⟨hvalue.ge, fun _ => hvalue.symm⟩
  | .seq _ items, v, h => by
    obtain ⟨vs, hvs, rfl⟩ := Option.map_eq_some_iff.mp h
    rw [Json.weight_arr]
    exact weight_toItems? items hvs
  | .map entries, v, h => by
    obtain ⟨ps, hps, rfl⟩ := Option.map_eq_some_iff.mp h
    obtain ⟨hle, heq⟩ := weight_toPairs? entries hps
    refine ⟨(Json.weight_obj_ofPairs_le ps).trans hle, fun ⟨hnodup, hentries⟩ => ?_⟩
    rw [keys_of_toPairs? hps] at hnodup
    rw [Json.weight_obj_ofPairs (List.Nodup.of_map _ hnodup)]
    exact heq hentries
  | .tagged _, _, h | .broken, _, h => by cases h

theorem weight_toItems? : ∀ (ns : List Node) {vs : List Json}, toItems? false ns = some vs →
    (vs.map Json.weight).sum ≤ weightOfItems ns ∧
      (AllOncePerKey ns → (vs.map Json.weight).sum = weightOfItems ns)
  | [], vs, h => by
    obtain rfl := Option.some.inj h
    exact ⟨Nat.le_refl _, fun _ => rfl⟩
  | n :: ns, vs, h => by
    rw [toItems?] at h
    split at h
    · rename_i w ws hw hws
      obtain rfl := Option.some.inj h
      obtain ⟨hle, heq⟩ := weight_toJson? n hw
      obtain ⟨hles, heqs⟩ := weight_toItems? ns hws
      rw [List.map_cons, List.sum_cons, weightOfItems]
      exact ⟨Nat.add_le_add hle hles, fun ⟨hn, hns⟩ => by rw [heq hn, heqs hns]⟩
    · cases h

theorem weight_toPairs? : ∀ (es : List (Node × Node)) {ps : List (String × Json)},
    toPairs? false es = some ps → (Json.obj ps).weight ≤ weightOfEntries es ∧
      (EntriesOncePerKey es → (Json.obj ps).weight = weightOfEntries es)
  | [], ps, h => by
    obtain rfl := Option.some.inj h
    exact ⟨Nat.le_refl _, fun _ => rfl⟩
  | (k, n) :: es, ps, h => by
    rw [toPairs?] at h
    split at h
    · rename_i key w ws hkey hw hws
      obtain rfl := Option.some.inj h
      obtain ⟨hle, heq⟩ := weight_toJson? n hw
      obtain ⟨hles, heqs⟩ := weight_toPairs? es hws
      have hcons : (Json.obj ((key, w) :: ws)).weight =
          stringWeight key + w.weight + (Json.obj ws).weight := by
        rw [Json.weight_obj, Json.weight_obj]
        rfl
      rw [hcons, weightOfEntries, hkey]
      exact ⟨Nat.add_le_add (Nat.add_le_add_left hle _) hles,
        fun ⟨hn, hes⟩ => by rw [heq hn, heqs hes]; rfl⟩
    · cases h

end

end Node

/-! ## Tokens -/

namespace Token

/-- What a token weighs: a mark nothing. -/
def weight : Token → Nat
  | .mark _ => 0
  | .value n => n.weight

/-- What tokens weigh. -/
def weightOfAll (ts : List Token) : Nat := (ts.map weight).sum

theorem weightOfAll_append (ts us : List Token) :
    weightOfAll (ts ++ us) = weightOfAll ts + weightOfAll us := by
  rw [weightOfAll, List.map_append, List.sum_append]
  rfl

end Token

namespace Reader

/-- Whether the value of an entry is due or begun, so that its key counts. -/
@[simp] def Stage.keyed : Stage → Bool
  | .value | .firstItem | .colon => true
  | _ => false

/-- What a complete document weighs; nothing before. -/
@[simp] def Stage.weight : Stage → Nat
  | .done n => n.weight
  | _ => 0

/-- What an open container weighs; `keyed` if the last key counts. -/
@[simp] def Open.weight (keyed : Bool) : Open → Nat
  | .items rev => Node.weightOfItems rev
  | .entries rev key => (if keyed then stringWeight key else 0) + Node.weightOfEntries rev

/-- What the open containers weigh.  Only the innermost can be between two entries. -/
@[simp] def stackWeight (keyed : Bool) : List Open → Nat
  | [] => 0
  | o :: rest => o.weight keyed + stackWeight true rest

/-- What has been read weighs. -/
def weight (state : Stage × List Open) : Nat :=
  state.1.weight + stackWeight state.1.keyed state.2

/-- A container whose first part is due is empty, and behind a document nothing is open. -/
def Coherent : Stage × List Open → Prop
  | (.firstItem, .items rev :: _) => rev = []
  | (.firstKey, .entries rev _ :: _) => rev = []
  | (.done _, stack) => stack = []
  | _ => True

theorem coherent_place (n : Node) (stack : List Open) : Coherent (place n stack) := by
  match stack with
  | [] => rfl
  | .items _ :: _ | .entries _ _ :: _ => trivial

theorem weight_place (n : Node) (stack : List Open) :
    weight (place n stack) = n.weight + stackWeight true stack := by
  match stack with
  | [] => rfl
  | .items rev :: rest =>
    simp [place, weight, Node.weightOfItems, Nat.add_assoc]
  | .entries rev key :: rest =>
    simp only [place, weight, Stage.weight, Stage.keyed, stackWeight, Open.weight, if_true,
      Bool.false_eq_true, if_false, Node.weightOfEntries, Node.keyText?, Option.map_some,
      Option.getD_some]
    omega

/-- Where a value is due, all that is open counts. -/
theorem Stage.TakesValue.weight_eq {stage : Stage} (hdue : stage.TakesValue) (stack : List Open) :
    Reader.weight (stage, stack) = stackWeight true stack := by
  obtain rfl | rfl := hdue <;> exact Nat.zero_add _

/-- **A token adds its weight to what has been read.** -/
theorem weight_step {state next : Stage × List Open} {t : Token} (hcoherent : Coherent state)
    (h : Step state t next) : Coherent next ∧ weight next = weight state + t.weight := by
  cases h with
  | value n stack hdue =>
    refine ⟨coherent_place n stack, ?_⟩
    rw [weight_place, hdue.weight_eq, Nat.add_comm]
    rfl
  | key rev last k rest hdue =>
    refine ⟨trivial, ?_⟩
    obtain rfl | rfl := hdue <;>
      simp only [weight, Stage.weight, Stage.keyed, stackWeight, Open.weight, if_true,
        Bool.false_eq_true, if_false, Token.weight, Node.weight] <;> omega
  | openItems stack hdue | openEntries stack hdue =>
    refine ⟨rfl, ?_⟩
    rw [hdue.weight_eq]
    simp [weight, Token.weight, Node.weightOfItems, Node.weightOfEntries]
  | closeFirstItem _ rest | closeFirstEntry _ _ rest =>
    -- nothing was read behind the opening mark
    obtain rfl := hcoherent
    refine ⟨coherent_place _ rest, ?_⟩
    rw [weight_place]
    simp [weight, Token.weight, Node.weight, Node.weightOfItems, Node.weightOfEntries]
  | colon => exact ⟨trivial, rfl⟩
  | nextItem | nextEntry =>
    refine ⟨trivial, ?_⟩
    simp [weight, Token.weight]
  | closeItems _ rest | closeEntries _ _ rest =>
    refine ⟨coherent_place _ rest, ?_⟩
    rw [weight_place]
    simp [weight, Token.weight, Node.weight]

/-- **What has been read weighs what the tokens weigh.** -/
theorem weight_run {state last : Stage × List Open} {ts : List Token} (hcoherent : Coherent state)
    (h : run? state ts = some last) :
    Coherent last ∧ weight last = weight state + Token.weightOfAll ts := by
  induction ts generalizing state with
  | nil =>
    obtain rfl := Option.some.inj h
    exact ⟨hcoherent, rfl⟩
  | cons t ts ih =>
    rw [run?] at h
    split at h
    · rename_i next hstep
      obtain ⟨hnext, hweight⟩ := weight_step hcoherent (step_of_step? hstep)
      obtain ⟨hlast, hrest⟩ := ih hnext h
      rw [hrest, hweight, Nat.add_assoc]
      exact ⟨hlast, rfl⟩
    · cases h

end Reader

end CaseScript

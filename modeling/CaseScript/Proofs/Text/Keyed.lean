import CaseScript.Json.Basic
import CaseScript.Text.NameSet

/-!
# Proofs/Text/Keyed — sorted entries and sets of names

Entries that are **sorted** already are what `Keyed.ofPairs` builds from them, and what it builds is
always sorted.  What `insert` puts under a key is found there, and other keys keep what they have.
`nameSet` keeps every name.
-/

namespace CaseScript

theorem mem_insertName {a name : String} {names : List String} :
    a ∈ insertName name names ↔ a = name ∨ a ∈ names := by
  induction names with
  | nil => simp [insertName]
  | cons n ns ih =>
    unfold insertName
    split
    · exact List.mem_cons
    · split
      · rename_i hsame
        subst hsame
        simp
      · rw [List.mem_cons, ih, List.mem_cons]
        exact or_left_comm

@[simp] theorem mem_nameSet {a : String} {names : List String} : a ∈ nameSet names ↔ a ∈ names := by
  induction names with
  | nil => exact Iff.rfl
  | cons n ns ih =>
    change a ∈ insertName n (nameSet ns) ↔ a ∈ n :: ns
    rw [mem_insertName, ih, List.mem_cons]

theorem nameSet_eq_nil {names : List String} : nameSet names = [] ↔ names = [] := by
  simp only [List.eq_nil_iff_forall_not_mem, mem_nameSet]

namespace Keyed

variable {α β : Type}

/-- The keys increase strictly. -/
def Increasing (es : Keyed α) : Prop := es.keys.Pairwise (· < ·)

theorem lt_of_ne_of_not_lt {a b : String} (hne : a ≠ b) (h : ¬a < b) : b < a := by
  by_cases hba : b < a
  · exact hba
  · exact absurd (String.le_antisymm (String.not_lt.mp hba) (String.not_lt.mp h)) hne

/-- A key behind all others is added at the end. -/
theorem insert_eq_append {es : Keyed α} {key : String} (value : α) (h : ∀ k ∈ es.keys, k < key) :
    es.insert key value = es ++ [(key, value)] := by
  induction es with
  | nil => rfl
  | cons e es ih =>
    obtain ⟨hlt, hrest⟩ := List.forall_mem_cons.mp h
    have hne : key ≠ e.1 := by
      rintro rfl
      exact String.lt_irrefl _ hlt
    rw [insert, if_neg (String.lt_asymm hlt), if_neg hne, ih hrest]
    rfl

@[simp] theorem get?_insert_self (es : Keyed α) (key : String) (value : α) :
    (es.insert key value).get? key = some value := by
  induction es with
  | nil => simp [insert, get?]
  | cons e es ih =>
    unfold insert
    split
    · exact if_pos rfl
    · split
      · exact if_pos rfl
      · rename_i hne
        exact (if_neg (Ne.symm hne)).trans ih

theorem get?_insert_of_ne (es : Keyed α) {key k : String} (value : α) (h : k ≠ key) :
    (es.insert key value).get? k = es.get? k := by
  induction es with
  | nil => exact if_neg (Ne.symm h)
  | cons e es ih =>
    unfold insert
    split
    · exact if_neg (Ne.symm h)
    · split
      · rename_i hsame
        subst hsame
        exact (if_neg (Ne.symm h)).trans (if_neg (Ne.symm h)).symm
      · rw [get?, get?, ih]

/-- Of two values under one key the later counts. -/
theorem insert_insert_self (es : Keyed α) (key : String) (v w : α) :
    (es.insert key v).insert key w = es.insert key w := by
  induction es with
  | nil => simp [insert]
  | cons e es ih =>
    obtain ⟨k, u⟩ := e
    by_cases hlt : key < k
    · simp [insert, hlt]
    by_cases hsame : key = k
    · simp [insert, hsame]
    · simp [insert, hlt, hsame, ih]

theorem insert_comm_of_lt (es : Keyed α) {a b : String} (h : a < b) (v w : α) :
    (es.insert a v).insert b w = (es.insert b w).insert a v := by
  have hne : b ≠ a := fun hsame => String.lt_irrefl a (hsame ▸ h)
  have hnot : ¬b < a := String.lt_asymm h
  induction es with
  | nil => simp [insert, h, hne, hnot]
  | cons e es ih =>
    -- the keys go before the first one, to its place or behind it, and `a` never behind `b`
    obtain ⟨k, u⟩ := e
    grind [insert, String.lt_trans, String.lt_irrefl, lt_of_ne_of_not_lt]

/-- **Different keys are set in either order**, be the entries sorted or not. -/
theorem insert_comm (es : Keyed α) {a b : String} (h : a ≠ b) (v w : α) :
    (es.insert a v).insert b w = (es.insert b w).insert a v := by
  by_cases hlt : a < b
  · exact insert_comm_of_lt es hlt v w
  · exact (insert_comm_of_lt es (lt_of_ne_of_not_lt h hlt) w v).symm

theorem mem_keys_insert {es : Keyed α} {key k : String} {value : α} :
    k ∈ (es.insert key value).keys ↔ k = key ∨ k ∈ es.keys := by
  induction es with
  | nil => simp [insert, keys]
  | cons e es ih =>
    unfold insert
    split
    · exact List.mem_cons
    · split
      · rename_i hsame
        subst hsame
        simp [keys]
      · change k ∈ e.1 :: keys (insert key value es) ↔ k = key ∨ k ∈ e.1 :: keys es
        rw [List.mem_cons, ih, List.mem_cons]
        exact or_left_comm

theorem increasing_insert {es : Keyed α} {key : String} {value : α} (h : es.Increasing) :
    (es.insert key value).Increasing := by
  induction es with
  | nil => exact List.pairwise_singleton _ _
  | cons e es ih =>
    obtain ⟨hhead, htail⟩ := List.pairwise_cons.mp h
    unfold insert
    split
    · rename_i hlt
      refine List.pairwise_cons.mpr ⟨fun k hk => ?_, h⟩
      obtain rfl | hk := List.mem_cons.mp hk
      · exact hlt
      · exact String.lt_trans hlt (hhead k hk)
    · split
      · rename_i hsame
        subst hsame
        exact h
      · rename_i hlt hne
        refine List.pairwise_cons.mpr ⟨fun k hk => ?_, ih htail⟩
        obtain rfl | hk := mem_keys_insert.mp hk
        · exact lt_of_ne_of_not_lt hne hlt
        · exact hhead k hk

theorem increasing_ofPairs (pairs : List (String × α)) : (ofPairs pairs).Increasing := by
  have hfold : ∀ (ps : List (String × α)) (es : Keyed α), es.Increasing →
      (ps.foldl (fun es p => es.insert p.1 p.2) es).Increasing := by
    intro ps
    induction ps with
    | nil => exact fun es h => h
    | cons p ps ih => exact fun es h => ih _ (increasing_insert h)
  exact hfold pairs [] List.Pairwise.nil

theorem ofPairs_concat (pairs : List (String × α)) (key : String) (value : α) :
    ofPairs (pairs ++ [(key, value)]) = (ofPairs pairs).insert key value := by
  rw [ofPairs, List.foldl_append]
  rfl

theorem mem_keys_ofPairs {pairs : List (String × α)} {key : String} :
    key ∈ (ofPairs pairs).keys ↔ key ∈ keys pairs := by
  have hfold : ∀ (ps : List (String × α)) (es : Keyed α),
      key ∈ keys (ps.foldl (fun es p => es.insert p.1 p.2) es) ↔ key ∈ keys ps ∨ key ∈ es.keys := by
    intro ps
    induction ps with
    | nil => simp [keys]
    | cons p ps ih =>
      intro es
      have hcons : key ∈ keys (p :: ps) ↔ key = p.1 ∨ key ∈ keys ps := List.mem_cons
      rw [List.foldl_cons, ih, mem_keys_insert, hcons, or_assoc]
      exact or_left_comm
  exact (hfold pairs []).trans (or_iff_left List.not_mem_nil)

/-- **Of the pairs with one key the last counts.** -/
theorem get?_ofPairs (pairs : List (String × α)) (key : String) :
    (ofPairs pairs).get? key = (pairs.filter (·.1 = key)).getLast?.map (·.2) := by
  have hfold : ∀ (ps : List (String × α)) (es : Keyed α),
      get? key (ps.foldl (fun es p => es.insert p.1 p.2) es) =
        ((ps.filter (·.1 = key)).getLast?.map (·.2)).or (es.get? key) := by
    intro ps
    induction ps with
    | nil => exact fun es => rfl
    | cons p ps ih =>
      intro es
      rw [List.foldl_cons, ih]
      by_cases hkey : p.1 = key
      · subst hkey
        have hkept : (p :: ps).filter (·.1 = p.1) = p :: ps.filter (·.1 = p.1) :=
          List.filter_cons_of_pos (by simp)
        rw [get?_insert_self, hkept, List.getLast?_cons]
        cases (ps.filter (·.1 = p.1)).getLast? <;> rfl
      · rw [get?_insert_of_ne _ _ (Ne.symm hkey), List.filter_cons_of_neg (by simpa using hkey)]
  exact (hfold pairs []).trans Option.or_none

/-- **Entries with increasing keys are built from themselves.** -/
theorem ofPairs_eq_self {es : Keyed α} (h : es.Increasing) : ofPairs es = es := by
  have hfold : ∀ (rest before : Keyed α), (before ++ rest).Increasing →
      rest.foldl (fun es p => es.insert p.1 p.2) before = before ++ rest := by
    intro rest
    induction rest with
    | nil => exact fun before _ => (List.append_nil before).symm
    | cons e rest ih =>
      intro before hkeys
      have hlast : ∀ k ∈ before.keys, k < e.1 := by
        rw [Increasing, keys, List.map_append] at hkeys
        exact fun k hk => (List.pairwise_append.mp hkeys).2.2 k hk e.1 List.mem_cons_self
      rw [List.foldl_cons, insert_eq_append e.2 hlast, ih]
      · simp
      · simpa using hkeys
  exact hfold es [] h

end Keyed

end CaseScript

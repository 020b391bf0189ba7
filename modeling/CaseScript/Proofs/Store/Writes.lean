import CaseScript.Proofs.Json.Path
import CaseScript.Proofs.Text.Keyed
import CaseScript.Store.Memory

/-!
# Proofs/Store/Writes — writes to test data, one after another

A **write** changes the document of one case.  Two writes are **independent** if they address different
cases, or different keys of one document, or note different steps; the order of such two makes no
difference (`Store.after_swap`).  What a row of writes makes of a document is what those addressed to it
make of it (`Store.after_apply`), and each key but that of the statuses has the value that was set last
(`Store.get?_documentAfter`).
-/

namespace CaseScript

theorem stepText_injective : Function.Injective stepText := by
  intro a b h
  have hdigits : decimalDigits a = decimalDigits b := String.ofList_injective h
  rw [← ofDecimalDigits_decimalDigits a, hdigits, ofDecimalDigits_decimalDigits]

/-- A change of the document of a case. -/
structure Write where
  key : CaseKey
  change : Change

/-! ## Changes of one document -/

namespace Change

/-- Two changes of one document meet in no key, nor in the number of a step. -/
def Apart : Change → Change → Prop
  | merge a _, merge b _ => a ≠ b
  | status m _, status n _ => m ≠ n
  | merge a _, status _ _ => a ≠ statusKey
  | status _ _, merge a _ => a ≠ statusKey

theorem Apart.symm {c d : Change} (h : c.Apart d) : d.Apart c := by
  cases c <;> cases d <;> first | exact Ne.symm h | exact h

/-- The statuses that a document has noted, none if something else stands in their place. -/
def noted (document : Entries) : Entries :=
  match document.get? statusKey with
  | some (.obj es) => es
  | _ => []

theorem apply_status (step : Nat) (label : String) (document : Entries) :
    (status step label).apply document =
      document.insert statusKey (.obj ((noted document).insert (stepText step) (.str label))) := rfl

theorem noted_insert_self (document entries : Entries) :
    noted (document.insert statusKey (.obj entries)) = entries := by
  rw [noted, Keyed.get?_insert_self]

theorem noted_insert_of_ne {key : String} (h : key ≠ statusKey) (document : Entries) (v : Json) :
    noted (document.insert key v) = noted document := by
  rw [noted, Keyed.get?_insert_of_ne document v (Ne.symm h), noted]

/-- A key and a status are set in either order. -/
theorem apply_merge_status {key : String} (h : key ≠ statusKey) (v : Json) (step : Nat)
    (label : String) (document : Entries) :
    (status step label).apply ((merge key v).apply document) =
      (merge key v).apply ((status step label).apply document) := by
  simp only [apply_status]
  rw [apply, apply, noted_insert_of_ne h, Keyed.insert_comm _ h]

/-- **Changes that are apart are made in either order.** -/
theorem apply_comm {c d : Change} (h : c.Apart d) (document : Entries) :
    d.apply (c.apply document) = c.apply (d.apply document) := by
  match c, d with
  | merge a v, merge b w => exact Keyed.insert_comm document h v w
  | merge a v, status n label => exact apply_merge_status h v n label document
  | status m label, merge b w => exact (apply_merge_status h w m label document).symm
  | status m label, status n label' =>
    have hsteps : stepText m ≠ stepText n := stepText_injective.ne h
    simp only [apply_status, noted_insert_self]
    rw [Keyed.insert_insert_self, Keyed.insert_insert_self, Keyed.insert_comm _ hsteps]

/-- The change sets the key, or notes a status and this is the key of the statuses. -/
def Writes (name : String) : Change → Prop
  | merge key _ => key = name
  | status _ _ => name = statusKey

/-- The value that the change sets the key to, if it does. -/
def merged? (name : String) : Change → Option Json
  | merge key v => if key = name then some v else none
  | status _ _ => none

theorem get?_apply_of_not_writes {name : String} {c : Change} (h : ¬c.Writes name)
    (document : Entries) : (c.apply document).get? name = document.get? name := by
  cases c with
  | merge key v => exact Keyed.get?_insert_of_ne document v (Ne.symm h)
  | status step label => exact Keyed.get?_insert_of_ne document _ h

theorem get?_apply {name : String} (hname : name ≠ statusKey) (c : Change) (document : Entries) :
    (c.apply document).get? name = (c.merged? name).or (document.get? name) := by
  by_cases hwrites : c.Writes name
  · cases c with
    | merge key v =>
      obtain rfl : key = name := hwrites
      rw [merged?, if_pos rfl]
      exact Keyed.get?_insert_self document key v
    | status step label => exact absurd hwrites hname
  · have hmerged : c.merged? name = none := by
      cases c with
      | merge key v => exact if_neg hwrites
      | status step label => rfl
    rw [get?_apply_of_not_writes hwrites, hmerged, Option.none_or]

end Change

/-- A document after changes. -/
def documentAfter (document : Entries) (changes : List Change) : Entries :=
  changes.foldl (fun document c => c.apply document) document

theorem get?_documentAfter_of_not_writes {name : String} {changes : List Change}
    (h : ∀ c ∈ changes, ¬c.Writes name) (document : Entries) :
    (documentAfter document changes).get? name = document.get? name := by
  induction changes generalizing document with
  | nil => rfl
  | cons c changes ih =>
    obtain ⟨hc, hrest⟩ := List.forall_mem_cons.mp h
    exact (ih hrest _).trans (Change.get?_apply_of_not_writes hc document)

/-- **A key has the value that was set last**, and the one it had if none was set. -/
theorem get?_documentAfter {name : String} (hname : name ≠ statusKey) (changes : List Change)
    (document : Entries) :
    (documentAfter document changes).get? name =
      (changes.filterMap (Change.merged? name)).getLast?.or (document.get? name) := by
  induction changes generalizing document with
  | nil => rfl
  | cons c changes ih =>
    refine (ih (c.apply document)).trans ?_
    rw [Change.get?_apply hname, List.filterMap_cons]
    cases c.merged? name with
    | none => rfl
    | some v =>
      rw [List.getLast?_cons]
      cases (changes.filterMap (Change.merged? name)).getLast? <;> rfl

/-! ## Writes to a store -/

namespace Write

/-- Two writes address different cases, or are apart in one document. -/
def Independent (a b : Write) : Prop := a.key = b.key → a.change.Apart b.change

end Write

namespace Store

/-- The store after writes. -/
def after (s : Store) (writes : List Write) : Store :=
  writes.foldl (fun s a => s.change a.key a.change) s

/-- The changes among writes that are addressed to a case. -/
def changesOf (key : CaseKey) (writes : List Write) : List Change :=
  (writes.filter (·.key = key)).map Write.change

theorem change_apply (s : Store) (at_ key : CaseKey) (c : Change) :
    s.change at_ c key = if key = at_ then c.apply (s key) else s key := by
  rw [change, set]
  split
  · rename_i hkey
    rw [hkey]
  · rfl

/-- **A document is changed by the writes that are addressed to it.** -/
theorem after_apply (s : Store) (writes : List Write) (key : CaseKey) :
    s.after writes key = documentAfter (s key) (changesOf key writes) := by
  induction writes generalizing s with
  | nil => rfl
  | cons a writes ih =>
    refine (ih (s.change a.key a.change)).trans ?_
    rw [change_apply, changesOf, changesOf]
    by_cases hkey : a.key = key
    · rw [if_pos hkey.symm, List.filter_cons_of_pos (by simpa using hkey)]
      rfl
    · rw [if_neg (Ne.symm hkey), List.filter_cons_of_neg (by simpa using hkey)]

/-- **Independent writes are made in either order.** -/
theorem after_swap {a b : Write} (h : a.Independent b) (s : Store) :
    s.after [a, b] = s.after [b, a] := by
  funext key
  simp only [after_apply, changesOf]
  by_cases ha : a.key = key <;> by_cases hb : b.key = key
  · have hapart := h (ha.trans hb.symm)
    simpa [ha, hb, documentAfter] using Change.apply_comm hapart (s key)
  all_goals simp [ha, hb]

/-! ## Statements -/

/-- **Independent writes commute, and a document depends on its own writes only**: each key but that of
the statuses holds the value that was set last, and what was not written is as before. -/
theorem writes_independent (s : Store) :
    (∀ a b : Write, a.Independent b → s.after [a, b] = s.after [b, a]) ∧
      ∀ (writes : List Write) (key : CaseKey),
        s.after writes key = documentAfter (s key) (changesOf key writes) ∧
        (∀ name, name ≠ statusKey → (s.after writes key).get? name =
          ((changesOf key writes).filterMap (Change.merged? name)).getLast?.or
            ((s key).get? name)) ∧
        ∀ name, (∀ c ∈ changesOf key writes, ¬c.Writes name) →
          (s.after writes key).get? name = (s key).get? name := by
  refine ⟨fun a b h => after_swap h s, fun writes key => ?_⟩
  rw [after_apply]
  exact ⟨rfl, fun name hname => get?_documentAfter hname _ _,
    fun name h => get?_documentAfter_of_not_writes h _⟩

/-- Two steps of a case note their statuses, the first of which begins the object they are gathered in. -/
theorem twoStatuses_independent :
    (Change.status 3 "passed").Apart (.status 4 "failed") ∧
      empty.after [⟨⟨"run", "case"⟩, .status 3 "passed"⟩, ⟨⟨"run", "case"⟩, .status 4 "failed"⟩] =
        empty.after [⟨⟨"run", "case"⟩, .status 4 "failed"⟩, ⟨⟨"run", "case"⟩, .status 3 "passed"⟩] := by
  have hapart : (Change.status 3 "passed").Apart (.status 4 "failed") := by simp [Change.Apart]
  exact ⟨hapart, (writes_independent empty).1 _ _ fun _ => hapart⟩

end Store

end CaseScript

import CaseScript.Proofs.Act.Alike
import CaseScript.Proofs.Source.Quiet
import CaseScript.Retry.Loop

/-!
# Proofs/Source/Alike — names and templates on two documents

Sources are put **here** or **there** by the slot in which their test data is (`Sources.here`,
`Sources.there`).  What they are asked for a case is the same in both places: a name, a template, the
instances of a loop.  So are the attempts of what is alike.
-/

namespace CaseScript

variable {L : Likeness}

/-! ## Documents -/

namespace StoreHandle

theorem alike_document :
    ((memory L.slot).document L.key).Alike L (· = ·) ((memory L.slot').document L.key) :=
  .read fun _ => .done rfl

theorem alike_part (path : String) :
    ((memory L.slot).part L.key path).Alike L (· = ·) ((memory L.slot').part L.key path) :=
  .read fun _ => .done rfl

theorem alike_merge (name : String) (value : Json) :
    ((memory L.slot).merge L.key name value).Alike L (· = ·)
      ((memory L.slot').merge L.key name value) :=
  .write (.done rfl)

theorem alike_recordStatus (step : Nat) (label : String) :
    ((memory L.slot).recordStatus L.key step label).Alike L (· = ·)
      ((memory L.slot').recordStatus L.key step label) :=
  .write (.done rfl)

end StoreHandle

/-! ## Names and templates -/

namespace Sources

/-- The sources with their test data in the first slot. -/
def here (s : Sources) (L : Likeness) : Sources := { s with store := .memory L.slot }

/-- The sources with their test data in the second slot. -/
def there (s : Sources) (L : Likeness) : Sources := { s with store := .memory L.slot' }

variable (s : Sources) (ctx : StepContext) (hkey : ctx.key = L.key) (scope : Scope)

theorem alike_fetchNamed (kind : SourceKind) (name : String) :
    ((s.here L).fetchNamed ctx kind name).Alike L (· = ·) ((s.there L).fetchNamed ctx kind name) :=
  Act.alike_of_within (within_fetchNamed (fun _ _ => rfl) s ctx kind name)

include hkey

theorem alike_fetchData (name : String) (overlay : Entries) :
    ((s.here L).fetchData ctx name overlay).Alike L (· = ·)
      ((s.there L).fetchData ctx name overlay) := by
  unfold fetchData
  generalize cutRoot name = cut
  obtain ⟨root, rest⟩ := cut
  dsimp only
  cases (overlay.get? root).bind fun v => v.at? rest with
  | some v => exact .done rfl
  | none =>
    rw [hkey]
    refine Act.alike_bind_eq (StoreHandle.alike_part name) fun r => ?_
    cases r <;> exact .done rfl

theorem alike_fetch (kind : SourceKind) (name : String) (overlay : Entries) :
    ((s.here L).fetch ctx kind name overlay).Alike L (· = ·)
      ((s.there L).fetch ctx kind name overlay) := by
  cases kind with
  | data => exact s.alike_fetchData ctx hkey name overlay
  | _ => exact s.alike_fetchNamed ctx _ name

theorem alike_resolveName (name : String) :
    ((s.here L).resolveName ctx scope name).Alike L (· = ·)
      ((s.there L).resolveName ctx scope name) := by
  refine Act.alike_bind_eq (s.alike_fetch ctx hkey _ name _) fun r => ?_
  cases r <;> exact .done rfl

theorem alike_fetchAll : ∀ names : List String,
    ((s.here L).fetchAll ctx scope names).Alike L (· = ·) ((s.there L).fetchAll ctx scope names)
  | [] => .done rfl
  | name :: names => by
    refine Act.alike_bind_eq (s.alike_resolveName ctx hkey scope name) fun r => ?_
    cases r with
    | error e => exact .done rfl
    | ok v =>
      refine Act.alike_bind_eq (alike_fetchAll names) fun r => ?_
      cases r <;> exact .done rfl

theorem alike_resolvePasses : ∀ (passes : Nat) (template : Json),
    ((s.here L).resolvePasses ctx scope passes template).Alike L (· = ·)
      ((s.there L).resolvePasses ctx scope passes template)
  | 0, _ => .done rfl
  | passes + 1, template => by
    unfold resolvePasses
    cases Template.placeholderNames template with
    | nil => exact .done rfl
    | cons name names =>
      refine Act.alike_bind_eq (s.alike_fetchAll ctx hkey scope (name :: names)) fun r => ?_
      cases r with
      | error e => exact .done rfl
      | ok values => exact alike_resolvePasses passes _

theorem alike_resolve (template : Json) :
    ((s.here L).resolve ctx scope template).Alike L (· = ·)
      ((s.there L).resolve ctx scope template) :=
  s.alike_resolvePasses ctx hkey scope _ template

theorem alike_expandLoop (template : Json) (marker : String) :
    ((s.here L).expandLoop ctx template marker).Alike L (· = ·)
      ((s.there L).expandLoop ctx template marker) := by
  unfold expandLoop
  split
  · exact .done rfl
  · exact .done rfl
  · rename_i expression _
    dsimp only
    generalize Template.loopName _ = loop
    split
    · exact .done rfl
    · refine Act.alike_bind_eq (s.alike_resolve ctx hkey .none _) fun r => ?_
      cases r with
      | error e => exact .done rfl
      | ok v =>
        dsimp only
        cases Template.loopItems (trimmed expression) v <;> exact .done rfl
  · exact .done rfl

end Sources

/-! ## Attempts -/

/-- Attempts at what is alike are alike. -/
theorem alike_retryFrom {ε α : Type} {guard guard' : Guard}
    {operation operation' : Guard → Act (Outcome (Except ε α))} (millis : Nat)
    (isFinal : Except ε α → Bool) (hguard : L.SameGuard guard guard')
    (hoperation : (operation guard).Alike L (· = ·) (operation' guard')) : ∀ left n : Nat,
    (retryFrom millis guard operation isFinal left n).Alike L (· = ·)
      (retryFrom millis guard' operation' isFinal left n)
  | left, n => by
    unfold retryFrom
    refine .attempt (.isCancelled fun cancelled => ?_)
    cases cancelled with
    | true => exact .done rfl
    | false =>
      change (operation guard >>= _).Alike L (· = ·) (operation' guard' >>= _)
      refine Act.alike_bind_eq hoperation fun r => ?_
      cases r with
      | cancelled => exact .done rfl
      | expired => exact .done rfl
      | done r =>
        cases left with
        | zero => exact .done rfl
        | succ left =>
          dsimp only
          split
          · exact .done rfl
          · refine .pause hguard fun r => ?_
            cases r with
            | done => exact alike_retryFrom millis isFinal hguard hoperation left (n + 1)
            | _ => exact .done rfl

end CaseScript

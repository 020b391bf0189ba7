import CaseScript.Source.Fetch
import CaseScript.Step.Error
import CaseScript.Template.Placeholder

/-!
# Template/Resolve — templates filled from the sources

In each of at most three passes the names of the template are fetched in order and their values put
in. A value may hold placeholders itself, which the next pass fills; after the last pass they stay
as written.
-/

namespace CaseScript

/-- What one call adds to its context: sources and test data of its own. -/
structure Scope where
  sources : Keyed SourceKind
  data : Entries
deriving Repr

/-- A call that adds nothing. -/
def Scope.none : Scope := ⟨[], []⟩

/-- The source of a name: by its full name or by its first segment, as the call or the case says,
and otherwise test data. -/
def sourceOf (ctx : StepContext) (scope : Scope) (name : String) : SourceKind :=
  let listed (key : String) : Option SourceKind :=
    (scope.sources.get? key).or (ctx.kinds.get? key)
  ((listed name).or (listed (rootOf name))).getD .data

namespace Sources

/-- What is said if a name could not be fetched. -/
def fetchFault (name : String) (kind : SourceKind) (e : StoreError) : StepError :=
  .resolution s!"Failed to resolve placeholder '{name}' from {kind.name}: {e.message}"

/-- The value of a placeholder name. -/
def resolveName (s : Sources) (ctx : StepContext) (scope : Scope) (name : String) :
    Act (Except StepError Json) := do
  let kind := sourceOf ctx scope name
  match ← s.fetch ctx kind name scope.data with
  | .ok v => return .ok v
  | .error e => return .error (fetchFault name kind e)

/-- The values of names, fetched one after another. -/
def fetchAll (s : Sources) (ctx : StepContext) (scope : Scope) :
    List String → Act (Except StepError Entries)
  | [] => return .ok []
  | name :: names => do
    match ← s.resolveName ctx scope name with
    | .error e => return .error e
    | .ok v =>
      match ← fetchAll s ctx scope names with
      | .error e => return .error e
      | .ok values => return .ok ((name, v) :: values)

/-- Fills a template up to `passes` times. -/
def resolvePasses (s : Sources) (ctx : StepContext) (scope : Scope) :
    (passes : Nat) → Json → Act (Except StepError Json)
  | 0, template => return .ok template
  | passes + 1, template => do
    match Template.placeholderNames template with
    | [] => return .ok template
    | names =>
      match ← s.fetchAll ctx scope names with
      | .error e => return .error e
      | .ok values => resolvePasses s ctx scope passes (Template.fill values false template)

/-- Fills a template. -/
def resolve (s : Sources) (ctx : StepContext) (scope : Scope) (template : Json) :
    Act (Except StepError Json) :=
  s.resolvePasses ctx scope Template.maxPasses template

end Sources

end CaseScript

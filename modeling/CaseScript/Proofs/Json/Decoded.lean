import CaseScript.Json.Reader

/-!
# Proofs/Json/Decoded — text that is read as an array or object

What a token does to what has been read is one of a few steps (`Reader.Step`).  A document that begins
with a bracket or a brace is an array or object: until the outermost container is closed something is
open (`Reader.Inside`), and what closes it is complete.  So a text that is decoded stands for a
container (`Json.decoded_decodeText`); everything else stands for itself.
-/

namespace CaseScript

/-- A sequence or map. -/
def Node.IsCollection : Node → Prop
  | .seq _ _ | .map _ => True
  | _ => False

theorem Node.isContainer_of_toJson? {settled : Bool} {n : Node} {v : Json} (hn : n.IsCollection)
    (h : n.toJson? settled = some v) : v.isContainer := by
  match n with
  | .seq _ items =>
    obtain ⟨vs, -, rfl⟩ := Option.map_eq_some_iff.mp h
    rfl
  | .map entries =>
    obtain ⟨es, -, rfl⟩ := Option.map_eq_some_iff.mp h
    rfl

namespace Reader

/-! ## One token -/

/-- A value may come next. -/
def Stage.TakesValue (stage : Stage) : Prop := stage = .value ∨ stage = .firstItem

/-- What one token does: a value is placed, a key is noted, and a mark opens a container, closes one
or goes on in it. -/
inductive Step : Stage × List Open → Token → Stage × List Open → Prop
  | value {stage : Stage} (n : Node) (stack : List Open) (hdue : stage.TakesValue) :
    Step (stage, stack) (.value n) (place n stack)
  | key {stage : Stage} (rev : List (Node × Node)) (last k : String) (rest : List Open)
    (hdue : stage = .key ∨ stage = .firstKey) :
    Step (stage, .entries rev last :: rest) (.value (.str k)) (.colon, .entries rev k :: rest)
  | openItems {stage : Stage} (stack : List Open) (hdue : stage.TakesValue) :
    Step (stage, stack) (.mark '[') (.firstItem, .items [] :: stack)
  | openEntries {stage : Stage} (stack : List Open) (hdue : stage.TakesValue) :
    Step (stage, stack) (.mark '{') (.firstKey, .entries [] "" :: stack)
  | closeFirstItem (rev : List Node) (rest : List Open) :
    Step (.firstItem, .items rev :: rest) (.mark ']') (place (.seq true []) rest)
  | closeFirstEntry (rev : List (Node × Node)) (last : String) (rest : List Open) :
    Step (.firstKey, .entries rev last :: rest) (.mark '}') (place (.map []) rest)
  | colon (stack : List Open) : Step (.colon, stack) (.mark ':') (.value, stack)
  | nextItem (rev : List Node) (rest : List Open) :
    Step (.more, .items rev :: rest) (.mark ',') (.value, .items rev :: rest)
  | closeItems (rev : List Node) (rest : List Open) :
    Step (.more, .items rev :: rest) (.mark ']') (place (.seq true rev.reverse) rest)
  | nextEntry (rev : List (Node × Node)) (last : String) (rest : List Open) :
    Step (.more, .entries rev last :: rest) (.mark ',') (.key, .entries rev last :: rest)
  | closeEntries (rev : List (Node × Node)) (last : String) (rest : List Open) :
    Step (.more, .entries rev last :: rest) (.mark '}') (place (.map rev.reverse) rest)

/-- **A token that is taken does one of these.** -/
theorem step_of_step? {state next : Stage × List Open} {t : Token}
    (h : step? state t = some next) : Step state t next := by
  unfold step? at h
  split at h
  case h_1 stack n =>
    obtain rfl := Option.some.inj h
    exact .value n stack (.inl rfl)
  case h_2 stack n =>
    obtain rfl := Option.some.inj h
    exact .value n stack (.inr rfl)
  case h_3 rev last rest k =>
    obtain rfl := Option.some.inj h
    exact .key rev last k rest (.inl rfl)
  case h_4 rev last rest k =>
    obtain rfl := Option.some.inj h
    exact .key rev last k rest (.inr rfl)
  case h_5 stage stack c =>
    extract_lets opens at h
    have hdue : opens = true → stage.TakesValue := by
      cases stage with
      | value => exact fun _ => .inl rfl
      | firstItem => exact fun _ => .inr rfl
      | key | firstKey | colon | more | done =>
        exact fun hopens => absurd hopens Bool.false_ne_true
    clear_value opens
    split at h
    · rename_i hopens
      obtain ⟨hopen, rfl⟩ := hopens
      obtain rfl := Option.some.inj h
      exact .openItems stack (hdue hopen)
    split at h
    · rename_i hopens
      obtain ⟨hopen, rfl⟩ := hopens
      obtain rfl := Option.some.inj h
      exact .openEntries stack (hdue hopen)
    split at h
    case h_1 rev rest =>
      obtain ⟨rfl, hnext⟩ := Option.ite_none_right_eq_some.mp h
      obtain rfl := Option.some.inj hnext
      exact .closeFirstItem rev rest
    case h_2 rev last rest =>
      obtain ⟨rfl, hnext⟩ := Option.ite_none_right_eq_some.mp h
      obtain rfl := Option.some.inj hnext
      exact .closeFirstEntry rev last rest
    case h_3 =>
      obtain ⟨rfl, hnext⟩ := Option.ite_none_right_eq_some.mp h
      obtain rfl := Option.some.inj hnext
      exact .colon _
    case h_4 rev rest =>
      split at h
      · rename_i hcomma
        subst hcomma
        obtain rfl := Option.some.inj h
        exact .nextItem rev rest
      · obtain ⟨rfl, hnext⟩ := Option.ite_none_right_eq_some.mp h
        obtain rfl := Option.some.inj hnext
        exact .closeItems rev rest
    case h_5 rev last rest =>
      split at h
      · rename_i hcomma
        subst hcomma
        obtain rfl := Option.some.inj h
        exact .nextEntry rev last rest
      · obtain ⟨rfl, hnext⟩ := Option.ite_none_right_eq_some.mp h
        obtain rfl := Option.some.inj hnext
        exact .closeEntries rev last rest
    case h_6 => cases h
  case h_6 => cases h

/-! ## What is open -/

/-- Something is open, or a sequence or map is complete. -/
def Inside (state : Stage × List Open) : Prop :=
  match state.1 with
  | .done n => n.IsCollection
  | _ => state.2 ≠ []

theorem inside_place (n : Node) (o : Open) (stack : List Open) : Inside (place n (o :: stack)) := by
  cases o <;> exact List.cons_ne_nil _ _

/-- What is complete is a collection if nothing else is open. -/
theorem inside_place_collection {n : Node} (hn : n.IsCollection) (stack : List Open) :
    Inside (place n stack) := by
  cases stack with
  | nil => exact hn
  | cons o stack => exact inside_place n o stack

theorem Stage.TakesValue.open_of_inside {stage : Stage} {stack : List Open}
    (hdue : stage.TakesValue) (h : Inside (stage, stack)) : stack ≠ [] := by
  obtain rfl | rfl := hdue <;> exact h

theorem inside_step {state next : Stage × List Open} {t : Token} (h : Inside state)
    (hstep : Step state t next) : Inside next := by
  cases hstep with
  | value n stack hdue =>
    -- a value is placed into what is open
    obtain ⟨o, rest, rfl⟩ := List.exists_cons_of_ne_nil (hdue.open_of_inside h)
    exact inside_place n o rest
  | key | openItems | openEntries | nextItem | nextEntry => exact List.cons_ne_nil _ _
  | colon => exact h
  | closeFirstItem | closeFirstEntry | closeItems | closeEntries =>
    exact inside_place_collection (by trivial) _

theorem inside_run {state last : Stage × List Open} {ts : List Token} (h : Inside state)
    (hrun : run? state ts = some last) : Inside last := by
  induction ts generalizing state with
  | nil =>
    obtain rfl := Option.some.inj hrun
    exact h
  | cons t ts ih =>
    rw [run?] at hrun
    split at hrun
    · exact ih (inside_step h (step_of_step? ‹_›)) hrun
    · cases hrun

end Reader

namespace Json

/-- A text begins as arrays and objects do. -/
def BeginsContainer (s : String) : Prop := s.toList.head? = some '[' ∨ s.toList.head? = some '{'

instance (s : String) : Decidable (BeginsContainer s) :=
  inferInstanceAs (Decidable (s.toList.head? = some '[' ∨ s.toList.head? = some '{'))

/-- **A document that begins with a bracket or a brace is an array or object.** -/
theorem isContainer_of_parse? {s : String} {v : Json} (hbegins : BeginsContainer s)
    (h : parse? s = some v) : v.isContainer := by
  obtain ⟨n, hn, hv⟩ := Option.bind_eq_some_iff.mp h
  refine Node.isContainer_of_toJson? ?_ hv
  obtain ⟨c, cs, hs, hmark⟩ : ∃ c cs, s.toList = c :: cs ∧
      Token.step? .between c = some ([.mark c], .between) ∧
      ∃ first, Reader.step? (.value, []) (.mark c) = some first ∧ Reader.Inside first := by
    obtain hopen | hopen := hbegins <;> obtain ⟨cs, hs⟩ := List.head?_eq_some_iff.mp hopen
    · exact ⟨'[', cs, hs, rfl, _, rfl, List.cons_ne_nil _ _⟩
    · exact ⟨'{', cs, hs, rfl, _, rfl, List.cons_ne_nil _ _⟩
  obtain ⟨htoken, first, hfirst, hinside⟩ := hmark
  rw [Node.ofJsonText?, hs, Token.scan?, htoken] at hn
  dsimp only at hn
  cases hrest : Token.scan? .between cs with
  | none => simp [hrest] at hn
  | some ts =>
    rw [hrest, Option.map_some] at hn
    simp only [List.singleton_append, Reader.run?, hfirst] at hn
    split at hn
    · rename_i hrun
      obtain ⟨-, hnode⟩ := Option.ite_none_right_eq_some.mp hn
      obtain rfl := Option.some.inj hnode
      exact Reader.inside_run hinside hrun
    · cases hn

/-- What a cell stands for: text that begins as an array or object and is one stands for it, as it is,
and everything else stands for itself. -/
inductive Decoded : Json → Json → Prop
  | document {s : String} {v : Json} (hbegins : BeginsContainer s) (hread : parse? s = some v)
    (hcontainer : v.isContainer) : Decoded (.str s) v
  | plain {v : Json} (h : ∀ s, v = .str s → BeginsContainer s → parse? s = none) : Decoded v v

theorem decodeText_str (s : String) :
    (Json.str s).decodeText =
      if BeginsContainer s then (parse? s).getD (.str s) else .str s := by
  rw [decodeText]
  split
  · rename_i hs
    simp [BeginsContainer, hs]
  · rename_i hs
    simp [BeginsContainer, hs]
  · rename_i hbrace hbracket
    refine (if_neg ?_).symm
    rintro (hopen | hopen) <;> obtain ⟨cs, hs⟩ := List.head?_eq_some_iff.mp hopen
    · exact hbracket cs hs
    · exact hbrace cs hs

theorem decoded_decodeText (v : Json) : Decoded v v.decodeText := by
  match v with
  | .str s =>
    rw [decodeText_str]
    by_cases hbegins : BeginsContainer s
    · rw [if_pos hbegins]
      cases hread : parse? s with
      | some w => exact .document hbegins hread (isContainer_of_parse? hbegins hread)
      | none =>
        refine .plain fun t ht _ => ?_
        obtain rfl := Json.str.inj ht
        exact hread
    · rw [if_neg hbegins]
      refine .plain fun t ht hopens => ?_
      obtain rfl := Json.str.inj ht
      exact absurd hopens hbegins
  | .null | .bool _ | .num _ | .arr _ | .obj _ => exact .plain nofun

/-- **Decoding changes a text only that is an array or object**, and into just that. -/
theorem of_decodeText_ne {v : Json} (h : v.decodeText ≠ v) :
    ∃ s, v = .str s ∧ parse? s = some v.decodeText ∧ v.decodeText.isContainer := by
  generalize hw : v.decodeText = w at h
  cases hw ▸ decoded_decodeText v with
  | @document s w _ hread hcontainer => exact ⟨s, rfl, hread, hcontainer⟩
  | plain _ => exact absurd rfl h

end Json

end CaseScript

import CaseScript.Http.Request
import CaseScript.Proofs.Json.Escapes

/-!
# Proofs/Http/Documents — documents that are sent as text

A text body loses the backslash of every escaped quotation mark before it is sent.  A document is
therefore sent as it is just if no backslash stands directly before a quotation mark, whatever other
escapes it has; and a document in which that happens is not the same any more, as long as none of its
objects names a key twice (`render_infer_document`).  For every backslash that is lost makes the text
lighter by one, whether it began an escape or ended one, and the weight of a document is that of its
value.
-/

namespace CaseScript

namespace Text

/-- What does not occur is not replaced. -/
theorem replace_eq_self {pattern replacement cs : List Char} (h : contains pattern cs = false) :
    replace pattern replacement cs = cs := by
  induction cs with
  | nil => rfl
  | cons c cs ih =>
    obtain ⟨hfront, hrest⟩ := Bool.or_eq_false_iff.mp h
    rw [replace, replaceFrom, hfront, if_neg Bool.false_ne_true]
    exact congrArg (c :: ·) (ih hrest)

end Text

namespace RequestBody

/-- A backslash with a quotation mark behind it. -/
def escapedQuote : List Char := ['\\', '"']

/-- A text without the backslashes of its escaped quotation marks. -/
def unescapeQuotes (cs : List Char) : List Char := Text.replace escapedQuote ['"'] cs

theorem unescapeQuotes_escaped (cs : List Char) :
    unescapeQuotes ('\\' :: '"' :: cs) = '"' :: unescapeQuotes cs := rfl

theorem unescapeQuotes_char {c : Char} {cs : List Char}
    (h : escapedQuote.isPrefixOf (c :: cs) = false) :
    unescapeQuotes (c :: cs) = c :: unescapeQuotes cs := by
  rw [unescapeQuotes, Text.replace, Text.replaceFrom, h, if_neg Bool.false_ne_true]
  rfl

/-- A text is read an escaped quotation mark or else a character at a time. -/
theorem escapedQuotes_induction {P : List Char → Prop} (nil : P [])
    (escaped : ∀ cs, P cs → P ('\\' :: '"' :: cs))
    (char : ∀ c cs, escapedQuote.isPrefixOf (c :: cs) = false → P cs → P (c :: cs)) :
    ∀ cs, P cs
  | [] => nil
  | c :: cs => by
    cases hfront : escapedQuote.isPrefixOf (c :: cs) with
    | false => exact char c cs hfront (escapedQuotes_induction nil escaped char cs)
    | true =>
      obtain ⟨rest, hrest⟩ := List.isPrefixOf_iff_prefix.mp hfront
      obtain ⟨rfl, rfl⟩ := List.cons.inj hrest
      exact escaped rest (escapedQuotes_induction nil escaped char rest)

/-- A backslash before a quotation mark weighs one, at whatever place it stands. -/
theorem weigh_escaped (place : Token.Place) (cs : List Char) :
    Token.weigh place ('\\' :: '"' :: cs) = Token.weigh place ('"' :: cs) + 1 := by
  cases place <;> simp [Token.weigh, Token.Place.step, Token.escaped?, markWeight] <;> omega

/-- **A text without the backslashes of its escaped quotation marks is lighter.** -/
theorem weigh_unescapeQuotes (place : Token.Place) (cs : List Char) :
    Token.weigh place (unescapeQuotes cs) ≤ Token.weigh place cs ∧
      (Text.contains escapedQuote cs →
        Token.weigh place (unescapeQuotes cs) < Token.weigh place cs) := by
  induction cs using escapedQuotes_induction generalizing place with
  | nil => exact ⟨Nat.le_refl _, nofun⟩
  | escaped cs ih =>
    have hle := (ih (place.step '"').2).1
    have hlt : Token.weigh place (unescapeQuotes ('\\' :: '"' :: cs)) <
        Token.weigh place ('\\' :: '"' :: cs) := by
      rw [weigh_escaped, unescapeQuotes_escaped, Token.weigh, Token.weigh]
      omega
    exact ⟨hlt.le, fun _ => hlt⟩
  | char c cs hfront ih =>
    obtain ⟨hle, hlt⟩ := ih (place.step c).2
    rw [unescapeQuotes_char hfront, Token.weigh, Token.weigh, Text.contains, hfront,
      Bool.false_or]
    exact ⟨Nat.add_le_add_left hle _, fun h => Nat.add_lt_add_left (hlt h) _⟩

/-- What is sent for a text. -/
theorem render_infer_str (s : String) :
    (infer (some (.str s))).render = String.ofList (unescapeQuotes s.toList) := by
  rw [infer]
  split <;> rfl

/-- **A document is sent as it is just if no backslash stands directly before a quotation mark**,
and only then what is sent is read as the same document, entry by entry.  Its value is lost as well,
unless an object names a key twice. -/
theorem render_infer_document (s : String) :
    ((infer (some (.str s))).render = s ↔ Text.contains escapedQuote s.toList = false) ∧
      (∀ n, Node.ofJsonText? s = some n →
        (Node.ofJsonText? (infer (some (.str s))).render = some n ↔
          Text.contains escapedQuote s.toList = false)) ∧
      ∀ v, Json.parse? s = some v → Json.NamesOnce s →
        (Json.parse? (infer (some (.str s))).render = some v ↔
          Text.contains escapedQuote s.toList = false) := by
  have hsent := render_infer_str s
  have hself (h : Text.contains escapedQuote s.toList = false) :
      (infer (some (.str s))).render = s := by
    rw [hsent, unescapeQuotes, Text.replace_eq_self h, String.ofList_toList]
  -- what is sent is lighter if a backslash is lost
  have hkept (h : Token.weigh .plain s.toList ≤
      Token.weigh .plain (infer (some (.str s))).render.toList) :
      Text.contains escapedQuote s.toList = false := by
    rw [hsent, String.toList_ofList] at h
    exact Bool.eq_false_iff.mpr fun hfound =>
      absurd ((weigh_unescapeQuotes .plain s.toList).2 hfound) (Nat.not_lt.mpr h)
  refine ⟨⟨fun h => hkept (by rw [h]), hself⟩, fun n hn => ?_, fun v hv hnames => ?_⟩
  · refine ⟨fun h => hkept ?_, fun h => (hself h).symm ▸ hn⟩
    rw [← Node.weight_of_ofJsonText? hn, ← Node.weight_of_ofJsonText? h]
  · refine ⟨fun h => hkept ?_, fun h => (hself h).symm ▸ hv⟩
    rw [← Json.weight_of_parse? hnames hv]
    exact Json.weight_le_of_parse? h

/-- The document `{"a":"\u0022\\b"}`. -/
def numberedQuote : String := "\x7b\"a\":\"\\u0022\\\\b\"\x7d"

/-- A quotation mark that is escaped by its number, and a backslash that does not end its string, are
sent as they are. -/
theorem render_infer_numberedQuote :
    Json.parse? numberedQuote = some (.obj [("a", .str "\"\\b")]) ∧
      Json.parse? (infer (some (.str numberedQuote))).render =
        some (.obj [("a", .str "\"\\b")]) := by
  have hscan : Token.scan? .between numberedQuote.toList =
      some [.mark '{', .value (.str "a"), .mark ':', .value (.str "\"\\b"), .mark '}'] := rfl
  have hn : Node.ofJsonText? numberedQuote = some (.map [(.str "a", .str "\"\\b")]) := by
    rw [Node.ofJsonText?, hscan]
    rfl
  have hv : Json.parse? numberedQuote = some (.obj [("a", .str "\"\\b")]) := by
    rw [Json.parse?, hn]
    rfl
  have hnames : Json.NamesOnce numberedQuote := by
    intro n h
    obtain rfl := Option.some.inj (hn.symm.trans h)
    simp [Node.OncePerKey, Node.EntriesOncePerKey]
  exact ⟨hv, ((render_infer_document _).2.2 _ hv hnames).mpr (by decide)⟩

/-- The document `{"a":"\""}`. -/
def plainQuote : String := "\x7b\"a\":\"\\\"\"\x7d"

/-- **An escaped quotation mark spoils a document.** -/
theorem render_infer_plainQuote :
    Json.parse? plainQuote = some (.obj [("a", .str "\"")]) ∧
      Json.parse? (infer (some (.str plainQuote))).render = none := by
  have hscan : Token.scan? .between plainQuote.toList =
      some [.mark '{', .value (.str "a"), .mark ':', .value (.str "\""), .mark '}'] := rfl
  have hsent : Token.scan? .between (unescapeQuotes plainQuote.toList) = none := rfl
  constructor
  · rw [Json.parse?, Node.ofJsonText?, hscan]
    rfl
  · rw [render_infer_str, Json.parse?, Node.ofJsonText?, String.toList_ofList, hsent]
    rfl

/-- The document `{"a":"\",\"a\":\"","a":null}`. -/
def twiceNamed : String :=
  "\x7b\"a\":\"\\\",\\\"a\\\":\\\"\",\"a\":null\x7d"

/-- Of a key that is named twice the last value counts, so that the first may be spoiled. -/
example :
    Json.parse? twiceNamed = some (.obj [("a", .null)]) ∧
      Json.parse? (infer (some (.str twiceNamed))).render = some (.obj [("a", .null)]) := by
  have hscan : Token.scan? .between twiceNamed.toList =
      some [.mark '{', .value (.str "a"), .mark ':', .value (.str "\",\"a\":\""), .mark ',',
        .value (.str "a"), .mark ':', .value .null, .mark '}'] := rfl
  have hsent : Token.scan? .between (unescapeQuotes twiceNamed.toList) =
      some [.mark '{', .value (.str "a"), .mark ':', .value (.str ""), .mark ',',
        .value (.str "a"), .mark ':', .value (.str ""), .mark ',',
        .value (.str "a"), .mark ':', .value .null, .mark '}'] := rfl
  constructor
  · rw [Json.parse?, Node.ofJsonText?, hscan]
    rfl
  · rw [render_infer_str, Json.parse?, Node.ofJsonText?, String.toList_ofList, hsent]
    rfl

end RequestBody

end CaseScript

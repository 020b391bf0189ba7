import CaseScript.Json.Reader
import CaseScript.Json.Text

/-!
# Proofs/Json/Quoted — a quoted string is read as it was written

Whatever characters a string has, what stands for it between quotes is read as one token, the string
itself (`Token.scan?_quote`): each character is escaped by itself, and what it becomes is read as that
character again (`Token.scan?_escapeChar`).  So an object with one text in it is read as it was written
(`Json.parse?_text_entry`).
-/

namespace CaseScript

namespace Token

/-- A character that completes no token changes the state only. -/
theorem scan?_cons {mode next : Mode} {c : Char} (h : step? mode c = some ([], next))
    (cs : List Char) : scan? mode (c :: cs) = scan? next cs := by
  rw [scan?, h]
  exact Option.map_id'

/-- A character that completes one token, behind which the state is between tokens. -/
theorem scan?_cons_token {mode : Mode} {c : Char} {t : Token}
    (h : step? mode c = some ([t], .between)) (cs : List Char) :
    scan? mode (c :: cs) = (scan? .between cs).map (t :: ·) := by
  rw [scan?, h]
  rfl

/-- The two last digits of the escape of a control character spell its number. -/
theorem digitsIn?_hexDigits : ∀ n < 0x20,
    Scalar.digitsIn? 16 ['0', '0', Json.hexDigit (n / 16), Json.hexDigit (n % 16)] = some n := by
  decide

/-- A character is escaped by a letter of its own or by its number, or not at all. -/
theorem escapeChar_cases (c : Char) :
    (∃ letter, letter ≠ 'u' ∧ escaped? letter = some c ∧ Json.escapeChar c = ['\\', letter]) ∨
      (c.toNat < 0x20 ∧ Json.escapeChar c =
        ['\\', 'u', '0', '0', Json.hexDigit (c.toNat / 16), Json.hexDigit (c.toNat % 16)]) ∨
      (c ≠ '"' ∧ c ≠ '\\' ∧ ¬c.toNat < 0x20 ∧ Json.escapeChar c = [c]) := by
  by_cases hletter : c ∈ ['"', '\\', '\n', '\r', '\t', '\x08', '\x0c']
  · simp only [List.mem_cons, List.not_mem_nil, or_false] at hletter
    obtain rfl | rfl | rfl | rfl | rfl | rfl | rfl := hletter <;>
      exact .inl ⟨_, by decide, rfl, rfl⟩
  · simp only [List.mem_cons, List.not_mem_nil, or_false, not_or] at hletter
    obtain ⟨hquote, hslash, hline, hreturn, htab, hback, hfeed⟩ := hletter
    rw [Json.escapeChar, if_neg hquote, if_neg hslash, if_neg hline, if_neg hreturn, if_neg htab,
      if_neg hback, if_neg hfeed]
    by_cases hc : c.toNat < 0x20
    · exact .inr (.inl ⟨hc, if_pos hc⟩)
    · exact .inr (.inr ⟨hquote, hslash, hc, if_neg hc⟩)

/-- An escape of one letter is read as the character that it stands for. -/
theorem scan?_letter {letter c : Char} (hletter : letter ≠ 'u') (h : escaped? letter = some c)
    (read rest : List Char) :
    scan? (.string read) ('\\' :: letter :: rest) = scan? (.string (c :: read)) rest := by
  have hslash : step? (.string read) '\\' = some ([], .escape read none) := rfl
  have hstep : step? (.escape read none) letter = some ([], .string (c :: read)) := by
    simp [step?, hletter, h]
  rw [scan?_cons hslash, scan?_cons hstep]

/-- The escape of a control character by its number is read as the character. -/
theorem scan?_number {c : Char} (hc : c.toNat < 0x20) (read rest : List Char) :
    scan? (.string read) ('\\' :: 'u' :: '0' :: '0' :: Json.hexDigit (c.toNat / 16) ::
      Json.hexDigit (c.toNat % 16) :: rest) = scan? (.string (c :: read)) rest := by
  have hslash : step? (.string read) '\\' = some ([], .escape read none) := rfl
  have hunit : step? (.escape read none) 'u' = some ([], .unit read none []) := rfl
  have hfirst : step? (.unit read none []) '0' = some ([], .unit read none ['0']) := rfl
  have hsecond : step? (.unit read none ['0']) '0' = some ([], .unit read none ['0', '0']) := rfl
  have hthird : step? (.unit read none ['0', '0']) (Json.hexDigit (c.toNat / 16)) =
      some ([], .unit read none ['0', '0', Json.hexDigit (c.toNat / 16)]) := rfl
  have hlast : step? (.unit read none ['0', '0', Json.hexDigit (c.toNat / 16)])
      (Json.hexDigit (c.toNat % 16)) = some ([], .string (c :: read)) := by
    have hdigits := digitsIn?_hexDigits c.toNat hc
    simp only [step?, List.cons_append, List.nil_append, hdigits, codeUnit?]
    rw [if_neg (by simp), if_neg (by omega), if_neg (by omega), Char.ofNat_toNat]
    rfl
  rw [scan?_cons hslash, scan?_cons hunit, scan?_cons hfirst, scan?_cons hsecond,
    scan?_cons hthird, scan?_cons hlast]

/-- **What a character becomes between quotes is read as that character.** -/
theorem scan?_escapeChar (c : Char) (read rest : List Char) :
    scan? (.string read) (Json.escapeChar c ++ rest) = scan? (.string (c :: read)) rest := by
  obtain ⟨letter, hletter, hstands, hc⟩ | ⟨hcontrol, hc⟩ | ⟨hquote, hslash, hcontrol, hc⟩ :=
    escapeChar_cases c
  · rw [hc]
    exact scan?_letter hletter hstands read rest
  · rw [hc]
    exact scan?_number hcontrol read rest
  · rw [hc]
    refine scan?_cons ?_ rest
    rw [step?, if_neg hquote, if_neg hslash, if_neg hcontrol]

theorem scan?_escaped (cs read rest : List Char) :
    scan? (.string read) (cs.flatMap Json.escapeChar ++ rest) =
      scan? (.string (cs.reverse ++ read)) rest := by
  induction cs generalizing read with
  | nil => rfl
  | cons c cs ih =>
    rw [List.flatMap_cons, List.append_assoc, scan?_escapeChar, ih, List.reverse_cons,
      List.append_assoc]
    rfl

/-- **A quoted string is read as the string.** -/
theorem scan?_quote (s : String) (rest : List Char) :
    scan? .between (Json.quote s ++ rest) = (scan? .between rest).map (.value (.str s) :: ·) := by
  have hopen : step? .between '"' = some ([], .string []) := rfl
  have hclose : step? (.string (s.toList.reverse ++ [])) '"' =
      some ([.value (.str s)], .between) := by
    rw [step?, if_pos rfl, List.append_nil, List.reverse_reverse, String.ofList_toList]
  rw [Json.quote, List.cons_append, scan?_cons hopen, List.append_assoc, scan?_escaped,
    List.singleton_append, scan?_cons_token hclose]

end Token

namespace Json

/-- **An object with one text is read as it was written.** -/
theorem parse?_text_entry (key s : String) :
    parse? (Json.obj [(key, .str s)]).text = some (.obj [(key, .str s)]) := by
  have hscan : Token.scan? .between (Json.obj [(key, .str s)]).text.toList =
      some [.mark '{', .value (.str key), .mark ':', .value (.str s), .mark '}'] := by
    rw [text, String.toList_ofList]
    simp only [chars, entryChars, List.append_assoc, List.cons_append]
    rw [Token.scan?_cons_token rfl, Token.scan?_quote, Token.scan?_cons_token rfl,
      Token.scan?_quote, Token.scan?_cons_token rfl]
    rfl
  rw [parse?, Node.ofJsonText?, hscan]
  rfl

end Json

end CaseScript

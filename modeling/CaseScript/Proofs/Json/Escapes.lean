import CaseScript.Proofs.Json.Weight

/-!
# Proofs/Json/Escapes — the weight of a document, read off its text

Quotation marks and backslashes stand in the strings of a document only as escapes, and escapes only
in strings.  So what they weigh can be read off the text without knowing where its strings begin and
end: `weigh` follows the escapes and nothing else.  It is the weight of the tokens
(`Token.weight_of_scan?`) and thereby of the document (`Node.weight_of_ofJsonText?`) and its value
(`Json.weight_of_parse?`).
-/

namespace CaseScript

namespace Token

/-! ## The weight of a text -/

/-- Where a character stands as far as escapes go. -/
inductive Place where
  | plain
  | escape
  | unit (digits : List Char)

/-- What a character adds to the weight of a text, and the place behind it. -/
def Place.step (p : Place) (c : Char) : Nat × Place :=
  match p with
  | .plain => (0, if c = '\\' then .escape else .plain)
  | .escape =>
    if c = 'u' then (0, .unit []) else (((escaped? c).map markWeight).getD 0, .plain)
  | .unit digits =>
    -- these two are no digits, and what follows them does not belong to the number
    if c = '\\' then (0, .escape)
    else if c = '"' then (0, .plain)
    else if (digits ++ [c]).length < 4 then (0, .unit (digits ++ [c]))
    else (((Scalar.digitsIn? 16 (digits ++ [c])).map fun n => markWeight (Char.ofNat n)).getD 0,
      .plain)

/-- The weight of a text that is entered at a place. -/
def weigh : Place → List Char → Nat
  | _, [] => 0
  | p, c :: cs => (p.step c).1 + weigh (p.step c).2 cs

/-! ## The weight of what is read -/

/-- The place of the next character. -/
def Mode.place : Mode → Place
  | .escape _ _ => .escape
  | .unit _ _ digits => .unit digits
  | _ => .plain

/-- The characters of the string that is being read. -/
def Mode.held : Mode → List Char
  | .string cs | .escape cs _ | .unit cs _ _ | .partner cs _ => cs
  | _ => []

/-- What has been read of the number of an escape may be digits. -/
def Mode.InDigits : Mode → Prop
  | .unit _ _ digits => ∀ d ∈ digits, d ≠ '\\' ∧ d ≠ '"'
  | _ => True

theorem ne_of_digitsIn? {digits : List Char} {n : Nat} (h : Scalar.digitsIn? 16 digits = some n) :
    ∀ d ∈ digits, d ≠ '\\' ∧ d ≠ '"' := by
  have hfold : ∀ (ds : List Char) (start : Nat),
      ds.foldlM (fun n c => (Scalar.digitIn? 16 c).map (16 * n + ·)) start ≠ none →
        ∀ d ∈ ds, Scalar.digitIn? 16 d ≠ none := by
    intro ds
    induction ds with
    | nil => exact fun _ _ => nofun
    | cons c ds ih =>
      intro start hread
      rw [List.foldlM_cons] at hread
      cases hdigit : Scalar.digitIn? 16 c with
      | none => simp [hdigit] at hread
      | some m =>
        rw [hdigit] at hread
        exact List.forall_mem_cons.mpr ⟨by simp [hdigit], ih _ hread⟩
  cases digits with
  | nil => cases h
  | cons c cs =>
    rw [Scalar.digitsIn?] at h
    intro d hd
    have hdigit := hfold (c :: cs) 0 (by simp [h]) d hd
    constructor <;> rintro rfl <;> exact hdigit (by decide)

/-- A text that is cut into tokens has only digits in the numbers of its escapes. -/
theorem inDigits_of_scan? {mode : Mode} {cs : List Char} {ts : List Token}
    (h : scan? mode cs = some ts) : mode.InDigits := by
  induction cs generalizing mode ts with
  | nil =>
    cases mode with
    | unit => cases h
    | between | number | word | string | escape | partner => trivial
  | cons c cs ih =>
    rw [scan?] at h
    split at h
    · rename_i us next hstep
      obtain ⟨vs, hrest, -⟩ := Option.map_eq_some_iff.mp h
      have hnext := ih hrest
      cases mode with
      | between | number | word | string | escape | partner => trivial
      | unit held high digits =>
        rw [step?] at hstep
        split at hstep
        · obtain ⟨-, rfl⟩ := Prod.mk.inj (Option.some.inj hstep)
          exact fun d hd => hnext d (List.mem_append_left _ hd)
        · split at hstep
          · exact fun d hd => ne_of_digitsIn? ‹_› d (List.mem_append_left _ hd)
          · cases hstep
    · cases h

theorem weight_finish? {mode : Mode} {ts : List Token} (h : finish? mode = some ts) :
    weightOfAll ts = 0 ∧ mode.held = [] ∧ mode.place = .plain := by
  match mode with
  | .between =>
    obtain rfl := Option.some.inj h
    exact ⟨rfl, rfl, rfl⟩
  | .number _ =>
    obtain ⟨_, -, rfl⟩ := Option.map_eq_some_iff.mp h
    exact ⟨rfl, rfl, rfl⟩
  | .word cs =>
    obtain ⟨n, hn, rfl⟩ := Option.map_eq_some_iff.mp h
    refine ⟨?_, rfl, rfl⟩
    unfold word? at hn
    split_ifs at hn <;> obtain rfl := Option.some.inj hn <;> rfl

theorem weight_start? {c : Char} {ts : List Token} {next : Mode} (h : start? c = some (ts, next)) :
    weightOfAll ts = 0 ∧ next.held = [] ∧ next.place = (Place.plain.step c).2 := by
  have hplain : c ≠ '\\' → (Place.plain.step c).2 = .plain := fun hc => if_neg hc
  unfold start? at h
  split_ifs at h with hgap hmark hquote hnumber hword <;>
    obtain ⟨rfl, rfl⟩ := Prod.mk.inj (Option.some.inj h) <;>
      refine ⟨rfl, rfl, (hplain ?_).symm⟩ <;> rintro rfl
  · exact absurd hgap (by decide)
  · exact absurd hmark (by decide)
  · exact absurd hquote (by decide)
  · exact absurd hnumber (by decide)
  · exact absurd hword (by decide)

/-- What ends before a character and what begins with it. -/
theorem weight_between {mode : Mode} {c : Char} {ts : List Token} {next : Mode}
    (h : (match finish? mode, start? c with
      | some us, some (vs, after) => some (us ++ vs, after)
      | _, _ => none) = some (ts, next)) :
    weightOfAll ts = 0 ∧ mode.held = [] ∧ next.held = [] ∧
      next.place = (mode.place.step c).2 ∧ (mode.place.step c).1 = 0 := by
  split at h
  · rename_i us vs after hfinish hstart
    obtain ⟨rfl, rfl⟩ := Prod.mk.inj (Option.some.inj h)
    obtain ⟨hus, hheld, hplace⟩ := weight_finish? hfinish
    obtain ⟨hvs, hafter, hstep⟩ := weight_start? hstart
    rw [weightOfAll_append, hus, hvs, hplace]
    exact ⟨rfl, hheld, hafter, hstep, rfl⟩
  · cases h

theorem weight_codeUnit? {cs : List Char} {high : Option Nat} {n : Nat} {next : Mode}
    (h : codeUnit? cs high n = some next) :
    marksWeight next.held = marksWeight cs + markWeight (Char.ofNat n) ∧ next.place = .plain := by
  unfold codeUnit? at h
  split at h
  · split_ifs at h with hlow hhigh
    · obtain rfl := Option.some.inj h
      exact ⟨by rw [markWeight_ofNat (by omega)]; rfl, rfl⟩
    · obtain rfl := Option.some.inj h
      exact ⟨by rw [Mode.held, marksWeight_cons, Nat.add_comm], rfl⟩
  · obtain ⟨hlow, hnext⟩ := Option.ite_none_right_eq_some.mp h
    obtain rfl := Option.some.inj hnext
    refine ⟨?_, rfl⟩
    rw [Mode.held, marksWeight_cons, markWeight_ofNat (by omega), markWeight_ofNat (by omega),
      Nat.add_comm]

theorem weight_step_escape {cs : List Char} {high : Option Nat} {c : Char} {ts : List Token}
    {next : Mode} (h : step? (.escape cs high) c = some (ts, next)) :
    weightOfAll ts + marksWeight next.held = marksWeight cs + (Place.escape.step c).1 ∧
      next.place = (Place.escape.step c).2 := by
  rw [Place.step]
  rw [step?.eq_def] at h
  dsimp only at h
  split at h
  · rename_i hunit
    obtain ⟨rfl, rfl⟩ := Prod.mk.inj (Option.some.inj h)
    rw [if_pos hunit]
    exact ⟨Nat.zero_add _, rfl⟩
  · rename_i hunit
    rw [if_neg hunit]
    split at h
    · rename_i hletter
      obtain ⟨rfl, rfl⟩ := Prod.mk.inj (Option.some.inj h)
      refine ⟨?_, rfl⟩
      rw [hletter, Mode.held, marksWeight_cons, Option.map_some, Option.getD_some,
        Nat.add_comm (markWeight _)]
      exact Nat.zero_add _
    · cases h

theorem weight_step_unit {cs : List Char} {high : Option Nat} {digits : List Char} {c : Char}
    {ts : List Token} {next : Mode} (h : step? (.unit cs high digits) c = some (ts, next))
    (hnext : next.InDigits) :
    weightOfAll ts + marksWeight next.held = marksWeight cs + ((Place.unit digits).step c).1 ∧
      next.place = ((Place.unit digits).step c).2 := by
  rw [step?] at h
  rw [Place.step]
  split at h
  · rename_i hlength
    obtain ⟨rfl, rfl⟩ := Prod.mk.inj (Option.some.inj h)
    obtain ⟨hslash, hquote⟩ := hnext c (List.mem_append_right _ (List.mem_singleton_self c))
    rw [if_neg hslash, if_neg hquote, if_pos hlength]
    exact ⟨Nat.zero_add _, rfl⟩
  · rename_i hlength
    split at h
    · rename_i n hn
      obtain ⟨after, hunit, hafter⟩ := Option.map_eq_some_iff.mp h
      obtain ⟨rfl, rfl⟩ := Prod.mk.inj hafter
      obtain ⟨hslash, hquote⟩ :=
        ne_of_digitsIn? hn c (List.mem_append_right _ (List.mem_singleton_self c))
      obtain ⟨hheld, hplace⟩ := weight_codeUnit? hunit
      rw [if_neg hslash, if_neg hquote, if_neg hlength, hn, hheld]
      exact ⟨Nat.zero_add _, hplace⟩
    · cases h

/-- **A character adds to the weight of the text what it adds to the weight of what is read.** -/
theorem weight_step {mode next : Mode} {c : Char} {ts : List Token}
    (h : step? mode c = some (ts, next)) (hnext : next.InDigits) :
    weightOfAll ts + marksWeight next.held = marksWeight mode.held + (mode.place.step c).1 ∧
      next.place = (mode.place.step c).2 := by
  match mode with
  | .between =>
    obtain ⟨hts, hheld, hplace⟩ := weight_start? h
    exact ⟨by rw [hts, hheld]; rfl, hplace⟩
  | .number cs | .word cs =>
    rw [step?] at h
    split at h
    · rename_i hc
      obtain ⟨rfl, rfl⟩ := Prod.mk.inj (Option.some.inj h)
      refine ⟨rfl, (if_neg ?_).symm⟩
      rintro rfl
      exact absurd hc (by decide)
    · obtain ⟨hts, hheld, hnone, hplace, hadds⟩ := weight_between h
      exact ⟨by rw [hts, hheld, hnone, hadds]; rfl, hplace⟩
  | .string cs =>
    rw [step?] at h
    split_ifs at h with hquote hslash hcontrol <;>
      obtain ⟨rfl, rfl⟩ := Prod.mk.inj (Option.some.inj h)
    · subst hquote
      have hread : stringWeight (String.ofList cs.reverse) = marksWeight cs := by
        rw [stringWeight, String.toList_ofList, marksWeight_reverse]
      exact ⟨hread, rfl⟩
    · exact ⟨Nat.zero_add _, (if_pos hslash).symm⟩
    · exact ⟨by simp [weightOfAll, Mode.held, Mode.place, Place.step, markWeight, hquote, hslash],
        (if_neg hslash).symm⟩
  | .escape cs high => exact weight_step_escape h
  | .unit cs high digits => exact weight_step_unit h hnext
  | .partner cs high =>
    obtain ⟨hslash, hnone⟩ := Option.ite_none_right_eq_some.mp h
    obtain ⟨rfl, rfl⟩ := Prod.mk.inj (Option.some.inj hnone)
    exact ⟨Nat.zero_add _, (if_pos hslash).symm⟩

/-- **The tokens of a text weigh what the text weighs.** -/
theorem weight_of_scan? {mode : Mode} {cs : List Char} {ts : List Token}
    (h : scan? mode cs = some ts) :
    weightOfAll ts = marksWeight mode.held + weigh mode.place cs := by
  induction cs generalizing mode ts with
  | nil =>
    obtain ⟨hts, hheld, -⟩ := weight_finish? h
    rw [hts, hheld]
    rfl
  | cons c cs ih =>
    rw [scan?] at h
    split at h
    · rename_i us next hstep
      obtain ⟨vs, hrest, rfl⟩ := Option.map_eq_some_iff.mp h
      obtain ⟨hweight, hplace⟩ := weight_step hstep (inDigits_of_scan? hrest)
      rw [weightOfAll_append, ih hrest, weigh, ← Nat.add_assoc, hweight, hplace, Nat.add_assoc]
    · cases h

end Token

/-- **A document weighs what its text weighs.** -/
theorem Node.weight_of_ofJsonText? {s : String} {n : Node} (h : Node.ofJsonText? s = some n) :
    n.weight = Token.weigh .plain s.toList := by
  rw [Node.ofJsonText?] at h
  split at h
  · cases h
  · rename_i ts hscan
    split at h
    · rename_i m stack hrun
      obtain ⟨-, hm⟩ := Option.ite_none_right_eq_some.mp h
      obtain rfl := Option.some.inj hm
      have hstart : Reader.Coherent (.value, []) := trivial
      obtain ⟨hclosed, hweight⟩ := Reader.weight_run hstart hrun
      obtain rfl : stack = [] := hclosed
      rw [Token.weight_of_scan? hscan] at hweight
      simpa [Reader.weight, Token.Mode.held, Token.Mode.place, marksWeight] using hweight
    · cases h

namespace Json

/-- No object of a document text names a key twice. -/
def NamesOnce (s : String) : Prop := ∀ n, Node.ofJsonText? s = some n → n.OncePerKey

/-- What is read from a text weighs no more than the text. -/
theorem weight_le_of_parse? {s : String} {v : Json} (h : parse? s = some v) :
    v.weight ≤ Token.weigh .plain s.toList := by
  obtain ⟨n, hn, hv⟩ := Option.bind_eq_some_iff.mp h
  exact (Node.weight_toJson? n hv).1.trans (Node.weight_of_ofJsonText? hn).le

/-- **A document in which no key is named twice weighs what its text weighs.** -/
theorem weight_of_parse? {s : String} {v : Json} (hnames : NamesOnce s) (h : parse? s = some v) :
    v.weight = Token.weigh .plain s.toList := by
  obtain ⟨n, hn, hv⟩ := Option.bind_eq_some_iff.mp h
  rw [(Node.weight_toJson? n hv).2 (hnames n hn), Node.weight_of_ofJsonText? hn]

end Json

end CaseScript

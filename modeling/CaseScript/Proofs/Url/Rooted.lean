import CaseScript.Http.Address

/-!
# Proofs/Url/Rooted — a path from the root below a base address

A path that begins with a slash is read, without its slashes at the start, below the base address of
a request.  It **stays** below the host of the base unless, by itself, it begins with a scheme or
with two slashes of either kind (`Url.leavesHost`), and it is refused if an address is written
anywhere in it.  These are all the cases there are (`url_rooted`).
-/

namespace CaseScript.Url

/-! ## What reading yields -/

section

variable {ε α β : Type}

/-- If there is a result, it is in `Q`. -/
def Yields (Q : α → Prop) (r : Except ε α) : Prop := ∀ a, r = .ok a → Q a

theorem yields_ok {Q : α → Prop} {a : α} (h : Q a) : Yields Q (.ok a : Except ε α) := by
  rintro _ ⟨⟩
  exact h

theorem eq_ok_of_toOption {r : Except ε α} {a : α} (h : r.toOption = some a) : r = .ok a := by
  cases r with
  | error e => cases h
  | ok b => exact congrArg Except.ok (Option.some.inj h)

/-- What comes last decides. -/
theorem yields_bind {Q : β → Prop} {r : Except ε α} {k : α → Except ε β}
    (h : ∀ a, Yields Q (k a)) : Yields Q (r >>= k) := by
  cases r with
  | error e => exact nofun
  | ok a => exact h a

theorem yields_ite {Q : α → Prop} {p : Prop} [Decidable p] {r s : Except ε α} (hr : Yields Q r)
    (hs : Yields Q s) : Yields Q (if p then r else s) := by
  split
  · exact hr
  · exact hs

end

/-- Other addresses can be resolved against an address, unless its scheme has no rules. -/
def Resolvable (u : Url) : Prop := u.rigid = false ∨ u.kind = .other

theorem resolvable_afterSlashes (scheme cs : List Char) :
    Yields Resolvable (afterSlashes scheme cs) := by
  unfold afterSlashes
  dsimp only
  -- every way through the parts of an authority ends with the same address
  split
  all_goals repeat' first | apply yields_ite | refine yields_bind fun _ => ?_
  all_goals exact yields_ok (.inl rfl)

theorem resolvable_fileAfterSlashes (cs : List Char) :
    Yields Resolvable (fileAfterSlashes cs) := by
  unfold fileAfterSlashes
  dsimp only
  apply yields_ite
  all_goals exact yields_bind fun _ => yields_ok (.inl rfl)

theorem resolvable_fileOf (cs : List Char) : Yields Resolvable (fileOf none cs) := by
  have hrooted : ∀ cs, Yields Resolvable (fileOf.rooted none cs) := fun _ => yields_ok (.inl rfl)
  have hrelative : ∀ cs, Yields Resolvable (fileOf.relative none cs) :=
    fun _ => yields_ok (.inl rfl)
  unfold fileOf
  split
  · apply yields_ite
    · split
      · exact yields_ite (resolvable_fileAfterSlashes _) (hrooted _)
      · exact hrooted _
    · exact hrelative _
  · exact hrelative _

theorem resolvable_afterOtherScheme {scheme : List Char} (h : SchemeKind.ofName scheme = .other)
    (cs : List Char) : Yields Resolvable (afterOtherScheme scheme cs) := by
  unfold afterOtherScheme
  split
  · exact resolvable_afterSlashes _ _
  · exact yields_ok (.inl rfl)
  · exact yields_ok (.inr h)

/-- **An address under a scheme with rules of its own can be resolved against.** -/
theorem resolvable_parse (text : List Char) : Yields Resolvable (parse text) := by
  unfold parse read
  dsimp only
  split
  · unfold afterScheme
    split
    · exact resolvable_fileOf _
    · rename_i hkind
      exact resolvable_afterOtherScheme hkind _
    · exact resolvable_afterSlashes _ _
  · exact nofun

/-! ## Below a base -/

/-- The scheme, user, host and port are those of the base. -/
def SameHost (base u : Url) : Prop := u.scheme = base.scheme ∧ u.authority = base.authority

theorem sameHost_asFolder (base : Url) : SameHost base base.asFolder ∧
    base.asFolder.rigid = base.rigid := by
  unfold asFolder
  split
  · exact ⟨⟨rfl, rfl⟩, rfl⟩
  · split <;> exact ⟨⟨rfl, rfl⟩, rfl⟩

/-- Whether a text begins with two slashes, of either kind. -/
def twoSlashes (cs : List Char) : Bool := 2 ≤ (cs.takeWhile isFileSlash).length

/-- Whether a text, read below an address, names a scheme or host itself: it begins with another
scheme, or with two slashes, perhaps behind the same scheme. -/
def leavesHost (scheme cs : List Char) : Bool :=
  match scheme? cs with
  | some (own, rest) => own ≠ scheme || twoSlashes rest
  | none => twoSlashes cs

/-- What follows the slashes at the start of a text: all of them, unless the first two are those
that are meant. -/
def behindSlashes : List Char → List Char
  | '/' :: '/' :: rest => rest
  | cs => cs.dropWhile isFileSlash

/-- The address that such a text names. -/
def ownAddress (scheme cs : List Char) : Except Fault Url :=
  match scheme? cs with
  | some (own, rest) => afterScheme none own rest
  | none => afterSlashes scheme (behindSlashes cs)

theorem twoSlashes_cons (c : Char) (cs : List Char) :
    twoSlashes (c :: cs) = (isFileSlash c && cs.head?.any isFileSlash) := by
  cases cs with
  | nil => cases hc : isFileSlash c <;> simp [twoSlashes, hc]
  | cons d cs =>
    cases hc : isFileSlash c <;> cases hd : isFileSlash d <;> simp [twoSlashes, hc, hd]

theorem relativeTo_stays (base : Url) {cs : List Char} (h : twoSlashes cs = false) :
    ∃ u, relativeTo base cs = .ok u ∧ SameHost base u := by
  unfold relativeTo
  split
  · exact ⟨_, rfl, rfl, rfl⟩
  · exact ⟨_, rfl, rfl, rfl⟩
  · exact ⟨_, rfl, rfl, rfl⟩
  · simp [twoSlashes_cons, isFileSlash] at h
  · rename_i c rest _ _ _
    rw [twoSlashes_cons] at h
    change ∃ u, (if isFileSlash c then if rest.head?.any isFileSlash then _ else _ else _) = _ ∧ _
    by_cases hc : isFileSlash c = true
    · rw [hc, Bool.true_and] at h
      rw [if_pos hc, if_neg (Bool.eq_false_iff.mp h)]
      exact ⟨_, rfl, rfl, rfl⟩
    · rw [if_neg hc]
      exact ⟨_, rfl, rfl, rfl⟩

/-- Two slashes begin an authority of their own. -/
theorem relativeTo_leaves (base : Url) {cs : List Char} (h : twoSlashes cs = true) :
    relativeTo base cs = afterSlashes base.scheme (behindSlashes cs) := by
  unfold relativeTo
  split
  · simp [twoSlashes] at h
  · simp [twoSlashes_cons, isFileSlash] at h
  · simp [twoSlashes_cons, isFileSlash] at h
  · rfl
  · rename_i c rest _ _ hslashes
    obtain ⟨hc, hrest⟩ := Bool.and_eq_true_iff.mp ((twoSlashes_cons c rest).symm.trans h)
    change (if isFileSlash c then if rest.head?.any isFileSlash then _ else _ else _) = _
    rw [if_pos hc, if_pos hrest]
    unfold behindSlashes
    split
    · rename_i heq
      cases heq
      exact (hslashes _ rfl rfl).elim
    · rw [List.dropWhile_cons_of_pos hc]
      rfl

/-- What follows a scheme with rules of its own is read below the base, if that counts. -/
theorem afterScheme_special {scheme : List Char} (h : SchemeKind.ofName scheme = .special)
    (base : Option Url) (cs : List Char) :
    afterScheme base scheme cs =
      (base.filter fun b => (cs.takeWhile isFileSlash).length < 2 ∧ b.scheme = scheme).elim
        (afterSlashes scheme (cs.drop (cs.takeWhile isFileSlash).length))
        fun b => relativeTo b cs := by
  have hslash : isFileSlash = fun c => decide (c = '/') || decide (c = '\\') := rfl
  rw [afterScheme, h, hslash]
  dsimp only
  split
  · rename_i b hb
    rw [hb]
    rfl
  · rename_i hb
    rw [hb]
    rfl

section

variable {base : Url} (hkind : base.kind = .special)
include hkind

/-- What follows the scheme of the base is read below it, without two slashes. -/
theorem afterScheme_stays {cs : List Char} (h : twoSlashes cs = false) :
    ∃ u, afterScheme (some base) base.scheme cs = .ok u ∧ SameHost base u := by
  have hslashes : (cs.takeWhile isFileSlash).length < 2 := Nat.not_le.mp (of_decide_eq_false h)
  have hbase : (some base).filter (fun b => decide ((cs.takeWhile isFileSlash).length < 2 ∧
      b.scheme = base.scheme)) = some base := by simp [hslashes]
  rw [afterScheme_special hkind, hbase]
  exact relativeTo_stays base h

/-- The base does not count behind another scheme, nor before two slashes. -/
theorem afterScheme_leaves {scheme cs : List Char}
    (h : scheme ≠ base.scheme ∨ twoSlashes cs = true) :
    afterScheme (some base) scheme cs = afterScheme none scheme cs := by
  cases hscheme : SchemeKind.ofName scheme with
  | file =>
    have hfile : base.scheme ≠ fileScheme := by
      intro hfile
      rw [kind, hfile] at hkind
      cases hkind
    have hfilter : (some base).filter (fun b => decide (b.scheme = fileScheme)) = none := by
      simp [Option.filter, hfile]
    rw [afterScheme, afterScheme, hscheme]
    dsimp only
    rw [hfilter]
    rfl
  | other => rw [afterScheme, afterScheme, hscheme]
  | special =>
    have hfilter : (some base).filter (fun b => decide ((cs.takeWhile isFileSlash).length < 2 ∧
        b.scheme = scheme)) = none := by
      obtain hother | hslashes := h
      · simp [Option.filter, Ne.symm hother]
      · have hlength : ¬(cs.takeWhile isFileSlash).length < 2 :=
          Nat.not_lt.mpr (of_decide_eq_true hslashes)
        simp [Option.filter, hlength]
    rw [afterScheme_special hscheme, afterScheme_special hscheme, hfilter]
    rfl

end

/-! ## Reading below a base -/

section

variable {base : Url} (hrigid : base.rigid = false) (hkind : base.kind = .special)
include hrigid hkind

/-- **A text that names no host itself stays below the base.** -/
theorem join_stays {text : List Char} (h : leavesHost base.scheme (cleaned text) = false) :
    ∃ u, base.join text = .ok u ∧ SameHost base u := by
  have hfile : ¬base.kind = .file := by rw [hkind]; exact nofun
  have hnotRigid : ¬base.rigid = true := Bool.eq_false_iff.mp hrigid
  unfold join read
  unfold leavesHost at h
  dsimp only at h ⊢
  cases hscheme : scheme? (cleaned text) with
  | some found =>
    obtain ⟨own, rest⟩ := found
    rw [hscheme] at h
    obtain ⟨hown, hrest⟩ := Bool.or_eq_false_iff.mp h
    obtain rfl : own = base.scheme := by simpa using hown
    exact afterScheme_stays hkind hrest
  | none =>
    rw [hscheme] at h
    dsimp only
    split
    · exact ⟨_, rfl, rfl, rfl⟩
    · rw [if_neg hnotRigid, if_neg hfile]
      exact relativeTo_stays base h

/-- **A text that names a host itself is read without the host of the base.** -/
theorem join_leaves {text : List Char} (h : leavesHost base.scheme (cleaned text) = true) :
    base.join text = ownAddress base.scheme (cleaned text) := by
  have hfile : ¬base.kind = .file := by rw [hkind]; exact nofun
  have hnotRigid : ¬base.rigid = true := Bool.eq_false_iff.mp hrigid
  unfold join read ownAddress
  unfold leavesHost at h
  dsimp only at h ⊢
  cases hscheme : scheme? (cleaned text) with
  | some found =>
    obtain ⟨own, rest⟩ := found
    rw [hscheme] at h
    refine afterScheme_leaves hkind ?_
    simpa using h
  | none =>
    rw [hscheme] at h
    dsimp only
    split
    · rename_i heq
      rw [heq] at h
      simp [twoSlashes_cons, isFileSlash] at h
    · rw [if_neg hnotRigid, if_neg hfile]
      exact relativeTo_leaves base h

end

/-- A text from the root is no address by itself. -/
theorem parse_rooted (rest : List Char) : parse ('/' :: rest) = .error .noBase := by
  have hend : (('/' :: rest).reverse.dropWhile (· ≤ ' ')).reverse =
      '/' :: (rest.reverse.dropWhile (· ≤ ' ')).reverse := by
    simp [List.dropWhile_append]
  have hcleaned : cleaned ('/' :: rest) = '/' :: (rest.reverse.dropWhile (· ≤ ' ')).reverse.filter
      fun c => c ≠ '\t' ∧ c ≠ '\n' ∧ c ≠ '\r' := by
    unfold cleaned
    rw [List.dropWhile_cons_of_neg (by decide)]
    dsimp only
    rw [hend, List.filter_cons_of_pos (by decide)]
  unfold parse read
  rw [hcleaned]
  rfl

/-- A folder on the web is an address that others are read below. -/
theorem asFolder_of_web {text : List Char} {base : Url} (hbase : parse text = .ok base)
    (hscheme : base.scheme = "http".toList ∨ base.scheme = "https".toList) :
    base.asFolder.rigid = false ∧ base.asFolder.kind = .special := by
  have hkind : base.kind = .special := by
    unfold kind
    obtain hscheme | hscheme := hscheme <;> rw [hscheme] <;> rfl
  have hrigid : base.rigid = false :=
    (resolvable_parse _ base hbase).resolve_right (by rw [hkind]; exact nofun)
  obtain ⟨⟨hfolderScheme, -⟩, hfolderRigid⟩ := sameHost_asFolder base
  exact ⟨hfolderRigid.trans hrigid, (congrArg SchemeKind.ofName hfolderScheme).trans hkind⟩

end CaseScript.Url

namespace CaseScript

/-! ## Requests -/

section

variable {r : Request}

/-- A path from the root is no address, also if one is written in it. -/
theorem url_of_written (hrooted : r.expandedPath.toList.head? = some '/')
    (hwritten : Text.contains [':', '/', '/'] r.expandedPath.toList = true) :
    r.url = .error (.other s!"Invalid URL '{r.expandedPath}': {Url.Fault.noBase.message}") := by
  obtain ⟨rest, hpath⟩ := List.head?_eq_some_iff.mp hrooted
  unfold Request.url
  dsimp only
  rw [if_pos hwritten, hpath, Url.parse_rooted]
  rfl

/-- A path with no address in it is read below the base. -/
theorem url_of_not_written {base : Url} (hbase : Url.parse r.baseUrl.toList = .ok base)
    (hne : r.expandedPath ≠ "")
    (hwritten : Text.contains [':', '/', '/'] r.expandedPath.toList = false) :
    r.url = (base.asFolder.join (dropSlashes r.expandedPath.toList)).mapError fun e =>
      .other s!"Failed to join '{r.baseUrl}' with '{r.expandedPath}': {e.message}" := by
  unfold Request.url
  dsimp only
  rw [if_neg (Bool.eq_false_iff.mp hwritten), hbase]
  dsimp only
  rw [if_neg hne]

/-- **Where a request with a path from the root goes.**  It is refused, if an address is written in
its path; else it goes to the host of its base, unless the path names another. -/
theorem url_rooted {base : Url} (hbase : Url.parse r.baseUrl.toList = .ok base)
    (hscheme : base.scheme = "http".toList ∨ base.scheme = "https".toList)
    (hrooted : r.expandedPath.toList.head? = some '/') :
    let path := r.expandedPath
    let below := Url.cleaned (dropSlashes path.toList)
    let written := Text.contains [':', '/', '/'] path.toList
    (written = true →
      r.url = .error (.other s!"Invalid URL '{path}': {Url.Fault.noBase.message}")) ∧
    (written = false → Url.leavesHost base.scheme below = false →
      ∃ u, r.url = .ok u ∧ u.scheme = base.scheme ∧ u.authority = base.authority) ∧
    (written = false → Url.leavesHost base.scheme below = true →
      r.url = (Url.ownAddress base.scheme below).mapError fun e =>
        .other s!"Failed to join '{r.baseUrl}' with '{path}': {e.message}") := by
  obtain ⟨hrigid, hkind⟩ := Url.asFolder_of_web hbase hscheme
  obtain ⟨⟨hfolderScheme, hfolderAuthority⟩, -⟩ := Url.sameHost_asFolder base
  have hne : r.expandedPath ≠ "" := by
    intro hempty
    rw [hempty] at hrooted
    cases hrooted
  refine ⟨url_of_written hrooted, fun hwritten hstays => ?_, fun hwritten hleaves => ?_⟩
  · rw [url_of_not_written hbase hne hwritten]
    rw [← hfolderScheme] at hstays
    obtain ⟨u, hu, hhost⟩ := Url.join_stays hrigid hkind hstays
    rw [hu]
    exact ⟨u, rfl, hhost.1.trans hfolderScheme, hhost.2.trans hfolderAuthority⟩
  · rw [url_of_not_written hbase hne hwritten]
    rw [← hfolderScheme] at hleaves ⊢
    rw [Url.join_leaves hrigid hkind hleaves]

end

/-- A request with a base address and a path. -/
def requestTo (baseUrl path : String) : Request := ⟨baseUrl, path, .get, [], [], [], .empty, none⟩

/-- Slashes, points, a colon and an authority in the query stay below the host. -/
theorem url_stays :
    let base : Url :=
      ⟨"http".toList, some ⟨[], "host".toList, some 8080⟩, "/api".toList, false, none, none⟩
    let r := requestTo "http://host:8080/api" "//a\\..\\../b:c?to=//d"
    (Url.parse r.baseUrl.toList = .ok base ∧ r.expandedPath.toList.head? = some '/' ∧
      Text.contains [':', '/', '/'] r.expandedPath.toList = false ∧
      Url.leavesHost base.scheme (Url.cleaned (dropSlashes r.expandedPath.toList)) = false) ∧
    ∃ u, r.url = .ok u ∧ u.scheme = base.scheme ∧ u.authority = base.authority := by
  intro base r
  have hbase : Url.parse r.baseUrl.toList = .ok base := Url.eq_ok_of_toOption (by decide +kernel)
  have hrooted : r.expandedPath.toList.head? = some '/' := by decide +kernel
  have hwritten : Text.contains [':', '/', '/'] r.expandedPath.toList = false := by decide +kernel
  have hstays :
      Url.leavesHost base.scheme (Url.cleaned (dropSlashes r.expandedPath.toList)) = false := by
    decide +kernel
  exact ⟨⟨hbase, hrooted, hwritten, hstays⟩,
    (url_rooted hbase (.inl rfl) hrooted).2.1 hwritten hstays⟩

/-- An address in the query is refused; a colon in the first segment, two backslashes, and slashes
behind a blank lead away from the host. -/
theorem url_leaves :
    (requestTo "http://host/api" "/go?to=http://a").url.toOption = none ∧
      (requestTo "http://host/api" "/x:y").url.toOption =
        some ⟨['x'], none, ['y'], true, none, none⟩ ∧
      (requestTo "http://host/api" "/\\\\a/b").url.toOption =
        some ⟨"http".toList, some ⟨[], ['a'], none⟩, ['/', 'b'], false, none, none⟩ ∧
      (requestTo "http://host/api" "/ //a/b").url.toOption =
        some ⟨"http".toList, some ⟨[], ['a'], none⟩, ['/', 'b'], false, none, none⟩ := by
  decide +kernel

end CaseScript

import CaseScript.Files.Table
import CaseScript.Proofs.Text.Keyed
import CaseScript.Proofs.Text.Search

/-!
# Proofs/Files/Table — files of one directory in a table

A path **leads** to a directory if following it ends there (`FileTable.Leads`), and what a path with
one more name reads or writes is then the entry of that name (`locate_entryPath`).  A file can only
be written where the path before its name leads (`write_entryPath`), and writing one changes neither
where paths lead nor what is read under another name (`Leads.withFile`,
`Leads.read_withFile_of_ne`).
-/

namespace CaseScript

namespace FileTable

variable {t : FileTable} {names : List String}

/-! ## What stands where -/

theorem entryAt_cons (t : FileTable) (name : String) (names : List String) :
    t.entryAt (name :: names) = (t.get? (plainPath (name :: names))).map fun text =>
      if text.isSome then .file else .directory := by
  unfold entryAt
  cases t.get? (plainPath (name :: names)) with
  | none => rfl
  | some text => cases text <;> rfl

/-- Names of one directory have paths of their own. -/
theorem plainPath_inj {a b : String} (names : List String) :
    plainPath (a :: names) = plainPath (b :: names) ↔ a = b := by
  unfold plainPath
  rw [List.reverse_cons, List.reverse_cons]
  cases names with
  | nil => exact Iff.rfl
  | cons name names =>
    have hne : (name :: names).reverse ≠ [] := by simp
    rw [String.intercalate_append_of_ne_nil hne (List.cons_ne_nil a []),
      String.intercalate_append_of_ne_nil hne (List.cons_ne_nil b []), String.append_right_inj]
    exact Iff.rfl

/-- The table with a file. -/
def withFile (t : FileTable) (names : List String) (text : String) : FileTable :=
  t.insert (plainPath names) (some text)

theorem get?_withFile_of_ne {a b : String} (h : a ≠ b) (text : String) :
    (t.withFile (b :: names) text).get? (plainPath (a :: names)) =
      t.get? (plainPath (a :: names)) :=
  Keyed.get?_insert_of_ne _ _ fun hsame => h ((plainPath_inj names).mp hsame)

/-- A file where no directory stood keeps all the directories. -/
theorem entryAt_withFile_directory {name text : String}
    (h : t.entryAt (name :: names) ≠ some .directory) {here : List String}
    (hhere : t.entryAt here = some .directory) :
    (t.withFile (name :: names) text).entryAt here = some .directory := by
  cases here with
  | nil => rfl
  | cons c here =>
    have hne : plainPath (c :: here) ≠ plainPath (name :: names) := by
      intro hsame
      rw [entryAt_cons, ← hsame, ← entryAt_cons] at h
      exact h hhere
    rw [entryAt_cons, withFile, Keyed.get?_insert_of_ne _ _ hne, ← entryAt_cons]
    exact hhere

/-- A file is no directory, whatever its name. -/
theorem entryAt_withFile_ne_directory {here : List String} (h : here ≠ [])
    (hhere : t.entryAt here ≠ some .directory) (names : List String) (text : String) :
    (t.withFile names text).entryAt here ≠ some .directory := by
  obtain ⟨c, here, rfl⟩ := List.exists_cons_of_ne_nil h
  rw [entryAt_cons] at hhere ⊢
  by_cases hkey : plainPath (c :: here) = plainPath names
  · rw [withFile, hkey, Keyed.get?_insert_self]
    exact nofun
  · rwa [withFile, Keyed.get?_insert_of_ne _ _ hkey]

theorem isSome_entryAt_withFile {here : List String} (h : (t.entryAt here).isSome)
    (names : List String) (text : String) : ((t.withFile names text).entryAt here).isSome := by
  cases here with
  | nil => rfl
  | cons c here =>
    rw [entryAt_cons, Option.isSome_map] at h ⊢
    by_cases hkey : plainPath (c :: here) = plainPath names
    · rw [withFile, hkey, Keyed.get?_insert_self]
      rfl
    · rwa [withFile, Keyed.get?_insert_of_ne _ _ hkey]

/-! ## Following a path -/

/-- One step along a path, to a next name only if something has it or `new`. -/
inductive Enters (t : FileTable) (new : Prop) (here : List String) (c : String) :
    List String → Prop
  | stay (h : isHere c) : Enters t new here c here
  | up (h : isHere c = false) (hup : c = "..") : Enters t new here c (here.drop 1)
  | down (h : isHere c = false) (hup : c ≠ "..") (hsize : c.utf8ByteSize ≤ maxNameSize)
      (hthere : (t.entryAt (c :: here)).isSome ∨ new) : Enters t new here c (c :: here)

theorem follow_cons {fresh : Bool} {here ns : List String} {c : String} (cs : List String) :
    t.follow fresh here (c :: cs) = .ok ns ↔ t.entryAt here = some .directory ∧
      ∃ next, Enters t (fresh ∧ cs = []) here c next ∧ t.follow fresh next cs = .ok ns := by
  rw [follow]
  cases t.entryAt here with
  | none => simp
  | some kind =>
    cases kind with
    | file => simp
    | directory =>
      simp only [true_and]
      constructor
      · intro h
        split at h
        · exact ⟨_, .stay ‹_›, h⟩
        rename_i hstay
        split at h
        · exact ⟨_, .up (Bool.eq_false_iff.mpr hstay) ‹_›, h⟩
        split at h
        · cases h
        split at h
        · exact ⟨_, .down (Bool.eq_false_iff.mpr hstay) ‹_› (Nat.le_of_not_lt ‹_›) ‹_›, h⟩
        · cases h
      · rintro ⟨next, hnext, h⟩
        cases hnext with
        | stay hstay => rwa [if_pos hstay]
        | up hstay hup => rwa [if_neg (Bool.eq_false_iff.mp hstay), if_pos hup]
        | down hstay hup hsize hthere =>
          rwa [if_neg (Bool.eq_false_iff.mp hstay), if_neg hup, if_neg (Nat.not_lt.mpr hsize),
            if_pos hthere]

/-- A path is followed to its last component, and then into it. -/
theorem follow_concat {fresh : Bool} {here ns : List String} {cs : List String} {c : String} :
    t.follow fresh here (cs ++ [c]) = .ok ns ↔
      ∃ names, t.follow false here cs = .ok names ∧ t.follow fresh names [c] = .ok ns := by
  induction cs generalizing here with
  | nil => simp [follow.eq_1]
  | cons d cs ih =>
    simp only [List.cons_append, follow_cons (cs ++ [c]), follow_cons cs, ih,
      List.append_eq_nil_iff, List.cons_ne_nil, and_false, false_and, Bool.false_eq_true]
    grind

/-- One is led the same way where all the directories are still there, and all that stood
somewhere. -/
theorem follow_of_kept {t' : FileTable} {here : List String} {cs : List String}
    (hdirectory : ∀ ns, t.entryAt ns = some .directory → t'.entryAt ns = some .directory)
    (hsome : ∀ ns, (t.entryAt ns).isSome → (t'.entryAt ns).isSome)
    (h : t.follow false here cs = .ok names) : t'.follow false here cs = .ok names := by
  induction cs generalizing here with
  | nil => exact h
  | cons c cs ih =>
    obtain ⟨hhere, next, hnext, hrest⟩ := (follow_cons cs).mp h
    refine (follow_cons cs).mpr ⟨hdirectory here hhere, next, ?_, ih hrest⟩
    cases hnext with
    | stay hstay => exact .stay hstay
    | up hstay hup => exact .up hstay hup
    | down hstay hup hsize hthere => exact .down hstay hup hsize (hthere.imp_left (hsome _))

/-! ## The entries of a directory -/

/-- A name of an entry and nothing else: it does not lead to where one stands, or above. -/
structure PlainName (name : String) : Prop where
  noSlash : '/' ∉ name.toList
  notHere : isHere name = false
  notAbove : name ≠ ".."

/-- A name that a file can have. -/
structure Fits (name : String) : Prop where
  noZero : '\x00' ∉ name.toList
  size : name.utf8ByteSize ≤ maxNameSize

instance (name : String) : Decidable (Fits name) :=
  decidable_of_iff ('\x00' ∉ name.toList ∧ name.utf8ByteSize ≤ maxNameSize)
    ⟨fun h => ⟨h.1, h.2⟩, fun h => ⟨h.noZero, h.size⟩⟩

/-- The path leads to the directory with the names. -/
structure Leads (t : FileTable) (directory : String) (names : List String) : Prop where
  noZero : '\x00' ∉ directory.toList
  relative : ¬['/'] <+: directory.toList
  followed : t.follow false [] (components directory) = .ok names
  stands : t.entryAt names = some .directory

theorem Leads.unique {directory : String} {ns : List String} (h : t.Leads directory names)
    (h' : t.Leads directory ns) : ns = names :=
  Except.ok.inj (h'.followed.symm.trans h.followed)

theorem follow_empty {ns : List String} :
    t.follow false names [""] = .ok ns ↔ t.entryAt names = some .directory ∧ ns = names := by
  rw [follow_cons]
  refine and_congr_right fun _ => ⟨?_, ?_⟩
  · rintro ⟨next, hnext, hns⟩
    obtain rfl := Except.ok.inj hns
    cases hnext with
    | stay => rfl
    | up h => cases h
    | down h => cases h
  · rintro rfl
    exact ⟨_, .stay rfl, rfl⟩

theorem follow_plainName {fresh : Bool} {name : String} (hname : PlainName name)
    {ns : List String} : t.follow fresh names [name] = .ok ns ↔
      t.entryAt names = some .directory ∧ name.utf8ByteSize ≤ maxNameSize ∧
        ((t.entryAt (name :: names)).isSome ∨ fresh) ∧ ns = name :: names := by
  rw [follow_cons]
  refine and_congr_right fun _ => ⟨?_, ?_⟩
  · rintro ⟨next, hnext, hns⟩
    obtain rfl := Except.ok.inj hns
    cases hnext with
    | stay hstay => exact absurd (hname.notHere.symm.trans hstay) nofun
    | up _ hup => exact absurd hup hname.notAbove
    | down _ _ hsize hthere => exact ⟨hsize, hthere.imp_right And.left, rfl⟩
  · rintro ⟨hsize, hthere, rfl⟩
    exact ⟨_, .down hname.notHere hname.notAbove hsize (hthere.imp_right fun h => ⟨h, rfl⟩), rfl⟩

theorem components_append (a b : List Char) :
    components (String.ofList (a ++ '/' :: b)) =
      components (String.ofList a) ++ components (String.ofList b) := by
  simp [components, Text.splitOn_append]

theorem components_plainName {name : String} (h : PlainName name) : components name = [name] := by
  rw [components, Text.splitOn_eq_singleton h.noSlash]
  simp

/-- The path of an entry has the components of the directory and the name, where a slash at the end
of the directory does not count. -/
theorem components_entryPath (directory : String) {name : String} (h : PlainName name) :
    ∃ cs, components (Files.entryPath directory name) = cs ++ [name] ∧
      (components directory = cs ∨ components directory = cs ++ [""]) := by
  have hname : components (String.ofList name.toList) = [name] := by
    rw [String.ofList_toList, components_plainName h]
  unfold Files.entryPath
  split
  · rename_i hend
    by_cases hempty : directory = ""
    · subst hempty
      exact ⟨[], by rw [String.empty_append, components_plainName h]; rfl, .inr rfl⟩
    · obtain ⟨front, hfront⟩ := List.isSuffixOf_iff_suffix.mp (hend.resolve_left hempty)
      refine ⟨components (String.ofList front), ?_, .inr ?_⟩
      · rw [← hname, ← components_append]
        congr 1
        apply String.toList_injective
        simp [← hfront]
      · rw [← String.ofList_toList (s := directory), ← hfront, components_append]
        rfl
  · refine ⟨components directory, ?_, .inl rfl⟩
    rw [← hname, ← String.ofList_toList (s := directory), ← components_append]
    congr 1
    apply String.toList_injective
    simp

theorem mem_entryPath {directory name : String} {c : Char} (hc : c ≠ '/') :
    c ∈ (Files.entryPath directory name).toList ↔ c ∈ directory.toList ∨ c ∈ name.toList := by
  unfold Files.entryPath
  split <;> simp [hc]

/-- The path of an entry starts with a slash only if that of the directory does. -/
theorem slash_prefix_entryPath (directory : String) {name : String} (h : PlainName name) :
    ['/'] <+: (Files.entryPath directory name).toList ↔ ['/'] <+: directory.toList := by
  have hname : ¬['/'] <+: name.toList := fun hslash => h.noSlash (hslash.mem (by simp))
  unfold Files.entryPath
  cases hlist : directory.toList with
  | nil =>
    obtain rfl : directory = "" := String.toList_injective hlist
    simpa using hname
  | cons c cs => split <;> simp [hlist]

theorem locate_eq_ok {fresh : Bool} {path : String} {ns : List String} :
    t.locate fresh path = .ok ns ↔ '\x00' ∉ path.toList ∧ path ≠ "" ∧ ¬['/'] <+: path.toList ∧
      t.follow fresh [] (components path) = .ok ns := by
  simp only [locate, List.contains_iff_mem, List.isPrefixOf_iff_prefix]
  by_cases hzero : '\x00' ∈ path.toList
  · simp [hzero]
  · by_cases hroot : path = "" ∨ ['/'] <+: path.toList
    · rw [if_neg hzero, if_pos hroot]
      refine ⟨nofun, fun h => ?_⟩
      exact absurd hroot (not_or.mpr ⟨h.2.1, h.2.2.1⟩)
    · rw [if_neg hzero, if_neg hroot]
      exact ⟨fun h => ⟨hzero, (not_or.mp hroot).1, (not_or.mp hroot).2, h⟩, fun h => h.2.2.2⟩

/-- **The path of an entry is followed through the directory to its name.** -/
theorem locate_entryPath {fresh : Bool} {directory name : String} (hname : PlainName name)
    {ns : List String} : t.locate fresh (Files.entryPath directory name) = .ok ns ↔
      ∃ names, t.Leads directory names ∧ Fits name ∧
        ((t.entryAt (name :: names)).isSome ∨ fresh) ∧ ns = name :: names := by
  obtain ⟨cs, hpath, hdirectory⟩ := components_entryPath directory hname
  -- a slash at the end of the directory leads nowhere else
  have hfollowed : ∀ names, t.entryAt names = some .directory →
      (t.follow false [] (components directory) = .ok names ↔
        t.follow false [] cs = .ok names) := by
    intro names hstands
    rcases hdirectory with h | h
    · rw [h]
    · rw [h, follow_concat]
      refine ⟨fun ⟨ns, hns, hlast⟩ => ?_, fun hns => ⟨names, hns, follow_empty.mpr ⟨hstands, rfl⟩⟩⟩
      rwa [(follow_empty.mp hlast).2]
  have hne : Files.entryPath directory name ≠ "" := by
    intro h
    rw [h] at hpath
    have hlast : [] ++ [""] = cs ++ [name] := hpath
    obtain rfl : "" = name := List.singleton_inj.mp (List.append_inj' hlast rfl).2
    exact absurd hname.notHere (by decide)
  rw [locate_eq_ok, hpath, follow_concat, mem_entryPath (by decide),
    slash_prefix_entryPath directory hname]
  simp only [follow_plainName hname]
  constructor
  · rintro ⟨hzero, -, hrelative, names, hnames, hstands, hsize, hthere, rfl⟩
    have hleads : t.Leads directory names :=
      ⟨fun h => hzero (.inl h), hrelative, (hfollowed names hstands).mpr hnames, hstands⟩
    exact ⟨names, hleads, ⟨fun h => hzero (.inr h), hsize⟩, hthere, rfl⟩
  · rintro ⟨names, hleads, hfits, hthere, rfl⟩
    exact ⟨not_or.mpr ⟨hleads.noZero, hfits.noZero⟩, hne, hleads.relative, names,
      (hfollowed names hleads.stands).mp hleads.followed, hleads.stands, hfits.size, hthere, rfl⟩

/-! ## Reading and writing -/

theorem read_eq_some {path text : String} : t.read path = some text ↔
    ∃ ns, t.locate false path = .ok ns ∧ t.get? (plainPath ns) = some (some text) := by
  unfold read
  cases t.locate false path with
  | error e => simp
  | ok ns => simp [Option.join_eq_some_iff]

theorem Leads.read_entryPath {directory name text : String} (h : t.Leads directory names)
    (hname : PlainName name) : t.read (Files.entryPath directory name) = some text ↔
      Fits name ∧ t.get? (plainPath (name :: names)) = some (some text) := by
  rw [read_eq_some]
  constructor
  · rintro ⟨ns, hns, htext⟩
    obtain ⟨here, hleads, hfits, -, rfl⟩ := (locate_entryPath hname).mp hns
    rw [h.unique hleads] at htext
    exact ⟨hfits, htext⟩
  · rintro ⟨hfits, htext⟩
    refine ⟨_, (locate_entryPath hname).mpr ⟨names, h, hfits, .inl ?_, rfl⟩, htext⟩
    rw [entryAt_cons, htext]
    rfl

/-- **A file is written where the path before its name leads**, unless a directory has the name. -/
theorem write_entryPath {t' : FileTable} {directory name text : String} (hname : PlainName name) :
    t.write (Files.entryPath directory name) text = .ok t' ↔
      ∃ names, t.Leads directory names ∧ Fits name ∧
        t.entryAt (name :: names) ≠ some .directory ∧ t' = t.withFile (name :: names) text := by
  unfold write
  constructor
  · intro h
    split at h
    · cases h
    · rename_i ns hns
      obtain ⟨names, hleads, hfits, -, rfl⟩ := (locate_entryPath hname).mp hns
      split at h
      · cases h
      · exact ⟨names, hleads, hfits, ‹_›, (Except.ok.inj h).symm⟩
  · rintro ⟨names, hleads, hfits, hno, rfl⟩
    rw [(locate_entryPath hname).mpr ⟨names, hleads, hfits, .inr rfl, rfl⟩]
    exact if_neg hno

section

variable {directory name text : String} (h : t.Leads directory names)
  (hno : t.entryAt (name :: names) ≠ some .directory)
include h hno

/-- Where a path led it still leads. -/
theorem Leads.withFile : (t.withFile (name :: names) text).Leads directory names where
  noZero := h.noZero
  relative := h.relative
  followed := follow_of_kept (fun _ => entryAt_withFile_directory hno)
    (fun _ hsome => isSome_entryAt_withFile hsome _ _) h.followed
  stands := entryAt_withFile_directory hno h.stands

/-- What was written is read. -/
theorem Leads.read_withFile_self (hname : PlainName name) (hfits : Fits name) :
    (t.withFile (name :: names) text).read (Files.entryPath directory name) = some text :=
  ((h.withFile hno).read_entryPath hname).mpr ⟨hfits, Keyed.get?_insert_self ..⟩

/-- Under other names one reads what was there. -/
theorem Leads.read_withFile_of_ne {other : String} (hother : PlainName other)
    (hne : other ≠ name) : (t.withFile (name :: names) text).read
      (Files.entryPath directory other) = t.read (Files.entryPath directory other) := by
  refine Option.ext fun a => ?_
  rw [(h.withFile hno).read_entryPath hother, h.read_entryPath hother, get?_withFile_of_ne hne]

end

/-- A directory that a path leads to is there, unless the path is empty. -/
theorem Leads.kind {directory : String} (h : t.Leads directory names) (hne : directory ≠ "") :
    t.kind directory = some .directory := by
  unfold FileTable.kind
  rw [locate_eq_ok.mpr ⟨h.noZero, hne, h.relative, h.followed⟩]
  exact h.stands

end FileTable

end CaseScript

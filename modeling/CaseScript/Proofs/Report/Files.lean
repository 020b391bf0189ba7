import CaseScript.Command.Bench
import CaseScript.Proofs.Files.Table
import Mathlib.Data.List.Forall2

/-!
# Proofs/Report/Files — which reports of cases share a file

The name of a report's file has an underscore for every blank and slash of the case number.  So two
reports that are written in one second have **one** file if their case numbers differ only in which
of blank, slash and underscore they have where (`SameFile`), and different files otherwise
(`fileName_eq_iff`).  Of reports with one file the last one stays (`saved_reports`), and every save
says that it was done.
-/

namespace CaseScript

/-! ## Names of files -/

/-- A file's name does not tell the two characters apart. -/
def SameInFile (a b : Char) : Prop := a = b ∨ a ∈ [' ', '/', '_'] ∧ b ∈ [' ', '/', '_']

/-- The case numbers differ only in which of blank, slash and underscore they have where. -/
def SameFile (a b : String) : Prop := List.Forall₂ SameInFile a.toList b.toList

theorem fileId_eq_iff {a b : String} : fileId a = fileId b ↔ SameFile a b := by
  have hchar : ∀ a b : Char, (if a = ' ' ∨ a = '/' then '_' else a) =
      (if b = ' ' ∨ b = '/' then '_' else b) ↔ SameInFile a b := by
    intro a b
    simp only [SameInFile, List.mem_cons, List.not_mem_nil, or_false]
    split <;> split <;> grind
  rw [fileId, fileId, String.ofList_inj, ← List.forall₂_eq_eq_eq, List.forall₂_map_left_iff,
    List.forall₂_map_right_iff, SameFile]
  simp only [hchar]

theorem slash_not_mem_fileId (id : String) : '/' ∉ (fileId id).toList := by
  rw [fileId, String.toList_ofList, List.mem_map]
  rintro ⟨c, -, hc⟩
  split at hc
  · cases hc
  · rename_i hplain
    exact hplain (.inr hc)

namespace CaseReport

variable (r s : CaseReport) (format : ReportFormat) (second : Nat)

theorem toList_fileName : (r.fileName format second).toList =
    (fileId r.caseId).toList ++ '-' :: (Nat.toDigits 10 second ++ '.' :: format.ending.toList) := by
  have hname : r.fileName format second =
      fileId r.caseId ++ "-" ++ second.repr ++ "." ++ format.ending := rfl
  simp [hname]

/-- **Two reports of one second have one file name just if their case numbers differ only in which
of blank, slash and underscore they have where.** -/
theorem fileName_eq_iff :
    r.fileName format second = s.fileName format second ↔ SameFile r.caseId s.caseId := by
  rw [← String.toList_inj, toList_fileName, toList_fileName, List.append_left_inj,
    String.toList_inj, fileId_eq_iff]

theorem plainName_fileName : FileTable.PlainName (r.fileName format second) := by
  have hdash : '-' ∈ (r.fileName format second).toList := by simp [toList_fileName]
  refine ⟨?_, ?_, ?_⟩
  · rw [toList_fileName]
    have hdigits : '/' ∉ Nat.toDigits 10 second := fun h =>
      absurd (Nat.isDigit_of_mem_toDigits (by omega) (by omega) h) (by decide)
    have hending : '/' ∉ format.ending.toList := by cases format <;> decide
    simp [slash_not_mem_fileId, hdigits, hending]
  · rw [FileTable.isHere, Bool.or_eq_false_iff, decide_eq_false_iff_not, decide_eq_false_iff_not]
    exact ⟨fun h => absurd (h ▸ hdash) (by decide), fun h => absurd (h ▸ hdash) (by decide)⟩
  · exact fun h => absurd (h ▸ hdash) (by decide)

/-- A report as text begins with the name of its case. -/
theorem exists_content_text : ∃ rest, r.content .text = "Case: " ++ (r.name ++ rest) := by
  obtain ⟨lines, hlines⟩ : ∃ lines, r.textLines =
      ("Case: " ++ r.name ++ " (" ++ r.caseId ++ ")") :: lines := ⟨_, rfl⟩
  rw [content, hlines, List.map_cons, String.join_cons]
  simp only [String.append_assoc]
  exact ⟨_, rfl⟩

end CaseReport

theorem entryPath_inj (directory : String) {a b : String} :
    Files.entryPath directory a = Files.entryPath directory b ↔ a = b := by
  unfold Files.entryPath
  split <;> rw [String.append_right_inj]

/-! ## Saving one report -/

namespace Bench

variable {outside : Outside} {runId directory : String} {format : ReportFormat} {r : CaseReport}
  {b : Bench} {names : List String}

/-- The files once the directory is there, if it can be made. -/
def prepared (t : FileTable) (directory : String) : Except FileFault FileTable :=
  if (t.kind directory).isSome then .ok t else t.makeDirectory directory

theorem prepared_of_leads {t : FileTable} (h : t.Leads directory names) :
    prepared t directory = .ok t := by
  by_cases hempty : directory = ""
  · subst hempty
    exact ite_self _
  · rw [prepared, h.kind hempty]
    rfl

section

variable {change : FileTable → Except FileFault FileTable}

theorem run_changeFiles_of_ok {t : FileTable} (h : change b.files = .ok t) :
    (changeFiles change).run b = (.ok (), { b with files := t }) := by
  simp only [changeFiles, StateT.run_bind, StateT.run_get, pure_bind, h]
  rfl

theorem run_changeFiles_of_error {e : FileFault} (h : change b.files = .error e) :
    (changeFiles change).run b = (.error e.message, b) := by
  simp only [changeFiles, StateT.run_bind, StateT.run_get, pure_bind, h]
  rfl

end

/-- The path at which the report of a case is written. -/
def reportPath (b : Bench) (directory : String) (format : ReportFormat) (r : CaseReport) : String :=
  Files.entryPath directory (r.fileName format (b.world.clock / 1000))

/-- Writes the report of a case into a directory that is there. -/
def writeReport (outside : Outside) (runId directory : String) (format : ReportFormat)
    (r : CaseReport) : StateM Bench (Except String String) := do
  let now ← (host outside runId).perform Act.now
  let path := Files.entryPath directory (r.fileName format (now / 1000))
  return (← (host outside runId).write path (r.content format)).map fun _ => path

theorem run_writeReport_of_ok (b : Bench) {t : FileTable}
    (h : b.files.write (b.reportPath directory format r) (r.content format) = .ok t) :
    (writeReport outside runId directory format r).run b =
      (.ok (b.reportPath directory format r), { b with files := t }) := by
  change ((changeFiles fun t => t.write (b.reportPath directory format r) (r.content format)).run
    b).map (fun result => result.map fun _ => b.reportPath directory format r) id = _
  rw [run_changeFiles_of_ok h]
  rfl

theorem run_writeReport_of_error (b : Bench) {e : FileFault}
    (h : b.files.write (b.reportPath directory format r) (r.content format) = .error e) :
    (writeReport outside runId directory format r).run b = (.error e.message, b) := by
  change ((changeFiles fun t => t.write (b.reportPath directory format r) (r.content format)).run
    b).map (fun result => result.map fun _ => b.reportPath directory format r) id = _
  rw [run_changeFiles_of_error h]
  rfl

theorem run_saveReport_of_ok {t : FileTable} (h : prepared b.files directory = .ok t) :
    (Command.saveReport (host outside runId) directory format r).run b =
      (writeReport outside runId directory format r).run { b with files := t } := by
  unfold prepared at h
  split at h
  · rename_i hkind
    obtain rfl := Except.ok.inj h
    simp only [Command.saveReport, host, FileTable.files, bind_assoc, pure_bind, StateT.run_bind,
      StateT.run_get, hkind, if_true]
    rfl
  · rename_i hkind
    have hmade : (changeFiles fun t => t.makeDirectory directory).run b = _ :=
      run_changeFiles_of_ok h
    simp only [Command.saveReport, host, FileTable.files, bind_assoc, pure_bind, StateT.run_bind,
      StateT.run_get, hkind, if_false, Bool.false_eq_true, hmade]
    rfl

theorem run_saveReport_of_error {e : FileFault} (h : prepared b.files directory = .error e) :
    (Command.saveReport (host outside runId) directory format r).run b = (.error e.message, b) := by
  unfold prepared at h
  split at h
  · cases h
  · rename_i hkind
    have hmade : (changeFiles fun t => t.makeDirectory directory).run b = _ :=
      run_changeFiles_of_error h
    simp only [Command.saveReport, host, FileTable.files, bind_assoc, pure_bind, StateT.run_bind,
      StateT.run_get, hkind, if_false, Bool.false_eq_true, hmade]
    rfl

/-- A save that succeeds writes the report, and nothing else where the directory is there. -/
structure Saves (directory : String) (format : ReportFormat) (b : Bench) (r : CaseReport)
    (b' : Bench) : Prop where
  world : b'.world = b.world
  leads : ∃ names, b'.files.Leads directory names
  own : b'.files.read (b.reportPath directory format r) = some (r.content format)
  others : ∀ names, b.files.Leads directory names → ∀ name, FileTable.PlainName name →
    name ≠ r.fileName format (b.world.clock / 1000) →
    b'.files.read (Files.entryPath directory name) = b.files.read (Files.entryPath directory name)

theorem saves_of_run_eq {path : String} {b' : Bench}
    (h : (Command.saveReport (host outside runId) directory format r).run b = (.ok path, b')) :
    path = b.reportPath directory format r ∧ Saves directory format b r b' := by
  cases hprepared : prepared b.files directory with
  | error e =>
    rw [run_saveReport_of_error hprepared] at h
    cases h
  | ok t =>
    rw [run_saveReport_of_ok hprepared] at h
    cases hwritten : t.write (b.reportPath directory format r) (r.content format) with
    | error e =>
      rw [run_writeReport_of_error { b with files := t } hwritten] at h
      cases h
    | ok t' =>
      rw [run_writeReport_of_ok { b with files := t } hwritten] at h
      cases h
      have hname := r.plainName_fileName format (b.world.clock / 1000)
      obtain ⟨names, hleads, hfits, hno, rfl⟩ := (FileTable.write_entryPath hname).mp hwritten
      refine ⟨rfl, rfl, ⟨names, hleads.withFile hno⟩, hleads.read_withFile_self hno hname hfits, ?_⟩
      intro ns hns name hplain hne
      obtain rfl : b.files = t := Except.ok.inj ((prepared_of_leads hns).symm.trans hprepared)
      exact hleads.read_withFile_of_ne hno hplain hne

/-- A file with the name of a report can be written into the directory with the names. -/
def Admits (b : Bench) (names : List String) (format : ReportFormat) (r : CaseReport) : Prop :=
  FileTable.Fits (r.fileName format (b.world.clock / 1000)) ∧
    b.files.entryAt (r.fileName format (b.world.clock / 1000) :: names) ≠ some .directory

instance (b : Bench) (names : List String) (format : ReportFormat) (r : CaseReport) :
    Decidable (b.Admits names format r) := inferInstanceAs (Decidable (_ ∧ _))

/-- A directory that is there and admits a report gets it. -/
theorem run_saveReport_of_admits (hleads : b.files.Leads directory names)
    (h : b.Admits names format r) :
    (Command.saveReport (host outside runId) directory format r).run b =
      let name := r.fileName format (b.world.clock / 1000)
      (.ok (b.reportPath directory format r),
        { b with files := b.files.withFile (name :: names) (r.content format) }) := by
  have hwritten : b.files.write (b.reportPath directory format r) (r.content format) = .ok _ :=
    (FileTable.write_entryPath (r.plainName_fileName ..)).mpr ⟨names, hleads, h.1, h.2, rfl⟩
  rw [run_saveReport_of_ok (prepared_of_leads hleads), run_writeReport_of_ok b hwritten]

/-- Reports saved one after the other. -/
inductive SavesAll (directory : String) (format : ReportFormat) :
    Bench → List CaseReport → Bench → Prop
  | nil (b : Bench) : SavesAll directory format b [] b
  | cons {b b₁ b₂ : Bench} {r : CaseReport} {rs : List CaseReport} :
      Saves directory format b r b₁ → SavesAll directory format b₁ rs b₂ →
      SavesAll directory format b (r :: rs) b₂

/-- Saves reports one after the other, and gives what every save gives. -/
def saveAll (outside : Outside) (runId directory : String) (format : ReportFormat)
    (rs : List CaseReport) (b : Bench) : List (Except String String) × Bench :=
  (rs.mapM (Command.saveReport (host outside runId) directory format)).run b

theorem saveAll_cons (r : CaseReport) (rs : List CaseReport) (b : Bench) :
    saveAll outside runId directory format (r :: rs) b =
      let first := (Command.saveReport (host outside runId) directory format r).run b
      let rest := saveAll outside runId directory format rs first.2
      (first.1 :: rest.1, rest.2) := by
  rw [saveAll, List.mapM_cons]
  rfl

theorem savesAll_of_saveAll_eq {rs : List CaseReport} {paths : List String}
    (h : (saveAll outside runId directory format rs b).1 = paths.map .ok) :
    paths = rs.map (b.reportPath directory format) ∧
      SavesAll directory format b rs (saveAll outside runId directory format rs b).2 := by
  induction rs generalizing b paths with
  | nil =>
    obtain rfl : paths = [] := List.map_eq_nil_iff.mp h.symm
    exact ⟨rfl, .nil b⟩
  | cons r rs ih =>
    rw [saveAll_cons] at h ⊢
    obtain ⟨path, rest, rfl, hfirst, hrest⟩ := List.map_eq_cons_iff.mp h.symm
    obtain ⟨rfl, hr⟩ := saves_of_run_eq (Prod.ext hfirst.symm rfl)
    obtain ⟨rfl, hrs⟩ := ih hrest.symm
    refine ⟨?_, .cons hr hrs⟩
    rw [List.map_cons]
    congr 2
    funext s
    rw [reportPath, reportPath, hr.world]

/-- A directory that is there and admits reports gets them all. -/
theorem saveAll_of_admits (outside : Outside) (runId : String) {rs : List CaseReport}
    (hleads : b.files.Leads directory names) (h : ∀ r ∈ rs, b.Admits names format r) :
    (saveAll outside runId directory format rs b).1 =
      (rs.map (b.reportPath directory format)).map .ok := by
  induction rs generalizing b with
  | nil => rfl
  | cons r rs ih =>
    obtain ⟨hr, hrs⟩ := List.forall_mem_cons.mp h
    rw [saveAll_cons, run_saveReport_of_admits hleads hr]
    refine congrArg (List.cons _) (ih (hleads.withFile hr.2) fun s hs => ⟨(hrs s hs).1, ?_⟩)
    exact FileTable.entryAt_withFile_ne_directory (List.cons_ne_nil _ _) (hrs s hs).2 _ _

namespace SavesAll

variable {b' : Bench} {rs : List CaseReport}

/-- Reports with other names leave a file as it is. -/
theorem read_of_ne (h : SavesAll directory format b rs b') {names : List String}
    (hleads : b.files.Leads directory names) {name : String} (hname : FileTable.PlainName name)
    (hne : ∀ r ∈ rs, name ≠ r.fileName format (b.world.clock / 1000)) :
    b'.files.read (Files.entryPath directory name) =
      b.files.read (Files.entryPath directory name) := by
  induction h generalizing names with
  | nil => rfl
  | cons hr _ ih =>
    obtain ⟨names₁, hleads₁⟩ := hr.leads
    rw [ih hleads₁ (by rw [hr.world]; exact (List.forall_mem_cons.mp hne).2)]
    exact hr.others names hleads name hname (List.forall_mem_cons.mp hne).1

/-- The last of the reports with one file is the one that is read. -/
theorem read_last {before after : List CaseReport}
    (h : SavesAll directory format b (before ++ r :: after) b')
    (hlast : ∀ s ∈ after, ¬SameFile r.caseId s.caseId) :
    b'.files.read (b.reportPath directory format r) = some (r.content format) := by
  induction before generalizing b with
  | nil =>
    cases h with
    | cons hr hafter =>
      obtain ⟨names, hleads⟩ := hr.leads
      rw [reportPath, hafter.read_of_ne hleads (r.plainName_fileName ..)]
      · exact hr.own
      · intro s hs
        rw [hr.world, Ne, CaseReport.fileName_eq_iff]
        exact hlast s hs
  | cons s before ih =>
    cases h with
    | cons hs hrest =>
      have := ih hrest
      rwa [reportPath, hs.world] at this

end SavesAll

theorem reportPath_eq_iff (b : Bench) (directory : String) (format : ReportFormat)
    (r s : CaseReport) : b.reportPath directory format r = b.reportPath directory format s ↔
      SameFile r.caseId s.caseId := by
  rw [reportPath, reportPath, entryPath_inj, CaseReport.fileName_eq_iff]

/-- **Where reports are saved, each has a file of its own just if no two case numbers differ only in
which of blank, slash and underscore they have where**; then every report is there.  Of reports with
one file the last one is there.  A directory that admits the reports gets them all. -/
theorem saved_reports (outside : Outside) (runId directory : String) (format : ReportFormat)
    (rs : List CaseReport) (b : Bench) :
    let saved := saveAll outside runId directory format rs b
    (∀ names, b.files.Leads directory names → (∀ r ∈ rs, b.Admits names format r) →
      saved.1 = (rs.map (b.reportPath directory format)).map .ok) ∧
    ∀ paths : List String, saved.1 = paths.map .ok →
      paths = rs.map (b.reportPath directory format) ∧
      (paths.Nodup ↔ rs.Pairwise fun r s => ¬SameFile r.caseId s.caseId) ∧
      (paths.Nodup → ∀ r ∈ rs,
        saved.2.files.read (b.reportPath directory format r) = some (r.content format)) ∧
      (∀ before s after, rs = before ++ s :: after → (∀ x ∈ after, ¬SameFile s.caseId x.caseId) →
        ∀ r, SameFile r.caseId s.caseId →
          saved.2.files.read (b.reportPath directory format r) = some (s.content format)) := by
  refine ⟨fun names => saveAll_of_admits outside runId, fun paths h => ?_⟩
  obtain ⟨rfl, hrun⟩ := savesAll_of_saveAll_eq h
  have hnodup : (rs.map (b.reportPath directory format)).Nodup ↔
      rs.Pairwise fun r s => ¬SameFile r.caseId s.caseId := by
    rw [List.nodup_iff_pairwise_ne, List.pairwise_map]
    simp only [Ne, reportPath_eq_iff]
  refine ⟨rfl, hnodup, fun hpaths r hr => ?_, ?_⟩
  · obtain ⟨before, after, rfl⟩ := List.append_of_mem hr
    have hafter := (List.pairwise_cons.mp (List.pairwise_append.mp (hnodup.mp hpaths)).2.1).1
    exact hrun.read_last hafter
  · rintro before s after rfl hafter r hsame
    rw [(reportPath_eq_iff b directory format r s).mpr hsame]
    exact hrun.read_last hafter

end Bench

/-! ## Reports of one second -/

/-- A collaborator that is not there. -/
def nobody : Outside where
  send _ _ := ⟨false, 0, .error .cancelled⟩
  query _ _ := ⟨false, 0, .error .cancelled⟩

/-- The report of a case without steps. -/
def bareReport (caseId : String) : CaseReport := ⟨"run", caseId, caseId, true, 0, 0, []⟩

/-- A machine with a directory for reports. -/
def reportBench : Bench := .start [("reports", none)]

theorem leads_reportBench : reportBench.files.Leads "reports" ["reports"] where
  noZero := by decide
  relative := by decide
  followed := by rfl
  stands := by decide

theorem reportPath_bare :
    reportBench.reportPath "reports" .text (bareReport "a b") = "reports/a_b-0.txt" ∧
      reportBench.reportPath "reports" .text (bareReport "a/b") = "reports/a_b-0.txt" := by
  decide

/-- Case numbers with a blank and a dash have a file each. -/
theorem dashReport_apart :
    (Bench.saveAll nobody "run" "reports" .text [bareReport "a b", bareReport "a-b"]
        reportBench).1 = ["reports/a_b-0.txt", "reports/a-b-0.txt"].map .ok ∧
      (Bench.saveAll nobody "run" "reports" .text [bareReport "a b", bareReport "a-b"]
        reportBench).2.files.read "reports/a_b-0.txt" =
          some ((bareReport "a b").content .text) := by
  have hadmits : ∀ r ∈ [bareReport "a b", bareReport "a-b"],
      reportBench.Admits ["reports"] .text r := by decide
  have hpaths : [bareReport "a b", bareReport "a-b"].map (reportBench.reportPath "reports" .text) =
      ["reports/a_b-0.txt", "reports/a-b-0.txt"] := by decide
  obtain ⟨hsaves, hkeeps⟩ := Bench.saved_reports nobody "run" "reports" .text
    [bareReport "a b", bareReport "a-b"] reportBench
  have hsaved := hsaves ["reports"] leads_reportBench hadmits
  rw [hpaths] at hsaved
  obtain ⟨-, -, hthere, -⟩ := hkeeps _ hsaved
  refine ⟨hsaved, ?_⟩
  rw [← reportPath_bare.1]
  exact hthere (by decide) (bareReport "a b") List.mem_cons_self

/-- **A slash in place of a blank takes the file of another case**: both saves are done, and the
report of the first case is gone. -/
theorem slashReport_together :
    (bareReport "a b").caseId ≠ (bareReport "a/b").caseId ∧
    (Bench.saveAll nobody "run" "reports" .text [bareReport "a b", bareReport "a/b"]
        reportBench).1 = ["reports/a_b-0.txt", "reports/a_b-0.txt"].map .ok ∧
      (Bench.saveAll nobody "run" "reports" .text [bareReport "a b", bareReport "a/b"]
        reportBench).2.files.read "reports/a_b-0.txt" =
          some ((bareReport "a/b").content .text) ∧
      (bareReport "a/b").content .text ≠ (bareReport "a b").content .text := by
  have hadmits : ∀ r ∈ [bareReport "a b", bareReport "a/b"],
      reportBench.Admits ["reports"] .text r := by decide
  have hpaths : [bareReport "a b", bareReport "a/b"].map (reportBench.reportPath "reports" .text) =
      ["reports/a_b-0.txt", "reports/a_b-0.txt"] := by decide
  have hsaved := Bench.saveAll_of_admits nobody "run" leads_reportBench hadmits
  rw [hpaths] at hsaved
  have hrun : Bench.SavesAll "reports" .text reportBench
      ([bareReport "a b"] ++ bareReport "a/b" :: []) _ := (Bench.savesAll_of_saveAll_eq hsaved).2
  refine ⟨by decide, hsaved, ?_, fun h => ?_⟩
  · rw [← reportPath_bare.2]
    exact hrun.read_last nofun
  · obtain ⟨rest, hslash⟩ := (bareReport "a/b").exists_content_text
    obtain ⟨rest', hblank⟩ := (bareReport "a b").exists_content_text
    rw [hslash, hblank, String.append_right_inj] at h
    have hchars := congrArg String.toList h
    simp [bareReport] at hchars

end CaseScript

import Reidentify.Proofs.Shell.Agreement

/-!
# Where exported runs are written

A run is exported to a file whose name starts with the label of the run, and the name is read as a
path that goes on from the directory for the file. A label without a slash is one name, so the file
lies in the directory. A label with a slash leads elsewhere: to a directory below if none of its
names leads back, and to anywhere otherwise, also over files that have nothing to do with the store.

## Main definitions

* `Surroundings.exportLabel`: what the name of the file starts with.
* `Surroundings.Exported`: where the file of a run is, and what else is changed.

## Main statements

* `Surroundings.grows_or_exported`: every export fails without writing a file, or has written one
  file, in its directory or not.
* `Surroundings.exists_export_outside`: a run is written over a file outside of its directory.
-/

namespace Reidentify

namespace Surroundings

open Work

variable {s : Surroundings} {files after : Files} {store path : Path} {run : StoredRun}
  {request : ExportRequest}

/-- What the name of the file for a `run` starts with: its revision, or its key if the revision is
empty. -/
def exportLabel (run : StoredRun) : String :=
  if run.revision.isEmpty then run.key else run.revision

/-- What the name of the file for a run ends with: the format and the number in the `request`. -/
def exportSuffix (request : ExportRequest) : String :=
  "_" ++ request.format.word ++ "_" ++ toString request.id ++ ".json"

theorem exportName_eq (run : StoredRun) (request : ExportRequest) :
    exportName run request = exportLabel run ++ exportSuffix request := by
  unfold exportSuffix
  simp only [← String.append_assoc]
  rfl

theorem slash_not_mem_exportSuffix (request : ExportRequest) :
    '/' ∉ (exportSuffix request).toList := by
  have hid : '/' ∉ (toString request.id).toList := by
    intro hmem
    rcases Text.isDigit_or_eq_of_mem_toString hmem with hdigit | hsign
    · cases hdigit
    · cases hsign
  have hword : '/' ∉ request.format.word.toList := by
    cases request.format <;> decide
  simp only [exportSuffix, String.toList_append, List.mem_append, not_or]
  exact ⟨⟨⟨⟨by decide, hword⟩, by decide⟩, hid⟩, by decide⟩

/-- Whatever stands in `front` of it, the end of the name makes it one that leads on. -/
theorem leads_append_exportSuffix (front : List Char) (request : ExportRequest) :
    Path.leads (front ++ (exportSuffix request).toList) = true ∧
      String.ofList (front ++ (exportSuffix request).toList) ≠ ".." := by
  have hlast : (front ++ (exportSuffix request).toList).getLast? = some 'n' := by
    have hsuffix : (exportSuffix request).toList = ("_" ++ request.format.word ++ "_" ++
        toString request.id ++ ".jso").toList ++ ['n'] := by
      simp [exportSuffix, String.toList_append]
    rw [hsuffix, ← List.append_assoc]
    exact List.getLast?_concat
  generalize front ++ (exportSuffix request).toList = chars at hlast ⊢
  -- the names that lead nowhere or back end in other letters, if in any
  constructor
  · unfold Path.leads
    rw [Bool.and_eq_true, bne_iff_ne, bne_iff_ne]
    constructor <;> rintro rfl <;> simp at hlast
  · intro hup
    obtain rfl : chars = ['.', '.'] := by simpa using congrArg String.toList hup
    simp at hlast

/-! ## Exports -/

/-- Where the file of a `run` is that was exported, at a `place` inside or outside of the
`directory`, and what else is changed. -/
structure Exported (s : Surroundings) (files after : Files) (store : Path) (request : ExportRequest)
    (run : StoredRun) (directory place : Place) : Prop where
  /-- The `run` is the one that the store has under the number. -/
  found : files.askStore s.directory store (·.getById (.int request.id)) = .ok (some run)
  /-- The path of the directory leads to the place `directory`. -/
  located : after.locate s.directory (s.exportDirectory request) = .ok directory ∧
    after.find? directory = some .directory
  /-- The path of the file leads to the `place`, and there is the text of the run. -/
  written : after.locate s.directory
      ((s.exportDirectory request).file (exportName run request)) = .ok place ∧
    after.find? place = some (.file (exportText run request.format))
  /-- At every `other` place nothing is new but a directory. -/
  others : ∀ other, other ≠ place → after.find? other = files.find? other ∨
    (files.find? other = none ∧ after.find? other = some .directory)
  /-- The file lies in the `directory`, under the name for the run, unless there is a slash in its
  label. -/
  direct_iff : place = directory ++ [exportName run request] ↔ '/' ∉ (exportLabel run).toList
  /-- Names that do not lead back lead below the `directory`. -/
  below : (Path.ofText (exportName run request)).isAbsolute = false →
    ".." ∉ (Path.ofText (exportName run request)).names →
    place = directory ++ (Path.ofText (exportName run request)).names

/-- An export that fails has made directories at most (`Grows`). -/
theorem grows_of_fails_exportRun {fault : Fault}
    (h : (s.exportRun store request).Fails files after fault) : files.Grows after := by
  have hmake := Files.grows_makeDirectory files s.directory (s.exportDirectory request)
  simp only [exportRun, fails_bind_iff, fails_reading_iff, ends_reading_iff] at h
  obtain ⟨rfl, -⟩ | ⟨found, _, ⟨rfl, -⟩, hrest⟩ := h
  · -- the store has not answered
    exact .refl files
  cases found with
  | none =>
    -- there is no run of the number
    obtain ⟨rfl, -⟩ := fails_lift_iff.1 hrest
    exact .refl files
  | some run =>
    obtain hmade | ⟨_, made, hmade, hrest⟩ := fails_bind_iff.1 hrest
    · rw [makeDirectory, fails_attempting_iff] at hmade
      rwa [hmade] at hmake
    · rw [ends_makeDirectory_iff] at hmade
      rw [hmade] at hmake
      obtain hwrite | ⟨_, last, -, hrest⟩ := fails_bind_iff.1 hrest
      · rwa [← (fails_changing_iff.1 hwrite).1]
      · -- once the file is written nothing can fail
        simp [fails_bind_iff, not_fails_log, not_fails_print, not_fails_pure] at hrest

/-- If there is a slash in the label of the run, the `last` name of its file is shorter than the
whole name. -/
theorem getLast?_names_exportName (request : ExportRequest)
    (hslash : '/' ∈ (exportLabel run).toList) :
    ∃ last, (Path.ofText (exportName run request)).names.getLast? = some last ∧ last ≠ ".." ∧
      last ≠ exportName run request := by
  -- the label is split at its last slash
  obtain ⟨back, front, hlabel, hback⟩ := List.eq_append_cons_of_mem (List.mem_reverse.2 hslash)
  have hname : (exportName run request).toList =
      front.reverse ++ '/' :: (back.reverse ++ (exportSuffix request).toList) := by
    rw [exportName_eq, String.toList_append, ← List.reverse_reverse (exportLabel run).toList,
      hlabel]
    simp
  have hrest : '/' ∉ back.reverse ++ (exportSuffix request).toList := by
    rw [List.mem_append, List.mem_reverse]
    exact not_or.2 ⟨hback, slash_not_mem_exportSuffix request⟩
  obtain ⟨hleads, hup⟩ := leads_append_exportSuffix back.reverse request
  refine ⟨_, Path.getLast?_names_ofText hname hrest hleads, hup, fun heq => ?_⟩
  -- it lacks the slash at least
  have hlength := congrArg (·.toList.length) heq
  simp only [hname, String.toList_ofList, List.length_append, List.length_cons] at hlength
  omega

/-- Without a slash in the label of the run, the whole name of its file is one name. -/
theorem ofText_exportName (request : ExportRequest)
    (hslash : '/' ∉ (exportLabel run).toList) :
    Path.ofText (exportName run request) = ⟨0, [exportName run request]⟩ ∧
      exportName run request ≠ ".." := by
  have hname : (exportName run request).toList =
      (exportLabel run).toList ++ (exportSuffix request).toList := by
    rw [exportName_eq, String.toList_append]
  obtain ⟨hleads, hup⟩ := leads_append_exportSuffix (exportLabel run).toList request
  rw [← hname] at hleads hup
  refine ⟨Path.ofText_of_not_mem ?_ hleads, by rwa [String.ofList_toList] at hup⟩
  show '/' ∉ (exportName run request).toList
  rw [hname, List.mem_append]
  exact not_or.2 ⟨hslash, slash_not_mem_exportSuffix request⟩

/-- If the name of the file never leads back, it leads on from the `directory`. -/
theorem append_names_exportName {directory place : Place}
    (hdirectory : files.locate s.directory (s.exportDirectory request) = .ok directory)
    (hplace : files.locate s.directory
      ((s.exportDirectory request).file (exportName run request)) = .ok place)
    (hrelative : (Path.ofText (exportName run request)).isAbsolute = false)
    (hup : ".." ∉ (Path.ofText (exportName run request)).names) :
    directory ++ (Path.ofText (exportName run request)).names = place := by
  -- with or without a slash something leads on from the directory
  have hmore : (Path.ofText (exportName run request)).names ≠ [] := by
    by_cases hslash : '/' ∈ (exportLabel run).toList
    · obtain ⟨last, hlast, -⟩ := getLast?_names_exportName request hslash
      intro hnil
      rw [hnil] at hlast
      cases hlast
    · rw [(ofText_exportName request hslash).1]
      exact List.cons_ne_nil _ _
  rw [Path.file_of_relative hrelative] at hplace
  exact Files.eq_append_of_locate hmore hup hdirectory hplace

/-- An export that ends has written one file (`Exported`). -/
theorem exists_exported (h : (s.exportRun store request).Ends files after path) :
    ∃ run directory place, s.Exported files after store request run directory place := by
  obtain ⟨run, made, hask, hmade, hwrite, -⟩ := ends_exportRun_iff.1 h
  obtain ⟨directory, hdirectory, hfound⟩ :=
    Files.isDirectory_iff.1 (Files.isDirectory_of_makeDirectory hmade)
  obtain ⟨place, hplace, htext, hothers, hsame⟩ := Files.exists_of_writeText hwrite
  have hgrows := Files.grows_makeDirectory files s.directory (s.exportDirectory request)
  rw [hmade] at hgrows
  have hdirectory' := Files.locate_of_keepsDirectories hsame.keepsDirectories hdirectory
  -- neither the directory nor the file is elsewhere once the file is written
  refine ⟨run, directory, place, {
    found := hask
    located := ⟨hdirectory', hsame.keepsDirectories _ hfound⟩
    written := ⟨hplace, htext⟩
    others := fun other hne => ?_
    direct_iff := ⟨fun hdirect hslash => ?_, fun hslash => ?_⟩
    below := fun hrelative hup => (append_names_exportName hdirectory' hplace hrelative hup).symm }⟩
  · rw [hothers other hne]
    exact hgrows other
  · -- the last name of the place is that of the path
    obtain ⟨last, hlast, hup, hne⟩ := getLast?_names_exportName request hslash
    have hend := Files.getLast?_of_locate hplace (Path.getLast?_names_file hlast) hup
    rw [hdirect, List.getLast?_concat, Option.some.injEq] at hend
    exact hne hend.symm
  · obtain ⟨hname, hup⟩ := ofText_exportName request hslash
    have hbelow := append_names_exportName hdirectory' hplace (by rw [hname]; rfl)
      (by rw [hname]; simpa using hup.symm)
    rw [hname] at hbelow
    exact hbelow.symm

/-- A `run` that the store has can be exported to a directory that is there, unless another
directory has the `place` of the file. -/
theorem exists_ends_exportRun {place : Place}
    (hask : files.askStore s.directory store (·.getById (.int request.id)) = .ok (some run))
    (hdirectory : files.isDirectory s.directory (s.exportDirectory request) = true)
    (hplace : files.locate s.directory
      ((s.exportDirectory request).file (exportName run request)) = .ok place)
    (hfree : files.find? place ≠ some .directory) :
    ∃ after path, (s.exportRun store request).Ends files after path := by
  have hmade := Files.makeDirectory_of_isDirectory hdirectory
  have hwrite : files.writeText s.directory ((s.exportDirectory request).file
      (exportName run request)) (exportText run request.format) =
        .ok (files.put place (.file (exportText run request.format))) :=
    Files.writeText_eq_ok_iff.2 ⟨place, hplace, hfree, rfl⟩
  exact ⟨_, _, ends_exportRun_iff.2 ⟨run, files, hask, hmade, hwrite, rfl⟩⟩

/-- **Every export fails without writing a file (`Grows`), or has written one file (`Exported`)**:
in the directory if there is no slash in the label of the run, and below it if no name in the label
leads back. It does not fail if the run and the directory are there, and no directory has the place
of the file. -/
theorem grows_or_exported (s : Surroundings) (files : Files) (store : Path)
    (request : ExportRequest) :
    ((∃ after fault, (s.exportRun store request).Fails files after fault ∧ files.Grows after) ∨
      ∃ after path run directory place, (s.exportRun store request).Ends files after path ∧
        s.Exported files after store request run directory place) ∧
    ∀ run place,
      files.askStore s.directory store (·.getById (.int request.id)) = .ok (some run) →
      files.isDirectory s.directory (s.exportDirectory request) = true →
      files.locate s.directory ((s.exportDirectory request).file (exportName run request)) =
        .ok place →
      files.find? place ≠ some .directory →
      ∃ after path, (s.exportRun store request).Ends files after path := by
  refine ⟨?_, fun run place hask hdirectory hplace hfree =>
    exists_ends_exportRun hask hdirectory hplace hfree⟩
  obtain ⟨after, path, hends⟩ | ⟨after, fault, hfails⟩ := ends_or_fails _ files
  · obtain ⟨run, directory, place, hexported⟩ := exists_exported hends
    exact .inr ⟨after, path, run, directory, place, hends, hexported⟩
  · exact .inl ⟨after, fault, hfails, grows_of_fails_exportRun hfails⟩

section Example

open Session (home)

/-- The directory `home` with a store `runs.db` and a file `x_hooks_1.json` of its own. -/
def drawer (archive : Archive) : Files :=
  ⟨[(["home", "runs.db"], .store archive), (["home", "x_hooks_1.json"], .file "mine"),
    (["home"], .directory)]⟩

theorem askStore_drawer {row : StoredRun} (hid : row.id = 1) :
    (drawer ⟨[row], 1⟩).askStore ["home"] (.ofText "runs.db") (·.getById (.int 1)) =
      .ok (some row) := by
  have hat : (drawer ⟨[row], 1⟩).archiveAt ["home"] (.ofText "runs.db") =
      .ok (⟨.file (.ofText "runs.db"), .make, false, false⟩, ["home", "runs.db"], ⟨[row], 1⟩) :=
    Files.archiveAt_eq_ok_iff.2 ⟨by decide +kernel, rfl, rfl⟩
  refine Files.askStore_eq_ok_iff.2 ⟨_, _, _, hat, ?_⟩
  rw [Archive.getById_int _ (by decide)]
  simp [hid]

/-- A run of the release `181`, with no hooks and an empty report. -/
def releaseRun : StoredRun :=
  ⟨1, "key", "181", "\x7b\x7d", "[]", .integer 0, .integer 0, "2026-01-31T23:59:59+00:00"⟩

/-- The run `releaseRun` is exported to the working directory, into a file that is named after it.
-/
theorem grows_or_exported_drawer : ∃ after path directory place,
    (home.exportRun (.ofText "runs.db") ⟨1, .hooks, none⟩).Ends (drawer ⟨[releaseRun], 1⟩) after
      path ∧
    home.Exported (drawer ⟨[releaseRun], 1⟩) after (.ofText "runs.db") ⟨1, .hooks, none⟩ releaseRun
      directory place ∧
    place = directory ++ ["181_hooks_1.json"] := by
  obtain ⟨hcases, hends⟩ := grows_or_exported home (drawer ⟨[releaseRun], 1⟩) (.ofText "runs.db")
    ⟨1, .hooks, none⟩
  have hask : (drawer ⟨[releaseRun], 1⟩).askStore ["home"] (.ofText "runs.db")
      (·.getById (.int 1)) = .ok (some releaseRun) := askStore_drawer rfl
  obtain ⟨after, path, hend⟩ := hends releaseRun ["home", "181_hooks_1.json"] hask rfl rfl
    (by decide)
  rcases hcases with ⟨_, fault, hfails, -⟩ | ⟨_, _, run, directory, place, hend', hexported⟩
  · -- the export has ended, so it has not failed
    cases hfails.2.symm.trans hend.2
  · obtain rfl : run = releaseRun := by
      simpa using hexported.found.symm.trans hask
    have hplain : '/' ∉ (exportLabel releaseRun).toList := by decide
    exact ⟨_, _, directory, place, hend', hexported, hexported.direct_iff.2 hplain⟩

/-- The pass on an artifact without classes, whose revision `../x` leads back, is kept. -/
theorem exists_save_back : ∃ (artifact : Artifact) (table : Table) (row : StoredRun),
    Artifact.ofText "m.json" "\x7b\"revision\": \"../x\", \"classes\": []\x7d" = .ok artifact ∧
    (Pass.run artifact .empty).result = .ok table ∧
    (Hook.build table .empty).result = .ok [] ∧
    Archive.empty.save (home.runOf "key" table.report []) = .ok (⟨[row], 1⟩, 1) ∧
    row.id = 1 ∧ row.revision = "../x" ∧ row.hooks = "[]" := by
  have hread : Artifact.ofText "m.json" "\x7b\"revision\": \"../x\", \"classes\": []\x7d" =
      .ok ⟨[], "../x"⟩ := by
    decide +kernel
  have hpass : ((Pass.run ⟨[], "../x"⟩ .empty).result >>= fun table =>
      (Hook.build table .empty).result >>= fun hooks => .ok (hooks, table.report.revision,
        table.report.count .resolved, table.report.count .failed, table.report.count .skipped)) =
      .ok ([], "../x", 0, 0, 0) := by
    decide +kernel
  obtain ⟨table, htable, hpass⟩ := Except.bind_eq_ok_iff.1 hpass
  obtain ⟨hooks, hhooks, hnumbers⟩ := Except.bind_eq_ok_iff.1 hpass
  simp only [Except.ok.injEq, Prod.mk.injEq] at hnumbers
  obtain ⟨rfl, hrevision, hresolved, hfailed, hskipped⟩ := hnumbers
  refine ⟨_, table, home.rowOf 1 "key" table.report [], hread, htable, hhooks, ?_, rfl, hrevision,
    rfl⟩
  refine Archive.save_eq_ok_iff.2 ⟨rfl, _, rowOf_runOf_eq_ok_iff.2 ?_, rfl⟩
  rw [hrevision, hresolved, hfailed, hskipped]
  exact ⟨by decide, by decide, by decide, by decide, rfl⟩

/-- A run that is exported to the directory `out` is written over a file outside of it. -/
theorem exists_export_outside : ∃ (artifact : Artifact) (table : Table) (row : StoredRun)
    (after : Files) (path : Path),
    Artifact.ofText "m.json" "\x7b\"revision\": \"../x\", \"classes\": []\x7d" = .ok artifact ∧
    (Pass.run artifact .empty).result = .ok table ∧
    (Hook.build table .empty).result = .ok [] ∧
    Archive.empty.save (home.runOf "key" table.report []) = .ok (⟨[row], 1⟩, 1) ∧
    (home.exportRun (.ofText "runs.db") ⟨1, .hooks, some "out"⟩).Ends (drawer ⟨[row], 1⟩) after
      path ∧
    after.locate home.directory (.ofText "out") = .ok ["home", "out"] ∧
    (drawer ⟨[row], 1⟩).find? ["home", "x_hooks_1.json"] = some (.file "mine") ∧
    after.find? ["home", "x_hooks_1.json"] = some (.file "[]") := by
  obtain ⟨artifact, table, row, hread, htable, hhooks, hsave, hid, hrevision, htext⟩ :=
    exists_save_back
  have hask := askStore_drawer hid
  have hname : exportName row ⟨1, .hooks, some "out"⟩ = "../x_hooks_1.json" := by
    unfold exportName
    rw [hrevision]
    rfl
  have hends : (home.exportRun (.ofText "runs.db") ⟨1, .hooks, some "out"⟩).Ends
      (drawer ⟨[row], 1⟩) (((drawer ⟨[row], 1⟩).put ["home", "out"] .directory).put
        ["home", "x_hooks_1.json"] (.file row.hooks))
      ((Path.ofText "out").file "../x_hooks_1.json") := by
    refine ends_exportRun_iff.2 ⟨row, _, hask, rfl, ?_, by rw [hname]; rfl⟩
    rw [hname]
    rfl
  refine ⟨artifact, table, row, _, _, hread, htable, hhooks, hsave, hends, rfl, rfl, ?_⟩
  rw [htext]
  rfl

end Example

end Surroundings

end Reidentify

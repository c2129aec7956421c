import Reidentify.Proofs.Json.Ascii
import Reidentify.Proofs.Pass.Outcomes
import Reidentify.Proofs.Shell.Export

/-!
# What is kept of a pass and what is written of it

A pass is reported in two ways: its report and its hooks are written to files at once, and they are
kept in a store, from which they can be written later. Both ways give the same texts, however often
and however late a run is written, and whatever is done to other runs in between. The exit code and
the two numbers that are kept tell the same about the pass.

Neither command looks at whether a file that it writes is the file of the store, so a store can be
written over.

## Main definitions

* `Session.Agreement`: the files, the store and the exit code that a pass leaves agree.

## Main statements

* `Surroundings.read_of_writeOutputs`: what is written of a pass can be read, and nothing else is
  lost.
* `Session.agreement_of_completes`: they agree whenever a pass that is kept and written completes.
* `Session.exists_export_over_store`: a run can be written over the store that keeps it.
-/

namespace Reidentify

open Archive (Sound Operation)

/-! ## The run of a pass -/

theorem Cell.ofValue_str_eq_ok_iff {parameter : Nat} {text : String} {cell : Cell} :
    Cell.ofValue parameter (.str text) = .ok cell ↔
      Cell.encodable text = .ok text ∧ .text text = cell := by
  rw [ofValue]
  constructor
  · intro h
    cases hfound : encodable text with
    | error fault => simp [hfound, Except.map] at h
    | ok found =>
      obtain rfl := eq_of_encodable hfound
      exact ⟨rfl, by simpa [hfound, Except.map] using h⟩
  · rintro ⟨htext, rfl⟩
    rw [htext]
    rfl

theorem Cell.ofValue_int_eq_ok_iff {parameter : Nat} {number : Int} {cell : Cell} :
    Cell.ofValue parameter (.int number) = .ok cell ↔
      Cell.fitsInteger number = true ∧ .integer number = cell := by
  rw [ofValue]
  split
  · next hfits => simp [hfits]
  · next hlarge => simp [hlarge]

/-- The text `report.json` of what a pass reports can always be encoded. -/
theorem Report.encodable_json (report : Report) (indent : Option Nat) :
    Cell.encodable (report.json indent) = .ok (report.json indent) :=
  (Json.ascii_written rfl _).encodable

theorem encodable_hooksJson (hooks : List Hook) (indent : Option Nat) :
    Cell.encodable (hooksJson hooks indent) = .ok (hooksJson hooks indent) :=
  (Json.ascii_written rfl _).encodable

namespace Surroundings

/-- The row that is kept of a pass under the number `id` and the `key` of its artifact. -/
def rowOf (s : Surroundings) (id : Int) (key : String) (report : Report) (hooks : List Hook) :
    StoredRun where
  id := id
  key := key
  revision := report.revision
  report := report.json fileIndent
  hooks := hooksJson hooks fileIndent
  resolved := .integer (report.count .resolved)
  failed := .integer (report.count .failed + report.count .skipped)
  created := s.now.stamp

/-- A pass is kept as `s.rowOf` says iff its `key` and its revision can be encoded and its numbers
fit. -/
theorem rowOf_runOf_eq_ok_iff {s : Surroundings} {id : Int} {key : String} {report : Report}
    {hooks : List Hook} {row : StoredRun} :
    Archive.rowOf id (s.runOf key report hooks) = .ok row ↔
      Cell.encodable key = .ok key ∧ Cell.encodable report.revision = .ok report.revision ∧
      Cell.fitsInteger (report.count .resolved) = true ∧
      Cell.fitsInteger (report.count .failed + report.count .skipped) = true ∧
      s.rowOf id key report hooks = row := by
  simp only [Archive.rowOf, runOf, Except.bind_eq_ok_iff, Cell.ofValue_str_eq_ok_iff,
    Cell.ofValue_int_eq_ok_iff]
  constructor
  · rintro ⟨_, ⟨hkey, rfl⟩, _, ⟨hrevision, rfl⟩, _, ⟨-, rfl⟩, _, ⟨-, rfl⟩, _, ⟨hresolved, rfl⟩, _,
      ⟨hfailed, rfl⟩, _, hkeyText, _, hreportText, hrow⟩
    cases hkeyText
    cases hreportText
    exact ⟨hkey, hrevision, hresolved, hfailed, Except.ok.inj hrow⟩
  · rintro ⟨hkey, hrevision, hresolved, hfailed, rfl⟩
    exact ⟨_, ⟨hkey, rfl⟩, _, ⟨hrevision, rfl⟩, _, ⟨report.encodable_json _, rfl⟩, _,
      ⟨encodable_hooksJson hooks _, rfl⟩, _, ⟨hresolved, rfl⟩, _, ⟨hfailed, rfl⟩, _, rfl, _, rfl,
      rfl⟩

end Surroundings

/-! ## The files of a pass -/

namespace Surroundings

variable {s : Surroundings} {files after : Files} {report : Report} {hooks : List Hook}
  {output : String} {u : Unit}

/-- The `report` and the `hooks` can be read where `writeOutputs` has written them, and whatever was
at other places is still there. -/
theorem read_of_writeOutputs (h : (s.writeOutputs report hooks output).Ends files after u) :
    after.readText s.directory ((Path.ofText output).file "report.json") =
        .ok (report.json fileIndent) ∧
      after.readText s.directory ((Path.ofText output).file "hooks.json") =
        .ok (hooksJson hooks fileIndent) ∧
      ∀ place node, files.find? place = some node →
        (∀ name ∈ ["report.json", "hooks.json"],
          after.locate s.directory ((Path.ofText output).file name) ≠ .ok place) →
        after.find? place = some node := by
  obtain ⟨made, reported, hmade, hreport, hhooks⟩ := ends_writeOutputs_iff.1 h
  obtain ⟨reportPlace, hreportAt, hreportText, hreportOthers, -⟩ :=
    Files.exists_of_writeText hreport
  obtain ⟨hooksPlace, hhooksAt, hhooksText, hhooksOthers, hsame⟩ := Files.exists_of_writeText hhooks
  have hreportAt' := Files.locate_of_keepsDirectories hsame.keepsDirectories hreportAt
  have hne : reportPlace ≠ hooksPlace := by
    rintro rfl
    -- the last names of the two files differ
    have hlast := Files.getLast?_of_locate hreportAt (Path.getLast?_names_file rfl) (by decide)
    have hlast' := Files.getLast?_of_locate hhooksAt (Path.getLast?_names_file rfl) (by decide)
    cases hlast.symm.trans hlast'
  refine ⟨Files.readText_eq_ok hreportAt' ((hhooksOthers _ hne).trans hreportText),
    Files.readText_eq_ok hhooksAt hhooksText, fun place node hfound hapart => ?_⟩
  have hgrows := Files.grows_makeDirectory files s.directory (.ofText output)
  rw [hmade] at hgrows
  have hreportNe : place ≠ reportPlace := by
    rintro rfl
    exact hapart "report.json" (by simp) hreportAt'
  have hhooksNe : place ≠ hooksPlace := by
    rintro rfl
    exact hapart "hooks.json" (by simp) hhooksAt
  rw [hhooksOthers place hhooksNe, hreportOthers place hreportNe]
  exact hgrows.find?_eq hfound

end Surroundings

namespace Session

open Surroundings

variable {s : Surroundings} {files : Files} {arguments : List String}
  {load : String → Except Fault Registry} {invocation : Invocation} {request : ResolveRequest}
  {output : String} {code : Nat}

/-- The files `after` a pass, the store and the exit `code` agree: there is one `run`, which is kept
in an `archive` at the `place` of the store, and of which the report and the hooks are written to
the directory `output`. -/
structure Agreement (s : Surroundings) (files after : Files) (store output : String)
    (registry : Registry) (code : Nat) (place : Place) (archive : Archive) (run : StoredRun) :
    Prop where
  /-- The `run` was saved in the `archive` of the store. -/
  saved : ∃ path ready name before record, s.pathOf store = .ok path ∧
    files.openStore s.directory path = (ready, .ok ()) ∧
    ready.archiveAt s.directory path = .ok (name, place, before) ∧
    before.save record = .ok (archive, run.id) ∧ run ∈ archive.runs
  /-- The store keeps the `archive`, unless one of the files that are written is that of the store.
  -/
  kept : (∀ name ∈ ["report.json", "hooks.json"],
      after.locate s.directory ((Path.ofText output).file name) ≠ .ok place) →
    after.find? place = some (.store archive)
  /-- The report that is kept, `run.report`, is written. -/
  report : after.readText s.directory ((Path.ofText output).file "report.json") = .ok run.report
  /-- The hooks that are kept, `run.hooks`, are written. -/
  hooks : after.readText s.directory ((Path.ofText output).file "hooks.json") = .ok run.hooks
  /-- The numbers `resolved` and `failed` that are kept count all mappers, and the exit `code` tells
  whether all of them are bound. -/
  counts : ∃ resolved failed : Nat, run.resolved = .integer resolved ∧
    run.failed = .integer failed ∧ resolved + failed = registry.size ∧
    code = if failed = 0 then success else incomplete
  /-- The `run` stays as long as all `operations` have to do with other artifacts only (`Spares`).
  -/
  stays : ∀ operations : List Operation, (∀ operation ∈ operations, operation.Spares run) →
    run ∈ (archive.afterAll operations).runs
  /-- As long as it stays, whatever is written of it later is what is kept (`Exports`). -/
  exports : ∀ operations : List Operation, run ∈ (archive.afterAll operations).runs →
    Exports (archive.afterAll operations) run

/-- **What is kept of a pass is what is written of it** (`Agreement`), whatever artifact is read and
whatever mappers `load` gives. The stores that are there before hold archives as operations leave
them (`Sound`). -/
theorem agreement_of_completes (hread : Invocation.ofArguments arguments = .ok invocation)
    (hrequest : invocation.request = some (.resolve request)) (hkeeps : request.keeps = true)
    (houtput : request.output = some output) (hnonempty : output ≠ "")
    (hsound : ∀ place archive, files.find? place = some (.store archive) → Sound archive)
    (hcompletes : (ofArguments s files arguments load).Completes code) :
    ∃ registry place archive run, load request.mappers = .ok registry ∧
      Agreement s files (ofArguments s files arguments load).files invocation.store output registry
        code place archive run := by
  obtain ⟨hends, -⟩ := (completes_iff hread hrequest).1 hcompletes
  -- the session has read its arguments, so only the files that it leaves matter
  generalize (ofArguments s files arguments load).files = after at hends ⊢
  obtain ⟨path, ready, report, hopen, hresolve, hcode⟩ := (ends_perform_resolve_iff hkeeps).1 hends
  obtain ⟨hpath, hopen⟩ := ends_openStore_iff.1 hopen
  obtain ⟨_, artifact, registry, _, table, hooks, key, _, id, -, -, hload, -, htable, -, -, hchange,
    hwrite, rfl⟩ := (ends_resolve_iff houtput hnonempty).1 hresolve
  obtain ⟨name, place, before, archive, hat, -, hsave, rfl⟩ := Files.changeStore_eq_ok_iff.1 hchange
  obtain ⟨rfl, row, hrow, harchive⟩ := Archive.save_eq_ok_iff.1 hsave
  obtain ⟨-, -, -, -, rfl⟩ := rowOf_runOf_eq_ok_iff.1 hrow
  have hfound := (Files.archiveAt_eq_ok_iff.1 hat).2.2
  -- the archive was sound before the run was saved, and still is
  have hbefore : Sound before := by
    rcases Files.store_of_openStore (by rwa [hopen]) with rfl | hold
    · exact Archive.sound_empty
    · exact hsound place before hold
  have harchiveSound : Sound archive := hbefore.save hsave
  have hmem : s.rowOf (before.lastId + 1) key table.report hooks ∈ archive.runs := by
    rw [harchive]
    simp
  have hsaved : (ready.put place (.store archive)).find? place = some (.store archive) := by
    rw [Files.find?_put _ _ _ _ (Files.ne_nil_of_find? ready (by simp [hfound])), if_pos rfl]
  obtain ⟨hreport, hhooks, hothers⟩ := read_of_writeOutputs hwrite
  refine ⟨registry, place, archive, _, hload, {
    saved := ⟨path, ready, name, before, _, hpath, hopen, hat, hsave, hmem⟩
    kept := hothers place _ hsaved
    report := hreport
    hooks := hhooks
    counts := ?_
    stays := fun operations hspares => Archive.mem_afterAll_of_spares hmem hspares
    exports := fun operations hstays => exports_of_mem (harchiveSound.afterAll operations) hstays }⟩
  have hcount := table.report.count_add_count_add_count
  have htotal := Pass.total_report htable
  refine ⟨table.report.count .resolved, table.report.count .failed + table.report.count .skipped,
    rfl, rfl, by omega, ?_⟩
  -- a report is complete iff no number of failed mappers is left
  have hcomplete : table.report.complete = true ↔
      table.report.count .failed + table.report.count .skipped = 0 := by
    rw [table.report.complete_iff]
    omega
  rw [← hcode]
  exact if_congr hcomplete rfl rfl

section Example

/-- Commands are run in the directory `home`, at a fixed moment. -/
def home : Surroundings := ⟨["home"], [], ⟨2026, 1, 31, 23, 59, 59, 0⟩⟩

/-- In the directory `home` there is a document `m.json` with one class. -/
def shelf : Files :=
  ⟨[(["home", "m.json"], .file "\x7b\"revision\":\"x\",\"classes\":[\x7b\"name\":\"a\"\x7d]\x7d"),
    (["home"], .directory)]⟩

/-- The artifact of the document on the `shelf`, with its one class `a`. -/
def lone : Artifact := ⟨[⟨"a", .str "java/lang/Object", [], 1, [], []⟩], "x"⟩

/-- A mapper `"Unlinked"` that finds the class, and one, `"Linked"`, that does not. -/
def foundAndMissing : Registry where
  mappers := [
    .onlyClass "Unlinked" (.selfLinks (.int 0)) [] (by decide),
    .onlyClass "Linked" (.selfLinks (.int 1)) [] (by decide)]
  nodup_names := by decide

/-- Every name loads the same mappers, those of `foundAndMissing`. -/
def loading : String → Except Fault Registry := fun _ => .ok foundAndMissing

/-- A pass is kept in a store whose file `x_report_1.json` has the name that its report will have.
-/
def resolving : List String :=
  ["--db", "x_report_1.json", "resolve", "--model", "m.json", "--output", "out"]

/-- The report of the run with the number 1 is written from the store `x_report_1.json`. -/
def exporting : List String :=
  ["--db", "x_report_1.json", "export", "--id", "1", "--format", "report"]

/-- The place of the store `x_report_1.json` in the directory `home`. -/
def storePlace : Place := ["home", "x_report_1.json"]

/-- The directory `home` with a store that holds an `archive`. -/
def stocked (archive : Archive) : Files := shelf.put storePlace (.store archive)

/-- The directory `home` with a store of one `row`, and with its report and its hooks. -/
def filled (row : StoredRun) : Files :=
  (((stocked ⟨[row], 1⟩).put ["home", "out"] .directory).put ["home", "out", "report.json"]
    (.file row.report)).put ["home", "out", "hooks.json"] (.file row.hooks)

theorem read_resolving : Invocation.ofArguments resolving = .ok ⟨"x_report_1.json", false,
    some (.resolve ⟨"m.json", Invocation.standardMappers, some "out", none, true⟩)⟩ := by
  decide +kernel

theorem read_exporting : Invocation.ofArguments exporting =
    .ok ⟨"x_report_1.json", false, some (.exportRun ⟨1, .report, none⟩)⟩ := by
  decide +kernel

theorem pathOf_store : home.pathOf "x_report_1.json" = .ok (.ofText "x_report_1.json") := by
  decide +kernel

theorem ofPath_store : StoreName.ofPath (.ofText "x_report_1.json") =
    .ok ⟨.file (.ofText "x_report_1.json"), .make, false, false⟩ := by
  decide +kernel

/-- The `row` that is kept of the pass over `lone`, with its report and its hooks. -/
theorem exists_row : ∃ table hooks row, (Pass.run lone foundAndMissing).result = .ok table ∧
    (Hook.build table foundAndMissing).result = .ok hooks ∧ table.report.complete = false ∧
    Archive.rowOf 1 (home.runOf "8854f29badcf72db" table.report hooks) = .ok row ∧
    row.report = table.report.json fileIndent ∧ row.hooks = hooksJson hooks fileIndent ∧
    row.id = 1 ∧ row.revision = "x" := by
  -- one mapper has found its class, the other one has failed, and none was skipped
  have hpass : ((Pass.run lone foundAndMissing).result >>= fun table =>
      (Hook.build table foundAndMissing).result >>= fun _ => .ok (table.report.revision,
        table.report.count .resolved, table.report.count .failed, table.report.count .skipped)) =
      .ok ("x", 1, 1, 0) := by
    decide +kernel
  obtain ⟨table, htable, hpass⟩ := Except.bind_eq_ok_iff.1 hpass
  obtain ⟨hooks, hhooks, hnumbers⟩ := Except.bind_eq_ok_iff.1 hpass
  simp only [Except.ok.injEq, Prod.mk.injEq] at hnumbers
  obtain ⟨hrevision, hresolved, hfailed, hskipped⟩ := hnumbers
  refine ⟨table, hooks, home.rowOf 1 "8854f29badcf72db" table.report hooks, htable, hhooks, ?_, ?_,
    rfl, rfl, rfl, hrevision⟩
  · rw [Bool.eq_false_iff, Ne, table.report.complete_iff]
    omega
  · rw [rowOf_runOf_eq_ok_iff, hrevision, hresolved, hfailed, hskipped]
    exact ⟨by decide, by decide, by decide, by decide, rfl⟩

theorem exists_completes_resolving : ∃ row : StoredRun, row.id = 1 ∧ row.revision = "x" ∧
    (ofArguments home shelf resolving loading).files = filled row ∧
    (ofArguments home shelf resolving loading).Completes incomplete := by
  obtain ⟨table, hooks, row, htable, hhooks, hcomplete, hrow, hreport, hhooksText, hid,
    hrevision⟩ := exists_row
  have hopen : shelf.openStore ["home"] (.ofText "x_report_1.json") = (stocked .empty, .ok ()) := by
    decide +kernel
  obtain ⟨hpath, hread, hsettings, hkey⟩ : home.pathOf "m.json" = .ok (.ofText "m.json") ∧
      (stocked .empty).readArtifact ["home"] (.ofText "m.json") = .ok lone ∧
      home.settings none = .ok Settings.standard ∧
      (stocked .empty).readKey ["home"] (.ofText "m.json") = .ok "8854f29badcf72db" := by
    decide +kernel
  have hchange : (stocked .empty).changeStore ["home"] (.ofText "x_report_1.json")
      (·.save (home.runOf "8854f29badcf72db" table.report hooks)) = .ok (stocked ⟨[row], 1⟩, 1) :=
    Files.changeStore_eq_ok_iff.2 ⟨_, storePlace, .empty, ⟨[row], 1⟩,
      Files.archiveAt_eq_ok_iff.2 ⟨ofPath_store, by decide +kernel, rfl⟩, by decide,
      Archive.save_eq_ok_iff.2 ⟨rfl, row, hrow, rfl⟩, rfl⟩
  -- the texts of the two files are not evaluated
  have hwritten (report hooks : String) : ∃ made reported,
      (stocked ⟨[row], 1⟩).makeDirectory ["home"] (.ofText "out") = (made, .ok ()) ∧
      made.writeText ["home"] ((Path.ofText "out").file "report.json") report = .ok reported ∧
      reported.writeText ["home"] ((Path.ofText "out").file "hooks.json") hooks =
        .ok ((((stocked ⟨[row], 1⟩).put ["home", "out"] .directory).put
          ["home", "out", "report.json"] (.file report)).put ["home", "out", "hooks.json"]
            (.file hooks)) :=
    ⟨_, _, rfl, rfl, rfl⟩
  have hwrite : (home.writeOutputs table.report hooks "out").Ends (stocked ⟨[row], 1⟩) (filled row)
      () := by
    rw [ends_writeOutputs_iff, ← hreport, ← hhooksText]
    exact hwritten row.report row.hooks
  have hends : (perform home "x_report_1.json" (.resolve ⟨"m.json", Invocation.standardMappers,
      some "out", none, true⟩) loading).Ends shelf (filled row) incomplete := by
    refine (ends_perform_resolve_iff rfl).2 ⟨.ofText "x_report_1.json", stocked .empty,
      table.report, ends_openStore_iff.2 ⟨pathOf_store, hopen⟩, ?_, by rw [hcomplete]; rfl⟩
    exact (ends_resolve_iff rfl (by decide)).2 ⟨_, lone, foundAndMissing, _, table, hooks, _, _, _,
      hpath, hread, rfl, hsettings, htable, hhooks, hkey, hchange, hwrite, rfl⟩
  have hfiles := files_ofArguments read_resolving rfl hends
  refine ⟨row, hid, hrevision, hfiles, (completes_iff read_resolving rfl).2 ⟨?_, by decide⟩⟩
  rwa [hfiles]

/-- The pass `resolving`, in which one of two mappers binds an entity, is kept and written. -/
theorem agreement_of_completes_home : (ofArguments home shelf resolving loading).Completes
      incomplete ∧
    ∃ registry place archive run, loading Invocation.standardMappers = .ok registry ∧
      Agreement home shelf (ofArguments home shelf resolving loading).files "x_report_1.json" "out"
        registry incomplete place archive run := by
  obtain ⟨-, -, -, -, hcompletes⟩ := exists_completes_resolving
  refine ⟨hcompletes, agreement_of_completes read_resolving rfl rfl rfl (by decide) ?_ hcompletes⟩
  -- there is no store at first
  intro place archive hfound
  unfold Files.find? at hfound
  split at hfound
  · cases hfound
  · obtain ⟨_, _, hshelf, -⟩ := List.lookup_eq_some_iff.1 hfound
    have hmem : (place, .store archive) ∈ shelf.nodes := by simp [hshelf]
    simp [shelf] at hmem

theorem ends_exporting {row : StoredRun} (hid : row.id = 1) (hrevision : row.revision = "x") :
    (perform home "x_report_1.json" (.exportRun ⟨1, .report, none⟩) loading).Ends (filled row)
      ((filled row).put storePlace (.file row.report)) success := by
  have hopen : (filled row).openStore ["home"] (.ofText "x_report_1.json") =
      (filled row, .ok ()) := by
    unfold Files.openStore
    rw [ofPath_store]
    rfl
  have hask : (filled row).askStore ["home"] (.ofText "x_report_1.json") (·.getById (.int 1)) =
      .ok (some row) := by
    refine Files.askStore_eq_ok_iff.2 ⟨_, storePlace, ⟨[row], 1⟩,
      Files.archiveAt_eq_ok_iff.2 ⟨ofPath_store, rfl, rfl⟩, ?_⟩
    rw [Archive.getById_int _ (by decide)]
    simp [hid]
  have hname : exportName row ⟨1, .report, none⟩ = "x_report_1.json" := by
    unfold exportName
    rw [hrevision]
    rfl
  have hwrite : (filled row).writeText ["home"]
      ((home.exportDirectory ⟨1, .report, none⟩).file (exportName row ⟨1, .report, none⟩))
      row.report = .ok ((filled row).put storePlace (.file row.report)) := by
    rw [hname]
    rfl
  exact ends_perform_exportRun_iff.2 ⟨_, _, _, ends_openStore_iff.2 ⟨pathOf_store, hopen⟩,
    ends_exportRun_iff.2 ⟨row, _, hask, rfl, hwrite, rfl⟩, rfl⟩

/-- A `run` is written over the store that keeps it: where a store was, its report is. -/
theorem exists_export_over_store : ∃ (archive : Archive) (run : StoredRun) (after : Files),
    (ofArguments home shelf resolving loading).Completes incomplete ∧
    (ofArguments home shelf resolving loading).files.find? storePlace = some (.store archive) ∧
    run ∈ archive.runs ∧ run.id = 1 ∧
    (ofArguments home (ofArguments home shelf resolving loading).files exporting loading).Completes
      success ∧
    (ofArguments home (ofArguments home shelf resolving loading).files exporting loading).files =
      after ∧
    after.find? storePlace = some (.file run.report) := by
  obtain ⟨row, hid, hrevision, hfiles, hcompletes⟩ := exists_completes_resolving
  have hends := ends_exporting hid hrevision
  have hafter := files_ofArguments read_exporting rfl hends
  refine ⟨⟨[row], 1⟩, row, _, hcompletes, by rw [hfiles]; rfl, by simp, hid, ?_, rfl, ?_⟩
  · rw [hfiles]
    refine (completes_iff read_exporting rfl).2 ⟨?_, by decide⟩
    rwa [hafter]
  · rw [hfiles, hafter]
    rfl

end Example

end Session

end Reidentify

import Reidentify.Proofs.Shell.Files
import Reidentify.Proofs.Shell.Work
import Reidentify.Shell.Session

/-!
# How commands end

A command that completes has done all of its steps: what it has read, computed and written can be
told from the files that it was given. A command that fails gives the fault to its session.

## Main definitions

* `Session.Completes`: a session completes with an exit code.
* `Session.FailsWith`: a session ends with a fault.

## Main statements

* `Surroundings.ends_resolve_iff`: how a pass that is kept and written ends.
* `Surroundings.ends_exportRun_iff`: how a run is written to a file.
* `Session.completes_iff`, `Session.failsWith_of_fails`: how sessions end.
-/

namespace Reidentify

open Work

namespace Files

variable {files after : Files} {working : Place} {path : Path} {α : Type} {answer : α}

/-- A store gives an `answer` by `askStore` iff it has an archive, and the `request` has succeeded
there. -/
theorem askStore_eq_ok_iff {request : Archive → Except Fault α} :
    files.askStore working path request = .ok answer ↔ ∃ name place archive,
      files.archiveAt working path = .ok (name, place, archive) ∧ request archive = .ok answer := by
  unfold askStore
  cases files.archiveAt working path with
  | error fault => simp
  | ok found =>
    constructor
    · intro h
      exact ⟨found.1, found.2.1, found.2.2, rfl, h⟩
    · rintro ⟨_, _, _, hfound, h⟩
      cases hfound
      exact h

/-- A store was changed by `changeStore` iff it has an archive that may be changed, and the
`request` has succeeded there. -/
theorem changeStore_eq_ok_iff {request : Archive → Except Fault (Archive × α)} :
    files.changeStore working path request = .ok (after, answer) ↔
      ∃ name place archive changed, files.archiveAt working path = .ok (name, place, archive) ∧
        name.access ≠ .read ∧ request archive = .ok (changed, answer) ∧
        after = files.put place (.store changed) := by
  unfold changeStore
  cases files.archiveAt working path with
  | error fault => simp
  | ok found =>
    obtain ⟨name, place, archive⟩ := found
    constructor
    · intro h
      dsimp only at h
      split at h
      · cases h
      · next hchange =>
        split at h
        · cases h
        · next changed answer' hrequest =>
          cases h
          exact ⟨name, place, archive, changed, rfl, hchange, hrequest, rfl⟩
    · rintro ⟨_, _, _, changed, hfound, hchange, hrequest, rfl⟩
      cases hfound
      dsimp only
      rw [if_neg hchange, hrequest]

/-- A store without an archive answers no `request`, for the same `cause`. -/
theorem askStore_of_error {cause : StoreFault} (h : files.archiveAt working path = .error cause)
    (request : Archive → Except Fault α) :
    files.askStore working path request = .error (.store cause) := by
  rw [askStore, h]

/-- A store with an `archive` answers a `request` as the archive does. -/
theorem askStore_of_ok {name : StoreName} {place : Place} {archive : Archive}
    (h : files.archiveAt working path = .ok (name, place, archive))
    (request : Archive → Except Fault α) :
    files.askStore working path request = request archive := by
  rw [askStore, h]

/-- A store without an archive is not changed by a `request`, for the same `cause`. -/
theorem changeStore_of_error {cause : StoreFault} (h : files.archiveAt working path = .error cause)
    (request : Archive → Except Fault (Archive × α)) :
    files.changeStore working path request = .error (.store cause) := by
  rw [changeStore, h]

/-- A store that may be changed is changed as its `archive` is by the `request`. -/
theorem changeStore_of_ok {name : StoreName} {place : Place} {archive : Archive}
    (h : files.archiveAt working path = .ok (name, place, archive)) (hchange : name.access ≠ .read)
    (request : Archive → Except Fault (Archive × α)) :
    files.changeStore working path request =
      (request archive).map fun changed => (files.put place (.store changed.1), changed.2) := by
  rw [changeStore, h]
  dsimp only
  rw [if_neg hchange]
  cases request archive <;> rfl

/-- A store that may only be read is not changed, whatever the `request` would do. -/
theorem changeStore_of_read {name : StoreName} {place : Place} {archive : Archive}
    (h : files.archiveAt working path = .ok (name, place, archive)) (hread : name.access = .read)
    (request : Archive → Except Fault (Archive × α)) :
    files.changeStore working path request = .error (refusal (request archive)) := by
  rw [changeStore, h]
  dsimp only
  rw [if_pos hread]

end Files

namespace Surroundings

variable {s : Surroundings} {files after : Files} {path store : Path} {text output : String}
  {report : Report} {hooks : List Hook} {u : Unit}

theorem ends_openStore_iff : (s.openStore text).Ends files after path ↔
    s.pathOf text = .ok path ∧ files.openStore s.directory path = (after, .ok ()) := by
  simp only [openStore, ends_bind_iff, ends_lift_iff, ends_attempting_iff, ends_pure_iff]
  constructor
  · rintro ⟨_, _, ⟨rfl, hpath⟩, _, _, hopen, rfl, rfl⟩
    exact ⟨hpath, hopen⟩
  · rintro ⟨hpath, hopen⟩
    exact ⟨_, _, ⟨rfl, hpath⟩, _, _, hopen, rfl, rfl⟩

theorem ends_loadArtifact_iff {artifact : Artifact} :
    (s.loadArtifact text).Ends files after artifact ↔ files = after ∧
      ∃ path, s.pathOf text = .ok path ∧ files.readArtifact s.directory path = .ok artifact := by
  simp only [loadArtifact, ends_bind_iff, ends_lift_iff, ends_reading_iff, ends_log_iff,
    ends_pure_iff]
  constructor
  · rintro ⟨path, _, ⟨rfl, hpath⟩, _, _, ⟨rfl, hread⟩, _, _, rfl, rfl, rfl⟩
    exact ⟨rfl, path, hpath, hread⟩
  · rintro ⟨rfl, path, hpath, hread⟩
    exact ⟨path, _, ⟨rfl, hpath⟩, _, _, ⟨rfl, hread⟩, (), _, rfl, rfl, rfl⟩

theorem ends_keep_iff {record : RunRecord} : (s.keep store record).Ends files after u ↔
    ∃ id, files.changeStore s.directory store (·.save record) = .ok (after, id) := by
  simp only [keep, ends_bind_iff, ends_changing_iff, ends_log_iff]
  constructor
  · rintro ⟨id, _, hsave, _, _, rfl, rfl⟩
    exact ⟨id, hsave⟩
  · rintro ⟨id, hsave⟩
    exact ⟨id, _, hsave, (), _, rfl, rfl⟩

theorem ends_writeText_iff : (s.writeText path text).Ends files after u ↔
    files.writeText s.directory path text = .ok after := by
  rw [writeText, ends_changing_iff]
  cases files.writeText s.directory path text with
  | error fault => simp [Except.map]
  | ok written => simp [Except.map]

theorem ends_makeDirectory_iff : (s.makeDirectory path).Ends files after u ↔
    files.makeDirectory s.directory path = (after, .ok ()) := by
  rw [makeDirectory, ends_attempting_iff]

/-- The `report` and the `hooks` are written one after the other into the directory `output`, which
is made before. -/
theorem ends_writeOutputs_iff : (s.writeOutputs report hooks output).Ends files after u ↔
    ∃ made reported, files.makeDirectory s.directory (.ofText output) = (made, .ok ()) ∧
      made.writeText s.directory ((Path.ofText output).file "report.json")
        (report.json fileIndent) = .ok reported ∧
      reported.writeText s.directory ((Path.ofText output).file "hooks.json")
        (hooksJson hooks fileIndent) = .ok after := by
  simp only [writeOutputs, ends_bind_iff, ends_makeDirectory_iff, ends_writeText_iff, ends_log_iff]
  constructor
  · rintro ⟨_, made, hmade, _, reported, hreport, _, _, hhooks, rfl⟩
    exact ⟨made, reported, hmade, hreport, hhooks⟩
  · rintro ⟨made, reported, hmade, hreport, hhooks⟩
    exact ⟨(), made, hmade, (), reported, hreport, (), _, hhooks, rfl⟩

/-- A pass that is kept in the `store` and written to `output` has read the artifact, loaded the
mappers, settled them all, saved the run, and written its files. -/
theorem ends_resolve_iff {request : ResolveRequest} {load : String → Except Fault Registry}
    (houtput : request.output = some output) (hnonempty : output ≠ "") :
    (s.resolve (some store) request load).Ends files after report ↔
      ∃ path artifact registry settings table hooks key saved id,
        s.pathOf request.model = .ok path ∧
        files.readArtifact s.directory path = .ok artifact ∧
        load request.mappers = .ok registry ∧
        s.settings request.workers = .ok settings ∧
        (Pass.run artifact registry).result = .ok table ∧
        (Hook.build table registry).result = .ok hooks ∧
        files.readKey s.directory path = .ok key ∧
        files.changeStore s.directory store (·.save (s.runOf key table.report hooks)) =
          .ok (saved, id) ∧
        (s.writeOutputs table.report hooks output).Ends saved after () ∧
        table.report = report := by
  -- every step of the command has a lemma that says how it ends
  simp only [resolve, houtput, ends_bind_iff, ends_lift_iff, ends_loadArtifact_iff,
    ends_ofTrail_iff, ends_print_iff, ends_reading_iff, ends_keep_iff, ends_pure_iff]
  constructor
  · rintro ⟨artifact, _, ⟨rfl, path, hpath, hread⟩, registry, _, ⟨rfl, hload⟩, settings, _,
      ⟨rfl, hsettings⟩, table, _, ⟨rfl, htable⟩, hooks, _, ⟨rfl, hhooks⟩, _, _, rfl, path', _,
      ⟨rfl, hpath'⟩, key, _, ⟨rfl, hkey⟩, _, saved, ⟨id, hsave⟩, _, _, hwrite, rfl, rfl⟩
    obtain rfl := Except.ok.inj (hpath.symm.trans hpath')
    exact ⟨path, artifact, registry, settings, table, hooks, key, saved, id, hpath, hread, hload,
      hsettings, htable, hhooks, hkey, hsave, hwrite, rfl⟩
  · rintro ⟨path, artifact, registry, settings, table, hooks, key, saved, id, hpath, hread, hload,
      hsettings, htable, hhooks, hkey, hsave, hwrite, rfl⟩
    exact ⟨artifact, _, ⟨rfl, path, hpath, hread⟩, registry, _, ⟨rfl, hload⟩, settings, _,
      ⟨rfl, hsettings⟩, table, _, ⟨rfl, htable⟩, hooks, _, ⟨rfl, hhooks⟩, (), _, rfl, path, _,
      ⟨rfl, hpath⟩, key, _, ⟨rfl, hkey⟩, (), saved, ⟨id, hsave⟩, (), _, hwrite, rfl, rfl⟩

/-- A run that is written was found by the number in the `request`, and the directory was made
before its file. -/
theorem ends_exportRun_iff {request : ExportRequest} :
    (s.exportRun store request).Ends files after path ↔ ∃ run made,
      files.askStore s.directory store (·.getById (.int request.id)) = .ok (some run) ∧
      files.makeDirectory s.directory (s.exportDirectory request) = (made, .ok ()) ∧
      made.writeText s.directory ((s.exportDirectory request).file (exportName run request))
        (exportText run request.format) = .ok after ∧
      (s.exportDirectory request).file (exportName run request) = path := by
  simp only [exportRun, ends_bind_iff, ends_reading_iff]
  constructor
  · rintro ⟨found, _, ⟨rfl, hask⟩, hfound⟩
    cases found with
    | none => cases (ends_lift_iff.1 hfound).2
    | some run =>
      simp only [ends_bind_iff, ends_makeDirectory_iff, ends_writeText_iff, ends_log_iff,
        ends_print_iff, ends_pure_iff] at hfound
      obtain ⟨_, made, hmade, _, _, hwrite, _, _, rfl, _, _, rfl, rfl, hpath⟩ := hfound
      exact ⟨run, made, hask, hmade, hwrite, hpath⟩
  · rintro ⟨run, made, hask, hmade, hwrite, hpath⟩
    refine ⟨some run, files, ⟨rfl, hask⟩, ?_⟩
    simp only [ends_bind_iff, ends_makeDirectory_iff, ends_writeText_iff, ends_log_iff,
      ends_print_iff, ends_pure_iff]
    exact ⟨(), made, hmade, (), after, hwrite, (), after, rfl, (), after, rfl, rfl, hpath⟩

end Surroundings

namespace Session

variable {s : Surroundings} {files after : Files} {store : String} {code : Nat}
  {load : String → Except Fault Registry} {arguments : List String} {invocation : Invocation}

/-- The exit `code` of a pass that is kept says whether its report is `complete`. -/
theorem ends_perform_resolve_iff {request : ResolveRequest} (hkeeps : request.keeps = true) :
    (perform s store (.resolve request) load).Ends files after code ↔ ∃ path ready report,
      (s.openStore store).Ends files ready path ∧
      (s.resolve (some path) request load).Ends ready after report ∧
      (if report.complete then success else incomplete) = code := by
  simp only [perform, hkeeps, if_true, ends_bind_iff, ends_map_iff, ends_pure_iff]
  constructor
  · rintro ⟨_, ready, ⟨path, hopen, rfl⟩, report, _, hresolve, rfl, hcode⟩
    exact ⟨path, ready, report, hopen, hresolve, hcode⟩
  · rintro ⟨path, ready, report, hopen, hresolve, hcode⟩
    exact ⟨some path, ready, ⟨path, hopen, rfl⟩, report, after, hresolve, rfl, hcode⟩

theorem ends_perform_exportRun_iff {request : ExportRequest} :
    (perform s store (.exportRun request) load).Ends files after code ↔ ∃ path ready written,
      (s.openStore store).Ends files ready path ∧
      (s.exportRun path request).Ends ready after written ∧ success = code := by
  simp only [perform, ends_bind_iff, ends_pure_iff]
  constructor
  · rintro ⟨path, ready, hopen, written, _, hexport, rfl, hcode⟩
    exact ⟨path, ready, written, hopen, hexport, hcode⟩
  · rintro ⟨path, ready, written, hopen, hexport, hcode⟩
    exact ⟨path, ready, hopen, written, after, hexport, rfl, hcode⟩

/-- An export fails as the writing of the run by `exportRun` does, once the store is open. -/
theorem fails_perform_exportRun {request : ExportRequest} {path : Path} {ready : Files}
    {fault : Fault} (hopen : (s.openStore store).Ends files ready path)
    (hfails : (s.exportRun path request).Fails ready after fault) :
    (perform s store (.exportRun request) load).Fails files after fault := by
  rw [perform, fails_bind_iff]
  refine .inr ⟨path, ready, hopen, ?_⟩
  rw [fails_bind_iff]
  exact .inl hfails

/-- The session of a command line with a `request` is the session `ofRequest` of the request. -/
theorem ofArguments_eq {request : Request}
    (hread : Invocation.ofArguments arguments = .ok invocation)
    (hrequest : invocation.request = some request) :
    ofArguments s files arguments load = ofRequest s files invocation request load := by
  rw [ofArguments, hread]
  dsimp only
  rw [hrequest]

/-- A `session` completes with an exit `code` if no fault ends it. -/
def Completes (session : Session) (code : Nat) : Prop :=
  session.ending = .ok code ∧ code ≠ reportedFault

theorem completes_iff {request : Request}
    (hread : Invocation.ofArguments arguments = .ok invocation)
    (hrequest : invocation.request = some request) :
    (ofArguments s files arguments load).Completes code ↔
      (perform s invocation.store request load).Ends files
        (ofArguments s files arguments load).files code ∧ code ≠ reportedFault := by
  unfold Completes
  rw [ofArguments_eq hread hrequest]
  unfold ofRequest Ends
  dsimp only
  split
  · next hperform => simp [hperform]
  · next fault hperform =>
    -- a fault that is reported gives the exit code of such faults
    split
    · simp only [hperform, reduceCtorEq, and_false, false_and, iff_false]
      rintro ⟨hcode, hne⟩
      exact hne (Except.ok.inj hcode).symm
    · simp [hperform]

/-- A session leaves the files `after` that its work leaves. -/
theorem files_ofArguments {request : Request}
    (hread : Invocation.ofArguments arguments = .ok invocation)
    (hrequest : invocation.request = some request)
    (hends : (perform s invocation.store request load).Ends files after code) :
    (ofArguments s files arguments load).files = after := by
  rw [ofArguments_eq hread hrequest]
  unfold ofRequest
  dsimp only
  split
  · next hperform => rw [← hends.1, hperform]
  · next hperform => cases (congrArg (·.2.result) hperform).symm.trans hends.2

/-- A `session` ends with a `fault`. If the fault is reported, the session complains and has the
exit code of such faults. -/
structure FailsWith (session : Session) (files : Files) (fault : Fault) : Prop where
  /-- It leaves the `files` behind. -/
  files_eq : session.files = files
  /-- It ends with the exit code `reportedFault`, or with the `fault` itself if that is not
  reported. -/
  ending_eq : session.ending = if fault.isReported then .ok reportedFault else .error fault
  /-- A fault that is reported is in the complaint, by its `message`. -/
  complains : fault.isReported = true →
    .complained s!"Error: {fault.message}" ∈ session.notices

/-- A session fails as its work does, with the same `fault` and the same files. -/
theorem failsWith_of_fails {request : Request} {fault : Fault}
    (hread : Invocation.ofArguments arguments = .ok invocation)
    (hrequest : invocation.request = some request)
    (hfails : (perform s invocation.store request load).Fails files after fault) :
    (ofArguments s files arguments load).FailsWith after fault := by
  obtain ⟨hfiles, hresult⟩ := hfails
  rw [ofArguments_eq hread hrequest]
  unfold ofRequest
  dsimp only
  split
  · next hperform =>
    rw [hperform] at hresult
    cases hresult
  · next hperform =>
    rw [hperform] at hfiles hresult
    cases hresult
    split
    · next hreported => exact ⟨hfiles, (if_pos hreported).symm, fun _ => by simp⟩
    · next hescapes =>
      exact ⟨hfiles, (if_neg hescapes).symm, fun hreported => absurd hreported hescapes⟩

end Session

end Reidentify

import Reidentify.Proofs.Archive.Operation
import Reidentify.Proofs.Shell.Commands

/-!
# Runs that are written later

A run that an archive holds can be written to a file at any time. What is written is what the
archive keeps, and whatever there was at other places is still there afterwards. The file can have
any place, also that of the store itself.

## Main definitions

* `Files.Wrote`: a file was written, and nothing else is lost.
* `Session.Exports`: whatever is written of a run of an archive is what the archive keeps.

## Main statements

* `Session.exports_of_mem`: this is true of every run that a sound archive holds.
-/

namespace Reidentify

open Archive (Sound)

namespace Files

/-- A file with a `text` was written at a `place`, and whatever there was at other places is still
there. -/
def Wrote (before after : Files) (place : Place) (text : String) : Prop :=
  after.find? place = some (.file text) ∧
    ∀ other node, other ≠ place → before.find? other = some node → after.find? other = some node

end Files

namespace Session

open Surroundings

/-- Whatever is written of a `run` of an `archive` is what the archive keeps: every command line
that asks for the run, in a store with this archive, and completes, has written the report or the
hooks of the run (`exportText`), and nothing else is lost (`Wrote`). -/
def Exports (archive : Archive) (run : StoredRun) : Prop :=
  ∀ (s : Surroundings) (files : Files) (arguments : List String)
    (load : String → Except Fault Registry) (invocation : Invocation) (request : ExportRequest)
    (path : Path) (name : StoreName) (place : Place) (code : Nat),
    Invocation.ofArguments arguments = .ok invocation →
    invocation.request = some (.exportRun request) → request.id = run.id →
    s.pathOf invocation.store = .ok path →
    files.archiveAt s.directory path = .ok (name, place, archive) →
    (ofArguments s files arguments load).Completes code →
    code = success ∧ ∃ written,
      (ofArguments s files arguments load).files.locate s.directory
        ((s.exportDirectory request).file (exportName run request)) = .ok written ∧
      files.Wrote (ofArguments s files arguments load).files written
        (exportText run request.format)

variable {archive : Archive} {run : StoredRun}

/-- A `run` that a `Sound` archive holds is written as the archive keeps it (`Exports`). -/
theorem exports_of_mem (hsound : Sound archive) (hmem : run ∈ archive.runs) :
    Exports archive run := by
  intro s files arguments load invocation request path name place code hread hrequest hid hpath hat
    hcompletes
  obtain ⟨hends, -⟩ := (completes_iff hread hrequest).1 hcompletes
  generalize (ofArguments s files arguments load).files = after at hends ⊢
  obtain ⟨path', ready, file, hopen, hexport, hcode⟩ := ends_perform_exportRun_iff.1 hends
  obtain ⟨hpath', hopen⟩ := ends_openStore_iff.1 hopen
  obtain rfl := Except.ok.inj (hpath.symm.trans hpath')
  -- the store that is opened has the archive already
  have hready : files.Grows ready := by
    have hgrows := Files.grows_openStore hat
    rwa [hopen] at hgrows
  obtain ⟨found, made, hask, hmade, hwrite, -⟩ := ends_exportRun_iff.1 hexport
  obtain ⟨_, _, _, hat', hfound⟩ := Files.askStore_eq_ok_iff.1 hask
  cases (Files.archiveAt_of_grows hready hat).symm.trans hat'
  rw [hid] at hfound
  obtain rfl := hsound.eq_of_getById hmem hfound
  have hmadeGrows : ready.Grows made := by
    have hgrows := Files.grows_makeDirectory ready s.directory (s.exportDirectory request)
    rwa [hmade] at hgrows
  obtain ⟨written, hlocate, htext, hothers, -⟩ := Files.exists_of_writeText hwrite
  refine ⟨hcode.symm, written, hlocate, htext, fun other node hne hnode => ?_⟩
  rw [hothers other hne]
  exact (hready.trans hmadeGrows).find?_eq hnode

end Session

end Reidentify

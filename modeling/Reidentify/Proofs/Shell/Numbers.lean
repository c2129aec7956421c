import Reidentify.Proofs.Archive.Operation
import Reidentify.Proofs.Shell.Containment

/-!
# Runs by their numbers

A run is looked up, removed and exported by its number. A number that no run has is no reason to
fail for the first two, and a fault that is reported for the third one, which then writes nothing.
What goes wrong with the store itself is reported as a fault of the store.

All this holds for the numbers that fit into a column. An integer that does not fit is no number of
a run, but a store that answers at all does not say so: the request ends with an overflow, which is
not reported.

## Main definitions

* `Surroundings.Serves`: a store does what it should for a number.
* `Surroundings.Rejects`: requests for a number end with a fault and change nothing.
* `Surroundings.Settles`: a store does what it should, or rejects a number for a fault of its own.

## Main statements

* `Surroundings.settles_iff_or_overflow`: which numbers stores settle, and what they do with others.
* `Session.exists_overflow`: a session that ends with an overflow.
-/

namespace Reidentify

open Work

/-- The integers `n` that fit into a column are those of 64 bits. -/
theorem Cell.fitsInteger_iff {n : Int} : fitsInteger n = true ↔ -2 ^ 63 ≤ n ∧ n < 2 ^ 63 := by
  simp [fitsInteger]

namespace Surroundings

variable {s : Surroundings} {files : Files} {store : Path} {id : Int} {fault : Fault}
  {name : StoreName} {place : Place} {archive : Archive}

/-- Every export of the number `id` fails with a `fault` and leaves the `files` as they are once the
`store` is open, and so does the session of a command line that asks for it. -/
structure RejectsExport (s : Surroundings) (files : Files) (store : Path) (id : Int)
    (fault : Fault) : Prop where
  /-- The export itself fails, whatever else the `request` asks for. -/
  command : ∀ request : ExportRequest, request.id = id →
    (s.exportRun store request).Fails files files fault
  /-- The session of every command line with such a `request` fails. -/
  session : ∀ before arguments invocation request,
    Invocation.ofArguments arguments = .ok invocation →
    invocation.request = some (.exportRun request) → request.id = id →
    (s.openStore invocation.store).Ends before files store →
    (Session.ofArguments s before arguments).FailsWith files fault

/-- All requests for the number `id` end with a `fault` and change nothing. -/
structure Rejects (s : Surroundings) (files : Files) (store : Path) (id : Int)
    (fault : Fault) : Prop where
  /-- The number is not looked up by `getById`. -/
  lookup : files.askStore s.directory store (·.getById (.int id)) = .error fault
  /-- Nothing is removed by `delete`. -/
  removal : files.changeStore s.directory store (·.delete (.int id)) = .error fault
  /-- Nothing is written (`RejectsExport`). -/
  exports : s.RejectsExport files store id fault

/-- A `store` with an `archive` at its `place` does what it should for the number `id`. -/
structure Serves (s : Surroundings) (files : Files) (store : Path) (name : StoreName)
    (place : Place) (archive : Archive) (id : Int) : Prop where
  /-- A run that is kept under the number is `found`, or nothing if there is none. -/
  lookup : ∃ found, files.askStore s.directory store (·.getById (.int id)) = .ok found ∧
    (∀ run, found = some run → run ∈ archive.runs ∧ run.id = id) ∧
    (found = none → ∀ run ∈ archive.runs, run.id ≠ id)
  /-- The runs that are kept under the number are removed, and the answer `found` is whether there
  are any. -/
  removal : name.access ≠ .read → ∃ found,
    files.changeStore s.directory store (·.delete (.int id)) =
      .ok (files.put place (.store { archive with runs := archive.runs.filter (·.id != id) }),
        found) ∧
    (found = true ↔ ∃ run ∈ archive.runs, run.id = id)
  /-- A store that may only be read says so, and nothing is removed. -/
  readOnly : name.access = .read →
    files.changeStore s.directory store (·.delete (.int id)) = .error (.store .readOnly)
  /-- A number without a run is not exported (`RejectsExport`). -/
  missing : (∀ run ∈ archive.runs, run.id ≠ id) →
    s.RejectsExport files store id (.value (.noRun id))

/-- A request for the number `id` fails for a `cause` that lies in the store (`Rejects`), or the
store does what it should (`Serves`). -/
def Settles (s : Surroundings) (files : Files) (store : Path) (id : Int) : Prop :=
  (∃ cause, s.Rejects files store id (.store cause)) ∨
    ∃ name place archive, files.archiveAt s.directory store = .ok (name, place, archive) ∧
      s.Serves files store name place archive id

/-- Sessions fail as the export does, so it is enough that `exportRun` fails. -/
theorem rejectsExport_of_command
    (h : ∀ request : ExportRequest, request.id = id →
      (s.exportRun store request).Fails files files fault) :
    s.RejectsExport files store id fault where
  command := h
  session _ _ _ request hread hrequest hid hopen :=
    Session.failsWith_of_fails hread hrequest
      (Session.fails_perform_exportRun hopen (h request hid))

/-- If the number cannot be looked up by `askStore`, it is not exported, with the same `fault`. -/
theorem rejectsExport_of_askStore
    (h : files.askStore s.directory store (·.getById (.int id)) = .error fault) :
    s.RejectsExport files store id fault := by
  refine rejectsExport_of_command fun request hid => ?_
  -- the run is looked up before anything is made or written
  rw [exportRun, fails_bind_iff, fails_reading_iff, hid]
  exact .inl ⟨rfl, h⟩

/-- If `getById` finds no run, nothing is exported, and the fault names the number `id`. -/
theorem rejectsExport_of_none
    (h : files.askStore s.directory store (·.getById (.int id)) = .ok none) :
    s.RejectsExport files store id (.value (.noRun id)) := by
  refine rejectsExport_of_command fun request hid => ?_
  rw [exportRun, fails_bind_iff, hid]
  exact .inr ⟨none, files, ends_reading_iff.2 ⟨rfl, h⟩, fails_lift_iff.2 ⟨rfl, rfl⟩⟩

/-- Without an archive the store has a fault of its own, the `cause`. -/
theorem rejects_of_error {cause : StoreFault}
    (hat : files.archiveAt s.directory store = .error cause) :
    s.Rejects files store id (.store cause) where
  lookup := Files.askStore_of_error hat _
  removal := Files.changeStore_of_error hat _
  exports := rejectsExport_of_askStore (Files.askStore_of_error hat _)

/-- With an `archive` all requests for a number that does not fit end with an overflow. -/
theorem rejects_of_overflow (hat : files.archiveAt s.directory store = .ok (name, place, archive))
    (hlarge : ¬ Cell.fitsInteger id = true) :
    s.Rejects files store id (.overflow .column) := by
  have hask : files.askStore s.directory store (·.getById (.int id)) =
      .error (.overflow .column) := by
    rw [Files.askStore_of_ok hat, Archive.getById_eq_overflow hlarge]
  refine ⟨hask, ?_, rejectsExport_of_askStore hask⟩
  -- the number is looked at before the access is
  by_cases hread : name.access = .read
  · rw [Files.changeStore_of_read hat hread, Archive.delete_eq_overflow hlarge]
    rfl
  · rw [Files.changeStore_of_ok hat hread, Archive.delete_eq_overflow hlarge]
    rfl

/-- With an `archive` the store `Serves` every number that fits. -/
theorem serves_of_fits (hat : files.archiveAt s.directory store = .ok (name, place, archive))
    (hfits : Cell.fitsInteger id = true) : s.Serves files store name place archive id := by
  have hask : files.askStore s.directory store (·.getById (.int id)) =
      .ok (archive.runs.find? (·.id == id)) := by
    rw [Files.askStore_of_ok hat, Archive.getById_int archive hfits]
  refine {
    lookup := ⟨_, hask, fun run hfound => ?_, fun hnone run hmem => ?_⟩
    removal := fun hchange => ⟨archive.runs.any (·.id == id), ?_, ?_⟩
    readOnly := fun hread => ?_
    missing := fun hmissing => rejectsExport_of_none ?_ }
  · exact ⟨List.mem_of_find?_eq_some hfound, by simpa using List.find?_some hfound⟩
  · simpa using List.find?_eq_none.1 hnone run hmem
  · rw [Files.changeStore_of_ok hat hchange, Archive.delete_int archive hfits]
    rfl
  · simp
  · rw [Files.changeStore_of_read hat hread, Archive.delete_int archive hfits]
    rfl
  · rw [hask, List.find?_eq_none.2 fun run hmem => by simpa using hmissing run hmem]

/-- A fault of a store is no overflow, and a store that `Serves` a number has none. -/
theorem not_settles_of_rejects (h : s.Rejects files store id (.overflow .column)) :
    ¬ s.Settles files store id := by
  rintro (⟨cause, hrejects⟩ | ⟨name, place, archive, -, hserves⟩)
  · cases h.lookup.symm.trans hrejects.lookup
  · obtain ⟨found, hfound, -⟩ := hserves.lookup
    cases h.lookup.symm.trans hfound

/-- **A store settles all requests for the numbers that fit into a column** (`Settles`): a run is
found and removed by its number `id`, and without a run nothing is found, removed or written. If the
store has no archive it says so for every number. Requests for all other numbers end with an
overflow (`Rejects`), on all stores that have an archive. -/
theorem settles_iff_or_overflow (s : Surroundings) (files : Files) (store : Path) (id : Int) :
    (s.Settles files store id ↔ (-2 ^ 63 ≤ id ∧ id < 2 ^ 63) ∨
      ∃ cause, files.archiveAt s.directory store = .error cause) ∧
    (s.Settles files store id ∨ s.Rejects files store id (.overflow .column)) := by
  rw [← Cell.fitsInteger_iff]
  cases hat : files.archiveAt s.directory store with
  | error cause =>
    have hsettles : s.Settles files store id := .inl ⟨cause, rejects_of_error hat⟩
    exact ⟨iff_of_true hsettles (.inr ⟨cause, rfl⟩), .inl hsettles⟩
  | ok found =>
    -- the number is looked at once there is an archive to ask
    obtain ⟨name, place, archive⟩ := found
    by_cases hfits : Cell.fitsInteger id = true
    · have hsettles : s.Settles files store id :=
        .inr ⟨name, place, archive, hat, serves_of_fits hat hfits⟩
      exact ⟨iff_of_true hsettles (.inl hfits), .inl hsettles⟩
    · have hrejects : s.Rejects files store id (.overflow .column) := rejects_of_overflow hat hfits
      refine ⟨iff_of_false (not_settles_of_rejects hrejects) ?_, .inr hrejects⟩
      rintro (h | ⟨cause, h⟩)
      · exact hfits h
      · cases h

end Surroundings

section Example

open Session (home)

/-- A directory `home` without anything in it. -/
def bareHome : Files := ⟨[(["home"], .directory)]⟩

/-- The arguments with which the run with the number `id` is to be exported. -/
def exportingBy (id : String) : List String := ["--db", "runs.db", "export", "--id", id]

/-- The largest number that fits is no number of a run, and the session says so. -/
example : (Session.ofArguments home bareHome (exportingBy "9223372036854775807")).ending =
    .ok Session.reportedFault := by decide +kernel

/-- The number `9223372036854775808` is looked for and removed in a new store, and neither ends. The
session of a command line that asks for its export ends without an exit code. -/
theorem Session.exists_overflow :
    Archive.empty.getById (.int 9223372036854775808) = .error (.overflow .column) ∧
    Archive.empty.delete (.int 9223372036854775808) = .error (.overflow .column) ∧
    (Session.ofArguments home bareHome (exportingBy "9223372036854775808")).ending =
      .error (.overflow .column) := by
  refine ⟨rfl, rfl, ?_⟩
  decide +kernel

end Example

end Reidentify

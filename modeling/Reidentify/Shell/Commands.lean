import Reidentify.Pass.Run
import Reidentify.Pass.Settings
import Reidentify.Report.Hooks
import Reidentify.Shell.Invocation
import Reidentify.Shell.MapperSet
import Reidentify.Shell.Work

/-!
# Commands

The three commands as work on files. A pass is reported, kept in a store and written to a
directory from one and the same report and one and the same list of hooks; a run that is kept can
be listed, and its report or its hooks can be written to a file later.
-/

namespace Reidentify

/-- Where and when commands are run: the working `directory`, the environment and the time. Nothing
of it changes while they do. -/
structure Surroundings where
  /-- The working directory. -/
  directory : Place
  /-- The variables of the environment that are set, with their values. -/
  environment : List (String × String)
  /-- The present time. -/
  now : Timestamp
  deriving DecidableEq, Repr

namespace Surroundings

/-- The path that `text` writes, with the home directory in the place of a tilde (`Path.expanded`).
-/
def pathOf (s : Surroundings) (text : String) : Except Fault Path :=
  (Path.ofText text).expanded (s.environment.lookup "HOME")

/-- Opens the store at the path that `text` writes, and returns this path. -/
def openStore (s : Surroundings) (text : String) : Work Path := do
  let path ← .lift (s.pathOf text)
  .attempting fun files => files.openStore s.directory path
  return path

/-- Makes sure that `path` leads to a directory (`Files.makeDirectory`), even if that stops halfway.
-/
def makeDirectory (s : Surroundings) (path : Path) : Work Unit :=
  .attempting fun files => files.makeDirectory s.directory path

/-- Writes `text` to the file at `path` with `Files.writeText`, from the working directory. -/
def writeText (s : Surroundings) (path : Path) (text : String) : Work Unit :=
  .changing fun files => (files.writeText s.directory path text).map fun after => (after, ())

/-! ## A pass -/

/-- The number of spaces by which reports and hooks are indented in files (`Report.json`). -/
def fileIndent : Option Nat := some 2

/-- Reads the artifact at the path that `text` writes, with a line in the log. -/
def loadArtifact (s : Surroundings) (text : String) : Work Artifact := do
  let path ← .lift (s.pathOf text)
  let artifact ← .reading fun files => files.readArtifact s.directory path
  .log .info .artifacts s!"Loaded {artifact.summary} from {path.text}"
  return artifact

/-- The settings of a pass: those of the environment, with another number of `workers` if one is
given. -/
def settings (s : Surroundings) (workers : Option Int) : Except Fault Settings :=
  match Settings.ofEnvironment s.environment, workers with
  | .ok found, some number => Settings.make (.int number) found.parallel
  | found, _ => found

/-- The run that is kept of a pass with this `key`, `report` and `hooks`. Skipped mappers count as
failed. -/
def runOf (s : Surroundings) (key : String) (report : Report) (hooks : List Hook) : RunRecord where
  key := .str key
  report := .str (report.json fileIndent)
  revision := .str report.revision
  hooks := .str (hooksJson hooks fileIndent)
  resolved := .int (report.count .resolved)
  failed := .int (report.count .failed + report.count .skipped)
  created := s.now

/-- Keeps `run` in the store at the path `store`, and logs its number. -/
def keep (s : Surroundings) (store : Path) (run : RunRecord) : Work Unit := do
  let id ← .changing fun files => files.changeStore s.directory store fun archive =>
    archive.save run
  .log .debug .archive s!"Saved run {id} for artifact {run.key.plain}"
  .log .info .commands s!"Stored run {id}"

/-- Writes `report` and `hooks` into the directory `output`, which is made if it is missing. -/
def writeOutputs (s : Surroundings) (report : Report) (hooks : List Hook) (output : String) :
    Work Unit := do
  let directory := Path.ofText output
  s.makeDirectory directory
  s.writeText (directory.file "report.json") (report.json fileIndent)
  s.writeText (directory.file "hooks.json") (hooksJson hooks fileIndent)
  .log .info .commands s!"Report and hooks written to {directory.text}"

/-- Runs a pass, prints its report, keeps it in a store if there is one, and writes it to a
directory if one is asked for. Sets of mappers are loaded by `load`. -/
def resolve (s : Surroundings) (store : Option Path) (request : ResolveRequest)
    (load : String → Except Fault Registry := MapperSet.load) : Work Report := do
  let artifact ← s.loadArtifact request.model
  let registry ← .lift (load request.mappers)
  let _ ← Work.lift (s.settings request.workers)
  let table ← .ofTrail (Pass.run artifact registry)
  let report := table.report
  let hooks ← .ofTrail (Hook.build table registry)
  .print report.text
  match store with
  | none => pure ()
  | some place =>
    let path ← .lift (s.pathOf request.model)
    let key ← .reading fun files => files.readKey s.directory path
    s.keep place (s.runOf key report hooks)
  match request.output with
  | none | some "" => pure ()
  | some output => s.writeOutputs report hooks output
  return report

/-! ## Runs that are kept -/

/-- The `text` itself, or a dash for the empty one, in a column of a list. -/
def orDash (text : String) : String :=
  if text.isEmpty then "-" else text

/-- The line of a listing about `run`: its number, its revision, its key, its time and its counts.
-/
def listing (s : Surroundings) (run : StoredRun) : String :=
  "[" ++ Text.padLeft 4 (toString run.id) ++ "]  " ++ Text.padRight 12 (orDash run.revision) ++ " "
    ++ Text.padRight 18 run.key ++ " " ++ (run.createdAt s.now).short
    ++ "  resolved=" ++ run.resolved.toValue.plain ++ " failed=" ++ run.failed.toValue.plain

/-- Lists the runs whose revision contains the text `revision`, or says that there are none. -/
def listRuns (s : Surroundings) (store : Path) (revision : String) : Work Unit := do
  let runs ← .reading fun files => files.askStore s.directory store fun archive =>
    archive.search revision
  if runs.isEmpty then .print "0 stored runs found."
  else .print ("\n".intercalate (runs.map s.listing))

/-- The name of the file for `run`: its revision, or its key if the revision is empty, what is
written, and its number. -/
def exportName (run : StoredRun) (request : ExportRequest) : String :=
  let label := if run.revision.isEmpty then run.key else run.revision
  s!"{label}_{request.format.word}_{request.id}.json"

/-- The directory that a run is written to: the one that `request` names, or the working directory.
-/
def exportDirectory (s : Surroundings) (request : ExportRequest) : Path :=
  match request.output with
  | none | some "" => Path.fromRoot s.directory
  | some output => Path.ofText output

/-- What is written of `run` in a format, the text as it is kept. -/
def exportText (run : StoredRun) : ExportFormat → String
  | .hooks => run.hooks
  | .report => run.report

/-- Writes the report or the hooks of the run with the number `request.id` to a file, and returns
its path. -/
def exportRun (s : Surroundings) (store : Path) (request : ExportRequest) : Work Path := do
  let found ← .reading fun files => files.askStore s.directory store fun archive =>
    archive.getById (.int request.id)
  match found with
  | none => .lift (.error (.value (.noRun request.id)))
  | some run =>
    let directory := s.exportDirectory request
    s.makeDirectory directory
    let path := directory.file (exportName run request)
    s.writeText path (exportText run request.format)
    .log .info .commands s!"Exported record {request.id} to {path.text}"
    .print s!"Exported → {path.text}"
    return path

end Surroundings

end Reidentify

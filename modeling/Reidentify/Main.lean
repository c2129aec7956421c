import Reidentify.Archive.Document
import Reidentify.Shell.Reach
import Reidentify.Shell.Session
import Std.Time.DateTime.Timestamp

/-!
# The program

The command line on the files of the computer. The files that a command line can reach are read
first, the session is computed, and what it has changed is written back.
-/

namespace Reidentify.Program

/-- The path of `place` on the computer, from the root on. -/
def pathText (place : Place) : String := (Path.fromRoot place).text

/-- What there is at `place` on the computer: a directory, a store, a text, bytes that are no text,
or nothing. -/
def nodeAt? (place : Place) : IO (Option Node) := do
  let here ← IO.currentDir
  let path := here / pathText place
  if ← path.isDir then return some .directory
  else if ← path.pathExists then
    match String.fromUTF8? (← IO.FS.readBinFile path) with
    | none => return some .binary
    | some text =>
      match Archive.ofText? text with
      | some archive => return some (.store archive)
      | none => return some (.file text)
  else return none

/-- Reads what there is at `places`, in addition to what `files` knows. -/
def survey (files : Files) (places : List Place) : IO Files :=
  places.eraseDups.foldlM (fun found place => do
    match ← nodeAt? place with
    | some node => return found.put place node
    | none => return found) files

/-- Writes `node` to `place` on the computer. Below the empty name nothing is kept. -/
def writeNode (place : Place) (node : Node) : IO Unit :=
  if place.head? = some "" then pure ()
  else
    match node with
    | .directory => IO.FS.createDirAll (pathText place)
    | .file text => IO.FS.writeFile (pathText place) text
    | .store archive => IO.FS.writeFile (pathText place) archive.text
    | .binary => pure ()

/-- Writes what has changed from `before` to `after`, the oldest change first. -/
def writeChanges (before after : Files) : IO Unit :=
  after.nodes.reverse.forM fun (place, node) => do
    if before.find? place != some node then writeNode place node

/-- The present time, as the point in time of `Surroundings`. -/
def now : IO Timestamp := do
  let nanoseconds := (← Std.Time.Timestamp.now).toNanosecondsSinceUnixEpoch.val.toNat
  return Timestamp.ofEpoch (nanoseconds / 1000000000) (nanoseconds / 1000 % 1000000)

/-- The variables of the environment that matter, as far as they are set. -/
def environment : IO (List (String × String)) :=
  ["HOME", Settings.workersVariable, Settings.parallelVariable].filterMapM fun name => do
    return (← IO.getEnv name).map fun value => (name, value)

/-- Where and when the program is run, for `Session.ofArguments`. -/
def surroundings : IO Surroundings := do
  let directory := (Path.ofText (← IO.currentDir).toString).names
  return { directory, environment := ← environment, now := ← now }

/-- Runs the command line `arguments`. The files are read twice, because the archive of the store
decides which file a run is written to. -/
def run (arguments : List String) : IO UInt32 := do
  let s ← surroundings
  let first ← survey ⟨[]⟩ (s.reach ⟨[]⟩ arguments)
  let before ← survey first (s.reach first arguments)
  let session := Session.ofArguments s before arguments
  writeChanges before session.files
  IO.print session.output
  IO.eprint (session.errors true)
  match session.ending with
  | .ok code => return code.toUInt32
  | .error fault =>
    IO.eprintln fault.message
    return 1

end Reidentify.Program

/-- The program: `Program.run` on its arguments, with the present surroundings. -/
def main (arguments : List String) : IO UInt32 :=
  Reidentify.Program.run arguments

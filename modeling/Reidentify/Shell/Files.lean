import Reidentify.Archive.Store
import Reidentify.Artifact.File
import Reidentify.Shell.Path

/-!
# Files

The files that commands read and write. A place is the list of names that leads to it from the
root; at a place there is a directory, a file with a text, a file with other content, a store of
runs, or nothing. At the root there is always a directory.
-/

namespace Reidentify

/-- What there can be at a place, as far as commands tell it apart: a directory, a text, a store, or
other bytes. -/
inductive Node where
  /-- A directory. -/
  | directory
  /-- A file with the contents `text`. -/
  | file (text : String)
  /-- A file whose content is no text. -/
  | binary
  /-- A store of runs with the contents `archive`. -/
  | store (archive : Archive)
  deriving DecidableEq

/-- The names that lead from the root to a place, the outermost first. -/
abbrev Place := List String

/-- What there is at every place; where `nodes` says nothing there is nothing. -/
structure Files where
  /-- The places that are taken, each at most once. -/
  nodes : List (Place × Node)
  deriving DecidableEq

namespace Files

/-- What there is at `place`. At the root there is always a directory. -/
def find? (files : Files) (place : Place) : Option Node :=
  if place = [] then some .directory else files.nodes.lookup place

/-- The files with `node` at `place`, in the place of what was there. -/
def put (files : Files) (place : Place) (node : Node) : Files :=
  ⟨(place, node) :: files.nodes.filter fun entry => entry.1 != place⟩

/-- The most bytes that a name may have, counted by `Text.octetCount`. -/
def nameLimit : Nat := 255

/-- The number of bytes that a path may not reach, counted by `Text.octetCount`. -/
def pathLimit : Nat := 4096

/-- Goes along names from `place`, from directory to directory. The last name may lead to a place
where there is nothing. Faults are about the path as it is `written`. -/
def walk (files : Files) (written : String) (place : Place) :
    List String → Except FileFault Place
  | [] => .ok place
  | name :: rest =>
    if nameLimit < Text.octetCount name then .error (.nameTooLong written)
    else
      let next := if name = ".." then place.dropLast else place ++ [name]
      if rest.isEmpty then .ok next
      else
        match files.find? next with
        | some .directory => walk files written next rest
        | some _ => .error (.notDirectory written)
        | none => .error (.notFound written)

/-- The place at which `path` starts: the root, or the working directory. -/
def start (working : Place) (path : Path) : Place :=
  if path.isAbsolute then [] else working

/-- The place to which `names` lead that never lead back, if there is a directory before the last
one. A directory lies in directories, so nothing else on the way has to be looked at. -/
def direct? (files : Files) (place : Place) (names : List String) : Option Place :=
  let fits := Text.octetCount (names.getLast?.getD "") ≤ nameLimit
  if fits && !names.contains ".." && files.find? (place ++ names.dropLast) == some .directory then
    some (place ++ names)
  else none

/-- The place to which `path` leads from the working directory, whether there is something at it or
not. -/
def locate (files : Files) (working : Place) (path : Path) : Except Fault Place :=
  match path.misspelling? with
  | some fault => .error fault
  | none =>
    if pathLimit ≤ Text.octetCount path.text then .error (.file (.nameTooLong path.text))
    else
      match files.direct? (start working path) path.names with
      | some place => .ok place
      | none =>
        match files.walk path.text (start working path) path.names with
        | .ok place => .ok place
        | .error cause => .error (.file cause)

/-- What there is where `path` leads; nothing there is a fault. -/
def nodeAt (files : Files) (working : Place) (path : Path) : Except Fault Node :=
  match files.locate working path with
  | .error fault => .error fault
  | .ok place =>
    match files.find? place with
    | some node => .ok node
    | none => .error (.file (.notFound path.text))

/-- Whether `path` leads to a `directory`, and without a fault. -/
def isDirectory (files : Files) (working : Place) (path : Path) : Bool :=
  match files.nodeAt working path with
  | .ok .directory => true
  | _ => false

/-- The text of the file at `path`, which has to be one that is encoded as text. -/
def readText (files : Files) (working : Place) (path : Path) : Except Fault String :=
  match files.nodeAt working path with
  | .error fault => .error fault
  | .ok .directory => .error (.file (.isDirectory path.text))
  | .ok (.file text) => .ok text
  | .ok _ => .error .encoding

/-- Writes `text` to the file at `path`, which need not be there yet. A store is overwritten like
any file. -/
def writeText (files : Files) (working : Place) (path : Path) (text : String) :
    Except Fault Files :=
  match files.locate working path with
  | .error fault => .error fault
  | .ok place =>
    match files.find? place with
    | some .directory => .error (.file (.isDirectory path.text))
    | _ => .ok (files.put place (.file text))

/-- Makes a directory at `path`, where there has to be nothing. -/
def newDirectory (files : Files) (working : Place) (path : Path) : Except Fault Files :=
  match files.locate working path with
  | .error fault => .error fault
  | .ok place =>
    match files.find? place with
    | some _ => .error (.file (.occupied path.text))
    | none => .ok (files.put place .directory)

/-- How many directories may be missing on the way to a new one, in `makeDirectory`. -/
def missingLimit : Nat := 988

/-- What is left of an attempt to make a directory at `path`: that it cannot be made because it is
there already is no fault. -/
def settled (files : Files) (working : Place) (path : Path) :
    Except Fault Files → Files × Except Fault Unit
  | .ok next => (next, .ok ())
  | .error fault => (files, if files.isDirectory working path then .ok () else .error fault)

/-- Makes a directory, and before it those that are missing on the way, as long as they are fewer
than a limit. -/
def makeWithin (files : Files) (working : Place) :
    Nat → Path → Files × Except Fault Unit
  | 0, _ => (files, .error .tooDeep)
  | limit + 1, path =>
    match files.newDirectory working path with
    | .ok next => (next, .ok ())
    | .error (.file (.notFound written)) =>
      if path.names = [] then (files, .error (.file (.notFound written)))
      else
        match makeWithin files working limit path.parent with
        | (next, .error fault) => (next, .error fault)
        | (next, .ok ()) => next.settled working path (next.newDirectory working path)
    | .error fault => files.settled working path (.error fault)

/-- Makes sure that `path` leads to a directory. Directories that are missing on the way are made as
well, and stay even if a later one cannot be made. -/
def makeDirectory (files : Files) (working : Place) (path : Path) : Files × Except Fault Unit :=
  files.makeWithin working missingLimit path

/-- Reads an artifact from the file at `path`; a missing file is a fault of the document. -/
def readArtifact (files : Files) (working : Place) (path : Path) : Except Fault Artifact :=
  match files.readText working path with
  | .ok text => Artifact.ofText path.text text
  | .error (.file (.notFound _)) => .error (.document (.noFile path.text))
  | .error fault => .error fault

/-- The key of the file at `path`, which is made from its bytes by `fileKey`. -/
def readKey (files : Files) (working : Place) (path : Path) : Except Fault String :=
  (files.readText working path).map fun text => fileKey text.toUTF8

/-- After `node` is put at `place`, which is not the root, only this place has changed. -/
theorem find?_put (files : Files) (place other : Place) (node : Node) (h : place ≠ []) :
    (files.put place node).find? other =
      if other = place then some node else files.find? other := by
  unfold find? put
  by_cases hroot : other = []
  · subst hroot
    simp [h.symm]
  · by_cases heq : other = place
    · subst heq
      simp [hroot]
    · have hne : (other == place) = false := by simpa using heq
      simp only [hroot, heq, if_false, List.lookup_cons, hne]
      induction files.nodes with
      | nil => rfl
      | cons entry rest ih =>
        obtain ⟨key, value⟩ := entry
        by_cases hkey : key = place
        · subst hkey
          simp [List.lookup_cons, hne, ih]
        · by_cases hother : other = key
          · subst hother
            simp [hkey]
          · have hob : (other == key) = false := by simpa using hother
            simp [hkey, List.lookup_cons, hob, ih]

end Files

end Reidentify

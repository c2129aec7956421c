import Reidentify.Shell.Files
import Reidentify.Shell.StoreName

/-!
# Stores in files

A store of runs lives in a file. It is made together with its directory when it is opened for the
first time; a file of at most one byte becomes a store, every other file is refused. A request to a
store looks up its archive in the file and puts the changed archive back, so a request that fails
changes nothing. A store that is kept in no file but shared has a place below the empty name, where
no path leads.
-/

namespace Reidentify.Files

/-- The place of a store that is kept in no file but shared under `key`. No path leads below the
empty name. -/
def sharedPlace (key : String) : Place := ["", key]

/-- The number of octets that the name of a store leaves free, for the file that stands beside it
while it is changed. -/
def nameReserve : Nat := 8

/-- The most octets that the way from the root to a store may have (`storePlace?`). -/
def storeLimit : Nat := 512

/-- The number of octets of the way from the root to `place`, slashes included. -/
def wayLength (place : Place) : Nat :=
  place.foldl (fun size name => size + 1 + Text.octetCount name) 0

/-- Goes along names from `place` to a store. A double dot takes the name before it away, whether or
not that name leads to a directory. -/
def storeWalk (files : Files) (place : Place) : List String → Option Place
  | [] => some place
  | name :: rest =>
    if name = ".." then storeWalk files place.dropLast rest
    else
      let next := place ++ [name]
      if nameLimit < Text.octetCount name || storeLimit ≤ wayLength next then none
      else
        match files.find? place with
        | some .directory | none => storeWalk files next rest
        | some _ => none

/-- The place to which `path` leads as the path of a store. It is in a directory, and its way leaves
`nameReserve` octets free. -/
def storePlace? (files : Files) (working : Place) (path : Path) : Option Place :=
  (files.storeWalk (start working path) path.names).filter fun place =>
    place ≠ [] && wayLength place + nameReserve ≤ storeLimit
      && files.find? place.dropLast == some .directory

/-- Whether the name of `place` leaves enough octets free for a store (`nameReserve`). -/
def fitsStore (place : Place) : Bool :=
  Text.octetCount (place.getLast?.getD "") + nameReserve ≤ nameLimit

/-- Whether a file with the contents `text` can become a store. A single byte counts as no content.
-/
def isVacant (text : String) : Bool :=
  text.utf8ByteSize ≤ 1

/-- Makes a store at `place`, unless its file may not change or its name is too long. A file without
content is left behind then. -/
def newStore (files : Files) (name : StoreName) (place : Place) : Files × Except OpenFault Unit :=
  if name.isFixed then (files.put place (.file ""), .error .readOnly)
  else if fitsStore place then (files.put place (.store .empty), .ok ())
  else (files.put place (.file ""), .error .noFile)

/-- Opens the store at `place`, and makes it if it is missing and may be made. A store that is there
already cannot be opened without locks. -/
def openAt (files : Files) (name : StoreName) (place : Place) : Files × Except OpenFault Unit :=
  match files.find? place with
  | none => if name.access = .make then files.newStore name place else (files, .error .noFile)
  | some (.file text) =>
    if !isVacant text then (files, .error .foreignFile)
    else if name.access = .read then (files, .error .readOnly)
    else files.newStore name place
  | some (.store _) =>
    if name.isFixed then (files, .error .readOnly)
    else (files, if name.isUnlocked then .error .noFile else .ok ())
  | some .directory =>
    (files, .error (if name.access = .read then .unreadable else .noFile))
  | some .binary => (files, .error .foreignFile)

/-- Opens a store that is kept in no file; one with a `key` is shared with later requests. -/
def openInMemory (files : Files) (name : StoreName) (key : Option String) :
    Files × Except OpenFault Unit :=
  if name.access = .read || name.isFixed then (files, .error .readOnly)
  else
    match key.map sharedPlace with
    | none => (files, .ok ())
    | some place =>
      (if (files.find? place).isSome then files else files.put place (.store .empty), .ok ())

/-- Opens the store that `name` says, wherever it is kept (`StoreName.home`). -/
def openNamed (files : Files) (working : Place) (name : StoreName) :
    Files × Except OpenFault Unit :=
  match name.home with
  | .nowhere => files.openInMemory name none
  | .shared key => files.openInMemory name (some key)
  | .file path =>
    match files.storePlace? working path with
    | some place => files.openAt name place
    | none => (files, .error .noFile)

/-- Opens the store that `path` names, and makes it if it is missing, together with its directory.
-/
def openStore (files : Files) (working : Place) (path : Path) : Files × Except Fault Unit :=
  let refused (cause : OpenFault) : Except Fault Unit :=
    .error (.store (.cannotOpen path.text cause))
  match files.makeDirectory working path.parent with
  | (next, .error (.file cause)) => (next, refused (.directory cause))
  | (next, .error fault) => (next, .error fault)
  | (next, .ok ()) =>
    match path.misspelling?, StoreName.ofPath path with
    | some fault, _ => (next, .error fault)
    | none, .error cause => (next, refused cause)
    | none, .ok name =>
      match next.openNamed working name with
      | (after, .error cause) => (after, refused cause)
      | (after, .ok ()) => (after, .ok ())

/-- The place of the store that `name` says, for a request to it. -/
def placeOf (files : Files) (working : Place) (name : StoreName) : Except StoreFault Place :=
  match name.home with
  | .nowhere => .error .noTable
  | .shared key => .ok (sharedPlace key)
  | .file path =>
    match files.storePlace? working path with
    | some place => .ok place
    | none => .error .unreachable

/-- What the `path` of a store says, and the place and the archive of the store. -/
def archiveAt (files : Files) (working : Place) (path : Path) :
    Except StoreFault (StoreName × Place × Archive) :=
  match StoreName.ofPath path with
  | .error _ => .error .unreachable
  | .ok name =>
    match files.placeOf working name with
    | .error fault => .error fault
    | .ok place =>
      match files.find? place with
      | some (.store archive) => .ok (name, place, archive)
      | some .directory => .error .unreachable
      | none => .error .noTable
      | some (.file text) => .error (if isVacant text then .noTable else .damaged)
      | some .binary => .error .damaged

/-- The answer of the store at `path` to a `request` that changes nothing. -/
def askStore {α : Type} (files : Files) (working : Place) (path : Path)
    (request : Archive → Except Fault α) : Except Fault α :=
  match files.archiveAt working path with
  | .error fault => .error (.store fault)
  | .ok (_, _, archive) => request archive

/-- The fault of a request to change a store that may not be changed. Faults of the values in the
request come first. -/
def refusal {α : Type} : Except Fault α → Fault
  | .ok _ | .error (.store (.missing _)) => .store .readOnly
  | .error fault => fault

/-- The answer of the store at `path` to a `request` that may change it, with the files afterwards.
A request that fails changes nothing. -/
def changeStore {α : Type} (files : Files) (working : Place) (path : Path)
    (request : Archive → Except Fault (Archive × α)) : Except Fault (Files × α) :=
  match files.archiveAt working path with
  | .error fault => .error (.store fault)
  | .ok (name, place, archive) =>
    if name.access = .read then .error (refusal (request archive))
    else
      match request archive with
      | .error fault => .error fault
      | .ok (changed, answer) => .ok (files.put place (.store changed), answer)

end Reidentify.Files

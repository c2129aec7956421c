import Reidentify.Shell.Commands

/-!
# The reach of a command line

The places that a command line may look at or change, so that a caller who keeps files elsewhere
knows which of them matter: all places on the way of every path that is named, and, for a run that
is written to a file, the places on the way of that file.
-/

namespace Reidentify

/-- The places that one comes to from `place` on the way along some names. -/
def Path.stationsFrom (place : Place) : List String → List Place
  | [] => [place]
  | name :: rest =>
    place :: stationsFrom (if name = ".." then place.dropLast else place ++ [name]) rest

/-- The places on the way of `path` from the root, for the working directory `working`. -/
def Path.stations (working : Place) (path : Path) : List Place :=
  if path.isAbsolute then stationsFrom [] path.names
  else stationsFrom [] (working ++ path.names)

namespace Request

/-- The directory that a request writes to, if it names one. -/
def output? : Request → Option String
  | .resolve request => request.output
  | .list _ => none
  | .exportRun request => request.output

/-- The path of the artifact that a request reads, if it runs a pass. -/
def model? : Request → Option String
  | .resolve request => some request.model
  | _ => none

end Request

namespace Surroundings

/-- The path of the file for a run, if the request is to write one and the run is kept in `store`.
-/
def exportPath? (s : Surroundings) (files : Files) (store : Path) : Request → Option Path
  | .exportRun request =>
    match files.askStore s.directory store fun archive => archive.getById (.int request.id) with
    | .ok (some run) => some ((s.exportDirectory request).file (exportName run request))
    | _ => none
  | _ => none

/-- The paths that matter for the store named `store`: its own, and that of its file. -/
def storePaths (s : Surroundings) (store : String) : List Path :=
  match s.pathOf store with
  | .error _ => []
  | .ok path =>
    match StoreName.ofPath path with
    | .ok ⟨.file place, _, _, _⟩ => [path, place]
    | _ => [path]

/-- The paths that `request` names, as far as they are known from `files`. -/
def pathsOf (s : Surroundings) (files : Files) (store : String) (request : Request) : List Path :=
  let named := s.storePaths store
    ++ request.model?.toList.filterMap fun text => (s.pathOf text).toOption
  let output := (request.output?.map Path.ofText).toList
  let outputs := output ++ output.flatMap fun directory =>
    [directory.file "report.json", directory.file "hooks.json"]
  let written :=
    (s.pathOf store).toOption.bind fun path => s.exportPath? files path request
  named ++ outputs ++ written.toList

/-- The places that the command line `arguments` may look at or change. -/
def reach (s : Surroundings) (files : Files) (arguments : List String) : List Place :=
  match Invocation.ofArguments arguments with
  | .ok ⟨store, _, some request⟩ =>
    (s.pathsOf files store request).flatMap (Path.stations s.directory)
  | _ => []

end Surroundings

end Reidentify

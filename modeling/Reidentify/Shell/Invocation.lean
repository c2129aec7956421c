import Reidentify.Shell.Topic

/-!
# Invocations

What a command line asks for, once its arguments are read. Arguments in front of the subcommand
belong to the program, all behind it to the subcommand; what neither of them takes is refused
when everything else is in order.
-/

namespace Reidentify

/-- What the subcommand for a pass is asked to do, from its options (`Topic.resolve`). -/
structure ResolveRequest where
  /-- The path of the artifact. -/
  model : String
  /-- The name of the set of mappers. -/
  mappers : String
  /-- The directory for the report and the hooks, if they are to be written. -/
  output : Option String
  /-- The most mappers that are evaluated at once, if it is given. -/
  workers : Option Int
  /-- Whether the run is kept in the store. -/
  keeps : Bool
  deriving DecidableEq, Repr

/-- What is written of a run that is exported, one of the two texts that a run keeps. -/
inductive ExportFormat where
  /-- The hooks. -/
  | hooks
  /-- The report. -/
  | report
  deriving DecidableEq, Repr

/-- The word for what is written, in the option and in the name of the file. -/
def ExportFormat.word : ExportFormat → String
  | .hooks => "hooks"
  | .report => "report"

/-- What the subcommand for writing a run is asked to do, from its options (`Topic.exportRun`). -/
structure ExportRequest where
  /-- The number of the run. -/
  id : Int
  /-- What is written. -/
  format : ExportFormat
  /-- The directory for the file, if it is not the working directory. -/
  output : Option String
  deriving DecidableEq, Repr

/-- What a subcommand is asked to do; `Session.perform` does it. -/
inductive Request where
  /-- To run a pass. -/
  | resolve (request : ResolveRequest)
  /-- To list the runs whose revision contains `revision`. -/
  | list (revision : String)
  /-- To write a run to a file. -/
  | exportRun (request : ExportRequest)
  deriving DecidableEq, Repr

/-- The word of the subcommand that makes a request, as `Topic.subcommands` lists it. -/
def Request.word : Request → String
  | .resolve _ => "resolve"
  | .list _ => "list"
  | .exportRun _ => "export"

/-- What a command line asks for, once all its arguments are read: the `store`, the log and a
`request`. -/
structure Invocation where
  /-- The path of the store. -/
  store : String
  /-- Whether the log is detailed. -/
  debug : Bool
  /-- What the subcommand is asked to do, if there is one. -/
  request : Option Request
  deriving DecidableEq, Repr

/-- Why a command line asks for nothing that can be done: it asks for `help`, or it is wrong. -/
inductive Refusal where
  /-- Help on `topic` is asked for. -/
  | help (topic : Topic)
  /-- The arguments of `topic` are wrong in the way that `fault` says. -/
  | usage (topic : Topic) (fault : UsageFault)
  deriving DecidableEq, Repr

namespace Invocation

/-- The path of the store if the option `Topic.storeFlag` is not given. -/
def standardStore : String := "~/.hookmap/runs.db"

/-- The name of the set of mappers if `Topic.mappersFlag` is not given. -/
def standardMappers : String := "hookmap.mappers.std:build_registry"

/-- The complaint about a `word` that is none of `Topic.subcommands`. -/
def unknownSubcommand (word : String) : UsageFault :=
  .notAllowed "subcommand" word (Topic.subcommands.map (·.1))

/-- Reads the `arguments` of `topic` by its own options. -/
def readTopic (topic : Topic) (arguments : List String) : Except Refusal Reading :=
  match Arguments.read topic.flags (topic == .program) arguments with
  | .ok reading => .ok reading
  | .error .help => .error (.help topic)
  | .error (.wrong fault) => .error (.usage topic fault)

/-- The format that the option `Topic.formatFlag` names, the hooks if it is not given. -/
def formatOf (word : Option String) : ExportFormat :=
  if word = some ExportFormat.report.word then .report else .hooks

/-- The request that the options of a subcommand make. Options that have to be given are there when
the arguments have been read. -/
def requestOf (topic : Topic) (reading : Reading) : Option Request :=
  match topic with
  | .program => none
  | .resolve =>
    some (.resolve {
      model := (reading.text? Topic.modelFlag.label).getD ""
      mappers := (reading.text? Topic.mappersFlag.label).getD standardMappers
      output := reading.text? Topic.outputFlag.label
      workers := reading.integer? Topic.workersFlag.label
      keeps := !reading.has Topic.unkeptFlag.label })
  | .list => some (.list ((reading.text? Topic.revisionFlag.label).getD ""))
  | .exportRun =>
    some (.exportRun {
      id := (reading.integer? Topic.idFlag.label).getD 0
      format := formatOf (reading.text? Topic.formatFlag.label)
      output := reading.text? Topic.outputFlag.label })

/-- Reads the command line `arguments`: the options of the program, the subcommand and its options.
What is left over is refused last. -/
def ofArguments (arguments : List String) : Except Refusal Invocation := do
  let general ← readTopic .program arguments
  let store := (general.text? Topic.storeFlag.label).getD standardStore
  let debug := general.has Topic.debugFlag.label
  match general.behind with
  | [] => refuseRest general.leftOver ⟨store, debug, none⟩
  | word :: behind =>
    match Topic.subcommands.lookup word with
    | none => .error (.usage .program (unknownSubcommand word))
    | some topic =>
      let special ← readTopic topic behind
      refuseRest (general.leftOver ++ special.leftOver)
        ⟨store, debug, requestOf topic special⟩
where
  /-- Refuses the arguments `leftOver`, if there are any. -/
  refuseRest (leftOver : List String) (invocation : Invocation) : Except Refusal Invocation :=
    if leftOver.isEmpty then .ok invocation
    else .error (.usage .program (.leftOver leftOver))

end Invocation

end Reidentify

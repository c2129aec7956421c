import Reidentify.Shell.Commands

/-!
# Sessions

A session is what comes of one command line: the files that it leaves behind, what it shows, and
how it ends. A session ends with an exit code; zero means success, one a fault that is reported to
the user, two wrong arguments or a pass in which a mapper binds nothing. A fault that is not
reported ends a session without an exit code.
-/

namespace Reidentify

/-- How much a level matters, as a number to compare with the threshold of a session. -/
def LogLevel.weight : LogLevel → Nat
  | .debug => 0
  | .info => 1
  | .warning => 2

/-- What comes of a command line: what it changes, what it shows and how it ends. -/
structure Session where
  /-- The files that it leaves behind, whether or not it ends with a fault. -/
  files : Files
  /-- What it gives notice of. -/
  notices : List Notice
  /-- The least level of lines of the log that are shown. -/
  threshold : LogLevel
  /-- The exit code, or a fault that is not reported (`Fault.isReported`). -/
  ending : Except Fault Nat

namespace Session

/-- The exit code for success: the command has done everything that was asked for. -/
def success : Nat := 0

/-- The exit code for a fault that is reported (`Fault.isReported`). -/
def reportedFault : Nat := 1

/-- The exit code for wrong arguments, with which no command is run. -/
def wrongArguments : Nat := 2

/-- The exit code for a pass whose report is not `complete`: some mapper binds nothing. -/
def incomplete : Nat := 2

/-- The work that `request` asks for, with its exit code. The store is opened first, unless it is
not needed. -/
def perform (s : Surroundings) (store : String) (request : Request)
    (load : String → Except Fault Registry := MapperSet.load) : Work Nat :=
  match request with
  | .resolve request => do
    let path ← if request.keeps then some <$> s.openStore store else pure none
    let report ← s.resolve path request load
    return if report.complete then success else incomplete
  | .list revision => do
    let path ← s.openStore store
    s.listRuns path revision
    return success
  | .exportRun request => do
    let path ← s.openStore store
    let _ ← s.exportRun path request
    return success

/-- A session that is over with `code` before there was any work, so `files` stay as they are. -/
def without (files : Files) (notices : List Notice) (code : Nat) : Session :=
  ⟨files, notices, .info, .ok code⟩

/-- The session of a refused command line: the help on a topic, or its usage and the complaint. -/
def refused (files : Files) : Refusal → Session
  | .help topic => without files [.printed topic.help] success
  | .usage topic fault =>
    without files [.complained topic.usage, .complained s!"{topic.name}: error: {fault.message}"]
      wrongArguments

/-- The session of `request`. A fault that is reported becomes a complaint and an exit code. -/
def ofRequest (s : Surroundings) (files : Files) (invocation : Invocation) (request : Request)
    (load : String → Except Fault Registry := MapperSet.load) : Session :=
  let threshold : LogLevel := if invocation.debug then .debug else .info
  match perform s invocation.store request load files with
  | (after, ⟨notices, .ok code⟩) => ⟨after, notices, threshold, .ok code⟩
  | (after, ⟨notices, .error fault⟩) =>
    if fault.isReported then
      let report : List Notice :=
        [.logged ⟨.debug, .commands, s!"{request.word} failed"⟩,
         .complained s!"Error: {fault.message}"]
      ⟨after, notices ++ report, threshold, .ok reportedFault⟩
    else ⟨after, notices, threshold, .error fault⟩

/-- The session of the command line `arguments` on `files`. Without a subcommand it shows the help
of the program. -/
def ofArguments (s : Surroundings) (files : Files) (arguments : List String)
    (load : String → Except Fault Registry := MapperSet.load) : Session :=
  match Invocation.ofArguments arguments with
  | .error refusal => refused files refusal
  | .ok invocation =>
    match invocation.request with
    | none => without files [.printed Topic.program.help] success
    | some request => ofRequest s files invocation request load

/-- What `session` writes to the standard output: the lines that are printed. -/
def output (session : Session) : String :=
  String.join (session.notices.map fun
    | .printed text => text ++ "\n"
    | _ => "")

/-- What `session` writes to the standard error: the complaints and, if `withLog`, the lines of the
log from its threshold on. -/
def errors (session : Session) (withLog : Bool) : String :=
  String.join (session.notices.map fun
    | .complained text => text ++ "\n"
    | .logged line =>
      if withLog && session.threshold.weight ≤ line.level.weight then
        s!"[{line.level.name}] {line.text}\n"
      else ""
    | .printed _ => "")

end Session

end Reidentify

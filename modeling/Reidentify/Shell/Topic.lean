import Reidentify.Shell.Arguments

/-!
# Topics of the command line

The command line has four topics: the program as a whole and its three subcommands. Every topic
has a usage line, a help text of at most eighty columns, and options.
-/

namespace Reidentify

/-- A topic of the command line, with its own `usage`, `help` and `flags`. -/
inductive Topic where
  /-- The program as a whole. -/
  | program
  /-- The subcommand that runs a pass. -/
  | resolve
  /-- The subcommand that lists runs. -/
  | list
  /-- The subcommand that writes a run to a file. -/
  | exportRun
  deriving DecidableEq, Repr

namespace Topic

/-- The name of the program, which every `usage` begins with. -/
def programName : String := "hookmap"

/-- The subcommands with their words, in the order in which `help` lists them. -/
def subcommands : List (String × Topic) :=
  [("resolve", .resolve), ("list", .list), ("export", .exportRun)]

/-- The name of a topic in a complaint: that of the program, and the word for the subcommand. -/
def name : Topic → String
  | .program => programName
  | .resolve => programName ++ " resolve"
  | .list => programName ++ " list"
  | .exportRun => programName ++ " export"

/-- The usage of a topic, in one line or two, in front of every complaint about its arguments. -/
def usage : Topic → String
  | .program =>
    "usage: hookmap [-h] [--db PATH] [--debug] \x7bresolve,list,export\x7d ..."
  | .resolve =>
    "usage: hookmap resolve [-h] --model PATH [--mappers MODULE:FUNC]\n"
      ++ "                       [--output DIR] [--workers N] [--no-store]"
  | .list => "usage: hookmap list [-h] [--revision REV]"
  | .exportRun =>
    "usage: hookmap export [-h] --id ID [--format \x7bhooks,report\x7d] [--output DIR]"

/-- The lines that the `help` of a topic has behind its `usage`. -/
def explanation : Topic → List String
  | .program =>
    ["",
     "Re-identify obfuscated classes, fields and methods across releases",
     "",
     "positional arguments:",
     "  \x7bresolve,list,export\x7d",
     "    resolve             Resolve all mappers against an entity model",
     "    list                List stored runs",
     "    export              Export a stored run",
     "",
     "options:",
     "  -h, --help            show this help message and exit",
     "  --db PATH             SQLite database path (default: ~/.hookmap/runs.db)",
     "  --debug               Enable verbose debug logging"]
  | .resolve =>
    ["",
     "options:",
     "  -h, --help            show this help message and exit",
     "  --model PATH          Entity model JSON file",
     "  --mappers MODULE:FUNC",
     "                        Callable returning a MapperRegistry (default:",
     "                        hookmap.mappers.std:build_registry)",
     "  --output DIR          Write report.json and hooks.json into DIR",
     "  --workers N           Max mappers evaluated at once (default:",
     "                        HOOKMAP_MAX_WORKERS or 4)",
     "  --no-store            Do not persist the run to the database"]
  | .list =>
    ["",
     "options:",
     "  -h, --help      show this help message and exit",
     "  --revision REV  Filter by revision substring"]
  | .exportRun =>
    ["",
     "options:",
     "  -h, --help            show this help message and exit",
     "  --id ID               Run record id to export",
     "  --format \x7bhooks,report\x7d",
     "                        Export format: hooks (accessor generator input) or",
     "                        report",
     "  --output DIR          Output directory (default: current directory)"]

/-- The help text of `topic`: its `usage` and its `explanation`. -/
def help (topic : Topic) : String :=
  "\n".intercalate (topic.usage :: topic.explanation)

/-- The option that asks for the `help` of a topic. -/
def helpFlag : Flag := ⟨["-h", "--help"], .help, false⟩

/-- The option for the store, with a path or a locator (`StoreName`). -/
def storeFlag : Flag := ⟨["--db"], .text, false⟩

/-- The option for a log with all its lines, also those of the level `debug`. -/
def debugFlag : Flag := ⟨["--debug"], .switch, false⟩

/-- The option for the file of the artifact, which has to be given (`isRequired`). -/
def modelFlag : Flag := ⟨["--model"], .text, true⟩

/-- The option for the set of mappers, by a name that `MapperSet.load` reads. -/
def mappersFlag : Flag := ⟨["--mappers"], .text, false⟩

/-- The option for the directory that `report.json` and `hooks.json`, or a run, are written to. -/
def outputFlag : Flag := ⟨["--output"], .text, false⟩

/-- The option for the number of workers, which `Settings.workersVariable` says otherwise. -/
def workersFlag : Flag := ⟨["--workers"], .integer, false⟩

/-- The option for a pass that is not kept in the store, a `switch`. -/
def unkeptFlag : Flag := ⟨["--no-store"], .switch, false⟩

/-- The option for the text that a listed revision contains, all of them for the empty text. -/
def revisionFlag : Flag := ⟨["--revision"], .text, false⟩

/-- The option for the number of a run, which has to be given (`isRequired`). -/
def idFlag : Flag := ⟨["--id"], .integer, true⟩

/-- The option for what is written of a run, one of the two words of `ExportFormat`. -/
def formatFlag : Flag := ⟨["--format"], .oneOf ["hooks", "report"], false⟩

/-- The options of a topic, in the order in which its `help` lists them. -/
def flags : Topic → List Flag
  | .program => [helpFlag, storeFlag, debugFlag]
  | .resolve => [helpFlag, modelFlag, mappersFlag, outputFlag, workersFlag, unkeptFlag]
  | .list => [helpFlag, revisionFlag]
  | .exportRun => [helpFlag, idFlag, formatFlag, outputFlag]

end Topic

end Reidentify

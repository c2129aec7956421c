import Reidentify.Query.Predicate
import Reidentify.Trail

/-!
# Events of a pass

What happens while mappers are evaluated: candidates are considered, parts of predicates are
tried, and lines are written to the log.
-/

namespace Reidentify

/-- How much a line of the log matters, from `debug` to `warning`. -/
inductive LogLevel where
  /-- Of interest for a search of errors only. -/
  | debug
  /-- Of interest for everyone. -/
  | info
  /-- About something that may be wrong. -/
  | warning
  deriving DecidableEq, Repr

/-- The name of a level at the beginning of a line, in capitals. -/
def LogLevel.name : LogLevel → String
  | .debug => "DEBUG"
  | .info => "INFO"
  | .warning => "WARNING"

/-- The part of the program that writes a line of the log, for the name in that line. -/
inductive LogSource where
  /-- The reading of artifacts. -/
  | artifacts
  /-- The scheduling of mappers. -/
  | schedule
  /-- The evaluation of mappers. -/
  | pass
  /-- The export of hooks. -/
  | hooks
  /-- The store of runs. -/
  | archive
  /-- The command line. -/
  | commands
  deriving DecidableEq, Repr

/-- A line of the log with its `level`, its `source` and its `text`, as `Trail.log` writes it. -/
structure LogLine where
  /-- How much the line matters. -/
  level : LogLevel
  /-- Who writes it. -/
  source : LogSource
  /-- What it says. -/
  text : String
  deriving DecidableEq, Repr

/-- Something that happens while mappers are evaluated. The trail of a pass is a list of them. -/
inductive Event where
  /-- The predicate of `mapper` is evaluated on `candidate`. -/
  | considered (mapper : String) (candidate : Entity)
  /-- The part `leaf` of a predicate is tried on `entity`. -/
  | tried (leaf : Predicate) (entity : Entity)
  /-- The line `line` is written to the log. -/
  | logged (line : LogLine)

/-- The description and the entity of a run of a probe, if the event is one: a `test` that is marked
as such. -/
def Event.probe? : Event → Option (String × Entity)
  | .tried (.test description true _) entity => some (description, entity)
  | _ => none

/-- The line of the log that the event writes, if it is one that writes any (`LogLine`). -/
def Event.line? : Event → Option LogLine
  | .logged line => some line
  | _ => none

/-- Writes the line `text` to the log, and does nothing else. -/
def Trail.log (level : LogLevel) (source : LogSource) (text : String) : Trail Event Unit :=
  .emit (.logged ⟨level, source, text⟩)

end Reidentify

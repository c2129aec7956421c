import Reidentify.Query.Event
import Reidentify.Shell.StoreFile

/-!
# Work on files

Work is done on files and leaves files behind, and while it is done it gives notice of what
happens: lines that are printed, complaints, and lines of the log. Work that ends with a fault
leaves the files as they were when the fault arose, so what was written before it stays written.
-/

namespace Reidentify

/-- Something that the user may see while a command runs: a printed line, a complaint, or a line of
the log. -/
inductive Notice where
  /-- The line `text` on the standard output. -/
  | printed (text : String)
  /-- The line `text` on the standard error. -/
  | complained (text : String)
  /-- The line `line` of the log, shown if it matters enough (`Session.errors`). -/
  | logged (line : LogLine)
  deriving DecidableEq, Repr

/-- The notice of an event of a pass, if the user may see it: its line of the log. -/
def Event.notice? (event : Event) : Option Notice :=
  event.line?.map .logged

/-- Work on files with a result of type `α`: it leaves files behind, and a trail of notices with its
result. -/
def Work (α : Type) : Type := Files → Files × Trail Notice α

namespace Work

variable {α β : Type}

/-- Work that does nothing and has the result `a`. -/
def done (a : α) : Work α := fun files => (files, .done a)

/-- The work `first` and, unless it ends with a fault, `next` on its result and the files that it
leaves behind. -/
def andThen (first : Work α) (next : α → Work β) : Work β := fun files =>
  match first files with
  | (after, ⟨notices, .error fault⟩) => (after, ⟨notices, .error fault⟩)
  | (after, ⟨notices, .ok a⟩) =>
    let (last, rest) := next a after
    (last, ⟨notices ++ rest.events, rest.result⟩)

instance : Monad Work where
  pure := done
  bind := andThen

/-- Work with a `result` that does not depend on files, and that leaves them as they are. -/
def lift (result : Except Fault α) : Work α := fun files => (files, .lift result)

/-- Work whose result is the answer to a `question` about the files, which stay as they are. -/
def reading (question : Files → Except Fault α) : Work α := fun files =>
  (files, .lift (question files))

/-- A `change` of files that happens as a whole or not at all. -/
def changing (change : Files → Except Fault (Files × α)) : Work α := fun files =>
  match change files with
  | .ok (after, a) => (after, .done a)
  | .error fault => (files, .fail fault)

/-- A `change` of files that may stop halfway; what it has changed before a fault stays changed. -/
def attempting (change : Files → Files × Except Fault α) : Work α := fun files =>
  let (after, result) := change files
  (after, .lift result)

/-- Gives the notice `notice`, and does nothing else. -/
def notify (notice : Notice) : Work Unit := fun files => (files, .emit notice)

/-- Prints the line `text` on the standard output. -/
def print (text : String) : Work Unit := notify (.printed text)

/-- Writes the line `text` to the log. -/
def log (level : LogLevel) (source : LogSource) (text : String) : Work Unit :=
  notify (.logged ⟨level, source, text⟩)

/-- The computation `trail` of a pass, with notice of those of its events that the user may see
(`Event.notice?`). -/
def ofTrail (trail : Trail Event α) : Work α := fun files =>
  (files, ⟨trail.events.filterMap Event.notice?, trail.result⟩)

end Work

end Reidentify

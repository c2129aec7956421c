import Reidentify.Fault
import Reidentify.Text.LowerCase

/-!
# Settings of a pass

How many mappers may be evaluated at once. The settings come from the caller or from two
variables of the environment. They never change the result of a pass.
-/

namespace Reidentify

/-- How a pass is run. The two settings are values as a caller gives them, not yet numbers and truth
values. -/
structure Settings where
  /-- The most mappers that are evaluated at once; a number that is at least one. -/
  workers : Value
  /-- Whether mappers may be evaluated at once at all; any value, which counts by `Value.isTruthy`.
  -/
  parallel : Value
  deriving DecidableEq

namespace Settings

/-- The settings if nothing else is said: four workers that may evaluate at once (`parallel`). -/
def standard : Settings := ⟨.int 4, .bool true⟩

/-- Settings with a number `workers` that is at least one. The complaint about any other number
names it, and what is no number at all has the wrong type. -/
def make (workers parallel : Value) : Except Fault Settings :=
  match workers.quantity? with
  | none => .error .wrongType
  | some number =>
    if number.below 1 then
      Whole.naming number.wholes (.error (.configuration (.workers workers)))
    else .ok ⟨workers, parallel⟩

/-- Whether mappers are evaluated at once: the answer is `settings.parallel` itself if that counts
as false. -/
def concurrent (settings : Settings) : Value :=
  if settings.parallel.isTruthy then
    .bool (settings.workers.quantity?.any (·.above 1))
  else settings.parallel

/-- The name of the variable of the environment for the number of `workers`. -/
def workersVariable : String := "HOOKMAP_MAX_WORKERS"

/-- The name of the variable of the environment that says whether to evaluate in `parallel`. -/
def parallelVariable : String := "HOOKMAP_PARALLEL"

/-- The number of workers that `text` asks for. An empty text asks for that of `standard`. -/
def workersOf (text : String) : Except Fault Value :=
  let trimmed := Text.trim text
  if trimmed.isEmpty then .ok standard.workers
  else
    match Text.readInteger trimmed with
    | .integer number => .ok (.int number)
    | _ => .error (.configuration (.workersText trimmed))

/-- Whether `text` asks for parallel evaluation. An empty text asks for what is `standard`. -/
def parallelOf (text : String) : Except Fault Value :=
  let word := Text.lowerCase (Text.trim text)
  if word.isEmpty then .ok standard.parallel
  else if ["1", "true", "yes", "on"].contains word then .ok (.bool true)
  else if ["0", "false", "no", "off"].contains word then .ok (.bool false)
  else .error (.configuration (.parallelText word))

/-- The settings that the variables of `environment` ask for; a variable that is not set counts as
empty. -/
def ofEnvironment (environment : List (String × String)) : Except Fault Settings := do
  let workers ← workersOf ((environment.lookup workersVariable).getD "")
  let parallel ← parallelOf ((environment.lookup parallelVariable).getD "")
  make workers parallel

end Settings

end Reidentify

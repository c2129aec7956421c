import Reidentify.Mapper.Registry
import Reidentify.Query.Event

/-!
# Schedules

A schedule knows which mappers each mapper depends on. Its waves are the order of evaluation:
the first wave holds the mappers without dependencies, and every further wave those whose
dependencies all stand in earlier waves. If mappers depend on each other in a circle there is no
such order, and the members of all circles are named.
-/

namespace Reidentify

/-- The name of a mapper and the names of the mappers that it depends on, its `dependencies`. -/
structure Task where
  /-- The name of the mapper. -/
  name : String
  /-- The mappers it depends on, in ascending order. -/
  dependencies : List String
  deriving DecidableEq, Repr

/-- The tasks of a pass, the graph whose edges lead from a mapper to its dependencies. -/
structure Schedule where
  /-- The tasks in the order in which their mappers were registered. -/
  tasks : List Task
  deriving DecidableEq, Repr

namespace Schedule

/-- The schedule of `mappers`, whether their dependencies are among them or not. -/
def ofMappers (mappers : List Mapper) : Schedule :=
  ⟨mappers.map fun mapper => ⟨mapper.name, mapper.dependencies⟩⟩

/-- The number of the `tasks` that `schedule` has. -/
def size (schedule : Schedule) : Nat :=
  schedule.tasks.length

/-- The number of pairs of a task and one of its dependencies, over all tasks of `schedule`. -/
def edgeCount (schedule : Schedule) : Nat :=
  schedule.tasks.foldl (fun count task => count + task.dependencies.length) 0

/-- The schedule of `registry`, which has to be valid, with a line in the log about its size. -/
def ofRegistry (registry : Registry) : Trail Event Schedule :=
  (Trail.lift registry.validate).andThen fun _ =>
    let schedule := ofMappers registry.mappers
    let size := schedule.size
    let edges := schedule.edgeCount
    (Trail.log .debug .schedule s!"Dependency graph: {size} mappers, {edges} edges").andThen
      fun _ => .done schedule

/-- The task of `name`, or `none` if there is none. -/
def find? (schedule : Schedule) (name : String) : Option Task :=
  schedule.tasks.find? (·.name == name)

/-- Whether there is a task of this `name` among the `tasks`. -/
def contains (schedule : Schedule) (name : String) : Bool :=
  (schedule.find? name).isSome

/-- The names that `name` depends on directly; none if it has no task. -/
def prerequisites (schedule : Schedule) (name : String) : List String :=
  match schedule.find? name with
  | some task => task.dependencies
  | none => []

/-- The names that depend on `name` directly, in the order of their tasks. -/
def successors (schedule : Schedule) (name : String) : List String :=
  (schedule.tasks.filter fun task => task.dependencies.contains name).map (·.name)

/-- The names that are reached from pending ones by repeated use of `step`, together with those
reached before. The fuel bounds the number of names that are looked at. -/
def explore (step : String → List String) : Nat → List String → List String → List String
  | 0, _, reached => reached
  | _ + 1, [], reached => reached
  | fuel + 1, name :: pending, reached =>
    -- a name that was reached is dropped, so each one is stepped from once
    if reached.contains name then explore step fuel pending reached
    else explore step fuel (step name ++ pending) (name :: reached)

/-- The names that are reached from `name` by one or more uses of `step`. Every name is stepped from
once, so no more names are looked at than there are dependencies. -/
def reachable (schedule : Schedule) (step : String → List String) (name : String) :
    List String :=
  let start := step name
  explore step (start.length + schedule.edgeCount + 1) start []

/-- The order of evaluation, as far as there is one: `stuck` is empty iff there is one for all
tasks. -/
structure Layering where
  /-- The waves, the names of each in ascending order. A wave depends on earlier ones only. -/
  waves : List (List String)
  /-- The tasks that never become ready, with the mappers that they wait for. -/
  stuck : List Task
  deriving DecidableEq, Repr

/-- The tasks `waiting` with the names that they still wait for when the `finished` ones are done.
-/
def release (finished : List String) (waiting : List Task) : List Task :=
  waiting.map fun task =>
    { task with dependencies := task.dependencies.filter fun name => !finished.contains name }

/-- Takes the tasks that wait for nothing away, wave by wave, until every task that is left waits
for another one. There is at least one task in every wave, so the number of tasks is enough
fuel. -/
def layers : Nat → List Task → Layering
  | 0, waiting => ⟨[], waiting⟩
  | fuel + 1, waiting =>
    match (waiting.filter fun task => task.dependencies.isEmpty).map (·.name) with
    | [] => ⟨[], waiting⟩
    | name :: more =>
      let ready := name :: more
      let others := waiting.filter fun task => !task.dependencies.isEmpty
      let rest := layers fuel (release ready others)
      ⟨Text.sortedNames ready :: rest.waves, rest.stuck⟩

/-- The order of evaluation of all tasks of `schedule`: the waves, and what is stuck. -/
def layering (schedule : Schedule) : Layering :=
  layers schedule.size schedule.tasks

/-- The names that depend on themselves, directly or through others, in ascending order. They never
become ready, so the names outside `stuck` need not be looked at. -/
def cycleMembers (schedule : Schedule) : List String :=
  Text.sortedNames ((schedule.layering.stuck.map (·.name)).filter fun name =>
    (schedule.reachable schedule.prerequisites name).contains name)

/-- Refuses a schedule with circles by a fault that names all its `cycleMembers`. -/
def checkAcyclic (schedule : Schedule) : Except Fault Unit :=
  match schedule.cycleMembers with
  | [] => .ok ()
  | name :: rest => .error (.cycle (name :: rest))

/-- The waves of `schedule`, the names of each in ascending order, or the fault of `checkAcyclic`.
-/
def waves (schedule : Schedule) : Except Fault (List (List String)) :=
  match schedule.checkAcyclic with
  | .error fault => .error fault
  | .ok () => .ok schedule.layering.waves

/-- The names of `schedule` in the order of evaluation, wave by wave. -/
def order (schedule : Schedule) : Except Fault (List String) :=
  schedule.waves.map List.flatten

/-- The names that `name` depends on directly, in ascending order. The name needs a task. -/
def dependenciesOf (schedule : Schedule) (name : String) : Except Fault (List String) :=
  match schedule.find? name with
  | some task => .ok task.dependencies
  | none => .error (.missingKey name)

/-- The names that depend on `name`, directly or through others, in ascending order. The name needs
a task, and is itself left out. -/
def dependentsOf (schedule : Schedule) (name : String) : Except Fault (List String) :=
  if schedule.contains name then
    .ok (Text.sortedNames
      ((schedule.reachable schedule.successors name).filter (· != name)))
  else .error (.missingKey name)

end Schedule

end Reidentify

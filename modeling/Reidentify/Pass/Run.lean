import Reidentify.Pass.Resolution
import Reidentify.Pass.Schedule
import Reidentify.Report.Summary

/-!
# Passes

A pass resolves every mapper of a registry against one artifact, wave by wave. A mapper is
skipped if a mapper it depends on binds nothing; the others of a wave are all resolved against
the table of the waves before, and recorded in ascending order of their names. Faults of a
mapper end the pass; that a mapper finds nothing does not.
-/

namespace Reidentify

namespace Pass

/-- Resolves `mapper` on `table` and logs its outcome, with a warning if nothing is bound. -/
def evaluate (artifact : Artifact) (table : Table) (mapper : Mapper) : Trail Event Outcome :=
  (mapper.resolve artifact table).andThen fun outcome =>
    let line :=
      if outcome.isResolved then Trail.log .debug .pass outcome.describe
      else Trail.log .warning .pass outcome.failureText
    line.andThen fun _ => .done outcome

/-- The mappers that `mapper` depends on and that bind nothing in `table`. They are why it is
skipped. -/
def blockers (table : Table) (mapper : Mapper) : List String :=
  mapper.dependencies.filter fun name => !table.isResolved name

/-- Skips the mapper of `name` if it has `blockers`, and lists it among the runnable ones of `state`
otherwise. -/
def enlist (registry : Registry) (state : Table × List Mapper) (name : String) :
    Trail Event (Table × List Mapper) :=
  let (table, runnable) := state
  (Trail.lift (registry.get name)).andThen fun mapper =>
    match blockers table mapper with
    | [] => .done (table, runnable ++ [mapper])
    | blocked =>
      let outcome : Outcome := ⟨name, .skipped blocked⟩
      (Trail.log .warning .pass outcome.failureText).andThen fun _ =>
        (Trail.lift (table.record outcome)).andThen fun next => .done (next, runnable)

/-- Records outcomes in order by `Table.record`, up to the first one that is refused. -/
def recordAll (table : Table) : List Outcome → Except Fault Table
  | [] => .ok table
  | outcome :: rest =>
    match table.record outcome with
    | .error fault => .error fault
    | .ok next => recordAll next rest

/-- Runs a wave: the blocked mappers are skipped first, the others are resolved against the table
that results, and their outcomes are recorded when all of them are there. -/
def runWave (artifact : Artifact) (registry : Registry) (table : Table) (wave : List String) :
    Trail Event Table :=
  (Trail.foldEach wave (table, []) (enlist registry)).andThen fun (admitted, runnable) =>
    (Trail.forEach runnable (evaluate artifact admitted)).andThen fun outcomes =>
      Trail.lift (recordAll admitted outcomes)

/-- Runs a pass over the mappers of `registry`: the schedule is made and checked first, then its
waves are run one after another from an empty table. -/
def run (artifact : Artifact) (registry : Registry) : Trail Event Table :=
  (Schedule.ofRegistry registry).andThen fun schedule =>
    (Trail.lift schedule.waves).andThen fun waves =>
      let mappers := registry.size
      let classes := artifact.classes.length
      let revision := if artifact.revision.isEmpty then "-" else artifact.revision
      let count := waves.length
      let start :=
        s!"Resolving {mappers} mappers against {classes} classes (revision {revision}) "
          ++ s!"in {count} waves"
      (Trail.log .info .pass start).andThen fun _ =>
        let table := Table.empty registry.names artifact.revision
        (Trail.foldEach waves table (runWave artifact registry)).andThen fun final =>
          (Trail.log .info .pass final.report.closing).andThen fun _ => .done final

end Pass

end Reidentify

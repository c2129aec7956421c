import Reidentify.Pass.Run
import Reidentify.Pass.Settings
import Reidentify.Query.Routine

/-!
# Passes with a pool of workers

A pass can evaluate the mappers of a wave at once. Its main thread skips the blocked mappers,
hands every other one to a pool of workers, collects the outcomes in the order in which it handed
the mappers over, and records them when all of them are there. The workers take the mappers in any
order. While a worker evaluates one it reads the table from time to time, and between two of its
reads the main thread and the other workers go on. If a mapper ends with a fault, the main thread
waits for the workers before it raises the fault. A wave with at most one mapper left to evaluate
is not handed to the pool.

A run is a sequence of steps, each of the main thread or of one worker, in any order.
-/

namespace Reidentify

/-- The evaluation of `mapper` that reads the table once for its scope, and anew for every test of
its predicate. -/
def Mapper.routine (mapper : Mapper) (artifact : Artifact) : Routine Outcome :=
  (Routine.read fun table => .finish (mapper.scope.candidates artifact table)).bind
    fun candidates =>
      (Routine.keep candidates mapper.predicate.routine).bind fun kept =>
        (Routine.finish (mapper.selectBy mapper.strategy.kind kept)).bind fun selection =>
          match selection with
          | .refused failure => .finish (.ok ⟨mapper.name, .failed failure⟩)
          | .chosen entity =>
            (Routine.finish (mapper.bind artifact entity)).bind fun result =>
              .finish (.ok ⟨mapper.name, result⟩)

namespace Pass

/-- An evaluation of `mapper`, divided in some way by its reads of the table. `Mapper.routine` is
one of them. -/
structure Evaluation (artifact : Artifact) (mapper : Mapper) where
  /-- The computation that a worker runs, read by read. -/
  routine : Routine Outcome
  /-- On a table that stays the same, the result is that of `Mapper.resolve`. -/
  run_routine : ∀ table, routine.run table = (mapper.resolve artifact table).result

/-- A pass over `registry` that may evaluate mappers at once, with the settings for it. -/
structure Pool where
  /-- The artifact that the mappers are resolved against. -/
  artifact : Artifact
  /-- The mappers, which need not be valid. -/
  registry : Registry
  /-- The most mappers that are evaluated at once. -/
  workers : Nat
  /-- Whether mappers may be evaluated at once at all. -/
  parallel : Bool
  /-- How each mapper is evaluated by a worker. The main thread uses `Pass.evaluate`. -/
  evaluation : (mapper : Mapper) → Evaluation artifact mapper
  workers_pos : 0 < workers

namespace Pool

/-- The settings of the pass as values, the form that `Settings.concurrent` asks about. -/
def settings (pool : Pool) : Settings :=
  ⟨.int pool.workers, .bool pool.parallel⟩

/-- Whether there are workers at all: `pool.parallel` is set and `pool.workers` is more than one. -/
def concurrent (pool : Pool) : Bool :=
  pool.settings.concurrent.isTruthy

/-- What has become of a mapper that was handed to the workers. A job only moves forward, from
`waiting` to `finished`. -/
inductive Job where
  /-- No worker has taken `mapper` yet. -/
  | waiting (mapper : Mapper)
  /-- A worker evaluates the job and is at `rest`. -/
  | running (rest : Routine Outcome)
  /-- The evaluation has ended with `result`, which is kept until it is collected. -/
  | finished (result : Except Fault Outcome)

/-- Whether a worker evaluates a job at the moment (`Job.running`). -/
def Job.isRunning : Job → Bool
  | .running _ => true
  | _ => false

/-- Whether the evaluation of a job has ended, with an outcome or with a fault. -/
def Job.isFinished : Job → Bool
  | .finished _ => true
  | _ => false

/-- What the main thread is at in a `State`, with what it still has to do there. -/
inductive Phase where
  /-- Skips the blocked mappers among the `names` of a wave and lists the others as `runnable`. -/
  | admitting (names : List String) (runnable : List Mapper)
  /-- Hands the `pending` mappers of a wave to the workers. -/
  | submitting (pending : List Mapper)
  /-- Collects the outcomes of the jobs, behind those in `outcomes`. -/
  | collecting (outcomes : List Outcome)
  /-- Evaluates the `pending` mappers of a wave itself, behind those with `outcomes`. -/
  | alone (outcomes : List Outcome) (pending : List Mapper)
  /-- Records the `outcomes` of a wave that are left. -/
  | recording (outcomes : List Outcome)
  /-- Waits for the workers before `fault` is raised. -/
  | leaving (fault : Fault)
  /-- Has returned the table, which does not change any more. -/
  | returned
  /-- Has raised `fault`, so the run is over. -/
  | raised (fault : Fault)

/-- A moment of a run: what the main thread and the workers have in common, and what each of them is
at. -/
structure State where
  /-- The table, written by the main thread and read by the workers. -/
  table : Table
  /-- The waves that have not begun, in order. -/
  waves : List (List String)
  /-- The jobs whose outcomes have not been collected, in the order in which they were handed
  over. -/
  jobs : List Job
  /-- What the main thread is at. -/
  phase : Phase

/-- How a run has ended in `state`, and `none` as long as it goes on. -/
def State.result? (state : State) : Option (Except Fault Table) :=
  match state.phase with
  | .returned => some (.ok state.table)
  | .raised fault => some (.error fault)
  | _ => none

/-- The number of jobs that workers evaluate in `state`, at most `pool.workers`. -/
def State.busy (state : State) : Nat :=
  state.jobs.countP Job.isRunning

/-- A step of the main thread, from one state to the next. In every state but those of a run that is
over and of one that waits for workers exactly one such step is possible. -/
inductive Advance (pool : Pool) : State → State → Prop where
  /-- A blocked mapper is skipped, any other one is listed, as `Pass.enlist` does it. -/
  | enlist {table next waves jobs name names runnable listed} :
    (Pass.enlist pool.registry (table, runnable) name).result = .ok (next, listed) →
    pool.Advance ⟨table, waves, jobs, .admitting (name :: names) runnable⟩
      ⟨next, waves, jobs, .admitting names listed⟩
  /-- A name of a wave is of no use: `Pass.enlist` ends with a fault. -/
  | enlistFault {table waves jobs name names runnable fault} :
    (Pass.enlist pool.registry (table, runnable) name).result = .error fault →
    pool.Advance ⟨table, waves, jobs, .admitting (name :: names) runnable⟩
      ⟨table, waves, jobs, .raised fault⟩
  /-- Several mappers are left to a pool that is `concurrent`. -/
  | share {table waves jobs runnable} :
    pool.concurrent = true → 1 < runnable.length →
    pool.Advance ⟨table, waves, jobs, .admitting [] runnable⟩
      ⟨table, waves, jobs, .submitting runnable⟩
  /-- All other mappers are evaluated by the main thread itself, in the phase `alone`. -/
  | stay {table waves jobs runnable} :
    ¬(pool.concurrent = true ∧ 1 < runnable.length) →
    pool.Advance ⟨table, waves, jobs, .admitting [] runnable⟩
      ⟨table, waves, jobs, .alone [] runnable⟩
  /-- The first of the `pending` mappers is handed over and becomes the last job. -/
  | submit {table waves jobs mapper pending} :
    pool.Advance ⟨table, waves, jobs, .submitting (mapper :: pending)⟩
      ⟨table, waves, jobs ++ [.waiting mapper], .submitting pending⟩
  /-- All mappers of the wave have been handed over. -/
  | submitted {table waves jobs} :
    pool.Advance ⟨table, waves, jobs, .submitting []⟩ ⟨table, waves, jobs, .collecting []⟩
  /-- The outcome of the first job is collected, once it is `finished`. -/
  | collect {table waves jobs outcomes outcome} :
    pool.Advance ⟨table, waves, .finished (.ok outcome) :: jobs, .collecting outcomes⟩
      ⟨table, waves, jobs, .collecting (outcomes ++ [outcome])⟩
  /-- The first job has ended with a fault. -/
  | collectFault {table waves jobs outcomes fault} :
    pool.Advance ⟨table, waves, .finished (.error fault) :: jobs, .collecting outcomes⟩
      ⟨table, waves, jobs, .leaving fault⟩
  /-- The outcomes of all jobs have been collected. -/
  | collected {table waves outcomes} :
    pool.Advance ⟨table, waves, [], .collecting outcomes⟩ ⟨table, waves, [], .recording outcomes⟩
  /-- The main thread evaluates the first of the `pending` mappers on the table as it is. -/
  | evaluate {table waves jobs outcomes mapper pending outcome} :
    (Pass.evaluate pool.artifact table mapper).result = .ok outcome →
    pool.Advance ⟨table, waves, jobs, .alone outcomes (mapper :: pending)⟩
      ⟨table, waves, jobs, .alone (outcomes ++ [outcome]) pending⟩
  /-- A mapper that the main thread evaluates ends with a fault. -/
  | evaluateFault {table waves jobs outcomes mapper pending fault} :
    (Pass.evaluate pool.artifact table mapper).result = .error fault →
    pool.Advance ⟨table, waves, jobs, .alone outcomes (mapper :: pending)⟩
      ⟨table, waves, jobs, .raised fault⟩
  /-- The main thread has evaluated all mappers of the wave. -/
  | evaluated {table waves jobs outcomes} :
    pool.Advance ⟨table, waves, jobs, .alone outcomes []⟩
      ⟨table, waves, jobs, .recording outcomes⟩
  /-- The first of the `outcomes` is recorded by `Table.record`. -/
  | record {table next waves jobs outcome outcomes} :
    table.record outcome = .ok next →
    pool.Advance ⟨table, waves, jobs, .recording (outcome :: outcomes)⟩
      ⟨next, waves, jobs, .recording outcomes⟩
  /-- An outcome is refused. -/
  | recordFault {table waves jobs outcome outcomes fault} :
    table.record outcome = .error fault →
    pool.Advance ⟨table, waves, jobs, .recording (outcome :: outcomes)⟩
      ⟨table, waves, jobs, .raised fault⟩
  /-- The next wave begins. -/
  | begin {table wave waves jobs} :
    pool.Advance ⟨table, wave :: waves, jobs, .recording []⟩
      ⟨table, waves, jobs, .admitting wave []⟩
  /-- There are no more waves. -/
  | close {table jobs} :
    pool.Advance ⟨table, [], jobs, .recording []⟩ ⟨table, [], jobs, .returned⟩
  /-- All workers are done, so the fault of the phase `leaving` is raised. -/
  | leave {table waves jobs fault} :
    (∀ job ∈ jobs, job.isFinished = true) →
    pool.Advance ⟨table, waves, jobs, .leaving fault⟩ ⟨table, waves, jobs, .raised fault⟩

/-- A step of a worker with a job on `table`. A job that waits is taken if a worker is `free`. -/
inductive Work (pool : Pool) (free : Prop) (table : Table) : Job → Job → Prop where
  /-- A worker that is `free` takes the job. -/
  | start {mapper} : free →
    pool.Work free table (.waiting mapper) (.running (pool.evaluation mapper).routine)
  /-- The worker reads the table and goes on with what `next` makes of it. -/
  | read {next} : pool.Work free table (.running (.read next)) (.running (next table))
  /-- The worker ends the evaluation with `result`. -/
  | finish {result} : pool.Work free table (.running (.finish result)) (.finished result)

/-- A step of a run, of the main thread (`Advance`) or of one worker (`Work`). Any order of such
steps is a run. -/
inductive Step (pool : Pool) : State → State → Prop where
  /-- The main thread makes a step. -/
  | advance {state next} : pool.Advance state next → pool.Step state next
  /-- A worker makes a step with one of the jobs, in whatever phase the main thread is. -/
  | work {table waves before job next after phase} :
    pool.Work ((State.mk table waves (before ++ job :: after) phase).busy < pool.workers) table
      job next →
    pool.Step ⟨table, waves, before ++ job :: after, phase⟩
      ⟨table, waves, before ++ next :: after, phase⟩

/-- The beginning of a run over `waves`, with a table without outcomes and no jobs. -/
def initial (pool : Pool) (waves : List (List String)) : State :=
  ⟨Table.empty pool.registry.names pool.artifact.revision, waves, [], .recording []⟩

end Pool

end Pass

end Reidentify

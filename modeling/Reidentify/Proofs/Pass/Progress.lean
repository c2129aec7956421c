import Mathlib.Order.RelClasses
import Reidentify.Pass.Pool
import Reidentify.Proofs.Trail.Result

/-!
# Progress of a run with a pool

A run with a pool of workers cannot get stuck and cannot go on forever. A step of the main thread
leaves the main thread less to do; a step of a worker leaves the main thread as much to do, and
the workers less. How much the workers have to do depends on the table they read, which does not
change while they read it: only the main thread changes it, and that step counts for more.

## Main definitions

* `Pass.Pool.State.rank`: how much the main thread has to do.
* `Pass.Pool.State.effort`: how much the workers have to do if the table stays the same.

## Main statements

* `Pass.Pool.lex_of_step`: every step leaves less to do.
* `Pass.Pool.wellFounded_step`: no run is infinite.
* `Pass.Pool.exists_step`: a run that has not ended can go on.
-/

namespace Reidentify

namespace Pass

namespace Pool

variable {pool : Pool} {free : Prop} {table : Table} {job jobNext : Job} {state next : State}

section Ranks

/-- How much the main thread has to do in a phase. A name in `admitting` counts 4, a mapper that is
to be handed over 3, a job 2 and an outcome 1, so that each step leads to something that counts
less. -/
def Phase.rank : Phase → Nat
  | .admitting names runnable => 4 * names.length + 3 * runnable.length + 4
  | .submitting pending => 3 * pending.length + 3
  | .collecting outcomes => outcomes.length + 2
  | .alone outcomes pending => 2 * pending.length + outcomes.length + 2
  | .recording outcomes => outcomes.length + 1
  | .leaving _ => 1
  | .returned | .raised _ => 0

/-- How much the main thread has to do in a `state`: for the waves to come, the names in them, the
jobs and its `phase`. -/
def State.rank (state : State) : Nat :=
  4 * (state.waves.flatten.length + state.waves.length) + 2 * state.jobs.length + state.phase.rank

/-- How many steps a worker makes with a job if the `table` stays the same; a job that runs counts
the `reads` of its routine that are left. -/
def Job.effort (pool : Pool) (table : Table) : Job → Nat
  | .waiting mapper => (pool.evaluation mapper).routine.reads table + 2
  | .running rest => rest.reads table + 1
  | .finished _ => 0

/-- The sum of `Job.effort` over all jobs, i.e. how many steps the workers make if the `table` stays
the same. -/
def effortOfAll (pool : Pool) (table : Table) : List Job → Nat
  | [] => 0
  | job :: rest => job.effort pool table + effortOfAll pool table rest

/-- How many steps the workers make from a `state` if its table stays the same. -/
def State.effort (pool : Pool) (state : State) : Nat :=
  pool.effortOfAll state.table state.jobs

/-- For every `name` at most one mapper is added to the `listed` ones by `enlist`. -/
theorem length_le_of_enlist {registry : Registry} {listed runnable : List Mapper} {name : String}
    {tableNext : Table}
    (h : (enlist registry (table, runnable) name).result = .ok (tableNext, listed)) :
    listed.length ≤ runnable.length + 1 := by
  unfold enlist at h
  simp only [Trail.result_andThen, Trail.result_lift] at h
  obtain ⟨mapper, -, h⟩ := Except.bind_eq_ok_iff.1 h
  split at h
  · cases h
    exact Nat.le_of_eq List.length_append
  · simp only [Trail.result_andThen, Trail.result_log, Trail.result_lift, Except.ok_bind] at h
    obtain ⟨_, -, h⟩ := Except.bind_eq_ok_iff.1 h
    cases h
    exact Nat.le_succ _

/-- The main thread has less to do after each of its steps: `Advance` decreases the `rank`. -/
theorem rank_lt_of_advance (h : pool.Advance state next) : next.rank < state.rank := by
  cases h with
  | enlist henlist =>
    -- a name is worth more than the mapper that is listed for it
    have := length_le_of_enlist henlist
    simp only [State.rank, Phase.rank, List.length_cons]
    omega
  | _ =>
    -- every other step turns one item of its phase into one that counts less
    simp only [State.rank, Phase.rank, List.length_cons, List.length_append, List.length_nil,
      List.flatten_cons]
    omega

/-- A step of a worker is one step less to make: `Work` decreases the `effort` of the job. -/
theorem effort_lt_of_work (h : pool.Work free table job jobNext) :
    jobNext.effort pool table < job.effort pool table := by
  cases h with
  | start => exact Nat.lt_succ_self _
  | read => exact Nat.lt_succ_self _
  | finish => exact Nat.lt_succ_self _

/-- If there is less to do with one job, the `effortOfAll` with that job between `before` and
`after` is less. -/
theorem effortOfAll_lt (before after : List Job)
    (h : jobNext.effort pool table < job.effort pool table) :
    pool.effortOfAll table (before ++ jobNext :: after) <
      pool.effortOfAll table (before ++ job :: after) := by
  induction before with
  | nil =>
    simp only [List.nil_append, effortOfAll]
    omega
  | cons first rest ih =>
    simp only [List.cons_append, effortOfAll]
    omega

/-- With every `Step` the pair of `rank` and `effort` decreases lexicographically: there is less to
do for the main thread, or less for the workers and no more for the main thread. -/
theorem lex_of_step (h : pool.Step state next) :
    Prod.Lex (· < ·) (· < ·) (next.rank, next.effort pool) (state.rank, state.effort pool) := by
  cases h with
  | advance hadvance => exact .left _ _ (rank_lt_of_advance hadvance)
  | @work table waves before job jobNext after phase hwork =>
    -- a worker does not change the number of jobs
    have hlength : (before ++ jobNext :: after).length = (before ++ job :: after).length := by
      rw [List.length_append, List.length_append, List.length_cons, List.length_cons]
    have hrank : (State.mk table waves (before ++ jobNext :: after) phase).rank =
        (State.mk table waves (before ++ job :: after) phase).rank := by
      rw [State.rank, State.rank, hlength]
    rw [hrank]
    exact .right _ (effortOfAll_lt before after (effort_lt_of_work hwork))

/-- No run is infinite: the relation of a state to the one before it is well-founded, whichever
workers make the steps. -/
theorem wellFounded_step (pool : Pool) :
    WellFounded fun next state : State => pool.Step state next := by
  have hlex : WellFounded (InvImage (Prod.Lex (· < ·) (· < ·))
      fun state : State => (state.rank, state.effort pool)) :=
    InvImage.wf _ (wellFounded_lt.prod_lex wellFounded_lt)
  exact Subrelation.wf (fun h => lex_of_step h) hlex

end Ranks

section Steps

/-- As long as a `job` is not finished, some worker can make a step: one that is busy with a job, or
else any of them, with a job that waits. -/
theorem exists_step_of_job (hmem : job ∈ state.jobs) (hjob : job.isFinished = false) :
    ∃ next, pool.Step state next := by
  obtain ⟨table, waves, jobs, phase⟩ := state
  -- either some worker is busy and goes on, or all are free and one takes the job
  by_cases hbusy : ∃ other ∈ jobs, other.isRunning = true
  · obtain ⟨other, hother, hrunning⟩ := hbusy
    obtain ⟨before, after, rfl⟩ := List.append_of_mem hother
    cases other with
    | running rest =>
      cases rest with
      | finish result => exact ⟨_, .work .finish⟩
      | read next => exact ⟨_, .work .read⟩
    | waiting | finished => cases hrunning
  · obtain ⟨before, after, rfl⟩ := List.append_of_mem hmem
    cases job with
    | waiting mapper =>
      refine ⟨_, .work (.start ?_)⟩
      have hidle : (before ++ Job.waiting mapper :: after).countP Job.isRunning = 0 :=
        List.countP_eq_zero.2 fun other hother hrunning => hbusy ⟨other, hother, hrunning⟩
      rw [State.busy, hidle]
      exact pool.workers_pos
    | running rest => exact absurd ⟨_, hmem, rfl⟩ hbusy
    | finished result => cases hjob

/-- A run whose state has no `result?` yet can go on, so a run without a next step has ended. -/
theorem exists_step (pool : Pool) (h : state.result? = none) : ∃ next, pool.Step state next := by
  obtain ⟨table, waves, jobs, phase⟩ := state
  -- in every phase one step of the main thread is possible, unless it has to wait for a job
  cases phase with
  | admitting names runnable =>
    cases names with
    | nil =>
      by_cases hshare : pool.concurrent = true ∧ 1 < runnable.length
      · exact ⟨_, .advance (.share hshare.1 hshare.2)⟩
      · exact ⟨_, .advance (.stay hshare)⟩
    | cons name names =>
      cases henlist : (enlist pool.registry (table, runnable) name).result with
      | error fault => exact ⟨_, .advance (.enlistFault henlist)⟩
      | ok admitted => exact ⟨_, .advance (.enlist henlist)⟩
  | submitting pending =>
    cases pending with
    | nil => exact ⟨_, .advance .submitted⟩
    | cons mapper pending => exact ⟨_, .advance .submit⟩
  | collecting outcomes =>
    -- the main thread collects the first job, or waits for it while workers go on
    cases jobs with
    | nil => exact ⟨_, .advance .collected⟩
    | cons job jobs =>
      cases job with
      | finished result =>
        cases result with
        | error fault => exact ⟨_, .advance .collectFault⟩
        | ok outcome => exact ⟨_, .advance .collect⟩
      | waiting | running => exact exists_step_of_job (List.mem_cons_self ..) rfl
  | alone outcomes pending =>
    cases pending with
    | nil => exact ⟨_, .advance .evaluated⟩
    | cons mapper pending =>
      cases hevaluate : (evaluate pool.artifact table mapper).result with
      | error fault => exact ⟨_, .advance (.evaluateFault hevaluate)⟩
      | ok outcome => exact ⟨_, .advance (.evaluate hevaluate)⟩
  | recording outcomes =>
    cases outcomes with
    | nil =>
      cases waves with
      | nil => exact ⟨_, .advance .close⟩
      | cons wave waves => exact ⟨_, .advance .begin⟩
    | cons outcome outcomes =>
      cases hrecord : table.record outcome with
      | error fault => exact ⟨_, .advance (.recordFault hrecord)⟩
      | ok next => exact ⟨_, .advance (.record hrecord)⟩
  | leaving fault =>
    by_cases hleft : ∃ job ∈ jobs, job.isFinished = false
    · obtain ⟨job, hmem, hjob⟩ := hleft
      exact exists_step_of_job hmem hjob
    · refine ⟨_, .advance (.leave fun job hmem => ?_)⟩
      exact eq_true_of_ne_false fun hjob => hleft ⟨job, hmem, hjob⟩
  | returned => cases h
  | raised fault => cases h

end Steps

end Pool

end Pass

end Reidentify

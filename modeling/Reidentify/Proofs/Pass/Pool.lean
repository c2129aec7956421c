import Mathlib.Logic.Relation
import Reidentify.Proofs.Pass.Faults
import Reidentify.Proofs.Pass.Progress
import Reidentify.Proofs.Query.Routine

/-!
# Runs with a pool of workers

Every run with a pool of workers ends as the pass without one does, whatever the workers do in
which order. The outlook of a moment is the end that the run is heading for: the jobs that are left
end as their mappers do on the table of this moment, and the waves that are left are run without
workers. No step changes the outlook. Only the main thread changes the table, and while there are
jobs it does not; so an evaluation that is divided by reads of the table sees a single one.

## Main definitions

* `Pass.Pool.outlook`: the end that a run is heading for.
* `Pass.Pool.Quiet`: there are jobs in those phases only that have some.
* `Pass.Pool.Agrees`: the runs of a pool agree with the pass without workers.

## Main statements

* `Pass.Pool.outlook_of_step`: a step keeps the outlook.
* `Pass.Pool.quiet_of_step`: a step keeps the phases without jobs without them.
* `Pass.Pool.agrees_of_waves`: the runs of a pool agree with the pass without workers.
-/

namespace Reidentify

namespace Pass

namespace Pool

variable {pool : Pool} {free : Prop} {table : Table} {waves : List (List String)}
  {outcomes : List Outcome} {job jobNext : Job} {jobs : List Job} {state next : State}

section Outlook

/-- How a job ends if the `table` stays the same: as `resolve` does if it waits, as the rest of its
routine if it is running, or as it has ended. -/
def Job.result (artifact : Artifact) (table : Table) : Job → Except Fault Outcome
  | .waiting mapper => (mapper.resolve artifact table).result
  | .running rest => rest.run table
  | .finished result => result

/-- The end of a run behind some `outcomes` and `jobs` of a wave, with the later `waves` run without
workers. -/
def settle (pool : Pool) (table : Table) (waves : List (List String)) (outcomes : List Outcome)
    (jobs : List Job) : Except Fault Table :=
  jobs.mapM (Job.result pool.artifact table) >>= fun more =>
    recordAll table (outcomes ++ more) >>= fun next =>
      (Trail.foldEach waves next (runWave pool.artifact pool.registry)).result

/-- The end that a run is heading for from a `state`, by its phase. The jobs that are left count
with their `Job.result`. -/
def outlook (pool : Pool) (state : State) : Except Fault Table :=
  match state.phase with
  | .admitting names runnable =>
    (Trail.foldEach names (state.table, runnable) (enlist pool.registry)).result >>=
      fun admitted => pool.settle admitted.1 state.waves [] (admitted.2.map .waiting)
  | .submitting pending =>
    pool.settle state.table state.waves [] (state.jobs ++ pending.map .waiting)
  | .collecting outcomes => pool.settle state.table state.waves outcomes state.jobs
  | .alone outcomes pending =>
    pool.settle state.table state.waves outcomes (pending.map .waiting)
  | .recording outcomes => pool.settle state.table state.waves outcomes []
  | .leaving fault | .raised fault => .error fault
  | .returned => .ok state.table

/-- In the phases that have no use for jobs the `state` has none, and all jobs of a run that has
raised a fault have ended. -/
def Quiet (state : State) : Prop :=
  match state.phase with
  | .submitting _ | .collecting _ | .leaving _ => True
  | .raised _ => ∀ job ∈ state.jobs, job.isFinished = true
  | .admitting .. | .alone .. | .recording _ | .returned => state.jobs = []

/-- A `job` that ends with an `outcome` is as good as this outcome behind the others. -/
theorem settle_cons_of_ok (job : Job) {outcome : Outcome}
    (h : job.result pool.artifact table = .ok outcome) :
    pool.settle table waves outcomes (job :: jobs) =
      pool.settle table waves (outcomes ++ [outcome]) jobs := by
  unfold settle
  rw [List.mapM_cons, h]
  simp only [Except.ok_bind, Except.bind_assoc, List.append_assoc]
  rfl

/-- A `job` that ends with a `fault` ends the run with it. -/
theorem settle_cons_of_error (job : Job) {fault : Fault}
    (h : job.result pool.artifact table = .error fault) :
    pool.settle table waves outcomes (job :: jobs) = .error fault := by
  unfold settle
  rw [List.mapM_cons, h]
  rfl

/-- When all jobs of a wave have ended, their `outcomes` are recorded, and the other waves are run.
-/
theorem settle_nil :
    pool.settle table waves outcomes [] = recordAll table outcomes >>= fun next =>
      (Trail.foldEach waves next (runWave pool.artifact pool.registry)).result := by
  unfold settle
  rw [List.mapM_nil]
  change recordAll table (outcomes ++ []) >>= _ = _
  rw [List.append_nil]

/-- The `mappers` of a list end as jobs do that no worker has taken. -/
theorem mapM_result_waiting (mappers : List Mapper) :
    (mappers.map Job.waiting).mapM (Job.result pool.artifact table) =
      (Trail.forEach mappers (evaluate pool.artifact table)).result := by
  induction mappers with
  | nil => rfl
  | cons mapper rest ih =>
    rw [List.map_cons, List.mapM_cons, Trail.result_forEach_cons, result_evaluate, ih]
    rfl

/-- A `wave` begins by admitting its mappers, and its outcomes are recorded before the next one
begins. -/
theorem settle_cons_waves (wave : List String) :
    pool.settle table (wave :: waves) [] [] =
      (Trail.foldEach wave (table, []) (enlist pool.registry)).result >>= fun admitted =>
        pool.settle admitted.1 waves [] (admitted.2.map .waiting) := by
  rw [settle_nil]
  change (Trail.foldEach (wave :: waves) table _).result = _
  rw [Trail.result_foldEach_cons, runWave]
  simp only [Trail.result_andThen, Trail.result_lift, Except.bind_assoc]
  congr 1
  funext admitted
  -- nobody has taken a mapper yet, so the jobs end as the mappers do
  rw [settle, mapM_result_waiting]
  rfl

/-- A step of a worker (`Work`) does not change how its job ends, if the table stays the same. -/
theorem result_of_work (h : pool.Work free table job jobNext) :
    jobNext.result pool.artifact table = job.result pool.artifact table := by
  cases h with
  | @start mapper _ => exact (pool.evaluation mapper).run_routine table
  | read => rfl
  | finish => rfl

/-- A step of a worker does not change how the jobs of a wave end, wherever its job stands among
them. -/
theorem settle_of_work {before after : List Job} (h : pool.Work free table job jobNext) :
    pool.settle table waves outcomes (before ++ jobNext :: after) =
      pool.settle table waves outcomes (before ++ job :: after) := by
  unfold settle
  rw [List.mapM_append, List.mapM_cons, result_of_work h, ← List.mapM_cons, ← List.mapM_append]

/-- A step of the main thread (`Advance`) from a `Quiet` state keeps the `outlook`. -/
theorem outlook_of_advance (h : pool.Advance state next) (hquiet : Quiet state) :
    pool.outlook next = pool.outlook state := by
  -- case by case through the steps of the main thread; most of them only unfold one item of the
  -- phase
  cases h with
  | enlist henlist | enlistFault henlist =>
    unfold outlook
    simp only [Trail.result_foldEach_cons, henlist]
    rfl
  | share =>
    -- there are no jobs left over from an earlier wave
    obtain rfl := hquiet
    rfl
  | stay => rfl
  | submit =>
    unfold outlook
    -- a mapper that is handed over takes its place behind the other jobs
    simp only [List.append_assoc]
    rfl
  | submitted =>
    unfold outlook
    simp only [List.map_nil, List.append_nil]
  | collect => exact (settle_cons_of_ok _ rfl).symm
  | collectFault => exact (settle_cons_of_error _ rfl).symm
  | collected => rfl
  | @evaluate _ _ _ _ mapper _ _ hevaluate =>
    rw [result_evaluate] at hevaluate
    exact (settle_cons_of_ok (.waiting mapper) hevaluate).symm
  | @evaluateFault _ _ _ _ mapper _ _ hevaluate =>
    rw [result_evaluate] at hevaluate
    exact (settle_cons_of_error (.waiting mapper) hevaluate).symm
  | evaluated => rfl
  | record hrecord =>
    unfold outlook
    simp only [settle_nil, recordAll_cons, hrecord, Except.ok_bind]
  | recordFault hrecord =>
    unfold outlook
    simp only [settle_nil, recordAll_cons, hrecord]
    rfl
  | begin => exact (settle_cons_waves _).symm
  | close => rfl
  | leave => rfl

/-- Every `Step` from a `Quiet` state keeps the `outlook`. -/
theorem outlook_of_step (h : pool.Step state next) (hquiet : Quiet state) :
    pool.outlook next = pool.outlook state := by
  cases h with
  | advance hadvance => exact outlook_of_advance hadvance hquiet
  | @work table waves before job jobNext after phase hwork =>
    -- the outlook looks at the jobs in two phases only
    cases phase with
    | submitting pending =>
      unfold outlook
      simp only [List.append_assoc, List.cons_append]
      exact settle_of_work hwork
    | collecting outcomes => exact settle_of_work hwork
    | admitting | alone | recording | leaving | returned | raised => rfl

/-- A worker has nothing to do with a job that has ended, so `job.isFinished` is false. -/
theorem not_isFinished_of_work (h : pool.Work free table job jobNext) :
    job.isFinished = false := by
  cases h <;> rfl

/-- From a `Quiet` state workers make steps only in phases that have jobs: `submitting`,
`collecting` and `leaving`. -/
theorem phase_of_work {before after : List Job} {phase : Phase}
    (hquiet : Quiet ⟨table, waves, before ++ job :: after, phase⟩)
    (h : pool.Work free table job jobNext) :
    (∃ pending, phase = .submitting pending) ∨ (∃ outcomes, phase = .collecting outcomes) ∨
      ∃ fault, phase = .leaving fault := by
  cases phase with
  | submitting pending => exact .inl ⟨pending, rfl⟩
  | collecting outcomes => exact .inr (.inl ⟨outcomes, rfl⟩)
  | leaving fault => exact .inr (.inr ⟨fault, rfl⟩)
  | raised fault =>
    -- all jobs of such a run have ended, so this one has
    have hfinished := hquiet job List.mem_append_cons_self
    rw [not_isFinished_of_work h] at hfinished
    cases hfinished
  | admitting | alone | recording | returned =>
    exact absurd hquiet (List.append_ne_nil_of_right_ne_nil _ (List.cons_ne_nil _ _))

/-- Every `Step` leads from a `Quiet` state to a quiet one. -/
theorem quiet_of_step (h : pool.Step state next) (hquiet : Quiet state) : Quiet next := by
  cases h with
  | advance hadvance =>
    cases hadvance with
    | enlist | stay | evaluate | evaluated | record | begin | close => exact hquiet
    | enlistFault | evaluateFault | recordFault =>
      obtain rfl := hquiet
      exact fun _ hmem => absurd hmem List.not_mem_nil
    | share | submit | submitted | collect | collectFault => trivial
    | collected => rfl
    | leave hfinished => exact hfinished
  | work hwork =>
    rcases phase_of_work hquiet hwork with ⟨_, rfl⟩ | ⟨_, rfl⟩ | ⟨_, rfl⟩ <;> trivial

/-- A run whose `Quiet` state has a `result?` does not go on, neither the main thread nor a worker.
-/
theorem not_step_of_result {result : Except Fault Table} (h : state.result? = some result)
    (hquiet : Quiet state) (next : State) : ¬pool.Step state next := by
  intro hstep
  cases hstep with
  | advance hadvance => cases hadvance <;> cases h
  | work hwork =>
    rcases phase_of_work hquiet hwork with ⟨_, rfl⟩ | ⟨_, rfl⟩ | ⟨_, rfl⟩ <;> cases h

end Outlook

section Agreement

variable {names : List (List String)}

/-- A `state` is reached by a run of the `pool` over the waves `names`, in any number of steps. -/
def Reaches (pool : Pool) (names : List (List String)) (state : State) : Prop :=
  Relation.ReflTransGen pool.Step (pool.initial names) state

/-- The runs of a `pool` over the waves `names` agree with the pass without workers. -/
structure Agrees (pool : Pool) (names : List (List String)) : Prop where
  /-- No run is infinite: the steps are well-founded. -/
  finite : WellFounded fun next state : State => pool.Step state next
  /-- A state that a run `Reaches` has a next one iff it has no `result?` yet. -/
  exists_step_iff : ∀ state, pool.Reaches names state →
    ((∃ next, pool.Step state next) ↔ state.result? = none)
  /-- Some run ends, so the other statements are not about nothing. -/
  exists_end : ∃ state result, pool.Reaches names state ∧ state.result? = some result
  /-- A run that has ended has returned the table of the pass without workers, and so with the same
  report, or it has raised the fault of that pass. This is the `FirstFault`, of the first failing
  mapper of the earliest wave that has one. -/
  agrees : ∀ state result, pool.Reaches names state → state.result? = some result →
    (∃ table, result = .ok table ∧ (Pass.run pool.artifact pool.registry).result = .ok table) ∨
      ∃ fault, result = .error fault ∧
        (Pass.run pool.artifact pool.registry).result = .error fault ∧
        FirstFault pool.artifact pool.registry names fault

/-- Every state of a run is `Quiet`, and its `outlook` is the one of the beginning. -/
theorem quiet_and_outlook_of_reaches (h : pool.Reaches names state) :
    Quiet state ∧ pool.outlook state = pool.outlook (pool.initial names) := by
  -- by induction on the run, both at once: a step keeps the outlook of quiet states only
  induction h with
  | refl => exact ⟨rfl, rfl⟩
  | tail _ hstep ih =>
    obtain ⟨hquiet, houtlook⟩ := ih
    exact ⟨quiet_of_step hstep hquiet, (outlook_of_step hstep hquiet).trans houtlook⟩

/-- The `outlook` of a state with a `result?` is that result. -/
theorem outlook_of_result {result : Except Fault Table} (h : state.result? = some result) :
    pool.outlook state = result := by
  obtain ⟨table, waves, jobs, phase⟩ := state
  cases phase with
  | returned => exact Option.some.inj h
  | raised fault => exact Option.some.inj h
  | _ => cases h

/-- From every `state` that is reached some run ends. -/
theorem exists_end_of_reaches (state : State) (h : pool.Reaches names state) :
    ∃ final result, pool.Reaches names final ∧ final.result? = some result := by
  -- no run is infinite, so a run can be followed until it has ended
  induction state using (wellFounded_step pool).induction with
  | _ state ih =>
    cases hresult : state.result? with
    | some result => exact ⟨state, result, h, hresult⟩
    | none =>
      obtain ⟨next, hstep⟩ := exists_step pool hresult
      exact ih next hstep (h.tail hstep)

/-- At the beginning a run over the waves of a valid registry is heading for the result of
`Pass.run`. -/
theorem outlook_initial (pool : Pool) (hvalid : pool.registry.validate = .ok ())
    (hnames : (Schedule.ofMappers pool.registry.mappers).waves = .ok names) :
    pool.outlook (pool.initial names) = (Pass.run pool.artifact pool.registry).result := by
  rw [result_run, hvalid, hnames]
  exact settle_nil

/-- The runs of a `pool` over the waves of a valid registry agree with the pass without workers, in
every interleaving of the main thread and the workers. -/
theorem agrees_of_waves (pool : Pool) (hvalid : pool.registry.validate = .ok ())
    (hnames : (Schedule.ofMappers pool.registry.mappers).waves = .ok names) :
    pool.Agrees names := by
  refine ⟨wellFounded_step pool, fun state hreaches => ⟨?_, exists_step pool⟩,
    exists_end_of_reaches _ .refl, fun state result hreaches hresult => ?_⟩
  · rintro ⟨next, hstep⟩
    obtain ⟨hquiet, -⟩ := quiet_and_outlook_of_reaches hreaches
    cases hresult : state.result? with
    | none => rfl
    | some result => exact absurd hstep (not_step_of_result hresult hquiet next)
  · -- the outlook at the end is the result, and the one at the beginning is the pass
    obtain ⟨-, houtlook⟩ := quiet_and_outlook_of_reaches hreaches
    rw [outlook_of_result hresult, outlook_initial pool hvalid hnames] at houtlook
    cases result with
    | ok table => exact .inl ⟨table, rfl, houtlook.symm⟩
    | error fault =>
      exact .inr ⟨fault, rfl, houtlook.symm, firstFault_of_run hvalid hnames houtlook.symm⟩

/-- A mapper `Broken` that fails with a message of its own, and `Asking`, which asks for the other
without depending on it. -/
def careless : Registry where
  mappers := [
    .onlyClass "Asking" (.test "asking" false fun _ table =>
      table.resolve "Broken" >>= fun _ => .ok true) [] (by decide),
    .onlyClass "Broken" (.test "broken" false fun _ _ => .error (.raised "broken")) []
      (by decide)]
  nodup_names := by decide

/-- The pool of two workers that evaluate the mappers of `careless` at once. -/
def twoWorkers : Pool where
  artifact := .numbered
  registry := careless
  workers := 2
  parallel := true
  evaluation := Evaluation.stepwise .numbered
  workers_pos := by decide

/-- The two mappers of `careless` both fail, and every run raises the fault of `Asking`, whose name
comes first. -/
theorem agrees_of_waves_twoWorkers :
    twoWorkers.registry.validate = .ok () ∧
      (Schedule.ofMappers twoWorkers.registry.mappers).waves = .ok [["Asking", "Broken"]] ∧
      (Pass.run twoWorkers.artifact twoWorkers.registry).result.map (·.recorded) =
        .error (.unresolved "Broken" .pending) ∧
      twoWorkers.Agrees [["Asking", "Broken"]] := by
  have hvalid : twoWorkers.registry.validate = .ok () := by decide +kernel
  have hwaves : (Schedule.ofMappers twoWorkers.registry.mappers).waves =
      .ok [["Asking", "Broken"]] := by
    decide +kernel
  refine ⟨hvalid, hwaves, by decide +kernel, agrees_of_waves twoWorkers hvalid hwaves⟩

end Agreement

end Pool

end Pass

end Reidentify

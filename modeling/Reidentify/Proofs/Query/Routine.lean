import Reidentify.Pass.Pool
import Reidentify.Proofs.Query.Evaluation

/-!
# Routines on a table that stays the same

If the table does not change while a routine runs, it does not matter how the routine is divided by
its reads. The routines of predicates and of mappers then end as their evaluations do.

## Main definitions

* `Pass.Evaluation.stepwise`: the evaluation of a mapper that reads the table for every test.

## Main statements

* `Predicate.run_routine`: the routine of a predicate ends as the predicate is evaluated.
* `Mapper.run_routine`: the routine of a mapper ends as the mapper is resolved.
-/

namespace Reidentify

namespace Routine

variable {α β ω : Type} {table : Table}

@[simp] theorem run_finish (table : Table) (result : Except Fault α) :
    (finish result).run table = result := rfl

@[simp] theorem run_read (table : Table) (next : Table → Routine α) :
    (read next).run table = (next table).run table := rfl

/-- Routines that follow each other end on `table` as the sequence of their results does. -/
@[simp] theorem run_bind (table : Table) (routine : Routine α) (next : α → Routine β) :
    (routine.bind next).run table = routine.run table >>= fun a => (next a).run table := by
  induction routine with
  | finish result =>
    cases result with
    | ok a => rfl
    | error fault => rfl
  | read rest ih => exact ih table

/-- Sifting a list by the routines `test` is sifting it by `eval`, if every routine ends on `table`
as `eval` does. -/
theorem run_keep {items : List α} {test : α → Routine Bool} {eval : α → Trail ω Bool}
    (h : ∀ item, (test item).run table = (eval item).result) :
    (keep items test).run table = (Trail.keep items eval).result := by
  induction items with
  | nil => rfl
  | cons item rest ih =>
    simp only [keep, Trail.keep, run_bind, run_finish, Trail.result_andThen, Trail.result_done,
      h, ih]

/-- Searching a list by the routines `test` is searching it by `eval`, if every routine ends on
`table` as `eval` does. -/
theorem run_exists? {items : List α} {test : α → Routine Bool} {eval : α → Trail ω Bool}
    (h : ∀ item, (test item).run table = (eval item).result) :
    (exists? items test).run table = (Trail.exists? items eval).result := by
  induction items with
  | nil => rfl
  | cons item rest ih =>
    simp only [exists?, Trail.exists?, run_bind, Trail.result_andThen, h]
    congr 1
    funext found
    -- behind the first item that is found nothing is read any more
    cases found with
    | true => rfl
    | false => exact ih

end Routine

namespace Predicate

mutual

/-- The routine of `predicate` ends on `table` as `Predicate.evaluate` does. -/
theorem run_routine (table : Table) (predicate : Predicate) (entity : Entity) :
    (predicate.routine entity).run table = (predicate.evaluate table entity).result := by
  match predicate with
  | .containsInstruction part =>
    simp only [routine, evaluate, Routine.run_bind, Routine.run_finish, Trail.result_andThen,
      Trail.result_emit, Trail.result_lift, Except.ok_bind]
    congr 1
    funext method
    exact Routine.run_exists? fun insn => run_routine table part (.ofInstruction insn)
  | .lacksInstruction part =>
    simp only [routine, evaluate, Routine.run_bind, Routine.run_finish, Trail.result_andThen,
      Trail.result_emit, Trail.result_lift, Trail.result_done, Except.ok_bind]
    congr 1
    funext method
    congr 1
    exact Routine.run_exists? fun insn => run_routine table part (.ofInstruction insn)
  | .conjunction first rest =>
    simp only [routine, evaluate, Routine.run_bind, Trail.result_andThen,
      run_routine table first entity]
    congr 1
    funext holds
    cases holds with
    | false => rfl
    | true => exact run_routineOfAll table rest entity
  -- a test reads the table once and checks the entity against it
  | .extendsType _ | .implementsType _ | .instanceFieldCount .. | .hasInstanceField _
  | .selfLinks _ | .ofType _ | .returns _ | .argumentsStartWith _ | .argumentCount _
  | .opcodeIs _ | .pushesInt _ | .fieldAccess _ | .fieldWrite _ | .fieldOwnerIs _ | .test .. =>
    rw [result_evaluate_of_isTest rfl]
    rfl

/-- The routine of several `predicates` ends on `table` as `Predicate.evaluateAll` does. -/
theorem run_routineOfAll (table : Table) (predicates : List Predicate) (entity : Entity) :
    (routineOfAll predicates entity).run table = (evaluateAll table predicates entity).result := by
  match predicates with
  | [] => rfl
  | predicate :: rest =>
    simp only [routineOfAll, evaluateAll, Routine.run_bind, Trail.result_andThen,
      run_routine table predicate entity]
    congr 1
    funext holds
    cases holds with
    | false => rfl
    | true => exact run_routineOfAll table rest entity

end

end Predicate

/-- The routine of `mapper` ends on `table` as `Mapper.resolve` does. -/
theorem Mapper.run_routine (mapper : Mapper) (artifact : Artifact) (table : Table) :
    (mapper.routine artifact).run table = (mapper.resolve artifact table).result := by
  have htest (candidate : Entity) : (mapper.predicate.routine candidate).run table =
      ((Trail.emit (.considered mapper.name candidate)).andThen fun _ =>
        mapper.predicate.evaluate table candidate).result := by
    rw [Trail.result_andThen]
    exact mapper.predicate.run_routine table candidate
  -- the two computations have the same steps, and are compared step by step
  unfold routine resolve resolveBy matching
  simp only [Routine.run_bind, Routine.run_read, Routine.run_finish, Trail.result_andThen,
    Trail.result_lift, Routine.run_keep htest]
  congr 1
  funext candidates
  congr 1
  funext kept
  congr 1
  funext selection
  cases selection with
  | refused failure => rfl
  | chosen entity =>
    simp only [Routine.run_bind, Routine.run_finish, Trail.result_andThen, Trail.result_lift]
    rfl

/-- The evaluation of `mapper` that reads the table for its scope, and anew for every test
(`Mapper.routine`). -/
def Pass.Evaluation.stepwise (artifact : Artifact) (mapper : Mapper) :
    Evaluation artifact mapper where
  routine := mapper.routine artifact
  run_routine := mapper.run_routine artifact

end Reidentify

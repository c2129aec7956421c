import Reidentify.Proofs.Schedule.Layering

/-!
# Dependents

The dependents of a name are found by stepping from task to task against the dependencies. A step
to a task that depends on a name is a step to a dependency, taken backwards, so the dependents of a
name are the tasks that depend on it directly or through others. There is always enough fuel to find
all of them, because no more such steps can be taken than there are dependencies.

## Main definitions

* `Schedule.ListsDependents`: what a graph library lists as the dependents of names.

## Main statements

* `Schedule.mem_reachable_successors_iff`: who is found by stepping against the dependencies.
* `Schedule.exists_dependentsOf`: the dependents of a task are the tasks that depend on it.
-/

namespace Reidentify.Schedule

variable {schedule : Schedule} {name x : String}

section Fuel

/-- A `task` in front of `rest` follows `name` iff it depends on it; the others follow as before. -/
theorem successors_cons (task : Task) (rest : List Task) (name : String) :
    (Schedule.mk (task :: rest)).successors name =
      (if task.dependencies.contains name then [task.name] else []) ++
        (Schedule.mk rest).successors name := by
  unfold successors
  rw [List.filter_cons]
  split <;> rfl

/-- A `task` is stepped to from distinct `names` at most once for each of its dependencies. -/
theorem stepCount_successors_cons_le (task : Task) (rest : List Task) {names : List String}
    (h : names.Nodup) :
    stepCount (Schedule.mk (task :: rest)).successors names ≤
      task.dependencies.length + stepCount (Schedule.mk rest).successors names := by
  -- every name takes one step more if the task depends on it
  have hcount (names : List String) :
      stepCount (Schedule.mk (task :: rest)).successors names =
        (names.filter task.dependencies.contains).length +
          stepCount (Schedule.mk rest).successors names := by
    induction names with
    | nil => rfl
    | cons name more ih =>
      rw [stepCount_cons, stepCount_cons, ih, successors_cons, List.length_append, List.filter_cons]
      split <;> simp only [List.length_cons, List.length_nil] <;> omega
  -- the names that the task depends on are distinct, so there are no more than dependencies
  have hle : (names.filter task.dependencies.contains).length ≤ task.dependencies.length := by
    refine ((h.filter _).subperm fun name hmem => ?_).length_le
    exact List.contains_iff_mem.1 (List.mem_filter.1 hmem).2
  rw [hcount]
  omega

/-- From distinct `names` no more steps against dependencies can be taken than there are
dependencies, `schedule.edgeCount`. -/
theorem stepCount_successors_le (schedule : Schedule) {names : List String} (h : names.Nodup) :
    stepCount schedule.successors names ≤ schedule.edgeCount := by
  obtain ⟨tasks⟩ := schedule
  induction tasks with
  | nil =>
    have hnone : names.flatMap (Schedule.mk []).successors = [] :=
      List.flatMap_eq_nil_iff.2 fun _ _ => rfl
    rw [stepCount, hnone]
    exact Nat.zero_le _
  | cons task rest ih =>
    have := stepCount_successors_cons_le task rest h
    rw [edgeCount_cons]
    omega

end Fuel

/-- A step from `a` to `b` against a dependency is a step from `b` to `a` along `prerequisites`. -/
theorem steps_successors_iff (hnodup : (schedule.tasks.map (·.name)).Nodup) {a b : String} :
    Steps schedule.successors a b ↔ Steps schedule.prerequisites b a := by
  unfold Steps successors
  constructor
  · intro h
    obtain ⟨task, htask, rfl⟩ := List.mem_map.1 h
    obtain ⟨htask, hdependency⟩ := List.mem_filter.1 htask
    rw [prerequisites_eq hnodup htask]
    exact List.contains_iff_mem.1 hdependency
  · intro h
    obtain ⟨task, htask, rfl, hdependency⟩ := exists_task_of_steps h
    exact List.mem_map_of_mem (List.mem_filter.2 ⟨htask, List.contains_iff_mem.2 hdependency⟩)

/-- What a graph library lists as the dependents of the names of `schedule`: for each of them the
names from which it is reached along `prerequisites`, without the name itself. Nothing is said about
the order in which they are listed, nor about names that are not in the schedule. -/
def ListsDependents (schedule : Schedule) (dependents : String → List String) : Prop :=
  ∀ name ∈ schedule.tasks.map (·.name), ∀ x, x ∈ dependents name ↔
    x ≠ name ∧ Relation.TransGen (Steps schedule.prerequisites) x name

/-- The names that are reached from `name` along `successors` are those that depend on it, directly
or through others. -/
theorem mem_reachable_successors_iff (hnodup : (schedule.tasks.map (·.name)).Nodup) :
    x ∈ schedule.reachable schedule.successors name ↔
      Relation.TransGen (Steps schedule.prerequisites) x name := by
  rw [mem_reachable_iff fun _ h => schedule.stepCount_successors_le h, ← Relation.transGen_swap]
  have hswap : Function.swap (Steps schedule.successors) = Steps schedule.prerequisites := by
    funext a b
    exact propext (steps_successors_iff hnodup)
  rw [hswap]

/-- A `name` with a task has dependents, and these are the other names that depend on it, directly
or through others. -/
theorem exists_dependentsOf (hnodup : (schedule.tasks.map (·.name)).Nodup)
    (hname : name ∈ schedule.tasks.map (·.name)) :
    ∃ dependents, schedule.dependentsOf name = .ok dependents ∧ ∀ x, x ∈ dependents ↔
      x ≠ name ∧ Relation.TransGen (Steps schedule.prerequisites) x name := by
  have hcontains : schedule.contains name = true := by
    obtain ⟨task, htask, rfl⟩ := List.mem_map.1 hname
    have hfind : schedule.find? task.name = some task :=
      (Text.find?_eq_some_iff_of_nodup hnodup).2 ⟨htask, rfl⟩
    rw [contains, hfind, Option.isSome_some]
  refine ⟨_, if_pos hcontains, fun x => ?_⟩
  rw [Text.mem_sortedNames, List.mem_filter, mem_reachable_successors_iff hnodup, bne_iff_ne,
    and_comm]

end Reidentify.Schedule

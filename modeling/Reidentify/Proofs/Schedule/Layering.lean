import Mathlib.Data.Fintype.Pigeonhole
import Reidentify.Proofs.Schedule.Reachable
import Reidentify.Proofs.Text.Names

/-!
# Layers of tasks

The tasks of a schedule are taken away wave by wave, until those that are left all wait for one
another. This module says what the waves and the tasks that are left have to do with the tasks
that were there at the start.

## Main definitions

* `Schedule.IsLayering`: waves and stuck tasks of some tasks.
* `Schedule.Closed`: everything that is depended on has a task.

## Main statements

* `Schedule.isLayering_layers`: what is computed is a layering.
* `Schedule.exists_cycle_of_stuck`: stuck tasks wait for each other in a circle.
* `Schedule.eq_of_waves_eq_ok`: without a circle no task is stuck.
-/

namespace Reidentify.Schedule

/-- The `waves` and the `stuck` tasks of a `layering`, as they follow from the `tasks` at the start.
It does not say how they are computed. -/
structure IsLayering (tasks : List Task) (layering : Layering) : Prop where
  /-- Every task is in exactly one wave, or `stuck`: the names of both are a permutation of all
  names. -/
  perm : (layering.waves.flatten ++ layering.stuck.map (·.name)).Perm (tasks.map (·.name))
  /-- The names of every wave are `Text.Ascending`. -/
  ascending : ∀ wave ∈ layering.waves, Text.Ascending wave
  /-- A task of a `wave` depends only on names of the waves `before` it. -/
  ready : ∀ before wave after, layering.waves = before ++ wave :: after →
    ∀ task ∈ tasks, task.name ∈ wave → ∀ name ∈ task.dependencies, name ∈ before.flatten
  /-- A stuck task has some dependencies left. They are the dependencies of its `original` that are
  not in any wave. -/
  stuck : ∀ task ∈ layering.stuck, task.dependencies ≠ [] ∧
    ∃ original ∈ tasks, original.name = task.name ∧
      task.dependencies = original.dependencies.filter (!layering.waves.flatten.contains ·)

/-- The names of the tasks that wait for nothing, i.e. whose `dependencies` are empty. -/
def readyNames (tasks : List Task) : List String :=
  (tasks.filter fun task => task.dependencies.isEmpty).map (·.name)

/-- The tasks that still have `dependencies`, in their order. -/
def waiting (tasks : List Task) : List Task :=
  tasks.filter fun task => !task.dependencies.isEmpty

variable {tasks : List Task} {task : Task}

/-- The name of a task with `dependencies = []` is one of the `readyNames`. -/
theorem mem_readyNames (hmem : task ∈ tasks) (h : task.dependencies = []) :
    task.name ∈ readyNames tasks :=
  List.mem_map_of_mem (List.mem_filter.2 ⟨hmem, List.isEmpty_iff.2 h⟩)

/-- A task with `dependencies ≠ []` is one of the `waiting` ones. -/
theorem mem_waiting (hmem : task ∈ tasks) (h : task.dependencies ≠ []) : task ∈ waiting tasks := by
  refine List.mem_filter.2 ⟨hmem, ?_⟩
  rw [Bool.not_eq_true', List.isEmpty_eq_false_iff]
  exact h

/-- What remains of some `names` behind the `finished` ones are the names that are not finished. -/
theorem mem_filter_not_contains {name : String} {names finished : List String} :
    name ∈ names.filter (!finished.contains ·) ↔ name ∈ names ∧ name ∉ finished := by
  rw [List.mem_filter, Bool.not_eq_true', ← Bool.not_eq_true, List.contains_iff_mem]

/-- If there are no `readyNames`, `layers` has no wave and all `tasks` are stuck, with any `fuel`.
-/
theorem layers_of_nil (h : readyNames tasks = []) (fuel : Nat) :
    layers fuel tasks = ⟨[], tasks⟩ := by
  cases fuel with
  | zero => rfl
  | succ fuel =>
    rw [readyNames] at h
    rw [layers, h]

/-- Otherwise the sorted `readyNames` are a wave in front of the `layers` of the `waiting` tasks,
which they `release`. -/
theorem layers_of_ne_nil (h : readyNames tasks ≠ []) (fuel : Nat) :
    layers (fuel + 1) tasks =
      ⟨Text.sortedNames (readyNames tasks) ::
        (layers fuel (release (readyNames tasks) (waiting tasks))).waves,
        (layers fuel (release (readyNames tasks) (waiting tasks))).stuck⟩ := by
  rw [layers]
  split
  · next hready => exact absurd hready h
  · next name more hready =>
    rw [readyNames, hready]
    rfl

/-- Every task is ready or `waiting`, so the names of both are a permutation of all names. -/
theorem readyNames_append_perm (tasks : List Task) :
    (readyNames tasks ++ (waiting tasks).map (·.name)).Perm (tasks.map (·.name)) := by
  rw [readyNames, waiting, ← List.map_append]
  exact (List.filter_append_perm _ tasks).map _

/-- The names of the tasks are unchanged by `release`, which takes away dependencies only. -/
theorem map_name_release (finished : List String) (tasks : List Task) :
    (release finished tasks).map (·.name) = tasks.map (·.name) := by
  rw [release, List.map_map]
  rfl

/-- If there are `readyNames`, fewer tasks are left behind the wave; that is why the number of tasks
is enough fuel. -/
theorem length_release_lt (h : readyNames tasks ≠ []) :
    (release (readyNames tasks) (waiting tasks)).length < tasks.length := by
  have hlength := (readyNames_append_perm tasks).length_eq
  have hpos := List.length_pos_iff.2 h
  simp only [List.length_append, List.length_map] at hlength
  rw [release, List.length_map]
  omega

/-- If there are no `readyNames`, the layering without waves, where all `tasks` are stuck, is a
layering. -/
theorem isLayering_stuck (h : readyNames tasks = []) :
    IsLayering tasks ⟨[], tasks⟩ where
  perm := .refl _
  ascending _ hmem := absurd hmem List.not_mem_nil
  ready before wave after heq := by simp at heq
  stuck task hmem := by
    refine ⟨?_, task, hmem, rfl, ?_⟩
    -- a stuck task without dependencies would be ready
    · intro hnil
      have hready : task.name ∈ readyNames tasks := mem_readyNames hmem hnil
      rw [h] at hready
      cases hready
    · simp

/-- If the names of the `tasks` are distinct, a task whose name is in `readyNames` has no
dependencies. -/
theorem dependencies_eq_nil_of_mem_readyNames (hnodup : (tasks.map (·.name)).Nodup)
    (hmem : task ∈ tasks) (h : task.name ∈ readyNames tasks) : task.dependencies = [] := by
  obtain ⟨other, hother, hname⟩ := List.mem_map.1 h
  obtain ⟨hother, hempty⟩ := List.mem_filter.1 hother
  obtain rfl := List.inj_on_of_nodup_map hnodup hother hmem hname
  exact List.isEmpty_iff.1 hempty

/-- A task of `release finished tasks` is one of the `tasks` without the `finished` ones of its
dependencies. -/
theorem mem_release_iff {finished : List String} :
    task ∈ release finished tasks ↔ ∃ original ∈ tasks,
      task = ⟨original.name, original.dependencies.filter (!finished.contains ·)⟩ := by
  rw [release, List.mem_map]
  exact ⟨fun ⟨original, hmem, heq⟩ => ⟨original, hmem, heq.symm⟩,
    fun ⟨original, hmem, heq⟩ => ⟨original, hmem, heq.symm⟩⟩

/-- The sorted `readyNames` in front of a layering of the released tasks are a layering of all
`tasks`, if their names are distinct. -/
theorem isLayering_cons {rest : Layering} (hnodup : (tasks.map (·.name)).Nodup)
    (h : IsLayering (release (readyNames tasks) (waiting tasks)) rest) :
    IsLayering tasks ⟨Text.sortedNames (readyNames tasks) :: rest.waves, rest.stuck⟩ where
  perm := by
    -- each name is ready or waiting, and the waiting ones are accounted for by the layering of the
    -- others
    have hready : (readyNames tasks).Nodup := hnodup.sublist (List.filter_sublist.map _)
    have hrest := h.perm
    rw [map_name_release] at hrest
    rw [List.flatten_cons, List.append_assoc]
    exact ((Text.sortedNames_perm hready).append hrest).trans (readyNames_append_perm tasks)
  ascending wave hmem := by
    rcases List.mem_cons.1 hmem with rfl | hmem
    · exact Text.ascending_sortedNames _
    · exact h.ascending wave hmem
  ready before wave after heq task hmem hwave name hname := by
    rcases List.cons_eq_append_iff.1 heq with ⟨rfl, hfirst⟩ | ⟨others, rfl, hothers⟩
    · -- In the first wave there are no dependencies at all.
      cases hfirst
      rw [dependencies_eq_nil_of_mem_readyNames hnodup hmem (Text.mem_sortedNames.1 hwave)]
        at hname
      cases hname
    · -- in a later wave a dependency was ready at once, or it is still waited for after
      -- the release
      rw [List.flatten_cons, List.mem_append, Text.mem_sortedNames]
      by_cases hready : name ∈ readyNames tasks
      · exact .inl hready
      · right
        have hwaiting : task ∈ waiting tasks := mem_waiting hmem (List.ne_nil_of_mem hname)
        exact h.ready others wave after hothers _ (mem_release_iff.2 ⟨task, hwaiting, rfl⟩) hwave
          name (mem_filter_not_contains.2 ⟨hname, hready⟩)
  stuck task hmem := by
    -- a stuck task was released from an original one; filtering twice leaves what is in no wave at
    -- all
    obtain ⟨hne, released, hreleased, hname, hdependencies⟩ := h.stuck task hmem
    obtain ⟨original, horiginal, rfl⟩ := mem_release_iff.1 hreleased
    refine ⟨hne, original, List.mem_of_mem_filter horiginal, hname, ?_⟩
    rw [hdependencies, List.filter_filter]
    refine List.filter_congr fun name _ => ?_
    rw [Bool.eq_iff_iff]
    simp [and_comm]

/-- With fuel for every task, `layers` computes a layering of tasks with distinct names. -/
theorem isLayering_layers {fuel : Nat} {tasks : List Task} (hnodup : (tasks.map (·.name)).Nodup)
    (hfuel : tasks.length ≤ fuel) : IsLayering tasks (layers fuel tasks) := by
  -- by induction on the fuel, following `layers`: all tasks are stuck, or there is a wave
  induction fuel generalizing tasks with
  | zero =>
    obtain rfl := List.length_eq_zero_iff.1 (Nat.le_zero.1 hfuel)
    exact isLayering_stuck rfl
  | succ fuel ih =>
    by_cases hready : readyNames tasks = []
    · rw [layers_of_nil hready]
      exact isLayering_stuck hready
    · rw [layers_of_ne_nil hready]
      -- every wave takes a task away, so there is fuel for the waves of the others
      have hless := length_release_lt hready
      refine isLayering_cons hnodup (ih ?_ (by omega))
      rw [map_name_release]
      exact ((readyNames_append_perm tasks).nodup_iff.2 hnodup).of_append_right

section Circles

variable {schedule : Schedule}

/-- The `layering` of a schedule is a layering of its tasks, because its `size` is enough fuel. -/
theorem isLayering_layering (hnodup : (schedule.tasks.map (·.name)).Nodup) :
    IsLayering schedule.tasks schedule.layering :=
  isLayering_layers hnodup (Nat.le_refl _)

/-- The `prerequisites` of the name of a task are its `dependencies`, if the names of the tasks are
distinct. -/
theorem prerequisites_eq (hnodup : (schedule.tasks.map (·.name)).Nodup) {task : Task}
    (hmem : task ∈ schedule.tasks) : schedule.prerequisites task.name = task.dependencies := by
  have hfind : schedule.find? task.name = some task :=
    (Text.find?_eq_some_iff_of_nodup hnodup).2 ⟨hmem, rfl⟩
  rw [prerequisites, hfind]

/-- If `prerequisites` has a step from `a` to `b`, there is a task of name `a` with `b` among its
dependencies. -/
theorem exists_task_of_steps {a b : String} (h : Steps schedule.prerequisites a b) :
    ∃ task ∈ schedule.tasks, task.name = a ∧ b ∈ task.dependencies := by
  unfold Steps prerequisites at h
  split at h
  · next task hfind =>
    have hname := List.find?_some hfind
    exact ⟨task, List.mem_of_find?_eq_some hfind, beq_iff_eq.1 hname, h⟩
  · cases h

/-- If every one of finitely many `names` is in `relation` with one of them, some name is reached
from itself: the steps from any of the names cannot lead to new ones forever. -/
theorem exists_transGen_self {relation : String → String → Prop} {names : List String}
    (hne : names ≠ []) (h : ∀ a ∈ names, ∃ b ∈ names, relation a b) :
    ∃ a ∈ names, Relation.TransGen relation a a := by
  obtain ⟨first, hfirst⟩ := List.exists_mem_of_ne_nil names hne
  -- follow the steps from name to name
  choose! next hmem hstep using h
  have hiterate (n : Nat) : next^[n] first ∈ names := by
    induction n with
    | zero => exact hfirst
    | succ n ih =>
      rw [Function.iterate_succ_apply']
      exact hmem _ ih
  have hpath (m k : Nat) :
      Relation.TransGen relation (next^[m] first) (next^[m + k + 1] first) := by
    induction k with
    | zero =>
      rw [Nat.add_zero, Function.iterate_succ_apply']
      exact .single (hstep _ (hiterate m))
    | succ k ih =>
      rw [← Nat.add_assoc, Function.iterate_succ_apply' _ (m + k + 1)]
      exact ih.tail (hstep _ (hiterate _))
  -- there are more rounds than names, so some name comes up twice
  obtain ⟨m, n, hne, heq⟩ := Finite.exists_ne_map_eq_of_infinite
    fun n : Nat => (⟨next^[n] first, hiterate n⟩ : { name // name ∈ names })
  replace heq : next^[m] first = next^[n] first := congrArg Subtype.val heq
  rcases Nat.lt_or_gt_of_ne hne with hlt | hlt
  · obtain ⟨k, rfl⟩ := Nat.exists_eq_add_of_lt hlt
    have := hpath m k
    rw [← heq] at this
    exact ⟨_, hiterate m, this⟩
  · obtain ⟨k, rfl⟩ := Nat.exists_eq_add_of_lt hlt
    have := hpath n k
    rw [heq] at this
    exact ⟨_, hiterate n, this⟩

/-- Everything that a task of the `schedule` depends on is the name of a task of it. -/
def Closed (schedule : Schedule) : Prop :=
  ∀ task ∈ schedule.tasks, ∀ name ∈ task.dependencies, name ∈ schedule.tasks.map (·.name)

/-- In a `Closed` schedule with stuck tasks, one of these is reached from itself by `prerequisites`:
stuck tasks wait for each other in a circle. -/
theorem exists_cycle_of_stuck (hnodup : (schedule.tasks.map (·.name)).Nodup)
    (hclosed : schedule.Closed) (hstuck : schedule.layering.stuck ≠ []) :
    ∃ name ∈ schedule.layering.stuck.map (·.name),
      Relation.TransGen (Steps schedule.prerequisites) name name := by
  have h := isLayering_layering hnodup
  refine exists_transGen_self (mt List.map_eq_nil_iff.1 hstuck) ?_
  intro name hname
  obtain ⟨task, htask, rfl⟩ := List.mem_map.1 hname
  obtain ⟨hne, original, horiginal, heq, hdependencies⟩ := h.stuck task htask
  -- a stuck task still waits for a name outside of the waves, and that one is stuck, too
  obtain ⟨next, hnext⟩ := List.exists_mem_of_ne_nil _ hne
  rw [hdependencies, mem_filter_not_contains] at hnext
  refine ⟨next, ?_, ?_⟩
  · have hmem := h.perm.mem_iff.2 (hclosed original horiginal next hnext.1)
    exact (List.mem_append.1 hmem).resolve_left hnext.2
  · rw [Steps, ← heq, prerequisites_eq hnodup horiginal]
    exact hnext.1

/-- If a `Closed` schedule has waves, they are those of its `layering`, and no task is stuck. -/
theorem eq_of_waves_eq_ok (hnodup : (schedule.tasks.map (·.name)).Nodup)
    (hclosed : schedule.Closed) {order : List (List String)}
    (hwaves : schedule.waves = .ok order) :
    schedule.layering = ⟨order, []⟩ := by
  unfold waves checkAcyclic at hwaves
  split at hwaves
  · cases hwaves
  · next hacyclic =>
    split at hacyclic
    · next hmembers =>
      have hstuck : schedule.layering.stuck = [] := by
        -- a stuck task would lead to a member of a circle
        by_contra hne
        obtain ⟨name, hname, hcycle⟩ := exists_cycle_of_stuck hnodup hclosed hne
        have hmem : name ∈ schedule.cycleMembers := by
          rw [cycleMembers, Text.mem_sortedNames, List.mem_filter, List.contains_iff_mem]
          exact ⟨hname, mem_reachable_prerequisites_iff.2 hcycle⟩
        rw [hmembers] at hmem
        cases hmem
      cases hwaves
      rw [← hstuck]
    · cases hacyclic

end Circles

end Reidentify.Schedule

import Reidentify.Proofs.Schedule.Depth

/-!
# Circles

A circle is a chain of dependencies from a name back to itself. Members of circles are in no wave,
and if no name is stuck there are none. So the names that a schedule lists are exactly the members
of circles, and a schedule has waves exactly if it has none.

## Main statements

* `Schedule.mem_cycleMembers_iff`: the listed names are the members of circles.
* `Schedule.checkAcyclic_eq_error_iff`, `Schedule.waves_eq_error_iff`: a schedule is refused iff it
  has circles, with the names of all members.
* `Schedule.waves_eq_ok_of_acyclic`: without circles a schedule has waves.
-/

namespace Reidentify.Schedule

variable {schedule : Schedule} {name : String} {fault : Fault}

/-- A `name` that depends on itself, directly or through others, is `stuck` in the layering. -/
theorem mem_stuck_of_transGen_self (hnodup : (schedule.tasks.map (·.name)).Nodup)
    (h : Relation.TransGen (Steps schedule.prerequisites) name name) :
    name ∈ schedule.layering.stuck.map (·.name) := by
  have hlayering := isLayering_layering hnodup
  obtain ⟨next, hstep, -⟩ := Relation.TransGen.head'_iff.1 h
  obtain ⟨task, htask, rfl, -⟩ := exists_task_of_steps hstep
  have hmem := hlayering.perm.mem_iff.2 (List.mem_map_of_mem htask)
  refine (List.mem_append.1 hmem).resolve_left fun hwave => ?_
  -- in a wave the chain would lead to an earlier one
  exact absurd (hlayering.depth_lt_of_transGen hwave h) (Nat.lt_irrefl _)

/-- The names in `cycleMembers` are those that depend on themselves, directly or through others. -/
theorem mem_cycleMembers_iff (hnodup : (schedule.tasks.map (·.name)).Nodup) :
    name ∈ schedule.cycleMembers ↔
      Relation.TransGen (Steps schedule.prerequisites) name name := by
  rw [cycleMembers, Text.mem_sortedNames, List.mem_filter, List.contains_iff_mem,
    mem_reachable_prerequisites_iff]
  exact ⟨fun h => h.2, fun h => ⟨mem_stuck_of_transGen_self hnodup h, h⟩⟩

/-- The list `cycleMembers` is empty iff no name depends on itself. -/
theorem cycleMembers_eq_nil_iff (hnodup : (schedule.tasks.map (·.name)).Nodup) :
    schedule.cycleMembers = [] ↔
      ∀ name, ¬Relation.TransGen (Steps schedule.prerequisites) name name := by
  simp only [List.eq_nil_iff_forall_not_mem, mem_cycleMembers_iff hnodup]

/-- A schedule is refused iff it has `cycleMembers`, and the fault names all of them. -/
theorem checkAcyclic_eq_error_iff : schedule.checkAcyclic = .error fault ↔
    schedule.cycleMembers ≠ [] ∧ fault = .cycle schedule.cycleMembers := by
  rw [checkAcyclic]
  cases schedule.cycleMembers with
  | nil => simp
  | cons name rest =>
    rw [Except.error.injEq, eq_comm]
    simp

/-- There are no waves iff there are `cycleMembers`, and the fault names all of them. -/
theorem waves_eq_error_iff : schedule.waves = .error fault ↔
    schedule.cycleMembers ≠ [] ∧ fault = .cycle schedule.cycleMembers := by
  rw [← checkAcyclic_eq_error_iff, waves]
  cases schedule.checkAcyclic with
  | error other => rw [Except.error.injEq, Except.error.injEq]
  | ok => simp

/-- If no name depends on itself and every dependency has a task, there are waves, and they leave no
task out. -/
theorem waves_eq_ok_of_acyclic (hnodup : (schedule.tasks.map (·.name)).Nodup)
    (hclosed : schedule.Closed)
    (hacyclic : ∀ name, ¬Relation.TransGen (Steps schedule.prerequisites) name name) :
    schedule.waves = .ok schedule.layering.waves ∧ schedule.layering.stuck = [] := by
  have hwaves : schedule.waves = .ok schedule.layering.waves := by
    rw [waves, checkAcyclic, (cycleMembers_eq_nil_iff hnodup).2 hacyclic]
  refine ⟨hwaves, ?_⟩
  rw [eq_of_waves_eq_ok hnodup hclosed hwaves]

end Reidentify.Schedule

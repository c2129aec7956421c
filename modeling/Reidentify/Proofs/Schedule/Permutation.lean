import Reidentify.Proofs.Schedule.Layering

/-!
# Schedules in another order

The tasks of a schedule stand in the order in which their mappers were registered. The waves do not
depend on that order: which tasks are ready only depends on the tasks that are left, and the names
of a wave are sorted. Neither do the members of circles.

## Main statements

* `Schedule.layers_perm`: tasks in another order have the same waves and the same stuck tasks.
* `Schedule.cycleMembers_eq_of_perm`, `Schedule.waves_eq_of_perm`: so schedules in another order
  have the same circles and the same waves.
-/

namespace Reidentify.Schedule

variable {tasks tasks' : List Task}

/-- The `readyNames` of permuted tasks are permuted: whether a task is ready does not depend on
where it stands. -/
theorem readyNames_perm (h : tasks.Perm tasks') : (readyNames tasks).Perm (readyNames tasks') :=
  (h.filter _).map _

/-- Permuted `tasks` are released to permuted ones, since `release` only asks which names are
`finished`, in whatever order. -/
theorem release_perm (h : tasks.Perm tasks') {finished finished' : List String}
    (hfinished : finished.Perm finished') :
    (release finished tasks).Perm (release finished' tasks') := by
  -- `release` reads its finished names by `contains` only
  have hcontains (name : String) : finished.contains name = finished'.contains name := by
    rw [Bool.eq_iff_iff, List.contains_iff_mem, List.contains_iff_mem, hfinished.mem_iff]
  unfold release
  simp only [hcontains]
  exact h.map _

/-- Permuted `tasks` have equal `waves`, whose names are sorted, and permuted `stuck` tasks. -/
theorem layers_perm (h : tasks.Perm tasks') (fuel : Nat) :
    (layers fuel tasks).waves = (layers fuel tasks').waves ∧
      (layers fuel tasks).stuck.Perm (layers fuel tasks').stuck := by
  -- by induction on the fuel; both schedules give up, or have a wave, at the same time
  induction fuel generalizing tasks tasks' with
  | zero => exact ⟨rfl, h⟩
  | succ fuel ih =>
    have hready := readyNames_perm h
    by_cases hnil : readyNames tasks = []
    · have hnil' : readyNames tasks' = [] := by
        rw [hnil] at hready
        exact hready.symm.eq_nil
      rw [layers_of_nil hnil, layers_of_nil hnil']
      exact ⟨rfl, h⟩
    · have hne' : readyNames tasks' ≠ [] := by
        intro hnil'
        rw [hnil'] at hready
        exact hnil hready.eq_nil
      -- the same tasks are released by the same names
      have hrest : (release (readyNames tasks) (waiting tasks)).Perm
          (release (readyNames tasks') (waiting tasks')) := release_perm (h.filter _) hready
      obtain ⟨hwaves, hstuck⟩ := ih hrest
      rw [layers_of_ne_nil hnil, layers_of_ne_nil hne', hwaves,
        Text.sortedNames_congr fun _ => hready.mem_iff]
      exact ⟨rfl, hstuck⟩

section Schedules

variable {schedule schedule' : Schedule}

/-- Schedules with permuted `tasks` have the same `layering`, up to the order of the `stuck` tasks.
-/
theorem layering_perm (h : schedule.tasks.Perm schedule'.tasks) :
    schedule.layering.waves = schedule'.layering.waves ∧
      schedule.layering.stuck.Perm schedule'.layering.stuck := by
  unfold layering size
  rw [h.length_eq]
  exact layers_perm h _

/-- Schedules with permuted `tasks` of distinct names look up the same `prerequisites` of every
name. -/
theorem prerequisites_eq_of_perm (hnodup : (schedule.tasks.map (·.name)).Nodup)
    (h : schedule.tasks.Perm schedule'.tasks) :
    schedule.prerequisites = schedule'.prerequisites := by
  funext name
  have hfind : schedule.find? name = schedule'.find? name := Text.find?_eq_of_perm hnodup h name
  rw [prerequisites, prerequisites, hfind]

/-- Schedules with permuted `tasks` have equal `cycleMembers`, because these are sorted names. -/
theorem cycleMembers_eq_of_perm (hnodup : (schedule.tasks.map (·.name)).Nodup)
    (h : schedule.tasks.Perm schedule'.tasks) :
    schedule.cycleMembers = schedule'.cycleMembers := by
  unfold cycleMembers
  -- sorted lists are equal if they have the same members: stuck names with a way back to themselves
  refine Text.sortedNames_congr fun name => ?_
  rw [List.mem_filter, List.mem_filter, List.contains_iff_mem, List.contains_iff_mem,
    mem_reachable_prerequisites_iff, mem_reachable_prerequisites_iff,
    prerequisites_eq_of_perm hnodup h, ((layering_perm h).2.map _).mem_iff]

/-- Schedules with permuted `tasks` have equal `waves`, or end with an equal `Fault.cycle`. -/
theorem waves_eq_of_perm (hnodup : (schedule.tasks.map (·.name)).Nodup)
    (h : schedule.tasks.Perm schedule'.tasks) : schedule.waves = schedule'.waves := by
  unfold waves checkAcyclic
  rw [cycleMembers_eq_of_perm hnodup h, (layering_perm h).1]

end Schedules

end Reidentify.Schedule

import Reidentify.Proofs.Schedule.Layering

/-!
# Parts of a schedule

Some of the tasks of a schedule depend on each other only. If the other tasks are left out, these
tasks become ready in the same waves as before: what a task waits for is never one of the tasks that
are left out. The last waves may be empty then, and those are not counted.

## Main definitions

* `Schedule.among`: the tasks of some names.
* `Schedule.DependsWithin`: the tasks of some names depend on these names only.

## Main statements

* `Schedule.layers_among`: the layers of a part are the parts of the layers.
* `Schedule.waves_among`: the waves of a part are the parts of the waves.
-/

namespace Reidentify.Schedule

variable {names : List String} {tasks : List Task}

/-- The tasks whose `name` is one of the `names`, in their order. -/
def among (names : List String) (tasks : List Task) : List Task :=
  tasks.filter fun task => names.contains task.name

/-- The `tasks` of some `names` depend on these names only; nothing is said of the other tasks. -/
def DependsWithin (names : List String) (tasks : List Task) : Prop :=
  ∀ task ∈ tasks, task.name ∈ names → ∀ name ∈ task.dependencies, name ∈ names

/-- A task is `among names tasks` iff it is one of the `tasks` and its name one of the `names`. -/
theorem mem_among {task : Task} : task ∈ among names tasks ↔ task ∈ tasks ∧ task.name ∈ names := by
  rw [among, List.mem_filter, List.contains_iff_mem]

section Step

/-- The `readyNames` of a part are the `readyNames` of all tasks, filtered by `names.contains`. -/
theorem readyNames_among (names : List String) (tasks : List Task) :
    readyNames (among names tasks) = (readyNames tasks).filter names.contains := by
  unfold readyNames among
  rw [List.filter_map, List.filter_filter, List.filter_filter]
  congr 1
  refine List.filter_congr fun task _ => ?_
  rw [Bool.and_comm]
  rfl

/-- The `waiting` tasks of a part are the part of the `waiting` tasks: both filters commute. -/
theorem waiting_among (names : List String) (tasks : List Task) :
    waiting (among names tasks) = among names (waiting tasks) := by
  unfold waiting among
  rw [List.filter_filter, List.filter_filter]
  exact List.filter_congr fun _ _ => Bool.and_comm ..

/-- By `DependsWithin` the tasks of a part lose the same dependencies whether the ready tasks of the
part or all ready tasks are released, so `release` and `among` commute. -/
theorem release_among (h : DependsWithin names tasks) :
    release (readyNames (among names tasks)) (waiting (among names tasks)) =
      among names (release (readyNames tasks) (waiting tasks)) := by
  rw [readyNames_among, waiting_among]
  unfold release
  rw [among, among, List.filter_map]
  -- both sides map the same tasks, so it is enough to compare the dependencies that each of them
  -- keeps
  refine List.map_congr_left fun task htask => ?_
  obtain ⟨hwaiting, hname⟩ := mem_among.1 htask
  have htasks : task ∈ tasks := List.mem_of_mem_filter hwaiting
  -- a dependency is one of the names, so it is ready in the part iff it is ready at all
  have hsame : task.dependencies.filter
        (fun name => !((readyNames tasks).filter names.contains).contains name) =
      task.dependencies.filter (fun name => !(readyNames tasks).contains name) := by
    refine List.filter_congr fun name hdependency => ?_
    have hmem := h task htasks hname name hdependency
    rw [Bool.eq_iff_iff]
    simp [hmem]
  rw [hsame]

/-- If the tasks are `DependsWithin` some names, so are the released ones, because `release` only
takes dependencies away. -/
theorem DependsWithin.release (h : DependsWithin names tasks) (finished : List String) :
    DependsWithin names (release finished (waiting tasks)) := by
  intro task htask hname name hdependency
  obtain ⟨original, horiginal, rfl⟩ := mem_release_iff.1 htask
  have horiginal := List.mem_of_mem_filter horiginal
  exact h original horiginal hname name (List.mem_of_mem_filter hdependency)

/-- If `readyNames tasks` is empty, every task is `waiting` and `release` leaves them all as they
are. -/
theorem release_waiting_of_nil (h : readyNames tasks = []) :
    release (readyNames tasks) (waiting tasks) = tasks := by
  have hwaiting : waiting tasks = tasks := by
    refine List.filter_eq_self.2 fun task htask => ?_
    by_contra hempty
    rw [Bool.not_eq_true, Bool.not_eq_false'] at hempty
    have hready : task.name ∈ readyNames tasks :=
      mem_readyNames htask (List.isEmpty_iff.1 hempty)
    rw [h] at hready
    cases hready
  rw [h, hwaiting]
  simp [release]

end Step

/-- If `layers` leaves no task stuck, it leaves none of a part stuck, and the waves filtered by
`names.contains` are the waves of the part, followed by `count` empty ones. -/
theorem layers_among {fuel fuel' : Nat} (h : DependsWithin names tasks)
    (hstuck : (layers fuel tasks).stuck = []) (hfuel : (among names tasks).length ≤ fuel') :
    (layers fuel' (among names tasks)).stuck = [] ∧
      ∃ count, (layers fuel tasks).waves.map (·.filter names.contains) =
        (layers fuel' (among names tasks)).waves ++ List.replicate count [] := by
  have hempty : layers fuel' (among names []) = ⟨[], []⟩ := layers_of_nil rfl fuel'
  -- by induction on the fuel of the whole; the part keeps fuel of its own, as it has fewer waves
  induction fuel generalizing tasks fuel' with
  | zero =>
    obtain rfl : tasks = [] := hstuck
    rw [hempty]
    exact ⟨rfl, 0, rfl⟩
  | succ fuel ih =>
    by_cases hnil : readyNames tasks = []
    · rw [layers_of_nil hnil] at hstuck ⊢
      obtain rfl : tasks = [] := hstuck
      rw [hempty]
      exact ⟨rfl, 0, rfl⟩
    · rw [layers_of_ne_nil hnil] at hstuck ⊢
      have hrelease := h.release (readyNames tasks)
      by_cases hnil' : readyNames (among names tasks) = []
      · -- nothing of the part is ready, so the part is the same after the wave
        have hsame : among names (release (readyNames tasks) (waiting tasks)) =
            among names tasks := by
          rw [← release_among h, release_waiting_of_nil hnil']
        have hrest := ih hrelease hstuck (hsame ▸ hfuel) hempty
        rw [hsame, layers_of_nil hnil'] at hrest
        obtain ⟨hpart, count, hwaves⟩ := hrest
        rw [layers_of_nil hnil']
        refine ⟨hpart, count + 1, ?_⟩
        rw [List.map_cons, hwaves, Text.filter_sortedNames, ← readyNames_among, hnil']
        rfl
      · -- the ready tasks of the part are the wave of the part
        have hless := length_release_lt hnil'
        rw [release_among h] at hless
        cases fuel' with
        | zero => omega
        | succ fuel' =>
          rw [layers_of_ne_nil hnil', release_among h]
          obtain ⟨hpart, count, hwaves⟩ := ih hrelease hstuck (by omega) (layers_of_nil rfl fuel')
          refine ⟨hpart, count, ?_⟩
          rw [List.map_cons, hwaves, Text.filter_sortedNames, ← readyNames_among]
          rfl

/-- A part of a schedule that has `waves` has waves, too: they are the given ones filtered by
`names.contains`, up to `count` empty ones at the end. -/
theorem waves_among {schedule : Schedule} (hnodup : (schedule.tasks.map (·.name)).Nodup)
    (hclosed : schedule.Closed) (h : DependsWithin names schedule.tasks)
    {order : List (List String)} (hwaves : schedule.waves = .ok order) :
    ∃ part count, (Schedule.mk (among names schedule.tasks)).waves = .ok part ∧
      order.map (·.filter names.contains) = part ++ List.replicate count [] := by
  have hlayering := eq_of_waves_eq_ok hnodup hclosed hwaves
  have hstuck : (layers schedule.size schedule.tasks).stuck = [] := by
    rw [← layering, hlayering]
  obtain ⟨hpart, count, hparts⟩ := layers_among h hstuck (Nat.le_refl _)
  rw [← layering, hlayering] at hparts
  refine ⟨_, count, ?_, hparts⟩
  -- no task of the part is stuck, so there are no circles
  have hmembers : (Schedule.mk (among names schedule.tasks)).cycleMembers = [] := by
    rw [cycleMembers, layering, size, hpart]
    rfl
  rw [waves, checkAcyclic, hmembers]
  rfl

end Reidentify.Schedule

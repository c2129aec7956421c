import Reidentify.Proofs.Schedule.Circles

/-!
# Surveys of the graph of a schedule

The dependencies of a schedule are the edges of a graph over its names. A graph library surveys such
a graph with algorithms of its own: it lists the strongly connected components, says whether there
are circles, and takes the names away in generations. The circles and the waves of a schedule can be
read off any survey that is accurate, and they are the ones that the schedule computes.

## Main definitions

* `Schedule.Peels`: the generations in which names are taken away.
* `Schedule.Survey`: what a graph library says about a graph, with what a schedule reads off it.
* `Schedule.Survey.Accurate`: what the library says is right.

## Main statements

* `Schedule.Peels.map_sortedNames_eq`: sorted generations are unique.
* `Schedule.peels_layering`: without circles the waves of a schedule are generations.
* `Schedule.Survey.Accurate.cycleMembers_eq`, `Schedule.Survey.Accurate.waves_eq`: an accurate
  survey leads to the circles and the waves of the schedule.
-/

namespace Reidentify.Schedule

variable {schedule : Schedule} {step : String → List String} {names names' : List String}
  {generations generations' : List (List String)} {tasks : List Task}

section Generations

/-- Repeatedly, the names from which no `step` leads to a remaining name are taken away together as
a generation, until no name remains. -/
inductive Peels (step : String → List String) : List String → List (List String) → Prop
  /-- No name remains, so there is no further generation. -/
  | done : Peels step [] []
  /-- A `generation` has all remaining names without a `step` to a remaining one; it is taken away,
  and the `rest` peels the others. -/
  | generation {names generation rest} (hne : generation ≠ []) (hnodup : generation.Nodup)
      (hmem : ∀ name, name ∈ generation ↔ name ∈ names ∧ ∀ next ∈ step name, next ∉ names)
      (hrest : Peels step (names.filter (!generation.contains ·)) rest) :
      Peels step names (generation :: rest)

/-- If no name remains, `Peels` allows no generation at all. -/
theorem Peels.eq_nil (h : Peels step names generations) (hnone : ∀ name, name ∉ names) :
    generations = [] := by
  cases h with
  | done => rfl
  | generation hne _ hmem _ =>
    obtain ⟨name, hname⟩ := List.exists_mem_of_ne_nil _ hne
    exact absurd ((hmem name).1 hname).1 (hnone name)

/-- Any two lists that `Peels` allows for the same names agree generation by generation, once each
one is sorted by `Text.sortedNames`. -/
theorem Peels.map_sortedNames_eq (h : Peels step names generations)
    (h' : Peels step names' generations') (hsame : ∀ name, name ∈ names ↔ name ∈ names') :
    generations.map Text.sortedNames = generations'.map Text.sortedNames := by
  -- by induction on the first peeling; the names only have to be the same as sets
  induction h generalizing names' generations' with
  | done => rw [h'.eq_nil fun name hname => List.not_mem_nil ((hsame name).2 hname)]
  | generation hne _ hmem _ ih =>
    cases h' with
    | done =>
      obtain ⟨name, hname⟩ := List.exists_mem_of_ne_nil _ hne
      exact absurd ((hsame name).1 ((hmem name).1 hname).1) List.not_mem_nil
    | generation _ _ hmem' hrest' =>
      -- the first generations have the same names, so the same names remain behind them
      have hfirst (name : String) := (hmem name).trans <| by
        simp only [hsame]
        exact (hmem' name).symm
      rw [List.map_cons, List.map_cons, Text.sortedNames_congr hfirst, ih hrest' fun name => ?_]
      rw [mem_filter_not_contains, mem_filter_not_contains, hsame, hfirst]

/-- Some `tasks` of the remaining `names`, which wait exactly for the remaining ones of what they
`step` to. -/
structure Remaining (step : String → List String) (names : List String) (tasks : List Task) :
    Prop where
  /-- No two of the `tasks` have the same name. -/
  nodup : (tasks.map (·.name)).Nodup
  /-- The `tasks` are the ones of the remaining `names`. -/
  mem_iff : ∀ name, name ∈ names ↔ name ∈ tasks.map (·.name)
  /-- Every task has the remaining ones of what `step` lists for its name as its `dependencies`. -/
  waits_iff : ∀ task ∈ tasks, ∀ name,
    name ∈ task.dependencies ↔ name ∈ step task.name ∧ name ∈ names

namespace Remaining

/-- The `readyNames` are exactly the remaining names from which no `step` leads to a remaining one,
which is how `Peels` describes a generation. -/
theorem mem_readyNames_iff (h : Remaining step names tasks) (name : String) :
    name ∈ readyNames tasks ↔ name ∈ names ∧ ∀ next ∈ step name, next ∉ names := by
  constructor
  · intro hready
    obtain ⟨task, htask, rfl⟩ := List.mem_map.1 hready
    obtain ⟨htask, hempty⟩ := List.mem_filter.1 htask
    refine ⟨(h.mem_iff _).2 (List.mem_map_of_mem htask), fun next hnext hremains => ?_⟩
    have hwaits := (h.waits_iff task htask next).2 ⟨hnext, hremains⟩
    rw [List.isEmpty_iff.1 hempty] at hwaits
    cases hwaits
  · rintro ⟨hname, hfree⟩
    obtain ⟨task, htask, rfl⟩ := List.mem_map.1 ((h.mem_iff name).1 hname)
    refine mem_readyNames htask (List.eq_nil_iff_forall_not_mem.2 fun next hnext => ?_)
    obtain ⟨hstep, hremains⟩ := (h.waits_iff task htask next).1 hnext
    exact hfree next hstep hremains

/-- When the `readyNames` are taken away from the names, the tasks that `release` leaves are the
`Remaining` ones. -/
theorem release (h : Remaining step names tasks) :
    Remaining step (names.filter (!(Text.sortedNames (readyNames tasks)).contains ·))
      (release (readyNames tasks) (waiting tasks)) where
  nodup := by
    rw [map_name_release]
    exact ((readyNames_append_perm tasks).nodup_iff.2 h.nodup).of_append_right
  mem_iff name := by
    have hperm := readyNames_append_perm tasks
    have hdisjoint := List.disjoint_of_nodup_append (hperm.nodup_iff.2 h.nodup)
    rw [mem_filter_not_contains, Text.mem_sortedNames, map_name_release, h.mem_iff,
      ← hperm.mem_iff, List.mem_append]
    exact ⟨fun ⟨hmem, hready⟩ => hmem.resolve_left hready,
      fun hmem => ⟨.inr hmem, fun hready => hdisjoint hready hmem⟩⟩
  waits_iff task hmem name := by
    obtain ⟨original, horiginal, rfl⟩ := mem_release_iff.1 hmem
    rw [mem_filter_not_contains, mem_filter_not_contains, Text.mem_sortedNames,
      h.waits_iff original (List.mem_of_mem_filter horiginal), and_assoc]

/-- If `layers` leaves no task stuck, its waves are generations in the sense of `Peels`. -/
theorem peels {fuel : Nat} (h : Remaining step names tasks)
    (hstuck : (layers fuel tasks).stuck = []) : Peels step names (layers fuel tasks).waves := by
  have hnone {names : List String} (h : Remaining step names []) : Peels step names [] := by
    have hnil : names = [] := List.eq_nil_iff_forall_not_mem.2 fun name hname =>
      List.not_mem_nil ((h.mem_iff name).1 hname)
    rw [hnil]
    exact .done
  -- by induction on the fuel, following `layers`; what remains behind a wave is `Remaining` by
  -- `release`
  induction fuel generalizing names tasks with
  | zero =>
    obtain rfl : tasks = [] := hstuck
    exact hnone h
  | succ fuel ih =>
    by_cases hready : readyNames tasks = []
    · rw [layers_of_nil hready] at hstuck ⊢
      obtain rfl : tasks = [] := hstuck
      exact hnone h
    · rw [layers_of_ne_nil hready] at hstuck ⊢
      obtain ⟨first, hfirst⟩ := List.exists_mem_of_ne_nil _ hready
      refine .generation (List.ne_nil_of_mem (Text.mem_sortedNames.2 hfirst))
        (Text.ascending_sortedNames _).nodup (fun name => ?_) (ih h.release hstuck)
      rw [Text.mem_sortedNames, h.mem_readyNames_iff]

end Remaining

/-- At the beginning all tasks of a `Closed` schedule are `Remaining`, with `prerequisites` as the
steps. -/
theorem remaining_tasks (hnodup : (schedule.tasks.map (·.name)).Nodup)
    (hclosed : schedule.Closed) :
    Remaining schedule.prerequisites (schedule.tasks.map (·.name)) schedule.tasks where
  nodup := hnodup
  mem_iff _ := Iff.rfl
  waits_iff task hmem name := by
    rw [prerequisites_eq hnodup hmem]
    exact ⟨fun hname => ⟨hname, hclosed task hmem name hname⟩, fun hname => hname.1⟩

/-- If no task is stuck, the waves of the `layering` are generations in the sense of `Peels`. -/
theorem peels_layering (hnodup : (schedule.tasks.map (·.name)).Nodup)
    (hclosed : schedule.Closed) (hstuck : schedule.layering.stuck = []) :
    Peels schedule.prerequisites (schedule.tasks.map (·.name)) schedule.layering.waves :=
  (remaining_tasks hnodup hclosed).peels hstuck

/-- If no task is stuck, the waves of the `layering` are the given `generations`, each one sorted;
so a library may list the names of a generation in any order. -/
theorem layering_waves_eq_of_peels (hnodup : (schedule.tasks.map (·.name)).Nodup)
    (hclosed : schedule.Closed) (hstuck : schedule.layering.stuck = [])
    (hpeels : Peels schedule.prerequisites (schedule.tasks.map (·.name)) generations) :
    schedule.layering.waves = generations.map Text.sortedNames := by
  rw [hpeels.map_sortedNames_eq (peels_layering hnodup hclosed hstuck) fun _ => Iff.rfl]
  -- the waves are sorted already
  refine ((List.map_congr_left fun wave hwave => ?_).trans (List.map_id _)).symm
  exact Text.sortedNames_of_ascending ((isLayering_layering hnodup).ascending wave hwave)

end Generations

/-- What a graph library says about the graph of a schedule. Whether it is right is said by
`Survey.Accurate`. -/
structure Survey where
  /-- The strongly connected components of the graph, each one as the names in it. -/
  components : List (List String)
  /-- Whether the library has found the graph to be without circles. -/
  acyclic : Bool
  /-- The generations in which the names can be taken away, if `acyclic`. -/
  generations : List (List String)

namespace Survey

variable {survey : Survey} {name : String}

/-- The members of circles as they are read off a `survey`: the names of all `components` with more
than one name, and those of tasks that depend on themselves. -/
def cycleMembers (survey : Survey) (schedule : Schedule) : List String :=
  Text.sortedNames ((survey.components.filter (1 < ·.length)).flatten ++
    (schedule.tasks.filter fun task => task.dependencies.contains task.name).map (·.name))

/-- Refuses a schedule that is not `acyclic` by the `survey`, with a `Fault.cycle` that names all
`cycleMembers`. -/
def checkAcyclic (survey : Survey) (schedule : Schedule) : Except Fault Unit :=
  if survey.acyclic then .ok () else .error (.cycle (survey.cycleMembers schedule))

/-- The waves of a schedule without circles: the `generations` of the `survey`, the names of each
one sorted. -/
def waves (survey : Survey) (schedule : Schedule) : Except Fault (List (List String)) :=
  survey.checkAcyclic schedule >>= fun _ => .ok (survey.generations.map Text.sortedNames)

/-- What the library says about a schedule is right, as the graph of `prerequisites` has it. -/
structure Accurate (survey : Survey) (schedule : Schedule) : Prop where
  /-- Every name of the schedule is in exactly one of the `components`. -/
  perm : survey.components.flatten.Perm (schedule.tasks.map (·.name))
  /-- Two names are in one component iff they are the same, or each of them is reached from the
  other by `prerequisites`. -/
  strong : ∀ component ∈ survey.components, ∀ a ∈ component,
    ∀ b ∈ schedule.tasks.map (·.name), b ∈ component ↔ b = a ∨
      (Relation.TransGen (Steps schedule.prerequisites) a b ∧
        Relation.TransGen (Steps schedule.prerequisites) b a)
  /-- The survey is `acyclic` iff no name is reached from itself. -/
  acyclic_iff : survey.acyclic = true ↔
    ∀ name, ¬Relation.TransGen (Steps schedule.prerequisites) name name
  /-- If the survey is `acyclic`, its `generations` take all names away as `Peels` says. -/
  peels : survey.acyclic = true →
    Peels schedule.prerequisites (schedule.tasks.map (·.name)) survey.generations

namespace Accurate

/-- A name among the `cycleMembers` of an `Accurate` survey is reached from itself by
`prerequisites`. -/
theorem transGen_of_mem_cycleMembers (h : survey.Accurate schedule)
    (hnodup : (schedule.tasks.map (·.name)).Nodup) (hmem : name ∈ survey.cycleMembers schedule) :
    Relation.TransGen (Steps schedule.prerequisites) name name := by
  rw [cycleMembers, Text.mem_sortedNames, List.mem_append] at hmem
  rcases hmem with hcomponent | hself
  · -- the component has another name, and there is a way there and back
    obtain ⟨component, hcomponent, hname⟩ := List.mem_flatten.1 hcomponent
    obtain ⟨hcomponent, hlength⟩ := List.mem_filter.1 hcomponent
    have hdistinct : component.Nodup :=
      (List.nodup_flatten.1 (h.perm.nodup_iff.2 hnodup)).1 component hcomponent
    obtain ⟨other, hother, hne⟩ : ∃ other ∈ component, other ≠ name := by
      by_contra hall
      push Not at hall
      have hrest := List.eq_replicate_iff.2 ⟨rfl, hall⟩
      rw [hrest, List.nodup_replicate] at hdistinct
      have := of_decide_eq_true hlength
      omega
    have htask := h.perm.mem_iff.1 (List.mem_flatten_of_mem hcomponent hother)
    obtain ⟨hthere, hback⟩ :=
      ((h.strong component hcomponent name hname other htask).1 hother).resolve_left hne
    exact hthere.trans hback
  · obtain ⟨task, htask, rfl⟩ := List.mem_map.1 hself
    obtain ⟨htask, hself⟩ := List.mem_filter.1 htask
    refine .single ?_
    rw [Steps, prerequisites_eq hnodup htask]
    exact List.contains_iff_mem.1 hself

/-- A name that is reached from itself by `prerequisites` is among the `cycleMembers` of an
`Accurate` survey. -/
theorem mem_cycleMembers_of_transGen (h : survey.Accurate schedule)
    (hclosed : schedule.Closed)
    (hcircle : Relation.TransGen (Steps schedule.prerequisites) name name) :
    name ∈ survey.cycleMembers schedule := by
  rw [cycleMembers, Text.mem_sortedNames, List.mem_append]
  obtain ⟨next, hstep, hback⟩ := Relation.TransGen.head'_iff.1 hcircle
  obtain ⟨task, htask, rfl, hdependency⟩ := exists_task_of_steps hstep
  by_cases hself : task.name ∈ task.dependencies
  · exact .inr (List.mem_map_of_mem (List.mem_filter.2 ⟨htask, List.contains_iff_mem.2 hself⟩))
  · -- the next name is another one, and it is in the same component
    left
    have hne : next ≠ task.name := fun heq => hself (heq ▸ hdependency)
    have hback := (Relation.reflTransGen_iff_eq_or_transGen.1 hback).resolve_left hne.symm
    have hname := h.perm.mem_iff.2 (List.mem_map_of_mem htask)
    obtain ⟨component, hcomponent, hname⟩ := List.mem_flatten.1 hname
    have hnext := (h.strong component hcomponent _ hname next
      (hclosed task htask next hdependency)).2 (.inr ⟨.single hstep, hback⟩)
    refine List.mem_flatten_of_mem (List.mem_filter.2 ⟨hcomponent, ?_⟩) hname
    rw [decide_eq_true_eq]
    by_contra hshort
    obtain ⟨only, rfl⟩ := List.length_eq_one_iff.1
      (Nat.le_antisymm (Nat.le_of_not_lt hshort) (List.length_pos_of_mem hname))
    exact hne ((List.mem_singleton.1 hnext).trans (List.mem_singleton.1 hname).symm)

/-- The `cycleMembers` read off an `Accurate` survey are those that the schedule computes by itself.
-/
theorem cycleMembers_eq (h : survey.Accurate schedule)
    (hnodup : (schedule.tasks.map (·.name)).Nodup) (hclosed : schedule.Closed) :
    survey.cycleMembers schedule = schedule.cycleMembers := by
  refine (Text.ascending_sortedNames _).ext (Text.ascending_sortedNames _) fun name => ?_
  -- both lists are sorted, so the names in them decide
  change name ∈ survey.cycleMembers schedule ↔ name ∈ schedule.cycleMembers
  rw [mem_cycleMembers_iff hnodup]
  exact ⟨h.transGen_of_mem_cycleMembers hnodup, h.mem_cycleMembers_of_transGen hclosed⟩

/-- An `Accurate` survey is `acyclic` iff the schedule lists no `cycleMembers`. -/
theorem acyclic_iff_cycleMembers_eq_nil (h : survey.Accurate schedule)
    (hnodup : (schedule.tasks.map (·.name)).Nodup) :
    survey.acyclic = true ↔ schedule.cycleMembers = [] :=
  h.acyclic_iff.trans (cycleMembers_eq_nil_iff hnodup).symm

/-- By an `Accurate` survey the same schedules pass `checkAcyclic`, and the others are refused with
the same fault. -/
theorem checkAcyclic_eq (h : survey.Accurate schedule)
    (hnodup : (schedule.tasks.map (·.name)).Nodup) (hclosed : schedule.Closed) :
    survey.checkAcyclic schedule = schedule.checkAcyclic := by
  have hiff := h.acyclic_iff_cycleMembers_eq_nil hnodup
  rw [checkAcyclic, h.cycleMembers_eq hnodup hclosed]
  by_cases hacyclic : survey.acyclic = true
  · rw [if_pos hacyclic, Schedule.checkAcyclic, hiff.1 hacyclic]
  · rw [if_neg hacyclic, checkAcyclic_eq_error_iff.2 ⟨mt hiff.2 hacyclic, rfl⟩]

/-- The `waves` read off an `Accurate` survey are those that the schedule computes, faults included.
-/
theorem waves_eq (h : survey.Accurate schedule)
    (hnodup : (schedule.tasks.map (·.name)).Nodup) (hclosed : schedule.Closed) :
    survey.waves schedule = schedule.waves := by
  have hcheck := h.checkAcyclic_eq hnodup hclosed
  rw [waves]
  -- without circles both sides have waves, the generations being unique; with circles both are
  -- refused
  by_cases hacyclic : survey.acyclic = true
  · obtain ⟨hwaves, hstuck⟩ :=
      waves_eq_ok_of_acyclic hnodup hclosed (h.acyclic_iff.1 hacyclic)
    rw [checkAcyclic, if_pos hacyclic, hwaves,
      layering_waves_eq_of_peels hnodup hclosed hstuck (h.peels hacyclic)]
    rfl
  · have hmembers := mt (h.acyclic_iff_cycleMembers_eq_nil hnodup).2 hacyclic
    rw [hcheck, checkAcyclic_eq_error_iff.2 ⟨hmembers, rfl⟩, waves_eq_error_iff.2 ⟨hmembers, rfl⟩]
    rfl

end Accurate

end Survey

end Reidentify.Schedule

import Reidentify.Proofs.Mapper.Validation
import Reidentify.Proofs.Pass.Wave
import Reidentify.Proofs.Schedule.Layering

/-!
# The order of evaluation

The waves of a valid registry without circles hold every mapper once, and every mapper stands
behind the mappers it depends on. A pass over such a registry goes from wave to wave, beginning
with a table without outcomes.

## Main definitions

* `Registry.DependsOn`: one name depends on another one directly.
* `Pass.IsOrder`: the mappers of a registry in waves.
* `Pass.start`: the table at the beginning of a pass.

## Main statements

* `Pass.exists_order`: valid registries without circles have an order of evaluation.
* `Pass.IsOrder.induction`: mappers inherit what holds for everything they depend on.
* `Pass.IsOrder.invariant`: what every wave keeps holds on all tables on the way of a pass.
* `Pass.exists_order_of_run`: the table of a pass is the one after the waves of such an order.
-/

namespace Reidentify

/-- The mapper of a `name` for the only class that satisfies a `predicate`, with the `identity`
strategy among all classes. -/
def Mapper.onlyClass (name : String) (predicate : Predicate) (dependencies : List String)
    (hname : name ≠ "") : Mapper where
  name := name
  strategy := .identity
  predicate := predicate
  scope := .allClasses
  dependencies := Text.sortedNames dependencies
  target := .toClass
  parameters := none
  name_ne_empty := hname
  allows_target := rfl
  ascending_dependencies := Text.ascending_sortedNames dependencies
  owner_mem _ h := nomatch h
  target_of_parameters h := nomatch h

/-- A name `a` depends on `b` directly: the mapper called `a` lists `b` among its `dependencies`. -/
def Registry.DependsOn (registry : Registry) (a b : String) : Prop :=
  ∃ mapper ∈ registry.mappers, mapper.name = a ∧ b ∈ mapper.dependencies

/-- An artifact with one class `a`, which has a number `f`. -/
def Artifact.numbered : Artifact :=
  ⟨[⟨"a", .str "", [], 0, [⟨"a", "f", "I", 0⟩], []⟩], "1"⟩

namespace Pass

variable {artifact : Artifact} {registry : Registry}

/-- The mappers of a `registry` in `waves`, in which they can be evaluated. -/
structure IsOrder (registry : Registry) (waves : List (List Mapper)) : Prop where
  /-- Every mapper is in exactly one wave: `waves.flatten` is a permutation of the registered
  mappers. -/
  perm : waves.flatten.Perm registry.mappers
  /-- The mappers of a wave are in ascending order of their names. -/
  ascending : ∀ wave ∈ waves, Text.Ascending (wave.map (·.name))
  /-- The mappers that a mapper of a `wave` depends on are in the waves `before` it. -/
  ready : ∀ before wave after, waves = before ++ wave :: after → ∀ mapper ∈ wave,
    ∀ name ∈ mapper.dependencies, name ∈ before.flatten.map (·.name)

/-- Any list of registered `names` is the list of the names of some registered `mappers`. -/
theorem exists_mappers (registry : Registry) {names : List String}
    (h : ∀ name ∈ names, name ∈ registry.names) :
    ∃ mappers : List Mapper, mappers.map (·.name) = names ∧
      ∀ mapper ∈ mappers, mapper ∈ registry.mappers := by
  -- by induction on the names, each of which is that of a registered mapper
  induction names with
  | nil => exact ⟨[], rfl, fun _ hmem => absurd hmem List.not_mem_nil⟩
  | cons name rest ih =>
    obtain ⟨hname, hrest⟩ := List.forall_mem_cons.1 h
    obtain ⟨mapper, hmapper, rfl⟩ := List.mem_map.1 hname
    obtain ⟨others, rfl, hothers⟩ := ih hrest
    exact ⟨mapper :: others, rfl, List.forall_mem_cons.2 ⟨hmapper, hothers⟩⟩

/-- Any lists of registered `names` are the names of some `waves` of registered mappers. -/
theorem exists_waves {names : List (List String)}
    (h : ∀ name ∈ names.flatten, name ∈ registry.names) :
    ∃ waves : List (List Mapper), waves.map (·.map (·.name)) = names ∧
      ∀ mapper ∈ waves.flatten, mapper ∈ registry.mappers := by
  -- by induction on the waves of names, with `exists_mappers` for each of them
  induction names with
  | nil => exact ⟨[], rfl, fun _ hmem => absurd hmem List.not_mem_nil⟩
  | cons wave rest ih =>
    rw [List.flatten_cons] at h
    obtain ⟨mappers, hmappers, hwave⟩ := exists_mappers registry
      fun name hmem => h name (List.mem_append_left _ hmem)
    obtain ⟨waves, hwaves, hrest⟩ := ih fun name hmem => h name (List.mem_append_right _ hmem)
    refine ⟨mappers :: waves, ?_, ?_⟩
    · rw [List.map_cons, hmappers, hwaves]
    · intro mapper hmem
      rw [List.flatten_cons] at hmem
      exact (List.mem_append.1 hmem).elim (hwave mapper) (hrest mapper)

/-- Registered `mappers` whose names are a permutation of `registry.names` are a permutation of all
registered mappers. -/
theorem perm_of_map_name_perm {mappers : List Mapper}
    (hregistered : ∀ mapper ∈ mappers, mapper ∈ registry.mappers)
    (hperm : (mappers.map (·.name)).Perm registry.names) : mappers.Perm registry.mappers := by
  have hnodup : (mappers.map (·.name)).Nodup := hperm.nodup_iff.2 registry.nodup_names
  rw [List.perm_ext_iff_of_nodup hnodup.of_map registry.nodup_names.of_map]
  intro mapper
  refine ⟨hregistered mapper, fun hmem => ?_⟩
  -- some mapper of the list has the name, and names tell registered mappers apart
  obtain ⟨other, hother, hname⟩ := List.mem_map.1 (hperm.mem_iff.2 (List.mem_map_of_mem hmem))
  rwa [← List.inj_on_of_nodup_map registry.nodup_names (hregistered other hother) hmem hname]

/-- The schedule of a `registry` has a task for every registered name, in the order of registration.
-/
theorem map_name_tasks (registry : Registry) :
    (Schedule.ofMappers registry.mappers).tasks.map (·.name) = registry.names := by
  rw [Schedule.ofMappers, List.map_map]
  rfl

/-- The schedule of a `registry` has no two tasks of one name. -/
theorem nodup_tasks (registry : Registry) :
    ((Schedule.ofMappers registry.mappers).tasks.map (·.name)).Nodup := by
  rw [map_name_tasks]
  exact registry.nodup_names

/-- The schedule of a registry that passes `validate` is `Closed`: everything that is depended on
has a task. -/
theorem closed_ofMappers (hvalid : registry.validate = .ok ()) :
    (Schedule.ofMappers registry.mappers).Closed := by
  intro task htask name hname
  obtain ⟨mapper, hmapper, rfl⟩ := List.mem_map.1 htask
  rw [map_name_tasks]
  exact registry.mem_names_of_validate hvalid hmapper hname

/-- In the schedule of a registry `prerequisites` steps from `a` to `b` iff `a` depends on `b` by
`DependsOn`. -/
theorem steps_prerequisites_iff {a b : String} :
    Schedule.Steps (Schedule.ofMappers registry.mappers).prerequisites a b ↔
      registry.DependsOn a b := by
  constructor
  · intro h
    obtain ⟨task, htask, rfl, hdependency⟩ := Schedule.exists_task_of_steps h
    obtain ⟨mapper, hmem, rfl⟩ := List.mem_map.1 htask
    exact ⟨mapper, hmem, rfl, hdependency⟩
  · rintro ⟨mapper, hmem, rfl, hdependency⟩
    have htask : (⟨mapper.name, mapper.dependencies⟩ : Task) ∈
        (Schedule.ofMappers registry.mappers).tasks := List.mem_map_of_mem hmem
    rw [Schedule.Steps, Schedule.prerequisites_eq (nodup_tasks registry) htask]
    exact hdependency

/-- Chains of `prerequisites` are chains of `DependsOn`, since their steps are the same. -/
theorem transGen_steps_iff {a b : String} :
    Relation.TransGen (Schedule.Steps (Schedule.ofMappers registry.mappers).prerequisites) a b ↔
      Relation.TransGen registry.DependsOn a b := by
  have heq : Schedule.Steps (Schedule.ofMappers registry.mappers).prerequisites =
      registry.DependsOn :=
    funext₂ fun _ _ => propext steps_prerequisites_iff
  rw [heq]

/-- The waves of a valid registry without circles are the `names` of an `IsOrder` of its mappers. -/
theorem exists_order (hvalid : registry.validate = .ok ()) {names : List (List String)}
    (hnames : (Schedule.ofMappers registry.mappers).waves = .ok names) :
    ∃ waves, waves.map (·.map (·.name)) = names ∧ IsOrder registry waves := by
  have htasks := map_name_tasks registry
  have hnodup := nodup_tasks registry
  -- the planned waves are the layers of the tasks, and no task is stuck
  have hlayering := Schedule.isLayering_layering hnodup
  rw [Schedule.eq_of_waves_eq_ok hnodup (closed_ofMappers hvalid) hnames] at hlayering
  have hperm : names.flatten.Perm registry.names := by
    have := hlayering.perm
    rwa [List.map_nil, List.append_nil, htasks] at this
  -- from here on waves of mappers, whose names are the planned ones
  obtain ⟨waves, rfl, hregistered⟩ := exists_waves fun name hmem => hperm.mem_iff.1 hmem
  rw [← List.map_flatten] at hperm
  refine ⟨waves, rfl, perm_of_map_name_perm hregistered hperm, ?_, ?_⟩
  · intro wave hmem
    exact hlayering.ascending _ (List.mem_map_of_mem hmem)
  · intro before wave after heq mapper hmem name hname
    have hmapper : mapper ∈ registry.mappers := by
      apply hregistered
      rw [heq, List.flatten_append, List.flatten_cons]
      exact List.mem_append_right _ (List.mem_append_left _ hmem)
    have hready := hlayering.ready (before.map (·.map (·.name))) (wave.map (·.name))
      (after.map (·.map (·.name))) (by rw [heq, List.map_append, List.map_cons])
      ⟨mapper.name, mapper.dependencies⟩ (List.mem_map_of_mem hmapper)
      (List.mem_map_of_mem hmem) name hname
    rwa [← List.map_flatten] at hready

/-- What holds for a mapper if it holds for everything that the mapper depends on holds for all
mappers that have an `IsOrder`. -/
theorem IsOrder.induction {waves : List (List Mapper)} (horder : IsOrder registry waves)
    {P : String → Prop}
    (step : ∀ mapper ∈ registry.mappers, (∀ name ∈ mapper.dependencies, P name) → P mapper.name) :
    ∀ mapper ∈ registry.mappers, P mapper.name := by
  -- by induction on the waves that have been passed, with the last one taken off
  have hwaves (before after : List (List Mapper)) (h : waves = before ++ after) :
      ∀ mapper ∈ before.flatten, P mapper.name := by
    induction before using List.reverseRecOn generalizing after with
    | nil => exact fun _ hmem => absurd hmem List.not_mem_nil
    | append_singleton earlier wave ih =>
      rw [List.append_assoc, List.singleton_append] at h
      intro mapper hmem
      rw [List.flatten_append, List.flatten_singleton, List.mem_append] at hmem
      rcases hmem with hmem | hmem
      · exact ih (wave :: after) h mapper hmem
      · have hregistered : mapper ∈ registry.mappers := by
          rw [← horder.perm.mem_iff, h, List.flatten_append, List.flatten_cons]
          exact List.mem_append_right _ (List.mem_append_left _ hmem)
        refine step mapper hregistered fun name hname => ?_
        obtain ⟨other, hother, rfl⟩ :=
          List.mem_map.1 (horder.ready earlier wave after h mapper hmem name hname)
        exact ih (wave :: after) h other hother
  intro mapper hmem
  exact hwaves waves [] (List.append_nil waves).symm mapper (horder.perm.mem_iff.2 hmem)

/-- The table at the beginning of a pass over `artifact`: the names of the registry as its order,
and no outcome. -/
def start (artifact : Artifact) (registry : Registry) : Table :=
  Table.empty registry.names artifact.revision

/-- At the beginning of a pass outcomes of all registered names can be added, i.e. the table
`Admits` them. -/
theorem admits_start (artifact : Artifact) (registry : Registry) :
    (start artifact registry).Admits registry.names where
  nodup := registry.nodup_names
  fresh _ _ := List.not_mem_nil
  ordered _ hmem := hmem

/-- A `wave` can be run on a `table`: outcomes of its mappers, which are registered, can be added,
and everything that they depend on has an outcome. -/
structure ReadyFor (registry : Registry) (table : Table) (wave : List Mapper) : Prop where
  /-- The mappers of the wave are registered ones. -/
  registered : ∀ mapper ∈ wave, mapper ∈ registry.mappers
  /-- Outcomes of the mappers can be added to the table, which `Admits` their names. -/
  admits : table.Admits (wave.map (·.name))
  /-- Everything that the mappers depend on is among the `recorded` names. -/
  recorded : ∀ mapper ∈ wave, ∀ name ∈ mapper.dependencies, name ∈ table.recorded

/-- When the waves `before` it have been run from the `start`, a `wave` of an order is one that the
table is `ReadyFor`. -/
theorem IsOrder.readyFor {waves before after : List (List Mapper)} {wave : List Mapper}
    {table : Table} (horder : IsOrder registry waves) (hwaves : waves = before ++ wave :: after)
    (hbefore : settleWaves artifact (start artifact registry) before = .ok table) :
    ReadyFor registry table wave := by
  obtain ⟨outcomes, rfl, hperm⟩ := exists_of_settleWaves hbefore
  have hflatten : waves.flatten = before.flatten ++ (wave ++ after.flatten) := by
    rw [hwaves, List.flatten_append, List.flatten_cons]
  refine ⟨fun mapper hmem => ?_, Table.Admits.append ?_, fun mapper hmem name hname => ?_⟩
  · rw [← horder.perm.mem_iff, hflatten]
    exact List.mem_append_right _ (List.mem_append_left _ hmem)
  · -- the earlier waves have used up their own names only
    have hnames := (horder.perm.map (·.name)).symm
    rw [hflatten, List.map_append, List.map_append] at hnames
    have hadmits := (admits_start artifact registry).perm (hnames.trans (hperm.symm.append_right _))
    exact hadmits.sublist ((List.sublist_append_left ..).append_left _)
  · -- what a mapper depends on is in an earlier wave, and these have been run
    rw [Table.recorded_append, List.mem_append, hperm.mem_iff]
    exact .inr (horder.ready before wave after hwaves mapper hmem name hname)

/-- A property `P` of the table at the `start` of a pass that is kept by every wave which the table
is `ReadyFor` holds of all tables on the way. -/
theorem IsOrder.invariant {P : Table → Prop} {waves before after : List (List Mapper)}
    {table : Table} (horder : IsOrder registry waves) (hstart : P (start artifact registry))
    (hstep : ∀ table wave next, P table → ReadyFor registry table wave →
      settleWave artifact table wave = .ok next → P next)
    (hwaves : waves = before ++ after)
    (hbefore : settleWaves artifact (start artifact registry) before = .ok table) : P table := by
  -- by induction on the waves that have been run, with the last one taken off
  induction before using List.reverseRecOn generalizing table after with
  | nil =>
    cases hbefore
    exact hstart
  | append_singleton earlier wave ih =>
    rw [List.append_assoc, List.singleton_append] at hwaves
    rw [settleWaves_append] at hbefore
    obtain ⟨middle, hearlier, hwave⟩ := Except.bind_eq_ok_iff.1 hbefore
    rw [settleWaves] at hwave
    obtain ⟨next, hnext, heq⟩ := Except.bind_eq_ok_iff.1 hwave
    cases heq
    exact hstep middle wave _ (ih hwaves hearlier) (horder.readyFor hwaves hearlier) hnext

/-- A `registry` has a schedule iff it passes `validate`, and this is the one of its mappers. -/
theorem result_ofRegistry (registry : Registry) :
    (Schedule.ofRegistry registry).result =
      registry.validate >>= fun _ => .ok (Schedule.ofMappers registry.mappers) := by
  simp only [Schedule.ofRegistry, Trail.result_andThen, Trail.result_lift, Trail.result_log,
    Trail.result_done, Except.ok_bind]

/-- A pass checks its `registry` with `validate`, plans its waves, and runs them one after the other
from the `start`. -/
theorem result_run (artifact : Artifact) (registry : Registry) :
    (run artifact registry).result =
      registry.validate >>= fun _ => (Schedule.ofMappers registry.mappers).waves >>= fun waves =>
        (Trail.foldEach waves (start artifact registry) (runWave artifact registry)).result := by
  unfold run
  simp only [Trail.result_andThen, result_ofRegistry, Trail.result_lift, Trail.result_log,
    Trail.result_done, Except.ok_bind, Except.bind_assoc]
  congr 1
  funext _
  congr 1
  funext waves
  exact Except.bind_ok _

/-- A pass over a valid registry with planned waves goes through an `IsOrder` of mappers with these
`names`, by `settleWaves`. -/
theorem exists_order_result_run (artifact : Artifact) (hvalid : registry.validate = .ok ())
    {names : List (List String)}
    (hnames : (Schedule.ofMappers registry.mappers).waves = .ok names) :
    ∃ waves, waves.map (·.map (·.name)) = names ∧ IsOrder registry waves ∧
      (run artifact registry).result = settleWaves artifact (start artifact registry) waves := by
  obtain ⟨waves, rfl, horder⟩ := exists_order hvalid hnames
  refine ⟨waves, rfl, horder, ?_⟩
  rw [result_run, hvalid, Except.ok_bind, hnames, Except.ok_bind]
  refine result_foldEach_runWave (fun mapper hmem => horder.perm.mem_iff.1 hmem) ?_
  exact (admits_start artifact registry).perm (horder.perm.map _).symm

/-- The table with which a pass ends is the one after the waves of some `IsOrder`. -/
theorem exists_order_of_run {table : Table} (h : (run artifact registry).result = .ok table) :
    ∃ waves, IsOrder registry waves ∧
      settleWaves artifact (start artifact registry) waves = .ok table := by
  have hrun := h
  rw [result_run] at hrun
  obtain ⟨_, hvalid, hrun⟩ := Except.bind_eq_ok_iff.1 hrun
  obtain ⟨names, hnames, -⟩ := Except.bind_eq_ok_iff.1 hrun
  obtain ⟨waves, -, horder, hsettle⟩ := exists_order_result_run artifact hvalid hnames
  exact ⟨waves, horder, hsettle.symm.trans h⟩

end Pass

end Reidentify

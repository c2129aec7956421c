import Reidentify.Proofs.Pass.Order
import Reidentify.Proofs.Schedule.Survey

/-!
# The layers of a registry

The waves of a valid registry without circles are its layers. The mappers that depend on nothing
make up the first one, and any other mapper is in the layer right behind the deepest one of its
dependencies. Taken one after the other, the waves list every mapper behind everything that it
depends on.

## Main definitions

* `Pass.Layered`: the waves of a registry, as layers.
* `Pass.Topological`: the names of a registry, every one of them behind its dependencies.

## Main statements

* `Pass.exists_layers_of_acyclic`: valid registries without circles have layers.
-/

namespace Reidentify

namespace Pass

variable {registry : Registry} {waves : List (List String)}

/-- The `waves` of a registry are its layers: every mapper stands as early as its dependencies
allow, and `Schedule.depth` is the length of its longest chain. -/
structure Layered (registry : Registry) (waves : List (List String)) : Prop where
  /-- No wave is empty, so their number is the length of the longest chain of all. -/
  ne_nil : ∀ wave ∈ waves, wave ≠ []
  /-- Every mapper is in exactly one wave: the names of all waves are a permutation of
  `registry.names`. -/
  perm : waves.flatten.Perm registry.names
  /-- The names of every wave are in ascending order, i.e. `Text.Ascending`. -/
  ascending : ∀ wave ∈ waves, Text.Ascending wave
  /-- A mapper with no `dependencies` is in the first wave, of depth 0. -/
  first : ∀ mapper ∈ registry.mappers, mapper.dependencies = [] →
    Schedule.depth waves mapper.name = 0
  /-- Any other mapper is in the wave right behind the last one with a dependency of it, at depth
  `greatest + 1`. -/
  behind : ∀ mapper ∈ registry.mappers, mapper.dependencies ≠ [] → ∃ greatest,
    (mapper.dependencies.map (Schedule.depth waves)).max? = some greatest ∧
      Schedule.depth waves mapper.name = greatest + 1
  /-- The `owner` of the scope of a mapper is in an earlier wave. -/
  owner : ∀ mapper ∈ registry.mappers, ∀ owner, mapper.scope.owner? = some owner →
    Schedule.depth waves owner < Schedule.depth waves mapper.name

/-- The names of a `registry` in an `order` in which every mapper stands behind everything that it
depends on, directly or through others. -/
structure Topological (registry : Registry) (order : List String) : Prop where
  /-- Every name is there exactly once: the `order` is a permutation of `registry.names`. -/
  perm : order.Perm registry.names
  /-- What a mapper depends on by `DependsOn`, in one step or more, stands in front of it. -/
  behind : ∀ before name after, order = before ++ name :: after →
    ∀ other, Relation.TransGen registry.DependsOn name other → other ∈ before

section Layering

variable (hstuck : (Schedule.ofMappers registry.mappers).layering.stuck = [])

include hstuck

/-- If no mapper is stuck, the names of all waves are a permutation of `registry.names`. -/
theorem flatten_waves_perm :
    (Schedule.ofMappers registry.mappers).layering.waves.flatten.Perm registry.names := by
  have hperm := (Schedule.isLayering_layering (nodup_tasks registry)).perm
  rwa [hstuck, List.map_nil, List.append_nil, map_name_tasks] at hperm

/-- If no mapper is stuck, the waves of the `layering` are `Layered`. -/
theorem layered_of_stuck_eq_nil :
    Layered registry (Schedule.ofMappers registry.mappers).layering.waves := by
  have hlayering := Schedule.isLayering_layering (nodup_tasks registry)
  have hprompt := Schedule.prompt_layers (Schedule.ofMappers registry.mappers).size
    (Schedule.ofMappers registry.mappers).tasks
  have hperm := flatten_waves_perm hstuck
  -- every mapper has a task, and its name is in a wave
  have htask {mapper : Mapper} (hmem : mapper ∈ registry.mappers) :
      (⟨mapper.name, mapper.dependencies⟩ : Task) ∈ (Schedule.ofMappers registry.mappers).tasks :=
    List.mem_map_of_mem hmem
  have hwave {mapper : Mapper} (hmem : mapper ∈ registry.mappers) :
      mapper.name ∈ (Schedule.ofMappers registry.mappers).layering.waves.flatten :=
    hperm.mem_iff.2 (List.mem_map_of_mem hmem)
  refine {
    ne_nil := fun wave hmem => Schedule.ne_nil_of_mem_layers hmem
    perm := hperm
    ascending := hlayering.ascending
    first := fun mapper hmem hnone =>
      Schedule.IsLayering.depth_eq_zero hprompt (htask hmem) (hwave hmem) hnone
    behind := fun mapper hmem hsome => ?_
    owner := fun mapper hmem owner howner =>
      hlayering.depth_lt (htask hmem) (hwave hmem) (mapper.owner_mem owner howner) }
  -- only a mapper without dependencies has no greatest depth among them
  cases hgreatest : (mapper.dependencies.map
      (Schedule.depth (Schedule.ofMappers registry.mappers).layering.waves)).max? with
  | none => exact absurd (List.map_eq_nil_iff.1 (List.max?_eq_none_iff.1 hgreatest)) hsome
  | some greatest =>
    exact ⟨greatest, rfl,
      hlayering.depth_eq_of_max? hprompt (htask hmem) (hwave hmem) hgreatest⟩

/-- If no mapper is stuck, the waves one after the other, `waves.flatten`, are in `Topological`
order. -/
theorem topological_of_stuck_eq_nil :
    Topological registry (Schedule.ofMappers registry.mappers).layering.waves.flatten := by
  have hperm := flatten_waves_perm hstuck
  refine ⟨hperm, fun before name after hsplit other hchain => ?_⟩
  have hname : name ∈ (Schedule.ofMappers registry.mappers).layering.waves.flatten := by
    rw [hsplit]
    exact List.mem_append_cons_self
  -- the chain leads to an earlier wave
  have hless := (Schedule.isLayering_layering (nodup_tasks registry)).depth_lt_of_transGen hname
    (transGen_steps_iff.2 hchain)
  exact Schedule.mem_of_depth_lt (hperm.nodup_iff.2 registry.nodup_names) hsplit hless

end Layering

/-- A valid registry whose mappers do not depend on each other in a circle has a schedule with
`waves`. They are `Layered`, and one after the other they are in `Topological` order. They are the
generations that `Schedule.Peels` allows, whichever way the names of these are listed. -/
theorem exists_layers_of_acyclic (hvalid : registry.validate = .ok ())
    (hacyclic : ∀ name, ¬Relation.TransGen registry.DependsOn name name) :
    ∃ schedule waves, (Schedule.ofRegistry registry).result = .ok schedule ∧
      schedule.waves = .ok waves ∧ Layered registry waves ∧
      schedule.order = .ok waves.flatten ∧ Topological registry waves.flatten ∧
      Schedule.Peels schedule.prerequisites registry.names waves ∧
      ∀ generations, Schedule.Peels schedule.prerequisites registry.names generations →
        waves = generations.map Text.sortedNames := by
  have hnodup := nodup_tasks registry
  have hclosed := closed_ofMappers hvalid
  obtain ⟨hwaves, hstuck⟩ := Schedule.waves_eq_ok_of_acyclic hnodup hclosed fun name hcircle =>
    hacyclic name (transGen_steps_iff.1 hcircle)
  have hschedule : (Schedule.ofRegistry registry).result =
      .ok (Schedule.ofMappers registry.mappers) := by
    rw [result_ofRegistry, hvalid, Except.ok_bind]
  have horder : (Schedule.ofMappers registry.mappers).order =
      .ok (Schedule.ofMappers registry.mappers).layering.waves.flatten := by
    rw [Schedule.order, hwaves]
    rfl
  rw [← map_name_tasks]
  exact ⟨_, _, hschedule, hwaves, layered_of_stuck_eq_nil hstuck, horder,
    topological_of_stuck_eq_nil hstuck, Schedule.peels_layering hnodup hclosed hstuck,
    fun _ hpeels => Schedule.layering_waves_eq_of_peels hnodup hclosed hstuck hpeels⟩

section Example

/-- A registry whose mapper `Top` depends on `Bottom` in two ways, through `Shortcut` and through
the longer `Detour` and `Detour.end`. -/
def diamond : Registry where
  mappers := [
    .onlyClass "Top" (.hasInstanceField (.literal "I")) ["Shortcut", "Detour.end"] (by decide),
    .onlyClass "Detour.end" (.hasInstanceField (.literal "I")) ["Detour"] (by decide),
    .onlyClass "Shortcut" (.hasInstanceField (.literal "I")) ["Bottom"] (by decide),
    .onlyClass "Detour" (.hasInstanceField (.literal "I")) ["Bottom"] (by decide),
    .onlyClass "Bottom" (.hasInstanceField (.literal "I")) [] (by decide)]
  nodup_names := by decide

/-- In the registry `diamond` the longer way decides about the layer of `Top`: it is in the fourth
wave, although `Shortcut` is in the second. -/
theorem exists_layers_of_acyclic_diamond :
    diamond.validate = .ok () ∧ (∀ name, ¬Relation.TransGen diamond.DependsOn name name) ∧
      ∃ schedule waves, (Schedule.ofRegistry diamond).result = .ok schedule ∧
        schedule.waves = .ok waves ∧
        waves = [["Bottom"], ["Detour", "Shortcut"], ["Detour.end"], ["Top"]] ∧
        Layered diamond waves ∧ Topological diamond waves.flatten := by
  have hvalid : diamond.validate = .ok () := by decide +kernel
  have hacyclic : ∀ name, ¬Relation.TransGen diamond.DependsOn name name := by
    have hmembers : (Schedule.ofMappers diamond.mappers).cycleMembers = [] := by decide +kernel
    intro name hcircle
    exact (Schedule.cycleMembers_eq_nil_iff (nodup_tasks diamond)).1 hmembers name
      (transGen_steps_iff.2 hcircle)
  obtain ⟨schedule, waves, hschedule, hwaves, hlayered, -, htopological, -⟩ :=
    exists_layers_of_acyclic hvalid hacyclic
  have hcomputed : (Schedule.ofRegistry diamond).result >>= Schedule.waves =
      .ok [["Bottom"], ["Detour", "Shortcut"], ["Detour.end"], ["Top"]] := by
    decide +kernel
  rw [hschedule, Except.ok_bind, hwaves] at hcomputed
  exact ⟨hvalid, hacyclic, schedule, waves, hschedule, hwaves, Except.ok.inj hcomputed, hlayered,
    htopological⟩

end Example

end Pass

end Reidentify

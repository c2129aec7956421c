import Reidentify.Proofs.Outcome.Extension
import Reidentify.Proofs.Pass.Resolution

/-!
# Waves

A wave is a list of mappers. The blocked ones are those that depend on a mapper which the table at
the start of the wave does not bind, and the others are runnable. This module gives the result of
a wave in closed form: the table of the start, with a skip for every blocked mapper, and then with
the outcomes of all runnable mappers on that table. A pass goes from one wave to the next.

## Main definitions

* `Pass.afterSkips`: the table after the blocked mappers of a wave are skipped.
* `Pass.settleWave`, `Pass.settleWaves`: the table after a wave, and after several.

## Main statements

* `Pass.result_runWave`: a wave is run as its closed form says.
* `Pass.result_foldEach_runWave`: so are the waves of a pass.
-/

namespace Reidentify

/-- A mapper of the `registry` is found by its name with `get`. -/
theorem Registry.get_eq_ok {registry : Registry} {mapper : Mapper}
    (h : mapper ∈ registry.mappers) : registry.get mapper.name = .ok mapper := by
  have hfind : registry.find? mapper.name = some mapper :=
    (Text.find?_eq_some_iff_of_nodup registry.nodup_names).2 ⟨h, rfl⟩
  rw [get, hfind]

namespace Pass

variable {artifact : Artifact} {registry : Registry} {table : Table} {wave : List Mapper}

/-- The result of `evaluate` is that of `resolve`, since logging an outcome does not change it. -/
@[simp] theorem result_evaluate (artifact : Artifact) (table : Table) (mapper : Mapper) :
    (evaluate artifact table mapper).result = (mapper.resolve artifact table).result := by
  unfold evaluate
  rw [Trail.result_andThen]
  cases (mapper.resolve artifact table).result with
  | error fault => rfl
  | ok outcome =>
    simp only [Except.ok_bind, Trail.result_andThen, Trail.result_done]
    split <;> rfl

/-- The mappers of a `wave` with `blockers` on the `table`, i.e. with a dependency that it does not
bind. -/
def blocked (table : Table) (wave : List Mapper) : List Mapper :=
  wave.filter fun mapper => !(blockers table mapper).isEmpty

/-- The other mappers of a `wave`, whose dependencies the `table` binds. -/
def runnable (table : Table) (wave : List Mapper) : List Mapper :=
  wave.filter fun mapper => (blockers table mapper).isEmpty

/-- The outcome of a blocked `mapper`: it is skipped for its `blockers`. -/
def skip (table : Table) (mapper : Mapper) : Outcome :=
  ⟨mapper.name, .skipped (blockers table mapper)⟩

/-- The `table` with a `skip` for every blocked mapper of the `wave`. -/
def afterSkips (table : Table) (wave : List Mapper) : Table :=
  table.append ((blocked table wave).map (skip table))

/-- The outcomes of some `mappers`, each evaluated on the same `table`, or the first fault. -/
def resolveAll (artifact : Artifact) (table : Table) (mappers : List Mapper) :
    Except Fault (List Outcome) :=
  (Trail.forEach mappers (evaluate artifact table)).result

/-- The table after a `wave`: the blocked mappers have been skipped, and the outcomes of the
runnable ones follow. -/
def settleWave (artifact : Artifact) (table : Table) (wave : List Mapper) : Except Fault Table :=
  resolveAll artifact (afterSkips table wave) (runnable table wave) >>= fun outcomes =>
    .ok ((afterSkips table wave).append outcomes)

/-- The table after several waves, each of which starts from the table of the one before. -/
def settleWaves (artifact : Artifact) (table : Table) : List (List Mapper) → Except Fault Table
  | [] => .ok table
  | wave :: rest =>
    settleWave artifact table wave >>= fun next => settleWaves artifact next rest

section Admission

/-- Skips bind nothing: a `name` is bound behind any skips iff it was before. -/
theorem isResolved_append_skips (skipped : List Mapper) (name : String) :
    (table.append (skipped.map (skip table))).isResolved name = table.isResolved name := by
  refine Table.isResolved_append_of_not_isResolved fun outcome hmem => ?_
  obtain ⟨other, -, rfl⟩ := List.mem_map.1 hmem
  rfl

/-- What is bound to an `entity` behind any skips was bound before, and to the same entity. -/
theorem resolve_of_append_skips {skipped : List Mapper} {name : String} {entity : Entity}
    (h : (table.append (skipped.map (skip table))).resolve name = .ok entity) :
    table.resolve name = .ok entity := by
  have hbound := Table.isResolved_iff.2 ⟨entity, h⟩
  rw [isResolved_append_skips] at hbound
  obtain ⟨other, hother⟩ := Table.isResolved_iff.1 hbound
  rw [Table.resolve_append hother] at h
  cases h
  exact hother

/-- Skips change the `blockers` of no `mapper`. -/
theorem blockers_append_skips (skipped : List Mapper) (mapper : Mapper) :
    blockers (table.append (skipped.map (skip table))) mapper = blockers table mapper := by
  unfold blockers
  refine List.filter_congr fun name _ => ?_
  rw [isResolved_append_skips]

/-- A `mapper` without `blockers` in front of a wave is `runnable`, and nothing is skipped for it.
-/
theorem afterSkips_cons_of_free (wave : List Mapper) {mapper : Mapper}
    (h : blockers table mapper = []) :
    afterSkips table (mapper :: wave) = afterSkips table wave ∧
      runnable table (mapper :: wave) = mapper :: runnable table wave := by
  unfold afterSkips blocked runnable
  rw [List.filter_cons, List.filter_cons, h]
  exact ⟨rfl, rfl⟩

/-- A `mapper` with `blockers` in front of a wave is skipped before the others are looked at. -/
theorem afterSkips_cons_of_blocked (wave : List Mapper) {mapper : Mapper}
    (h : blockers table mapper ≠ []) :
    afterSkips table (mapper :: wave) = afterSkips (table.append [skip table mapper]) wave ∧
      runnable table (mapper :: wave) = runnable (table.append [skip table mapper]) wave := by
  have hblockers : blockers (table.append [skip table mapper]) = blockers table :=
    funext (blockers_append_skips [mapper])
  have hskip : skip (table.append [skip table mapper]) = skip table := by
    funext other
    exact congrArg (fun names => Outcome.mk other.name (.skipped names)) (congrFun hblockers other)
  have hempty : (blockers table mapper).isEmpty = false := List.isEmpty_eq_false_iff.2 h
  unfold afterSkips blocked runnable
  rw [hblockers, hskip, List.filter_cons, List.filter_cons, hempty, Table.append_append]
  exact ⟨rfl, rfl⟩

/-- Admitting the mappers of a `wave` one by one with `enlist` leads to `afterSkips table wave`,
with the `runnable` mappers behind those that are `listed`. -/
theorem foldEach_enlist (hregistered : ∀ mapper ∈ wave, mapper ∈ registry.mappers)
    (hadmits : table.Admits (wave.map (·.name))) (listed : List Mapper) :
    (Trail.foldEach (wave.map (·.name)) (table, listed) (enlist registry)).result =
      .ok (afterSkips table wave, listed ++ runnable table wave) := by
  -- by induction on the wave; the table changes with every skip, which blocks nobody and frees
  -- nobody
  induction wave generalizing table listed with
  | nil =>
    change Except.ok (table, listed) = .ok (table.append [], listed ++ [])
    rw [Table.append_nil, List.append_nil]
  | cons mapper rest ih =>
    obtain ⟨hmapper, hrest⟩ := List.forall_mem_cons.1 hregistered
    rw [List.map_cons, Trail.result_foldEach_cons, enlist, Registry.get_eq_ok hmapper]
    cases hblockers : blockers table mapper with
    | nil =>
      -- a free mapper is listed, and the table stays as it is
      obtain ⟨hafter, hrunnable⟩ := afterSkips_cons_of_free rest hblockers
      have hnext := ih hrest (hadmits.sublist (List.sublist_cons_self ..)) (listed ++ [mapper])
      simp only [Trail.result_andThen, Trail.result_lift, Except.ok_bind, hblockers,
        Trail.result_done]
      rw [hnext, hafter, hrunnable, List.append_assoc]
      rfl
    | cons first others =>
      -- the skip of a blocked mapper is in the table when the next name is looked at
      have hne : blockers table mapper ≠ [] := by
        rw [hblockers]
        exact List.cons_ne_nil _ _
      obtain ⟨hafter, hrunnable⟩ := afterSkips_cons_of_blocked rest hne
      have hrecord : table.record (skip table mapper) = .ok (table.append [skip table mapper]) :=
        Table.record_eq_ok (hadmits.fresh _ (List.mem_cons_self ..))
          (hadmits.ordered _ (List.mem_cons_self ..))
      have hmore : (table.append [skip table mapper]).Admits (rest.map (·.name)) :=
        Table.Admits.append hadmits
      have hnext := ih hrest hmore listed
      simp only [Trail.result_andThen, Trail.result_lift, Except.ok_bind, hblockers,
        Trail.result_log, Trail.result_done]
      rw [← hblockers]
      rw [skip] at hrecord
      rw [hrecord, Except.ok_bind, Except.ok_bind, hafter, hrunnable]
      exact hnext

end Admission

section Run

/-- The list `outcomes` is the one of `resolveAll` iff each of its outcomes is that of `resolve` for
its mapper. -/
theorem resolveAll_eq_ok_iff {mappers : List Mapper} {outcomes : List Outcome} :
    resolveAll artifact table mappers = .ok outcomes ↔
      List.Forall₂ (fun mapper outcome => (mapper.resolve artifact table).result = .ok outcome)
        mappers outcomes := by
  unfold resolveAll
  simp only [Trail.result_forEach_ok_iff, result_evaluate]

/-- Every one of the `outcomes` of `resolveAll` is that of some mapper. -/
theorem exists_mapper_of_resolveAll {mappers : List Mapper} {outcomes : List Outcome}
    (h : resolveAll artifact table mappers = .ok outcomes) {outcome : Outcome}
    (hmem : outcome ∈ outcomes) :
    ∃ mapper ∈ mappers, (mapper.resolve artifact table).result = .ok outcome := by
  induction resolveAll_eq_ok_iff.1 h with
  | nil => cases hmem
  | cons hfirst hrest ih =>
    rcases List.mem_cons.1 hmem with rfl | hmem
    · exact ⟨_, List.mem_cons_self .., hfirst⟩
    · obtain ⟨mapper, hmapper, hresolve⟩ := ih (resolveAll_eq_ok_iff.2 hrest) hmem
      exact ⟨mapper, List.mem_cons_of_mem _ hmapper, hresolve⟩

/-- Every mapper has one of the `outcomes` of `resolveAll`. -/
theorem exists_outcome_of_resolveAll {mappers : List Mapper} {outcomes : List Outcome}
    (h : resolveAll artifact table mappers = .ok outcomes) {mapper : Mapper}
    (hmem : mapper ∈ mappers) :
    ∃ outcome ∈ outcomes, (mapper.resolve artifact table).result = .ok outcome := by
  induction resolveAll_eq_ok_iff.1 h with
  | nil => cases hmem
  | cons hfirst hrest ih =>
    rcases List.mem_cons.1 hmem with rfl | hmem
    · exact ⟨_, List.mem_cons_self .., hfirst⟩
    · obtain ⟨outcome, houtcome, hresolve⟩ := ih (resolveAll_eq_ok_iff.2 hrest) hmem
      exact ⟨outcome, List.mem_cons_of_mem _ houtcome, hresolve⟩

/-- The `outcomes` of `resolveAll` carry the names of the `mappers`. -/
theorem map_name_of_resolveAll {mappers : List Mapper} {outcomes : List Outcome}
    (h : resolveAll artifact table mappers = .ok outcomes) :
    outcomes.map (·.name) = mappers.map (·.name) := by
  induction resolveAll_eq_ok_iff.1 h with
  | nil => rfl
  | cons hfirst hrest ih =>
    rw [List.map_cons, List.map_cons, Mapper.name_of_resolve hfirst,
      ih (resolveAll_eq_ok_iff.2 hrest)]

/-- The `blocked` and the `runnable` mappers of a `wave` make up the wave. -/
theorem blocked_append_runnable_perm (table : Table) (wave : List Mapper) :
    (blocked table wave ++ runnable table wave).Perm wave := by
  have h := List.filter_append_perm (fun mapper => !(blockers table mapper).isEmpty) wave
  simp only [Bool.not_not] at h
  exact h

/-- The skips of some `mappers` carry their names. -/
theorem map_name_skip (table : Table) (mappers : List Mapper) :
    (mappers.map (skip table)).map (·.name) = mappers.map (·.name) := by
  rw [List.map_map]
  rfl

/-- If a table `Admits` the names of a wave, it admits those of the `runnable` mappers `afterSkips`.
-/
theorem admits_runnable (h : table.Admits (wave.map (·.name))) :
    (afterSkips table wave).Admits ((runnable table wave).map (·.name)) := by
  apply Table.Admits.append
  rw [map_name_skip, ← List.map_append]
  exact h.perm ((blocked_append_runnable_perm table wave).map _).symm

/-- A wave of registered mappers is run by `runWave` as its closed form `settleWave` says, over a
table that `Admits` their names. -/
theorem result_runWave (hregistered : ∀ mapper ∈ wave, mapper ∈ registry.mappers)
    (hadmits : table.Admits (wave.map (·.name))) :
    (runWave artifact registry table (wave.map (·.name))).result =
      settleWave artifact table wave := by
  unfold runWave settleWave
  rw [Trail.result_andThen, foldEach_enlist hregistered hadmits, Except.ok_bind, List.nil_append,
    Trail.result_andThen]
  change resolveAll artifact (afterSkips table wave) (runnable table wave) >>= _ = _
  cases houtcomes : resolveAll artifact (afterSkips table wave) (runnable table wave) with
  | error fault => rfl
  | ok outcomes =>
    rw [Except.ok_bind, Except.ok_bind, Trail.result_lift]
    -- the outcomes carry the names of the runnable mappers, which are still free
    apply recordAll_eq_ok
    rw [map_name_of_resolveAll houtcomes]
    exact admits_runnable hadmits

/-- By `settleWave` a table grows by the skips of the blocked mappers and the outcomes of the
runnable ones, and by nothing else. -/
theorem exists_of_settleWave {next : Table} (h : settleWave artifact table wave = .ok next) :
    ∃ outcomes, resolveAll artifact (afterSkips table wave) (runnable table wave) = .ok outcomes ∧
      next = table.append ((blocked table wave).map (skip table) ++ outcomes) ∧
      (((blocked table wave).map (skip table) ++ outcomes).map (·.name)).Perm
        (wave.map (·.name)) := by
  obtain ⟨outcomes, houtcomes, hnext⟩ := Except.bind_eq_ok_iff.1 h
  cases hnext
  refine ⟨outcomes, houtcomes, Table.append_append _, ?_⟩
  rw [List.map_append, map_name_skip, map_name_of_resolveAll houtcomes, ← List.map_append]
  exact (blocked_append_runnable_perm table wave).map _

/-- By `settleWaves` a table grows by one outcome for every mapper of the `waves`, and by nothing
else. -/
theorem exists_of_settleWaves {waves : List (List Mapper)} {final : Table}
    (h : settleWaves artifact table waves = .ok final) :
    ∃ outcomes, final = table.append outcomes ∧
      (outcomes.map (·.name)).Perm (waves.flatten.map (·.name)) := by
  induction waves generalizing table with
  | nil =>
    cases h
    exact ⟨[], Table.append_nil.symm, .refl _⟩
  | cons wave rest ih =>
    obtain ⟨next, hnext, hrest⟩ := Except.bind_eq_ok_iff.1 h
    obtain ⟨outcomes, -, rfl, hperm⟩ := exists_of_settleWave hnext
    obtain ⟨more, rfl, hmore⟩ := ih hrest
    refine ⟨_, Table.append_append more, ?_⟩
    simpa only [List.map_append, List.flatten_cons] using hperm.append hmore

/-- The waves of a pass are run by `runWave` as their closed form `settleWaves` says. -/
theorem result_foldEach_runWave {waves : List (List Mapper)}
    (hregistered : ∀ mapper ∈ waves.flatten, mapper ∈ registry.mappers)
    (hadmits : table.Admits (waves.flatten.map (·.name))) :
    (Trail.foldEach (waves.map (·.map (·.name))) table (runWave artifact registry)).result =
      settleWaves artifact table waves := by
  -- by induction on the waves; every wave leaves a table that admits the names of those behind it
  induction waves generalizing table with
  | nil => rfl
  | cons wave rest ih =>
    rw [List.flatten_cons] at hregistered hadmits
    rw [List.map_append] at hadmits
    rw [List.map_cons, Trail.result_foldEach_cons, settleWaves, result_runWave
      (fun mapper hmem => hregistered mapper (List.mem_append_left _ hmem))
      (hadmits.sublist (List.sublist_append_left ..))]
    cases hnext : settleWave artifact table wave with
    | error fault => rfl
    | ok next =>
      obtain ⟨outcomes, -, rfl, hperm⟩ := exists_of_settleWave hnext
      rw [Except.ok_bind, Except.ok_bind]
      -- the wave has used up its own names, and those of the later waves are free
      refine ih (fun mapper hmem => hregistered mapper (List.mem_append_right _ hmem)) ?_
      exact (hadmits.perm (hperm.symm.append_right _)).append

/-- Waves follow each other: the `second` ones start from the table that the `first` ones lead to.
-/
theorem settleWaves_append (first second : List (List Mapper)) :
    settleWaves artifact table (first ++ second) =
      settleWaves artifact table first >>= fun next => settleWaves artifact next second := by
  induction first generalizing table with
  | nil => rfl
  | cons wave rest ih =>
    rw [List.cons_append, settleWaves, settleWaves, Except.bind_assoc]
    congr 1
    funext next
    exact ih

/-- If `settleWaves` goes through, each `wave` does, from the table `middle` that the ones before
lead to. -/
theorem exists_next_of_settleWaves_append {first rest : List (List Mapper)} {middle final : Table}
    (h : settleWaves artifact table (first ++ wave :: rest) = .ok final)
    (hfirst : settleWaves artifact table first = .ok middle) :
    ∃ next, settleWave artifact middle wave = .ok next ∧
      settleWaves artifact next rest = .ok final := by
  rw [settleWaves_append, hfirst, Except.ok_bind, settleWaves] at h
  exact Except.bind_eq_ok_iff.1 h

end Run

end Pass

end Reidentify

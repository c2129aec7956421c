import Reidentify.Proofs.Pass.Faults
import Reidentify.Proofs.Pass.Plan

/-!
# Evaluations of mappers

A mapper of a pass is evaluated once, on the table that its wave begins with after the skips of the
wave, unless it is skipped itself. How it ends there is how it ends in the table of the whole pass,
and a fault there is the only way in which a pass with a plan can end with a fault.

## Main definitions

* `Pass.Evaluates`: a mapper is evaluated on a table.

## Main statements

* `Pass.outcome?_of_settleWave`: how the mappers of a wave end.
* `Pass.exists_wave_of_mem`: every mapper has a wave.
* `Pass.skipped_or_evaluates`: every mapper is skipped or evaluated.
* `Pass.Evaluates.eq_table`: no mapper is evaluated twice.
* `Pass.Evaluates.exists_outcome`: a mapper that is evaluated ends as it is resolved.
* `Pass.exists_evaluates_of_error`: the fault of a pass comes from the evaluation of a mapper.
-/

namespace Reidentify

namespace Pass

variable {artifact : Artifact} {registry : Registry} {table earlier next final : Table}
  {wave : List Mapper} {waves : List (List Mapper)} {mapper : Mapper} {fault : Fault}

/-- A `mapper` has no `blockers` on a `table` iff all of its dependencies are bound there. -/
theorem blockers_eq_nil_iff (table : Table) (mapper : Mapper) :
    blockers table mapper = [] ↔
      ∀ name ∈ mapper.dependencies, table.isResolved name = true := by
  simp [blockers, List.filter_eq_nil_iff]

/-- A `mapper` has `blockers` on a `table` iff one of its dependencies is not bound there. -/
theorem blockers_ne_nil_iff (table : Table) (mapper : Mapper) :
    blockers table mapper ≠ [] ↔
      ∃ name ∈ mapper.dependencies, table.isResolved name = false := by
  rw [ne_eq, blockers_eq_nil_iff]
  simp

/-- How the mappers of a wave end in the table `next`: one with `blockers` is skipped for them, any
other one ends as it is resolved against `afterSkips table wave`. -/
theorem outcome?_of_settleWave (hadmits : table.Admits (wave.map (·.name)))
    (h : settleWave artifact table wave = .ok next) (hmem : mapper ∈ wave) :
    (blockers table mapper ≠ [] ∧ next.outcome? mapper.name = some (skip table mapper)) ∨
      (blockers table mapper = [] ∧
        ∃ outcome, (mapper.resolve artifact (afterSkips table wave)).result = .ok outcome ∧
          next.outcome? mapper.name = some outcome) := by
  obtain ⟨outcomes, houtcomes, rfl, hperm⟩ := exists_of_settleWave h
  -- an outcome that the wave adds is the only one of its name
  have hfind {outcome : Outcome}
      (houtcome : outcome ∈ (blocked table wave).map (skip table) ++ outcomes)
      (hname : outcome.name = mapper.name) :
      (table.append ((blocked table wave).map (skip table) ++ outcomes)).outcome? mapper.name =
        some outcome := by
    have hfresh := hadmits.fresh mapper.name (List.mem_map_of_mem hmem)
    rw [Table.outcome?_append, Table.outcome?_eq_none_iff.2 hfresh, Option.none_or]
    exact (Text.find?_eq_some_iff_of_nodup (hperm.nodup_iff.2 hadmits.nodup)).2
      ⟨houtcome, hname⟩
  -- by whether the mapper is blocked, i.e. to which part of the wave it belongs
  by_cases hblockers : blockers table mapper = []
  · right
    have hrunnable : mapper ∈ runnable table wave :=
      List.mem_filter.2 ⟨hmem, List.isEmpty_iff.2 hblockers⟩
    obtain ⟨outcome, houtcome, hresolve⟩ := exists_outcome_of_resolveAll houtcomes hrunnable
    exact ⟨hblockers, outcome, hresolve,
      hfind (List.mem_append_right _ houtcome) (Mapper.name_of_resolve hresolve)⟩
  · left
    have hblocked : mapper ∈ blocked table wave := by
      refine List.mem_filter.2 ⟨hmem, ?_⟩
      rw [Bool.not_eq_true', List.isEmpty_eq_false_iff]
      exact hblockers
    exact ⟨hblockers, hfind (List.mem_append_left _ (List.mem_map_of_mem hblocked)) rfl⟩

/-- If `settleWaves` leads over `before`, a `wave` and `after` to the table `final`, the tables
`earlier` and `next` around that wave agree with `final`. -/
theorem exists_next_of_settleWaves {before after : List (List Mapper)}
    (h : settleWaves artifact table (before ++ wave :: after) = .ok final)
    (hbefore : settleWaves artifact table before = .ok earlier) :
    ∃ next, settleWave artifact earlier wave = .ok next ∧ earlier.Agrees final ∧
      next.Agrees final := by
  obtain ⟨next, hnext, hafter⟩ := exists_next_of_settleWaves_append h hbefore
  rw [settleWaves_append, hbefore, Except.ok_bind] at h
  obtain ⟨outcomes, houtcomes, -⟩ := exists_of_settleWaves h
  obtain ⟨more, hmore, -⟩ := exists_of_settleWaves hafter
  -- the final table has grown from the tables before and after the wave
  refine ⟨next, hnext, ?_, ?_⟩
  · rw [houtcomes]
    exact .append earlier outcomes
  · rw [hmore]
    exact .append next more

/-- Every registered mapper of a pass that goes through has a `wave`, with tables `earlier` and
`next` around it that agree with `final`. -/
theorem exists_wave_of_mem (horder : IsOrder registry waves)
    (h : settleWaves artifact (start artifact registry) waves = .ok final)
    (hmem : mapper ∈ registry.mappers) :
    ∃ before wave after earlier next, waves = before ++ wave :: after ∧ mapper ∈ wave ∧
      settleWaves artifact (start artifact registry) before = .ok earlier ∧
      settleWave artifact earlier wave = .ok next ∧ earlier.Agrees final ∧ next.Agrees final := by
  obtain ⟨wave, hwave, hmapper⟩ := List.mem_flatten.1 (horder.perm.mem_iff.2 hmem)
  obtain ⟨before, after, hwaves⟩ := List.append_of_mem hwave
  rw [hwaves] at h
  have hsettle := h
  rw [settleWaves_append] at hsettle
  obtain ⟨earlier, hbefore, -⟩ := Except.bind_eq_ok_iff.1 hsettle
  obtain ⟨next, hnext, hearlier, hlater⟩ := exists_next_of_settleWaves h hbefore
  exact ⟨before, wave, after, earlier, next, hwaves, hmapper, hbefore, hnext, hearlier, hlater⟩

/-- How the mappers of a wave end in every later table `final`: they have the same `blockers` there,
and the outcome that the wave has added. -/
theorem outcome?_of_agrees (hready : ReadyFor registry table wave)
    (h : settleWave artifact table wave = .ok next) (hmem : mapper ∈ wave)
    (hbefore : table.Agrees final) (hafter : next.Agrees final) :
    blockers final mapper = blockers table mapper ∧
      ((blockers table mapper ≠ [] ∧ final.outcome? mapper.name = some (skip table mapper)) ∨
        (blockers table mapper = [] ∧
          ∃ outcome, (mapper.resolve artifact (afterSkips table wave)).result = .ok outcome ∧
            final.outcome? mapper.name = some outcome)) := by
  have hname : mapper.name ∈ next.recorded := by
    obtain ⟨outcomes, -, rfl, hperm⟩ := exists_of_settleWave h
    rw [Table.recorded_append, List.mem_append]
    exact .inr (hperm.mem_iff.2 (List.mem_map_of_mem hmem))
  -- the dependencies had outcomes before the wave, so later tables block no other mappers
  refine ⟨hbefore.blockers_eq (hready.recorded mapper hmem), ?_⟩
  rw [hafter _ hname]
  exact outcome?_of_settleWave hready.admits h hmem

/-- A mapper is evaluated in a pass on a `Table`: the waves before its own have been run, the
blocked mappers of its wave have been skipped, and it is not one of them. -/
inductive Evaluates (artifact : Artifact) (registry : Registry) : Mapper → Table → Prop
  /-- A `runnable` mapper of a wave of the plan is evaluated on `afterSkips earlier wave`. -/
  | intro {before after : List (List Mapper)} {wave : List Mapper} {earlier : Table}
      {mapper : Mapper} (hplan : IsPlan registry (before ++ wave :: after))
      (hbefore : settleWaves artifact (start artifact registry) before = .ok earlier)
      (hmem : mapper ∈ runnable earlier wave) :
      Evaluates artifact registry mapper (afterSkips earlier wave)

namespace Evaluates

/-- Only mappers in `registry.mappers` are evaluated. -/
theorem mem_mappers (h : Evaluates artifact registry mapper table) : mapper ∈ registry.mappers := by
  obtain ⟨hplan, -, hmem⟩ := h
  apply hplan.registered
  rw [List.flatten_append, List.flatten_cons]
  exact List.mem_append_right _ (List.mem_append_left _ (List.mem_of_mem_filter hmem))

/-- Everything that a mapper depends on is bound in the table on which the mapper `Evaluates`. -/
theorem isResolved (h : Evaluates artifact registry mapper table) {name : String}
    (hname : name ∈ mapper.dependencies) : table.isResolved name = true := by
  obtain ⟨-, -, hmem⟩ := h
  have hfree := List.isEmpty_iff.1 (List.mem_filter.1 hmem).2
  rw [afterSkips, isResolved_append_skips]
  exact (blockers_eq_nil_iff _ _).1 hfree name hname

/-- In a pass that ends with a table a mapper that `Evaluates` on `table` has the outcome of
`resolve` there, and it has no `blockers` in the end. -/
theorem exists_outcome (h : Evaluates artifact registry mapper table)
    (hrun : (run artifact registry).result = .ok final) :
    blockers final mapper = [] ∧ ∃ outcome,
      (mapper.resolve artifact table).result = .ok outcome ∧
        final.outcome? mapper.name = some outcome := by
  obtain ⟨hplan, hbefore, hmem⟩ := h
  obtain ⟨hmem, hempty⟩ := List.mem_filter.1 hmem
  have hfree := List.isEmpty_iff.1 hempty
  rw [hplan.result_run] at hrun
  obtain ⟨next, hnext, hearlier, hlater⟩ := exists_next_of_settleWaves hrun hbefore
  have hready := hplan.isOrder.readyFor rfl hbefore
  obtain ⟨hblockers, hend⟩ := outcome?_of_agrees hready hnext hmem hearlier hlater
  rcases hend with ⟨hne, -⟩ | ⟨-, houtcome⟩
  · exact absurd hfree hne
  · exact ⟨hblockers.trans hfree, houtcome⟩

end Evaluates

/-- A list of lists whose `flatten` has no repetition is cut in front of the list with some `item`
in one way only. -/
theorem append_cons_inj_of_mem {α : Type} {item : α} {before after before' after' : List (List α)}
    {items items' : List α} (hnodup : (before ++ items :: after).flatten.Nodup)
    (h : before ++ items :: after = before' ++ items' :: after') (hmem : item ∈ items)
    (hmem' : item ∈ items') : before = before' ∧ items = items' := by
  -- if the cuts were at different places, both lists with the item would be part of the whole
  have hapart {between first second rest : List (List α)} {a b : List α}
      (hnodup : (first ++ a :: second).flatten.Nodup) (hsecond : second = between ++ b :: rest)
      (ha : item ∈ a) (hb : item ∈ b) : False := by
    rw [List.flatten_append, List.flatten_cons] at hnodup
    have hdisjoint := List.disjoint_of_nodup_append hnodup.of_append_right
    refine hdisjoint ha ?_
    rw [hsecond, List.flatten_append, List.flatten_cons]
    exact List.mem_append_right _ (List.mem_append_left _ hb)
  rcases List.append_eq_append_iff.1 h with ⟨between, rfl, hrest⟩ | ⟨between, rfl, hrest⟩
  · rcases List.cons_eq_append_iff.1 hrest with ⟨rfl, hitems⟩ | ⟨others, rfl, hafter⟩
    · cases hitems
      exact ⟨(List.append_nil before).symm, rfl⟩
    · exact (hapart hnodup hafter hmem hmem').elim
  · rcases List.cons_eq_append_iff.1 hrest with ⟨rfl, hitems⟩ | ⟨others, rfl, hafter⟩
    · cases hitems
      exact ⟨List.append_nil before', rfl⟩
    · rw [h] at hnodup
      exact (hapart hnodup hafter hmem' hmem).elim

/-- A mapper `Evaluates` on one table only, so no mapper is evaluated twice. -/
theorem Evaluates.eq_table {table' : Table} (h : Evaluates artifact registry mapper table)
    (h' : Evaluates artifact registry mapper table') : table = table' := by
  obtain ⟨hplan, hbefore, hmem⟩ := h
  obtain ⟨hplan', hbefore', hmem'⟩ := h'
  have hnodup := hplan.isOrder.perm.nodup_iff.2 registry.nodup_names.of_map
  obtain ⟨rfl, rfl⟩ := append_cons_inj_of_mem hnodup (hplan.unique hplan')
    (List.mem_of_mem_filter hmem) (List.mem_of_mem_filter hmem')
  rw [hbefore] at hbefore'
  cases hbefore'
  rfl

/-- In a pass that ends with a table every registered mapper is skipped for its `blockers`, or it
`Evaluates` on some table. -/
theorem skipped_or_evaluates (h : (run artifact registry).result = .ok final)
    (hmem : mapper ∈ registry.mappers) :
    (blockers final mapper ≠ [] ∧ final.outcome? mapper.name = some (skip final mapper)) ∨
      ∃ table, Evaluates artifact registry mapper table := by
  obtain ⟨waves, hplan, hsettle⟩ := exists_plan_of_run h
  obtain ⟨before, wave, after, earlier, next, rfl, hmapper, hbefore, hnext, hearlier, hlater⟩ :=
    exists_wave_of_mem hplan.isOrder hsettle hmem
  have hready := hplan.isOrder.readyFor rfl hbefore
  obtain ⟨hblockers, hend⟩ := outcome?_of_agrees hready hnext hmapper hearlier hlater
  -- the end of its wave tells whether the mapper was blocked then, and that has not changed
  rcases hend with ⟨hne, hskip⟩ | ⟨hnil, -⟩
  · left
    rw [skip, hblockers]
    exact ⟨hne, hskip⟩
  · have hrunnable : mapper ∈ runnable earlier wave :=
      List.mem_filter.2 ⟨hmapper, List.isEmpty_iff.2 hnil⟩
    exact .inr ⟨_, .intro hplan hbefore hrunnable⟩

/-- A pass with a plan that ends with a `fault` has it from a mapper that `Evaluates` on some table,
where `resolve` ends with that fault. -/
theorem exists_evaluates_of_error (hplan : IsPlan registry waves)
    (h : (run artifact registry).result = .error fault) :
    ∃ mapper table, Evaluates artifact registry mapper table ∧
      (mapper.resolve artifact table).result = .error fault := by
  rw [hplan.result_run] at h
  obtain ⟨before, wave, after, earlier, rfl, hbefore, hwave⟩ := exists_wave_of_settleWaves h
  obtain ⟨-, mapper, -, -, hfails, -⟩ := exists_fails_of_settleWave hwave
  exact ⟨mapper, _, .intro hplan hbefore hfails.runnable, hfails.resolve⟩

end Pass

end Reidentify

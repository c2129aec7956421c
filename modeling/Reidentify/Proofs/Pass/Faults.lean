import Reidentify.Proofs.Pass.Order

/-!
# Faults of a pass

A mapper that fails ends the pass with its fault. Several mappers may fail, also in one wave. The
fault of the pass is the one of the earliest wave with a failing mapper, and among the failing
mappers of that wave of the one whose name comes first.

## Main definitions

* `Pass.Fails`: a mapper of a wave fails.
* `Pass.FirstFault`: the fault of the first failing mapper of the earliest wave that has one.

## Main statements

* `Pass.firstFault_of_run`: a pass can only end with the first fault.
-/

namespace Reidentify

namespace Pass

variable {artifact : Artifact} {registry : Registry} {table : Table} {wave : List Mapper}
  {fault : Fault}

/-- A `mapper` of a `wave` is evaluated, and ends with a `fault` instead of an outcome. -/
structure Fails (artifact : Artifact) (table : Table) (wave : List Mapper) (mapper : Mapper)
    (fault : Fault) : Prop where
  /-- The mapper is `runnable`, so it is not blocked. -/
  runnable : mapper ∈ runnable table wave
  /-- Over the table `afterSkips table wave`, in which the blocked mappers have been skipped,
  `resolve` ends with the `fault`. -/
  resolve : (mapper.resolve artifact (afterSkips table wave)).result = .error fault

/-- If `settleWave` goes through, no mapper `Fails` in that wave. -/
theorem not_fails_of_settleWave {next : Table} (h : settleWave artifact table wave = .ok next)
    (mapper : Mapper) (fault : Fault) : ¬Fails artifact table wave mapper fault := by
  intro hfails
  obtain ⟨outcomes, houtcomes, -⟩ := Except.bind_eq_ok_iff.1 h
  obtain ⟨outcome, -, houtcome⟩ := exists_outcome_of_resolveAll houtcomes hfails.runnable
  rw [hfails.resolve] at houtcome
  cases houtcome

/-- If `settleWave` ends with a `fault`, that is the fault of the first of its `runnable` mappers
that `Fails`. -/
theorem exists_fails_of_settleWave (h : settleWave artifact table wave = .error fault) :
    ∃ before mapper after, runnable table wave = before ++ mapper :: after ∧
      Fails artifact table wave mapper fault ∧
      ∀ earlier ∈ before, ∀ other, ¬Fails artifact table wave earlier other := by
  -- recording outcomes cannot fail, so the fault comes from evaluating one of the runnable mappers
  rcases Except.bind_eq_error_iff.1 h with hresolve | ⟨outcomes, -, hnone⟩
  · obtain ⟨before, mapper, after, hrunnable, hbefore, hmapper⟩ :=
      Trail.result_forEach_error hresolve
    rw [result_evaluate] at hmapper
    have hmem : mapper ∈ runnable table wave := by
      rw [hrunnable]
      exact List.mem_append_cons_self
    -- a mapper in front of it has an outcome, so it cannot fail as well
    refine ⟨before, mapper, after, hrunnable, ⟨hmem, hmapper⟩, ?_⟩
    intro earlier hearlier other hfails
    obtain ⟨outcome, houtcome⟩ := hbefore earlier hearlier
    rw [result_evaluate, hfails.resolve] at houtcome
    cases houtcome
  · cases hnone

/-- If `settleWaves` ends with a `fault`, it is the one of the first `wave` that does not go
through, over the table `middle` that the waves `before` lead to. -/
theorem exists_wave_of_settleWaves {waves : List (List Mapper)}
    (h : settleWaves artifact table waves = .error fault) :
    ∃ before wave after middle, waves = before ++ wave :: after ∧
      settleWaves artifact table before = .ok middle ∧
      settleWave artifact middle wave = .error fault := by
  -- by induction on the waves, over the table that those in front lead to
  induction waves generalizing table with
  | nil => cases h
  | cons wave rest ih =>
    rcases Except.bind_eq_error_iff.1 h with hwave | ⟨next, hnext, hrest⟩
    · exact ⟨[], wave, rest, table, rfl, rfl, hwave⟩
    · obtain ⟨before, failing, after, middle, rfl, hbefore, hfailing⟩ := ih hrest
      refine ⟨wave :: before, failing, after, middle, rfl, ?_, hfailing⟩
      rw [settleWaves, hnext]
      exact hbefore

/-- The `fault` is the one of the first failing mapper of the earliest wave that has one, when the
mappers are evaluated in waves of these `names`. -/
def FirstFault (artifact : Artifact) (registry : Registry) (names : List (List String))
    (fault : Fault) : Prop :=
  ∃ before wave after table mapper,
    IsOrder registry (before ++ wave :: after) ∧
    (before ++ wave :: after).map (·.map (·.name)) = names ∧
    -- no mapper of an earlier wave fails, and these waves lead to the table
    (∀ first earlier rest middle, before = first ++ earlier :: rest →
      settleWaves artifact (start artifact registry) first = .ok middle →
      ∀ other otherFault, ¬Fails artifact middle earlier other otherFault) ∧
    settleWaves artifact (start artifact registry) before = .ok table ∧
    -- the mapper fails, and the others of its wave that fail come behind it
    Fails artifact table wave mapper fault ∧
    ∀ other otherFault, Fails artifact table wave other otherFault →
      other = mapper ∨ Text.isBefore mapper.name other.name = true

/-- A pass over a valid registry with planned waves can only end with its `FirstFault`. -/
theorem firstFault_of_run (hvalid : registry.validate = .ok ()) {names : List (List String)}
    (hnames : (Schedule.ofMappers registry.mappers).waves = .ok names)
    (h : (run artifact registry).result = .error fault) :
    FirstFault artifact registry names fault := by
  obtain ⟨waves, hwaves, horder, hrun⟩ := exists_order_result_run artifact hvalid hnames
  rw [hrun] at h
  obtain ⟨before, wave, after, table, rfl, hbefore, hwave⟩ := exists_wave_of_settleWaves h
  obtain ⟨earlier, mapper, later, hrunnable, hfails, hearlier⟩ := exists_fails_of_settleWave hwave
  refine ⟨before, wave, after, table, mapper, horder, hwaves, ?_, hbefore, hfails, ?_⟩
  · rintro first other rest middle rfl hfirst
    obtain ⟨next, hnext, -⟩ := exists_next_of_settleWaves_append hbefore hfirst
    exact not_fails_of_settleWave hnext
  · intro other otherFault hother
    -- the runnable mappers of a wave are in ascending order, as the whole wave is
    have hascending : (earlier ++ mapper :: later).Pairwise
        fun a b => Text.isBefore a.name b.name = true := by
      rw [← hrunnable]
      have hwave := horder.ascending wave (List.mem_append_cons_self)
      exact (List.pairwise_map.1 hwave).sublist List.filter_sublist
    have hmem := hother.runnable
    rw [hrunnable, List.mem_append, List.mem_cons] at hmem
    rcases hmem with hmem | rfl | hmem
    · exact absurd hother (hearlier other hmem otherFault)
    · exact .inl rfl
    · exact .inr (List.rel_of_pairwise_cons (List.pairwise_append.1 hascending).2.1 hmem)

end Pass

end Reidentify

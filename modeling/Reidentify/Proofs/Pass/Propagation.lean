import Reidentify.Proofs.Pass.Considered
import Reidentify.Proofs.Pass.Outcomes
import Reidentify.Proofs.Schedule.Dependents

/-!
# Propagation of failures

A mapper is skipped if one of its direct dependencies is not bound. That dependency may have been
skipped itself, and so on, but the chain ends at a mapper that has failed by itself, because no
mapper is evaluated before its dependencies. In the other direction a failure reaches everything
that depends on it, step by step. So exactly the dependents of the failed mappers are skipped, in
the sense in which the schedule lists dependents.

## Main definitions

* `Table.status?`: how the mapper of a name has ended.
* `Pass.Propagates`: failures propagate exactly along dependencies.

## Main statements

* `Pass.skipped_iff_blocked`: a mapper is skipped iff one of its dependencies is not bound.
* `Pass.skipped_of_transGen`: what depends on a failed mapper is skipped.
* `Pass.exists_failed_of_skipped`: a skipped mapper depends on a failed one.
* `Pass.skipped_iff_exists_failed`: both of them as an equivalence.
* `Pass.propagates_of_run`: failures propagate exactly along dependencies.
-/

namespace Reidentify

/-- The status with which the mapper called `name` has ended in a `table`, if it has. -/
def Table.status? (table : Table) (name : String) : Option Status :=
  (table.outcome? name).map Outcome.status

namespace Table

variable {table : Table} {name : String}

/-- A `name` is bound iff its mapper has the status `resolved`. -/
theorem isResolved_iff_status? :
    table.isResolved name = true ↔ table.status? name = some .resolved := by
  unfold isResolved status?
  cases table.outcome? name <;> simp [Outcome.isResolved]

/-- A name whose mapper has a `status` is one of the `recorded` names. -/
theorem mem_recorded_of_status? {status : Status} (h : table.status? name = some status) :
    name ∈ table.recorded := by
  by_contra hmissing
  rw [status?, outcome?_eq_none_iff.2 hmissing] at h
  cases h

/-- A recorded name that is not bound has the status `failed` or `skipped`. -/
theorem failed_or_skipped (hmem : name ∈ table.recorded) (h : table.isResolved name = false) :
    table.status? name = some .failed ∨ table.status? name = some .skipped := by
  obtain ⟨outcome, houtcome⟩ := mem_recorded_iff_exists.1 hmem
  rw [isResolved, houtcome] at h
  rw [status?, houtcome, Option.map_some]
  cases hstatus : outcome.status with
  | resolved => simp [Outcome.isResolved, hstatus] at h
  | failed => exact .inl rfl
  | skipped => exact .inr rfl

end Table

namespace Mapper

variable {mapper : Mapper} {artifact : Artifact} {table : Table}

/-- A mapper that is resolved does not end with the status `skipped`. -/
theorem status_ne_skipped_of_resolve {outcome : Outcome}
    (h : (mapper.resolve artifact table).result = .ok outcome) : outcome.status ≠ .skipped := by
  obtain ⟨candidates, kept, selection, -, -, -, hconcludes⟩ := exists_of_resolve h
  cases hconcludes with
  | refused failure => exact fun hnone => nomatch hnone
  | chosen hbind =>
    -- a selected candidate leads to an entity or to a failure
    unfold bind at hbind
    split at hbind
    · split at hbind <;> cases hbind <;> exact fun hnone => nomatch hnone
    · cases hbind
      exact fun hnone => nomatch hnone
    · split at hbind <;> cases hbind <;> exact fun hnone => nomatch hnone
    · cases hbind
      exact fun hnone => nomatch hnone

end Mapper

namespace Pass

variable {artifact : Artifact} {registry : Registry} {table : Table} {mapper : Mapper}
  {name : String}

section Run

variable (hrun : (run artifact registry).result = .ok table)

include hrun

/-- A mapper is `skipped` in a pass iff one of its dependencies is not bound in the end. -/
theorem skipped_iff_blocked (hmem : mapper ∈ registry.mappers) :
    table.status? mapper.name = some .skipped ↔
      ∃ name ∈ mapper.dependencies, table.isResolved name = false := by
  rw [← blockers_ne_nil_iff]
  rcases skipped_or_evaluates hrun hmem with ⟨hne, hskip⟩ | ⟨earlier, hevaluates⟩
  · refine iff_of_true ?_ hne
    rw [Table.status?, hskip]
    rfl
  · obtain ⟨hnil, outcome, hresolve, hend⟩ := hevaluates.exists_outcome hrun
    refine iff_of_false ?_ (not_not_intro hnil)
    rw [Table.status?, hend, Option.map_some, Option.some.injEq]
    exact Mapper.status_ne_skipped_of_resolve hresolve

/-- If the task `a` has a dependency `b` that is not bound, `a` is `skipped`. -/
theorem skipped_of_steps {a b : String}
    (h : Schedule.Steps (Schedule.ofMappers registry.mappers).prerequisites a b)
    (hunbound : table.isResolved b = false) : table.status? a = some .skipped := by
  obtain ⟨mapper, hmem, rfl, hdependency⟩ := steps_prerequisites_iff.1 h
  exact (skipped_iff_blocked hrun hmem).2 ⟨b, hdependency, hunbound⟩

/-- What depends on a `failed` mapper is `skipped`, directly or through others. -/
theorem skipped_of_transGen {failed : String}
    (h : Relation.TransGen (Schedule.Steps (Schedule.ofMappers registry.mappers).prerequisites)
      name failed)
    (hfailed : table.status? failed = some .failed) : table.status? name = some .skipped := by
  have hunbound {name : String} {status : Status} (hstatus : table.status? name = some status)
      (hne : status ≠ .resolved) : table.isResolved name = false := by
    rw [← Bool.not_eq_true, Table.isResolved_iff_status?, hstatus, Option.some.injEq]
    exact hne
  -- by induction on the path, from the failed mapper backwards
  induction h using Relation.TransGen.head_induction_on with
  | single hstep => exact skipped_of_steps hrun hstep (hunbound hfailed (by decide))
  | head hstep _ ih => exact skipped_of_steps hrun hstep (hunbound ih (by decide))

/-- A mapper that is `skipped` depends on one that has `failed`, directly or through others. -/
theorem exists_failed_of_skipped (h : table.status? name = some .skipped) :
    ∃ failed, table.status? failed = some .failed ∧
      Relation.TransGen (Schedule.Steps (Schedule.ofMappers registry.mappers).prerequisites)
        name failed := by
  obtain ⟨waves, hplan, -⟩ := exists_plan_of_run hrun
  have hname := (mem_recorded_iff hrun).1 (Table.mem_recorded_of_status? h)
  obtain ⟨mapper, hmem, rfl⟩ := List.mem_map.1 hname
  -- by induction along the order of evaluation: dependencies come first
  revert h
  refine hplan.isOrder.induction (P := fun name => table.status? name = some .skipped →
    ∃ failed, table.status? failed = some .failed ∧ Relation.TransGen
      (Schedule.Steps (Schedule.ofMappers registry.mappers).prerequisites) name failed)
    (fun mapper hmem ih hskipped => ?_) mapper hmem
  obtain ⟨dependency, hdependency, hunbound⟩ := (skipped_iff_blocked hrun hmem).1 hskipped
  have hstep : Schedule.Steps (Schedule.ofMappers registry.mappers).prerequisites mapper.name
      dependency := steps_prerequisites_iff.2 ⟨mapper, hmem, rfl, hdependency⟩
  have hrecorded := (mem_recorded_iff hrun).2
    (Registry.mem_names_of_validate hplan.valid hmem hdependency)
  rcases Table.failed_or_skipped hrecorded hunbound with hfailed | hskipped
  · exact ⟨dependency, hfailed, .single hstep⟩
  · obtain ⟨failed, hfailed, hpath⟩ := ih dependency hdependency hskipped
    exact ⟨failed, hfailed, .head hstep hpath⟩

/-- A name whose mapper has a `status` is the name of a task of the schedule. -/
theorem mem_tasks_of_status? {status : Status} (h : table.status? name = some status) :
    name ∈ (Schedule.ofMappers registry.mappers).tasks.map (·.name) := by
  rw [map_name_tasks, ← mem_recorded_iff hrun]
  exact Table.mem_recorded_of_status? h

/-- A mapper is `skipped` iff it depends on another one that has `failed`, directly or through
others. -/
theorem skipped_iff_exists_failed : table.status? name = some .skipped ↔
    ∃ failed, table.status? failed = some .failed ∧ name ≠ failed ∧
      Relation.TransGen (Schedule.Steps (Schedule.ofMappers registry.mappers).prerequisites)
        name failed := by
  constructor
  · intro hskipped
    obtain ⟨failed, hfailed, hpath⟩ := exists_failed_of_skipped hrun hskipped
    refine ⟨failed, hfailed, ?_, hpath⟩
    -- a mapper does not both fail and get skipped
    rintro rfl
    rw [hfailed] at hskipped
    cases hskipped
  · rintro ⟨failed, hfailed, -, hpath⟩
    exact skipped_of_transGen hrun hpath hfailed

/-- Everything that a mapper depends on is bound, directly or through others, unless the mapper is
`skipped`. -/
theorem isResolved_of_transGen {dependent : String} (h : table.status? dependent ≠ some .skipped)
    (hpath : Relation.TransGen
      (Schedule.Steps (Schedule.ofMappers registry.mappers).prerequisites) dependent name) :
    table.isResolved name = true := by
  -- by induction on the path, from the mapper on; no name on it is skipped
  induction hpath with
  | single hstep =>
    by_contra hunbound
    exact h (skipped_of_steps hrun hstep (Bool.not_eq_true _ ▸ hunbound))
  | tail _ hstep ih =>
    -- the mapper in the middle is bound, so it was not skipped either
    by_contra hunbound
    have hskipped := skipped_of_steps hrun hstep (Bool.not_eq_true _ ▸ hunbound)
    rw [Table.isResolved_iff_status?, hskipped] at ih
    cases ih

end Run

/-- Failures propagate exactly along dependencies: in the `table` of a pass over `artifact`, the
mappers of `registry` that are skipped are those that depend on a failed one, and nothing is
evaluated for them. -/
structure Propagates (artifact : Artifact) (registry : Registry) (table : Table) : Prop where
  /-- Exactly the names that `dependentsOf` lists for failed mappers are `skipped`. -/
  skipped_iff : ∀ name, table.status? name = some .skipped ↔
    ∃ failed dependents, table.status? failed = some .failed ∧
      (Schedule.ofMappers registry.mappers).dependentsOf failed = .ok dependents ∧
      name ∈ dependents
  /-- So it is with the `dependents` that any graph library lists (`Schedule.ListsDependents`). -/
  skipped_iff_of_listsDependents : ∀ dependents,
    (Schedule.ofMappers registry.mappers).ListsDependents dependents →
      ∀ name, table.status? name = some .skipped ↔
        ∃ failed, table.status? failed = some .failed ∧ name ∈ dependents failed
  /-- Everything that a mapper depends on is bound, directly or through others, unless the mapper is
  `skipped`. -/
  bound : ∀ mapper ∈ registry.mappers, table.status? mapper.name ≠ some .skipped →
    ∀ name, Relation.TransGen
      (Schedule.Steps (Schedule.ofMappers registry.mappers).prerequisites) mapper.name name →
        table.isResolved name = true
  /-- The `owner` of its scope is bound, unless the mapper is `skipped`. -/
  owner : ∀ mapper ∈ registry.mappers, table.status? mapper.name ≠ some .skipped →
    ∀ owner, mapper.scope.owner? = some owner → table.isResolved owner = true
  /-- The predicate of a `skipped` mapper is not evaluated on any candidate: none is `considered`
  for it. -/
  unconsidered : ∀ name, table.status? name = some .skipped → ∀ candidate,
    .considered name candidate ∉ (run artifact registry).events
  /-- The predicate of any other mapper is evaluated on all candidates of its scope, over the table
  `earlier` on which it `Evaluates`. -/
  considered : ∀ mapper ∈ registry.mappers, table.status? mapper.name ≠ some .skipped →
    ∃ earlier candidates, Evaluates artifact registry mapper earlier ∧
      mapper.scope.candidates artifact earlier = .ok candidates ∧ ∀ candidate,
        .considered mapper.name candidate ∈ (run artifact registry).events ↔
          candidate ∈ candidates

/-- In a pass that ends with a table failures propagate exactly along dependencies (`Propagates`),
and nothing is evaluated for the mappers that are skipped. -/
theorem propagates_of_run (h : (run artifact registry).result = .ok table) :
    Propagates artifact registry table := by
  obtain ⟨waves, hplan, -⟩ := exists_plan_of_run h
  have hnodup := nodup_tasks registry
  refine {
    skipped_iff := fun name => ?_
    skipped_iff_of_listsDependents := fun dependents hlists name => ?_
    bound := fun mapper hmem hstatus name hpath => isResolved_of_transGen h hstatus hpath
    owner := fun mapper hmem hstatus owner howner => ?_
    unconsidered := fun name hskipped candidate hevent => ?_
    considered := fun mapper hmem hstatus => ?_ }
  · rw [skipped_iff_exists_failed h]
    refine exists_congr fun failed => ⟨?_, ?_⟩
    · rintro ⟨hfailed, hpath⟩
      obtain ⟨dependents, hdependents, hiff⟩ :=
        Schedule.exists_dependentsOf hnodup (mem_tasks_of_status? h hfailed)
      exact ⟨dependents, hfailed, hdependents, (hiff name).2 hpath⟩
    · rintro ⟨dependents, hfailed, hdependents, hmem⟩
      obtain ⟨others, hothers, hiff⟩ :=
        Schedule.exists_dependentsOf hnodup (mem_tasks_of_status? h hfailed)
      rw [hdependents] at hothers
      cases hothers
      exact ⟨hfailed, (hiff name).1 hmem⟩
  · rw [skipped_iff_exists_failed h]
    exact exists_congr fun failed => and_congr_right fun hfailed =>
      (hlists failed (mem_tasks_of_status? h hfailed) name).symm
  · refine isResolved_of_transGen h hstatus (.single ?_)
    exact steps_prerequisites_iff.2 ⟨mapper, hmem, rfl, mapper.owner_mem owner howner⟩
  · obtain ⟨mapper, earlier, _, hevaluates, rfl, -⟩ := exists_evaluates_of_considered hplan hevent
    obtain ⟨hnil, -⟩ := hevaluates.exists_outcome h
    have hblocked := (skipped_iff_blocked h hevaluates.mem_mappers).1 hskipped
    exact (blockers_ne_nil_iff table mapper).2 hblocked hnil
  · rcases skipped_or_evaluates h hmem with ⟨hne, -⟩ | ⟨earlier, hevaluates⟩
    · have hblocked := (blockers_ne_nil_iff table mapper).1 hne
      exact absurd ((skipped_iff_blocked h hmem).2 hblocked) hstatus
    · obtain ⟨-, outcome, hresolve, -⟩ := hevaluates.exists_outcome h
      obtain ⟨candidates, _, _, hcandidates, -⟩ := Mapper.exists_of_resolve hresolve
      refine ⟨earlier, candidates, hevaluates, hcandidates, fun candidate => ⟨?_, ?_⟩⟩
      · intro hevent
        obtain ⟨other, _, others, hother, hname, hothers, hcandidate⟩ :=
          exists_evaluates_of_considered hplan hevent
        -- there is only one mapper of the name, and it is evaluated only once
        obtain rfl := List.inj_on_of_nodup_map registry.nodup_names hother.mem_mappers hmem hname
        rw [hother.eq_table hevaluates, hcandidates] at hothers
        cases hothers
        exact hcandidate
      · exact hevaluates.considered h hcandidates

section Example

/-- A mapper `Absent` that fails, `Near` and `Far` behind each other that depend on it, and `Free`,
which does not. -/
def chained : Registry where
  mappers := [
    .onlyClass "Far" (.hasInstanceField (.literal "I")) ["Near"] (by decide),
    .onlyClass "Free" (.hasInstanceField (.literal "I")) [] (by decide),
    .onlyClass "Absent" (.hasInstanceField (.literal "J")) [] (by decide),
    .onlyClass "Near" (.hasInstanceField (.literal "I")) ["Free", "Absent"] (by decide)]
  nodup_names := by decide

/-- In the registry `chained` the failure of `Absent` reaches both mappers behind it and leaves
`Free` alone. -/
theorem propagates_of_run_chained :
    ∃ table, (run .numbered chained).result = .ok table ∧
      table.report.outcomes.map (·.status) = [.skipped, .resolved, .failed, .skipped] ∧
      (Schedule.ofMappers chained.mappers).dependentsOf "Absent" = .ok ["Far", "Near"] ∧
      Propagates .numbered chained table := by
  have hstatus : (run .numbered chained).result.map (·.report.outcomes.map (·.status)) =
      .ok [.skipped, .resolved, .failed, .skipped] := by
    decide +kernel
  have hdependents :
      (Schedule.ofMappers chained.mappers).dependentsOf "Absent" = .ok ["Far", "Near"] := by
    decide +kernel
  cases hrun : (run .numbered chained).result with
  | error fault =>
    rw [hrun] at hstatus
    cases hstatus
  | ok table =>
    rw [hrun] at hstatus
    exact ⟨table, rfl, Except.ok.inj hstatus, hdependents, propagates_of_run hrun⟩

end Example

end Pass

end Reidentify

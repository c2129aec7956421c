import Reidentify.Proofs.Outcome.Listing
import Reidentify.Proofs.Pass.Matching
import Reidentify.Proofs.Pass.Order

/-!
# The outcomes of a pass

A pass that ends leaves every mapper in exactly one of three states. A mapper is bound to an
entity, or it has failed by itself, or it was skipped because of named mappers that are not bound.
The report lists these outcomes in the order of registration, and its numbers add up.

## Main definitions

* `Outcome.WellFormed`: an outcome in one of the three states, with what belongs to it only.
* `Pass.Accounts`: what is true of the outcomes at the end of a pass.

## Main statements

* `Mapper.wellFormed_of_resolve`: a mapper that is resolved does not end as a skipped one.
* `Pass.wellFormed_of_settleWaves`: waves keep the outcomes of a table well formed.
* `Pass.accounts_of_run`: every mapper ends in exactly one well-formed state, and the report counts
  them.
-/

namespace Reidentify

/-- An outcome in one of the three states, with what belongs to it only: `resolved` with an entity
and no failure, `failed` with a failure of a kind other than `unresolvedDependency`, or `skipped`
with the names of dependencies. -/
def Outcome.WellFormed (outcome : Outcome) : Prop :=
  (outcome.status = .resolved ∧ (∃ entity, outcome.entity? = some entity) ∧
      outcome.failure? = none) ∨
    (outcome.status = .failed ∧ outcome.entity? = none ∧
      ∃ failure, outcome.failure? = some failure ∧ failure.kind ≠ .unresolvedDependency) ∨
    (outcome.status = .skipped ∧ outcome.entity? = none ∧
      ∃ dependencies, dependencies ≠ [] ∧
        outcome.failure? = some (.unresolvedDependency dependencies))

namespace Outcome

theorem wellFormed_resolved (name : String) (entity : Entity) :
    (Outcome.mk name (.resolved entity)).WellFormed :=
  .inl ⟨rfl, ⟨entity, rfl⟩, rfl⟩

theorem wellFormed_failed (name : String) {failure : Failure}
    (h : failure.kind ≠ .unresolvedDependency) : (Outcome.mk name (.failed failure)).WellFormed :=
  .inr (.inl ⟨rfl, rfl, failure, rfl, h⟩)

theorem wellFormed_skipped (name : String) {dependencies : List String}
    (h : dependencies ≠ []) : (Outcome.mk name (.skipped dependencies)).WellFormed :=
  .inr (.inr ⟨rfl, rfl, dependencies, h, rfl⟩)

end Outcome

namespace Mapper

variable {mapper : Mapper} {artifact : Artifact} {table : Table}

/-- If `selectBy` is refused, the failure is never of kind `unresolvedDependency`. -/
theorem kind_ne_of_selectBy {kind : StrategyKind} {kept : List Entity} {failure : Failure}
    (h : mapper.selectBy kind kept = .ok (.refused failure)) :
    failure.kind ≠ .unresolvedDependency := by
  -- every failure of a selection is of a kind of its own
  unfold selectBy at h
  split at h
  · replace h := Except.ok.inj h
    unfold selectOnly at h
    split at h
    · cases h
    · cases h
      exact fun heq => nomatch heq
    · cases h
      exact fun heq => nomatch heq
  · rcases kind_of_selectAt h with hkind | hkind <;> simp [hkind]
  · cases h

/-- What `bind` makes of a selected candidate is a `WellFormed` outcome, under any `name`. -/
theorem wellFormed_of_bind {entity : Entity} {result : Result}
    (h : mapper.bind artifact entity = .ok result) (name : String) :
    (Outcome.mk name result).WellFormed := by
  rcases cases_of_bind_eq_ok h with ⟨bound, rfl⟩ | ⟨failure, rfl, hkind⟩
  · exact Outcome.wellFormed_resolved name bound
  · refine Outcome.wellFormed_failed name ?_
    rw [hkind]
    exact fun heq => nomatch heq

/-- A mapper that is resolved ends with a `WellFormed` outcome, an entity or a failure of its own.
-/
theorem wellFormed_of_resolve {outcome : Outcome}
    (h : (mapper.resolve artifact table).result = .ok outcome) : outcome.WellFormed := by
  obtain ⟨candidates, kept, selection, -, -, hselection, hconcludes⟩ := exists_of_resolve h
  cases hconcludes with
  | refused failure => exact Outcome.wellFormed_failed _ (kind_ne_of_selectBy hselection)
  | chosen hbind => exact wellFormed_of_bind hbind _

end Mapper

namespace Report

/-- Every outcome of a `report` has one of the three statuses, so their counts add up to
`report.total`. -/
theorem count_add_count_add_count (report : Report) :
    report.count .resolved + report.count .failed + report.count .skipped = report.total := by
  obtain ⟨outcomes, revision⟩ := report
  unfold count withStatus total
  -- by induction on the outcomes, each of which counts for one status
  induction outcomes with
  | nil => rfl
  | cons outcome rest ih =>
    simp only [List.filter_cons, List.length_cons] at ih ⊢
    cases outcome.status <;> simp <;> omega

/-- A `report` is `complete` iff it counts no `failed` and no `skipped` outcome. -/
theorem complete_iff (report : Report) :
    report.complete = true ↔ report.count .failed = 0 ∧ report.count .skipped = 0 := by
  have h := report.count_add_count_add_count
  rw [complete, beq_iff_eq]
  omega

end Report

namespace Pass

variable {artifact : Artifact} {registry : Registry} {table final : Table}

/-- If all outcomes of a table are `WellFormed`, so are those after `settleWave`. -/
theorem wellFormed_of_settleWave {wave : List Mapper}
    (htable : ∀ outcome ∈ table.outcomes, outcome.WellFormed)
    (h : settleWave artifact table wave = .ok final) :
    ∀ outcome ∈ final.outcomes, outcome.WellFormed := by
  obtain ⟨outcomes, houtcomes, rfl, -⟩ := exists_of_settleWave h
  intro outcome hmem
  rcases List.mem_append.1 hmem with hmem | hmem
  · exact htable outcome hmem
  · rcases List.mem_append.1 hmem with hmem | hmem
    · -- a mapper is skipped only if something blocks it
      obtain ⟨mapper, hblocked, rfl⟩ := List.mem_map.1 hmem
      refine Outcome.wellFormed_skipped mapper.name fun hnil => ?_
      have hne := (List.mem_filter.1 hblocked).2
      rw [hnil] at hne
      cases hne
    · obtain ⟨mapper, -, hresolve⟩ := exists_mapper_of_resolveAll houtcomes hmem
      exact Mapper.wellFormed_of_resolve hresolve

/-- If all outcomes of a table are `WellFormed`, so are those after `settleWaves`. -/
theorem wellFormed_of_settleWaves {waves : List (List Mapper)}
    (htable : ∀ outcome ∈ table.outcomes, outcome.WellFormed)
    (h : settleWaves artifact table waves = .ok final) :
    ∀ outcome ∈ final.outcomes, outcome.WellFormed := by
  -- by induction on the waves: each one leads to a table with well-formed outcomes
  induction waves generalizing table with
  | nil =>
    cases h
    exact htable
  | cons wave rest ih =>
    obtain ⟨next, hnext, hrest⟩ := Except.bind_eq_ok_iff.1 h
    exact ih (wellFormed_of_settleWave htable hnext) hrest

/-- The table of a pass is the one of the `start` with an outcome for every mapper appended, in some
order. -/
theorem exists_outcomes_of_run (h : (run artifact registry).result = .ok table) :
    table = (start artifact registry).append table.outcomes ∧
      (table.outcomes.map (·.name)).Perm registry.names := by
  obtain ⟨waves, horder, hsettle⟩ := exists_order_of_run h
  obtain ⟨outcomes, rfl, hperm⟩ := exists_of_settleWaves hsettle
  exact ⟨rfl, hperm.trans (horder.perm.map _)⟩

/-- No name is `recorded` twice in the table of a pass. -/
theorem nodup_recorded_of_run (h : (run artifact registry).result = .ok table) :
    table.recorded.Nodup :=
  (exists_outcomes_of_run h).2.nodup_iff.2 registry.nodup_names

/-- In a pass that ends with a table exactly the names in `registry.names` are `recorded`. -/
theorem mem_recorded_iff (h : (run artifact registry).result = .ok table) {name : String} :
    name ∈ table.recorded ↔ name ∈ registry.names :=
  (exists_outcomes_of_run h).2.mem_iff

/-- The table of a pass has `registry.names` as its `order`, the order of registration. -/
theorem order_of_run (h : (run artifact registry).result = .ok table) :
    table.order = registry.names := by
  rw [(exists_outcomes_of_run h).1]
  rfl

/-- The report of a pass lists the outcomes of its table, `table.outcomes`, in some order. -/
theorem listed_perm_of_run (h : (run artifact registry).result = .ok table) :
    table.report.outcomes.Perm table.outcomes := by
  refine Table.listed_perm (nodup_recorded_of_run h) ?_
  rw [order_of_run h]
  exact (exists_outcomes_of_run h).2.symm

/-- The report of a pass lists an outcome for each of `registry.names`, in that order. -/
theorem map_name_report (h : (run artifact registry).result = .ok table) :
    table.report.outcomes.map (·.name) = registry.names := by
  rw [← order_of_run h]
  refine Table.map_name_listed fun name hmem => (mem_recorded_iff h).2 ?_
  rwa [← order_of_run h]

/-- The report of a pass counts all mappers: its `total` is `registry.size`. -/
theorem total_report (h : (run artifact registry).result = .ok table) :
    table.report.total = registry.size := by
  have hlength := congrArg List.length (map_name_report h)
  rwa [List.length_map, Registry.names, List.length_map] at hlength

/-- What is true of the outcomes at the end of a pass: none is missing, none is there twice, and the
report says how many there are of each kind. -/
structure Accounts (artifact : Artifact) (registry : Registry) (table : Table) : Prop where
  /-- No record was refused on the way from the empty table, so `recordAll` of the outcomes leads to
  the `table`. -/
  recorded : recordAll (Table.empty registry.names artifact.revision) table.outcomes = .ok table
  /-- Exactly the `registry.names` have an outcome. -/
  isTerminal_iff : ∀ name, table.isTerminal name = true ↔ name ∈ registry.names
  /-- No name has two outcomes. -/
  nodup : (table.outcomes.map (·.name)).Nodup
  /-- The report lists the outcomes of the table, `table.outcomes`, in some order. -/
  listed : table.report.outcomes.Perm table.outcomes
  /-- The report lists them in the order of registration, that of `registry.names`. -/
  names_eq : table.report.outcomes.map (·.name) = registry.names
  /-- Every outcome is in one of the three states of `Outcome.WellFormed`. -/
  wellFormed : ∀ outcome ∈ table.outcomes, outcome.WellFormed
  /-- The numbers of `resolved`, `failed` and `skipped` outcomes add up to the total. -/
  counts : table.report.count .resolved + table.report.count .failed +
    table.report.count .skipped = table.report.total
  /-- The report counts as many outcomes as the registry has mappers. -/
  total_eq : table.report.total = registry.size
  /-- The report is `complete` iff nothing has failed and nothing was skipped. -/
  complete_iff : table.report.complete = true ↔
    table.report.count .failed = 0 ∧ table.report.count .skipped = 0

/-- In a pass that ends with a table, every mapper ends in exactly one well-formed state, and the
report accounts for all of them, as `Accounts` says. -/
theorem accounts_of_run (h : (run artifact registry).result = .ok table) :
    Accounts artifact registry table := by
  obtain ⟨htable, hperm⟩ := exists_outcomes_of_run h
  -- the waves of the pass show that its outcomes are well formed
  obtain ⟨waves, -, hsettle⟩ := exists_order_of_run h
  refine {
    recorded := ?_
    isTerminal_iff := ?_
    nodup := nodup_recorded_of_run h
    listed := listed_perm_of_run h
    names_eq := map_name_report h
    wellFormed := wellFormed_of_settleWaves (fun _ hmem => absurd hmem List.not_mem_nil) hsettle
    counts := table.report.count_add_count_add_count
    total_eq := total_report h
    complete_iff := table.report.complete_iff }
  · conv_rhs => rw [htable]
    exact recordAll_eq_ok ((admits_start artifact registry).perm hperm.symm)
  · intro name
    rw [Table.isTerminal_iff]
    exact mem_recorded_iff h

section Example

/-- A mapper `Found` that finds the class with a number, one that finds nothing, and `Behind`, which
depends on it. -/
def threeWays : Registry where
  mappers := [
    .onlyClass "Behind" (.hasInstanceField (.literal "I")) ["Missing"] (by decide),
    .onlyClass "Found" (.hasInstanceField (.literal "I")) [] (by decide),
    .onlyClass "Missing" (.hasInstanceField (.literal "J")) [] (by decide)]
  nodup_names := by decide

/-- The mappers of `threeWays` end in the three different ways, and all is accounted for. -/
theorem accounts_of_run_threeWays :
    ∃ table, (run .numbered threeWays).result = .ok table ∧
      table.report.outcomes.map (·.status) = [.skipped, .resolved, .failed] ∧
      Accounts .numbered threeWays table := by
  have hstatus : (run .numbered threeWays).result.map (·.report.outcomes.map (·.status)) =
      .ok [.skipped, .resolved, .failed] := by
    decide +kernel
  cases hrun : (run .numbered threeWays).result with
  | error fault =>
    rw [hrun] at hstatus
    cases hstatus
  | ok table =>
    rw [hrun] at hstatus
    exact ⟨table, rfl, Except.ok.inj hstatus, accounts_of_run hrun⟩

end Example

end Pass

end Reidentify

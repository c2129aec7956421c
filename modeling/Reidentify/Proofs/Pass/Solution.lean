import Reidentify.Proofs.Pass.Evaluation
import Reidentify.Proofs.Query.Inquiry

/-!
# A pass as the solution of its equations

A registry says of every mapper how it ends, given how all mappers end: a mapper with unbound
dependencies is skipped for them, and any other one ends as it is resolved against the table of
all outcomes. A pass resolves mappers against tables that are still growing. This module shows
that its table solves the equations all the same, and that they have no other solution. What
carries the proof is that a table agrees with every table it has grown from.

## Main definitions

* `Pass.Solves`: a table satisfies the equation of every mapper.

## Main statements

* `Mapper.resolve_of_extends`: a mapper that reads bindings ends in the same way when more is
  bound.
* `Pass.agrees_of_solves`: every solution agrees with all tables on the way of a pass.
* `Pass.run_solves_uniquely`: the table of a pass is the only solution.
-/

namespace Reidentify

namespace Mapper

variable {mapper : Mapper} {artifact : Artifact}

/-- If the tests of its predicate only read bindings, so does `resolve`: a mapper looks into the
table through its scope and its predicate only. -/
theorem readsBindings_resolve (h : ∀ test ∈ mapper.predicate.tests, test.ReadsBindings) :
    ReadsBindings fun table => (mapper.resolve artifact table).result := by
  unfold resolve resolveBy matching
  simp only [Trail.result_andThen, Trail.result_lift]
  -- only the scope and the predicate look at the table
  have hscope : ReadsBindings fun table => mapper.scope.candidates artifact table := by
    cases mapper.scope with
    | allClasses => exact .const _
    | inClass part owner =>
      simp only [Scope.candidates_inClass]
      exact (ReadsBindings.resolve owner).bind fun _ => .const _
    | inMethod owner =>
      simp only [Scope.candidates_inMethod]
      exact (ReadsBindings.resolve owner).bind fun _ => .const _
  refine hscope.bind fun candidates => ReadsBindings.bind ?_ fun kept => .const _
  refine ReadsBindings.keep fun candidate => ?_
  simp only [Trail.result_andThen, Trail.result_emit, Except.ok_bind]
  exact mapper.predicate.readsBindings_evaluate h candidate

/-- A mapper whose tests read bindings only has the same outcome over every table that extends the
one it had it on. -/
theorem resolve_of_extends (h : ∀ test ∈ mapper.predicate.tests, test.ReadsBindings)
    {table table' : Table} (hextends : table.Extends table') {outcome : Outcome}
    (hresolve : (mapper.resolve artifact table).result = .ok outcome) :
    (mapper.resolve artifact table').result = .ok outcome :=
  (readsBindings_resolve h).eq_ok_of_extends hextends hresolve

end Mapper

namespace Table.Agrees

variable {table table' : Table}

/-- If a table agrees with a later one, everything that it binds is bound there, i.e. `Extends`. -/
theorem extends' (h : table.Agrees table') : table.Extends table' := by
  intro name entity hresolve
  obtain ⟨outcome, houtcome, hentity⟩ := resolve_eq_ok_iff.1 hresolve
  have hmem : name ∈ table.recorded := by
    by_contra hmissing
    rw [outcome?_eq_none_iff.2 hmissing] at houtcome
    cases houtcome
  exact resolve_eq_ok_iff.2 ⟨outcome, (h name hmem).trans houtcome, hentity⟩

end Table.Agrees

namespace Pass

variable {artifact : Artifact} {registry : Registry} {table next final : Table}
  {wave : List Mapper} {waves : List (List Mapper)} {mapper : Mapper}

/-- The `table` satisfies the equation of every mapper of the `registry`, each of which refers to
the whole table itself. -/
structure Solves (artifact : Artifact) (registry : Registry) (table : Table) : Prop where
  /-- A mapper with dependencies that are not bound is skipped for exactly these, in sorted order.
  -/
  skipped : ∀ mapper ∈ registry.mappers,
    (∃ name ∈ mapper.dependencies, table.isResolved name = false) →
      table.outcome? mapper.name = some ⟨mapper.name, .skipped
        (Text.sortedNames (mapper.dependencies.filter fun name => !table.isResolved name))⟩
  /-- Any other mapper has the outcome of `resolve` against the table itself. -/
  evaluated : ∀ mapper ∈ registry.mappers,
    (∀ name ∈ mapper.dependencies, table.isResolved name = true) →
      ∃ outcome, (mapper.resolve artifact table).result = .ok outcome ∧
        table.outcome? mapper.name = some outcome

/-- A `mapper` ends in the `table` as its equation says, told by its `blockers`. -/
def Settles (artifact : Artifact) (table : Table) (mapper : Mapper) : Prop :=
  (blockers table mapper ≠ [] ∧ table.outcome? mapper.name = some (skip table mapper)) ∨
    (blockers table mapper = [] ∧ ∃ outcome, (mapper.resolve artifact table).result = .ok outcome ∧
      table.outcome? mapper.name = some outcome)

/-- The `blockers` of a mapper are sorted already, because its dependencies are. -/
theorem sortedNames_blockers (table : Table) (mapper : Mapper) :
    Text.sortedNames (blockers table mapper) = blockers table mapper :=
  Text.sortedNames_of_ascending (mapper.ascending_dependencies.sublist List.filter_sublist)

/-- A table `Solves` the equations iff it `Settles` every mapper of the registry. -/
theorem solves_iff :
    Solves artifact registry table ↔
      ∀ mapper ∈ registry.mappers, Settles artifact table mapper := by
  constructor
  · intro h mapper hmem
    by_cases hblockers : blockers table mapper = []
    · have hbound := (blockers_eq_nil_iff table mapper).1 hblockers
      exact .inr ⟨hblockers, h.evaluated mapper hmem hbound⟩
    · refine .inl ⟨hblockers, ?_⟩
      rw [skip, ← sortedNames_blockers]
      exact h.skipped mapper hmem ((blockers_ne_nil_iff table mapper).1 hblockers)
  · intro h
    refine ⟨fun mapper hmem hunbound => ?_, fun mapper hmem hbound => ?_⟩
    · rcases h mapper hmem with ⟨-, hskip⟩ | ⟨hblockers, -⟩
      · rw [hskip, skip, ← sortedNames_blockers]
        rfl
      · exact absurd hblockers ((blockers_ne_nil_iff table mapper).2 hunbound)
    · rcases h mapper hmem with ⟨hblockers, -⟩ | ⟨-, houtcome⟩
      · exact absurd ((blockers_eq_nil_iff table mapper).2 hbound) hblockers
      · exact houtcome

/-- Skipping the blocked mappers of a wave binds nothing new, so a table that agrees with the one
before extends `afterSkips table wave`. -/
theorem extends_afterSkips (h : table.Agrees final) (wave : List Mapper) :
    (afterSkips table wave).Extends final :=
  fun name entity hresolve => h.extends' name entity (resolve_of_append_skips hresolve)

section Waves

variable (hreads : ∀ mapper ∈ registry.mappers, ∀ test ∈ mapper.predicate.tests, test.ReadsBindings)

include hreads

/-- Every later table `Settles` the mappers of a wave that goes through, i.e. they end as their
equations on that table say. -/
theorem settles_of_settleWave (hready : ReadyFor registry table wave)
    (h : settleWave artifact table wave = .ok next) (hmem : mapper ∈ wave)
    (hbefore : table.Agrees final) (hafter : next.Agrees final) :
    Settles artifact final mapper := by
  obtain ⟨hblockers, hend⟩ := outcome?_of_agrees hready h hmem hbefore hafter
  rw [Settles, hblockers]
  -- a blocked mapper is skipped for the same names; any other one is resolved alike on the larger
  -- table
  rcases hend with ⟨hne, hskip⟩ | ⟨hnil, outcome, hresolve, hend⟩
  · refine .inl ⟨hne, ?_⟩
    rw [hskip, skip, skip, hblockers]
  · have hkept := Mapper.resolve_of_extends (hreads mapper (hready.registered mapper hmem))
      (extends_afterSkips hbefore wave) hresolve
    exact .inr ⟨hnil, outcome, hkept, hend⟩

/-- If a table `final` settles the mappers of a wave and agrees with the table before the wave, it
agrees with the table `next` after it. -/
theorem agrees_of_settles (hready : ReadyFor registry table wave)
    (h : settleWave artifact table wave = .ok next)
    (hsettles : ∀ mapper ∈ wave, Settles artifact final mapper)
    (hbefore : table.Agrees final) : next.Agrees final := by
  intro name hname
  by_cases hold : name ∈ table.recorded
  · obtain ⟨outcomes, -, rfl, -⟩ := exists_of_settleWave h
    rw [hbefore name hold, Table.Agrees.append table _ name hold]
  · -- the outcome of the name was added by the wave, so both tables have it from its equation
    obtain ⟨mapper, hmem, rfl⟩ : ∃ mapper ∈ wave, mapper.name = name := by
      obtain ⟨outcomes, -, rfl, hperm⟩ := exists_of_settleWave h
      rw [Table.recorded_append, List.mem_append, hperm.mem_iff] at hname
      exact List.mem_map.1 (hname.resolve_left hold)
    have hblockers := hbefore.blockers_eq (hready.recorded mapper hmem)
    rcases outcome?_of_settleWave hready.admits h hmem with
      ⟨hne, hskip⟩ | ⟨hnil, outcome, hresolve, hend⟩
    · rcases hsettles mapper hmem with ⟨-, hsame⟩ | ⟨hnil, -⟩
      · rw [hskip, hsame, skip, skip, hblockers]
      · exact absurd (hblockers.symm.trans hnil) hne
    · rcases hsettles mapper hmem with ⟨hne, -⟩ | ⟨-, other, hother, hsame⟩
      · exact absurd (hblockers.trans hnil) hne
      · have hkept := Mapper.resolve_of_extends (hreads mapper (hready.registered mapper hmem))
          (extends_afterSkips hbefore wave) hresolve
        rw [hkept] at hother
        cases hother
        rw [hend, hsame]

/-- A table that `Solves` the equations agrees with all tables on the way of a pass. -/
theorem agrees_of_solves (horder : IsOrder registry waves)
    (hsolves : Solves artifact registry final) {before after : List (List Mapper)}
    (hwaves : waves = before ++ after)
    (hbefore : settleWaves artifact (start artifact registry) before = .ok table) :
    table.Agrees final := by
  -- agreement with the solution is an invariant of the waves
  refine horder.invariant (P := fun table => table.Agrees final) ?_ ?_ hwaves hbefore
  · exact fun _ hname => absurd hname List.not_mem_nil
  · intro table wave next hagrees hready hnext
    refine agrees_of_settles hreads hready hnext (fun mapper hmem => ?_) hagrees
    exact solves_iff.1 hsolves mapper (hready.registered mapper hmem)

/-- The table after all waves of an order `Solves` the equations. -/
theorem solves_of_settleWaves (horder : IsOrder registry waves)
    (h : settleWaves artifact (start artifact registry) waves = .ok final) :
    Solves artifact registry final := by
  rw [solves_iff]
  intro mapper hmem
  obtain ⟨before, wave, after, earlier, next, hwaves, hmapper, hbefore, hnext, hearlier, hlater⟩ :=
    exists_wave_of_mem horder h hmem
  exact settles_of_settleWave hreads (horder.readyFor hwaves hbefore) hnext hmapper hearlier hlater

end Waves

/-- The table of a pass satisfies the equations of all mappers, evaluated against that table itself
(`Solves`), and any `other` table that satisfies them has the same outcomes for all registered
names. -/
theorem run_solves_uniquely
    (hreads : ∀ mapper ∈ registry.mappers, ∀ test ∈ mapper.predicate.tests, test.ReadsBindings)
    (h : (run artifact registry).result = .ok table) :
    Solves artifact registry table ∧
      ∀ other, Solves artifact registry other →
        ∀ name ∈ registry.names, other.outcome? name = table.outcome? name := by
  obtain ⟨waves, horder, hsettle⟩ := exists_order_of_run h
  refine ⟨solves_of_settleWaves hreads horder hsettle, fun other hother name hname => ?_⟩
  have hagrees := agrees_of_solves hreads horder hother (List.append_nil waves).symm hsettle
  apply hagrees
  obtain ⟨outcomes, rfl, hperm⟩ := exists_of_settleWaves hsettle
  rw [Table.recorded_append, List.mem_append, hperm.mem_iff]
  exact .inr ((horder.perm.map (·.name)).mem_iff.2 hname)

section Example

/-- The class `b` with a number, and its subclass `a` without fields. -/
def inherited : Artifact where
  classes := [⟨"a", .str "b", [], 0, [], []⟩, ⟨"b", .str "", [], 0, [⟨"b", "f", "I", 0⟩], []⟩]
  revision := ""

/-- The predicate of the entity that the mapper called `name` is bound to; it reads the table
without a dependency. -/
def sameAs (name : String) : Predicate :=
  .test ("same as " ++ name) false fun entity table =>
    table.resolve name >>= fun other => .ok (decide (other = entity))

/-- The mapper `Again`, which asks for the class with a number without depending on its mapper
`Base`, then `Base`, a mapper that is skipped, one that finds nothing, and the subclass. -/
def asking : Registry where
  mappers := [
    .onlyClass "Again" (sameAs "Base") ["Sub"] (by decide),
    .onlyClass "Base" (.hasInstanceField (.literal "I")) [] (by decide),
    .onlyClass "Late" (sameAs "Base") ["Base", "Lost"] (by decide),
    .onlyClass "Lost" (.hasInstanceField (.literal "J")) [] (by decide),
    .onlyClass "Sub" (.extendsType (.mapped "Base" 0)) ["Base"] (by decide)]
  nodup_names := by decide

/-- The pass over the five mappers of `asking` is the only solution of their equations. -/
theorem run_solves_uniquely_asking :
    (∀ mapper ∈ asking.mappers, ∀ test ∈ mapper.predicate.tests, test.ReadsBindings) ∧
      ∃ table, (run inherited asking).result = .ok table ∧
        table.report.outcomes.map (·.status) =
          [.resolved, .resolved, .skipped, .failed, .resolved] ∧
        Solves inherited asking table ∧ ∀ other, Solves inherited asking other →
          ∀ name ∈ asking.names, other.outcome? name = table.outcome? name := by
  have hreads : ∀ mapper ∈ asking.mappers, ∀ test ∈ mapper.predicate.tests,
      test.ReadsBindings := by
    have hsame (name : String) : (sameAs name).ReadsBindings := fun entity =>
      (ReadsBindings.resolve name).bind fun _ => .const _
    intro mapper hmapper test htest
    simp only [asking, List.mem_cons, List.not_mem_nil, or_false] at hmapper
    rcases hmapper with rfl | rfl | rfl | rfl | rfl <;> obtain rfl := List.mem_singleton.1 htest
    · exact hsame "Base"
    · trivial
    · exact hsame "Base"
    · trivial
    · trivial
  have hstatus : (run inherited asking).result.map (·.report.outcomes.map (·.status)) =
      .ok [.resolved, .resolved, .skipped, .failed, .resolved] := by
    decide +kernel
  refine ⟨hreads, ?_⟩
  cases hrun : (run inherited asking).result with
  | error fault =>
    rw [hrun] at hstatus
    cases hstatus
  | ok table =>
    rw [hrun] at hstatus
    exact ⟨table, rfl, Except.ok.inj hstatus, run_solves_uniquely hreads hrun⟩

end Example

end Pass

end Reidentify

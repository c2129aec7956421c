import Reidentify.Proofs.Mapper.Part
import Reidentify.Proofs.Pass.Outcomes
import Reidentify.Proofs.Pass.Reordering
import Reidentify.Proofs.Schedule.Restriction

/-!
# Passes over parts of a registry

What is registered outside a self-contained part of a registry has no effect on the part. A pass
over the part alone ends with the same outcomes, and so does any other pass with the same part, as
long as the passes end with tables at all.

The waves of two such passes differ, and so do their tables. But the waves of the part are the parts
of the waves, and the tables on the way are the parts of the tables, so a mapper of the part finds
the same outcomes of everything that it looks at.

## Main definitions

* `Table.restrict`: the part of a table with some names.
* `Table.AgreesOn`: two tables have the same outcomes of some names.

## Main statements

* `Pass.IsPlan.restrict`: the plan of a part is the part of the plan.
* `Pass.settleWaves_restrict`: the tables of a part are the parts of the tables.
* `Pass.result_run_restrict`: a pass over a part ends with the part of the table.
* `Pass.agreesOn_of_selfContained`: what is outside a part has no effect on it.
-/

namespace Reidentify

variable {names : List String}

namespace Table

variable {table : Table} {name : String}

/-- The part of a `table` with some `names`: their order, their outcomes, and the same revision. -/
def restrict (table : Table) (names : List String) : Table where
  order := table.order.filter names.contains
  outcomes := table.outcomes.filter fun outcome => names.contains outcome.name
  revision := table.revision

/-- The part of a table with some `names` has the same outcome of each of these names. -/
theorem outcome?_restrict (h : name ∈ names) :
    (table.restrict names).outcome? name = table.outcome? name := by
  rw [outcome?, outcome?, restrict, List.find?_filter]
  congr 1
  funext outcome
  -- an outcome of the name is in the part
  have hpart : (outcome.name == name) = true → names.contains outcome.name = true := by
    intro hname
    rw [beq_iff_eq.1 hname, List.contains_iff_mem]
    exact h
  simp only [Bool.decide_eq_true, and_iff_right_of_imp hpart]

/-- The part of a table with more `outcomes` is the part of the table, with the part of these
outcomes. -/
theorem restrict_append (table : Table) (outcomes : List Outcome) (names : List String) :
    (table.append outcomes).restrict names =
      (table.restrict names).append
        (outcomes.filter fun outcome => names.contains outcome.name) := by
  rw [restrict, append_outcomes, List.filter_append]
  rfl

/-- The tables `table` and `table'` have the same outcomes of some `names`, one of each name. -/
def AgreesOn (names : List String) (table table' : Table) : Prop :=
  ∀ name ∈ names, ∃ outcome, table.outcome? name = some outcome ∧
    table'.outcome? name = some outcome

end Table

/-- A `test` that looks at the outcomes of some names only (`LooksWithin`) does not look at the
order of a table. -/
theorem Predicate.LooksWithin.ignoresOrder {test : Predicate} (h : test.LooksWithin names) :
    test.IgnoresOrder := by
  cases test with
  | test description probe check =>
    exact fun entity table order _ =>
      h entity table (table.reorder order) fun name _ => table.outcome?_reorder order name
  | _ => trivial

namespace Pass

variable {artifact : Artifact} {registry registry' : Registry} {table table' next final : Table}
  {wave mappers : List Mapper} {waves : List (List Mapper)} {mapper : Mapper}
  {outcomes : List Outcome}

section Plan

/-- The schedule of the `mappers` of a part has the part of their tasks. -/
theorem ofMappers_among (names : List String) (mappers : List Mapper) :
    Schedule.ofMappers (Mapper.among names mappers) =
      ⟨Schedule.among names (Schedule.ofMappers mappers).tasks⟩ := by
  rw [Schedule.ofMappers, Schedule.ofMappers, Mapper.among, Schedule.among, List.filter_map]
  rfl

/-- The plan of a self-contained part is the part of the plan `waves`, up to `count` empty waves at
the end. -/
theorem IsPlan.restrict (h : registry.SelfContained names) (hplan : IsPlan registry waves) :
    ∃ first count, IsPlan (registry.restrict names) first ∧
      waves.map (Mapper.among names) = first ++ List.replicate count [] := by
  -- a dependency of a mapper of the part is one of the names, so the waves can be cut
  have hwithin : Schedule.DependsWithin names (Schedule.ofMappers registry.mappers).tasks := by
    intro task htask hname
    obtain ⟨mapper, hmapper, rfl⟩ := List.mem_map.1 htask
    exact (h.looksWithin mapper hmapper hname).dependencies
  have hclosed := closed_ofMappers hplan.valid
  obtain ⟨part, count, hpart, hnames⟩ :=
    Schedule.waves_among (nodup_tasks registry) hclosed hwithin hplan.names_eq
  -- cut the waves of mappers where the waves of names are cut
  have hmap : (waves.map (Mapper.among names)).map (·.map (·.name)) =
      part ++ List.replicate count [] := by
    rw [← hnames, List.map_map, List.map_map]
    exact List.map_congr_left fun wave _ => Mapper.map_name_among names wave
  obtain ⟨first, rest, hcut, rfl, hrest⟩ := List.map_eq_append_iff.1 hmap
  refine ⟨first, count, ⟨Registry.validate_restrict h hplan.valid, ?_, ?_⟩, ?_⟩
  · -- a mapper of these waves is a registered mapper of one of the names
    intro mapper hmem
    obtain ⟨wave, hwave, hmapper⟩ := List.mem_flatten.1 hmem
    have hwaves : wave ∈ waves.map (Mapper.among names) := by
      rw [hcut]
      exact List.mem_append_left _ hwave
    obtain ⟨whole, hwhole, rfl⟩ := List.mem_map.1 hwaves
    obtain ⟨hmapper, hname⟩ := Mapper.mem_among.1 hmapper
    exact Mapper.mem_among.2
      ⟨hplan.registered mapper (List.mem_flatten_of_mem hwhole hmapper), hname⟩
  · rw [Registry.mappers_restrict, ofMappers_among]
    exact hpart
  · rw [hcut, List.append_cancel_left_eq, List.eq_replicate_iff]
    obtain ⟨hlength, hempty⟩ := List.eq_replicate_iff.1 hrest
    rw [List.length_map] at hlength
    exact ⟨hlength, fun wave hwave => List.map_eq_nil_iff.1 (hempty _ (List.mem_map_of_mem hwave))⟩

end Plan

section Waves

/-- A mapper that `LooksWithin` a part of a table has the same `blockers` there. -/
theorem blockers_restrict (h : mapper.LooksWithin names) :
    blockers (table.restrict names) mapper = blockers table mapper := by
  refine List.filter_congr fun name hname => ?_
  rw [Table.isResolved, Table.isResolved, Table.outcome?_restrict (h.dependencies name hname)]

/-- A mapper that `LooksWithin` a part of a table ends in the same way there. -/
theorem resolve_restrict (h : mapper.LooksWithin names) :
    (mapper.resolve artifact (table.restrict names)).result =
      (mapper.resolve artifact table).result := by
  refine Mapper.resolve_congr artifact (fun owner howner => ?_) fun test htest => ?_
  · have hname : owner ∈ names := h.dependencies owner (mapper.owner_mem owner howner)
    rw [Table.resolve, Table.resolve, Table.outcome?_restrict hname]
  · exact (h.tests test htest).check_eq fun name hname => Table.outcome?_restrict hname

section Wave

variable (h : ∀ mapper ∈ wave, mapper.name ∈ names → mapper.LooksWithin names)

include h

/-- In a part of a `wave` the `blocked` mappers are the part of the blocked ones. -/
theorem blocked_among :
    blocked (table.restrict names) (Mapper.among names wave) =
      Mapper.among names (blocked table wave) :=
  Mapper.filter_among fun mapper hmem hname => by rw [blockers_restrict (h mapper hmem hname)]

/-- In a part of a `wave` the `runnable` mappers are the part of the runnable ones. -/
theorem runnable_among :
    runnable (table.restrict names) (Mapper.among names wave) =
      Mapper.among names (runnable table wave) :=
  Mapper.filter_among fun mapper hmem hname => by rw [blockers_restrict (h mapper hmem hname)]

/-- The table with the skips of a part of a `wave` is the part of the table with its skips. -/
theorem afterSkips_among :
    afterSkips (table.restrict names) (Mapper.among names wave) =
      (afterSkips table wave).restrict names := by
  rw [afterSkips, afterSkips, blocked_among h, Table.restrict_append, List.filter_map]
  refine congrArg _ (List.map_congr_left fun mapper hmem => ?_)
  obtain ⟨hblocked, hname⟩ := Mapper.mem_among.1 hmem
  rw [skip, skip, blockers_restrict (h mapper (List.mem_of_mem_filter hblocked) hname)]

end Wave

/-- On a part of a table the `mappers` of the part have the same `outcomes` as on the table. -/
theorem resolveAll_among
    (h : ∀ mapper ∈ mappers, mapper.name ∈ names → mapper.LooksWithin names)
    (houtcomes : resolveAll artifact table mappers = .ok outcomes) :
    resolveAll artifact (table.restrict names) (Mapper.among names mappers) =
      .ok (outcomes.filter fun outcome => names.contains outcome.name) := by
  rw [resolveAll_eq_ok_iff] at houtcomes ⊢
  -- by induction on the mappers with their outcomes, in or outside the part
  induction houtcomes with
  | nil => exact .nil
  | @cons mapper outcome rest others hfirst hrest ih =>
    obtain ⟨hmapper, hmappers⟩ := List.forall_mem_cons.1 h
    have hsame : names.contains outcome.name = names.contains mapper.name := by
      rw [Mapper.name_of_resolve hfirst]
    rw [Mapper.among, List.filter_cons, List.filter_cons, hsame]
    by_cases hname : mapper.name ∈ names
    · rw [if_pos (List.contains_iff_mem.2 hname), if_pos (List.contains_iff_mem.2 hname)]
      refine .cons ?_ (ih hmappers)
      rw [resolve_restrict (hmapper hname), hfirst]
    · -- a mapper outside the part leaves neither itself nor an outcome there
      rw [if_neg (mt List.contains_iff_mem.1 hname), if_neg (mt List.contains_iff_mem.1 hname)]
      exact ih hmappers

/-- If `settleWave` leads to the table `next`, it leads over a part of the wave from the part of the
table to the part of `next`. -/
theorem settleWave_restrict
    (h : ∀ mapper ∈ wave, mapper.name ∈ names → mapper.LooksWithin names)
    (hwave : settleWave artifact table wave = .ok next) :
    settleWave artifact (table.restrict names) (Mapper.among names wave) =
      .ok (next.restrict names) := by
  obtain ⟨outcomes, houtcomes, hnext⟩ := Except.bind_eq_ok_iff.1 hwave
  cases hnext
  have hrunnable : ∀ mapper ∈ runnable table wave, mapper.name ∈ names →
      mapper.LooksWithin names :=
    fun mapper hmem => h mapper (List.mem_of_mem_filter hmem)
  rw [settleWave, afterSkips_among h, runnable_among h, resolveAll_among hrunnable houtcomes,
    Except.ok_bind, Table.restrict_append]

/-- If `settleWaves` leads to the table `final`, it leads over the parts of the waves from the part
of the table to the part of `final`. -/
theorem settleWaves_restrict
    (h : ∀ mapper ∈ waves.flatten, mapper.name ∈ names → mapper.LooksWithin names)
    (hwaves : settleWaves artifact table waves = .ok final) :
    settleWaves artifact (table.restrict names) (waves.map (Mapper.among names)) =
      .ok (final.restrict names) := by
  -- by induction on the waves: from part to part as the whole waves lead from table to table
  induction waves generalizing table with
  | nil =>
    cases hwaves
    rfl
  | cons wave rest ih =>
    obtain ⟨next, hnext, hrest⟩ := Except.bind_eq_ok_iff.1 hwaves
    rw [List.flatten_cons] at h
    rw [List.map_cons, settleWaves,
      settleWave_restrict (fun mapper hmem => h mapper (List.mem_append_left _ hmem)) hnext,
      Except.ok_bind]
    exact ih (fun mapper hmem => h mapper (List.mem_append_right _ hmem)) hrest

/-- Any `count` of empty waves changes nothing in a `table`. -/
theorem settleWaves_replicate_nil (artifact : Artifact) (table : Table) (count : Nat) :
    settleWaves artifact table (List.replicate count []) = .ok table := by
  have hempty : settleWave artifact table [] = .ok table := by
    change Except.ok ((table.append []).append []) = .ok table
    rw [Table.append_nil, Table.append_nil]
  induction count with
  | zero => rfl
  | succ count ih => rw [List.replicate_succ, settleWaves, hempty, Except.ok_bind, ih]

end Waves

/-- A pass over a `SelfContained` part of a registry ends with the part of the table. -/
theorem result_run_restrict (h : registry.SelfContained names)
    (hrun : (run artifact registry).result = .ok table) :
    (run artifact (registry.restrict names)).result = .ok (table.restrict names) := by
  obtain ⟨waves, hplan, hsettle⟩ := exists_plan_of_run hrun
  obtain ⟨first, count, hfirst, hwaves⟩ := hplan.restrict h
  have hstart : start artifact (registry.restrict names) =
      (start artifact registry).restrict names := by
    rw [start, Registry.names_restrict]
    rfl
  have hpart := settleWaves_restrict
    (fun mapper hmem => h.looksWithin mapper (hplan.registered mapper hmem)) hsettle
  -- behind the plan of the part there are empty waves only
  rw [hwaves, settleWaves_append] at hpart
  obtain ⟨last, hlast, hrest⟩ := Except.bind_eq_ok_iff.1 hpart
  rw [settleWaves_replicate_nil] at hrest
  cases hrest
  rw [hfirst.result_run, hstart, hlast]

/-- What is outside a `SelfContained` part of a registry has no effect on it. If a pass ends with a
table, a pass over the part alone does too, with the same outcomes (`AgreesOn`). So does any other
pass with the same part that ends with a table at all. -/
theorem agreesOn_of_selfContained (h : registry.SelfContained names)
    (hrun : (run artifact registry).result = .ok table) :
    (∃ part, (run artifact (registry.restrict names)).result = .ok part ∧
      table.AgreesOn names part) ∧
    ∀ registry' table', (∀ name ∈ names, registry'.find? name = registry.find? name) →
      (run artifact registry').result = .ok table' → table.AgreesOn names table' := by
  have hpart := result_run_restrict h hrun
  have hsame {table' : Table}
      (houtcome : ∀ name ∈ names, table'.outcome? name = table.outcome? name) :
      table.AgreesOn names table' := by
    intro name hname
    have hrecorded := (mem_recorded_iff hrun).2 (h.registered name hname)
    obtain ⟨outcome, hsome⟩ := Table.mem_recorded_iff_exists.1 hrecorded
    exact ⟨outcome, hsome, (houtcome name hname).trans hsome⟩
  refine ⟨⟨_, hpart, hsame fun name hname => Table.outcome?_restrict hname⟩, ?_⟩
  intro registry' table' hfind hrun'
  have hpart' := result_run_restrict (h.of_find?_eq hfind) hrun'
  -- the two parts have the same mappers, and their tests do not look at the order
  have hignores : ∀ mapper ∈ (registry.restrict names).mappers,
      ∀ test ∈ mapper.predicate.tests, test.IgnoresOrder := by
    intro mapper hmem test htest
    obtain ⟨hmapper, hname⟩ := Mapper.mem_among.1 hmem
    exact ((h.looksWithin mapper hmapper hname).tests test htest).ignoresOrder
  obtain ⟨waves, hplan, -⟩ := exists_plan_of_run hpart
  have hperm := hplan.result_run_of_perm artifact (Registry.restrict_perm hfind) hignores
  rw [hpart, hpart', Except.ok_bind, Except.ok.injEq] at hperm
  refine hsame fun name hname => ?_
  rw [← Table.outcome?_restrict hname, hperm, Table.outcome?_reorder, Table.outcome?_restrict hname]

section Example

/-- A class `Holder` with a number, which takes its type from `Held` without depending on it
directly, the mapper `Middle` between them, and `Spare`, which they have nothing to do with. -/
def holding : Registry where
  mappers := [
    .onlyClass "Holder" (.hasInstanceField (.mapped "Held" 0)) ["Middle"] (by decide),
    .onlyClass "Middle" (.hasInstanceField (.literal "I")) ["Held"] (by decide),
    .onlyClass "Held" (.hasInstanceField (.literal "I")) [] (by decide),
    .onlyClass "Spare" (.hasInstanceField (.literal "J")) ["Held"] (by decide)]
  nodup_names := by decide

/-- The mappers of `holding` in another order, with another mapper in place of `Spare`, and one
behind all of them. -/
def refitted : Registry where
  mappers := [
    .onlyClass "Last" (.hasInstanceField (.literal "I")) ["Middle", "Spare"] (by decide),
    .onlyClass "Spare" (.hasInstanceField (.literal "I")) [] (by decide),
    .onlyClass "Held" (.hasInstanceField (.literal "I")) [] (by decide),
    .onlyClass "Middle" (.hasInstanceField (.literal "I")) ["Held"] (by decide),
    .onlyClass "Holder" (.hasInstanceField (.mapped "Held" 0)) ["Middle"] (by decide)]
  nodup_names := by decide

/-- The three mappers that belong together end in the same way in `holding`, in `refitted`, and
alone. -/
theorem agreesOn_of_selfContained_holding :
    holding.SelfContained ["Holder", "Middle", "Held"] ∧
      (∀ name ∈ ["Holder", "Middle", "Held"], refitted.find? name = holding.find? name) ∧
      ∃ table table', (run .numbered holding).result = .ok table ∧
        (run .numbered refitted).result = .ok table' ∧
        table.report.outcomes.map (·.status) = [.failed, .resolved, .resolved, .failed] ∧
        table'.report.outcomes.map (·.status) =
          [.resolved, .resolved, .resolved, .resolved, .failed] ∧
        (∃ part, (run .numbered (holding.restrict ["Holder", "Middle", "Held"])).result =
            .ok part ∧ table.AgreesOn ["Holder", "Middle", "Held"] part) ∧
        table.AgreesOn ["Holder", "Middle", "Held"] table' := by
  have hcontained : holding.SelfContained ["Holder", "Middle", "Held"] := by
    refine ⟨by decide, fun mapper hmapper hname => ?_⟩
    simp only [holding, List.mem_cons, List.not_mem_nil, or_false] at hmapper
    rcases hmapper with rfl | rfl | rfl | rfl
    case inr.inr.inr => exact absurd hname (by decide)
    all_goals
      refine ⟨by decide, fun test htest => ?_⟩
      obtain rfl := List.mem_singleton.1 htest
      exact (Predicate.looksWithin_iff rfl).2 (by decide)
  have hfind : ∀ name ∈ ["Holder", "Middle", "Held"],
      refitted.find? name = holding.find? name := by
    intro name hname
    simp only [List.mem_cons, List.not_mem_nil, or_false] at hname
    rcases hname with rfl | rfl | rfl <;> rfl
  have hstatus : (run .numbered holding).result.map (·.report.outcomes.map (·.status)) =
      .ok [.failed, .resolved, .resolved, .failed] := by
    decide +kernel
  have hstatus' : (run .numbered refitted).result.map (·.report.outcomes.map (·.status)) =
      .ok [.resolved, .resolved, .resolved, .resolved, .failed] := by
    decide +kernel
  cases hrun : (run .numbered holding).result with
  | error fault =>
    rw [hrun] at hstatus
    cases hstatus
  | ok table =>
    cases hrun' : (run .numbered refitted).result with
    | error fault =>
      rw [hrun'] at hstatus'
      cases hstatus'
    | ok table' =>
      rw [hrun] at hstatus
      rw [hrun'] at hstatus'
      obtain ⟨hpart, helsewhere⟩ := agreesOn_of_selfContained hcontained hrun
      exact ⟨hcontained, hfind, table, table', rfl, rfl, Except.ok.inj hstatus,
        Except.ok.inj hstatus', hpart, helsewhere refitted table' hfind hrun'⟩

end Example

end Pass

end Reidentify

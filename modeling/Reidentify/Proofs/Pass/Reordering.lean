import Reidentify.Proofs.Pass.Evaluation
import Reidentify.Proofs.Pass.Outcomes
import Reidentify.Proofs.Query.Congruence
import Reidentify.Proofs.Schedule.Permutation

/-!
# Mappers in another order

The order in which mappers are registered is the order in which a pass lists its outcomes, and it
has no other effect. The waves of a pass do not depend on it, so two passes over the same mappers
evaluate them on the same tables, except for the order in which these list their names. The same
holds for the faults: a registry is invalid for the same reasons in any order, and has the same
circles.

## Main definitions

* `Table.reorder`: a table that lists its names in another order.
* `Predicate.IgnoresOrder`: a test does not look at that order.
* `RegistryFault.Reordered`: the same complaints about a registry in another order.
* `Pass.EndsAlike`: two passes end in the same way, up to the order of registration.

## Main statements

* `Registry.validate_of_perm`: validation finds the same in any order.
* `Pass.IsPlan.of_perm`: registries with the same mappers have the same plan.
* `Pass.settleWaves_reorder`: the order has no effect on the waves of a pass.
* `Pass.endsAlike_of_perm`: passes over the same mappers end in the same way.
-/

namespace Reidentify

/-- The `table` with its names listed in another `order`, and with the same outcomes. -/
def Table.reorder (table : Table) (order : List String) : Table :=
  { table with order }

@[simp] theorem Table.outcome?_reorder (table : Table) (order : List String) (name : String) :
    (table.reorder order).outcome? name = table.outcome? name := rfl

@[simp] theorem Table.resolve_reorder (table : Table) (order : List String) (name : String) :
    (table.reorder order).resolve name = table.resolve name := rfl

/-- A test may look at all outcomes of a table, but not at the `order` in which the table lists
their names. Only a test of one's own could do that. -/
def Predicate.IgnoresOrder : Predicate → Prop
  | .test _ _ check => ∀ entity (table : Table) order, order.Perm table.order →
    check entity (table.reorder order) = check entity table
  | _ => True

/-- A `test` that `IgnoresOrder` has the same answer for a table in any order. -/
theorem Predicate.check_reorder {test : Predicate} (h : test.IgnoresOrder) {table : Table}
    {order : List String} (horder : order.Perm table.order) (entity : Entity) :
    test.check entity (table.reorder order) = test.check entity table := by
  cases hlibrary : test.isLibrary with
  | true => exact check_congr hlibrary (fun name _ => table.resolve_reorder order name) entity
  | false =>
    cases test with
    | test description probe check => exact h entity table order horder
    | _ => cases hlibrary

namespace Registry

variable {registry registry' : Registry}

/-- Registries with permuted mappers have permuted `names`. -/
theorem names_perm (h : registry.mappers.Perm registry'.mappers) :
    registry.names.Perm registry'.names :=
  h.map _

/-- Registries with permuted mappers find the same mapper by a `name`, because names are unique. -/
theorem find?_eq_of_perm (h : registry.mappers.Perm registry'.mappers) (name : String) :
    registry.find? name = registry'.find? name :=
  Text.find?_eq_of_perm registry.nodup_names h name

/-- Registries with permuted mappers have the same `dangling` dependencies, in another order. -/
theorem dangling_perm (h : registry.mappers.Perm registry'.mappers) :
    registry.dangling.Perm registry'.dangling := by
  have hcontains (name : String) : registry.contains name = registry'.contains name := by
    rw [Bool.eq_iff_iff, contains, contains, List.contains_iff_mem, List.contains_iff_mem,
      (names_perm h).mem_iff]
  unfold dangling
  simp only [hcontains]
  exact h.flatMap_right _

/-- Registries with permuted mappers have the same `mismatched` owners, in another order. -/
theorem mismatched_perm (h : registry.mappers.Perm registry'.mappers) :
    registry.mismatched.Perm registry'.mismatched := by
  unfold mismatched
  simp only [find?_eq_of_perm h]
  exact h.filterMap _

end Registry

/-- The same complaints about a registry, in which `dangling` dependencies or mismatched owners are
listed in another order. -/
inductive RegistryFault.Reordered : RegistryFault → RegistryFault → Prop
  /-- The same `dangling` dependencies, permuted. -/
  | dangling {pairs pairs'} (h : pairs.Perm pairs') : Reordered (.dangling pairs) (.dangling pairs')
  /-- The same `mismatched` owners, permuted. -/
  | mismatched {owners owners'} (h : owners.Perm owners') :
      Reordered (.mismatched owners) (.mismatched owners')

/-- Of two registries with permuted mappers `validate` accepts both, or has `Reordered` complaints
about both. -/
theorem Registry.validate_of_perm {registry registry' : Registry}
    (h : registry.mappers.Perm registry'.mappers) :
    (registry.validate = .ok () ∧ registry'.validate = .ok ()) ∨
      ∃ cause cause', registry.validate = .error (.registry cause) ∧
        registry'.validate = .error (.registry cause') ∧ cause.Reordered cause' := by
  have hdangling := dangling_perm h
  have hmismatched := mismatched_perm h
  unfold validate
  -- in the order of the checks: a list of complaints is empty on one side iff it is on the other
  cases hpairs : registry.dangling with
  | cons pair rest =>
    cases hpairs' : registry'.dangling with
    | nil =>
      rw [hpairs, hpairs'] at hdangling
      cases hdangling.eq_nil
    | cons pair' rest' =>
      rw [hpairs, hpairs'] at hdangling
      exact .inr ⟨_, _, rfl, rfl, .dangling hdangling⟩
  | nil =>
    rw [hpairs] at hdangling
    rw [hdangling.symm.eq_nil]
    cases howners : registry.mismatched with
    | cons owner rest =>
      cases howners' : registry'.mismatched with
      | nil =>
        rw [howners, howners'] at hmismatched
        cases hmismatched.eq_nil
      | cons owner' rest' =>
        rw [howners, howners'] at hmismatched
        exact .inr ⟨_, _, rfl, rfl, .mismatched hmismatched⟩
    | nil =>
      rw [howners] at hmismatched
      rw [hmismatched.symm.eq_nil]
      exact .inl ⟨rfl, rfl⟩

namespace Pass

variable {artifact : Artifact} {registry registry' : Registry} {table table' : Table}
  {wave : List Mapper} {waves : List (List Mapper)} {order : List String}

section Schedule

variable (h : registry.mappers.Perm registry'.mappers)

include h

/-- Registries with permuted mappers have permuted `tasks` in their schedules. -/
theorem tasks_perm :
    (Schedule.ofMappers registry.mappers).tasks.Perm (Schedule.ofMappers registry'.mappers).tasks :=
  h.map _

/-- Registries with permuted mappers have the same `cycleMembers`, which are sorted names. -/
theorem cycleMembers_eq :
    (Schedule.ofMappers registry.mappers).cycleMembers =
      (Schedule.ofMappers registry'.mappers).cycleMembers :=
  Schedule.cycleMembers_eq_of_perm (nodup_tasks registry) (tasks_perm h)

/-- A plan of a registry (`IsPlan`) is a plan of every registry with permuted mappers. -/
theorem IsPlan.of_perm (hplan : IsPlan registry waves) : IsPlan registry' waves where
  valid := by
    rcases Registry.validate_of_perm h with ⟨-, hvalid⟩ | ⟨_, _, hinvalid, -⟩
    · exact hvalid
    · rw [hplan.valid] at hinvalid
      cases hinvalid
  registered mapper hmem := h.mem_iff.1 (hplan.registered mapper hmem)
  names_eq := by
    rw [← hplan.names_eq]
    exact (Schedule.waves_eq_of_perm (nodup_tasks registry) (tasks_perm h)).symm

end Schedule

section Waves

/-- A mapper whose tests are such that `IgnoresOrder` ends in the same way over a table in any
`order`. -/
theorem resolve_reorder {mapper : Mapper}
    (h : ∀ test ∈ mapper.predicate.tests, test.IgnoresOrder) (horder : order.Perm table.order) :
    (mapper.resolve artifact (table.reorder order)).result =
      (mapper.resolve artifact table).result :=
  Mapper.resolve_congr artifact (fun _ _ => rfl) fun test htest =>
    Predicate.check_reorder (h test htest) horder

/-- The `order` in which a table lists its names has no effect on `settleWave`, except that the next
table has it, too. -/
theorem settleWave_reorder
    (h : ∀ mapper ∈ wave, ∀ test ∈ mapper.predicate.tests, test.IgnoresOrder)
    (horder : order.Perm table.order) :
    settleWave artifact (table.reorder order) wave =
      settleWave artifact table wave >>= fun next => .ok (next.reorder order) := by
  -- the same mappers are skipped and evaluated
  have hafter : afterSkips (table.reorder order) wave = (afterSkips table wave).reorder order := rfl
  have hrunnable : runnable (table.reorder order) wave = runnable table wave := rfl
  have hresolve :
      resolveAll artifact ((afterSkips table wave).reorder order) (runnable table wave) =
        resolveAll artifact (afterSkips table wave) (runnable table wave) := by
    refine Trail.result_forEach_congr fun mapper hmem => ?_
    rw [result_evaluate, result_evaluate]
    exact resolve_reorder (h mapper (List.mem_of_mem_filter hmem)) horder
  rw [settleWave, settleWave, hafter, hrunnable, hresolve, Except.bind_assoc]
  rfl

/-- The `order` in which a table lists its names has no effect on `settleWaves`, except that the
last table has it, too. -/
theorem settleWaves_reorder
    (h : ∀ mapper ∈ waves.flatten, ∀ test ∈ mapper.predicate.tests, test.IgnoresOrder)
    (horder : order.Perm table.order) :
    settleWaves artifact (table.reorder order) waves =
      settleWaves artifact table waves >>= fun final => .ok (final.reorder order) := by
  -- by induction on the waves, over any table, since the order is kept from wave to wave
  induction waves generalizing table with
  | nil => rfl
  | cons wave rest ih =>
    rw [List.flatten_cons] at h
    rw [settleWaves, settleWaves,
      settleWave_reorder (fun mapper hmem => h mapper (List.mem_append_left _ hmem)) horder]
    cases hnext : settleWave artifact table wave with
    | error fault => rfl
    | ok next =>
      -- a wave does not change the order
      obtain ⟨outcomes, -, rfl, -⟩ := exists_of_settleWave hnext
      simp only [Except.ok_bind]
      exact ih (fun mapper hmem => h mapper (List.mem_append_right _ hmem)) horder

end Waves

/-- Two passes over one `artifact` end in the same way, up to the order in which their mappers are
registered. -/
inductive EndsAlike (artifact : Artifact) (registry registry' : Registry) : Prop
  /-- Both end with a table. The tables have the same outcomes, and the reports list them in the
  order of registration of each. -/
  | table {table table' : Table} (hrun : (run artifact registry).result = .ok table)
      (hrun' : (run artifact registry').result = .ok table')
      (houtcome : ∀ name, table'.outcome? name = table.outcome? name)
      (hperm : table.report.outcomes.Perm table'.report.outcomes)
      (hnames : table.report.outcomes.map (·.name) = registry.names)
      (hnames' : table'.report.outcomes.map (·.name) = registry'.names)
  /-- Both are refused by `validate`, for `Reordered` reasons. -/
  | invalid {cause cause' : RegistryFault} (hinvalid : registry.validate = .error (.registry cause))
      (hinvalid' : registry'.validate = .error (.registry cause'))
      (hrun : (run artifact registry).result = .error (.registry cause))
      (hrun' : (run artifact registry').result = .error (.registry cause'))
      (hcause : cause.Reordered cause')
  /-- Both registries are valid and have the same circles, with the same `members`. -/
  | cyclic {members : List String} (hvalid : registry.validate = .ok ())
      (hvalid' : registry'.validate = .ok ())
      (hrun : (run artifact registry).result = .error (.cycle members))
      (hrun' : (run artifact registry').result = .error (.cycle members))
  /-- Both have the same plan, and end with the same `fault` of an evaluation. -/
  | fault {waves : List (List Mapper)} {fault : Fault} (hplan : IsPlan registry waves)
      (hplan' : IsPlan registry' waves) (hrun : (run artifact registry).result = .error fault)
      (hrun' : (run artifact registry').result = .error fault)

/-- A pass over a registry with permuted mappers ends as the one with the plan does, except that its
table lists the names as `registry'` does. -/
theorem IsPlan.result_run_of_perm (hplan : IsPlan registry waves) (artifact : Artifact)
    (hperm : registry.mappers.Perm registry'.mappers)
    (hignores : ∀ mapper ∈ registry.mappers, ∀ test ∈ mapper.predicate.tests, test.IgnoresOrder) :
    (run artifact registry').result =
      (run artifact registry).result >>= fun table => .ok (table.reorder registry'.names) := by
  have hstart : start artifact registry' =
      (start artifact registry).reorder registry'.names := rfl
  rw [(hplan.of_perm hperm).result_run, hplan.result_run, hstart]
  refine settleWaves_reorder (fun mapper hmem => hignores mapper (hplan.registered mapper hmem)) ?_
  exact (Registry.names_perm hperm).symm

/-- Passes over the same mappers, registered in two orders, end in the same way (`EndsAlike`), if no
test looks at the order. -/
theorem endsAlike_of_perm (hperm : registry.mappers.Perm registry'.mappers)
    (hignores : ∀ mapper ∈ registry.mappers, ∀ test ∈ mapper.predicate.tests, test.IgnoresOrder) :
    EndsAlike artifact registry registry' := by
  rcases Registry.validate_of_perm hperm with ⟨hvalid, hvalid'⟩ |
    ⟨cause, cause', hinvalid, hinvalid', hcause⟩
  · rcases exists_plan_or_unplanned registry with ⟨waves, hplan⟩ | ⟨reason, hunplanned⟩
    · -- both passes go through the same waves
      have hrun' := hplan.result_run_of_perm artifact hperm hignores
      cases hrun : (run artifact registry).result with
      | error fault =>
        rw [hrun] at hrun'
        exact .fault hplan (hplan.of_perm hperm) hrun hrun'
      | ok table =>
        rw [hrun] at hrun'
        have hnames := map_name_report hrun
        refine .table hrun hrun' (fun _ => rfl) ?_ hnames (map_name_report hrun')
        refine List.Perm.filterMap _ ?_
        rw [order_of_run hrun]
        exact Registry.names_perm hperm
    · -- both registries are valid, so there is a circle
      cases hunplanned with
      | invalid hinvalid =>
        rw [hvalid] at hinvalid
        cases hinvalid
      | cyclic _ hmembers =>
        have hmembers' := (cycleMembers_eq hperm).symm.trans hmembers
        exact .cyclic hvalid hvalid' ((Unplanned.cyclic hvalid hmembers).result_run artifact)
          ((Unplanned.cyclic hvalid' hmembers').result_run artifact)
  · exact .invalid hinvalid hinvalid' ((Unplanned.invalid hinvalid).result_run artifact)
      ((Unplanned.invalid hinvalid').result_run artifact) hcause

section Example

/-- The predicate that the mapper called `name` is bound, which looks at the table as a test of
one's own. -/
def whenBound (name : String) : Predicate :=
  .test (name ++ " is bound") false fun _ table => .ok (table.isResolved name)

/-- A mapper `Watcher` that asks for another one, one that finds nothing, and `Watched`, the class
with a number. -/
def watching : Registry where
  mappers := [
    .onlyClass "Watcher" (whenBound "Watched") ["Watched"] (by decide),
    .onlyClass "Idle" (.hasInstanceField (.literal "J")) [] (by decide),
    .onlyClass "Watched" (.hasInstanceField (.literal "I")) [] (by decide)]
  nodup_names := by decide

/-- The mappers of `watching`, registered the other way round. -/
def watched : Registry where
  mappers := watching.mappers.reverse
  nodup_names := by decide

/-- The passes over `watching` and `watched` end in the same way: with tables, which list their
outcomes in the two orders. -/
theorem endsAlike_of_perm_watching :
    watching.mappers.Perm watched.mappers ∧
      (∀ mapper ∈ watching.mappers, ∀ test ∈ mapper.predicate.tests, test.IgnoresOrder) ∧
      (run .numbered watching).result.map (·.report.outcomes.map (·.status)) =
        .ok [.resolved, .failed, .resolved] ∧
      (run .numbered watched).result.map (·.report.outcomes.map (·.name)) =
        .ok ["Watched", "Idle", "Watcher"] ∧
      EndsAlike .numbered watching watched := by
  have hperm : watching.mappers.Perm watched.mappers := (List.reverse_perm _).symm
  have hignores : ∀ mapper ∈ watching.mappers, ∀ test ∈ mapper.predicate.tests,
      test.IgnoresOrder := by
    intro mapper hmapper test htest
    simp only [watching, List.mem_cons, List.not_mem_nil, or_false] at hmapper
    rcases hmapper with rfl | rfl | rfl <;> obtain rfl := List.mem_singleton.1 htest
    · exact fun _ _ _ _ => rfl
    · trivial
    · trivial
  refine ⟨hperm, hignores, ?_, ?_, endsAlike_of_perm hperm hignores⟩
  · decide +kernel
  · decide +kernel

end Example

end Pass

end Reidentify

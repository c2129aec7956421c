import Reidentify.Proofs.Pass.Order

/-!
# The plan of a pass

The plan of a pass holds the mappers of its registry in the waves in which they are evaluated. A
registry has a plan if it is valid and its mappers do not depend on each other in a circle, and it
has no more than one. A pass without a plan ends before anything is evaluated; any other one goes
through the waves of its plan.

## Main definitions

* `Pass.IsPlan`: the waves of a pass.
* `Pass.Unplanned`: the reason why a pass has no waves.

## Main statements

* `Pass.IsPlan.unique`: a registry has no more than one plan.
* `Pass.IsPlan.result_run`: a pass goes through the waves of its plan.
* `Pass.exists_plan_or_unplanned`: a registry has a plan or a reason why it has none.
* `Pass.Unplanned.result_run`: that reason is the fault of the pass.
-/

namespace Reidentify

/-- Registered `mappers` are found again by their names, with `registry.find?`. -/
theorem Registry.filterMap_find?_map_name {registry : Registry} {mappers : List Mapper}
    (h : ∀ mapper ∈ mappers, mapper ∈ registry.mappers) :
    (mappers.map (·.name)).filterMap registry.find? = mappers := by
  induction mappers with
  | nil => rfl
  | cons mapper rest ih =>
    obtain ⟨hmapper, hrest⟩ := List.forall_mem_cons.1 h
    have hfind : registry.find? mapper.name = some mapper :=
      find?_eq_some_iff.2 ⟨hmapper, rfl⟩
    rw [List.map_cons, List.filterMap_cons, hfind, ih hrest]

namespace Pass

variable {artifact : Artifact} {registry : Registry} {waves waves' : List (List Mapper)}
  {mapper : Mapper} {table next final : Table} {wave : List Mapper}

/-- The mappers of a valid registry in the `waves` in which they are evaluated. -/
structure IsPlan (registry : Registry) (waves : List (List Mapper)) : Prop where
  /-- The registry passes `validate`. -/
  valid : registry.validate = .ok ()
  /-- The mappers of the `waves` are registered ones. -/
  registered : ∀ mapper ∈ waves.flatten, mapper ∈ registry.mappers
  /-- The names of the mappers, wave by wave, are the `waves` of the schedule. -/
  names_eq : (Schedule.ofMappers registry.mappers).waves = .ok (waves.map (·.map (·.name)))

/-- Two lists of waves of registered mappers are equal if the names in them are, since names are
unique in a registry. -/
theorem eq_of_map_name_eq (hregistered : ∀ mapper ∈ waves.flatten, mapper ∈ registry.mappers)
    (hregistered' : ∀ mapper ∈ waves'.flatten, mapper ∈ registry.mappers)
    (h : waves.map (·.map (·.name)) = waves'.map (·.map (·.name))) : waves = waves' := by
  have hfind {waves : List (List Mapper)}
      (hregistered : ∀ mapper ∈ waves.flatten, mapper ∈ registry.mappers) :
      (waves.map (·.map (·.name))).map (·.filterMap registry.find?) = waves := by
    rw [List.map_map]
    refine (List.map_congr_left fun wave hwave => ?_).trans (List.map_id _)
    exact Registry.filterMap_find?_map_name fun mapper hmem =>
      hregistered mapper (List.mem_flatten_of_mem hwave hmem)
  rw [← hfind hregistered, h, hfind hregistered']

namespace IsPlan

/-- A registry has no more than one plan, so `IsPlan` determines the `waves`. -/
theorem unique (h : IsPlan registry waves) (h' : IsPlan registry waves') : waves = waves' :=
  eq_of_map_name_eq h.registered h'.registered (Except.ok.inj (h.names_eq.symm.trans h'.names_eq))

/-- A plan is an `IsOrder` of the registry, and `run` settles its `waves` one after the other from
the `start`. -/
theorem isOrder_and_result_run (h : IsPlan registry waves) (artifact : Artifact) :
    IsOrder registry waves ∧
      (run artifact registry).result = settleWaves artifact (start artifact registry) waves := by
  obtain ⟨waves', hnames, horder, hrun⟩ := exists_order_result_run artifact h.valid h.names_eq
  have heq : waves' = waves :=
    eq_of_map_name_eq (fun _ hmem => horder.perm.mem_iff.1 hmem) h.registered hnames
  rw [← heq]
  exact ⟨horder, hrun⟩

/-- The waves of a plan are an order of evaluation in the sense of `IsOrder`. -/
theorem isOrder (h : IsPlan registry waves) : IsOrder registry waves :=
  (h.isOrder_and_result_run ⟨[], ""⟩).1

/-- The result of `run` is that of `settleWaves` over the `waves` of the plan. -/
theorem result_run (h : IsPlan registry waves) (artifact : Artifact) :
    (run artifact registry).result = settleWaves artifact (start artifact registry) waves :=
  (h.isOrder_and_result_run artifact).2

end IsPlan

/-- A registry that passes `validate` and whose schedule has waves has a plan. -/
theorem exists_plan (hvalid : registry.validate = .ok ()) {names : List (List String)}
    (hnames : (Schedule.ofMappers registry.mappers).waves = .ok names) :
    ∃ waves, IsPlan registry waves := by
  obtain ⟨waves, rfl, horder⟩ := exists_order hvalid hnames
  exact ⟨waves, hvalid, fun _ hmem => horder.perm.mem_iff.1 hmem, hnames⟩

/-- The ways in which a pass can have no plan, each with its `Fault`: the registry is not valid, or
its mappers depend on each other in a circle. -/
inductive Unplanned (registry : Registry) : Fault → Prop
  /-- The registry is not valid, and `validate` says why. -/
  | invalid {fault} (h : registry.validate = .error fault) : Unplanned registry fault
  /-- The registry is valid, but its schedule has `cycleMembers`. -/
  | cyclic (hvalid : registry.validate = .ok ()) {name rest}
      (h : (Schedule.ofMappers registry.mappers).cycleMembers = name :: rest) :
      Unplanned registry (.cycle (name :: rest))

/-- A registry that is `Unplanned` ends every pass with that `fault`, whatever the artifact is. -/
theorem Unplanned.result_run {fault : Fault} (h : Unplanned registry fault) (artifact : Artifact) :
    (run artifact registry).result = .error fault := by
  rw [Pass.result_run]
  cases h with
  | invalid h => rw [h, Except.error_bind]
  | cyclic hvalid h =>
    rw [hvalid, Except.ok_bind, Schedule.waves, Schedule.checkAcyclic, h]
    rfl

/-- Every `registry` has a plan, or it is `Unplanned` for some fault. -/
theorem exists_plan_or_unplanned (registry : Registry) :
    (∃ waves, IsPlan registry waves) ∨ ∃ fault, Unplanned registry fault := by
  -- in the order in which a pass checks them: first the registry, then its circles
  cases hvalid : registry.validate with
  | error fault => exact .inr ⟨fault, .invalid hvalid⟩
  | ok =>
    cases hmembers : (Schedule.ofMappers registry.mappers).cycleMembers with
    | cons name rest => exact .inr ⟨_, .cyclic hvalid hmembers⟩
    | nil =>
      have hwaves : (Schedule.ofMappers registry.mappers).waves =
          .ok (Schedule.ofMappers registry.mappers).layering.waves := by
        rw [Schedule.waves, Schedule.checkAcyclic, hmembers]
      exact .inl (exists_plan hvalid hwaves)

/-- A pass that ends with a table `final` has a plan, and `settleWaves` leads to `final` over its
waves. -/
theorem exists_plan_of_run (h : (run artifact registry).result = .ok final) :
    ∃ waves, IsPlan registry waves ∧
      settleWaves artifact (start artifact registry) waves = .ok final := by
  rcases exists_plan_or_unplanned registry with ⟨waves, hplan⟩ | ⟨fault, hunplanned⟩
  · exact ⟨waves, hplan, (hplan.result_run artifact).symm.trans h⟩
  · rw [hunplanned.result_run artifact] at h
    cases h

end Pass

end Reidentify

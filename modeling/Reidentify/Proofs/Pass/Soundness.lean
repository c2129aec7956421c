import Reidentify.Proofs.Pass.Binding
import Reidentify.Proofs.Pass.Evaluation
import Reidentify.Proofs.Report.Hooks

/-!
# Sound bindings

A valid registry promises that the owner of every scope binds what the scope looks into. A pass
keeps a table sound: what a mapper is bound to is of its target and occurs in the artifact. So the
promise holds for the entities as well, no scope ever finds its owner unbound or bound to the wrong
kind of entity, and the hooks of the table can be built.

## Main definitions

* `Pass.Sound`: the bindings of a table are of the right kind.
* `Pass.ScopeFault`: the faults that a mapper could report about its scope or its position.
* `Pass.KindSafe`: what passes over a valid registry keep to.

## Main statements

* `Pass.sound_of_settleWave`: a wave keeps a table sound.
* `Pass.Evaluates.sound`: mappers are evaluated on sound tables.
* `Pass.exists_hooks_of_sound`: the hooks of a sound table can be built.
* `Pass.kindSafe_of_validate`: passes over valid registries keep to the kinds.
-/

namespace Reidentify

namespace Pass

variable {artifact : Artifact} {registry : Registry} {table next final : Table}
  {wave : List Mapper} {mapper : Mapper} {fault : Fault}

/-- Every mapper of the `registry` that a `table` binds is bound to an entity of its `target` that
occurs in the `artifact`. -/
def Sound (artifact : Artifact) (registry : Registry) (table : Table) : Prop :=
  ∀ mapper ∈ registry.mappers, ∀ entity, table.resolve mapper.name = .ok entity →
    entity.target = mapper.target ∧ artifact.Holds entity

section Invariant

/-- At the beginning of a pass nothing is bound, so the table is `Sound`. -/
theorem sound_start : Sound artifact registry (start artifact registry) := by
  intro mapper _ entity hresolve
  obtain ⟨outcome, houtcome, -⟩ := Table.resolve_eq_ok_iff.1 hresolve
  cases houtcome

/-- Skips bind nothing new, so `afterSkips` of a `Sound` table is sound. -/
theorem Sound.afterSkips (h : Sound artifact registry table) (wave : List Mapper) :
    Sound artifact registry (afterSkips table wave) :=
  fun mapper hmem entity hresolve => h mapper hmem entity (resolve_of_append_skips hresolve)

/-- On a `Sound` table of a valid registry the `entity` that the owner of a scope is bound to occurs
in the artifact. -/
theorem Sound.holds_owner (h : Sound artifact registry table)
    (hvalid : registry.validate = .ok ()) (hmem : mapper ∈ registry.mappers) {owner : String}
    {entity : Entity} (howner : mapper.scope.owner? = some owner)
    (hresolve : table.resolve owner = .ok entity) : artifact.Holds entity := by
  obtain ⟨bound, hbound, rfl, -⟩ := Registry.exists_fitting_owner hvalid hmem howner
  exact (h bound hbound entity hresolve).2

/-- On a `Sound` table that binds everything that a mapper depends on, the owner of its scope is
bound to what the scope looks into, i.e. `OwnerBound`. -/
theorem Sound.ownerBound (h : Sound artifact registry table)
    (hvalid : registry.validate = .ok ()) (hmem : mapper ∈ registry.mappers)
    (hbound : ∀ name ∈ mapper.dependencies, table.isResolved name = true) :
    mapper.scope.OwnerBound table := by
  intro owner howner
  -- the owner of a scope is a dependency, so it is bound
  obtain ⟨entity, hentity⟩ := Table.isResolved_iff.1 (hbound owner (mapper.owner_mem owner howner))
  obtain ⟨bound, hregistered, rfl, hneeded⟩ := Registry.exists_fitting_owner hvalid hmem howner
  have htarget := (h bound hregistered entity hentity).1
  exact ⟨entity, hentity, by rw [htarget, hneeded]⟩

/-- If a table is `Sound`, so is the one after `settleWave`, for artifacts that are `Owned` and
valid registries. -/
theorem sound_of_settleWave (howned : artifact.Owned) (hvalid : registry.validate = .ok ())
    (hregistered : ∀ mapper ∈ wave, mapper ∈ registry.mappers)
    (hsound : Sound artifact registry table) (h : settleWave artifact table wave = .ok next) :
    Sound artifact registry next := by
  obtain ⟨outcomes, houtcomes, hnext⟩ := Except.bind_eq_ok_iff.1 h
  cases hnext
  intro mapper hmem entity hresolve
  obtain ⟨outcome, houtcome, hentity⟩ := Table.resolve_eq_ok_iff.1 hresolve
  rw [Table.outcome?_append, Option.or_eq_some_iff] at houtcome
  rcases houtcome with hold | ⟨-, hnew⟩
  · -- the mapper was bound before the wave
    have hbefore := Table.resolve_eq_ok_iff.2 ⟨outcome, hold, hentity⟩
    exact hsound.afterSkips wave mapper hmem entity hbefore
  · -- some mapper of the wave was resolved to the outcome, and names tell mappers apart
    obtain ⟨other, hother, hend⟩ :=
      exists_mapper_of_resolveAll houtcomes (List.mem_of_find?_eq_some hnew)
    have hother := hregistered other (List.mem_of_mem_filter hother)
    have hfound := List.find?_some hnew
    have hname : other.name = mapper.name := by
      rw [← Mapper.name_of_resolve hend]
      exact beq_iff_eq.1 hfound
    obtain rfl := List.inj_on_of_nodup_map registry.nodup_names hother hmem hname
    exact ⟨Mapper.target_of_resolve hend hentity, Mapper.holds_of_resolve howned
      (fun owner bound => (hsound.afterSkips wave).holds_owner hvalid hmem) hend hentity⟩

/-- All tables on the way of a pass are `Sound`. -/
theorem sound_of_settleWaves (howned : artifact.Owned) {before after : List (List Mapper)}
    (hplan : IsPlan registry (before ++ after))
    (hbefore : settleWaves artifact (start artifact registry) before = .ok table) :
    Sound artifact registry table :=
  hplan.isOrder.invariant sound_start
    (fun _ _ _ hsound hready hnext =>
      sound_of_settleWave howned hplan.valid hready.registered hsound hnext) rfl hbefore

/-- A mapper `Evaluates` only on tables that are `Sound`. -/
theorem Evaluates.sound (howned : artifact.Owned) (h : Evaluates artifact registry mapper table) :
    Sound artifact registry table := by
  obtain ⟨hplan, hbefore, -⟩ := h
  exact (sound_of_settleWaves howned hplan hbefore).afterSkips _

/-- The table with which a pass ends is `Sound`. -/
theorem sound_of_run (howned : artifact.Owned) (h : (run artifact registry).result = .ok table) :
    Sound artifact registry table := by
  obtain ⟨waves, hplan, hsettle⟩ := exists_plan_of_run h
  rw [← List.append_nil waves] at hplan
  exact sound_of_settleWaves howned hplan hsettle

/-- When a mapper `Evaluates`, the owner of its scope is bound to what the scope looks into. -/
theorem Evaluates.ownerBound (howned : artifact.Owned) (hvalid : registry.validate = .ok ())
    (h : Evaluates artifact registry mapper table) : mapper.scope.OwnerBound table :=
  (h.sound howned).ownerBound hvalid h.mem_mappers fun _ hname => h.isResolved hname

end Invariant

section Hooks

theorem Sound.fits (h : Sound artifact registry table) : registry.Fits table :=
  fun mapper hmem entity hresolve => (h mapper hmem entity hresolve).1.symm

/-- The hooks of a `Sound` table can be built by `Hook.build`. -/
theorem exists_hooks_of_sound (h : Sound artifact registry table) :
    ∃ hooks, (Hook.build table registry).result = .ok hooks := by
  obtain ⟨hooks, hbuild, -⟩ := Hook.exists_exports h.fits
  exact ⟨hooks, hbuild⟩

end Hooks

section Safety

/-- The faults that a `mapper` could report about its scope or its position: the owner of the scope
is bound to the wrong kind of entity or not at all, the mapper has no position, or a name has no
entry. -/
inductive ScopeFault (mapper : Mapper) : Fault → Prop
  /-- The owner of a scope is bound to the wrong kind of entity, whichever scope it is. -/
  | scopeOwner (scope owner : String) (needed : Target) (bound : Entity) :
      ScopeFault mapper (.configuration (.scopeOwner scope owner needed bound))
  /-- The `owner` of the scope of the mapper is not bound. -/
  | unresolved {owner : String} (state : UnresolvedState)
      (howner : mapper.scope.owner? = some owner) : ScopeFault mapper (.unresolved owner state)
  /-- A mapper that selects by position has no position. -/
  | noPosition (name : String) : ScopeFault mapper (.configuration (.noPosition name))
  /-- A name has no entry where one is looked up. -/
  | missingKey (name : String) : ScopeFault mapper (.missingKey name)
  /-- A name is not registered. -/
  | unknown (name : String) : ScopeFault mapper (.registry (.unknown name))

/-- No fault of a test of the library is a `ScopeFault` of a mapper whose owner is bound. -/
theorem not_scopeFault_of_libraryFault (howner : mapper.scope.OwnerBound table)
    (h : Predicate.LibraryFault table fault) : ¬ScopeFault mapper fault := by
  intro hscope
  cases h with
  | noAttribute => cases hscope
  | methodDescriptor text => cases hscope
  | typeOwner name bound => cases hscope
  | unresolved hunresolved =>
    cases hscope with
    | unresolved state hscope =>
      obtain ⟨entity, hentity, -⟩ := howner _ hscope
      rw [hentity] at hunresolved
      cases hunresolved

/-- A mapper whose owner is bound has a `ScopeFault` only from a test of one's own. -/
theorem exists_own_test_of_scopeFault (howner : mapper.scope.OwnerBound table)
    (h : (mapper.resolve artifact table).result = .error fault) (hscope : ScopeFault mapper fault) :
    ∃ test ∈ mapper.predicate.tests, test.isLibrary = false ∧
      ∃ entity, test.check entity table = .error fault := by
  rcases Mapper.fault_of_resolve howner h with rfl | rfl | htest
  · cases hscope
  · cases hscope
  · exact htest.exists_own fun hlibrary => not_scopeFault_of_libraryFault howner hlibrary hscope

/-- What passes over an `artifact` and a valid `registry` keep to: entities are of the kinds that
their mappers are for. -/
structure KindSafe (artifact : Artifact) (registry : Registry) : Prop where
  /-- The table of a pass is `Sound`: every mapper that is bound is bound to an entity of its target
  that occurs in the artifact. -/
  bound : ∀ table, (run artifact registry).result = .ok table → Sound artifact registry table
  /-- The hooks of the table can be built by `Hook.build`. -/
  hooks : ∀ table, (run artifact registry).result = .ok table →
    ∃ hooks, (Hook.build table registry).result = .ok hooks
  /-- The `owner` of every scope is the name of a registered mapper, for what the scope looks into.
  -/
  registered : ∀ mapper ∈ registry.mappers, ∀ owner, mapper.scope.owner? = some owner →
    ∃ bound ∈ registry.mappers, bound.name = owner ∧
      mapper.scope.ownerTarget? = some bound.target
  /-- Whenever a mapper `Evaluates`, the owner of its scope is bound to what the scope looks into,
  the scope has candidates, and the mapper can select by its strategy. The only fault of a selection
  is that the mapper is mute (`Mapper.IsMute`). -/
  evaluated : ∀ mapper table, Evaluates artifact registry mapper table →
    mapper.scope.OwnerBound table ∧
      (∃ candidates, mapper.scope.candidates artifact table = .ok candidates) ∧
      ∀ kept, (∃ selection, mapper.selectBy mapper.strategy.kind kept = .ok selection) ∨
        mapper.IsMute kept.length ∧
          mapper.selectBy mapper.strategy.kind kept = .error (.value .unwritable)
  /-- A pass ends with a fault for a circle, or for a mapper that `Evaluates`, and about its scope
  the mapper reports nothing by itself: a `ScopeFault` is the one of a test of one's own. -/
  fault : ∀ fault, (run artifact registry).result = .error fault →
    (∃ members, fault = .cycle members) ∨
      ∃ mapper table, Evaluates artifact registry mapper table ∧
        (mapper.resolve artifact table).result = .error fault ∧
        (ScopeFault mapper fault → ∃ test ∈ mapper.predicate.tests, test.isLibrary = false ∧
          ∃ entity, test.check entity table = .error fault)

/-- Passes over valid registries and artifacts that were read from a `document` are `KindSafe`,
whether or not they end with a table. -/
theorem kindSafe_of_validate {document : Value}
    (hartifact : Artifact.ofValue document = .ok artifact) (hvalid : registry.validate = .ok ()) :
    KindSafe artifact registry := by
  have howned := Artifact.owned_of_ofValue hartifact
  refine {
    bound := fun table hrun => sound_of_run howned hrun
    hooks := fun table hrun => exists_hooks_of_sound (sound_of_run howned hrun)
    registered := fun mapper hmem owner howner =>
      Registry.exists_fitting_owner hvalid hmem howner
    evaluated := ?_
    fault := ?_ }
  · intro mapper table hevaluates
    have howner := hevaluates.ownerBound howned hvalid
    exact ⟨howner, howner.exists_candidates artifact, mapper.exists_selection_or_isMute⟩
  · intro fault hrun
    rcases exists_plan_or_unplanned registry with ⟨waves, hplan⟩ | ⟨reason, hunplanned⟩
    · right
      obtain ⟨mapper, table, hevaluates, hresolve⟩ := exists_evaluates_of_error hplan hrun
      have howner := hevaluates.ownerBound howned hvalid
      exact ⟨mapper, table, hevaluates, hresolve, exists_own_test_of_scopeFault howner hresolve⟩
    · -- the registry is valid, so only a circle is left
      left
      rw [hunplanned.result_run] at hrun
      cases hrun
      cases hunplanned with
      | invalid hinvalid =>
        rw [hvalid] at hinvalid
        cases hinvalid
      | cyclic => exact ⟨_, rfl⟩

end Safety

section Example

/-- An artifact with a class `a` and a number in it that its constructor writes. -/
def counter : Artifact where
  classes := [{
    name := "a"
    superName := .str "java/lang/Object"
    interfaces := []
    access := 1
    fields := [⟨"a", "f", "I", 0⟩]
    methods := [⟨"a", "<init>", "()V", 1,
      [⟨"a", "<init>", "()V", 0, .number ⟨181, by decide⟩, .null, .null,
        ⟨.str "a", .str "f", .str "I"⟩, ⟨.null, .null, .null⟩, .null⟩]⟩] }]
  revision := "1"

/-- The mapper for what the first write in the constructor of the class of `Counter` refers to, or
for the write itself, depending on the `target`. -/
def firstWrite (name : String) (target : Target) (hname : name ≠ "")
    (htarget : target ≠ .toClass) : Mapper where
  name := name
  strategy := .order ⟨0, none, Position.pos_of_none⟩
  predicate := .fieldWrite none
  scope := .inClass .constructorInstructions "Counter"
  dependencies := ["Counter"]
  target := target
  parameters := none
  name_ne_empty := hname
  allows_target := bne_iff_ne.2 htarget
  ascending_dependencies := List.pairwise_singleton ..
  owner_mem _ h := Option.some.inj h ▸ List.mem_singleton_self _
  target_of_parameters h := nomatch h

/-- Mappers for the class of `counter`, for the write in its constructor and for the field that is
written. -/
def counting : Registry where
  mappers := [
    firstWrite "Counter.count" .toField (by decide) (by decide),
    firstWrite "Counter.write" .toInstruction (by decide) (by decide),
    .onlyClass "Counter" (.hasInstanceField (.literal "I")) [] (by decide)]
  nodup_names := by decide

/-- The pass over `counter` binds a field, an instruction and a class, and it keeps to the kinds. -/
theorem kindSafe_of_validate_counting :
    Artifact.ofValue counter.toValue = .ok counter ∧ counting.validate = .ok () ∧
      (run counter counting).result.map (fun table =>
        table.entities.map fun bound => (bound.1, bound.2.target)) =
          .ok [("Counter.count", .toField), ("Counter.write", .toInstruction),
            ("Counter", .toClass)] ∧
      KindSafe counter counting := by
  have hartifact : Artifact.ofValue counter.toValue = .ok counter := by decide +kernel
  have hvalid : counting.validate = .ok () := by decide +kernel
  refine ⟨hartifact, hvalid, ?_, kindSafe_of_validate hartifact hvalid⟩
  decide +kernel

end Example

end Pass

end Reidentify

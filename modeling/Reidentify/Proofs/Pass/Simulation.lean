import Reidentify.Pass.Run
import Reidentify.Proofs.Outcome.Correspondence
import Reidentify.Proofs.Pass.Wave
import Reidentify.Proofs.Query.Evaluation

/-!
# Passes over two artifacts

The same mappers are resolved against two artifacts. A mapper ends in corresponding ways if its
four steps do: the candidates of its scope, its predicate, its selection and its binding. If
every mapper ends in corresponding ways on all corresponding tables, so does the whole pass,
because what a pass does besides depends on names and on statuses only.

## Main statements

* `Mapper.resolveBy_simulates_of_steps`, `Mapper.resolveBy_simulates`: one mapper from its four
  steps.
* `Pass.run_simulates`: a whole pass from its mappers.
-/

namespace Reidentify

variable {R : Entity → Entity → Prop} {F : Failure → Failure → Prop} {faults : FaultMatch}
  {artifact artifact' : Artifact}

/-- Two selections choose entities that are in the relation `R`, or they are refused with failures
in the relation `F`. -/
inductive Selection.Corresponds (R : Entity → Entity → Prop) (F : Failure → Failure → Prop) :
    Selection → Selection → Prop
  /-- Both sides select a candidate, and `R` holds of the two. -/
  | chosen {entity entity'} (h : R entity entity') :
      Corresponds R F (.chosen entity) (.chosen entity')
  /-- Both sides refuse to select, and `F` holds of the two failures. -/
  | refused {failure failure'} (h : F failure failure') :
      Corresponds R F (.refused failure) (.refused failure')

/-- A mapper ends in corresponding ways if each of its four steps does. The relations `C` on the
lists of candidates and `K` on the lists of kept ones are free, e.g. `List.Perm` or
`List.Forall₂ R`. -/
theorem Mapper.resolveBy_simulates_of_steps (kind : StrategyKind) (mapper : Mapper)
    {table table' : Table} {C K : List Entity → List Entity → Prop}
    (hscope : Simulates faults C (mapper.scope.candidates artifact table)
      (mapper.scope.candidates artifact' table'))
    (hmatching : ∀ candidates candidates', C candidates candidates' →
      Simulates faults K (mapper.matching table candidates).result
        (mapper.matching table' candidates').result)
    (hselect : ∀ kept kept', K kept kept' →
      Simulates faults (Selection.Corresponds R F) (mapper.selectBy kind kept)
        (mapper.selectBy kind kept'))
    (hbind : ∀ entity entity', R entity entity' →
      Simulates faults (Result.Corresponds R F) (mapper.bind artifact entity)
        (mapper.bind artifact' entity')) :
    Simulates faults (Outcome.Corresponds R F) (mapper.resolveBy kind artifact table).result
      (mapper.resolveBy kind artifact' table').result := by
  unfold resolveBy
  simp only [Trail.result_andThen, Trail.result_lift]
  -- the four steps are compared one after another
  refine hscope.bind fun candidates candidates' hcandidates => ?_
  refine (hmatching candidates candidates' hcandidates).bind fun kept kept' hkept => ?_
  refine (hselect kept kept' hkept).bind fun selection selection' hselection => ?_
  cases hselection with
  | refused hfailure => exact .ok ⟨rfl, .failed hfailure⟩
  | chosen hentity =>
    simp only [Trail.result_andThen, Trail.result_lift]
    exact (hbind _ _ hentity).bind fun _ _ hresult => .ok ⟨rfl, hresult⟩

/-- A mapper ends in corresponding ways if its candidates are related one by one by
`List.Forall₂ R`, and each of its steps respects this. -/
theorem Mapper.resolveBy_simulates (kind : StrategyKind) (mapper : Mapper) {table table' : Table}
    (hscope : Simulates faults (List.Forall₂ R) (mapper.scope.candidates artifact table)
      (mapper.scope.candidates artifact' table'))
    (hpredicate : ∀ entity entity', R entity entity' →
      Simulates faults Eq (mapper.predicate.evaluate table entity).result
        (mapper.predicate.evaluate table' entity').result)
    (hselect : ∀ kept kept', List.Forall₂ R kept kept' →
      Simulates faults (Selection.Corresponds R F) (mapper.selectBy kind kept)
        (mapper.selectBy kind kept'))
    (hbind : ∀ entity entity', R entity entity' →
      Simulates faults (Result.Corresponds R F) (mapper.bind artifact entity)
        (mapper.bind artifact' entity')) :
    Simulates faults (Outcome.Corresponds R F) (mapper.resolveBy kind artifact table).result
      (mapper.resolveBy kind artifact' table').result := by
  refine mapper.resolveBy_simulates_of_steps kind hscope (fun candidates candidates' h => ?_)
    hselect hbind
  refine Simulates.keep h fun entity entity' hentity => ?_
  simp only [Trail.result_andThen, Trail.result_emit, Except.ok_bind]
  exact hpredicate entity entity' hentity

namespace Pass

/-- Corresponding tables resolve the same names, so a `mapper` has the same `blockers` on both. -/
theorem blockers_eq {table table' : Table} (h : table.Corresponds R F table') (mapper : Mapper) :
    blockers table' mapper = blockers table mapper := by
  unfold blockers
  congr 1
  funext name
  rw [h.isResolved_eq]

/-- Recording `outcomes` that correspond one by one keeps tables corresponding, or is refused on
both sides. -/
theorem recordAll_simulates {table table' : Table} (h : table.Corresponds R F table')
    {outcomes outcomes' : List Outcome}
    (houtcomes : List.Forall₂ (Outcome.Corresponds R F) outcomes outcomes') :
    Simulates faults (Table.Corresponds R F) (recordAll table outcomes)
      (recordAll table' outcomes') := by
  -- by induction on the pairs of outcomes, over the tables that the first ones lead to
  induction houtcomes generalizing table table' with
  | nil => exact .ok h
  | cons hfirst _ ih =>
    rw [recordAll_cons, recordAll_cons]
    exact (h.record hfirst).bind fun _ _ hnext => ih hnext

/-- The states in which two passes are while they admit the mappers of a wave: a table and the
mappers that are runnable so far, on each side. -/
structure Admission (R : Entity → Entity → Prop) (F : Failure → Failure → Prop)
    (registry : Registry) (state state' : Table × List Mapper) : Prop where
  /-- The tables correspond by `R` and `F`. -/
  table : state.1.Corresponds R F state'.1
  /-- The same mappers are runnable on both sides, in the same order. -/
  runnable_eq : state'.2 = state.2
  /-- The runnable mappers are among `registry.mappers`. -/
  registered : ∀ mapper ∈ state.2, mapper ∈ registry.mappers

/-- Admitting the mapper of a `name` keeps two states in `Admission`. -/
theorem enlist_simulates (registry : Registry) {state state' : Table × List Mapper}
    (h : Admission R F registry state state') (name : String) :
    Simulates faults (Admission R F registry) (enlist registry state name).result
      (enlist registry state' name).result := by
  obtain ⟨table, runnable⟩ := state
  obtain ⟨table', runnable'⟩ := state'
  obtain ⟨htable, rfl, hregistered⟩ := h
  simp only at htable hregistered
  simp only [enlist, Trail.result_andThen, Trail.result_lift]
  refine (Simulates.refl (R := fun mapper mapper' => mapper' = mapper ∧
    mapper ∈ registry.mappers) fun _ hget => ⟨rfl, Registry.mem_of_get hget⟩).bind ?_
  rintro _ mapper ⟨rfl, hmem⟩
  -- the mapper is free on both sides, or blocked by the same mappers on both
  rw [blockers_eq htable]
  split
  · refine .ok ⟨htable, rfl, ?_⟩
    intro other hother
    rcases List.mem_append.1 hother with hother | hother
    · exact hregistered other hother
    · rwa [List.mem_singleton.1 hother]
  · simp only [Trail.result_andThen, Trail.result_log, Trail.result_lift, Except.ok_bind]
    exact (htable.record ⟨rfl, .skipped _⟩).bind fun _ _ hnext => .ok ⟨hnext, rfl, hregistered⟩

section Run

variable {registry : Registry}
  (hmapper : ∀ mapper ∈ registry.mappers, ∀ table table' : Table, table.Corresponds R F table' →
    Simulates faults (Outcome.Corresponds R F) (mapper.resolve artifact table).result
      (mapper.resolve artifact' table').result)

include hmapper

/-- A `wave` ends in corresponding ways if its mappers do on all corresponding tables. -/
theorem runWave_simulates {table table' : Table} (h : table.Corresponds R F table')
    (wave : List String) :
    Simulates faults (Table.Corresponds R F) (runWave artifact registry table wave).result
      (runWave artifact' registry table' wave).result := by
  simp only [runWave, Trail.result_andThen, Trail.result_lift]
  -- both waves are admitted name by name, then evaluated mapper by mapper
  refine (Simulates.foldEach (S := Eq) (List.forall₂_same.2 fun _ _ => rfl)
    (⟨h, rfl, by simp⟩ : Admission R F registry (table, []) (table', [])) ?_).bind ?_
  · rintro state state' name _ hstate rfl
    exact enlist_simulates registry hstate name
  · rintro ⟨admitted, runnable⟩ ⟨admitted', _⟩ ⟨hadmitted, rfl, hregistered⟩
    refine (Simulates.forEach (R := fun mapper mapper' => mapper' = mapper ∧
      mapper ∈ registry.mappers) ?_ ?_).bind fun _ _ houtcomes =>
        recordAll_simulates hadmitted houtcomes
    · exact List.forall₂_same.2 fun mapper hmem => ⟨rfl, hregistered mapper hmem⟩
    · rintro _ mapper ⟨rfl, hmem⟩
      rw [result_evaluate, result_evaluate]
      exact hmapper mapper hmem _ _ hadmitted

/-- A pass ends in corresponding ways over `artifact` and `artifact'` of one revision, if its
mappers do on all corresponding tables. -/
theorem run_simulates (hrevision : artifact'.revision = artifact.revision) :
    Simulates faults (Table.Corresponds R F) (run artifact registry).result
      (run artifact' registry).result := by
  simp only [run, Trail.result_andThen, Trail.result_lift, Trail.result_log, Trail.result_done,
    Except.ok_bind, hrevision]
  -- The order of evaluation is computed from the registry alone.
  refine (Simulates.refl (R := Eq) fun _ _ => rfl).bind ?_
  rintro schedule _ rfl
  refine (Simulates.refl (R := Eq) fun _ _ => rfl).bind ?_
  rintro waves _ rfl
  refine Simulates.map (Simulates.foldEach (S := Eq) (List.forall₂_same.2 fun _ _ => rfl)
    (Table.Corresponds.empty _ _) ?_) fun _ _ hfinal => hfinal
  rintro table table' wave _ htable rfl
  exact runWave_simulates hmapper htable wave

end Run

end Pass

end Reidentify

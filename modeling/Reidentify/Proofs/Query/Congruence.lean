import Reidentify.Proofs.Pass.Resolution
import Reidentify.Proofs.Query.Evaluation

/-!
# Tables that mappers cannot tell apart

A test of the library looks at a table for one purpose only, to find out what the mappers are bound
to that its types are taken from. A mapper looks at the table for its tests and for the owner of its
scope. So a mapper ends in the same way on two tables on which its tests have the same answers and
the owner of its scope is bound to the same entity.

## Main definitions

* `TypeRef.mapper?`: the mapper that a type is taken from.
* `Predicate.mappers`: the mappers that the types of a test are taken from.

## Main statements

* `Predicate.check_congr`: what a test of the library looks at.
* `Predicate.evaluate_congr`: a predicate looks at what its tests look at.
* `Mapper.resolve_congr`: what a mapper looks at.
-/

namespace Reidentify

variable {table table' : Table}

namespace TypeRef

/-- The mapper that a type is taken from, and `none` for a descriptor. -/
def mapper? : TypeRef → Option String
  | .literal _ => none
  | .mapped mapper _ => some mapper

/-- A type `ref` has the same descriptor on tables that bind its mapper to the same entity. -/
theorem resolve_congr {ref : TypeRef}
    (h : ∀ name, ref.mapper? = some name → table'.resolve name = table.resolve name) :
    ref.resolve table' = ref.resolve table := by
  cases ref with
  | literal descriptor => rfl
  | mapped mapper dimensions => rw [resolve_mapped, resolve_mapped, h mapper rfl]

/-- The types `refs` have the same descriptors on two tables if every single one of them has. -/
theorem resolveAll_congr {refs : List TypeRef}
    (h : ∀ ref ∈ refs, ref.resolve table' = ref.resolve table) :
    resolveAll table' refs = resolveAll table refs := by
  induction refs with
  | nil => rfl
  | cons ref rest ih =>
    obtain ⟨hfirst, hrest⟩ := List.forall_mem_cons.1 h
    rw [resolveAll_cons, resolveAll_cons, hfirst, ih hrest]

end TypeRef

namespace Predicate

/-- The names of the mappers that the `types` of `test` are taken from. -/
def mappers (test : Predicate) : List String :=
  test.types.filterMap TypeRef.mapper?

/-- A test of the library has the same answer on tables on which its types have the same
descriptors. -/
theorem check_congr_of_types {test : Predicate} (hlibrary : test.isLibrary = true)
    (h : ∀ ref ∈ test.types, ref.resolve table' = ref.resolve table) (entity : Entity) :
    test.check entity table' = test.check entity table := by
  cases test with
  | extendsType type | implementsType type | instanceFieldCount type _ | hasInstanceField type
  | ofType type | returns type | fieldOwnerIs type =>
    have htype := h type (List.mem_singleton_self type)
    simp only [check, htype]
  | argumentsStartWith refs =>
    have hrefs : TypeRef.resolveAll table' refs = TypeRef.resolveAll table refs :=
      TypeRef.resolveAll_congr h
    simp only [check, hrefs]
  | fieldAccess type | fieldWrite type =>
    cases type with
    | none => rfl
    | some type =>
      have htype := h type (List.mem_singleton_self type)
      simp only [check, htype]
  | test => cases hlibrary
  | _ => rfl

/-- A test of the library has the same answer on tables that bind its `mappers` to the same
entities. -/
theorem check_congr {test : Predicate} (hlibrary : test.isLibrary = true)
    (h : ∀ name ∈ test.mappers, table'.resolve name = table.resolve name) (entity : Entity) :
    test.check entity table' = test.check entity table := by
  refine check_congr_of_types hlibrary (fun ref href => TypeRef.resolve_congr fun name hname => ?_)
    entity
  exact h name (List.mem_filterMap.2 ⟨ref, href, hname⟩)

/-- A `predicate` has the same answer on tables on which its `tests` have the same answers for every
entity. -/
theorem evaluate_congr {predicate : Predicate}
    (h : ∀ test ∈ predicate.tests, ∀ entity, test.check entity table' = test.check entity table)
    (entity : Entity) :
    (predicate.evaluate table' entity).result = (predicate.evaluate table entity).result := by
  -- with equality as the relation of entities, a simulation on two tables says that the answers are
  -- equal
  have hbodies : BodiesCorrespond .same Eq := by
    rintro entity _ rfl
    exact Simulates.refl fun method _ => List.forall₂_same.2 fun _ _ => rfl
  refine (evaluate_simulates hbodies predicate ?_ entity entity rfl).eq
  rintro test htest entity _ rfl
  rw [h test htest entity]
  exact Simulates.refl fun _ _ => rfl

end Predicate

/-- A `scope` has the same candidates on tables that bind its owner to the same entity. -/
theorem Scope.candidates_congr {scope : Scope} (artifact : Artifact)
    (h : ∀ owner, scope.owner? = some owner → table'.resolve owner = table.resolve owner) :
    scope.candidates artifact table' = scope.candidates artifact table := by
  cases scope with
  | allClasses => rfl
  | inClass part owner => rw [candidates_inClass, candidates_inClass, h owner rfl]
  | inMethod owner => rw [candidates_inMethod, candidates_inMethod, h owner rfl]

/-- A `mapper` ends in the same way on tables that bind the owner of its scope to the same entity,
and on which its tests have the same answers. -/
theorem Mapper.resolve_congr {mapper : Mapper} (artifact : Artifact)
    (hscope : ∀ owner, mapper.scope.owner? = some owner →
      table'.resolve owner = table.resolve owner)
    (htests : ∀ test ∈ mapper.predicate.tests, ∀ entity,
      test.check entity table' = test.check entity table) :
    (mapper.resolve artifact table').result = (mapper.resolve artifact table).result := by
  have hmatching (candidates : List Entity) :
      (mapper.matching table' candidates).result = (mapper.matching table candidates).result := by
    refine Trail.result_keep_congr candidates fun candidate => ?_
    simp only [Trail.result_andThen, Predicate.evaluate_congr htests]
  simp only [resolve, resolveBy, Trail.result_andThen, Trail.result_lift,
    Scope.candidates_congr artifact hscope, hmatching]

end Reidentify

import Reidentify.Proofs.Trail.Simulation
import Reidentify.Query.Evaluation

/-!
# Evaluating a predicate in two settings

A predicate asks its questions through its tests: the parts that are neither conjunctions nor
quantify over the instructions of a method. If the answers of all tests in one setting, an entity
and a table, correspond to those in another one, so does the answer of the whole predicate.

## Main definitions

* `Predicate.tests`: the tests of a predicate, at any depth.
* `Predicate.types`: the types that a test compares with.
* `Predicate.isLibrary`: whether a test is none of one's own.

## Main statements

* `Predicate.evaluate_simulates`: evaluations correspond if all tests do.
-/

namespace Reidentify

namespace TypeRef

/-- The descriptor of the class that `mapper` is bound to, with array `dimensions`; any other entity
is a fault. -/
def ofBound (mapper : String) (dimensions : Int) : Entity → Except Fault String
  | .ofClass decl => .ok (Descriptor.arrayOf decl.type dimensions)
  | bound => .error (.configuration (.typeOwner mapper bound))

/-- A type that is taken from `mapper` is the entity that the table binds to it, read as a class by
`ofBound`. -/
theorem resolve_mapped (table : Table) (mapper : String) (dimensions : Int) :
    (mapped mapper dimensions).resolve table =
      table.resolve mapper >>= ofBound mapper dimensions := by
  rw [resolve]
  rcases table.resolve mapper with _ | (_ | _ | _ | _) <;> rfl

/-- The types of a list are read one after another, and the first fault ends the reading. -/
theorem resolveAll_cons (table : Table) (ref : TypeRef) (rest : List TypeRef) :
    resolveAll table (ref :: rest) = ref.resolve table >>= fun descriptor =>
      resolveAll table rest >>= fun others => .ok (descriptor :: others) := by
  rw [resolveAll]
  rcases ref.resolve table with _ | _
  · rfl
  · rcases resolveAll table rest with _ | _ <;> rfl

end TypeRef

namespace Predicate

/-- Whether a predicate is a test: `evaluate` asks `check` for its answer, and no other predicate.
-/
def isTest : Predicate → Bool
  | .containsInstruction _ | .lacksInstruction _ | .conjunction .. => false
  | _ => true

mutual

/-- The tests of a predicate, at any depth, in the order in which `Predicate.evaluate` tries them.
-/
def tests : Predicate → List Predicate
  | .containsInstruction predicate => predicate.tests
  | .lacksInstruction predicate => predicate.tests
  | .conjunction first rest => first.tests ++ testsOfAll rest
  | predicate => [predicate]

/-- The `tests` of several predicates, in their order. -/
def testsOfAll : List Predicate → List Predicate
  | [] => []
  | predicate :: rest => predicate.tests ++ testsOfAll rest

end

/-- The types that a test compares with, in the order in which `check` reads them. -/
def types : Predicate → List TypeRef
  | .extendsType type | .implementsType type | .instanceFieldCount type _
  | .hasInstanceField type | .ofType type | .returns type | .fieldOwnerIs type => [type]
  | .argumentsStartWith types => types
  | .fieldAccess type | .fieldWrite type => type.toList
  | _ => []

/-- Whether a test states a fixed structural fact, i.e. is none of one's own (`Predicate.test`). -/
def isLibrary : Predicate → Bool
  | .test .. => false
  | _ => true

/-- The result of evaluating a test is that of `Predicate.check`. -/
theorem result_evaluate_of_isTest {predicate : Predicate} (h : predicate.isTest = true)
    (table : Table) (entity : Entity) :
    (predicate.evaluate table entity).result = predicate.check entity table := by
  cases predicate with
  | containsInstruction => cases h
  | lacksInstruction => cases h
  | conjunction => cases h
  | _ => rfl

section Settings

variable {faults : FaultMatch} {R : Entity → Entity → Prop} {table table' : Table}

/-- The answers of `test` on `table` and on `table'` correspond, for all entities that are related
by `R`. -/
def Corresponds (faults : FaultMatch) (R : Entity → Entity → Prop) (table table' : Table)
    (test : Predicate) : Prop :=
  ∀ entity entity', R entity entity' →
    Simulates faults Eq (test.check entity table) (test.check entity' table')

/-- Entities that are related by `R` are both methods with related instructions, or neither is a
method. -/
def BodiesCorrespond (faults : FaultMatch) (R : Entity → Entity → Prop) : Prop :=
  ∀ entity entity', R entity entity' →
    Simulates faults
      (fun method method' => List.Forall₂
        (fun insn insn' => R (.ofInstruction insn) (.ofInstruction insn'))
        method.instructions method'.instructions)
      entity.needMethod entity'.needMethod

/-- Whether some instruction of a method satisfies `predicate` corresponds in the two settings, if
`predicate` does on related entities. -/
theorem exists_instruction_simulates (hbodies : BodiesCorrespond faults R)
    {predicate : Predicate}
    (hpart : ∀ entity entity', R entity entity' →
      Simulates faults Eq (predicate.evaluate table entity).result
        (predicate.evaluate table' entity').result)
    {entity entity' : Entity} (h : R entity entity') :
    Simulates faults Eq
      (entity.needMethod >>= fun method => (Trail.exists? method.instructions fun insn =>
        predicate.evaluate table (.ofInstruction insn)).result)
      (entity'.needMethod >>= fun method => (Trail.exists? method.instructions fun insn =>
        predicate.evaluate table' (.ofInstruction insn)).result) :=
  (hbodies entity entity' h).bind fun _ _ hbody =>
    Simulates.exists? hbody fun _ _ hinsn => hpart _ _ hinsn

mutual

/-- The answers of `predicate` in the two settings correspond if those of its `tests` do. -/
theorem evaluate_simulates (hbodies : BodiesCorrespond faults R) (predicate : Predicate)
    (htests : ∀ test ∈ predicate.tests, test.Corresponds faults R table table')
    (entity entity' : Entity) (h : R entity entity') :
    Simulates faults Eq (predicate.evaluate table entity).result
      (predicate.evaluate table' entity').result := by
  match predicate with
  | .containsInstruction part =>
    simp only [evaluate, Trail.result_andThen, Trail.result_emit, Trail.result_lift,
      Except.ok_bind]
    exact exists_instruction_simulates hbodies (evaluate_simulates hbodies part htests) h
  | .lacksInstruction part =>
    simp only [evaluate, Trail.result_andThen, Trail.result_emit, Trail.result_lift,
      Trail.result_done, Except.ok_bind, ← Except.bind_assoc]
    exact (exists_instruction_simulates hbodies (evaluate_simulates hbodies part htests) h).map
      fun _ _ heq => congrArg _ heq
  | .conjunction first rest =>
    simp only [evaluate, Trail.result_andThen]
    refine (evaluate_simulates hbodies first ?_ entity entity' h).bind ?_
    · exact fun test hmem => htests test (List.mem_append_left _ hmem)
    · -- the other parts are tried only if the first one holds, on both sides
      rintro holds _ rfl
      cases holds with
      | false => exact .ok rfl
      | true =>
        exact evaluateAll_simulates hbodies rest
          (fun test hmem => htests test (List.mem_append_right _ hmem)) entity entity' h
  | .extendsType _ | .implementsType _ | .instanceFieldCount .. | .hasInstanceField _
  | .selfLinks _ | .ofType _ | .returns _ | .argumentsStartWith _ | .argumentCount _
  | .opcodeIs _ | .pushesInt _ | .fieldAccess _ | .fieldWrite _ | .fieldOwnerIs _ | .test .. =>
    -- every other predicate is a test, and its own only test
    rw [result_evaluate_of_isTest rfl, result_evaluate_of_isTest rfl]
    exact htests _ (List.mem_singleton_self _) entity entity' h

/-- The answers of several `predicates` in the two settings correspond if those of their tests do.
-/
theorem evaluateAll_simulates (hbodies : BodiesCorrespond faults R) (predicates : List Predicate)
    (htests : ∀ test ∈ testsOfAll predicates, test.Corresponds faults R table table')
    (entity entity' : Entity) (h : R entity entity') :
    Simulates faults Eq (evaluateAll table predicates entity).result
      (evaluateAll table' predicates entity').result := by
  match predicates with
  | [] => exact .ok rfl
  | predicate :: rest =>
    simp only [evaluateAll, Trail.result_andThen]
    refine (evaluate_simulates hbodies predicate ?_ entity entity' h).bind ?_
    · exact fun test hmem => htests test (List.mem_append_left _ hmem)
    · rintro holds _ rfl
      cases holds with
      | false => exact .ok rfl
      | true =>
        -- the first predicate holds on both sides, so the rest is tried on both
        exact evaluateAll_simulates hbodies rest
          (fun test hmem => htests test (List.mem_append_right _ hmem)) entity entity' h

end

end Settings

end Predicate

end Reidentify

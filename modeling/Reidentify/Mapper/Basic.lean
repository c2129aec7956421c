import Reidentify.Mapper.Position
import Reidentify.Mapper.Scope
import Reidentify.Query.Predicate
import Reidentify.Text.Order

/-!
# Mappers

A mapper gives a name to an entity of an artifact: it looks for candidates in its scope, keeps
those that satisfy its predicate, and selects one of them. `Mapper.declare` refuses declarations
that make no sense, so that every mapper satisfies the conditions its type states.
-/

namespace Reidentify

/-- How a mapper selects one of the candidates that satisfy its predicate, with what the selection
needs. -/
inductive Strategy where
  /-- The only candidate is selected (`Mapper.selectOnly`). -/
  | identity
  /-- The candidate at `position` is selected (`Mapper.selectAt`). -/
  | order (position : Position)
  deriving DecidableEq

/-- The kind of a strategy, without the position of an `order`. -/
def Strategy.kind : Strategy → StrategyKind
  | .identity => .identity
  | .order _ => .order

/-- The position of a strategy that is an `order`, and `none` for `identity`. -/
def Strategy.position? : Strategy → Option Position
  | .identity => none
  | .order position => some position

/-- A rule that gives a name to an entity. Its last fields are what `Mapper.declare` has checked, so
there is no mapper without them. -/
structure Mapper where
  /-- The name that is given to the entity, and by which other mappers refer to this one. -/
  name : String
  /-- How the entity is selected. -/
  strategy : Strategy
  /-- What the entity satisfies. It may look at entities that the `dependencies` are bound to. -/
  predicate : Predicate
  /-- Where the entity is looked for. -/
  scope : Scope
  /-- The names of the mappers that are evaluated before this one, in ascending order. -/
  dependencies : List String
  /-- What the selected candidate is bound as, in `Mapper.bind`. -/
  target : Target
  /-- The names of the parameters of a method, for the file of hooks. -/
  parameters : Option (List String)
  /-- A mapper has a name. -/
  name_ne_empty : name ≠ ""
  /-- The scope allows the target, in the sense of `Scope.allows`. -/
  allows_target : scope.allows target = true
  /-- The mappers that are evaluated before are listed in order, each of them once. -/
  ascending_dependencies : Text.Ascending dependencies
  /-- The owner of the scope is evaluated before: it is one of the `dependencies`. -/
  owner_mem : ∀ owner, scope.owner? = some owner → owner ∈ dependencies
  /-- Only methods have parameters. -/
  target_of_parameters : parameters.isSome = true → target = .toMethod

/-- What a mapper is declared with. `Mapper.declare` makes the mapper of it or says what is wrong.
-/
structure MapperDeclaration where
  /-- The name that is given. -/
  name : String
  /-- The kind of selection, which decides whether there has to be a `position`. -/
  kind : StrategyKind
  /-- What the entity satisfies. -/
  predicate : Predicate
  /-- Where the entity is looked for. -/
  scope : Scope
  /-- Further mappers that are evaluated before this one; the owner of the scope need not be among
  them. -/
  dependencies : List String := []
  /-- The position of the selected candidate, for a `kind` that selects by position. -/
  position : Option Position := none
  /-- What the selected candidate is bound as, or `none` for `Scope.defaultTarget`. -/
  target : Option Target := none
  /-- The names of the parameters of a method. -/
  parameters : Option (List String) := none

namespace Mapper

/-- The strategy of this `kind` with this `position`, which has to be there exactly if the kind
needs it. -/
def strategyOf (name : String) (kind : StrategyKind) (position : Option Position) :
    Except Fault Strategy :=
  match kind, position with
  | .identity, none => .ok .identity
  | .order, some position => .ok (.order position)
  | .order, none => .error (.configuration (.missingPosition name))
  | .identity, some _ => .error (.configuration (.strayPosition name))

/-- The mapper of `declaration`. The first thing that is wrong with the declaration is the fault:
the name, the position, the target, the parameters. -/
def declare (declaration : MapperDeclaration) : Except Fault Mapper :=
  let name := declaration.name
  let scope := declaration.scope
  if hn : name = "" then .error (.configuration .unnamed)
  else
    match strategyOf name declaration.kind declaration.position with
    | .error fault => .error fault
    | .ok strategy =>
      let target := declaration.target.getD scope.defaultTarget
      if ht : scope.allows target = true then
        if hp : declaration.parameters.isSome = true ∧ target ≠ .toMethod then
          .error (.configuration (.strayParameters name))
        else
          .ok {
            name, strategy, scope, target
            predicate := declaration.predicate
            dependencies := Text.sortedNames (scope.owner?.toList ++ declaration.dependencies)
            parameters := declaration.parameters
            name_ne_empty := hn
            allows_target := ht
            ascending_dependencies := Text.ascending_sortedNames _
            owner_mem := by
              intro owner h
              simp [h]
            target_of_parameters := fun h => Decidable.byContradiction fun k => hp ⟨h, k⟩
          }
      else .error (.configuration (.impossibleTarget name target scope.kind))

/-- The words for `mapper`: its name, its strategy with those of its position, its scope and its
predicate. -/
def describe (mapper : Mapper) : Except Fault String := do
  let place ←
    match mapper.strategy.position? with
    | some position => (" " ++ ·) <$> position.describe
    | none => .ok ""
  return s!"{mapper.name} [{mapper.strategy.kind.name}{place}] in {mapper.scope.describe}: "
    ++ mapper.predicate.describe

/-- The short form of `mapper`, which shows its name and the kind of its strategy. -/
def summary (mapper : Mapper) : String :=
  s!"MapperSpec({mapper.name} via {mapper.strategy.kind.name})"

end Mapper

end Reidentify

import Reidentify.Mapper.Scope
import Reidentify.Outcome.Table

/-!
# Candidates

The candidates of a scope in an artifact, in the order of the artifact: classes in the order of
the document, members in the order of their declaration, instructions in the order of the body,
those of the constructors one constructor after another.
-/

namespace Reidentify

/-- The members of the class `decl` in one of its parts, as entities in the order of their
declaration. -/
def ClassPart.members (decl : ClassDecl) : ClassPart → List Entity
  | .instanceFields => decl.instanceFields.map .ofField
  | .staticFields => decl.staticFields.map .ofField
  | .instanceMethods => decl.instanceMethods.map .ofMethod
  | .staticMethods => decl.staticMethods.map .ofMethod
  | .constructorInstructions => decl.constructorInstructions.map .ofInstruction

/-- The candidates of `scope` in `artifact`. The owner has to be bound in `table`, to an entity of
the kind that the scope looks into. -/
def Scope.candidates (artifact : Artifact) (table : Table) (scope : Scope) :
    Except Fault (List Entity) :=
  match scope with
  | .allClasses => .ok (artifact.classes.map .ofClass)
  | .inMethod owner =>
    match table.resolve owner with
    | .error fault => .error fault
    | .ok (.ofMethod method) => .ok (method.instructions.map .ofInstruction)
    | .ok bound => .error (.configuration (.scopeOwner scope.describe owner .toMethod bound))
  | .inClass part owner =>
    match table.resolve owner with
    | .error fault => .error fault
    | .ok (.ofClass decl) => .ok (part.members decl)
    | .ok bound => .error (.configuration (.scopeOwner scope.describe owner .toClass bound))

end Reidentify

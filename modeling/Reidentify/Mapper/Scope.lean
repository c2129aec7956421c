import Reidentify.Fault

/-!
# Scopes

A scope says where a mapper looks for candidates: among all classes, among members of the class
that another mapper is bound to, or among the instructions of the method that another mapper is
bound to. That other mapper is the owner of the scope.
-/

namespace Reidentify

/-- The part of a class whose members a scope covers (`Scope.inClass`). -/
inductive ClassPart where
  /-- The fields of the instances. -/
  | instanceFields
  /-- The fields of the class itself. -/
  | staticFields
  /-- The methods of the instances. -/
  | instanceMethods
  /-- The methods of the class itself. -/
  | staticMethods
  /-- The instructions of the constructors. -/
  | constructorInstructions
  deriving DecidableEq, Repr

/-- Where a mapper looks for candidates. `Scope.candidates` are the entities that it finds there. -/
inductive Scope where
  /-- Among all classes of the artifact. -/
  | allClasses
  /-- In the `part` of the class that the mapper `owner` is bound to. -/
  | inClass (part : ClassPart) (owner : String)
  /-- Among the instructions of the method that the mapper `owner` is bound to. -/
  | inMethod (owner : String)
  deriving DecidableEq, Repr

/-- The kind of the scopes `Scope.inClass part owner`, whatever the owner is. -/
def ClassPart.kind : ClassPart → ScopeKind
  | .instanceFields => .instanceFields
  | .staticFields => .staticFields
  | .instanceMethods => .instanceMethods
  | .staticMethods => .staticMethods
  | .constructorInstructions => .constructorInstructions

namespace Scope

/-- The kind of a scope, without its owner. `Scope.make` puts the two together. -/
def kind : Scope → ScopeKind
  | .allClasses => .allClasses
  | .inClass part _ => part.kind
  | .inMethod _ => .methodInstructions

/-- The name of the mapper that the scope depends on, if it has an owner: `allClasses` has none. -/
def owner? : Scope → Option String
  | .allClasses => none
  | .inClass _ owner => some owner
  | .inMethod owner => some owner

/-- The name of the mapper for the class that the scope covers a part of. A scope in a method has
none. -/
def ownerClass? : Scope → Option String
  | .inClass _ owner => some owner
  | _ => none

/-- What the owner has to bind: a class for a part of a class, a method for its instructions. -/
def ownerTarget? : Scope → Option Target
  | .allClasses => none
  | .inClass .. => some .toClass
  | .inMethod _ => some .toMethod

/-- A scope of this `kind` with this `owner`. The empty name stands for no owner: every scope but
the one over all classes needs an owner, and that one takes none. -/
def make (kind : ScopeKind) (owner : String) : Except Fault Scope :=
  let owned (scope : Scope) : Except Fault Scope :=
    if owner.isEmpty then .error (.configuration (.missingOwner kind)) else .ok scope
  match kind with
  | .allClasses =>
    if owner.isEmpty then .ok .allClasses else .error (.configuration .strayOwner)
  | .instanceFields => owned (.inClass .instanceFields owner)
  | .staticFields => owned (.inClass .staticFields owner)
  | .instanceMethods => owned (.inClass .instanceMethods owner)
  | .staticMethods => owned (.inClass .staticMethods owner)
  | .constructorInstructions => owned (.inClass .constructorInstructions owner)
  | .methodInstructions => owned (.inMethod owner)

/-- A scope in words, its owner in angle brackets. -/
def describe : Scope → String
  | .allClasses => "all classes"
  | .inClass part owner => s!"{part.kind.words} of <{owner}>"
  | .inMethod owner => s!"instructions of method <{owner}>"

/-- What the candidates of the scope are bound as, unless the mapper says otherwise. An instruction
is bound as the field that it refers to. -/
def defaultTarget : Scope → Target
  | .allClasses => .toClass
  | .inClass .instanceFields _ | .inClass .staticFields _ => .toField
  | .inClass .instanceMethods _ | .inClass .staticMethods _ => .toMethod
  | .inClass .constructorInstructions _ | .inMethod _ => .toField

/-- Whether a candidate of `scope` can be bound as `target`. An instruction can be bound as itself
or as the member it refers to, any other candidate as itself only. -/
def allows (scope : Scope) (target : Target) : Bool :=
  match scope with
  | .inClass .constructorInstructions _ | .inMethod _ => target != .toClass
  | other => target == other.defaultTarget

end Scope

end Reidentify

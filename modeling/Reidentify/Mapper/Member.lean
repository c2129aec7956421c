import Reidentify.Mapper.Basic

/-!
# Mappers of the usual families

Mappers for classes, and mappers for the members of a class that another mapper is bound to. A
mapper for a member is named after its owner and the member, with a dot between them.
-/

namespace Reidentify.Mapper

/-- The name of the mapper for the member `member` of what `owner` is bound to, with a dot between
the two. -/
def memberName (owner member : String) : String :=
  owner ++ "." ++ member

/-- A mapper for the only class that satisfies `predicate`. -/
def forClass (name : String) (predicate : Predicate) (dependencies : List String) :
    Except Fault Mapper :=
  declare { name, kind := .identity, predicate, scope := .allClasses, dependencies }

/-- A mapper for the only member that satisfies `predicate` in a part of the class that `owner` is
bound to. The part is that of the scope of this `kind`. -/
def forMember (kind : ScopeKind) (owner member : String) (predicate : Predicate)
    (dependencies : List String) (parameters : Option (List String)) : Except Fault Mapper :=
  match Scope.make kind owner with
  | .error fault => .error fault
  | .ok scope =>
    declare {
      name := memberName owner member
      kind := .identity
      predicate, scope, dependencies, parameters
    }

/-- A mapper for the member that the instruction at a position refers to. The instructions are those
of the scope, of this `kind` and with `scopeOwner`, that satisfy `predicate`. -/
def forReference (kind : ScopeKind) (scopeOwner owner member : String) (predicate : Predicate)
    (target : Target) (index : Whole) (groupSize : Option Whole) (dependencies : List String)
    (parameters : Option (List String)) : Except Fault Mapper :=
  match Scope.make kind scopeOwner with
  | .error fault => .error fault
  | .ok scope =>
    match Position.make index groupSize with
    | .error fault => .error fault
    | .ok position =>
      declare {
        name := memberName owner member
        kind := .order
        predicate, scope, dependencies, parameters
        position := some position
        target := some target
      }

/-- A mapper for a field of the instances of the class that `owner` is bound to. -/
def instanceField (owner field : String) (predicate : Predicate) (dependencies : List String) :
    Except Fault Mapper :=
  forMember .instanceFields owner field predicate dependencies none

/-- A mapper for a field of the class itself that `owner` is bound to. -/
def staticField (owner field : String) (predicate : Predicate) (dependencies : List String) :
    Except Fault Mapper :=
  forMember .staticFields owner field predicate dependencies none

/-- A mapper for a method of the instances of the class that `owner` is bound to. -/
def instanceMethod (owner method : String) (predicate : Predicate) (dependencies : List String)
    (parameters : Option (List String)) : Except Fault Mapper :=
  forMember .instanceMethods owner method predicate dependencies parameters

/-- A mapper for a method of the class itself that `owner` is bound to. -/
def staticMethod (owner method : String) (predicate : Predicate) (dependencies : List String)
    (parameters : Option (List String)) : Except Fault Mapper :=
  forMember .staticMethods owner method predicate dependencies parameters

/-- A mapper for the field that the instruction at `index` in the constructors of a class refers to.
The class is the one that `owner` is bound to. -/
def constructorField (owner field : String) (predicate : Predicate) (index : Whole)
    (groupSize : Option Whole) (dependencies : List String) : Except Fault Mapper :=
  forReference .constructorInstructions owner owner field predicate .toField index groupSize
    dependencies none

/-- A mapper for the field that the instruction at `index` in a method refers to. The method is the
one that `method` is bound to, the name is that of a member of `owner`. -/
def methodField (method owner field : String) (predicate : Predicate) (index : Whole)
    (groupSize : Option Whole) (dependencies : List String) : Except Fault Mapper :=
  forReference .methodInstructions method owner field predicate .toField index groupSize
    dependencies none

/-- A mapper for the method that the instruction at `index` in a method calls. The name is that of a
member of `owner`. -/
def methodInvocation (method owner name : String) (predicate : Predicate) (index : Whole)
    (groupSize : Option Whole) (dependencies : List String) (parameters : Option (List String)) :
    Except Fault Mapper :=
  forReference .methodInstructions method owner name predicate .toMethod index groupSize
    dependencies parameters

end Reidentify.Mapper

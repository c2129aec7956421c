import Reidentify.Value.Basic

/-!
# Kinds of mappers

The enumerations that describe a mapper: how it selects, where it looks, and what it binds. Each
of their members has a name in documents and messages, and reading the name gives the member
back.
-/

namespace Reidentify

/-- How a mapper selects one of the candidates that satisfy its predicate. `Strategy` adds the
position. -/
inductive StrategyKind where
  /-- The only candidate is selected. -/
  | identity
  /-- The candidate at a position is selected. -/
  | order
  deriving DecidableEq, Repr

/-- Where a mapper looks for candidates. `Scope` adds the mapper that the place belongs to. -/
inductive ScopeKind where
  /-- Among all classes. -/
  | allClasses
  /-- Among the fields of the instances of a class. -/
  | instanceFields
  /-- Among the fields of a class itself. -/
  | staticFields
  /-- Among the methods of the instances of a class. -/
  | instanceMethods
  /-- Among the methods of a class itself. -/
  | staticMethods
  /-- Among the instructions of the constructors of a class. -/
  | constructorInstructions
  /-- Among the instructions of a method. -/
  | methodInstructions
  deriving DecidableEq, Repr

/-- What a mapper binds, one of the four kinds of entities. `Entity.target` is the target that an
entity fits. -/
inductive Target where
  /-- A class. -/
  | toClass
  /-- A field. -/
  | toField
  /-- A method. -/
  | toMethod
  /-- An instruction. -/
  | toInstruction
  deriving DecidableEq, Repr

namespace StrategyKind

/-- The name of a strategy in documents and messages, which `ofName?` reads back. -/
def name : StrategyKind → String
  | .identity => "identity"
  | .order => "order"

/-- The strategy that a text names, if it is the `name` of one. -/
def ofName? : String → Option StrategyKind
  | "identity" => some .identity
  | "order" => some .order
  | _ => none

/-- A strategy is read back by `ofName?` from the name that `name` gives it. -/
@[simp] theorem ofName?_name (kind : StrategyKind) : ofName? kind.name = some kind := by
  cases kind <;> rfl

end StrategyKind

namespace ScopeKind

/-- The name of a kind of scope in documents and messages, which `ofName?` reads back. -/
def name : ScopeKind → String
  | .allClasses => "all_classes"
  | .instanceFields => "instance_fields"
  | .staticFields => "static_fields"
  | .instanceMethods => "instance_methods"
  | .staticMethods => "static_methods"
  | .constructorInstructions => "constructor_instructions"
  | .methodInstructions => "method_instructions"

/-- The kind of scope that a text names, if it is the `name` of one. -/
def ofName? : String → Option ScopeKind
  | "all_classes" => some .allClasses
  | "instance_fields" => some .instanceFields
  | "static_fields" => some .staticFields
  | "instance_methods" => some .instanceMethods
  | "static_methods" => some .staticMethods
  | "constructor_instructions" => some .constructorInstructions
  | "method_instructions" => some .methodInstructions
  | _ => none

/-- A kind of scope is read back from its name by `ofName?`. -/
@[simp] theorem ofName?_name (kind : ScopeKind) : ofName? kind.name = some kind := by
  cases kind <;> rfl

/-- The name of a kind of scope as it stands in a sentence, with spaces for the underscores. -/
def words : ScopeKind → String
  | .allClasses => "all classes"
  | .instanceFields => "instance fields"
  | .staticFields => "static fields"
  | .instanceMethods => "instance methods"
  | .staticMethods => "static methods"
  | .constructorInstructions => "constructor instructions"
  | .methodInstructions => "method instructions"

end ScopeKind

namespace Target

/-- The name of a target in documents and messages, which `ofName?` reads back. -/
def name : Target → String
  | .toClass => "class"
  | .toField => "field"
  | .toMethod => "method"
  | .toInstruction => "instruction"

/-- The target that a text names, if it is the `name` of one. -/
def ofName? : String → Option Target
  | "class" => some .toClass
  | "field" => some .toField
  | "method" => some .toMethod
  | "instruction" => some .toInstruction
  | _ => none

/-- A target is read back by `ofName?` from the name that `name` gives it. -/
@[simp] theorem ofName?_name (target : Target) : ofName? target.name = some target := by
  cases target <;> rfl

end Target

/-- An enumeration whose members are chosen by name, as `ValueFault.notMember` refers to it. -/
inductive Enumeration where
  /-- The strategies. -/
  | strategies
  /-- The kinds of scopes. -/
  | scopeKinds
  /-- The targets. -/
  | targets
  deriving DecidableEq, Repr

/-- The name of an enumeration in a message about a text that names none of its members. -/
def Enumeration.label : Enumeration → String
  | .strategies => "MapperKind"
  | .scopeKinds => "ScopeKind"
  | .targets => "Target"

end Reidentify

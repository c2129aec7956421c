import Reidentify.Query.TypeRef

/-!
# Predicates

A predicate is a structural test of one entity. Most predicates state a fact of a class, a
field, a method or an instruction, possibly in terms of the classes that other mappers are bound
to. Predicates are combined by conjunction only. Every predicate describes itself.
-/

namespace Reidentify

/-- A structural test of one entity. `Predicate.evaluate` says whether it holds,
`Predicate.describe` what it states. -/
inductive Predicate where
  /-- The superclass of a class is `type`. -/
  | extendsType (type : TypeRef)
  /-- A class implements the interface `type`. -/
  | implementsType (type : TypeRef)
  /-- A class has `count` fields of `type` in its instances. -/
  | instanceFieldCount (type : TypeRef) (count : Value)
  /-- A class has a field of `type` in its instances. -/
  | hasInstanceField (type : TypeRef)
  /-- A class has `count` fields of its own type in its instances. -/
  | selfLinks (count : Value)
  /-- The type of a field, or of a class as a type, is `type`. -/
  | ofType (type : TypeRef)
  /-- The result of a method has the type `type`. -/
  | returns (type : TypeRef)
  /-- The first arguments of a method have the types `types`. -/
  | argumentsStartWith (types : List TypeRef)
  /-- A method has `count` arguments. -/
  | argumentCount (count : Value)
  /-- Some instruction of a method satisfies `predicate`. -/
  | containsInstruction (predicate : Predicate)
  /-- No instruction of a method satisfies `predicate`. -/
  | lacksInstruction (predicate : Predicate)
  /-- The operation of an instruction is `opcode`. -/
  | opcodeIs (opcode : Value)
  /-- An instruction pushes the integer `value`. -/
  | pushesInt (value : Value)
  /-- An instruction reads or writes a field, of the type `type` if there is one. -/
  | fieldAccess (type : Option TypeRef)
  /-- An instruction writes a field, of the type `type` if there is one. -/
  | fieldWrite (type : Option TypeRef)
  /-- An instruction reads or writes a field that it looks up in the class of the type `type`. -/
  | fieldOwnerIs (type : TypeRef)
  /-- A test `check` of one's own, with its description. A `probe` is a test whose runs are
  followed. -/
  | test (description : String) (probe : Bool) (check : Entity → Table → Except Fault Bool)
  /-- All of the given predicates hold; they are tried in order, up to the first that does
  not. -/
  | conjunction (first : Predicate) (rest : List Predicate)

namespace Predicate

mutual

/-- What a predicate states, in words. The parts of a conjunction are joined by a word for it. -/
def describe : Predicate → String
  | .extendsType type => "extends " ++ type.describe
  | .implementsType type => "implements " ++ type.describe
  | .instanceFieldCount type count => s!"{count.plain} instance fields of {type.describe}"
  | .hasInstanceField type => "has instance field of " ++ type.describe
  | .selfLinks count => s!"{count.plain} instance fields of its own type"
  | .ofType type => "type is " ++ type.describe
  | .returns type => "returns " ++ type.describe
  | .argumentsStartWith types =>
    "arguments start with (" ++ ", ".intercalate (types.map TypeRef.describe) ++ ")"
  | .argumentCount count => s!"{count.plain} arguments"
  | .containsInstruction predicate => "contains instruction (" ++ predicate.describe ++ ")"
  | .lacksInstruction predicate => "contains no instruction (" ++ predicate.describe ++ ")"
  | .opcodeIs opcode => s!"opcode {opcode.plain}"
  | .pushesInt value => s!"pushes int {value.plain}"
  | .fieldAccess none => "field access"
  | .fieldAccess (some type) => "field access of " ++ type.describe
  | .fieldWrite none => "field write"
  | .fieldWrite (some type) => "field write of " ++ type.describe
  | .fieldOwnerIs type => "field owner is " ++ type.describe
  | .test description _ _ => description
  | .conjunction first rest => first.describe ++ describeRest rest

/-- The further parts of a `conjunction` in words, each behind the word that joins it. -/
def describeRest : List Predicate → String
  | [] => ""
  | predicate :: rest => " and " ++ predicate.describe ++ describeRest rest

end

/-- The parts of a predicate: those of a conjunction, and of any other predicate itself. Parts that
are conjunctions stay whole. -/
def leaves : Predicate → List Predicate
  | .conjunction first rest => first :: rest
  | predicate => [predicate]

/-- A predicate that holds if both `a` and `b` hold; their `leaves` become the parts of one
conjunction. -/
def and (a b : Predicate) : Predicate :=
  match a.leaves ++ b.leaves with
  | [] => a
  | first :: rest => .conjunction first rest

/-- A test `holds` of the entity alone, with its description, which does not look at the table. -/
def ofEntity (description : String) (holds : Entity → Except Fault Bool) : Predicate :=
  .test description false fun entity _ => holds entity

/-- A predicate that holds if `predicate` does and, behind it, the test `holds` of the entity alone.
-/
def andOfEntity (predicate : Predicate) (description : String)
    (holds : Entity → Except Fault Bool) : Predicate :=
  predicate.and (ofEntity description holds)

/-- A predicate that holds if all `predicates` hold. A single one is left as it is, the `leaves` of
several are joined. -/
def allOf (predicates : List Predicate) : Except Fault Predicate :=
  match predicates with
  | [predicate] => .ok predicate
  | _ =>
    match predicates.flatMap leaves with
    | [] => .error (.value .emptyConjunction)
    | first :: rest => .ok (.conjunction first rest)

/-- The conjunction of `predicates`, which become its parts as they are. -/
def conjunctionOf (predicates : List Predicate) : Except Fault Predicate :=
  match predicates with
  | [] => .error (.value .emptyConjunction)
  | first :: rest => .ok (.conjunction first rest)

/-- The short form of `predicate`, its description together with its kind. -/
def rendered (predicate : Predicate) : String :=
  match predicate with
  | .conjunction _ rest =>
    let count := rest.length + 1
    s!"Conjunction({count} leaves: {Text.quoted predicate.describe})"
  | _ => s!"Predicate({Text.quoted predicate.describe})"

end Predicate

end Reidentify

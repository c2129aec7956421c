import Reidentify.Query.Event

/-!
# Evaluating predicates

A predicate is evaluated on an entity and a table. It holds, does not hold, or ends with a
fault: an entity of the wrong kind lacks what the predicate asks for, and a mapper that a type
is taken from may not be bound to a class. Every part of a predicate that is tried leaves an
event.
-/

namespace Reidentify

namespace Entity

/-- The class `decl` that an entity `.ofClass decl` is; others have no attributes of a class. -/
def needClass : Entity → Except Fault ClassDecl
  | .ofClass decl => .ok decl
  | _ => .error .noAttribute

/-- The method `decl` that an entity `.ofMethod decl` is; others have no attributes of a method. -/
def needMethod : Entity → Except Fault MethodDecl
  | .ofMethod decl => .ok decl
  | _ => .error .noAttribute

/-- The instruction that an entity `.ofInstruction instruction` is; others have no attributes of an
instruction. -/
def needInstruction : Entity → Except Fault Instruction
  | .ofInstruction instruction => .ok instruction
  | _ => .error .noAttribute

/-- The type of an entity that has one: the descriptor of a class or of a field. -/
def needType : Entity → Except Fault String
  | .ofClass decl => .ok decl.type
  | .ofField field => .ok field.descriptor
  | _ => .error .noAttribute

end Entity

/-- The argument and result types of `method`, whose descriptor has to be well formed. -/
def MethodDecl.needSignature (method : MethodDecl) : Except Fault Descriptor.Signature :=
  match method.signature? with
  | some signature => .ok signature
  | none => .error (.value (.methodDescriptor method.descriptor))

/-- How many fields of the instances of `decl` have the descriptor `type`. -/
def ClassDecl.countInstanceFields (decl : ClassDecl) (type : String) : Nat :=
  decl.instanceFields.countP fun field => field.descriptor == type

namespace Predicate

/-- Whether a part of a predicate that asks about `entity` itself holds. The two predicates about
the instructions of a method and conjunctions are evaluated in terms of their parts, by `evaluate`.
-/
def check (entity : Entity) (table : Table) : Predicate → Except Fault Bool
  | .extendsType type => do
    -- the order of the lookups decides which fault comes first
    let decl ← entity.needClass
    let wanted ← type.resolve table
    return decl.superType == wanted
  | .implementsType type => do
    let wanted ← type.resolve table
    let decl ← entity.needClass
    return decl.interfaceTypes.contains wanted
  | .instanceFieldCount type count => do
    let wanted ← type.resolve table
    let decl ← entity.needClass
    return (Value.int (decl.countInstanceFields wanted)).equals count
  | .hasInstanceField type => do
    let wanted ← type.resolve table
    let decl ← entity.needClass
    return decl.instanceFields.any fun field => field.descriptor == wanted
  | .selfLinks count => do
    let decl ← entity.needClass
    return (Value.int (decl.countInstanceFields decl.type)).equals count
  | .ofType type => do
    let found ← entity.needType
    let wanted ← type.resolve table
    return found == wanted
  | .returns type => do
    let method ← entity.needMethod
    let signature ← method.needSignature
    let wanted ← type.resolve table
    return signature.result == wanted
  | .argumentsStartWith types => do
    let wanted ← TypeRef.resolveAll table types
    let method ← entity.needMethod
    let signature ← method.needSignature
    return signature.arguments.take wanted.length == wanted
  | .argumentCount count => do
    let method ← entity.needMethod
    let signature ← method.needSignature
    return (Value.int signature.arguments.length).equals count
  | .opcodeIs opcode => do
    let insn ← entity.needInstruction
    return insn.opcode.toValue.equals opcode
  | .pushesInt value => do
    let insn ← entity.needInstruction
    return insn.opcode.isIntPush && insn.integer.equals value
  | .fieldAccess none => do
    let insn ← entity.needInstruction
    return insn.isField
  | .fieldAccess (some type) => do
    let insn ← entity.needInstruction
    if insn.isField then
      let wanted ← type.resolve table
      return insn.field.descriptor.equals (.str wanted)
    else return false
  | .fieldWrite none => do
    let insn ← entity.needInstruction
    return insn.isFieldWrite
  | .fieldWrite (some type) => do
    let insn ← entity.needInstruction
    if insn.isFieldWrite then
      let wanted ← type.resolve table
      return insn.field.descriptor.equals (.str wanted)
    else return false
  | .fieldOwnerIs type => do
    let insn ← entity.needInstruction
    if insn.isField then
      let wanted ← type.resolve table
      return Descriptor.ofClass insn.field.owner.plain == wanted
    else return false
  | .test _ _ holds => holds entity table
  | .containsInstruction _ | .lacksInstruction _ | .conjunction .. => .ok true

mutual

/-- Whether a predicate holds for an entity, given the outcomes of `table`. Every part that is tried
leaves an event. -/
def evaluate (table : Table) : Predicate → Entity → Trail Event Bool
  | .conjunction first rest, entity =>
    (first.evaluate table entity).andThen fun holds =>
      if holds then evaluateAll table rest entity else .done false
  | .containsInstruction predicate, entity =>
    (Trail.emit (.tried (.containsInstruction predicate) entity)).andThen fun _ =>
      (Trail.lift entity.needMethod).andThen fun method =>
        Trail.exists? method.instructions fun insn =>
          predicate.evaluate table (.ofInstruction insn)
  | .lacksInstruction predicate, entity =>
    (Trail.emit (.tried (.lacksInstruction predicate) entity)).andThen fun _ =>
      (Trail.lift entity.needMethod).andThen fun method =>
        (Trail.exists? method.instructions fun insn =>
          predicate.evaluate table (.ofInstruction insn)).andThen fun found => .done !found
  | predicate, entity =>
    (Trail.emit (.tried predicate entity)).andThen fun _ =>
      Trail.lift (predicate.check entity table)

/-- Whether all predicates of a list hold on `table`; those behind the first that does not are not
tried. -/
def evaluateAll (table : Table) : List Predicate → Entity → Trail Event Bool
  | [], _ => .done true
  | predicate :: rest, entity =>
    (predicate.evaluate table entity).andThen fun holds =>
      if holds then evaluateAll table rest entity else .done false

end

end Predicate

end Reidentify

import Reidentify.Artifact.Descriptor
import Reidentify.Artifact.Opcode

/-!
# Entities of an artifact

An artifact consists of classes; a class has fields and methods, a method has instructions. All
of them are plain values that name their owners. Operands of instructions are whatever the
document gives: an operand that is not there is the absent value. Entities are equal if they agree
in everything, where numbers that are written in different ways count as the same number.
-/

namespace Reidentify

/-- The member that an instruction refers to. The three parts are values of the document and need
not be texts. -/
structure MemberRef where
  /-- The name of the class that the member is looked up in. -/
  owner : Value
  /-- The name of the member. -/
  name : Value
  /-- The descriptor of the member. -/
  descriptor : Value
  deriving DecidableEq

/-- An instruction inside the body of a method, which `owner`, `method` and `descriptor` name. -/
structure Instruction where
  /-- The class of the method. -/
  owner : String
  /-- The name of the method. -/
  method : String
  /-- The descriptor of the method. -/
  descriptor : String
  /-- The position in the body, counted from zero. -/
  index : Nat
  /-- The operation. -/
  opcode : Opcode
  /-- The integer that is written with the operation, absent for most operations. -/
  integer : Value
  /-- The constant that is loaded, absent for most operations. -/
  constant : Value
  /-- The field that is read or written; its parts are absent for other operations. -/
  field : MemberRef
  /-- The method that is called; its parts are absent for other operations. -/
  callee : MemberRef
  /-- The type that is created or checked for. -/
  typeName : Value
  deriving DecidableEq

/-- A field as the class `owner` declares it, with its `name`, its `descriptor` and its `access`
bits. -/
structure FieldDecl where
  /-- The class that declares the field. -/
  owner : String
  /-- The name of the field. -/
  name : String
  /-- The descriptor of its type. -/
  descriptor : String
  /-- The access bits, read by `FieldDecl.isStatic` and `FieldDecl.isFinal`. -/
  access : Int
  deriving DecidableEq

/-- A method as the class `owner` declares it, with the `instructions` of its body. -/
structure MethodDecl where
  /-- The class that declares the method. -/
  owner : String
  /-- The name of the method. -/
  name : String
  /-- The descriptor of its arguments and its result. -/
  descriptor : String
  /-- The access bits, read by `MethodDecl.isStatic` and `MethodDecl.isAbstract`. -/
  access : Int
  /-- The body, in order; `Instruction.index` is the position in this list. -/
  instructions : List Instruction
  deriving DecidableEq

/-- A class with its `fields` and its `methods` in the order of their declaration. -/
structure ClassDecl where
  /-- The name of the class. -/
  name : String
  /-- The name of its superclass, any value that the document gives. -/
  superName : Value
  /-- The names of the interfaces it implements. -/
  interfaces : List String
  /-- The access bits, read by `ClassDecl.isInterface` and `ClassDecl.isAbstract`. -/
  access : Int
  /-- The fields in the order of their declaration. -/
  fields : List FieldDecl
  /-- The methods in the order of their declaration, constructors included. -/
  methods : List MethodDecl
  deriving DecidableEq

/-- The `classes` of one artifact and the label of its `revision`. -/
structure Artifact where
  /-- The classes in the order of the document. -/
  classes : List ClassDecl
  /-- The label of the revision, the empty text if there is none. -/
  revision : String
  deriving DecidableEq

/-- Anything in an artifact that can be looked for. `Entity.kindLabel` names the four kinds. -/
inductive Entity where
  /-- A class. -/
  | ofClass (decl : ClassDecl)
  /-- A field. -/
  | ofField (decl : FieldDecl)
  /-- A method. -/
  | ofMethod (decl : MethodDecl)
  /-- An instruction. -/
  | ofInstruction (instruction : Instruction)
  deriving DecidableEq

namespace Instruction

/-- Whether `insn` reads or writes a field, as its operation says (`Opcode.isField`). -/
def isField (insn : Instruction) : Bool := insn.opcode.isField

/-- Whether `insn` writes a field, as its operation says (`Opcode.isFieldWrite`). -/
def isFieldWrite (insn : Instruction) : Bool := insn.opcode.isFieldWrite

/-- Whether `insn` calls a method by its name, as its operation says (`Opcode.isCall`). -/
def isCall (insn : Instruction) : Bool := insn.opcode.isCall

/-- What `insn` is shown as: its place, its operation and, where it has one, the member or the
integer it refers to. -/
def describe (insn : Instruction) : String :=
  let base := s!"{insn.owner}.{insn.method}{insn.descriptor}@{insn.index} op="
    ++ insn.opcode.toValue.plain
  if insn.isField then
    base ++ " " ++ insn.field.owner.plain ++ "." ++ insn.field.name.plain ++ ":"
      ++ insn.field.descriptor.plain
  else if insn.isCall then
    base ++ " " ++ insn.callee.owner.plain ++ "." ++ insn.callee.name.plain
      ++ insn.callee.descriptor.plain
  else if insn.integer.isNull then base
  else base ++ " " ++ insn.integer.plain

/-- The operands of `insn`, in a fixed order, absent ones included. -/
def operands (insn : Instruction) : List Value :=
  [insn.integer, insn.constant, insn.field.owner, insn.field.name, insn.field.descriptor,
    insn.callee.owner, insn.callee.name, insn.callee.descriptor, insn.typeName]

/-- Whether `a` and `b` are equal: at the same place, with operations of the same number and
operands that are equal by `Value.equalItems`. -/
def equals (a b : Instruction) : Bool :=
  a.owner == b.owner && a.method == b.method && a.descriptor == b.descriptor
    && a.index == b.index && a.opcode.code == b.opcode.code
    && Value.equalItems a.operands b.operands

end Instruction

/-- The mark of a static member in a description, which depends on its `access` bits only. -/
def staticMark (access : Int) : String :=
  if AccessFlag.isStatic.isSet access then " [static]" else ""

namespace FieldDecl

/-- Whether `field` belongs to the class and not to its instances. -/
def isStatic (field : FieldDecl) : Bool := AccessFlag.isStatic.isSet field.access

/-- Whether `field` is assigned once, as its `access` bits say. -/
def isFinal (field : FieldDecl) : Bool := AccessFlag.isFinal.isSet field.access

/-- What `field` is shown as: its class, its name, its descriptor and the mark of a static member.
-/
def describe (field : FieldDecl) : String :=
  s!"{field.owner}.{field.name}:{field.descriptor}" ++ staticMark field.access

end FieldDecl

namespace MethodDecl

/-- The name that every constructor has, which `isConstructor` looks for. -/
def constructorName : String := "<init>"

/-- The name of the method that initialises a class, which `isInitializer` looks for. -/
def initializerName : String := "<clinit>"

/-- The argument and result types of `method`, or `none` if its descriptor is malformed. -/
def signature? (method : MethodDecl) : Option Descriptor.Signature :=
  Descriptor.Signature.parse? method.descriptor

/-- Whether `method` is a constructor, by its name alone. -/
def isConstructor (method : MethodDecl) : Bool := method.name == constructorName

/-- Whether `method` initialises its class, by its name alone. -/
def isInitializer (method : MethodDecl) : Bool := method.name == initializerName

/-- Whether `method` belongs to the class and not to its instances. -/
def isStatic (method : MethodDecl) : Bool := AccessFlag.isStatic.isSet method.access

/-- Whether `method` has no implementation, as its `access` bits say. -/
def isAbstract (method : MethodDecl) : Bool := AccessFlag.isAbstract.isSet method.access

/-- What `method` is shown as: its class, its name, its descriptor and the mark of a static member.
-/
def describe (method : MethodDecl) : String :=
  s!"{method.owner}.{method.name}{method.descriptor}" ++ staticMark method.access

/-- Whether the methods `a` and `b` are equal, their bodies instruction by instruction. -/
def equals (a b : MethodDecl) : Bool :=
  a.owner == b.owner && a.name == b.name && a.descriptor == b.descriptor && a.access == b.access
    && a.instructions.isEqv b.instructions Instruction.equals

end MethodDecl

namespace ClassDecl

/-- The descriptor of the class `decl` itself, `Descriptor.ofClass` of its name. -/
def type (decl : ClassDecl) : String := Descriptor.ofClass decl.name

/-- The descriptor of the superclass of `decl`, whatever value names it. -/
def superType (decl : ClassDecl) : String := Descriptor.ofClass decl.superName.plain

/-- The descriptors of the `interfaces` of `decl`, in the order in which it names them. -/
def interfaceTypes (decl : ClassDecl) : List String := decl.interfaces.map Descriptor.ofClass

/-- Whether `decl` is an interface, as its `access` bits say. -/
def isInterface (decl : ClassDecl) : Bool := AccessFlag.isInterface.isSet decl.access

/-- Whether `decl` is abstract, as its `access` bits say. -/
def isAbstract (decl : ClassDecl) : Bool := AccessFlag.isAbstract.isSet decl.access

/-- The fields of `decl` that belong to the instances: those that are not static. -/
def instanceFields (decl : ClassDecl) : List FieldDecl :=
  decl.fields.filter fun field => !field.isStatic

/-- The fields of `decl` that belong to the class: those that are static. -/
def staticFields (decl : ClassDecl) : List FieldDecl :=
  decl.fields.filter fun field => field.isStatic

/-- The constructors of `decl` (`isConstructor`), static ones included. -/
def constructors (decl : ClassDecl) : List MethodDecl :=
  decl.methods.filter fun method => method.isConstructor

/-- The methods of `decl` that belong to the instances: those that are not static, without the
constructors and the initializer. -/
def instanceMethods (decl : ClassDecl) : List MethodDecl :=
  decl.methods.filter fun method =>
    !method.isStatic && !method.isConstructor && !method.isInitializer

/-- The methods of `decl` that belong to the class: those that are static, without the initializer.
A constructor that is static is among them. -/
def staticMethods (decl : ClassDecl) : List MethodDecl :=
  decl.methods.filter fun method => method.isStatic && !method.isInitializer

/-- The instructions of all `constructors` of `decl`, one body after the other. -/
def constructorInstructions (decl : ClassDecl) : List Instruction :=
  decl.constructors.flatMap (·.instructions)

/-- What the class `decl` is shown as together with its superclass. -/
def describe (decl : ClassDecl) : String :=
  decl.name ++ " extends " ++ decl.superName.plain

/-- The short form of the class `decl`, with the numbers of its `fields` and `methods`. -/
def summary (decl : ClassDecl) : String :=
  let fields := decl.fields.length
  let methods := decl.methods.length
  "ClassEntity(" ++ decl.name ++ " : " ++ decl.superName.plain
    ++ s!", {fields} fields, {methods} methods)"

/-- Whether the classes `a` and `b` are equal, their members one by one in the same order. -/
def equals (a b : ClassDecl) : Bool :=
  a.name == b.name && Value.equalItems [a.superName] [b.superName]
    && a.interfaces == b.interfaces && a.access == b.access && a.fields == b.fields
    && a.methods.isEqv b.methods MethodDecl.equals

end ClassDecl

namespace Artifact

/-- The artifact `artifact` by the number of its classes and its revision, if it has one. -/
def summary (artifact : Artifact) : String :=
  let revision := if artifact.revision.isEmpty then "" else " rev " ++ artifact.revision
  let classes := artifact.classes.length
  s!"EntityModel({classes} classes{revision})"

end Artifact

namespace Entity

/-- What an entity is shown as in a report: a class by its name, the others by their own `describe`.
-/
def describe : Entity → String
  | .ofClass decl => decl.name
  | .ofField decl => decl.describe
  | .ofMethod decl => decl.describe
  | .ofInstruction instruction => instruction.describe

/-- The name of the kind of an entity in a message, one word for every constructor of `Entity`. -/
def kindLabel : Entity → String
  | .ofClass _ => "ClassEntity"
  | .ofField _ => "FieldEntity"
  | .ofMethod _ => "MethodEntity"
  | .ofInstruction _ => "InstructionEntity"

/-- The instruction `i` that an entity `.ofInstruction i` is, and `none` for a declaration. -/
def instruction? : Entity → Option Instruction
  | .ofInstruction instruction => some instruction
  | _ => none

/-- Whether two entities are equal as records; entities of two kinds never are. -/
def equals : Entity → Entity → Bool
  | .ofClass a, .ofClass b => a.equals b
  | .ofField a, .ofField b => a == b
  | .ofMethod a, .ofMethod b => a.equals b
  | .ofInstruction a, .ofInstruction b => a.equals b
  | _, _ => false

end Entity

/-- What identifies an entity inside an artifact: the names it has, without its contents.
`Entity.ref` takes it from an entity. -/
inductive EntityRef where
  /-- A class by its name. -/
  | toClass (name : String)
  /-- A field by its class, its name and its descriptor. -/
  | toField (owner name descriptor : String)
  /-- A method by its class, its name and its descriptor. -/
  | toMethod (owner name descriptor : String)
  /-- An instruction by its method, its position and its operation. -/
  | toInstruction (owner method descriptor : String) (index : Nat) (opcode : Opcode)
  deriving DecidableEq

/-- The reference to an entity: the names of a class or a member, the place and the operation of an
instruction. -/
def Entity.ref : Entity → EntityRef
  | .ofClass decl => .toClass decl.name
  | .ofField decl => .toField decl.owner decl.name decl.descriptor
  | .ofMethod decl => .toMethod decl.owner decl.name decl.descriptor
  | .ofInstruction insn =>
    .toInstruction insn.owner insn.method insn.descriptor insn.index insn.opcode

/-- The document form of a reference, an object with the kind of the entity first. -/
def EntityRef.toValue : EntityRef → Value
  | .toClass name => .obj [("kind", .str "class"), ("name", .str name)]
  | .toField owner name descriptor =>
    .obj [("kind", .str "field"), ("owner", .str owner), ("name", .str name),
      ("descriptor", .str descriptor)]
  | .toMethod owner name descriptor =>
    .obj [("kind", .str "method"), ("owner", .str owner), ("name", .str name),
      ("descriptor", .str descriptor)]
  | .toInstruction owner method descriptor index opcode =>
    .obj [("kind", .str "instruction"), ("owner", .str owner), ("method", .str method),
      ("descriptor", .str descriptor), ("index", .int index), ("opcode", opcode.toValue)]

end Reidentify

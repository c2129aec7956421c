import Reidentify.Fault

/-!
# The document of an artifact

An artifact is described by a document: an object with a list of classes, each with its fields,
its methods and their instructions. `Artifact.ofValue` reads the document and refuses it at the
first thing that is wrong, so that no part of a malformed document is ever passed over;
`Artifact.toValue` writes it.
-/

namespace Reidentify

/-- The integer that a value stands for: a truth value, an integer, a floating-point number without
its fraction, or a text that writes an integer (`Text.readInteger`). -/
def Value.toInteger : Value → Except Fault Int
  | .bool truth => .ok (if truth then 1 else 0)
  | .int number => .ok number
  | .float number =>
    if number.isNotANumber then .error (.value .integerOfNotANumber)
    else if number.isInfinite then .error (.overflow .integerOfInfinity)
    else .ok number.truncate
  | .str text =>
    match Text.readInteger text with
    | .integer value => .ok value
    | .malformed => .error (.value (.notInteger text))
    | .tooLong digits => .error (.value (.tooManyDigits digits))
  | .null | .list _ | .obj _ => .error .wrongType

namespace Document

/-- The value of `key` among `members`, or `default` if the key is not there. A key with the absent
value is there. -/
def valueOr (members : List (String × Value)) (key : String) (default : Value) : Value :=
  (members.lookup key).getD default

/-- The text of `key` among the members of the record at `place`; anything else is a fault
`notText`. -/
def textOf (members : List (String × Value)) (key place : String) : Except Fault String :=
  match Value.member members key with
  | .str text => .ok text
  | found => .error (.document (.notText place key found))

/-- The list of `key` among the members of the record at `place`; a key that is not there stands for
the empty list. -/
def listOf (members : List (String × Value)) (key place : String) :
    Except Fault (List Value) :=
  match valueOr members key (.list []) with
  | .list items => .ok items
  | found => .error (.document (.notList place key found))

/-- Reads every item of a list with `read`, which is told its position. The first fault ends the
reading. -/
def readEach {α : Type} (read : Nat → Value → Except Fault α) :
    Nat → List Value → Except Fault (List α)
  | _, [] => .ok []
  | position, item :: rest => do
    let first ← read position item
    let others ← readEach read (position + 1) rest
    return first :: others

/-- The reference to a member. A `reference` that counts as false is empty, and any other one has to
be an object. -/
def memberRef (reference : Value) : Except Fault MemberRef :=
  if !reference.isTruthy then .ok ⟨.null, .null, .null⟩
  else
    match reference with
    | .obj members =>
      .ok ⟨Value.member members "owner", Value.member members "name",
        Value.member members "descriptor"⟩
    | _ => .error .noAttribute

/-- Reads the instruction number `index` of a method. Its operation decides which of the references
to a field and to a method has to be there. -/
def instruction (owner method descriptor : String) (index : Nat) (document : Value) :
    Except Fault Instruction :=
  let place := owner ++ "." ++ method ++ descriptor
  match document with
  | .obj members =>
    let operation := Value.member members "opcode"
    let field := Value.member members "field"
    let callee := Value.member members "method"
    match Opcode.ofValue? operation with
    | none => .error (.document (.opcode place index operation))
    | some opcode =>
      if opcode.isField && field.members?.isNone then
        .error (.document (.noFieldReference place index))
      else if opcode.isCall && callee.members?.isNone then
        .error (.document (.noMethodReference place index))
      else do
        -- a reference that is not needed is still looked into, the field's before the method's
        let fieldRef ← memberRef field
        let calleeRef ← memberRef callee
        return ⟨owner, method, descriptor, index, opcode, Value.member members "int",
          Value.member members "constant", fieldRef, calleeRef, Value.member members "type"⟩
  | _ => .error (.document (.instructionNotObject place index))

/-- Reads a field of the class `owner`. Its descriptor is tested before its access bits are read. -/
def field (owner : String) (document : Value) : Except Fault FieldDecl :=
  match document with
  | .obj members => do
    let name ← textOf members "name" (owner ++ " field")
    let descriptor ← textOf members "descriptor" (owner ++ "." ++ name)
    if Descriptor.isField descriptor then
      let access ← (valueOr members "access" (.int 0)).toInteger
      return ⟨owner, name, descriptor, access⟩
    else throw (.document (.fieldDescriptor owner name descriptor))
  | _ => .error (.document (.fieldNotObject owner))

/-- Reads a method of the class `owner`, with its body. Its descriptor is tested first, its access
bits are read last. -/
def method (owner : String) (document : Value) : Except Fault MethodDecl :=
  match document with
  | .obj members => do
    let name ← textOf members "name" (owner ++ " method")
    let descriptor ← textOf members "descriptor" (owner ++ "." ++ name)
    if Descriptor.isMethod descriptor then
      let place := owner ++ "." ++ name ++ descriptor
      let body ← listOf members "instructions" place
      let instructions ← readEach (instruction owner name descriptor) 0 body
      let access ← (valueOr members "access" (.int 0)).toInteger
      return ⟨owner, name, descriptor, access, instructions⟩
    else throw (.document (.methodDescriptor owner name descriptor))
  | _ => .error (.document (.methodNotObject owner))

/-- The texts of a list that consists of texts, and `none` for any other list. -/
def texts? : List Value → Option (List String)
  | [] => some []
  | .str text :: rest => (texts? rest).map (text :: ·)
  | _ => none

/-- The superclass of a class that names none, which `superName` then gives it. -/
def rootClass : String := "java/lang/Object"

/-- The name of the superclass among the members of a class. What counts as false stands for the
`rootClass`. -/
def superName (members : List (String × Value)) : Value :=
  let given := Value.member members "super"
  if given.isTruthy then given else .str rootClass

/-- Reads the class at `position` of the document: its name, the lists of its parts in the order in
which they are complained about, and its access bits. -/
def classDecl (position : Nat) (document : Value) : Except Fault ClassDecl :=
  match document with
  | .obj members => do
    let name ← textOf members "name" s!"classes[{position}]"
    let interfaceValues ← listOf members "interfaces" name
    match texts? interfaceValues with
    | none => throw (.document (.interfaceNotText name))
    | some interfaces =>
      let fieldValues ← listOf members "fields" name
      let fields ← readEach (fun _ => field name) 0 fieldValues
      let methodValues ← listOf members "methods" name
      let methods ← readEach (fun _ => method name) 0 methodValues
      let access ← (valueOr members "access" (.int AccessFlag.isPublic.weight)).toInteger
      return ⟨name, superName members, interfaces, access, fields, methods⟩
  | _ => .error (.document (.classNotObject position))

/-- Reads the classes from a position on, none of which may have a name that was `seen` before. -/
def classes : Nat → List String → List Value → Except Fault (List ClassDecl)
  | _, _, [] => .ok []
  | position, seen, document :: rest => do
    let decl ← classDecl position document
    if seen.contains decl.name then throw (.document (.repeatedClass decl.name))
    else
      let others ← classes (position + 1) (decl.name :: seen) rest
      return decl :: others

end Document

/-- Reads an artifact from `document`: an object with a list of classes and, if there is one, a
revision of any form. -/
def Artifact.ofValue (document : Value) : Except Fault Artifact :=
  match document with
  | .obj members =>
    match Value.member members "classes" with
    | .list items => do
      let classes ← Document.classes 0 [] items
      return ⟨classes, (Document.valueOr members "revision" (.str "")).plain⟩
    | _ => .error (.document .noClasses)
  | _ => .error (.document .rootNotObject)

/-- The member `key` of a document, unless its `value` is absent. -/
def Value.present (key : String) (value : Value) : List (String × Value) :=
  if value.isNull then [] else [(key, value)]

/-- The document form of `reference` under `key`, if it has a name; without a name its owner and its
descriptor are left out as well. -/
def MemberRef.present (key : String) (reference : MemberRef) : List (String × Value) :=
  if reference.name.isNull then []
  else
    [(key, .obj [("owner", reference.owner), ("name", reference.name),
      ("descriptor", reference.descriptor)])]

/-- The document of `insn`: its operation and the operands that are `present`. -/
def Instruction.toValue (insn : Instruction) : Value :=
  .obj (("opcode", insn.opcode.toValue) :: Value.present "int" insn.integer
    ++ Value.present "constant" insn.constant ++ insn.field.present "field"
    ++ insn.callee.present "method" ++ Value.present "type" insn.typeName)

/-- The document of `field`, an object that `Document.field` reads back. -/
def FieldDecl.toValue (field : FieldDecl) : Value :=
  .obj [("name", .str field.name), ("descriptor", .str field.descriptor),
    ("access", .int field.access)]

/-- The document of `method` with its body, which `Document.method` reads back up to the operands of
its instructions. -/
def MethodDecl.toValue (method : MethodDecl) : Value :=
  .obj [("name", .str method.name), ("descriptor", .str method.descriptor),
    ("access", .int method.access),
    ("instructions", .list (method.instructions.map Instruction.toValue))]

/-- The document of `decl` with its members in the order of their declaration. -/
def ClassDecl.toValue (decl : ClassDecl) : Value :=
  .obj [("name", .str decl.name), ("super", decl.superName),
    ("interfaces", .list (decl.interfaces.map .str)), ("access", .int decl.access),
    ("fields", .list (decl.fields.map FieldDecl.toValue)),
    ("methods", .list (decl.methods.map MethodDecl.toValue))]

/-- The document of `artifact`, an object that `Artifact.ofValue` reads back. -/
def Artifact.toValue (artifact : Artifact) : Value :=
  .obj [("revision", .str artifact.revision),
    ("classes", .list (artifact.classes.map ClassDecl.toValue))]

end Reidentify

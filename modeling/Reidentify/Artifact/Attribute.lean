import Reidentify.Artifact.Entity

/-!
# Attributes of entities by name

A test may ask for an attribute of an entity by its name, and an entity bound to the wrong kind
of mapper is shown with all its attributes. Every entity has the attributes of its kind and no
others.
-/

namespace Reidentify

/-- The value of an attribute, as far as a test or a message can look into it. -/
inductive AttributeValue where
  /-- A document value, compared by `Value.equals`. -/
  | data (value : Value)
  /-- A list of `count` entities. -/
  | entities (count : Nat)
  deriving DecidableEq

/-- Whether an attribute equals a document value. A list of entities equals the empty list only,
and only if it is empty. -/
def AttributeValue.equals : AttributeValue → Value → Bool
  | .data value, other => value.equals other
  | .entities count, other => count == 0 && other.equals (.list [])

/-- The list of the texts `items` as the value of an attribute. -/
def AttributeValue.texts (items : List String) : AttributeValue :=
  .data (.list (items.map .str))

/-- The characters of `text` as the value of an attribute. -/
def AttributeValue.text (text : String) : AttributeValue :=
  .data (.str text)

/-- The truth value `truth` as the value of an attribute. -/
def AttributeValue.truth (truth : Bool) : AttributeValue :=
  .data (.bool truth)

/-- The attributes that `insn` is made of, by name. Operands that are not there are absent values.
-/
def Instruction.attributes (insn : Instruction) : List (String × AttributeValue) :=
  [("owner", .text insn.owner), ("method", .text insn.method),
   ("method_descriptor", .text insn.descriptor), ("index", .data (.int insn.index)),
   ("opcode", .data insn.opcode.toValue), ("int_operand", .data insn.integer),
   ("constant", .data insn.constant), ("field_owner", .data insn.field.owner),
   ("field_name", .data insn.field.name), ("field_descriptor", .data insn.field.descriptor),
   ("method_owner", .data insn.callee.owner), ("method_name", .data insn.callee.name),
   ("invoked_descriptor", .data insn.callee.descriptor), ("type_operand", .data insn.typeName)]

/-- The attributes of `insn` that follow from its operation and from the field it refers to. -/
def Instruction.derivedAttributes (insn : Instruction) : List (String × AttributeValue) :=
  [("is_field", .truth insn.isField), ("is_field_write", .truth insn.isFieldWrite),
   ("is_method_call", .truth insn.isCall), ("field_type", .data insn.field.descriptor)]

/-- The attributes that `field` is made of, by name and in the order in which it is shown. -/
def FieldDecl.attributes (field : FieldDecl) : List (String × AttributeValue) :=
  [("owner", .text field.owner), ("name", .text field.name),
   ("descriptor", .text field.descriptor), ("access", .data (.int field.access))]

/-- The attributes of `field` that follow from its descriptor and its access bits. -/
def FieldDecl.derivedAttributes (field : FieldDecl) : List (String × AttributeValue) :=
  [("type", .text field.descriptor), ("is_static", .truth field.isStatic),
   ("is_final", .truth field.isFinal)]

/-- The attributes that `method` is made of, by name, its body apart. -/
def MethodDecl.attributes (method : MethodDecl) : List (String × AttributeValue) :=
  [("owner", .text method.owner), ("name", .text method.name),
   ("descriptor", .text method.descriptor), ("access", .data (.int method.access))]

/-- The attributes of `method` that follow from the others. The types are there if
`method.signature?` is, i.e. if the descriptor is well formed. -/
def MethodDecl.derivedAttributes (method : MethodDecl) : List (String × AttributeValue) :=
  [("instructions", .entities method.instructions.length),
   ("is_constructor", .truth method.isConstructor),
   ("is_class_initializer", .truth method.isInitializer),
   ("is_static", .truth method.isStatic), ("is_abstract", .truth method.isAbstract)] ++
  match method.signature? with
  | some signature =>
    [("return_type", .text signature.result), ("arguments", .texts signature.arguments)]
  | none => []

/-- The attributes of `decl` by name, those that it is made of and those that follow from them. -/
def ClassDecl.attributes (decl : ClassDecl) : List (String × AttributeValue) :=
  [("name", .text decl.name), ("super_name", .data decl.superName),
   ("interfaces", .texts decl.interfaces), ("access", .data (.int decl.access)),
   ("fields", .entities decl.fields.length), ("methods", .entities decl.methods.length),
   ("type", .text decl.type), ("super_type", .text decl.superType),
   ("interface_types", .texts decl.interfaceTypes),
   ("is_interface", .truth decl.isInterface), ("is_abstract", .truth decl.isAbstract),
   ("instance_fields", .entities decl.instanceFields.length),
   ("static_fields", .entities decl.staticFields.length),
   ("constructors", .entities decl.constructors.length),
   ("instance_methods", .entities decl.instanceMethods.length),
   ("static_methods", .entities decl.staticMethods.length)]

/-- The attribute `name` of an entity, or `none` if entities of its kind have no such attribute. -/
def Entity.attribute? (name : String) : Entity → Option AttributeValue
  | .ofClass decl => decl.attributes.lookup name
  | .ofField field => (field.attributes ++ field.derivedAttributes).lookup name
  | .ofMethod method => (method.attributes ++ method.derivedAttributes).lookup name
  | .ofInstruction insn => (insn.attributes ++ insn.derivedAttributes).lookup name

/-- Named attributes as they are listed in a message: `name=value`, with commas between them. -/
def renderedAttributes (attributes : List (String × AttributeValue)) : String :=
  ", ".intercalate (attributes.map fun
    | (name, .data value) => name ++ "=" ++ value.rendered
    | (name, .entities count) => name ++ "=" ++ toString count)

/-- A list of rendered items in parentheses, with a comma behind a single one, as
`renderedAttributes` shows lists. -/
def renderedTuple : List String → String
  | [] => "()"
  | [item] => "(" ++ item ++ ",)"
  | items => "(" ++ ", ".intercalate items ++ ")"

/-- The text that shows the instruction `insn` with all its `Instruction.attributes`. -/
def Instruction.rendered (insn : Instruction) : String :=
  "InstructionEntity(" ++ renderedAttributes insn.attributes ++ ")"

/-- The text that shows the field `field` with all its `FieldDecl.attributes`. -/
def FieldDecl.rendered (field : FieldDecl) : String :=
  "FieldEntity(" ++ renderedAttributes field.attributes ++ ")"

/-- The text that shows the method `method` with all its `MethodDecl.attributes` and its body. -/
def MethodDecl.rendered (method : MethodDecl) : String :=
  "MethodEntity(" ++ renderedAttributes method.attributes ++ ", instructions="
    ++ renderedTuple (method.instructions.map Instruction.rendered) ++ ")"

/-- The class `decl` with what it is made of, its members with all their attributes. -/
def ClassDecl.rendered (decl : ClassDecl) : String :=
  "ClassEntity(name=" ++ Text.quoted decl.name ++ ", super_name=" ++ decl.superName.rendered
    ++ ", interfaces=" ++ renderedTuple (decl.interfaces.map Text.quoted)
    ++ ", access=" ++ toString decl.access
    ++ ", fields=" ++ renderedTuple (decl.fields.map FieldDecl.rendered)
    ++ ", methods=" ++ renderedTuple (decl.methods.map MethodDecl.rendered) ++ ")"

/-- An entity with all its attributes, as the message of `Fault.misbound` shows it. -/
def Entity.rendered : Entity → String
  | .ofClass decl => decl.rendered
  | .ofField field => field.rendered
  | .ofMethod method => method.rendered
  | .ofInstruction insn => insn.rendered

end Reidentify

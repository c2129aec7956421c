import Reidentify.Pass.Candidates
import Reidentify.Proofs.Artifact.Chain
import Reidentify.Proofs.Renaming.Descriptor

/-!
# Renaming the entities of an artifact

An obfuscator renames classes, fields and methods, and with them everything that refers to them.
The constructors and the method that initialises a class keep their names. This module defines
renamed artifacts and shows that looking something up in one is looking it up in the original.

## Main definitions

* `Renaming`: new names for classes, fields and methods.
* `Renaming.entity`, `Renaming.artifact`: renamed entities and artifacts.
* `Entity.Textual`, `Artifact.Textual`: superclasses and the owners of accessed fields are
  written as texts.

## Main statements

* `Renaming.members_decl`: the parts of a renamed class are the renamed parts.
* `Renaming.fieldOf_artifact`, `Renaming.methodOf_artifact`: the member that an instruction refers
  to is found under its new name.
-/

namespace Reidentify

/-- A value whose text, if it is one, is changed by `f`. -/
def Value.mapText (f : String → String) : Value → Value
  | .str text => .str (f text)
  | value => value

namespace Value

variable {f : String → String}

/-- Texts that are changed by an injective `f` are compared with a `value` like the texts
themselves. -/
theorem str_equals_mapText (hf : Function.Injective f) (text : String) (value : Value) :
    (Value.str (f text)).equals (value.mapText f) = (Value.str text).equals value := by
  rw [Bool.eq_iff_iff, str_equals, str_equals]
  cases value <;> simp [mapText, hf.eq_iff]

/-- A `value` whose text is changed by an injective `f` is compared with texts like the value
itself. -/
theorem mapText_equals_str (hf : Function.Injective f) (value : Value) (text : String) :
    (value.mapText f).equals (.str (f text)) = value.equals (.str text) := by
  rw [Bool.eq_iff_iff, equals_str, equals_str]
  cases value <;> simp [mapText, hf.eq_iff]

@[simp] theorem isNull_mapText (value : Value) : (value.mapText f).isNull = value.isNull := by
  cases value <;> rfl

@[simp] theorem isIndexable_mapText (value : Value) :
    (value.mapText f).isIndexable = value.isIndexable := by
  cases value <;> rfl

@[simp] theorem text?_mapText (value : Value) : (value.mapText f).text? = value.text?.map f := by
  cases value <;> rfl

end Value

/-- New names for the `classes`, the `fields` and the `methods` of an artifact, different ones for
different names. -/
structure Renaming where
  /-- The new names of classes, which stand inside of descriptors as well. -/
  classes : ClassRenaming
  /-- The new name of a field, a permutation of all names. -/
  fields : Equiv.Perm String
  /-- The new name of a method, a permutation of all names. -/
  methods : Equiv.Perm String
  /-- The new type operand of an instruction, of any kind; nothing is looked up by it. -/
  typeOperand : Value → Value
  /-- Constructors keep their name `MethodDecl.constructorName`. -/
  methods_constructor : methods MethodDecl.constructorName = MethodDecl.constructorName
  /-- The method that initialises a class keeps its name `MethodDecl.initializerName`. -/
  methods_initializer : methods MethodDecl.initializerName = MethodDecl.initializerName

namespace Renaming

variable (names : Renaming)

/-- A reference `ref` to a field under its new name, in its renamed class. -/
def fieldRef (ref : MemberRef) : MemberRef :=
  ⟨ref.owner.mapText names.classes.map, ref.name.mapText names.fields,
    ref.descriptor.mapText names.classes.rename⟩

/-- A reference `ref` to a method under its new name, in its renamed class. -/
def methodRef (ref : MemberRef) : MemberRef :=
  ⟨ref.owner.mapText names.classes.map, ref.name.mapText names.methods,
    ref.descriptor.mapText names.classes.rename⟩

/-- The instruction `insn` in its renamed method, with renamed references. -/
def instruction (insn : Instruction) : Instruction :=
  { insn with
    owner := names.classes.map insn.owner
    method := names.methods insn.method
    descriptor := names.classes.rename insn.descriptor
    field := names.fieldRef insn.field
    callee := names.methodRef insn.callee
    typeName := names.typeOperand insn.typeName }

/-- The field `decl` under its new name, with its type renamed. -/
def field (decl : FieldDecl) : FieldDecl :=
  ⟨names.classes.map decl.owner, names.fields decl.name, names.classes.rename decl.descriptor,
    decl.access⟩

/-- The method `decl` under its new name, with its descriptor and its instructions renamed. -/
def method (decl : MethodDecl) : MethodDecl :=
  ⟨names.classes.map decl.owner, names.methods decl.name, names.classes.rename decl.descriptor,
    decl.access, decl.instructions.map names.instruction⟩

/-- The class `decl` under its new name, with everything that it declares renamed. -/
def decl (decl : ClassDecl) : ClassDecl :=
  ⟨names.classes.map decl.name, decl.superName.mapText names.classes.map,
    decl.interfaces.map names.classes.map, decl.access, decl.fields.map names.field,
    decl.methods.map names.method⟩

/-- The `artifact` with all its classes renamed; its revision is the same. -/
def artifact (artifact : Artifact) : Artifact :=
  ⟨artifact.classes.map names.decl, artifact.revision⟩

/-- An entity under its new name, renamed as the `decl`, `field`, `method` or `instruction` that it
is. -/
def entity : Entity → Entity
  | .ofClass decl => .ofClass (names.decl decl)
  | .ofField field => .ofField (names.field field)
  | .ofMethod method => .ofMethod (names.method method)
  | .ofInstruction insn => .ofInstruction (names.instruction insn)

end Renaming

/-- If the instruction `insn` accesses a field, the class that it looks in is written as a text. -/
def Instruction.Textual (insn : Instruction) : Prop :=
  insn.isField = true → ∃ text, insn.field.owner = .str text

/-- All instructions in the body of a `method` are textual (`Instruction.Textual`). -/
def MethodDecl.Textual (method : MethodDecl) : Prop :=
  ∀ insn ∈ method.instructions, insn.Textual

/-- The superclass of the class `decl` is written as a text, and its methods are textual. -/
structure ClassDecl.Textual (decl : ClassDecl) : Prop where
  /-- The name `superName` of the superclass is a text, possibly the empty one. -/
  superName : ∃ text, decl.superName = .str text
  /-- The `methods` are textual (`MethodDecl.Textual`). -/
  methods : ∀ method ∈ decl.methods, method.Textual

/-- An entity that refers to classes by texts, so that the names in it can be renamed. -/
def Entity.Textual : Entity → Prop
  | .ofClass decl => decl.Textual
  | .ofField _ => True
  | .ofMethod method => method.Textual
  | .ofInstruction insn => insn.Textual

/-- An `artifact` whose classes refer to classes by texts (`ClassDecl.Textual`). -/
def Artifact.Textual (artifact : Artifact) : Prop :=
  ∀ decl ∈ artifact.classes, decl.Textual

namespace Renaming

variable (names : Renaming) {artifact : Artifact}

section Members

/-- A renamed `method` is a constructor iff the original one is. -/
@[simp] theorem isConstructor_method (method : MethodDecl) :
    (names.method method).isConstructor = method.isConstructor := by
  unfold MethodDecl.isConstructor
  rw [Bool.eq_iff_iff, beq_iff_eq, beq_iff_eq, ← names.methods.injective.eq_iff (a := method.name),
    names.methods_constructor]
  rfl

/-- A renamed `method` initialises a class iff the original one does. -/
@[simp] theorem isInitializer_method (method : MethodDecl) :
    (names.method method).isInitializer = method.isInitializer := by
  unfold MethodDecl.isInitializer
  rw [Bool.eq_iff_iff, beq_iff_eq, beq_iff_eq, ← names.methods.injective.eq_iff (a := method.name),
    names.methods_initializer]
  rfl

@[simp] theorem isStatic_method (method : MethodDecl) :
    (names.method method).isStatic = method.isStatic := rfl

@[simp] theorem decl_methods (decl : ClassDecl) :
    (names.decl decl).methods = decl.methods.map names.method := rfl

@[simp] theorem isStatic_field (field : FieldDecl) :
    (names.field field).isStatic = field.isStatic := rfl

@[simp] theorem instanceFields_decl (decl : ClassDecl) :
    (names.decl decl).instanceFields = decl.instanceFields.map names.field :=
  List.filter_map ..

@[simp] theorem staticFields_decl (decl : ClassDecl) :
    (names.decl decl).staticFields = decl.staticFields.map names.field :=
  List.filter_map ..

@[simp] theorem instanceMethods_decl (decl : ClassDecl) :
    (names.decl decl).instanceMethods = decl.instanceMethods.map names.method := by
  unfold ClassDecl.instanceMethods
  rw [decl_methods, List.filter_map]
  simp only [Function.comp_def, isStatic_method, isConstructor_method, isInitializer_method]

@[simp] theorem staticMethods_decl (decl : ClassDecl) :
    (names.decl decl).staticMethods = decl.staticMethods.map names.method := by
  unfold ClassDecl.staticMethods
  rw [decl_methods, List.filter_map]
  simp only [Function.comp_def, isStatic_method, isInitializer_method]

@[simp] theorem constructorInstructions_decl (decl : ClassDecl) :
    (names.decl decl).constructorInstructions =
      decl.constructorInstructions.map names.instruction := by
  unfold ClassDecl.constructorInstructions ClassDecl.constructors
  rw [decl_methods, List.filter_map, List.flatMap_map, List.map_flatMap]
  simp only [Function.comp_def, isConstructor_method]
  rfl

/-- A `part` of a renamed class has the renamed entities of this part for its `members`. -/
theorem members_decl (part : ClassPart) (decl : ClassDecl) :
    part.members (names.decl decl) = (part.members decl).map names.entity := by
  cases part with
  | instanceFields =>
    simp only [ClassPart.members, instanceFields_decl, List.map_map]
    rfl
  | staticFields =>
    simp only [ClassPart.members, staticFields_decl, List.map_map]
    rfl
  | instanceMethods =>
    simp only [ClassPart.members, instanceMethods_decl, List.map_map]
    rfl
  | staticMethods =>
    simp only [ClassPart.members, staticMethods_decl, List.map_map]
    rfl
  | constructorInstructions =>
    simp only [ClassPart.members, constructorInstructions_decl, List.map_map]
    rfl

/-- The members in a `part` of a textual class are textual. -/
theorem textual_of_mem_members {part : ClassPart} {decl : ClassDecl} (h : decl.Textual)
    {entity : Entity} (hmem : entity ∈ part.members decl) : entity.Textual := by
  cases part with
  | instanceFields | staticFields =>
    obtain ⟨field, -, rfl⟩ := List.mem_map.1 hmem
    trivial
  | instanceMethods | staticMethods =>
    obtain ⟨method, hmethod, rfl⟩ := List.mem_map.1 hmem
    exact h.methods method (List.mem_of_mem_filter hmethod)
  | constructorInstructions =>
    obtain ⟨insn, hinsn, rfl⟩ := List.mem_map.1 hmem
    obtain ⟨method, hmethod, hinsn⟩ := List.mem_flatMap.1 hinsn
    exact h.methods method (List.mem_of_mem_filter hmethod) insn hinsn

end Members

section Lookup

/-- In the renamed artifact `findClass?` finds a class under its new name. -/
theorem findClass?_artifact (name : String) :
    (names.artifact artifact).findClass? (names.classes.map name) =
      (artifact.findClass? name).map names.decl := by
  unfold Artifact.findClass?
  rw [Renaming.artifact, ← List.map_reverse, List.find?_map]
  congr 2
  funext decl
  rw [Function.comp_apply, Bool.eq_iff_iff, beq_iff_eq, beq_iff_eq]
  exact names.classes.map.injective.eq_iff

/-- A class that `classNamed` finds by a value is found under its new name, if the value is a text.
-/
theorem classNamed_artifact (name : Value) :
    (names.artifact artifact).classNamed (name.mapText names.classes.map) =
      (artifact.classNamed name).map (Option.map names.decl) := by
  unfold Artifact.classNamed
  rw [Value.isIndexable_mapText, Value.text?_mapText]
  split
  · cases name.text? with
    | none => rfl
    | some text => exact congrArg Except.ok (names.findClass?_artifact text)
  · rfl

/-- A name counts as true iff the renamed one does, as only the empty name becomes empty. -/
theorem isTruthy_mapText (name : Value) :
    (name.mapText names.classes.map).isTruthy = name.isTruthy := by
  cases name with
  | str text =>
    change (!(names.classes.map text).isEmpty) = !text.isEmpty
    rw [Bool.eq_iff_iff]
    simp [names.classes.map_eq_empty_iff]
  | _ => rfl

/-- In a renamed class `findField` finds a field under its new name and descriptor. -/
theorem findField_decl (decl : ClassDecl) (name descriptor : Value) :
    (names.decl decl).findField (name.mapText names.fields)
        (descriptor.mapText names.classes.rename) =
      (decl.findField name descriptor).map names.field := by
  unfold ClassDecl.findField
  rw [Renaming.decl, List.find?_map]
  congr 2
  funext field
  rw [Function.comp_apply, Renaming.field, Value.str_equals_mapText names.fields.injective,
    Value.isNull_mapText, Value.str_equals_mapText names.classes.rename_injective]

/-- In a renamed class `findMethod` finds a method under its new name and descriptor. -/
theorem findMethod_decl (decl : ClassDecl) (name descriptor : Value) :
    (names.decl decl).findMethod (name.mapText names.methods)
        (descriptor.mapText names.classes.rename) =
      (decl.findMethod name descriptor).map names.method := by
  unfold ClassDecl.findMethod
  rw [Renaming.decl, List.find?_map]
  congr 2
  funext method
  rw [Function.comp_apply, Renaming.method, Value.str_equals_mapText names.methods.injective,
    Value.str_equals_mapText names.classes.rename_injective]

section Chain

variable {α : Type} {declares declares' : ClassDecl → Option α} {f : α → α}
  (h : ∀ decl, declares' (names.decl decl) = (declares decl).map f)

include h

/-- The search `searchChain` goes along the renamed superclasses in step with the original one,
whatever names it has `passed`. -/
theorem searchChain_artifact (fuel : Nat) (passed : List String) (owner : Value) :
    (names.artifact artifact).searchChain declares' fuel (passed.map names.classes.map)
        (owner.mapText names.classes.map) =
      (artifact.searchChain declares fuel passed owner).map (Option.map f) := by
  -- by induction on the fuel, which both searches have the same amount of
  induction fuel generalizing passed owner with
  | zero => rfl
  | succ fuel ih =>
    rw [Artifact.searchChain, Artifact.searchChain, names.isTruthy_mapText,
      names.classNamed_artifact]
    split
    · rfl
    · rcases artifact.classNamed owner with fault | _ | decl
      · rfl
      · rfl
      · -- a class has been passed iff the renamed one has
        have hpassed : (passed.map names.classes.map).contains (names.decl decl).name =
            passed.contains decl.name := by
          rw [Bool.eq_iff_iff, List.contains_iff_mem, List.contains_iff_mem]
          exact List.mem_map_of_injective names.classes.map.injective
        simp only [Except.map, Option.map_some, hpassed, h]
        split
        · rfl
        · cases declares decl with
          | some found => rfl
          | none => exact ih (decl.name :: passed) decl.superName

/-- The class that `nearest` finds above a renamed `owner` is the renamed one. -/
theorem nearest_artifact (owner : Value) :
    (names.artifact artifact).nearest declares' (owner.mapText names.classes.map) =
      (artifact.nearest declares owner).map (Option.map f) := by
  unfold Artifact.nearest
  rw [Renaming.artifact, List.length_map]
  exact names.searchChain_artifact h _ [] owner

end Chain

/-- The field that `fieldOf` finds for an instruction is found under its new name. -/
theorem fieldOf_artifact (artifact : Artifact) (insn : Instruction) :
    (names.artifact artifact).fieldOf (names.instruction insn) =
      (artifact.fieldOf insn).map (Option.map names.field) := by
  unfold Artifact.fieldOf
  have hopcode : (names.instruction insn).isField = insn.isField := rfl
  rw [hopcode]
  split
  · exact names.nearest_artifact (fun decl => names.findField_decl decl _ _) _
  · rfl

/-- The method that `methodOf` finds for an instruction is found under its new name. -/
theorem methodOf_artifact (artifact : Artifact) (insn : Instruction) :
    (names.artifact artifact).methodOf (names.instruction insn) =
      (artifact.methodOf insn).map (Option.map names.method) := by
  unfold Artifact.methodOf
  have hopcode : (names.instruction insn).isCall = insn.isCall := rfl
  rw [hopcode]
  split
  · exact names.nearest_artifact (fun decl => names.findMethod_decl decl _ _) _
  · rfl

end Lookup

end Renaming

section Origin

variable {artifact : Artifact}

/-- The method that `methodOf` finds for an instruction is textual if the artifact is. -/
theorem Artifact.Textual.methodOf (h : artifact.Textual) {insn : Instruction}
    {method : MethodDecl} (hmethod : artifact.methodOf insn = .ok (some method)) :
    method.Textual := by
  obtain ⟨decl, hdecl, hmem⟩ := Artifact.exists_of_methodOf hmethod
  exact (h decl hdecl).methods method hmem

end Origin

end Reidentify

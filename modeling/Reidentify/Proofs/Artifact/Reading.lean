import Mathlib.Data.List.Forall2
import Reidentify.Artifact.Document
import Reidentify.Proofs.Trail.Result

/-!
# What a document describes

A document that is read is refused at the first thing that is wrong with it. This module says,
record by record, what a document has to say for an artifact to be read from it, and what the
artifact is then. Nothing depends on the order of reading here: a document describes an artifact or
it does not, and the artifact is read iff it does.

## Main definitions

* `Document.Records`: a value is a record of something.
* `Document.Lists`: the list under a key has one record for every item.
* `Document.DescribesInstruction`, `Document.DescribesField`, `Document.DescribesMethod`,
  `Document.DescribesClass`, `Document.DescribesArtifact`: what a record has to say.

## Main statements

* `Document.readEach_eq_ok_iff`: the items of a list are read iff every single one is.
* `Document.instruction_eq_ok_iff`, `Document.field_eq_ok_iff`, `Document.method_eq_ok_iff`,
  `Document.classDecl_eq_ok_iff`: a part of an artifact is read iff its record describes it.
* `Artifact.ofValue_eq_ok_iff`: so is an artifact.
-/

namespace Reidentify

/-- The operation `opcode` is read from a single value, which is `opcode.toValue`. -/
theorem Opcode.ofValue?_eq_some_iff {value : Value} {opcode : Opcode} :
    ofValue? value = some opcode ↔ value = opcode.toValue := by
  constructor
  · intro h
    exact (toValue_of_ofValue? h).symm
  · rintro rfl
    exact ofValue?_toValue opcode

namespace Document

variable {α : Type} {members : List (String × Value)} {key place : String}

section Records

/-- A `value` is a record of an `item`: an object whose members describe it. -/
def Records (describes : List (String × Value) → α → Prop) (value : Value) (item : α) : Prop :=
  ∃ members, value = .obj members ∧ describes members item

/-- The list under a `key` consists of `Records` of the `items`, one for each of them and in their
order. A key that is not there stands for the empty list. -/
def Lists (describes : List (String × Value) → α → Prop) (members : List (String × Value))
    (key : String) (items : List α) : Prop :=
  ∃ values, valueOr members key (.list []) = .list values ∧
    List.Forall₂ (Records describes) values items

/-- What is given of a `reference`: nothing, if the value counts as false, and else the members
`"owner"`, `"name"` and `"descriptor"` of an object. -/
def DescribesReference (value : Value) (reference : MemberRef) : Prop :=
  (value.isTruthy = false ∧ reference = ⟨.null, .null, .null⟩) ∨
    ∃ members, value = .obj members ∧ reference = ⟨Value.member members "owner",
      Value.member members "name", Value.member members "descriptor"⟩

/-- The `members` of a record describe the instruction `insn` at the position `index` of a method.
-/
structure DescribesInstruction (owner method descriptor : String) (index : ℕ)
    (members : List (String × Value)) (insn : Instruction) : Prop where
  /-- The instruction names the class `owner` of its method. -/
  owner_eq : insn.owner = owner
  /-- It names its `method`. -/
  method_eq : insn.method = method
  /-- It names the `descriptor` of its method. -/
  descriptor_eq : insn.descriptor = descriptor
  /-- Its index is its position `index`. -/
  index_eq : insn.index = index
  /-- The operation is written under `"opcode"`. -/
  opcode : Value.member members "opcode" = insn.opcode.toValue
  /-- The integer that goes with the operation is what stands under `"int"`. -/
  integer : insn.integer = Value.member members "int"
  /-- The constant is what stands under `"constant"`. -/
  constant : insn.constant = Value.member members "constant"
  /-- The reference to a field is what is given under `"field"`. -/
  field : DescribesReference (Value.member members "field") insn.field
  /-- The reference to a method is what is given under `"method"`. -/
  callee : DescribesReference (Value.member members "method") insn.callee
  /-- The type is what stands under `"type"`. -/
  typeName : insn.typeName = Value.member members "type"
  /-- An access to a field has an object for its reference to one. -/
  refersToField : insn.opcode.isField = true → ∃ given, Value.member members "field" = .obj given
  /-- A call has an object for its reference to a method. -/
  refersToMethod : insn.opcode.isCall = true → ∃ given, Value.member members "method" = .obj given

/-- The `members` of a record describe a `field` of the class `owner`. -/
structure DescribesField (owner : String) (members : List (String × Value)) (field : FieldDecl) :
    Prop where
  /-- The field names its class `owner`. -/
  owner_eq : field.owner = owner
  /-- The name is the text under `"name"`. -/
  name : Value.member members "name" = .str field.name
  /-- The descriptor is the text under `"descriptor"`. -/
  descriptor : Value.member members "descriptor" = .str field.descriptor
  /-- The descriptor is one of a field (`Descriptor.isField`). -/
  isField : Descriptor.isField field.descriptor = true
  /-- The access bits are the integer under `"access"`, and zero if there is none. -/
  access : (valueOr members "access" (.int 0)).toInteger = .ok field.access

/-- The `members` of a record describe a `method` of the class `owner`. -/
structure DescribesMethod (owner : String) (members : List (String × Value))
    (method : MethodDecl) : Prop where
  /-- The method names its class `owner`. -/
  owner_eq : method.owner = owner
  /-- The name is the text under `"name"`. -/
  name : Value.member members "name" = .str method.name
  /-- The descriptor is the text under `"descriptor"`. -/
  descriptor : Value.member members "descriptor" = .str method.descriptor
  /-- The descriptor is one of a method (`Descriptor.isMethod`). -/
  isMethod : Descriptor.isMethod method.descriptor = true
  /-- The list under `"instructions"` has one record for every instruction, at its position. -/
  instructions : ∃ values, valueOr members "instructions" (.list []) = .list values ∧
    List.Forall₂ (fun record insn => Records
        (DescribesInstruction owner method.name method.descriptor record.2) record.1 insn)
      values.zipIdx method.instructions
  /-- The access bits are the integer under `"access"`, and zero if there is none. -/
  access : (valueOr members "access" (.int 0)).toInteger = .ok method.access

/-- The `members` of a record describe the class `decl`, its fields and its methods. -/
structure DescribesClass (members : List (String × Value)) (decl : ClassDecl) : Prop where
  /-- The name is the text under `"name"`. -/
  name : Value.member members "name" = .str decl.name
  /-- The superclass is the one that `superName` finds. -/
  super_eq : decl.superName = superName members
  /-- The interfaces are the texts of the list under `"interfaces"`. -/
  interfaces : valueOr members "interfaces" (.list []) = .list (decl.interfaces.map .str)
  /-- The list under `"fields"` has one record for every field. -/
  fields : Lists (DescribesField decl.name) members "fields" decl.fields
  /-- The list under `"methods"` has one record for every method. -/
  methods : Lists (DescribesMethod decl.name) members "methods" decl.methods
  /-- The access bits are the integer under `"access"`, and those of a public class if there is
  none. -/
  access : (valueOr members "access" (.int AccessFlag.isPublic.weight)).toInteger = .ok decl.access

/-- The `members` of a record describe an `artifact`, its classes and its revision. -/
structure DescribesArtifact (members : List (String × Value)) (artifact : Artifact) : Prop where
  /-- The list under `"classes"` has one record for every class. It may not be left out. -/
  classes : ∃ values, Value.member members "classes" = .list values ∧
    List.Forall₂ (Records DescribesClass) values artifact.classes
  /-- No two `classes` have the same name. -/
  nodup : (artifact.classes.map (·.name)).Nodup
  /-- The label of the `revision` is what stands under `"revision"`, as a plain text. -/
  revision_eq : artifact.revision = (valueOr members "revision" (.str "")).plain

end Records

section Readers

variable {owner : String} {value : Value}

theorem textOf_eq_ok_iff {text : String} :
    textOf members key place = .ok text ↔ Value.member members key = .str text := by
  unfold textOf
  split
  · next h => simp [h]
  · next hnone => exact iff_of_false (by simp) (hnone text)

theorem listOf_eq_ok_iff {values : List Value} :
    listOf members key place = .ok values ↔ valueOr members key (.list []) = .list values := by
  unfold listOf
  split
  · next h => simp [h]
  · next hnone => exact iff_of_false (by simp) (hnone values)

/-- A list is read by `readEach` iff every single item of it is, and the `position` of an item
counts. -/
theorem readEach_eq_ok_iff {read : ℕ → Value → Except Fault α} {position : ℕ}
    {values : List Value} {items : List α} :
    readEach read position values = .ok items ↔
      List.Forall₂ (fun record item => read record.2 record.1 = .ok item)
        (values.zipIdx position) items := by
  -- by induction on the list: the first item is read at `position`, the others after it
  induction values generalizing position items with
  | nil =>
    rw [readEach, List.zipIdx_nil, List.forall₂_nil_left_iff, Except.ok.injEq]
    exact eq_comm
  | cons value rest ih =>
    rw [readEach, List.zipIdx_cons, List.forall₂_cons_left_iff, Except.bind_eq_ok_iff]
    constructor
    · rintro ⟨first, hfirst, h⟩
      obtain ⟨others, hothers, h⟩ := Except.bind_eq_ok_iff.1 h
      cases h
      exact ⟨first, others, hfirst, ih.1 hothers, rfl⟩
    · rintro ⟨first, others, hfirst, hothers, rfl⟩
      exact ⟨first, hfirst, Except.bind_eq_ok_iff.2 ⟨others, ih.2 hothers, rfl⟩⟩

/-- Where positions do not count, `readEach` reads a list item by item. -/
theorem readEach_const_eq_ok_iff {read : Value → Except Fault α} {position : ℕ}
    {values : List Value} {items : List α} :
    readEach (fun _ => read) position values = .ok items ↔
      List.Forall₂ (fun value item => read value = .ok item) values items := by
  rw [readEach_eq_ok_iff]
  -- without their positions the numbered items are the items
  nth_rewrite 2 [← List.zipIdx_map_fst position values]
  rw [List.forall₂_map_left_iff]

/-- If a `read` accepts exactly the records of an item, the `Lists` under a `key` are what
`readEach` reads there. -/
theorem lists_iff {read : Value → Except Fault α} {describes : List (String × Value) → α → Prop}
    (h : ∀ value item, read value = .ok item ↔ Records describes value item) (place : String)
    {items : List α} :
    Lists describes members key items ↔ ∃ values, listOf members key place = .ok values ∧
      readEach (fun _ => read) 0 values = .ok items := by
  simp only [Lists, listOf_eq_ok_iff, readEach_const_eq_ok_iff, h]

theorem texts?_eq_some_iff {values : List Value} {texts : List String} :
    texts? values = some texts ↔ values = texts.map .str := by
  induction values generalizing texts with
  | nil => cases texts <;> simp [texts?]
  | cons value rest ih =>
    cases texts with
    | nil => cases value <;> simp [texts?]
    | cons text texts => cases value <;> simp [texts?, ih, and_comm]

theorem memberRef_eq_ok_iff {reference : MemberRef} :
    memberRef value = .ok reference ↔ DescribesReference value reference := by
  have hempty (given : List (String × Value)) (h : (Value.obj given).isTruthy = false) :
      given = [] := by
    simpa [Value.isTruthy] using h
  unfold memberRef DescribesReference
  split
  · next hfalse =>
    rw [Bool.not_eq_true'] at hfalse
    rw [Except.ok.injEq, eq_comm]
    constructor
    · exact fun h => .inl ⟨hfalse, h⟩
    · rintro (⟨-, h⟩ | ⟨given, rfl, rfl⟩)
      · exact h
      · -- what stands under the keys of an object without members is absent
        rw [hempty given hfalse]
        rfl
  · next htruthy =>
    rw [Bool.not_eq_true'] at htruthy
    split
    · next given => simp [htruthy, eq_comm]
    · next hnone =>
      refine iff_of_false (by simp) ?_
      rintro (⟨hfalse, -⟩ | ⟨given, rfl, -⟩)
      · exact htruthy hfalse
      · exact hnone given rfl

/-- A reference that is `needed` is an object iff the check for it finds nothing wrong. -/
theorem needed_iff {needed : Bool} :
    (needed && value.members?.isNone) = false ↔
      (needed = true → ∃ given, value = .obj given) := by
  cases needed <;> cases value <;> simp [Value.members?]

/-- An instruction is read at a position `index` of a method iff its record describes it there
(`DescribesInstruction`). -/
theorem instruction_eq_ok_iff {method descriptor : String} {index : ℕ} {insn : Instruction} :
    instruction owner method descriptor index value = .ok insn ↔
      Records (DescribesInstruction owner method descriptor index) value insn := by
  constructor
  · -- nothing that the reader checks has failed, and every check is a condition on the record
    intro h
    unfold instruction at h
    split at h
    · next members =>
      simp only at h
      split at h
      · cases h
      · next opcode hopcode =>
        split at h
        · cases h
        · next hfieldNeeded =>
          split at h
          · cases h
          · next hmethodNeeded =>
            obtain ⟨field, hfield, h⟩ := Except.bind_eq_ok_iff.1 h
            obtain ⟨callee, hcallee, h⟩ := Except.bind_eq_ok_iff.1 h
            cases h
            rw [Bool.not_eq_true] at hfieldNeeded hmethodNeeded
            exact ⟨members, rfl, rfl, rfl, rfl, rfl, Opcode.ofValue?_eq_some_iff.1 hopcode, rfl,
              rfl, memberRef_eq_ok_iff.1 hfield, memberRef_eq_ok_iff.1 hcallee, rfl,
              needed_iff.1 hfieldNeeded, needed_iff.1 hmethodNeeded⟩
    · cases h
  · rintro ⟨members, rfl, h⟩
    obtain ⟨owner, method, descriptor, index, opcode, integer, constant, field, callee, typeName⟩ :=
      insn
    obtain ⟨rfl, rfl, rfl, rfl, hopcode, rfl, rfl, hfield, hcallee, rfl, hfieldNeeded,
      hmethodNeeded⟩ := h
    simp only [instruction, Opcode.ofValue?_eq_some_iff.2 hopcode, needed_iff.2 hfieldNeeded,
      needed_iff.2 hmethodNeeded, memberRef_eq_ok_iff.2 hfield, memberRef_eq_ok_iff.2 hcallee,
      Except.ok_bind]
    rfl

/-- A field of a class `owner` is read iff its record describes it (`DescribesField`). -/
theorem field_eq_ok_iff {decl : FieldDecl} :
    field owner value = .ok decl ↔ Records (DescribesField owner) value decl := by
  constructor
  · intro h
    unfold field at h
    split at h
    · next members =>
      obtain ⟨name, hname, h⟩ := Except.bind_eq_ok_iff.1 h
      obtain ⟨descriptor, hdescriptor, h⟩ := Except.bind_eq_ok_iff.1 h
      split at h
      · next hfield =>
        obtain ⟨access, haccess, h⟩ := Except.bind_eq_ok_iff.1 h
        cases h
        exact ⟨members, rfl, rfl, textOf_eq_ok_iff.1 hname, textOf_eq_ok_iff.1 hdescriptor, hfield,
          haccess⟩
      · cases h
    · cases h
  · rintro ⟨members, rfl, rfl, hname, hdescriptor, hfield, haccess⟩
    simp only [field, textOf_eq_ok_iff.2 hname, textOf_eq_ok_iff.2 hdescriptor, Except.ok_bind,
      if_pos hfield, haccess]
    rfl

/-- A method of a class `owner` is read iff its record describes it (`DescribesMethod`). -/
theorem method_eq_ok_iff {decl : MethodDecl} :
    method owner value = .ok decl ↔ Records (DescribesMethod owner) value decl := by
  constructor
  · intro h
    unfold method at h
    split at h
    · next members =>
      obtain ⟨name, hname, h⟩ := Except.bind_eq_ok_iff.1 h
      obtain ⟨descriptor, hdescriptor, h⟩ := Except.bind_eq_ok_iff.1 h
      split at h
      · next hmethod =>
        obtain ⟨body, hbody, h⟩ := Except.bind_eq_ok_iff.1 h
        obtain ⟨instructions, hinstructions, h⟩ := Except.bind_eq_ok_iff.1 h
        obtain ⟨access, haccess, h⟩ := Except.bind_eq_ok_iff.1 h
        cases h
        simp only [readEach_eq_ok_iff, instruction_eq_ok_iff] at hinstructions
        exact ⟨members, rfl, rfl, textOf_eq_ok_iff.1 hname, textOf_eq_ok_iff.1 hdescriptor, hmethod,
          ⟨body, listOf_eq_ok_iff.1 hbody, hinstructions⟩, haccess⟩
      · cases h
    · cases h
  · rintro ⟨members, rfl, rfl, hname, hdescriptor, hmethod, ⟨body, hbody, hinstructions⟩, haccess⟩
    simp only [← instruction_eq_ok_iff, ← readEach_eq_ok_iff] at hinstructions
    simp only [method, textOf_eq_ok_iff.2 hname, textOf_eq_ok_iff.2 hdescriptor, Except.ok_bind,
      if_pos hmethod, listOf_eq_ok_iff.2 hbody, hinstructions, haccess]
    rfl

/-- A class is read iff its record describes it (`DescribesClass`), at whatever `position` it
stands. -/
theorem classDecl_eq_ok_iff {position : ℕ} {decl : ClassDecl} :
    classDecl position value = .ok decl ↔ Records DescribesClass value decl := by
  constructor
  · intro h
    unfold classDecl at h
    split at h
    · next members =>
      obtain ⟨name, hname, h⟩ := Except.bind_eq_ok_iff.1 h
      obtain ⟨interfaceValues, hvalues, h⟩ := Except.bind_eq_ok_iff.1 h
      split at h
      · cases h
      · next interfaces hinterfaces =>
        obtain ⟨fieldValues, hfieldValues, h⟩ := Except.bind_eq_ok_iff.1 h
        obtain ⟨fields, hfields, h⟩ := Except.bind_eq_ok_iff.1 h
        obtain ⟨methodValues, hmethodValues, h⟩ := Except.bind_eq_ok_iff.1 h
        obtain ⟨methods, hmethods, h⟩ := Except.bind_eq_ok_iff.1 h
        obtain ⟨access, haccess, h⟩ := Except.bind_eq_ok_iff.1 h
        cases h
        refine ⟨members, rfl, textOf_eq_ok_iff.1 hname, rfl, ?_, ?_, ?_, haccess⟩
        · rw [listOf_eq_ok_iff.1 hvalues, texts?_eq_some_iff.1 hinterfaces]
        · exact (lists_iff (fun _ _ => field_eq_ok_iff) _).2 ⟨fieldValues, hfieldValues, hfields⟩
        · exact (lists_iff (fun _ _ => method_eq_ok_iff) _).2
            ⟨methodValues, hmethodValues, hmethods⟩
    · cases h
  · rintro ⟨members, rfl, h⟩
    obtain ⟨fieldValues, hfieldValues, hfields⟩ :=
      (lists_iff (fun _ _ => field_eq_ok_iff) decl.name).1 h.fields
    obtain ⟨methodValues, hmethodValues, hmethods⟩ :=
      (lists_iff (fun _ _ => method_eq_ok_iff) decl.name).1 h.methods
    simp only [classDecl, textOf_eq_ok_iff.2 h.name, listOf_eq_ok_iff.2 h.interfaces,
      texts?_eq_some_iff.2 rfl, hfieldValues, hfields, hmethodValues, hmethods, h.access,
      Except.ok_bind, ← h.super_eq]
    rfl

/-- Classes are read iff every record describes one, no name comes twice, and none of them has been
`seen` before. -/
theorem classes_eq_ok_iff {position : ℕ} {seen : List String} {values : List Value}
    {decls : List ClassDecl} :
    classes position seen values = .ok decls ↔
      List.Forall₂ (Records DescribesClass) values decls ∧ (decls.map (·.name)).Nodup ∧
        ∀ decl ∈ decls, decl.name ∉ seen := by
  induction values generalizing position seen decls with
  | nil =>
    rw [classes, List.forall₂_nil_left_iff, Except.ok.injEq, eq_comm]
    constructor
    · rintro rfl
      simp
    · exact fun h => h.1
  | cons value rest ih =>
    rw [classes, List.forall₂_cons_left_iff, Except.bind_eq_ok_iff]
    constructor
    · rintro ⟨first, hfirst, h⟩
      split at h
      · cases h
      · next hunseen =>
        rw [List.contains_iff_mem] at hunseen
        obtain ⟨others, hothers, h⟩ := Except.bind_eq_ok_iff.1 h
        cases h
        -- the first name counts as seen when the other classes are read
        obtain ⟨hrest, hnodup, hfresh⟩ := ih.1 hothers
        refine ⟨⟨first, others, classDecl_eq_ok_iff.1 hfirst, hrest, rfl⟩, ?_, ?_⟩
        · refine List.nodup_cons.2 ⟨fun hmem => ?_, hnodup⟩
          obtain ⟨decl, hdecl, hname⟩ := List.mem_map.1 hmem
          exact hfresh decl hdecl (hname ▸ List.mem_cons_self ..)
        · refine List.forall_mem_cons.2 ⟨hunseen, fun decl hdecl hseen => ?_⟩
          exact hfresh decl hdecl (List.mem_cons_of_mem _ hseen)
    · rintro ⟨⟨first, others, hfirst, hrest, rfl⟩, hnodup, hfresh⟩
      obtain ⟨hunseen, hfresh⟩ := List.forall_mem_cons.1 hfresh
      obtain ⟨hother, hnodup⟩ := List.nodup_cons.1 hnodup
      refine ⟨first, classDecl_eq_ok_iff.2 hfirst, ?_⟩
      rw [if_neg (mt List.contains_iff_mem.1 hunseen)]
      refine Except.bind_eq_ok_iff.2 ⟨others, ih.2 ⟨hrest, hnodup, fun decl hdecl => ?_⟩, rfl⟩
      rw [List.mem_cons, not_or]
      exact ⟨fun hname => hother (List.mem_map.2 ⟨decl, hdecl, hname⟩), hfresh decl hdecl⟩

end Readers

end Document

/-- An `artifact` is read from a `document` by `ofValue` iff the document describes it
(`DescribesArtifact`). -/
theorem Artifact.ofValue_eq_ok_iff {document : Value} {artifact : Artifact} :
    ofValue document = .ok artifact ↔
      Document.Records Document.DescribesArtifact document artifact := by
  constructor
  · intro h
    unfold ofValue at h
    split at h
    · next members =>
      split at h
      · next values hvalues =>
        obtain ⟨classes, hclasses, h⟩ := Except.bind_eq_ok_iff.1 h
        cases h
        obtain ⟨hrecords, hnodup, -⟩ := Document.classes_eq_ok_iff.1 hclasses
        exact ⟨members, rfl, ⟨values, hvalues, hrecords⟩, hnodup, rfl⟩
      · cases h
    · cases h
  · rintro ⟨members, rfl, ⟨values, hvalues, hrecords⟩, hnodup, hrevision⟩
    have hclasses : Document.classes 0 [] values = .ok artifact.classes :=
      Document.classes_eq_ok_iff.2 ⟨hrecords, hnodup, fun _ _ => List.not_mem_nil⟩
    simp only [ofValue, hvalues, hclasses, Except.ok_bind, ← hrevision]
    rfl

end Reidentify

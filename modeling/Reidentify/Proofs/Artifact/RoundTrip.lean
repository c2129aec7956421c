import Reidentify.Proofs.Artifact.Occurrence

/-!
# Reading an artifact that was written

An artifact that was read from a document can be written to a document again. A reference to a
member is only written if it has a name. So when the document is read, a reference without a name
has become empty, and an instruction that has to name its member is refused. Everything else comes
back as it was: an artifact survives the round trip iff every reference has a name or is empty, and
has a name where the operation needs one.

## Main definitions

* `Artifact.written`: what is left of an artifact when references without a name are emptied.
* `Artifact.Refers`: instructions that have to name their member do so.
* `Artifact.Complete`: references without a name are empty.

## Main statements

* `Document.instruction_toValue_eq_ok_iff`: what comes back of an instruction.
* `Artifact.ofValue_toValue_eq_ok_iff`: what comes back of an artifact.
-/

namespace Reidentify

section Members

variable {key other : String} {value : Value}

/-- A `value` that is not absent is found under its `key`. -/
theorem Value.lookup_present_self (key : String) (value : Value) :
    (Value.present key value).lookup key = if value.isNull then none else some value := by
  unfold present
  split
  · rfl
  · exact List.lookup_cons_self

/-- Nothing is found under an `other` key than the one that was written. -/
theorem Value.lookup_present_of_ne (h : other ≠ key) (value : Value) :
    (Value.present key value).lookup other = none := by
  unfold present
  split
  · rfl
  · rw [List.lookup_cons, beq_eq_false_iff_ne.2 h]
    rfl

/-- What is not found is absent, and so are absent values: both are `.null`. -/
theorem Value.getD_lookup_present (value : Value) :
    (if value.isNull then none else some value).getD .null = value := by
  cases value <;> rfl

end Members

namespace MemberRef

variable {key other : String} {reference : MemberRef}

/-- The value that stands for a `reference` in a document, absent if the reference has no name. -/
def toValue (reference : MemberRef) : Value :=
  if reference.name.isNull then .null
  else .obj [("owner", reference.owner), ("name", reference.name),
    ("descriptor", reference.descriptor)]

/-- References are members like any other value: `toValue` stands under the `key`. -/
theorem present_eq (key : String) (reference : MemberRef) :
    reference.present key = Value.present key reference.toValue := by
  unfold present Value.present toValue
  by_cases h : reference.name.isNull = true
  · rw [if_pos h, if_pos h]
    rfl
  · rw [if_neg h, if_neg h]
    rfl

/-- What is left of a `reference` when it has been written and read: nothing without a name. -/
def written (reference : MemberRef) : MemberRef :=
  if reference.name.isNull then ⟨.null, .null, .null⟩ else reference

/-- A `reference` that is written by `toValue` is read by `memberRef` as what is left of it,
`reference.written`. -/
theorem memberRef_toValue (reference : MemberRef) :
    Document.memberRef reference.toValue = .ok reference.written := by
  unfold toValue written
  split <;> rfl

/-- A `reference` is written as an object iff it has a name. -/
theorem members?_toValue (reference : MemberRef) :
    reference.toValue.members?.isNone = reference.name.isNull := by
  unfold toValue
  cases reference.name.isNull <;> rfl

/-- A `reference` without a name is empty: it has no owner and no descriptor either. -/
def Complete (reference : MemberRef) : Prop :=
  reference.name = .null → reference = ⟨.null, .null, .null⟩

/-- Nothing is lost of a `reference` iff it is `Complete`. -/
theorem written_eq_self_iff : reference.written = reference ↔ reference.Complete := by
  obtain ⟨owner, name, descriptor⟩ := reference
  unfold written Complete
  cases name with
  | null => exact ⟨fun h _ => h.symm, fun h => (h rfl).symm⟩
  | _ => exact ⟨fun _ h => (nomatch h), fun _ => rfl⟩

end MemberRef

namespace Instruction

variable {insn : Instruction}

/-- What is left of the instruction `insn` when it has been written and read: its references are
`written`. -/
def written (insn : Instruction) : Instruction :=
  { insn with field := insn.field.written, callee := insn.callee.written }

/-- The instruction `insn` names the member that its operation needs, a field or a method. -/
structure Refers (insn : Instruction) : Prop where
  /-- An access to a field names the `field`. -/
  field : insn.opcode.isField = true → insn.field.name ≠ .null
  /-- A call names the method `callee`. -/
  callee : insn.opcode.isCall = true → insn.callee.name ≠ .null

/-- Both references of the instruction `insn` are complete (`MemberRef.Complete`). -/
structure Complete (insn : Instruction) : Prop where
  /-- The reference `field` to a field is complete. -/
  field : insn.field.Complete
  /-- The reference `callee` to a method is complete. -/
  callee : insn.callee.Complete

/-- Nothing is lost of an instruction `insn` iff its references are `Complete`. -/
theorem written_eq_self_iff : insn.written = insn ↔ insn.Complete := by
  obtain ⟨owner, method, descriptor, index, opcode, integer, constant, field, callee, typeName⟩ :=
    insn
  simp only [written, mk.injEq, true_and, and_true, MemberRef.written_eq_self_iff]
  exact ⟨fun h => ⟨h.1, h.2⟩, fun h => ⟨h.field, h.callee⟩⟩

/-- Under its keys the document `insn.toValue` of an instruction has its operation and its operands.
-/
theorem exists_members (insn : Instruction) : ∃ members, insn.toValue = .obj members ∧
    Value.member members "opcode" = insn.opcode.toValue ∧
    Value.member members "int" = insn.integer ∧
    Value.member members "constant" = insn.constant ∧
    Value.member members "field" = insn.field.toValue ∧
    Value.member members "method" = insn.callee.toValue ∧
    Value.member members "type" = insn.typeName := by
  refine ⟨_, rfl, ?_, ?_, ?_, ?_, ?_, ?_⟩ <;>
    simp [Value.member, List.lookup_append, List.lookup_cons, MemberRef.present_eq,
      Value.lookup_present_self, Value.lookup_present_of_ne, Value.getD_lookup_present]

end Instruction

/-- A list of `items` is left as it is by a function `f` iff every single `item` is. -/
theorem map_eq_self_iff {α : Type} {f : α → α} {items : List α} :
    items.map f = items ↔ ∀ item ∈ items, f item = item := by
  induction items with
  | nil => simp
  | cons item rest ih => rw [List.map_cons, List.cons.injEq, List.forall_mem_cons, ih]

namespace MethodDecl

/-- What is left of a `method` when it has been written and read: its instructions are `written`. -/
def written (method : MethodDecl) : MethodDecl :=
  { method with instructions := method.instructions.map Instruction.written }

end MethodDecl

namespace ClassDecl

/-- What is left of the class `decl` when it has been written and read: its methods are `written`.
-/
def written (decl : ClassDecl) : ClassDecl :=
  { decl with methods := decl.methods.map MethodDecl.written }

/-- The class that comes back keeps its `name`. -/
@[simp] theorem name_written (decl : ClassDecl) : decl.written.name = decl.name := rfl

/-- The instructions of all methods of the class `decl`. -/
def instructions (decl : ClassDecl) : List Instruction :=
  decl.methods.flatMap (·.instructions)

end ClassDecl

namespace Document

/-- A written instruction `insn.toValue` is read iff it names the member that its operation needs
(`Refers`), and then only references without a name are lost. -/
theorem instruction_toValue_eq_ok_iff {insn other : Instruction} :
    instruction insn.owner insn.method insn.descriptor insn.index insn.toValue = .ok other ↔
      insn.Refers ∧ other = insn.written := by
  obtain ⟨members, hmembers, hopcode, hinteger, hconstant, hfield, hcallee, htype⟩ :=
    insn.exists_members
  have hread : instruction insn.owner insn.method insn.descriptor insn.index insn.toValue =
      if insn.opcode.isField && insn.field.name.isNull then
        .error (.document (.noFieldReference
          (insn.owner ++ "." ++ insn.method ++ insn.descriptor) insn.index))
      else if insn.opcode.isCall && insn.callee.name.isNull then
        .error (.document (.noMethodReference
          (insn.owner ++ "." ++ insn.method ++ insn.descriptor) insn.index))
      else .ok insn.written := by
    rw [hmembers, instruction]
    simp only [hopcode, hinteger, hconstant, hfield, hcallee, htype, Opcode.ofValue?_toValue,
      MemberRef.members?_toValue, MemberRef.memberRef_toValue]
    rfl
  have hnull (value : Value) : value.isNull = true ↔ value = .null := by
    cases value <;> simp [Value.isNull]
  rw [hread]
  split
  · next hfield =>
    rw [Bool.and_eq_true, hnull] at hfield
    exact iff_of_false (by simp) fun h => h.1.field hfield.1 hfield.2
  · next hfield =>
    split
    · next hcallee =>
      rw [Bool.and_eq_true, hnull] at hcallee
      exact iff_of_false (by simp) fun h => h.1.callee hcallee.1 hcallee.2
    · next hcallee =>
      rw [Bool.and_eq_true, hnull] at hfield hcallee
      rw [Except.ok.injEq, eq_comm]
      exact (and_iff_right ⟨not_and.1 hfield, not_and.1 hcallee⟩).symm

/-- The `results` of a list that was read can be written and read again iff every single one can,
which is the condition `P`, and what comes back is their image under `f`. -/
theorem readEach_map_eq_ok_iff {α : Type} {read : Nat → Value → Except Fault α}
    {write : α → Value} {P : α → Prop} {f : α → α}
    (hread : ∀ position item result, read position item = .ok result → ∀ other,
      read position (write result) = .ok other ↔ P result ∧ other = f result)
    {position : Nat} {items : List Value} {results : List α}
    (h : readEach read position items = .ok results) (others : List α) :
    readEach read position (results.map write) = .ok others ↔
      (∀ result ∈ results, P result) ∧ others = results.map f := by
  -- by induction on the items; what is read of the first one stands at the head of both lists
  induction items generalizing position results others with
  | nil =>
    cases h
    rw [List.map_nil, readEach, Except.ok.injEq, eq_comm]
    simp
  | cons item rest ih =>
    obtain ⟨first, hfirst, h⟩ := Except.bind_eq_ok_iff.1 h
    obtain ⟨more, hmore, h⟩ := Except.bind_eq_ok_iff.1 h
    cases h
    rw [List.map_cons, readEach, List.forall_mem_cons, List.map_cons]
    constructor
    · intro hagain
      obtain ⟨other, hother, hagain⟩ := Except.bind_eq_ok_iff.1 hagain
      obtain ⟨rest', hrest, hagain⟩ := Except.bind_eq_ok_iff.1 hagain
      cases hagain
      obtain ⟨hP, rfl⟩ := (hread _ _ _ hfirst other).1 hother
      obtain ⟨hall, rfl⟩ := (ih hmore rest').1 hrest
      exact ⟨⟨hP, hall⟩, rfl⟩
    · rintro ⟨⟨hP, hall⟩, rfl⟩
      refine Except.bind_eq_ok_iff.2 ⟨f first, (hread _ _ _ hfirst _).2 ⟨hP, rfl⟩, ?_⟩
      exact Except.bind_eq_ok_iff.2 ⟨more.map f, (ih hmore _).2 ⟨hall, rfl⟩, rfl⟩

section Parts

/-- A written field `decl.toValue` is read as the field it was. -/
theorem field_toValue (decl : FieldDecl) (h : Descriptor.isField decl.descriptor = true) :
    field decl.owner decl.toValue = .ok decl := by
  have hread : field decl.owner decl.toValue =
      if Descriptor.isField decl.descriptor then .ok decl
      else .error (.document (.fieldDescriptor decl.owner decl.name decl.descriptor)) := rfl
  rw [hread, if_pos h]

/-- A written method `decl.toValue` is read with the instructions that its written instructions are
read as. -/
theorem method_toValue (decl : MethodDecl) (h : Descriptor.isMethod decl.descriptor = true) :
    method decl.owner decl.toValue =
      readEach (instruction decl.owner decl.name decl.descriptor) 0
        (decl.instructions.map Instruction.toValue) >>= fun instructions =>
          .ok { decl with instructions } := by
  have hread : method decl.owner decl.toValue =
      if Descriptor.isMethod decl.descriptor then
        readEach (instruction decl.owner decl.name decl.descriptor) 0
          (decl.instructions.map Instruction.toValue) >>= fun instructions =>
            .ok { decl with instructions }
      else .error (.document (.methodDescriptor decl.owner decl.name decl.descriptor)) := rfl
  rw [hread, if_pos h]

/-- A written class `decl.toValue` is read, at any `place`, with the fields and the methods that its
written ones are read as. -/
theorem classDecl_toValue (decl : ClassDecl) (h : decl.superName.isTruthy = true) (place : Nat) :
    classDecl place decl.toValue =
      readEach (fun _ => field decl.name) 0 (decl.fields.map FieldDecl.toValue) >>= fun fields =>
        readEach (fun _ => method decl.name) 0 (decl.methods.map MethodDecl.toValue) >>=
          fun methods => .ok { decl with fields, methods } := by
  have hsuper (more : List (String × Value)) :
      superName (("name", .str decl.name) :: ("super", decl.superName) :: more) =
        decl.superName := if_pos h
  have hname (more : List (String × Value)) (position : String) :
      textOf (("name", .str decl.name) :: more) "name" position = .ok decl.name := rfl
  have hinterfaces (more : List (String × Value)) :
      listOf (("name", .str decl.name) :: ("super", decl.superName) ::
        ("interfaces", .list (decl.interfaces.map .str)) :: more) "interfaces" decl.name =
          .ok (decl.interfaces.map .str) := rfl
  simp only [ClassDecl.toValue, classDecl, hname, hinterfaces, Except.ok_bind,
    texts?_eq_some_iff.2 rfl, hsuper]
  rfl

/-- The name `superName` of a superclass never counts as false. -/
theorem isTruthy_superName (members : List (String × Value)) :
    (superName members).isTruthy = true := by
  unfold superName
  simp only
  split
  · assumption
  · decide

end Parts

/-- If a computation `x` can only end with one value `a`, and does so under a condition `P`, the
same holds for a function `f` of its value. -/
theorem bind_ok_eq_ok_iff {α β : Type} {x : Except Fault α} {P : Prop} {a : α} {f : α → β}
    (h : ∀ b, x = .ok b ↔ P ∧ b = a) (c : β) :
    (x >>= fun b => .ok (f b)) = .ok c ↔ P ∧ c = f a := by
  rw [Except.bind_eq_ok_iff]
  constructor
  · rintro ⟨b, hb, hc⟩
    obtain ⟨hP, rfl⟩ := (h b).1 hb
    exact ⟨hP, (Except.ok.inj hc).symm⟩
  · rintro ⟨hP, rfl⟩
    exact ⟨a, (h a).2 ⟨hP, rfl⟩, rfl⟩

/-- A method `decl` that was read can be written and read again iff its instructions name the
members they need (`Refers`), and `decl.written` comes back. -/
theorem method_toValue_eq_ok_iff {owner : String} {document : Value} {decl : MethodDecl}
    (h : method owner document = .ok decl) (other : MethodDecl) :
    method owner decl.toValue = .ok other ↔
      (∀ insn ∈ decl.instructions, insn.Refers) ∧ other = decl.written := by
  obtain ⟨members, -, hdecl⟩ := method_eq_ok_iff.1 h
  obtain ⟨body, -, hbody⟩ := hdecl.instructions
  simp only [← instruction_eq_ok_iff, ← readEach_eq_ok_iff] at hbody
  obtain rfl := hdecl.owner_eq
  rw [method_toValue decl hdecl.isMethod]
  refine bind_ok_eq_ok_iff (readEach_map_eq_ok_iff (fun index item insn hinsn other => ?_) hbody)
    other
  obtain ⟨_, -, hinsn⟩ := instruction_eq_ok_iff.1 hinsn
  rw [← hinsn.owner_eq, ← hinsn.method_eq, ← hinsn.descriptor_eq, ← hinsn.index_eq]
  exact instruction_toValue_eq_ok_iff

/-- The `fields` of a class that were read can be written and read again. -/
theorem fields_toValue {owner : String} {documents : List Value} {fields : List FieldDecl}
    (h : readEach (fun _ => field owner) 0 documents = .ok fields) :
    readEach (fun _ => field owner) 0 (fields.map FieldDecl.toValue) = .ok fields := by
  have hread (_ : Nat) (item : Value) (decl : FieldDecl) (hdecl : field owner item = .ok decl)
      (other : FieldDecl) : field owner decl.toValue = .ok other ↔ True ∧ other = id decl := by
    obtain ⟨_, -, hdecl⟩ := field_eq_ok_iff.1 hdecl
    obtain rfl := hdecl.owner_eq
    rw [field_toValue decl hdecl.isField, Except.ok.injEq, eq_comm]
    exact (and_iff_right trivial).symm
  exact (readEach_map_eq_ok_iff hread h fields).2 ⟨fun _ _ => trivial, (List.map_id fields).symm⟩

/-- A class `decl` that was read can be written and read again, at any `place`, iff its instructions
name the members they need (`Refers`), and `decl.written` comes back. -/
theorem classDecl_toValue_eq_ok_iff {position : Nat} {document : Value} {decl : ClassDecl}
    (h : classDecl position document = .ok decl) (place : Nat) (other : ClassDecl) :
    classDecl place decl.toValue = .ok other ↔
      (∀ insn ∈ decl.instructions, insn.Refers) ∧ other = decl.written := by
  obtain ⟨members, -, hdecl⟩ := classDecl_eq_ok_iff.1 h
  have hsuper : decl.superName.isTruthy = true := hdecl.super_eq ▸ isTruthy_superName members
  obtain ⟨fields, -, hfields⟩ := (lists_iff (fun _ _ => field_eq_ok_iff) decl.name).1 hdecl.fields
  obtain ⟨methods, -, hmethods⟩ :=
    (lists_iff (fun _ _ => method_eq_ok_iff) decl.name).1 hdecl.methods
  rw [classDecl_toValue decl hsuper, fields_toValue hfields, Except.ok_bind]
  have hall : (∀ insn ∈ decl.instructions, insn.Refers) ↔
      ∀ method ∈ decl.methods, ∀ insn ∈ method.instructions, insn.Refers := by
    rw [ClassDecl.instructions, List.forall_mem_flatMap]
  rw [hall]
  exact bind_ok_eq_ok_iff (readEach_map_eq_ok_iff
    (fun _ _ _ hmethod other => method_toValue_eq_ok_iff hmethod other) hmethods) other

/-- Classes `decls` that were read can be written and read again iff their instructions name the
members they need (`Refers`). -/
theorem classes_map_toValue_eq_ok_iff {position : Nat} {seen : List String}
    {documents : List Value} {decls : List ClassDecl}
    (h : classes position seen documents = .ok decls) (others : List ClassDecl) :
    classes position seen (decls.map ClassDecl.toValue) = .ok others ↔
      (∀ decl ∈ decls, ∀ insn ∈ decl.instructions, insn.Refers) ∧
        others = decls.map ClassDecl.written := by
  -- by induction on the documents, as in the reading: a class is checked against those before it
  induction documents generalizing position seen decls others with
  | nil =>
    cases h
    rw [List.map_nil, classes, Except.ok.injEq, eq_comm]
    simp
  | cons document rest ih =>
    obtain ⟨first, hfirst, h⟩ := Except.bind_eq_ok_iff.1 h
    split at h
    · cases h
    · next hunseen =>
      obtain ⟨more, hmore, h⟩ := Except.bind_eq_ok_iff.1 h
      cases h
      have hfirst := classDecl_toValue_eq_ok_iff hfirst position
      rw [List.map_cons, classes, List.forall_mem_cons, List.map_cons]
      constructor
      · intro hagain
        obtain ⟨other, hother, hagain⟩ := Except.bind_eq_ok_iff.1 hagain
        obtain ⟨hrefers, rfl⟩ := (hfirst other).1 hother
        -- the class that comes back has the same name, so it has not been seen either
        rw [ClassDecl.name_written, if_neg hunseen] at hagain
        obtain ⟨rest', hrest, hagain⟩ := Except.bind_eq_ok_iff.1 hagain
        cases hagain
        obtain ⟨hall, rfl⟩ := (ih hmore rest').1 hrest
        exact ⟨⟨hrefers, hall⟩, rfl⟩
      · rintro ⟨⟨hrefers, hall⟩, rfl⟩
        refine Except.bind_eq_ok_iff.2 ⟨first.written, (hfirst _).2 ⟨hrefers, rfl⟩, ?_⟩
        rw [ClassDecl.name_written, if_neg hunseen]
        exact Except.bind_eq_ok_iff.2 ⟨_, (ih hmore _).2 ⟨hall, rfl⟩, rfl⟩

end Document

namespace Artifact

variable {artifact : Artifact}

/-- All instructions of an `artifact`, class by class. -/
def instructions (artifact : Artifact) : List Instruction :=
  artifact.classes.flatMap (·.instructions)

/-- What is left of an `artifact` when it has been written and read: its classes are `written`. -/
def written (artifact : Artifact) : Artifact :=
  { artifact with classes := artifact.classes.map ClassDecl.written }

/-- Instructions of the `artifact` that have to name their member do so (`Instruction.Refers`). -/
def Refers (artifact : Artifact) : Prop :=
  ∀ insn ∈ artifact.instructions, insn.Refers

/-- References of the `artifact` without a name are empty (`Instruction.Complete`). -/
def Complete (artifact : Artifact) : Prop :=
  ∀ insn ∈ artifact.instructions, insn.Complete

/-- Nothing is lost of an `artifact` iff its references are `Complete`. -/
theorem written_eq_self_iff : artifact.written = artifact ↔ artifact.Complete := by
  obtain ⟨classes, revision⟩ := artifact
  have hmethod (method : MethodDecl) :
      method.written = method ↔ ∀ insn ∈ method.instructions, insn.Complete := by
    obtain ⟨owner, name, descriptor, access, instructions⟩ := method
    simp only [MethodDecl.written, MethodDecl.mk.injEq, true_and, map_eq_self_iff,
      Instruction.written_eq_self_iff]
  have hclass (decl : ClassDecl) :
      decl.written = decl ↔ ∀ insn ∈ decl.instructions, insn.Complete := by
    obtain ⟨name, superName, interfaces, access, fields, methods⟩ := decl
    simp only [ClassDecl.written, ClassDecl.mk.injEq, true_and, map_eq_self_iff, hmethod,
      ClassDecl.instructions, List.forall_mem_flatMap]
  simp only [written, mk.injEq, and_true, map_eq_self_iff, hclass, Complete, instructions,
    List.forall_mem_flatMap]

/-- An artifact that was read from a `document` can be written and read again iff all instructions
that have to name their member do so (`Refers`), and then nothing but references without a name are
lost (`written`). So it comes back as it was iff its references are `Complete`, too. -/
theorem ofValue_toValue_eq_ok_iff {document : Value}
    (h : Artifact.ofValue document = .ok artifact) :
    (∀ other, Artifact.ofValue artifact.toValue = .ok other ↔
      artifact.Refers ∧ other = artifact.written) ∧
    (Artifact.ofValue artifact.toValue = .ok artifact ↔ artifact.Refers ∧ artifact.Complete) := by
  have hagain (other : Artifact) : Artifact.ofValue artifact.toValue = .ok other ↔
      artifact.Refers ∧ other = artifact.written := by
    unfold ofValue at h
    split at h
    · split at h
      · obtain ⟨classes, hclasses, h⟩ := Except.bind_eq_ok_iff.1 h
        cases h
        rw [Refers, instructions, List.forall_mem_flatMap]
        exact Document.bind_ok_eq_ok_iff (Document.classes_map_toValue_eq_ok_iff hclasses) other
      · cases h
    · cases h
  refine ⟨hagain, (hagain artifact).trans (and_congr_right fun _ => ?_)⟩
  rw [eq_comm, written_eq_self_iff]

section Example

/-- The document of a class `a` with one method, which consists of an instruction with the number
`opcode` and with a `reference` to a field. -/
def document (opcode : Int) (reference : List (String × Value)) : Value :=
  .obj [("classes", .list [.obj [("name", .str "a"), ("methods", .list [.obj [
    ("name", .str "m"), ("descriptor", .str "()V"), ("instructions", .list [.obj [
      ("opcode", .int opcode), ("field", .obj reference)]])]])]])]

/-- The artifact that such a document is read as, with the `reference` as it was read. -/
def referring (opcode : Opcode) (reference : MemberRef) : Artifact where
  classes := [⟨"a", .str "java/lang/Object", [], 1, [], [⟨"a", "m", "()V", 0,
    [⟨"a", "m", "()V", 0, opcode, .null, .null, reference, ⟨.null, .null, .null⟩, .null⟩]⟩]⟩]
  revision := ""

/-- An access to a field comes back with its name (`named`). A reference that only names the class
of the field comes back empty, where the operation does not need it (`stray`), and is refused, where
it does (`lacking`). -/
theorem ofValue_toValue_eq_ok_iff_referring :
    let named := referring (.number 180) ⟨.str "b", .str "f", .null⟩
    let stray := referring (.number 0) ⟨.str "b", .null, .null⟩
    let lacking := referring (.number 180) ⟨.str "b", .null, .null⟩
    (Artifact.ofValue (document 180 [("owner", .str "b"), ("name", .str "f")]) = .ok named ∧
      Artifact.ofValue named.toValue = .ok named) ∧
    (Artifact.ofValue (document 0 [("owner", .str "b")]) = .ok stray ∧
      Artifact.ofValue stray.toValue = .ok (referring (.number 0) ⟨.null, .null, .null⟩)) ∧
    Artifact.ofValue (document 180 [("owner", .str "b")]) = .ok lacking ∧
      ∀ other, Artifact.ofValue lacking.toValue ≠ .ok other := by
  intro named stray lacking
  have hnamed : Artifact.ofValue (document 180 [("owner", .str "b"), ("name", .str "f")]) =
      .ok named := by decide +kernel
  have hstray : Artifact.ofValue (document 0 [("owner", .str "b")]) = .ok stray := by
    decide +kernel
  have hlacking : Artifact.ofValue (document 180 [("owner", .str "b")]) = .ok lacking := by
    decide +kernel
  refine ⟨⟨hnamed, (ofValue_toValue_eq_ok_iff hnamed).2.2 ⟨?_, ?_⟩⟩,
    ⟨hstray, ((ofValue_toValue_eq_ok_iff hstray).1 _).2 ⟨?_, rfl⟩⟩, hlacking, fun other hread => ?_⟩
  · intro insn hmem
    obtain rfl := List.mem_singleton.1 hmem
    exact ⟨fun _ => by decide, fun hcall => absurd hcall (by decide)⟩
  · intro insn hmem
    obtain rfl := List.mem_singleton.1 hmem
    exact ⟨fun hnone => absurd hnone (by decide), fun _ => rfl⟩
  · intro insn hmem
    obtain rfl := List.mem_singleton.1 hmem
    exact ⟨fun hfield => absurd hfield (by decide), fun hcall => absurd hcall (by decide)⟩
  · obtain ⟨hrefers, -⟩ := ((ofValue_toValue_eq_ok_iff hlacking).1 other).1 hread
    exact (hrefers _ (List.mem_singleton_self _)).field (by decide) rfl

/-- So `toValue` and `ofValue` do not give back every `artifact` that was read. -/
theorem exists_ofValue_toValue_ne :
    ∃ document artifact, Artifact.ofValue document = .ok artifact ∧
      Artifact.ofValue artifact.toValue ≠ .ok artifact := by
  refine ⟨document 0 [("owner", .str "b")], referring (.number 0) ⟨.str "b", .null, .null⟩, ?_, ?_⟩
  · decide +kernel
  · decide +kernel

end Example

end Artifact

end Reidentify

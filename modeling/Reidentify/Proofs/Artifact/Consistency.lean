import Reidentify.Proofs.Artifact.Occurrence
import Reidentify.Proofs.Text.Names
import Reidentify.Query.Evaluation

/-!
# The consistency of an artifact that was read

An artifact that was read has one part for every record of its document, and the parts fit together:
a class is found by its name, members name their class, and instructions name their method and their
position in it. The descriptors of the members are well formed, so the types of a method can always
be asked for.

## Main definitions

* `MethodDecl.Consistent`, `ClassDecl.Consistent`, `Artifact.Consistent`: the parts fit together.

## Main statements

* `Document.DescribesArtifact.consistent`: what a document describes is consistent.
* `Artifact.consistent_of_ofValue`: an artifact that was read is what its document describes, and it
  is consistent.
-/

namespace Reidentify

/-- A `method` and its instructions fit together, as the document that they were read from has them.
-/
structure MethodDecl.Consistent (method : MethodDecl) : Prop where
  /-- Its `descriptor` is one of a method. -/
  isMethod : Descriptor.isMethod method.descriptor = true
  /-- The types of its arguments and of its result can be asked for, as a pair by `needSignature`
  and one by one. -/
  types : ∃ signature, method.needSignature = .ok signature ∧
    (Entity.ofMethod method).attribute? "return_type" = some (.text signature.result) ∧
    (Entity.ofMethod method).attribute? "arguments" = some (.texts signature.arguments)
  /-- Every instruction names the method, and its `index` is its position. -/
  place : ∀ (index : ℕ) (insn : Instruction), method.instructions[index]? = some insn →
    insn.owner = method.owner ∧ insn.method = method.name ∧ insn.descriptor = method.descriptor ∧
      insn.index = index
  /-- The operations of the instructions are bytes. -/
  code_le : ∀ insn ∈ method.instructions, insn.opcode.code ≤ 255

/-- A class `decl` and its members fit together: they name it as their owner, and their descriptors
can be read. -/
structure ClassDecl.Consistent (decl : ClassDecl) : Prop where
  /-- The members name the class as their owner. -/
  owned : decl.Owned
  /-- The descriptors of the fields are ones of fields. -/
  isField : ∀ field ∈ decl.fields, Descriptor.isField field.descriptor = true
  /-- Every method is `Consistent` with its instructions. -/
  methods : ∀ method ∈ decl.methods, method.Consistent

/-- An `artifact` and its classes fit together: every class is consistent, and no two have one name.
-/
structure Artifact.Consistent (artifact : Artifact) : Prop where
  /-- No two classes have the same name. -/
  nodup : (artifact.classes.map (·.name)).Nodup
  /-- Every class is found by its name with `findClass?`. -/
  found : ∀ decl ∈ artifact.classes, artifact.findClass? decl.name = some decl
  /-- Every class is `Consistent` with its members. -/
  classes : ∀ decl ∈ artifact.classes, decl.Consistent

/-- The types of a `method` can be asked for if its descriptor is well formed, by `needSignature`
and as attributes. -/
theorem MethodDecl.exists_types {method : MethodDecl}
    (h : Descriptor.isMethod method.descriptor = true) :
    ∃ signature, method.needSignature = .ok signature ∧
      (Entity.ofMethod method).attribute? "return_type" = some (.text signature.result) ∧
      (Entity.ofMethod method).attribute? "arguments" = some (.texts signature.arguments) := by
  obtain ⟨signature, hsignature⟩ := Option.isSome_iff_exists.1 h
  have hsignature : method.signature? = some signature := hsignature
  refine ⟨signature, ?_, ?_, ?_⟩
  · rw [needSignature, hsignature]
  · simp [Entity.attribute?, attributes, derivedAttributes, hsignature, List.lookup_cons]
  · simp [Entity.attribute?, attributes, derivedAttributes, hsignature, List.lookup_cons]

namespace Document

variable {owner : String} {members : List (String × Value)}

theorem DescribesMethod.consistent {method : MethodDecl}
    (h : DescribesMethod owner members method) : method.Consistent where
  isMethod := h.isMethod
  types := MethodDecl.exists_types h.isMethod
  place index insn hget := by
    obtain ⟨values, -, hinstructions⟩ := h.instructions
    obtain ⟨hlt, rfl⟩ := List.getElem?_eq_some_iff.1 hget
    obtain ⟨_, -, hinsn⟩ := hinstructions.get (hinstructions.length_eq ▸ hlt) hlt
    rw [h.owner_eq]
    refine ⟨hinsn.owner_eq, hinsn.method_eq, hinsn.descriptor_eq, ?_⟩
    -- the record at an index stands at this position
    simpa using hinsn.index_eq
  code_le insn _ := Nat.le_of_lt_succ insn.opcode.code_lt

theorem DescribesClass.consistent {decl : ClassDecl} (h : DescribesClass members decl) :
    decl.Consistent where
  owned := h.owned
  isField field hfield := by
    obtain ⟨_, -, hfields⟩ := h.fields
    obtain ⟨_, hdescribes⟩ := exists_record hfields hfield
    exact hdescribes.isField
  methods method hmethod := by
    obtain ⟨_, -, hmethods⟩ := h.methods
    obtain ⟨_, hdescribes⟩ := exists_record hmethods hmethod
    exact hdescribes.consistent

/-- What a document describes (`DescribesArtifact`) is `Consistent`. -/
theorem DescribesArtifact.consistent {artifact : Artifact}
    (h : DescribesArtifact members artifact) : artifact.Consistent where
  nodup := h.nodup
  found decl hdecl := (Artifact.findClass?_eq_some_iff h.nodup).2 ⟨hdecl, rfl⟩
  classes decl hdecl := by
    obtain ⟨_, -, hclasses⟩ := h.classes
    obtain ⟨_, hdescribes⟩ := exists_record hclasses hdecl
    exact hdescribes.consistent

end Document

namespace Artifact

/-- An `artifact` that was read is what its `document` describes, record by record, and its parts
fit together (`Consistent`). -/
theorem consistent_of_ofValue {document : Value} {artifact : Artifact}
    (h : ofValue document = .ok artifact) :
    Document.Records Document.DescribesArtifact document artifact ∧ artifact.Consistent := by
  have hrecords := ofValue_eq_ok_iff.1 h
  refine ⟨hrecords, ?_⟩
  obtain ⟨_, -, hdescribes⟩ := hrecords
  exact hdescribes.consistent

section Example

/-- The document of two classes, one of which has a field and a method that reads the field. The
first operation of the method is written as a truth value. -/
def twoClasses : Value :=
  .obj [("revision", .str "r1"), ("classes", .list [
    .obj [("name", .str "a"), ("super", .str "b"),
      ("fields", .list [.obj [("name", .str "f"), ("descriptor", .str "[I")]]),
      ("methods", .list [.obj [("name", .str "m"), ("descriptor", .str "(I)La;"),
        ("access", .int 8), ("instructions", .list [.obj [("opcode", .bool true)],
          .obj [("opcode", .int 180),
            ("field", .obj [("owner", .str "a"), ("name", .str "f")])]])]])],
    .obj [("name", .str "b"), ("interfaces", .list [.str "c"])]])]

/-- The classes of `twoClasses` as they are read. The method reads the field with an `operation`. -/
def readClasses (operation : Opcode) : List ClassDecl :=
  let none : MemberRef := ⟨.null, .null, .null⟩
  [⟨"a", .str "b", [], 1, [⟨"a", "f", "[I", 0⟩], [⟨"a", "m", "(I)La;", 8,
    [⟨"a", "m", "(I)La;", 0, .flag true, .null, .null, none, none, .null⟩,
      ⟨"a", "m", "(I)La;", 1, operation, .null, .null, ⟨.str "a", .str "f", .null⟩, none,
        .null⟩]⟩]⟩,
    ⟨"b", .str Document.rootClass, ["c"], 1, [], []⟩]

theorem consistent_of_ofValue_twoClasses :
    ofValue twoClasses = .ok ⟨readClasses (.number 180), "r1"⟩ ∧
      Document.Records Document.DescribesArtifact twoClasses
        ⟨readClasses (.number 180), "r1"⟩ ∧
      Consistent ⟨readClasses (.number 180), "r1"⟩ := by
  have hread : ofValue twoClasses = .ok ⟨readClasses (.number 180), "r1"⟩ := by decide +kernel
  exact ⟨hread, consistent_of_ofValue hread⟩

end Example

end Artifact

end Reidentify

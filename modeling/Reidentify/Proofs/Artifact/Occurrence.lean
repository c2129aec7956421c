import Reidentify.Pass.Candidates
import Reidentify.Proofs.Artifact.Chain
import Reidentify.Proofs.Artifact.Reading

/-!
# Entities that occur in an artifact

The classes of an artifact occur in it, and so do their members and the instructions of their
methods. A member names its owner, which is the class that declares it if the artifact was read
from a document.

## Main definitions

* `Entity.target`: the target that an entity is of.
* `Artifact.Owned`: every member names the class that declares it.
* `Artifact.Holds`: an entity occurs in an artifact.

## Main statements

* `Artifact.owned_of_ofValue`: the members of an artifact that was read name their classes.
* `Artifact.holds_of_mem_members`: the members of a class occur in the artifact of the class.
* `Artifact.holds_of_fieldOf`, `Artifact.holds_of_methodOf`: so do the members that instructions
  refer to.
-/

namespace Reidentify

/-- The target that an entity is of: `toClass`, `toField`, `toMethod` or `toInstruction`. -/
def Entity.target : Entity → Target
  | .ofClass _ => .toClass
  | .ofField _ => .toField
  | .ofMethod _ => .toMethod
  | .ofInstruction _ => .toInstruction

/-- The target that the `members` in a part of a class are of, which is `toInstruction` only for
`constructorInstructions`. -/
def ClassPart.memberTarget : ClassPart → Target
  | .instanceFields | .staticFields => .toField
  | .instanceMethods | .staticMethods => .toMethod
  | .constructorInstructions => .toInstruction

/-- The members in a `part` of a class are of one target, `part.memberTarget`. -/
theorem ClassPart.target_of_mem_members {part : ClassPart} {decl : ClassDecl} {entity : Entity}
    (h : entity ∈ part.members decl) : entity.target = part.memberTarget := by
  cases part with
  | instanceFields | staticFields | instanceMethods | staticMethods | constructorInstructions =>
    obtain ⟨_, -, rfl⟩ := List.mem_map.1 h
    rfl

/-- The fields and the methods of the class `decl` name it as their `owner`. -/
structure ClassDecl.Owned (decl : ClassDecl) : Prop where
  /-- The `fields` name the class. -/
  fields : ∀ field ∈ decl.fields, field.owner = decl.name
  /-- The `methods` name the class. -/
  methods : ∀ method ∈ decl.methods, method.owner = decl.name

/-- Every member in the `artifact` names the class that declares it (`ClassDecl.Owned`). -/
def Artifact.Owned (artifact : Artifact) : Prop :=
  ∀ decl ∈ artifact.classes, decl.Owned

/-- An entity occurs in an `artifact`: it is a class, a member of the class that it names as its
`owner`, or an instruction of such a method. -/
inductive Artifact.Holds (artifact : Artifact) : Entity → Prop
  /-- The class `decl` is one of the artifact. -/
  | ofClass {decl} (hdecl : decl ∈ artifact.classes) : Holds artifact (.ofClass decl)
  /-- The `field` is declared by the class `decl`, which it names as its owner. -/
  | ofField {decl field} (hdecl : decl ∈ artifact.classes) (hfield : field ∈ decl.fields)
      (howner : field.owner = decl.name) : Holds artifact (.ofField field)
  /-- The `method` is declared by the class `decl`, which it names as its owner. -/
  | ofMethod {decl method} (hdecl : decl ∈ artifact.classes) (hmethod : method ∈ decl.methods)
      (howner : method.owner = decl.name) : Holds artifact (.ofMethod method)
  /-- The instruction `insn` stands in a `method` that the artifact holds. -/
  | ofInstruction {method insn} (hmethod : Holds artifact (.ofMethod method))
      (hinsn : insn ∈ method.instructions) : Holds artifact (.ofInstruction insn)

/-- Every `item` of a list of items is described by the `members` of some record. -/
theorem Document.exists_record {α : Type} {describes : List (String × Value) → α → Prop}
    {values : List Value} {items : List α} (h : List.Forall₂ (Records describes) values items)
    {item : α} (hmem : item ∈ items) : ∃ members, describes members item := by
  induction h with
  | nil => cases hmem
  | cons hfirst _ ih =>
    rcases List.mem_cons.1 hmem with rfl | hmem
    · obtain ⟨members, -, hdescribes⟩ := hfirst
      exact ⟨members, hdescribes⟩
    · exact ih hmem

/-- A class that some `members` describe (`DescribesClass`) is named by its fields and methods as
their owner. -/
theorem Document.DescribesClass.owned {members : List (String × Value)} {decl : ClassDecl}
    (h : DescribesClass members decl) : decl.Owned := by
  obtain ⟨_, -, hfields⟩ := h.fields
  obtain ⟨_, -, hmethods⟩ := h.methods
  constructor
  · intro field hmem
    obtain ⟨_, hfield⟩ := exists_record hfields hmem
    exact hfield.owner_eq
  · intro method hmem
    obtain ⟨_, hmethod⟩ := exists_record hmethods hmem
    exact hmethod.owner_eq

namespace Artifact

variable {artifact : Artifact}

/-- The members of an artifact that was read from a `document` by `ofValue` name their classes
(`Owned`). -/
theorem owned_of_ofValue {document : Value} (h : ofValue document = .ok artifact) :
    artifact.Owned := by
  obtain ⟨_, -, hartifact⟩ := ofValue_eq_ok_iff.1 h
  obtain ⟨_, -, hclasses⟩ := hartifact.classes
  intro decl hdecl
  obtain ⟨_, hclass⟩ := Document.exists_record hclasses hdecl
  exact hclass.owned

/-- A member in a `part` of a class of the artifact occurs in the artifact (`Holds`). -/
theorem holds_of_mem_members (howned : artifact.Owned) {decl : ClassDecl}
    (hdecl : decl ∈ artifact.classes) (part : ClassPart) {entity : Entity}
    (hmem : entity ∈ part.members decl) : artifact.Holds entity := by
  have hfield {field : FieldDecl} (hfield : field ∈ decl.fields) :
      artifact.Holds (.ofField field) :=
    .ofField hdecl hfield ((howned decl hdecl).fields field hfield)
  have hmethod {method : MethodDecl} (hmethod : method ∈ decl.methods) :
      artifact.Holds (.ofMethod method) :=
    .ofMethod hdecl hmethod ((howned decl hdecl).methods method hmethod)
  cases part with
  | instanceFields | staticFields =>
    obtain ⟨field, hpart, rfl⟩ := List.mem_map.1 hmem
    exact hfield (List.mem_of_mem_filter hpart)
  | instanceMethods | staticMethods =>
    obtain ⟨method, hpart, rfl⟩ := List.mem_map.1 hmem
    exact hmethod (List.mem_of_mem_filter hpart)
  | constructorInstructions =>
    obtain ⟨insn, hpart, rfl⟩ := List.mem_map.1 hmem
    obtain ⟨method, hconstructor, hinsn⟩ := List.mem_flatMap.1 hpart
    exact .ofInstruction (hmethod (List.mem_of_mem_filter hconstructor)) hinsn

/-- The field that `fieldOf` finds for an instruction occurs in the artifact (`Holds`). -/
theorem holds_of_fieldOf (howned : artifact.Owned) {insn : Instruction} {field : FieldDecl}
    (h : artifact.fieldOf insn = .ok (some field)) : artifact.Holds (.ofField field) := by
  obtain ⟨decl, hdecl, hmem⟩ := exists_of_fieldOf h
  exact .ofField hdecl hmem ((howned decl hdecl).fields field hmem)

/-- The method that `methodOf` finds for an instruction occurs in the artifact (`Holds`). -/
theorem holds_of_methodOf (howned : artifact.Owned) {insn : Instruction} {method : MethodDecl}
    (h : artifact.methodOf insn = .ok (some method)) : artifact.Holds (.ofMethod method) := by
  obtain ⟨decl, hdecl, hmem⟩ := exists_of_methodOf h
  exact .ofMethod hdecl hmem ((howned decl hdecl).methods method hmem)

end Artifact

end Reidentify

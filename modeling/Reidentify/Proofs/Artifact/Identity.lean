import Reidentify.Proofs.Artifact.Consistency
import Reidentify.Proofs.Report.Changes

/-!
# What a reference identifies

A reference keeps a part of an entity: the name of a class, the names and the descriptor of a
member, the place and the operation of an instruction. An artifact that was read has every class
once, and an instruction is the only one at its place in its method. But nothing keeps a class from
declaring several fields, or several methods, with the same name and the same descriptor. So
references identify the entities of an artifact iff no class does that, except for members that are
equal anyway.

## Main definitions

* `Entity.SameRef`: two entities have equal references.
* `Entity.Same`: two entities are one entity, or equal ones.
* `ClassDecl.TellsApart`: the members of a class are told apart by name and descriptor.
* `Artifact.RefsIdentify`: entities with equal references are the same.

## Main statements

* `Entity.Same.sameRef`: the same entities have equal references.
* `Artifact.Consistent.refsIdentify_iff`: references identify entities iff every class tells its
  members apart.
-/

namespace Reidentify

section Definitions

/-- Two entities `a` and `b` have equal references: the documents `a.ref.toValue` and
`b.ref.toValue` of their references are equal. -/
def Entity.SameRef (a b : Entity) : Prop :=
  a.ref.toValue.equals b.ref.toValue = true

/-- Two entities are one entity, `a = b`, or equal ones, which `Entity.equals` does not tell apart.
-/
def Entity.Same (a b : Entity) : Prop :=
  a = b ∨ a.equals b = true

/-- Fields of the class `decl` with the same name and the same descriptor are the same
(`Entity.Same`), and so are its methods. -/
structure ClassDecl.TellsApart (decl : ClassDecl) : Prop where
  /-- Two of its `fields` with one name and one descriptor are the same. -/
  fields : ∀ field ∈ decl.fields, ∀ other ∈ decl.fields, field.name = other.name →
    field.descriptor = other.descriptor → Entity.Same (.ofField field) (.ofField other)
  /-- Two of its `methods` with one name and one descriptor are the same. -/
  methods : ∀ method ∈ decl.methods, ∀ other ∈ decl.methods, method.name = other.name →
    method.descriptor = other.descriptor → Entity.Same (.ofMethod method) (.ofMethod other)

/-- Entities of an `artifact` whose references are equal (`SameRef`) are the same (`Same`). -/
def Artifact.RefsIdentify (artifact : Artifact) : Prop :=
  ∀ a b, artifact.Holds a → artifact.Holds b → a.SameRef b → a.Same b

end Definitions

namespace Entity

variable {a b : Entity}

/-- References are equal iff they are the same when their operations are numbers
(`EntityRef.numbered`). -/
theorem sameRef_iff : a.SameRef b ↔ a.ref.numbered = b.ref.numbered :=
  EntityRef.toValue_equals_iff a.ref b.ref

/-- Two classes have equal references (`SameRef`) iff they have the same `name`. -/
theorem sameRef_ofClass_iff {decl other : ClassDecl} :
    SameRef (.ofClass decl) (.ofClass other) ↔ decl.name = other.name := by
  simp [sameRef_iff, ref, EntityRef.numbered]

/-- Two fields have equal references iff they have the same `owner`, the same `name` and the same
`descriptor`. -/
theorem sameRef_ofField_iff {field other : FieldDecl} :
    SameRef (.ofField field) (.ofField other) ↔
      field.owner = other.owner ∧ field.name = other.name ∧
        field.descriptor = other.descriptor := by
  simp [sameRef_iff, ref, EntityRef.numbered]

/-- Two methods have equal references iff they have the same `owner`, the same `name` and the same
`descriptor`. -/
theorem sameRef_ofMethod_iff {method other : MethodDecl} :
    SameRef (.ofMethod method) (.ofMethod other) ↔
      method.owner = other.owner ∧ method.name = other.name ∧
        method.descriptor = other.descriptor := by
  simp [sameRef_iff, ref, EntityRef.numbered]

/-- Two instructions have equal references iff they stand at the same `index` of the same method and
have the same operation. -/
theorem sameRef_ofInstruction_iff {insn other : Instruction} :
    SameRef (.ofInstruction insn) (.ofInstruction other) ↔
      insn.owner = other.owner ∧ insn.method = other.method ∧
        insn.descriptor = other.descriptor ∧ insn.index = other.index ∧
        insn.opcode.code = other.opcode.code := by
  simp [sameRef_iff, ref, EntityRef.numbered, Opcode.numbered]

/-- Entities with equal references (`SameRef`) are of the same `target`. -/
theorem SameRef.target_eq (h : a.SameRef b) : a.target = b.target := by
  have hnumbered := sameRef_iff.1 h
  cases a <;> cases b <;> first | rfl | cases hnumbered

/-- Entities that are the same (`Same`) have equal references (`SameRef`). -/
theorem Same.sameRef (h : a.Same b) : a.SameRef b := by
  rcases h with rfl | hequals
  · exact sameRef_iff.2 rfl
  · -- entities of different kinds are never equal
    cases a with
    | ofClass decl =>
      cases b with
      | ofClass other =>
        simp only [equals, ClassDecl.equals, Bool.and_eq_true, beq_iff_eq] at hequals
        simp [sameRef_ofClass_iff, hequals]
      | _ => cases hequals
    | ofField field =>
      cases b with
      | ofField other =>
        obtain rfl : field = other := beq_iff_eq.1 hequals
        exact sameRef_iff.2 rfl
      | _ => cases hequals
    | ofMethod method =>
      cases b with
      | ofMethod other =>
        simp only [equals, MethodDecl.equals, Bool.and_eq_true, beq_iff_eq] at hequals
        simp [sameRef_ofMethod_iff, hequals]
      | _ => cases hequals
    | ofInstruction insn =>
      cases b with
      | ofInstruction other =>
        simp only [equals, Instruction.equals, Bool.and_eq_true, beq_iff_eq] at hequals
        simp [sameRef_ofInstruction_iff, hequals]
      | _ => cases hequals

/-- Methods that are the same (`Same`) have the same instructions at every `index`. -/
theorem Same.instruction {method other : MethodDecl}
    (h : Same (.ofMethod method) (.ofMethod other)) {index : ℕ} {insn twin : Instruction}
    (hinsn : method.instructions[index]? = some insn)
    (htwin : other.instructions[index]? = some twin) :
    Same (.ofInstruction insn) (.ofInstruction twin) := by
  rcases h with heq | hequals
  · obtain rfl := Entity.ofMethod.inj heq
    exact .inl (congrArg _ (Option.some.inj (hinsn.symm.trans htwin)))
  · right
    simp only [equals, MethodDecl.equals, Bool.and_eq_true] at hequals
    -- equal bodies have the same length and equal instructions at every index
    have hbody := hequals.2
    rw [List.isEqv_eq_decide] at hbody
    split at hbody
    · obtain ⟨hlt, rfl⟩ := List.getElem?_eq_some_iff.1 hinsn
      obtain ⟨_, rfl⟩ := List.getElem?_eq_some_iff.1 htwin
      exact of_decide_eq_true hbody index hlt
    · cases hbody

end Entity

namespace Artifact

variable {artifact : Artifact}

/-- In an artifact that is `Consistent` a class is determined by its `name`. -/
theorem Consistent.eq_of_name (h : artifact.Consistent) {decl other : ClassDecl}
    (hdecl : decl ∈ artifact.classes) (hother : other ∈ artifact.classes)
    (hname : decl.name = other.name) : decl = other :=
  List.inj_on_of_nodup_map h.nodup hdecl hother hname

/-- Two classes of an artifact with equal references (`SameRef`) are one class. -/
theorem Consistent.eq_of_sameRef (h : artifact.Consistent) {decl other : ClassDecl}
    (hdecl : artifact.Holds (.ofClass decl)) (hother : artifact.Holds (.ofClass other))
    (hsame : Entity.SameRef (.ofClass decl) (.ofClass other)) : decl = other := by
  -- the artifact holds both classes, so both are among its `classes`
  cases hdecl with
  | ofClass hdecl =>
    cases hother with
    | ofClass hother => exact h.eq_of_name hdecl hother (Entity.sameRef_ofClass_iff.1 hsame)

/-- If every class `TellsApart` its members, methods of the artifact with equal references are the
same. -/
theorem Consistent.same_of_methods (h : artifact.Consistent)
    (htells : ∀ decl ∈ artifact.classes, decl.TellsApart) {method other : MethodDecl}
    (hmethod : artifact.Holds (.ofMethod method)) (hother : artifact.Holds (.ofMethod other))
    (hsame : Entity.SameRef (.ofMethod method) (.ofMethod other)) :
    Entity.Same (.ofMethod method) (.ofMethod other) := by
  obtain ⟨hsameOwner, hname, hdescriptor⟩ := Entity.sameRef_ofMethod_iff.1 hsame
  -- each method names the class that declares it, and the two names are equal
  cases hmethod with
  | ofMethod hdecl hmethod howner =>
    cases hother with
    | ofMethod hdecl' hother howner' =>
      obtain rfl := h.eq_of_name hdecl hdecl' (howner.symm.trans (hsameOwner.trans howner'))
      exact (htells _ hdecl).methods _ hmethod _ hother hname hdescriptor

/-- Every method that a consistent artifact `Holds` is itself consistent. -/
theorem Consistent.method (h : artifact.Consistent) {method : MethodDecl}
    (hmethod : artifact.Holds (.ofMethod method)) : method.Consistent := by
  cases hmethod with
  | ofMethod hdecl hmethod _ => exact (h.classes _ hdecl).methods _ hmethod

/-- If every class of a consistent artifact `TellsApart` its members, references identify its
entities (`RefsIdentify`). -/
theorem Consistent.refsIdentify (h : artifact.Consistent)
    (htells : ∀ decl ∈ artifact.classes, decl.TellsApart) : artifact.RefsIdentify := by
  intro a b ha hb hsame
  have htarget := hsame.target_eq
  cases ha with
  | ofClass hdecl =>
    cases hb with
    | ofClass hdecl' =>
      exact .inl (congrArg _ (h.eq_of_sameRef (.ofClass hdecl) (.ofClass hdecl') hsame))
    | _ => cases htarget
  | ofField hdecl hfield howner =>
    cases hb with
    | ofField hdecl' hfield' howner' =>
      obtain ⟨hsameOwner, hname, hdescriptor⟩ := Entity.sameRef_ofField_iff.1 hsame
      -- both owners name their class, so there is only one class
      obtain rfl := h.eq_of_name hdecl hdecl' (howner.symm.trans (hsameOwner.trans howner'))
      exact (htells _ hdecl).fields _ hfield _ hfield' hname hdescriptor
    | _ => cases htarget
  | ofMethod hdecl hmethod howner =>
    cases hb with
    | ofMethod hdecl' hmethod' howner' =>
      exact h.same_of_methods htells (.ofMethod hdecl hmethod howner)
        (.ofMethod hdecl' hmethod' howner') hsame
    | _ => cases htarget
  | ofInstruction hmethod hinsn =>
    cases hb with
    | ofInstruction hmethod' hinsn' =>
      obtain ⟨howner, hname, hdescriptor, hindex, -⟩ := Entity.sameRef_ofInstruction_iff.1 hsame
      -- each of the two names its method and its position there
      obtain ⟨index, hget⟩ := List.mem_iff_getElem?.1 hinsn
      obtain ⟨index', hget'⟩ := List.mem_iff_getElem?.1 hinsn'
      obtain ⟨howner₁, hname₁, hdescriptor₁, rfl⟩ := (h.method hmethod).place index _ hget
      obtain ⟨howner₂, hname₂, hdescriptor₂, rfl⟩ := (h.method hmethod').place index' _ hget'
      -- so the methods are the same, and at one position they have the same instruction
      have hmethods := h.same_of_methods htells hmethod hmethod' (Entity.sameRef_ofMethod_iff.2
        ⟨howner₁ ▸ howner₂ ▸ howner, hname₁ ▸ hname₂ ▸ hname,
          hdescriptor₁ ▸ hdescriptor₂ ▸ hdescriptor⟩)
      rw [← hindex] at hget'
      exact hmethods.instruction hget hget'
    | _ => cases htarget

/-- References identify the entities of a consistent artifact (`RefsIdentify`) iff every one of its
classes `TellsApart` its members. -/
theorem Consistent.refsIdentify_iff (h : artifact.Consistent) :
    artifact.RefsIdentify ↔ ∀ decl ∈ artifact.classes, decl.TellsApart := by
  refine ⟨fun hrefs decl hdecl => ?_, h.refsIdentify⟩
  have howned := (h.classes decl hdecl).owned
  constructor
  · intro field hfield other hother hname hdescriptor
    have howner := howned.fields field hfield
    have howner' := howned.fields other hother
    exact hrefs _ _ (.ofField hdecl hfield howner) (.ofField hdecl hother howner')
      (Entity.sameRef_ofField_iff.2 ⟨howner.trans howner'.symm, hname, hdescriptor⟩)
  · intro method hmethod other hother hname hdescriptor
    have howner := howned.methods method hmethod
    have howner' := howned.methods other hother
    exact hrefs _ _ (.ofMethod hdecl hmethod howner) (.ofMethod hdecl hother howner')
      (Entity.sameRef_ofMethod_iff.2 ⟨howner.trans howner'.symm, hname, hdescriptor⟩)

end Artifact

end Reidentify

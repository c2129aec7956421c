import Reidentify.Proofs.Outcome.Correspondence
import Reidentify.Proofs.Query.Evaluation
import Reidentify.Proofs.Renaming.Artifact

/-!
# Predicates on renamed entities

The tests of the library compare types with types and numbers with numbers, and they know no
name. So a test that holds for an entity holds for the renamed entity, if the mappers that it
takes types from are bound to the renamed classes and the types that it gives literally are left
alone by the renaming.

## Main definitions

* `Renaming.Renames`: one entity is the renamed other one.
* `Renaming.Fixes`: a test is none of one's own, and its literal types are left alone.

## Main statements

* `Renaming.check_corresponds`: the tests of the library give the same answers on both sides.
* `Renaming.evaluate_simulates`: so do all predicates that are built from them.
-/

namespace Reidentify

namespace Renaming

variable (names : Renaming)

/-- The entity `entity'` is the `entity` that `names` renames, which refers to classes by texts. -/
structure Renames (entity entity' : Entity) : Prop where
  /-- The `entity` refers to classes by texts (`Entity.Textual`). -/
  textual : entity.Textual
  /-- The other one is the renamed entity, `names.entity entity`. -/
  eq : entity' = names.entity entity

/-- A type that is given literally is left alone by `rename`. -/
def FixesType : TypeRef → Prop
  | .literal descriptor => names.classes.rename descriptor = descriptor
  | .mapped .. => True

instance (ref : TypeRef) : Decidable (names.FixesType ref) :=
  match ref with
  | .literal descriptor => inferInstanceAs (Decidable (names.classes.rename descriptor = _))
  | .mapped .. => isTrue trivial

/-- A `test` is none of one's own, and the types that it gives literally are left alone. -/
structure Fixes (test : Predicate) : Prop where
  /-- The test is one of the library. -/
  isLibrary : test.isLibrary = true
  /-- The `types` that are given literally are left alone (`FixesType`). -/
  types : ∀ ref ∈ test.types, names.FixesType ref

instance (test : Predicate) : Decidable (names.Fixes test) :=
  decidable_of_iff (test.isLibrary = true ∧ ∀ ref ∈ test.types, names.FixesType ref)
    ⟨fun h => ⟨h.1, h.2⟩, fun h => ⟨h.1, h.2⟩⟩

variable {names} {F : Failure → Failure → Prop} {table table' : Table} {entity entity' : Entity}

section Parts

/-- By `needClass` an entity is a class iff the renamed one is, and then it is the renamed class. -/
theorem needClass_simulates (h : names.Renames entity entity') :
    Simulates .alike (fun decl decl' => decl.Textual ∧ decl' = names.decl decl)
      entity.needClass entity'.needClass := by
  obtain ⟨htextual, rfl⟩ := h
  cases entity with
  | ofClass decl => exact .ok ⟨htextual, rfl⟩
  | _ => exact .fault trivial

/-- By `needMethod` an entity is a method iff the renamed one is, and then it is the renamed method.
-/
theorem needMethod_simulates (h : names.Renames entity entity') :
    Simulates .alike (fun method method' => method.Textual ∧ method' = names.method method)
      entity.needMethod entity'.needMethod := by
  obtain ⟨htextual, rfl⟩ := h
  cases entity with
  | ofMethod method => exact .ok ⟨htextual, rfl⟩
  | _ => exact .fault trivial

/-- By `needInstruction` an entity is an instruction iff the renamed one is, and then it is the
renamed one. -/
theorem needInstruction_simulates (h : names.Renames entity entity') :
    Simulates .alike (fun insn insn' => insn.Textual ∧ insn' = names.instruction insn)
      entity.needInstruction entity'.needInstruction := by
  obtain ⟨htextual, rfl⟩ := h
  cases entity with
  | ofInstruction insn => exact .ok ⟨htextual, rfl⟩
  | _ => exact .fault trivial

/-- The type of a renamed entity, which `needType` asks for, is the renamed type. -/
theorem needType_simulates (h : names.Renames entity entity') :
    Simulates .alike (fun type type' => type' = names.classes.rename type)
      entity.needType entity'.needType := by
  obtain ⟨-, rfl⟩ := h
  cases entity with
  | ofClass decl => exact .ok (names.classes.rename_ofClass decl.name).symm
  | ofField field => exact .ok rfl
  | _ => exact .fault trivial

/-- The signature of a renamed `method`, which `needSignature` asks for, is the renamed signature.
-/
theorem needSignature_simulates (method : MethodDecl) :
    Simulates .alike (fun signature signature' =>
        signature' = names.classes.renameSignature signature)
      method.needSignature (names.method method).needSignature := by
  have hsignature : (names.method method).signature? =
      method.signature?.map names.classes.renameSignature :=
    names.classes.parse?_rename method.descriptor
  unfold MethodDecl.needSignature
  rw [hsignature]
  cases method.signature? with
  | none => exact .fault trivial
  | some signature => exact .ok rfl

/-- A type `ref` is read as the renamed one from a table of renamed entities, if the renaming
`FixesType`. -/
theorem resolve_simulates (h : table.Corresponds names.Renames F table') {ref : TypeRef}
    (hfix : names.FixesType ref) :
    Simulates .alike (fun type type' => type' = names.classes.rename type)
      (ref.resolve table) (ref.resolve table') := by
  cases ref with
  | literal descriptor => exact .ok (Eq.symm hfix)
  | mapped mapper dimensions =>
    rw [TypeRef.resolve_mapped, TypeRef.resolve_mapped]
    refine (h.resolve mapper).bind ?_
    rintro bound _ ⟨-, rfl⟩
    cases bound with
    | ofClass decl => exact .ok (names.classes.rename_arrayOf decl.name dimensions).symm
    | _ => exact .fault trivial

/-- Types `refs` are read as the renamed ones from a table of renamed entities. -/
theorem resolveAll_simulates (h : table.Corresponds names.Renames F table') {refs : List TypeRef}
    (hfix : ∀ ref ∈ refs, names.FixesType ref) :
    Simulates .alike (fun types types' => types' = types.map names.classes.rename)
      (TypeRef.resolveAll table refs) (TypeRef.resolveAll table' refs) := by
  -- by induction on the types, which are read one after the other
  induction refs with
  | nil => exact .ok rfl
  | cons ref rest ih =>
    obtain ⟨hfirst, hrest⟩ := List.forall_mem_cons.1 hfix
    rw [TypeRef.resolveAll_cons, TypeRef.resolveAll_cons]
    refine (resolve_simulates h hfirst).bind ?_
    rintro type _ rfl
    refine (ih hrest).map ?_
    rintro types _ rfl
    rfl

/-- The instructions of a renamed method are the renamed instructions, one by one
(`BodiesCorrespond`). -/
theorem bodiesCorrespond : Predicate.BodiesCorrespond .alike names.Renames := by
  intro entity entity' h
  refine (needMethod_simulates h).mono ?_
  rintro method _ ⟨htextual, rfl⟩
  refine List.forall₂_map_right_iff.2 (List.forall₂_same.2 ?_)
  exact fun insn hinsn => ⟨htextual insn hinsn, rfl⟩

end Parts

section Tests

/-- The instances of a renamed class have as many fields of the renamed `type` as before. -/
theorem countInstanceFields_decl (decl : ClassDecl) (type : String) :
    (names.decl decl).countInstanceFields (names.classes.rename type) =
      decl.countInstanceFields type := by
  unfold ClassDecl.countInstanceFields
  rw [instanceFields_decl, List.countP_map]
  congr 1
  funext field
  exact names.classes.rename_beq field.descriptor type

theorem type_decl (decl : ClassDecl) :
    (names.decl decl).type = names.classes.rename decl.type :=
  (names.classes.rename_ofClass decl.name).symm

theorem superType_decl {decl : ClassDecl} (h : decl.Textual) :
    (names.decl decl).superType = names.classes.rename decl.superType := by
  obtain ⟨text, htext⟩ := h.superName
  unfold ClassDecl.superType
  rw [Renaming.decl, htext]
  exact (names.classes.rename_ofClass text).symm

theorem interfaceTypes_decl (decl : ClassDecl) :
    (names.decl decl).interfaceTypes = decl.interfaceTypes.map names.classes.rename := by
  unfold ClassDecl.interfaceTypes
  rw [Renaming.decl, List.map_map, List.map_map]
  exact List.map_congr_left fun name _ => (names.classes.rename_ofClass name).symm

/-- Lists of renamed types are compared like the lists `types` and `types'` themselves. -/
theorem map_rename_beq (types types' : List String) :
    (types.map names.classes.rename == types'.map names.classes.rename) = (types == types') := by
  rw [Bool.eq_iff_iff, beq_iff_eq, beq_iff_eq]
  exact (List.map_injective_iff.2 names.classes.rename_injective).eq_iff

/-- Whether the field of the instruction `insn` has a `type` does not depend on the names, whatever
`condition` the instruction satisfies besides. -/
theorem fieldType_simulates (h : table.Corresponds names.Renames F table') {type : TypeRef}
    (hfix : names.FixesType type) (condition : Bool) (insn : Instruction) :
    Simulates .alike Eq
      (if condition then type.resolve table >>= fun wanted =>
        .ok (insn.field.descriptor.equals (.str wanted)) else .ok false)
      (if condition then type.resolve table' >>= fun wanted =>
        .ok ((names.instruction insn).field.descriptor.equals (.str wanted)) else .ok false) := by
  split
  · refine (resolve_simulates h hfix).map ?_
    rintro wanted _ rfl
    exact (Value.mapText_equals_str names.classes.rename_injective _ _).symm
  · exact .ok rfl

/-- The class `owner` that a field instruction looks in is written under its new name. -/
theorem plain_owner_instruction {insn : Instruction} {owner : String}
    (h : insn.field.owner = .str owner) :
    (names.instruction insn).field.owner.plain = names.classes.map owner := by
  rw [Renaming.instruction, fieldRef, h]
  rfl

/-- A `test` of the library gives the same answer on a renamed entity, if the renaming `Fixes` it.
-/
theorem check_corresponds (h : table.Corresponds names.Renames F table') {test : Predicate}
    (hfix : names.Fixes test) : test.Corresponds .alike names.Renames table table' := by
  intro entity entity' hentity
  -- every test asks its questions in the order of `check`, and compares what it is told
  cases test with
  | extendsType type =>
    refine (needClass_simulates hentity).bind ?_
    rintro decl _ ⟨htextual, rfl⟩
    refine (resolve_simulates h (hfix.types type (List.mem_singleton_self _))).map ?_
    rintro wanted _ rfl
    rw [superType_decl htextual, names.classes.rename_beq]
  | implementsType type =>
    refine (resolve_simulates h (hfix.types type (List.mem_singleton_self _))).bind ?_
    rintro wanted _ rfl
    refine (needClass_simulates hentity).map ?_
    rintro decl _ ⟨-, rfl⟩
    rw [interfaceTypes_decl, Bool.eq_iff_iff, List.contains_iff_mem, List.contains_iff_mem]
    exact (List.mem_map_of_injective names.classes.rename_injective).symm
  | instanceFieldCount type count =>
    refine (resolve_simulates h (hfix.types type (List.mem_singleton_self _))).bind ?_
    rintro wanted _ rfl
    refine (needClass_simulates hentity).map ?_
    rintro decl _ ⟨-, rfl⟩
    rw [countInstanceFields_decl]
  | hasInstanceField type =>
    refine (resolve_simulates h (hfix.types type (List.mem_singleton_self _))).bind ?_
    rintro wanted _ rfl
    refine (needClass_simulates hentity).map ?_
    rintro decl _ ⟨-, rfl⟩
    rw [instanceFields_decl, List.any_map]
    congr 1
    funext field
    exact (names.classes.rename_beq field.descriptor wanted).symm
  | selfLinks count =>
    refine (needClass_simulates hentity).map ?_
    rintro decl _ ⟨-, rfl⟩
    rw [type_decl, countInstanceFields_decl]
  | ofType type =>
    refine (needType_simulates hentity).bind ?_
    rintro found _ rfl
    refine (resolve_simulates h (hfix.types type (List.mem_singleton_self _))).map ?_
    rintro wanted _ rfl
    rw [names.classes.rename_beq]
  | returns type =>
    refine (needMethod_simulates hentity).bind ?_
    rintro method _ ⟨-, rfl⟩
    refine (needSignature_simulates method).bind ?_
    rintro signature _ rfl
    refine (resolve_simulates h (hfix.types type (List.mem_singleton_self _))).map ?_
    rintro wanted _ rfl
    exact (names.classes.rename_beq signature.result wanted).symm
  | argumentsStartWith types =>
    refine (resolveAll_simulates h hfix.types).bind ?_
    rintro wanted _ rfl
    refine (needMethod_simulates hentity).bind ?_
    rintro method _ ⟨-, rfl⟩
    refine (needSignature_simulates method).map ?_
    rintro signature _ rfl
    rw [ClassRenaming.renameSignature, List.length_map, ← List.map_take, map_rename_beq]
  | argumentCount count =>
    refine (needMethod_simulates hentity).bind ?_
    rintro method _ ⟨-, rfl⟩
    refine (needSignature_simulates method).map ?_
    rintro signature _ rfl
    rw [ClassRenaming.renameSignature, List.length_map]
  | opcodeIs opcode =>
    refine (needInstruction_simulates hentity).map ?_
    rintro insn _ ⟨-, rfl⟩
    rfl
  | pushesInt value =>
    refine (needInstruction_simulates hentity).map ?_
    rintro insn _ ⟨-, rfl⟩
    rfl
  | fieldAccess type =>
    cases type with
    | none =>
      refine (needInstruction_simulates hentity).map ?_
      rintro insn _ ⟨-, rfl⟩
      rfl
    | some type =>
      refine (needInstruction_simulates hentity).bind ?_
      rintro insn _ ⟨-, rfl⟩
      exact fieldType_simulates h (hfix.types type (List.mem_singleton_self _)) insn.isField insn
  | fieldWrite type =>
    cases type with
    | none =>
      refine (needInstruction_simulates hentity).map ?_
      rintro insn _ ⟨-, rfl⟩
      rfl
    | some type =>
      refine (needInstruction_simulates hentity).bind ?_
      rintro insn _ ⟨-, rfl⟩
      exact fieldType_simulates h (hfix.types type (List.mem_singleton_self _)) insn.isFieldWrite
        insn
  | fieldOwnerIs type =>
    refine (needInstruction_simulates hentity).bind ?_
    rintro insn _ ⟨htextual, rfl⟩
    have hopcode : (names.instruction insn).isField = insn.isField := rfl
    rw [hopcode]
    split
    · next hfield =>
      refine (resolve_simulates h (hfix.types type (List.mem_singleton_self _))).map ?_
      rintro wanted _ rfl
      -- only here the owner has to be a text: what else it shows as would not be renamed
      obtain ⟨owner, howner⟩ := htextual hfield
      rw [plain_owner_instruction howner, howner, ← names.classes.rename_ofClass]
      exact (names.classes.rename_beq _ _).symm
    · exact .ok rfl
  | test => cases hfix.isLibrary
  | containsInstruction | lacksInstruction | conjunction => exact .ok rfl

end Tests

/-- A `predicate` that is built from tests of the library gives the same answer on a renamed entity,
if the renaming `Fixes` every test. -/
theorem evaluate_simulates (h : table.Corresponds names.Renames F table') {predicate : Predicate}
    (hfix : ∀ test ∈ predicate.tests, names.Fixes test) (hentity : names.Renames entity entity') :
    Simulates .alike Eq (predicate.evaluate table entity).result
      (predicate.evaluate table' entity').result :=
  predicate.evaluate_simulates bodiesCorrespond
    (fun test hmem => check_corresponds h (hfix test hmem)) entity entity' hentity

end Renaming

end Reidentify

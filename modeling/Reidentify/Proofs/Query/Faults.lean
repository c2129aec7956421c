import Reidentify.Proofs.Query.Evaluation

/-!
# Faults of predicates

A test of the library can give up for few reasons only: the entity is of the wrong kind, the
descriptor of a method is malformed, or a type cannot be read from the table. A predicate gives up
where one of its tests does, or where it is asked about the instructions of something that is no
method.

## Main definitions

* `FaultsAmong`: a computation ends with no other faults.
* `Predicate.LibraryFault`: the faults of the tests of the library.

## Main statements

* `Predicate.faultsAmong_check`: a test of the library has no other faults.
* `Predicate.exists_test_of_evaluate`: the fault of a predicate is the one of a test.
-/

namespace Reidentify

/-- A computation ends with no other faults than those that `P` holds of. -/
def FaultsAmong {α : Type} (P : Fault → Prop) (result : Except Fault α) : Prop :=
  ∀ fault, result = .error fault → P fault

namespace FaultsAmong

variable {α β : Type} {P : Fault → Prop}

/-- A value `a` is no fault, so nothing is to be shown about it. -/
theorem ok (a : α) : FaultsAmong P (.ok a : Except Fault α) :=
  fun _ h => nomatch h

/-- A `fault` that `P` holds of is allowed. -/
theorem error {fault : Fault} (h : P fault) : FaultsAmong P (.error fault : Except Fault α) := by
  intro other hother
  cases hother
  exact h

/-- A sequence has only faults that `P` holds of if both of its steps have. -/
theorem bind {x : Except Fault α} {f : α → Except Fault β} (hx : FaultsAmong P x)
    (hf : ∀ a, FaultsAmong P (f a)) : FaultsAmong P (x >>= f) := by
  intro fault h
  rcases Except.bind_eq_error_iff.1 h with hfirst | ⟨a, -, hnext⟩
  · exact hx fault hfirst
  · exact hf a fault hnext

end FaultsAmong

/-- The fault of looking up a `name` that is not bound says in which state the name is instead. -/
theorem Table.exists_state_of_resolve {table : Table} {name : String} {fault : Fault}
    (h : table.resolve name = .error fault) : ∃ state, fault = .unresolved name state := by
  unfold resolve at h
  split at h
  · cases h
    exact ⟨_, rfl⟩
  · split at h
    · cases h
    · cases h
      exact ⟨_, rfl⟩
    · cases h
      exact ⟨_, rfl⟩

namespace Predicate

variable {table : Table} {entity : Entity} {fault : Fault}

/-- The faults that a test of the library can have on `table`. -/
inductive LibraryFault (table : Table) : Fault → Prop
  /-- The entity is of the wrong kind. -/
  | noAttribute : LibraryFault table .noAttribute
  /-- The descriptor of a method is malformed. -/
  | methodDescriptor (text : String) : LibraryFault table (.value (.methodDescriptor text))
  /-- The mapper that a type is taken from is not bound. -/
  | unresolved {name : String} {state : UnresolvedState}
      (h : table.resolve name = .error (.unresolved name state)) :
      LibraryFault table (.unresolved name state)
  /-- The mapper that a type is taken from is bound to something else than a class. -/
  | typeOwner (name : String) (bound : Entity) :
      LibraryFault table (.configuration (.typeOwner name bound))

section Parts

/-- Asking an `entity` that is no class for a class is a `LibraryFault`. -/
theorem faultsAmong_needClass (entity : Entity) :
    FaultsAmong (LibraryFault table) entity.needClass := by
  cases entity with
  | ofClass decl => exact .ok decl
  | _ => exact .error .noAttribute

/-- Asking an `entity` that is no method for a method is a `LibraryFault`. -/
theorem faultsAmong_needMethod (entity : Entity) :
    FaultsAmong (LibraryFault table) entity.needMethod := by
  cases entity with
  | ofMethod method => exact .ok method
  | _ => exact .error .noAttribute

/-- Asking an `entity` that is no instruction for an instruction is a `LibraryFault`. -/
theorem faultsAmong_needInstruction (entity : Entity) :
    FaultsAmong (LibraryFault table) entity.needInstruction := by
  cases entity with
  | ofInstruction insn => exact .ok insn
  | _ => exact .error .noAttribute

/-- Asking an `entity` that has no type for its type is a `LibraryFault`. -/
theorem faultsAmong_needType (entity : Entity) :
    FaultsAmong (LibraryFault table) entity.needType := by
  cases entity with
  | ofClass decl => exact .ok decl.type
  | ofField field => exact .ok field.descriptor
  | _ => exact .error .noAttribute

/-- The malformed descriptor of a `method` is a `LibraryFault`. -/
theorem faultsAmong_needSignature (method : MethodDecl) :
    FaultsAmong (LibraryFault table) method.needSignature := by
  unfold MethodDecl.needSignature
  split
  · exact .ok _
  · exact .error (.methodDescriptor _)

/-- A type `ref` cannot be read if its mapper is not bound to a class, which is a `LibraryFault`. -/
theorem faultsAmong_resolve (ref : TypeRef) :
    FaultsAmong (LibraryFault table) (ref.resolve table) := by
  cases ref with
  | literal descriptor => exact .ok descriptor
  | mapped mapper dimensions =>
    rw [TypeRef.resolve_mapped]
    refine FaultsAmong.bind ?_ fun bound => ?_
    · intro fault h
      obtain ⟨state, rfl⟩ := Table.exists_state_of_resolve h
      exact .unresolved h
    · cases bound with
      | ofClass decl => exact .ok _
      | _ => exact .error (.typeOwner mapper _)

/-- The types `refs` cannot be read if one of them cannot, which is a `LibraryFault`. -/
theorem faultsAmong_resolveAll (refs : List TypeRef) :
    FaultsAmong (LibraryFault table) (TypeRef.resolveAll table refs) := by
  induction refs with
  | nil => exact .ok []
  | cons ref rest ih =>
    rw [TypeRef.resolveAll_cons]
    exact (faultsAmong_resolve ref).bind fun _ => ih.bind fun _ => .ok _

end Parts

/-- A test of the library has no other faults than those of `LibraryFault`. -/
theorem faultsAmong_check {test : Predicate} (h : test.isLibrary = true) :
    FaultsAmong (LibraryFault table) (test.check entity table) := by
  -- what is read and what is asked of the entity take turns as in `check`
  cases test with
  | extendsType type =>
    exact (faultsAmong_needClass entity).bind fun _ =>
      (faultsAmong_resolve type).bind fun _ => .ok _
  | implementsType type | instanceFieldCount type _ | hasInstanceField type =>
    exact (faultsAmong_resolve type).bind fun _ =>
      (faultsAmong_needClass entity).bind fun _ => .ok _
  | selfLinks _ => exact (faultsAmong_needClass entity).bind fun _ => .ok _
  | ofType type =>
    exact (faultsAmong_needType entity).bind fun _ => (faultsAmong_resolve type).bind fun _ => .ok _
  | returns type =>
    exact (faultsAmong_needMethod entity).bind fun method =>
      (faultsAmong_needSignature method).bind fun _ =>
        (faultsAmong_resolve type).bind fun _ => .ok _
  | argumentsStartWith types =>
    exact (faultsAmong_resolveAll types).bind fun _ => (faultsAmong_needMethod entity).bind
      fun method => (faultsAmong_needSignature method).bind fun _ => .ok _
  | argumentCount _ =>
    exact (faultsAmong_needMethod entity).bind fun method =>
      (faultsAmong_needSignature method).bind fun _ => .ok _
  | opcodeIs _ | pushesInt _ => exact (faultsAmong_needInstruction entity).bind fun _ => .ok _
  | fieldAccess type | fieldWrite type =>
    cases type with
    | none => exact (faultsAmong_needInstruction entity).bind fun _ => .ok _
    | some type =>
      refine (faultsAmong_needInstruction entity).bind fun insn => ?_
      split
      · exact (faultsAmong_resolve type).bind fun _ => .ok _
      · exact .ok false
  | fieldOwnerIs type =>
    refine (faultsAmong_needInstruction entity).bind fun insn => ?_
    split
    · exact (faultsAmong_resolve type).bind fun _ => .ok _
    · exact .ok false
  | containsInstruction _ | lacksInstruction _ | conjunction _ _ => exact .ok true
  | test => cases h

section Evaluation

/-- A `fault` is that of one of `tests` on some entity, or says that an entity is of the wrong kind.
-/
def FaultOfTest (table : Table) (tests : List Predicate) (fault : Fault) : Prop :=
  fault = .noAttribute ∨ ∃ test ∈ tests, ∃ entity, test.check entity table = .error fault

/-- The fault of one of `tests` is that of one of `more`, if that list has all of them. -/
theorem FaultOfTest.mono {tests more : List Predicate} (h : FaultOfTest table tests fault)
    (hsub : tests ⊆ more) : FaultOfTest table more fault := by
  rcases h with rfl | ⟨test, hmem, entity, hcheck⟩
  · exact .inl rfl
  · exact .inr ⟨test, hsub hmem, entity, hcheck⟩

/-- A fault that is no `LibraryFault` is that of a test of one's own among `tests`. -/
theorem FaultOfTest.exists_own {tests : List Predicate} (h : FaultOfTest table tests fault)
    (hown : ¬LibraryFault table fault) :
    ∃ test ∈ tests, test.isLibrary = false ∧
      ∃ entity, test.check entity table = .error fault := by
  rcases h with rfl | ⟨test, htest, entity, hcheck⟩
  · exact absurd .noAttribute hown
  · refine ⟨test, htest, ?_, entity, hcheck⟩
    -- a test of the library has only faults of the library
    by_contra hlibrary
    rw [Bool.not_eq_false] at hlibrary
    exact hown (faultsAmong_check hlibrary fault hcheck)

/-- Looking for an instruction of a method gives up at something that is no method, or where the
predicate `part` on the instructions does. -/
theorem faultOfTest_of_instructions {tests : List Predicate} {part : Entity → Trail Event Bool}
    (hpart : ∀ insn fault, (part (.ofInstruction insn)).result = .error fault →
      FaultOfTest table tests fault)
    (h : (entity.needMethod >>= fun method => (Trail.exists? method.instructions fun insn =>
      part (.ofInstruction insn)).result) = .error fault) : FaultOfTest table tests fault := by
  rcases Except.bind_eq_error_iff.1 h with hmethod | ⟨method, -, hbody⟩
  -- only something that is no method refuses to give its instructions
  · cases entity with
    | ofMethod => cases hmethod
    | _ =>
      cases hmethod
      exact .inl rfl
  · obtain ⟨insn, -, hinsn⟩ := Trail.exists_item_of_exists? hbody
    exact hpart insn fault hinsn

mutual

/-- The fault of evaluating `predicate` is that of one of its `tests`. -/
theorem exists_test_of_evaluate (predicate : Predicate) (entity : Entity) (fault : Fault)
    (h : (predicate.evaluate table entity).result = .error fault) :
    FaultOfTest table predicate.tests fault := by
  match predicate with
  | .containsInstruction part =>
    simp only [evaluate, Trail.result_andThen, Trail.result_emit, Trail.result_lift,
      Except.ok_bind] at h
    exact faultOfTest_of_instructions (fun insn => exists_test_of_evaluate part _) h
  | .lacksInstruction part =>
    simp only [evaluate, Trail.result_andThen, Trail.result_emit, Trail.result_lift,
      Trail.result_done, Except.ok_bind, ← Except.bind_assoc] at h
    -- turning the answer round cannot fail, so the fault is that of the search
    rcases Except.bind_eq_error_iff.1 h with hbody | ⟨found, -, hnone⟩
    · exact faultOfTest_of_instructions (fun insn => exists_test_of_evaluate part _) hbody
    · cases hnone
  | .conjunction first rest =>
    simp only [evaluate, Trail.result_andThen] at h
    rcases Except.bind_eq_error_iff.1 h with hfirst | ⟨holds, -, hrest⟩
    · exact (exists_test_of_evaluate first entity fault hfirst).mono
        (List.subset_append_left _ _)
    · cases holds with
      | false => cases hrest
      | true =>
        exact (exists_test_of_evaluateAll rest entity fault hrest).mono
          (List.subset_append_right _ _)
  | .extendsType _ | .implementsType _ | .instanceFieldCount .. | .hasInstanceField _
  | .selfLinks _ | .ofType _ | .returns _ | .argumentsStartWith _ | .argumentCount _
  | .opcodeIs _ | .pushesInt _ | .fieldAccess _ | .fieldWrite _ | .fieldOwnerIs _ | .test .. =>
    rw [result_evaluate_of_isTest rfl] at h
    exact .inr ⟨_, List.mem_singleton_self _, entity, h⟩

/-- The fault of evaluating several `predicates` is that of one of their tests. -/
theorem exists_test_of_evaluateAll (predicates : List Predicate) (entity : Entity) (fault : Fault)
    (h : (evaluateAll table predicates entity).result = .error fault) :
    FaultOfTest table (testsOfAll predicates) fault := by
  match predicates with
  | [] => cases h
  | predicate :: rest =>
    simp only [evaluateAll, Trail.result_andThen] at h
    rcases Except.bind_eq_error_iff.1 h with hfirst | ⟨holds, -, hrest⟩
    · exact (exists_test_of_evaluate predicate entity fault hfirst).mono
        (List.subset_append_left _ _)
    · cases holds with
      | false => cases hrest
      | true =>
        exact (exists_test_of_evaluateAll rest entity fault hrest).mono
          (List.subset_append_right _ _)

end

end Evaluation

end Predicate

end Reidentify

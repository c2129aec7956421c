import Reidentify.Proofs.Artifact.Occurrence
import Reidentify.Proofs.Outcome.Extension
import Reidentify.Proofs.Pass.Matching
import Reidentify.Proofs.Query.Faults

/-!
# What a mapper binds

The candidates of a scope are all of one kind, and they occur in the artifact if the owner of the
scope does. A mapper binds the selected candidate itself, or the member that it refers to, and its
scope allows no other target. So a mapper binds an entity of its target, and this entity occurs in
the artifact. The owner of the scope has to be bound to an entity of the right kind; then a mapper
can only give up where its predicate does, at the name of a class that cannot be looked up, or at a
failure that names a number without a text.

## Main definitions

* `Scope.candidateTarget`: the target that the candidates of a scope are of.
* `Scope.OwnerBound`: the owner of a scope is bound to what the scope looks into.
* `Mapper.Binds`: what a selected candidate is bound as.

## Main statements

* `Mapper.bind_eq_ok_iff`: a candidate of the scope is bound as the relation says.
* `Mapper.target_of_resolve`: a mapper binds an entity of its target.
* `Mapper.holds_of_resolve`: the entity occurs in the artifact if the owner of the scope does.
* `Scope.OwnerBound.exists_candidates`: a scope has candidates if its owner is bound.
* `Mapper.fault_of_resolve`: where a mapper gives up.
-/

namespace Reidentify

variable {artifact : Artifact} {table : Table}

namespace Scope

variable {scope : Scope}

/-- The `Target` that the candidates of a scope are of, whatever the table is. -/
def candidateTarget : Scope → Target
  | .allClasses => .toClass
  | .inClass part _ => part.memberTarget
  | .inMethod _ => .toInstruction

/-- A scope allows its candidates as targets. If they are instructions (`toInstruction`), it also
allows the members that they refer to, but no classes. -/
theorem target_of_allows {target : Target} (h : scope.allows target = true) :
    target = scope.candidateTarget ∨
      (scope.candidateTarget = .toInstruction ∧ target ≠ .toClass) := by
  cases scope with
  | allClasses => exact .inl (beq_iff_eq.1 h)
  | inMethod owner => exact .inr ⟨rfl, bne_iff_ne.1 h⟩
  | inClass part owner =>
    cases part with
    | constructorInstructions => exact .inr ⟨rfl, bne_iff_ne.1 h⟩
    | _ => exact .inl (beq_iff_eq.1 h)

/-- Every one of the `candidates` of a scope is of its `candidateTarget`. -/
theorem target_of_candidates {candidates : List Entity}
    (h : scope.candidates artifact table = .ok candidates) {entity : Entity}
    (hmem : entity ∈ candidates) : entity.target = scope.candidateTarget := by
  cases scope with
  | allClasses =>
    cases h
    obtain ⟨decl, -, rfl⟩ := List.mem_map.1 hmem
    rfl
  | inClass part owner =>
    rw [candidates_inClass] at h
    obtain ⟨bound, -, h⟩ := Except.bind_eq_ok_iff.1 h
    cases bound with
    | ofClass decl =>
      cases h
      exact ClassPart.target_of_mem_members hmem
    | _ => cases h
  | inMethod owner =>
    rw [candidates_inMethod] at h
    obtain ⟨bound, -, h⟩ := Except.bind_eq_ok_iff.1 h
    cases bound with
    | ofMethod method =>
      cases h
      obtain ⟨insn, -, rfl⟩ := List.mem_map.1 hmem
      rfl
    | _ => cases h

/-- If the owner of a scope occurs in the artifact, i.e. it `Holds` the entity, so do the
`candidates` of the scope. -/
theorem holds_of_candidates (howned : artifact.Owned)
    (howner : ∀ owner entity, scope.owner? = some owner → table.resolve owner = .ok entity →
      artifact.Holds entity)
    {candidates : List Entity} (h : scope.candidates artifact table = .ok candidates)
    {entity : Entity} (hmem : entity ∈ candidates) : artifact.Holds entity := by
  cases scope with
  | allClasses =>
    cases h
    obtain ⟨decl, hdecl, rfl⟩ := List.mem_map.1 hmem
    exact .ofClass hdecl
  | inClass part owner =>
    rw [candidates_inClass] at h
    obtain ⟨bound, hbound, h⟩ := Except.bind_eq_ok_iff.1 h
    have hholds := howner owner bound rfl hbound
    -- only a class has members, and this one is a class of the artifact
    cases bound with
    | ofClass decl =>
      cases h
      cases hholds with
      | ofClass hdecl => exact Artifact.holds_of_mem_members howned hdecl part hmem
    | _ => cases h
  | inMethod owner =>
    rw [candidates_inMethod] at h
    obtain ⟨bound, hbound, h⟩ := Except.bind_eq_ok_iff.1 h
    have hholds := howner owner bound rfl hbound
    cases bound with
    | ofMethod method =>
      cases h
      obtain ⟨insn, hinsn, rfl⟩ := List.mem_map.1 hmem
      exact .ofInstruction hholds hinsn
    | _ => cases h

/-- The owner of a `scope`, if it has one, is bound in the `table` to what the scope looks into. -/
def OwnerBound (table : Table) (scope : Scope) : Prop :=
  ∀ owner, scope.owner? = some owner →
    ∃ entity, table.resolve owner = .ok entity ∧ scope.ownerTarget? = some entity.target

/-- A scope has `candidates` over every artifact if its owner is bound (`OwnerBound`). -/
theorem OwnerBound.exists_candidates (h : scope.OwnerBound table) (artifact : Artifact) :
    ∃ candidates, scope.candidates artifact table = .ok candidates := by
  cases scope with
  | allClasses => exact ⟨_, rfl⟩
  | inClass part owner =>
    obtain ⟨bound, hbound, htarget⟩ := h owner rfl
    cases bound with
    | ofClass decl =>
      refine ⟨part.members decl, ?_⟩
      rw [candidates_inClass, hbound]
      rfl
    | _ => cases htarget
  | inMethod owner =>
    obtain ⟨bound, hbound, htarget⟩ := h owner rfl
    cases bound with
    | ofMethod method =>
      refine ⟨method.instructions.map .ofInstruction, ?_⟩
      rw [candidates_inMethod, hbound]
      rfl
    | _ => cases htarget

end Scope

namespace Mapper

/-- What a mapper binds when a candidate is selected, as a `Result`. An instruction is bound as the
member that it refers to, which may not be there, and everything else as itself. -/
inductive Binds (mapper : Mapper) (artifact : Artifact) : Entity → Result → Prop
  /-- The `selected` candidate is bound as itself: it is no instruction, or an instruction is
  wanted. -/
  | itself {selected} (h : selected.target ≠ .toInstruction ∨ mapper.target = .toInstruction) :
      Binds mapper artifact selected (.resolved selected)
  /-- An instruction is bound as the `field` that it refers to. -/
  | field {insn field} (htarget : mapper.target = .toField)
      (h : artifact.fieldOf insn = .ok (some field)) :
      Binds mapper artifact (.ofInstruction insn) (.resolved (.ofField field))
  /-- There is no field that the instruction refers to, which is an `unbound` failure. -/
  | noField {insn} (htarget : mapper.target = .toField) (h : artifact.fieldOf insn = .ok none) :
      Binds mapper artifact (.ofInstruction insn) (.failed (.unbound insn.describe "field"))
  /-- An instruction is bound as the `method` that it calls. -/
  | method {insn method} (htarget : mapper.target = .toMethod)
      (h : artifact.methodOf insn = .ok (some method)) :
      Binds mapper artifact (.ofInstruction insn) (.resolved (.ofMethod method))
  /-- There is no method that the instruction calls, which is an `unbound` failure. -/
  | noMethod {insn} (htarget : mapper.target = .toMethod) (h : artifact.methodOf insn = .ok none) :
      Binds mapper artifact (.ofInstruction insn) (.failed (.unbound insn.describe "method"))

variable {mapper : Mapper} {kept : List Entity} {selected entity : Entity} {fault : Fault}
  {result : Result} {failure : Failure}

/-- The candidate that `selectBy` has chosen is one of those that satisfy the predicate. -/
theorem mem_of_selectBy {kind : StrategyKind}
    (h : mapper.selectBy kind kept = .ok (.chosen selected)) : selected ∈ kept := by
  unfold selectBy at h
  split at h
  · rw [selectOnly_eq_chosen_iff.1 (Except.ok.inj h)]
    exact List.mem_singleton_self selected
  · exact List.mem_of_getElem? (selectAt_eq_chosen_iff.1 h).2.2
  · cases h

/-- A `selected` candidate that is no instruction is bound as itself. -/
theorem bind_of_target_ne (mapper : Mapper) (artifact : Artifact)
    (h : selected.target ≠ .toInstruction) :
    mapper.bind artifact selected = .ok (.resolved selected) := by
  cases selected with
  | ofInstruction insn => exact absurd rfl h
  | _ => rfl

/-- For an instruction, `bind` has a `result` iff `Binds` relates the two, if the target of the
mapper is not a class. -/
theorem bind_instruction_eq_ok_iff {insn : Instruction} (hclass : mapper.target ≠ .toClass) :
    mapper.bind artifact (.ofInstruction insn) = .ok result ↔
      mapper.Binds artifact (.ofInstruction insn) result := by
  constructor
  · intro h
    unfold bind at h
    -- the target decides what is searched for, and the search may find nothing
    cases htarget : mapper.target with
    | toClass => exact absurd htarget hclass
    | toInstruction =>
      simp only [htarget] at h
      cases h
      exact .itself (.inr htarget)
    | toField =>
      simp only [htarget] at h
      split at h
      · cases h
      · next hfield =>
        cases h
        exact .field htarget hfield
      · next hfield =>
        cases h
        exact .noField htarget hfield
    | toMethod =>
      simp only [htarget] at h
      split at h
      · cases h
      · next hmethod =>
        cases h
        exact .method htarget hmethod
      · next hmethod =>
        cases h
        exact .noMethod htarget hmethod
  · intro h
    unfold bind
    cases h with
    | itself h =>
      -- an instruction is bound as itself only if this is the target
      rcases h with h | h
      · exact absurd rfl h
      · simp only [h]
    | field htarget h | noField htarget h | method htarget h | noMethod htarget h =>
      simp only [htarget, h, Target.name, Entity.describe]

/-- For a candidate of the scope, `bind` has a `result` iff `Binds` relates the two. -/
theorem bind_eq_ok_iff (htarget : selected.target = mapper.scope.candidateTarget) :
    mapper.bind artifact selected = .ok result ↔ mapper.Binds artifact selected result := by
  cases selected with
  | ofInstruction insn =>
    refine bind_instruction_eq_ok_iff fun hclass => ?_
    -- instructions are no classes, and the scope allows no class either
    rcases Scope.target_of_allows mapper.allows_target with h | ⟨-, h⟩
    · rw [hclass, ← htarget] at h
      cases h
    · exact h hclass
  | ofClass | ofField | ofMethod =>
    rw [bind_of_target_ne mapper artifact (by simp [Entity.target])]
    constructor
    · rintro ⟨⟩
      exact .itself (.inl (by simp [Entity.target]))
    · rintro ⟨⟩
      rfl

/-- A candidate of the scope is bound as itself, or as the member that it refers to if it is an
instruction, and what it is bound as is of the `target` of the mapper. -/
theorem cases_of_bind (htarget : selected.target = mapper.scope.candidateTarget)
    (h : mapper.bind artifact selected = .ok (.resolved entity)) :
    entity.target = mapper.target ∧
      (entity = selected ∨ ∃ insn, selected = .ofInstruction insn ∧
        ((∃ field, artifact.fieldOf insn = .ok (some field) ∧ entity = .ofField field) ∨
          ∃ method, artifact.methodOf insn = .ok (some method) ∧ entity = .ofMethod method)) := by
  cases (bind_eq_ok_iff htarget).1 h with
  | itself hself =>
    refine ⟨?_, .inl rfl⟩
    -- the candidates are of the target, unless they are instructions
    rcases Scope.target_of_allows mapper.allows_target with hsame | ⟨hinstruction, -⟩
    · exact htarget.trans hsame.symm
    · rw [hinstruction] at htarget
      exact htarget.trans (hself.resolve_left (not_not_intro htarget)).symm
  | field hmapper hfield => exact ⟨hmapper.symm, .inr ⟨_, rfl, .inl ⟨_, hfield, rfl⟩⟩⟩
  | method hmapper hmethod => exact ⟨hmapper.symm, .inr ⟨_, rfl, .inr ⟨_, hmethod, rfl⟩⟩⟩

/-- If a candidate of the scope occurs in the artifact, so does what `bind` makes of it. -/
theorem holds_of_bind (howned : artifact.Owned)
    (htarget : selected.target = mapper.scope.candidateTarget) (hholds : artifact.Holds selected)
    (h : mapper.bind artifact selected = .ok (.resolved entity)) : artifact.Holds entity := by
  obtain ⟨-, rfl | ⟨insn, -, ⟨field, hfield, rfl⟩ | ⟨method, hmethod, rfl⟩⟩⟩ :=
    cases_of_bind htarget h
  · exact hholds
  · exact Artifact.holds_of_fieldOf howned hfield
  · exact Artifact.holds_of_methodOf howned hmethod

/-- The only fault of `bind` is `wrongType`, for a name that cannot be looked up. -/
theorem eq_wrongType_of_bind (h : mapper.bind artifact selected = .error fault) :
    fault = .wrongType := by
  unfold bind at h
  split at h
  · split at h
    · next hmember =>
      cases h
      exact Artifact.eq_wrongType_of_fieldOf hmember
    · cases h
    · cases h
  · cases h
  · split at h
    · next hmember =>
      cases h
      exact Artifact.eq_wrongType_of_methodOf hmember
    · cases h
    · cases h
  · cases h

/-- What a mapper binds comes of a candidate of its scope, by `bind`. -/
theorem exists_candidate_of_resolve {outcome : Outcome}
    (h : (mapper.resolve artifact table).result = .ok outcome)
    (hentity : outcome.entity? = some entity) :
    ∃ candidates, mapper.scope.candidates artifact table = .ok candidates ∧
      ∃ selected ∈ candidates, mapper.bind artifact selected = .ok (.resolved entity) := by
  obtain ⟨candidates, kept, selection, hcandidates, hkept, hselection, hconcludes⟩ :=
    exists_of_resolve h
  cases hconcludes with
  | refused failure => cases hentity
  | chosen hbind =>
    obtain rfl := Outcome.entity?_eq_some_iff.1 hentity
    -- the selected one is a candidate of the scope
    have hmem := (Trail.sublist_of_keep hkept).subset (mem_of_selectBy hselection)
    exact ⟨candidates, hcandidates, _, hmem, hbind⟩

/-- If `resolve` binds an `entity`, this is of the `target` of the mapper. -/
theorem target_of_resolve {outcome : Outcome}
    (h : (mapper.resolve artifact table).result = .ok outcome)
    (hentity : outcome.entity? = some entity) : entity.target = mapper.target := by
  obtain ⟨candidates, hcandidates, selected, hmem, hbind⟩ := exists_candidate_of_resolve h hentity
  exact (cases_of_bind (Scope.target_of_candidates hcandidates hmem) hbind).1

/-- If `resolve` binds an `entity`, this occurs in the artifact, as long as the owner of the scope
does. -/
theorem holds_of_resolve (howned : artifact.Owned)
    (howner : ∀ owner entity, mapper.scope.owner? = some owner → table.resolve owner = .ok entity →
      artifact.Holds entity)
    {outcome : Outcome} (h : (mapper.resolve artifact table).result = .ok outcome)
    (hentity : outcome.entity? = some entity) : artifact.Holds entity := by
  obtain ⟨candidates, hcandidates, selected, hmem, hbind⟩ := exists_candidate_of_resolve h hentity
  exact holds_of_bind howned (Scope.target_of_candidates hcandidates hmem)
    (Scope.holds_of_candidates howned howner hcandidates hmem) hbind

/-- A mapper gives up where it has no `candidates`, at a name that cannot be looked up, where it is
mute (`Mapper.IsMute`), or where its predicate does. -/
theorem fault_cases_of_resolve (h : (mapper.resolve artifact table).result = .error fault) :
    mapper.scope.candidates artifact table = .error fault ∨ fault = .wrongType ∨
      fault = .value .unwritable ∨ Predicate.FaultOfTest table mapper.predicate.tests fault := by
  unfold resolve resolveBy at h
  simp only [Trail.result_andThen, Trail.result_lift] at h
  -- the fault is that of one of the four steps, in their order
  rcases Except.bind_eq_error_iff.1 h with hcandidates | ⟨candidates, -, h⟩
  · exact .inl hcandidates
  right
  rcases Except.bind_eq_error_iff.1 h with hmatching | ⟨kept, -, h⟩
  · right
    right
    obtain ⟨candidate, -, hcandidate⟩ := Trail.exists_item_of_keep hmatching
    simp only [Trail.result_andThen, Trail.result_emit, Except.ok_bind] at hcandidate
    exact Predicate.exists_test_of_evaluate _ candidate fault hcandidate
  rcases Except.bind_eq_error_iff.1 h with hselection | ⟨selection, -, h⟩
  · exact .inr (.inl (selectBy_eq_error_iff.1 hselection).1)
  · left
    -- of a selection there is nothing left to do but to bind it
    cases selection with
    | refused failure => cases h
    | chosen selected =>
      simp only [Trail.result_andThen, Trail.result_lift] at h
      rcases Except.bind_eq_error_iff.1 h with hbind | ⟨result, -, hnone⟩
      · exact eq_wrongType_of_bind hbind
      · cases hnone

/-- If the owner of its scope is bound (`OwnerBound`), a mapper can only give up at a name that
cannot be looked up, where it is mute, or where its predicate does. -/
theorem fault_of_resolve (howner : mapper.scope.OwnerBound table)
    (h : (mapper.resolve artifact table).result = .error fault) :
    fault = .wrongType ∨ fault = .value .unwritable ∨
      Predicate.FaultOfTest table mapper.predicate.tests fault := by
  refine (fault_cases_of_resolve h).resolve_left fun hnone => ?_
  obtain ⟨candidates, hcandidates⟩ := howner.exists_candidates artifact
  rw [hcandidates] at hnone
  cases hnone

end Mapper

end Reidentify

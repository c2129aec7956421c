import Reidentify.Pass.Resolution
import Reidentify.Proofs.Trail.Result

/-!
# The steps of a mapper

A mapper that ends with an outcome has gone through four steps: the candidates of its scope, those
that satisfy its predicate, the selection of one of them, and the entity that the selected
candidate is bound as. This module takes the outcome apart again.

## Main definitions

* `Mapper.Concludes`: the outcome that a selection leads to.

## Main statements

* `Scope.candidates_inClass`, `Scope.candidates_inMethod`: the owner of a scope is read first.
* `Mapper.exists_of_resolve`: the steps behind an outcome.
* `Mapper.cases_of_bind_eq_ok`: what may come of binding a selected candidate.
* `Mapper.name_of_resolve`: an outcome carries the name of its mapper.
-/

namespace Reidentify

namespace Scope

/-- The candidates that a `part` of a class has, given the entity that the `owner` of the scope is
bound to. It has to be a class, or else there is a `scopeOwner` fault. -/
def ofBoundClass (part : ClassPart) (owner : String) : Entity → Except Fault (List Entity)
  | .ofClass decl => .ok (part.members decl)
  | bound =>
    .error (.configuration (.scopeOwner (inClass part owner).describe owner .toClass bound))

/-- The instructions of a method, given the entity that the `owner` of the scope is bound to. It has
to be a method, or else there is a `scopeOwner` fault. -/
def ofBoundMethod (owner : String) : Entity → Except Fault (List Entity)
  | .ofMethod method => .ok (method.instructions.map .ofInstruction)
  | bound => .error (.configuration (.scopeOwner (inMethod owner).describe owner .toMethod bound))

/-- For a scope `inClass part owner`, the `candidates` are read off what the table has for the
`owner`. -/
theorem candidates_inClass (artifact : Artifact) (table : Table) (part : ClassPart)
    (owner : String) :
    (inClass part owner).candidates artifact table =
      table.resolve owner >>= ofBoundClass part owner := by
  rw [candidates]
  rcases table.resolve owner with _ | (_ | _ | _ | _) <;> rfl

/-- For a scope `inMethod owner`, the `candidates` are read off what the table has for the `owner`.
-/
theorem candidates_inMethod (artifact : Artifact) (table : Table) (owner : String) :
    (inMethod owner).candidates artifact table = table.resolve owner >>= ofBoundMethod owner := by
  rw [candidates]
  rcases table.resolve owner with _ | (_ | _ | _ | _) <;> rfl

end Scope

namespace Mapper

variable {mapper : Mapper} {artifact : Artifact} {table : Table} {outcome : Outcome}

/-- The outcome that a `Selection` leads to: its failure, or what `bind` makes of the selected
candidate. -/
inductive Concludes (mapper : Mapper) (artifact : Artifact) : Selection → Outcome → Prop
  /-- No candidate could be selected, and the outcome is the `failure`. -/
  | refused (failure) : Concludes mapper artifact (.refused failure) ⟨mapper.name, .failed failure⟩
  /-- The selected candidate is bound, and the outcome is the `result` of `bind`. -/
  | chosen {entity result} (h : mapper.bind artifact entity = .ok result) :
      Concludes mapper artifact (.chosen entity) ⟨mapper.name, result⟩

/-- A selection that is `refused` leads to its `failure` and to nothing else. -/
theorem concludes_refused_iff {failure : Failure} :
    mapper.Concludes artifact (.refused failure) outcome ↔
      outcome = ⟨mapper.name, .failed failure⟩ := by
  constructor
  · rintro ⟨⟩
    rfl
  · rintro rfl
    exact .refused failure

/-- A selection that has `chosen` a candidate leads to a `result` of `bind`, if there is one. -/
theorem concludes_chosen_iff {selected : Entity} :
    mapper.Concludes artifact (.chosen selected) outcome ↔
      ∃ result, mapper.bind artifact selected = .ok result ∧ outcome = ⟨mapper.name, result⟩ := by
  constructor
  · rintro ⟨⟩
    next result h => exact ⟨result, h, rfl⟩
  · rintro ⟨result, h, rfl⟩
    exact .chosen h

/-- If `bind` has a result, the `selected` candidate is bound to an entity, or it refers to a member
that is not there and the failure is an `unboundTarget`. -/
theorem cases_of_bind_eq_ok {selected : Entity} {result : Result}
    (h : mapper.bind artifact selected = .ok result) :
    (∃ entity, result = .resolved entity) ∨
      ∃ failure, result = .failed failure ∧ failure.kind = .unboundTarget := by
  unfold bind at h
  split at h
  · split at h
    · cases h
    · exact .inl ⟨_, (Except.ok.inj h).symm⟩
    · exact .inr ⟨_, (Except.ok.inj h).symm, rfl⟩
  · exact .inl ⟨_, (Except.ok.inj h).symm⟩
  · split at h
    · cases h
    · exact .inl ⟨_, (Except.ok.inj h).symm⟩
    · exact .inr ⟨_, (Except.ok.inj h).symm, rfl⟩
  · exact .inl ⟨_, (Except.ok.inj h).symm⟩

/-- If `resolve` has an outcome, the scope has `candidates`, the predicate has been evaluated on
them and `matching` has `kept` some, `selectBy` has selected one of these or none, and the selection
`Concludes` with the outcome. -/
theorem exists_of_resolve (h : (mapper.resolve artifact table).result = .ok outcome) :
    ∃ candidates kept selection, mapper.scope.candidates artifact table = .ok candidates ∧
      (mapper.matching table candidates).result = .ok kept ∧
      mapper.selectBy mapper.strategy.kind kept = .ok selection ∧
      mapper.Concludes artifact selection outcome := by
  unfold resolve resolveBy at h
  simp only [Trail.result_andThen, Trail.result_lift] at h
  obtain ⟨candidates, hcandidates, h⟩ := Except.bind_eq_ok_iff.1 h
  obtain ⟨kept, hkept, h⟩ := Except.bind_eq_ok_iff.1 h
  obtain ⟨selection, hselection, h⟩ := Except.bind_eq_ok_iff.1 h
  refine ⟨candidates, kept, selection, hcandidates, hkept, hselection, ?_⟩
  cases selection with
  | refused failure =>
    cases h
    exact .refused failure
  | chosen entity =>
    simp only [Trail.result_andThen, Trail.result_lift] at h
    obtain ⟨result, hresult, h⟩ := Except.bind_eq_ok_iff.1 h
    cases h
    exact .chosen hresult

/-- An outcome of `resolve` carries the name of its `mapper`. -/
theorem name_of_resolve (h : (mapper.resolve artifact table).result = .ok outcome) :
    outcome.name = mapper.name := by
  obtain ⟨_, _, _, -, -, -, hconcludes⟩ := exists_of_resolve h
  cases hconcludes <;> rfl

end Mapper

end Reidentify

import Reidentify.Mapper.Member

/-!
# Mappers for members

Whatever family a mapper for a member belongs to, it is named after the owner and the member that it
was built with, and it looks for the member in the class that its owner is bound to.

## Main definitions

* `Mapper.BuiltFor`: a mapper was built for a member of an owner.

## Main statements

* `Mapper.declare_spec`: what a mapper has from its declaration.
* `Mapper.BuiltFor.spec`: the name, the scope and the target of a mapper for a member.
-/

namespace Reidentify

variable {part : ClassPart} {owner member scopeOwner : String}
  {predicate : Predicate} {dependencies : List String} {parameters : Option (List String)}
  {target : Target} {index : Whole} {groupSize : Option Whole} {mapper : Mapper}

/-- A scope over a `part` of a class has the `owner` that it was made with by `make`. -/
theorem Scope.eq_of_make (h : make part.kind owner = .ok scope) : scope = .inClass part owner := by
  cases part <;>
  · simp only [ClassPart.kind, make] at h
    split at h
    · cases h
    · exact (Except.ok.inj h).symm

namespace Mapper

/-- A `mapper` has the name and the scope of its `declaration`. Its target is the one that is
declared, or else the `defaultTarget` of the scope. -/
theorem declare_spec {declaration : MapperDeclaration} (h : declare declaration = .ok mapper) :
    mapper.name = declaration.name ∧ mapper.scope = declaration.scope ∧
      mapper.target = declaration.target.getD declaration.scope.defaultTarget := by
  unfold declare at h
  dsimp only at h
  split at h
  · cases h
  · split at h
    · cases h
    · split at h
      · split at h
        · cases h
        · cases h
          exact ⟨rfl, rfl, rfl⟩
      · cases h

theorem forMember_spec (part : ClassPart)
    (h : forMember part.kind owner member predicate dependencies parameters = .ok mapper) :
    mapper.name = memberName owner member ∧ mapper.scope = .inClass part owner ∧
      mapper.target = (Scope.inClass part owner).defaultTarget := by
  unfold forMember at h
  split at h
  · cases h
  · next scope hscope =>
    obtain rfl := Scope.eq_of_make hscope
    exact declare_spec h

theorem forReference_spec (part : ClassPart)
    (h : forReference part.kind scopeOwner owner member predicate target index groupSize
      dependencies parameters = .ok mapper) :
    mapper.name = memberName owner member ∧ mapper.scope = .inClass part scopeOwner ∧
      mapper.target = target := by
  unfold forReference at h
  split at h
  · cases h
  · next scope hscope =>
    obtain rfl := Scope.eq_of_make hscope
    split at h
    · cases h
    · exact declare_spec h

/-- A `mapper` was built for a `member` of an `owner`, by one of the five builders. -/
inductive BuiltFor (owner member : String) (mapper : Mapper) : Prop
  /-- The member is a field of the instances, built by `instanceField`. -/
  | instanceField {predicate : Predicate} {dependencies : List String}
    (h : instanceField owner member predicate dependencies = .ok mapper)
  /-- The member is a field of the class itself, built by `staticField`. -/
  | staticField {predicate : Predicate} {dependencies : List String}
    (h : staticField owner member predicate dependencies = .ok mapper)
  /-- The member is a method of the instances, built by `instanceMethod`. -/
  | instanceMethod {predicate : Predicate} {dependencies : List String}
    {parameters : Option (List String)}
    (h : instanceMethod owner member predicate dependencies parameters = .ok mapper)
  /-- The member is a method of the class itself, built by `staticMethod`. -/
  | staticMethod {predicate : Predicate} {dependencies : List String}
    {parameters : Option (List String)}
    (h : staticMethod owner member predicate dependencies parameters = .ok mapper)
  /-- The member is a field that a constructor writes, built by `constructorField`. -/
  | constructorField {predicate : Predicate} {index : Whole} {groupSize : Option Whole}
    {dependencies : List String}
    (h : constructorField owner member predicate index groupSize dependencies = .ok mapper)

/-- A mapper for a `member` is named after its `owner` and the member (`memberName`), looks into the
class of its owner, and binds a field or a method. -/
theorem BuiltFor.spec (h : BuiltFor owner member mapper) : mapper.name = memberName owner member ∧
    ∃ part, mapper.scope = .inClass part owner ∧
      (mapper.target = .toField ∨ mapper.target = .toMethod) := by
  cases h with
  | instanceField h =>
    obtain ⟨hname, hscope, htarget⟩ := forMember_spec .instanceFields h
    exact ⟨hname, _, hscope, .inl htarget⟩
  | staticField h =>
    obtain ⟨hname, hscope, htarget⟩ := forMember_spec .staticFields h
    exact ⟨hname, _, hscope, .inl htarget⟩
  | instanceMethod h =>
    obtain ⟨hname, hscope, htarget⟩ := forMember_spec .instanceMethods h
    exact ⟨hname, _, hscope, .inr htarget⟩
  | staticMethod h =>
    obtain ⟨hname, hscope, htarget⟩ := forMember_spec .staticMethods h
    exact ⟨hname, _, hscope, .inr htarget⟩
  | constructorField h =>
    obtain ⟨hname, hscope, htarget⟩ := forReference_spec .constructorInstructions h
    exact ⟨hname, _, hscope, .inl htarget⟩

end Mapper

end Reidentify

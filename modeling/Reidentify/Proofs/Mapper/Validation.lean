import Reidentify.Mapper.Registry
import Reidentify.Proofs.Text.Names

/-!
# Valid registries

A registry is valid if everything that is depended on is registered, and if the owner of every
scope binds what the scope looks into. Validation finds out exactly that. The owner of a scope is
a dependency of its mapper, so it is registered before anyone asks what it binds.

## Main definitions

* `Registry.Closed`: every dependency is registered.
* `Registry.OwnersFit`: the owners of all scopes bind what the scopes look into.

## Main statements

* `Registry.validate_eq_ok_iff`: a registry passes validation iff it has both properties.
* `Registry.Closed.exists_owner`: in a closed registry the owner of a scope is found.
* `Registry.exists_fitting_owner`: in a valid registry it also binds what the scope looks into.
-/

namespace Reidentify

/-- A `scope` with an `owner` needs something of it, a class or a method. -/
theorem Scope.exists_ownerTarget {scope : Scope} {owner : String}
    (h : scope.owner? = some owner) : ∃ needed, scope.ownerTarget? = some needed := by
  cases scope with
  | allClasses => cases h
  | inClass part other => exact ⟨.toClass, rfl⟩
  | inMethod other => exact ⟨.toMethod, rfl⟩

namespace Registry

variable {registry : Registry} {mapper : Mapper} {name owner : String}

/-- A registered `mapper` is found by its name with `find?`, and nothing else is. -/
theorem find?_eq_some_iff : registry.find? name = some mapper ↔
    mapper ∈ registry.mappers ∧ mapper.name = name :=
  Text.find?_eq_some_iff_of_nodup registry.nodup_names

/-- A `name` is registered iff a mapper is found by it with `find?`. -/
theorem mem_names_iff : name ∈ registry.names ↔ ∃ mapper, registry.find? name = some mapper := by
  simp [names, find?_eq_some_iff]

/-- Every name that a mapper of the `registry` depends on is registered. -/
def Closed (registry : Registry) : Prop :=
  ∀ mapper ∈ registry.mappers, ∀ name ∈ mapper.dependencies, name ∈ registry.names

/-- The owner of every scope in the `registry` binds what the scope looks into (`ownerTarget?`). -/
def OwnersFit (registry : Registry) : Prop :=
  ∀ mapper ∈ registry.mappers, ∀ owner needed bound, mapper.scope.owner? = some owner →
    mapper.scope.ownerTarget? = some needed → registry.find? owner = some bound →
      bound.target = needed

/-- A `pair` is dangling iff its first name belongs to a mapper that depends on its second name,
which is not registered. -/
theorem mem_dangling_iff {pair : String × String} : pair ∈ registry.dangling ↔
    ∃ mapper ∈ registry.mappers, mapper.name = pair.1 ∧ pair.2 ∈ mapper.dependencies ∧
      pair.2 ∉ registry.names := by
  obtain ⟨first, second⟩ := pair
  simp [dangling, contains]
  grind

/-- Nothing is `dangling` iff the registry is `Closed`. -/
theorem dangling_eq_nil_iff : registry.dangling = [] ↔ registry.Closed := by
  rw [List.eq_nil_iff_forall_not_mem]
  constructor
  · intro h mapper hmem name hname
    by_contra hmissing
    exact h (mapper.name, name) (mem_dangling_iff.2 ⟨mapper, hmem, rfl, hname, hmissing⟩)
  · intro h pair hpair
    obtain ⟨mapper, hmem, -, hname, hmissing⟩ := mem_dangling_iff.1 hpair
    exact hmissing (h mapper hmem pair.2 hname)

/-- No owner is `mismatched` iff all owners fit (`OwnersFit`). -/
theorem mismatched_eq_nil_iff : registry.mismatched = [] ↔ registry.OwnersFit := by
  simp [mismatched, List.filterMap_eq_nil_iff, OwnersFit, Option.bind_eq_none_iff]
  grind

/-- A registry passes `validate` iff it is `Closed` and the owners of its scopes fit (`OwnersFit`).
-/
theorem validate_eq_ok_iff :
    registry.validate = .ok () ↔ registry.Closed ∧ registry.OwnersFit := by
  rw [← dangling_eq_nil_iff, ← mismatched_eq_nil_iff, validate]
  cases registry.dangling with
  | cons pair rest => simp
  | nil => cases registry.mismatched <;> simp

/-- Every `name` that a mapper of a valid registry depends on is registered. -/
theorem mem_names_of_validate (h : registry.validate = .ok ()) (hmem : mapper ∈ registry.mappers)
    (hname : name ∈ mapper.dependencies) : name ∈ registry.names :=
  (validate_eq_ok_iff.1 h).1 mapper hmem name hname

/-- In a `Closed` registry the `owner` of a scope is found, as it is a dependency. -/
theorem Closed.exists_owner (h : registry.Closed) (hmem : mapper ∈ registry.mappers)
    (howner : mapper.scope.owner? = some owner) : ∃ bound, registry.find? owner = some bound :=
  mem_names_iff.1 (h mapper hmem owner (mapper.owner_mem owner howner))

/-- In a valid registry the `owner` of a scope is found, and it binds what the scope looks into. -/
theorem exists_fitting_owner (h : registry.validate = .ok ()) (hmem : mapper ∈ registry.mappers)
    (howner : mapper.scope.owner? = some owner) :
    ∃ bound ∈ registry.mappers, bound.name = owner ∧
      mapper.scope.ownerTarget? = some bound.target := by
  obtain ⟨hclosed, hfit⟩ := validate_eq_ok_iff.1 h
  obtain ⟨bound, hfind⟩ := hclosed.exists_owner hmem howner
  obtain ⟨hbound, hname⟩ := find?_eq_some_iff.1 hfind
  obtain ⟨needed, hneeded⟩ := Scope.exists_ownerTarget howner
  have htarget : bound.target = needed := hfit mapper hmem owner needed bound howner hneeded hfind
  exact ⟨bound, hbound, hname, by rw [hneeded, htarget]⟩

end Registry

end Reidentify

import Reidentify.Proofs.Mapper.Validation
import Reidentify.Proofs.Query.Congruence

/-!
# Parts of a registry

The mappers of some names are a registry of their own. They can stand alone if they depend on each
other only, and take the types of their tests from each other only. A test of one's own may look at
anything, so there it has to be said that it looks at these mappers only.

## Main definitions

* `Predicate.LooksWithin`, `Mapper.LooksWithin`: what looks at the outcomes of some names only.
* `Mapper.among`: the mappers of some names.
* `Registry.restrict`: the part of a registry with some names.
* `Registry.SelfContained`: names whose mappers look at each other only.

## Main statements

* `Predicate.LooksWithin.check_eq`: what a test does not look at has no effect on it.
* `Registry.validate_restrict`: a self-contained part of a valid registry is valid.
* `Registry.restrict_perm`: registries with the same mappers of some names have the same part.
-/

namespace Reidentify

variable {names : List String}

/-- A test looks at the outcomes of some `names` only. A test of the library does if the mappers
whose types it compares with (`mappers`) are among them. -/
def Predicate.LooksWithin (names : List String) : Predicate → Prop
  | .test _ _ check => ∀ entity (table table' : Table),
    (∀ name ∈ names, table'.outcome? name = table.outcome? name) →
      check entity table' = check entity table
  | library => ∀ name ∈ library.mappers, name ∈ names

/-- A `test` of the library looks at the `mappers` that its types are taken from. -/
theorem Predicate.looksWithin_iff {test : Predicate} (hlibrary : test.isLibrary = true) :
    test.LooksWithin names ↔ ∀ name ∈ test.mappers, name ∈ names := by
  cases test with
  | test => cases hlibrary
  | _ => exact Iff.rfl

/-- A test that looks at some `names` only has the same answer on a `table` and a `table'` with the
same outcomes of these names. -/
theorem Predicate.LooksWithin.check_eq {test : Predicate} (h : test.LooksWithin names)
    {table table' : Table} (houtcome : ∀ name ∈ names, table'.outcome? name = table.outcome? name)
    (entity : Entity) : test.check entity table' = test.check entity table := by
  cases hlibrary : test.isLibrary with
  | true =>
    have hmappers := (looksWithin_iff hlibrary).1 h
    refine check_congr hlibrary (fun name hname => ?_) entity
    rw [Table.resolve, Table.resolve, houtcome name (hmappers name hname)]
  | false =>
    cases test with
    | test description probe check => exact h entity table table' houtcome
    | _ => cases hlibrary

namespace Mapper

variable {mapper : Mapper} {mappers : List Mapper}

/-- A `mapper` looks at the outcomes of some `names` only. -/
structure LooksWithin (names : List String) (mapper : Mapper) : Prop where
  /-- Its `dependencies` are among these names. -/
  dependencies : ∀ name ∈ mapper.dependencies, name ∈ names
  /-- The `tests` of its predicate look at these names only. -/
  tests : ∀ test ∈ mapper.predicate.tests, test.LooksWithin names

/-- The mappers whose names are among some `names`, in their order. -/
def among (names : List String) (mappers : List Mapper) : List Mapper :=
  mappers.filter fun mapper => names.contains mapper.name

theorem mem_among : mapper ∈ among names mappers ↔ mapper ∈ mappers ∧ mapper.name ∈ names := by
  rw [among, List.mem_filter, List.contains_iff_mem]

/-- The mappers of some `names` are sifted in the same way by tests `p` and `q` that have the same
answers for them. -/
theorem filter_among {p q : Mapper → Bool}
    (h : ∀ mapper ∈ mappers, mapper.name ∈ names → q mapper = p mapper) :
    (among names mappers).filter q = among names (mappers.filter p) := by
  unfold among
  rw [List.filter_filter, List.filter_filter]
  refine List.filter_congr fun mapper hmem => ?_
  by_cases hname : mapper.name ∈ names
  · rw [h mapper hmem hname, Bool.and_comm]
  · have hcontains : names.contains mapper.name = false := by simp [hname]
    rw [hcontains, Bool.and_false, Bool.false_and]

/-- The names of the mappers `among` some `names` are those of all mappers that are among them. -/
theorem map_name_among (names : List String) (mappers : List Mapper) :
    (among names mappers).map (·.name) = (mappers.map (·.name)).filter names.contains := by
  rw [among, List.filter_map]
  rfl

end Mapper

namespace Registry

variable {registry registry' : Registry} {mapper : Mapper}

/-- The part of a `registry` whose mappers have some `names`. -/
def restrict (registry : Registry) (names : List String) : Registry where
  mappers := Mapper.among names registry.mappers
  nodup_names := registry.nodup_names.sublist (List.filter_sublist.map _)

@[simp] theorem mappers_restrict (registry : Registry) (names : List String) :
    (registry.restrict names).mappers = Mapper.among names registry.mappers := rfl

/-- The names of the part `restrict` are those of the registry that are among `names`. -/
theorem names_restrict (registry : Registry) (names : List String) :
    (registry.restrict names).names = registry.names.filter names.contains :=
  Mapper.map_name_among names registry.mappers

/-- Some `names` are registered in the `registry`, and their mappers look at the outcomes of each
other only. -/
structure SelfContained (registry : Registry) (names : List String) : Prop where
  /-- The `names` are registered. -/
  registered : ∀ name ∈ names, name ∈ registry.names
  /-- Their mappers look at the outcomes of these names only. -/
  looksWithin : ∀ mapper ∈ registry.mappers, mapper.name ∈ names → mapper.LooksWithin names

/-- A part that is `SelfContained` passes `validate` if the registry does. -/
theorem validate_restrict (h : registry.SelfContained names) (hvalid : registry.validate = .ok ()) :
    (registry.restrict names).validate = .ok () := by
  obtain ⟨hclosed, hfit⟩ := validate_eq_ok_iff.1 hvalid
  -- what is registered in the part is registered, and a dependency in the part stays in it
  refine validate_eq_ok_iff.2 ⟨fun mapper hmem name hname => ?_, ?_⟩
  · obtain ⟨hmapper, hnames⟩ := Mapper.mem_among.1 hmem
    rw [names_restrict, List.mem_filter, List.contains_iff_mem]
    have hwithin := h.looksWithin mapper hmapper hnames
    exact ⟨hclosed mapper hmapper name hname, hwithin.dependencies name hname⟩
  · intro mapper hmem owner needed bound howner hneeded hfind
    obtain ⟨hmapper, -⟩ := Mapper.mem_among.1 hmem
    -- the owner of a scope is found in the registry if it is found in the part
    obtain ⟨hbound, hname⟩ := find?_eq_some_iff.1 hfind
    have hfind' : registry.find? owner = some bound :=
      find?_eq_some_iff.2 ⟨(Mapper.mem_among.1 hbound).1, hname⟩
    exact hfit mapper hmapper owner needed bound howner hneeded hfind'

/-- Registries that find the same mappers by some `names` are both `SelfContained` there if one of
them is. -/
theorem SelfContained.of_find?_eq (h : registry.SelfContained names)
    (hfind : ∀ name ∈ names, registry'.find? name = registry.find? name) :
    registry'.SelfContained names where
  registered name hname := by
    rw [mem_names_iff, hfind name hname, ← mem_names_iff]
    exact h.registered name hname
  looksWithin mapper hmem hname := by
    have hmapper : registry.find? mapper.name = some mapper := by
      rw [← hfind mapper.name hname]
      exact find?_eq_some_iff.2 ⟨hmem, rfl⟩
    exact h.looksWithin mapper (find?_eq_some_iff.1 hmapper).1 hname

/-- Registries that find the same mappers by some `names` have the same part `restrict` with these
names, up to the order. -/
theorem restrict_perm (hfind : ∀ name ∈ names, registry'.find? name = registry.find? name) :
    (registry.restrict names).mappers.Perm (registry'.restrict names).mappers := by
  have hnodup (registry : Registry) : (registry.restrict names).mappers.Nodup :=
    (registry.restrict names).nodup_names.of_map
  rw [List.perm_ext_iff_of_nodup (hnodup registry) (hnodup registry')]
  intro mapper
  rw [mappers_restrict, mappers_restrict, Mapper.mem_among, Mapper.mem_among]
  refine and_congr_left fun hname => ?_
  have hmem (registry : Registry) :
      mapper ∈ registry.mappers ↔ registry.find? mapper.name = some mapper := by
    rw [find?_eq_some_iff, and_iff_left rfl]
  rw [hmem, hmem, hfind mapper.name hname]

end Registry

end Reidentify

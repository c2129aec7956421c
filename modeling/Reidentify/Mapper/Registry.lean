import Reidentify.Mapper.Basic

/-!
# Registries of mappers

A registry holds the mappers of a pass in the order in which they were registered, each name
once. Before a pass it is validated: every dependency has to be registered, and the owner of
every scope has to bind the kind of entity that the scope looks into.
-/

namespace Reidentify

/-- The mappers of a pass, with distinct names, in the order in which they were registered. -/
structure Registry where
  /-- The mappers. -/
  mappers : List Mapper
  /-- No name occurs twice, as `Registry.register` makes sure. -/
  nodup_names : (mappers.map (·.name)).Nodup

namespace Registry

/-- The registry without `mappers`, which registering begins with. -/
def empty : Registry := ⟨[], by simp⟩

/-- The names of the mappers of `registry`, in the order in which they were registered. -/
def names (registry : Registry) : List String :=
  registry.mappers.map (·.name)

/-- Whether a mapper of this `name` is registered, one of the `mappers`. -/
def contains (registry : Registry) (name : String) : Bool :=
  registry.names.contains name

/-- The number of the `mappers` that `registry` has. -/
def size (registry : Registry) : Nat :=
  registry.mappers.length

/-- The mapper of this `name`, or `none` if it is not registered. -/
def find? (registry : Registry) (name : String) : Option Mapper :=
  registry.mappers.find? (·.name == name)

/-- The mapper of this `name`, which has to be registered: there is a fault for every other name. -/
def get (registry : Registry) (name : String) : Except Fault Mapper :=
  match registry.find? name with
  | some mapper => .ok mapper
  | none => .error (.registry (.unknown name))

/-- A mapper that `Registry.get` finds is one of the registered `mappers`. -/
theorem mem_of_get {registry : Registry} {name : String} {mapper : Mapper}
    (h : registry.get name = .ok mapper) : mapper ∈ registry.mappers := by
  unfold get at h
  split at h
  · next hfound =>
    cases h
    exact List.mem_of_find?_eq_some hfound
  · cases h

/-- Adds `mapper` at the end, if its name is not registered yet. -/
def register (registry : Registry) (mapper : Mapper) : Except Fault Registry :=
  if h : mapper.name ∈ registry.names then .error (.registry (.duplicate mapper.name))
  else
    .ok ⟨registry.mappers ++ [mapper], by
      rw [List.map_append, List.nodup_append]
      refine ⟨registry.nodup_names, by simp, ?_⟩
      intro a ha b hb
      simp only [List.map_cons, List.map_nil, List.mem_singleton] at hb
      rw [hb]
      exact fun hab => h (hab ▸ ha)⟩

/-- Adds mappers up to the first one whose name is registered already. The registry that was
reached is returned together with the fault, if there is one. -/
def add (registry : Registry) : List Mapper → Registry × Option Fault
  | [] => (registry, none)
  | mapper :: rest =>
    match registry.register mapper with
    | .error fault => (registry, some fault)
    | .ok next => next.add rest

/-- The registry of `mappers`, in this order, or the first fault of `Registry.add`. -/
def ofList (mappers : List Mapper) : Except Fault Registry :=
  match empty.add mappers with
  | (registry, none) => .ok registry
  | (_, some fault) => .error fault

/-- The pairs of a mapper and a dependency of it that is not registered, in the order of
registration. -/
def dangling (registry : Registry) : List (String × String) :=
  registry.mappers.flatMap fun mapper =>
    (mapper.dependencies.filter fun name => !registry.contains name).map (mapper.name, ·)

/-- The mappers whose scope has an owner of the wrong kind: the mapper, the owner, what the
scope needs and what the owner binds. -/
def mismatched (registry : Registry) : List (String × String × Target × Target) :=
  registry.mappers.filterMap fun mapper => do
    let owner ← mapper.scope.owner?
    let needed ← mapper.scope.ownerTarget?
    let bound ← registry.find? owner
    if bound.target = needed then none
    else return (mapper.name, owner, needed, bound.target)

/-- Checks the dependencies of all mappers, then the owners of all scopes. A pass begins with it. -/
def validate (registry : Registry) : Except Fault Unit :=
  match registry.dangling with
  | pair :: rest => .error (.registry (.dangling (pair :: rest)))
  | [] =>
    match registry.mismatched with
    | owner :: rest => .error (.registry (.mismatched (owner :: rest)))
    | [] => .ok ()

/-- The short form of `registry`, which shows the number of its mappers. -/
def summary (registry : Registry) : String :=
  let count := registry.size
  s!"MapperRegistry({count} mappers)"

end Registry

end Reidentify

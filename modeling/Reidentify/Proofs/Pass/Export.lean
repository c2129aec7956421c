import Reidentify.Proofs.Artifact.Permutation
import Reidentify.Proofs.Pass.Soundness

/-!
# The hooks of a pass

In the table of a pass every mapper that is bound is bound to an entity of its target, whatever the
artifact is. So the hooks of the table can be built, and they show what the table binds. If the
artifact was read from a document, the class that a member names as its owner is the class that
declares it.

## Main definitions

* `Pass.OwnersDeclare`: members name the classes that declare them.

## Main statements

* `Pass.fits_of_run`: mappers are bound to entities of their targets.
* `Pass.exports_of_run`: the hooks of a pass can be built, and they show what its table binds.
-/

namespace Reidentify

namespace Pass

variable {artifact : Artifact} {registry : Registry} {table : Table}

/-- In the table of a pass every mapper is bound to an entity of its `target`, i.e.
`registry.Fits table`. -/
theorem fits_of_run (hrun : (run artifact registry).result = .ok table) :
    registry.Fits table := by
  intro mapper hmem entity hresolve
  obtain ⟨outcome, houtcome, hentity⟩ := Table.resolve_eq_ok_iff.1 hresolve
  rcases skipped_or_evaluates hrun hmem with ⟨-, hskip⟩ | ⟨earlier, hevaluates⟩
  · -- a mapper that is skipped is not bound
    rw [hskip] at houtcome
    cases houtcome
    cases hentity
  · obtain ⟨-, other, hend, hrecorded⟩ := hevaluates.exists_outcome hrun
    rw [hrecorded] at houtcome
    cases houtcome
    exact (Mapper.target_of_resolve hend hentity).symm

/-- A bound member names a bound class as its `owner` iff it is one of the `fields` or `methods`
that the class declares. -/
def OwnersDeclare (registry : Registry) (table : Table) : Prop :=
  ∀ home ∈ registry.mappers, ∀ decl, table.Binds home (.ofClass decl) →
    ∀ mapper ∈ registry.mappers,
      (∀ field, table.Binds mapper (.ofField field) →
        (decl.name = field.owner ↔ field ∈ decl.fields)) ∧
      ∀ method, table.Binds mapper (.ofMethod method) →
        (decl.name = method.owner ↔ method ∈ decl.methods)

/-- If the `artifact` was read from a document, members name the classes that declare them:
`OwnersDeclare` holds of the table. -/
theorem ownersDeclare_of_run {document : Value}
    (hartifact : Artifact.ofValue document = .ok artifact)
    (hrun : (run artifact registry).result = .ok table) : OwnersDeclare registry table := by
  have howned := Artifact.owned_of_ofValue hartifact
  have hnodup := Artifact.nodup_names_of_ofValue hartifact
  have hsound := sound_of_run howned hrun
  intro home hhome decl hdecl mapper hmem
  have hclass := (hsound home hhome _ hdecl.2).2
  cases hclass with
  | ofClass hclass =>
    refine ⟨fun field hfield => ⟨fun hname => ?_, ?_⟩, fun method hmethod => ⟨fun hname => ?_, ?_⟩⟩
    · cases (hsound mapper hmem _ hfield.2).2 with
      | ofField hother hdeclared howner =>
        -- classes of one name are the same class
        have hsame := List.inj_on_of_nodup_map hnodup hclass hother (hname.trans howner)
        exact hsame ▸ hdeclared
    · exact fun hdeclared => ((howned decl hclass).fields field hdeclared).symm
    · cases (hsound mapper hmem _ hmethod.2).2 with
      | ofMethod hother hdeclared howner =>
        have hsame := List.inj_on_of_nodup_map hnodup hclass hother (hname.trans howner)
        exact hsame ▸ hdeclared
    · exact fun hdeclared => ((howned decl hclass).methods method hdeclared).symm

/-- The hooks of a pass that ends with a table can be built by `Hook.build`. They show what the
table binds, every class once and every member in the one hook that it belongs to, if there is one
(`Hook.Exports`). In an artifact that was read from a document the class that counts for a member is
the one that declares it (`OwnersDeclare`). -/
theorem exports_of_run (hrun : (run artifact registry).result = .ok table) :
    (∃ hooks, (Hook.build table registry).result = .ok hooks ∧
      Hook.Exports table registry hooks) ∧
    ∀ document, Artifact.ofValue document = .ok artifact → OwnersDeclare registry table :=
  ⟨Hook.exists_exports (fits_of_run hrun), fun _ hartifact => ownersDeclare_of_run hartifact hrun⟩

section Example

/-- The instruction with the `operation` on a field, given by its `reference`, at a position of the
constructor of class `a`. -/
def writeTo (operation : Opcode) (index : Nat) (reference : MemberRef) : Instruction :=
  ⟨"a", "<init>", "()V", index, operation, .null, .null, reference,
    ⟨.null, .null, .null⟩, .null⟩

/-- A class `a` with a number and a method, whose constructor writes the number and a field of the
other class `b`, with an `operation`. -/
def writer (operation : Opcode) : Artifact where
  classes := [{
    name := "a"
    superName := .str "b"
    interfaces := ["c"]
    access := 1
    fields := [⟨"a", "f", "I", 0⟩]
    methods := [
      ⟨"a", "<init>", "()V", 1, [writeTo operation 0 ⟨.str "a", .str "f", .str "I"⟩,
        writeTo operation 1 ⟨.str "b", .str "g", .str "J"⟩]⟩,
      ⟨"a", "m", "(I)V", 0, []⟩] },
    ⟨"b", .str "java/lang/Object", [], 1, [⟨"b", "g", "J", 0⟩], []⟩]
  revision := ""

theorem target_of_parameters_none {target : Target}
    (h : (none : Option (List String)).isSome = true) : target = .toMethod :=
  absurd h Bool.false_ne_true

/-- The mapper for the only field of a `type` that is written by the constructor of the class bound
to `owner`. -/
def written (name owner type : String) (hname : name ≠ "") : Mapper where
  name := name
  strategy := .order ⟨0, none, Position.pos_of_none⟩
  predicate := .fieldWrite (some (.literal type))
  scope := .inClass .constructorInstructions owner
  dependencies := [owner]
  target := .toField
  parameters := none
  name_ne_empty := hname
  allows_target := rfl
  ascending_dependencies := List.pairwise_singleton ..
  owner_mem _ h := Option.some.inj h ▸ List.mem_singleton_self _
  target_of_parameters := target_of_parameters_none

/-- The mapper for the only method with one argument of the class bound to `owner`, whose parameter
it names `count`. -/
def stepping (name owner : String) (hname : name ≠ "") : Mapper where
  name := name
  strategy := .identity
  predicate := .argumentCount (.int 1)
  scope := .inClass .instanceMethods owner
  dependencies := [owner]
  target := .toMethod
  parameters := some ["count"]
  name_ne_empty := hname
  allows_target := rfl
  ascending_dependencies := List.pairwise_singleton ..
  owner_mem _ h := Option.some.inj h ▸ List.mem_singleton_self _
  target_of_parameters _ := rfl

/-- Two mappers for the same class `a`, and mappers for members of it and of the class `b`, which no
mapper is bound to. -/
def hooking : Registry where
  mappers := [
    written "Second.number" "First" "I" (by decide),
    written "Third.number" "First" "I" (by decide),
    written "Third.stray" "First" "J" (by decide),
    .onlyClass "First" (.hasInstanceField (.literal "I")) [] (by decide),
    stepping "step" "Second" (by decide),
    .onlyClass "Second" (.hasInstanceField (.literal "I")) [] (by decide)]
  nodup_names := by decide

/-- In the registry `hooking` the member named after the mapper `Second` is in its hook. Members
that are named after no mapper for a class are in the hook of the first mapper for theirs, and the
member of the class that no mapper is bound to is left out. -/
theorem exports_of_run_hooking : ∃ table,
    (run (writer (.number 181)) hooking).result = .ok table ∧
      ((Hook.build table hooking).result.map fun hooks => hooks.map fun hook =>
        (hook.label, hook.decl.name, hook.fields, hook.methods)) =
          .ok [("First", "a", [⟨"number", ⟨"a", "f", "I", 0⟩⟩],
              [⟨"step", ⟨"a", "m", "(I)V", 0, []⟩, some ["count"]⟩]),
            ("Second", "a", [⟨"number", ⟨"a", "f", "I", 0⟩⟩], [])] ∧
      (∃ hooks, (Hook.build table hooking).result = .ok hooks ∧
        Hook.Exports table hooking hooks) ∧
      OwnersDeclare hooking table := by
  have hartifact :
      Artifact.ofValue (writer (.number 181)).toValue = .ok (writer (.number 181)) := by
    decide +kernel
  have hhooks : ((run (writer (.number 181)) hooking).result >>= fun table =>
      (Hook.build table hooking).result.map fun hooks => hooks.map fun hook =>
        (hook.label, hook.decl.name, hook.fields, hook.methods)) =
          .ok [("First", "a", [⟨"number", ⟨"a", "f", "I", 0⟩⟩],
              [⟨"step", ⟨"a", "m", "(I)V", 0, []⟩, some ["count"]⟩]),
            ("Second", "a", [⟨"number", ⟨"a", "f", "I", 0⟩⟩], [])] := by
    decide +kernel
  obtain ⟨table, hrun, hbuild⟩ := Except.bind_eq_ok_iff.1 hhooks
  obtain ⟨hexports, hdeclare⟩ := exports_of_run hrun
  exact ⟨table, hrun, hbuild, hexports, hdeclare _ hartifact⟩

end Example

end Pass

end Reidentify

import Reidentify.Proofs.Pass.Matching
import Reidentify.Proofs.Pass.Order
import Reidentify.Proofs.Pass.Simulation
import Reidentify.Proofs.Renaming.Predicate

/-!
# Passes over renamed artifacts

Mappers say what entities are by their structure, so the names that an obfuscator chose do not
matter: a pass over a renamed artifact binds every mapper to the renamed entity. This module shows
it for passes whose predicates are built from the tests of the library.

## Main definitions

* `Renaming.FailureRenames`: failures that differ in the descriptions of renamed entities only.

## Main statements

* `Renaming.resolve_mapper_simulates`: a mapper ends in the same way on a renamed artifact.
* `Renaming.run_artifact`: a pass over a renamed artifact ends with a table iff the pass over the
  original does, and then its table is the renamed one.
-/

namespace Reidentify

namespace Renaming

variable (names : Renaming)

/-- The failures of a mapper on an artifact and on the one that `names` renames. Where a failure
describes entities, it describes the renamed ones. -/
inductive FailureRenames : Failure → Failure → Prop
  /-- No candidate is left on both sides. -/
  | noMatch (scope predicate) :
      FailureRenames (.noMatch scope predicate) (.noMatch scope predicate)
  /-- Several `entities` are left, which are renamed on the other side. -/
  | ambiguous (scope predicate) (entities : List Entity) :
      FailureRenames (.ambiguous scope predicate (entities.map Entity.describe))
        (.ambiguous scope predicate ((entities.map names.entity).map Entity.describe))
  /-- The same `index` is outside the same number of candidates. -/
  | outOfRange (scope predicate length index groupSize) :
      FailureRenames (.outOfRange scope predicate length index groupSize)
        (.outOfRange scope predicate length index groupSize)
  /-- The same number of candidates makes up no whole groups. -/
  | groupMismatch (scope predicate length index groupSize) :
      FailureRenames (.groupMismatch scope predicate length index groupSize)
        (.groupMismatch scope predicate length index groupSize)
  /-- An `entity` refers to nothing of the `target`, and it is renamed on the other side. -/
  | unbound (entity : Entity) (target) :
      FailureRenames (.unbound entity.describe target)
        (.unbound (names.entity entity).describe target)

variable {names} {artifact : Artifact} {table table' : Table}

/-- Renamed `entities` are listed in the order of the original ones (`Renames`). -/
theorem forall₂_renames {entities : List Entity} (h : ∀ entity ∈ entities, entity.Textual) :
    List.Forall₂ names.Renames entities (entities.map names.entity) :=
  List.forall₂_map_right_iff.2 (List.forall₂_same.2 fun entity hmem => ⟨h entity hmem, rfl⟩)

/-- A list `entities'` of renamed entities is the renamed list, and the `entities` are textual. -/
theorem eq_map_of_forall₂ {entities entities' : List Entity}
    (h : List.Forall₂ names.Renames entities entities') :
    (∀ entity ∈ entities, entity.Textual) ∧ entities' = entities.map names.entity := by
  -- by induction on the two lists, element by element
  induction h with
  | nil => exact ⟨fun _ hmem => absurd hmem List.not_mem_nil, rfl⟩
  | cons hfirst _ ih =>
    refine ⟨List.forall_mem_cons.2 ⟨hfirst.textual, ih.1⟩, ?_⟩
    rw [hfirst.eq, ih.2, List.map_cons]

/-- The `candidates` of a `scope` in a renamed artifact are the renamed candidates. -/
theorem candidates_simulates {F : Failure → Failure → Prop} (hartifact : artifact.Textual)
    (h : table.Corresponds names.Renames F table') (scope : Scope) :
    Simulates .alike (List.Forall₂ names.Renames) (scope.candidates artifact table)
      (scope.candidates (names.artifact artifact) table') := by
  -- an owner is bound to a renamed class or method, whose parts are the renamed ones
  cases scope with
  | allClasses =>
    refine .ok ?_
    have hclasses : (names.artifact artifact).classes.map Entity.ofClass =
        (artifact.classes.map Entity.ofClass).map names.entity := by
      rw [Renaming.artifact, List.map_map, List.map_map]
      rfl
    rw [hclasses]
    refine forall₂_renames fun entity hmem => ?_
    obtain ⟨decl, hdecl, rfl⟩ := List.mem_map.1 hmem
    exact hartifact decl hdecl
  | inClass part owner =>
    rw [Scope.candidates_inClass, Scope.candidates_inClass]
    refine (h.resolve owner).bind ?_
    rintro bound _ ⟨htextual, rfl⟩
    cases bound with
    | ofClass decl =>
      refine .ok ?_
      rw [names.members_decl]
      exact forall₂_renames fun entity hmem => textual_of_mem_members htextual hmem
    | _ => exact .fault trivial
  | inMethod owner =>
    rw [Scope.candidates_inMethod, Scope.candidates_inMethod]
    refine (h.resolve owner).bind ?_
    rintro bound _ ⟨htextual, rfl⟩
    cases bound with
    | ofMethod method =>
      refine .ok ?_
      have hbody : (names.method method).instructions.map Entity.ofInstruction =
          (method.instructions.map Entity.ofInstruction).map names.entity := by
        rw [Renaming.method, List.map_map, List.map_map]
        rfl
      rw [hbody]
      refine forall₂_renames fun entity hmem => ?_
      obtain ⟨insn, hinsn, rfl⟩ := List.mem_map.1 hmem
      exact htextual insn hinsn
    | _ => exact .fault trivial

/-- What `selectOnly` chooses of renamed candidates is the renamed only candidate. -/
theorem selectOnly_corresponds (mapper : Mapper) {entities entities' : List Entity}
    (h : List.Forall₂ names.Renames entities entities') :
    Selection.Corresponds names.Renames names.FailureRenames (mapper.selectOnly entities)
      (mapper.selectOnly entities') := by
  obtain ⟨-, hmap⟩ := eq_map_of_forall₂ h
  -- no candidate, one, or several of them, on both sides
  rcases h with _ | ⟨hfirst, _ | ⟨hsecond, hrest⟩⟩
  · exact .refused (.noMatch _ _)
  · exact .chosen hfirst
  · refine .refused ?_
    rw [hmap]
    exact .ambiguous _ _ _

/-- Corresponding failures that name the same numbers are both made by `refuse`, or neither of them
is. -/
theorem refuse_simulates (writable : Bool) {failure failure' : Failure}
    (h : names.FailureRenames failure failure') :
    Simulates .alike (Selection.Corresponds names.Renames names.FailureRenames)
      (Mapper.refuse writable failure) (Mapper.refuse writable failure') := by
  cases writable with
  | true => exact .ok (.refused h)
  | false => exact .fault trivial

/-- What `selectAt` chooses of renamed candidates at a `position` is the renamed candidate there. -/
theorem selectAt_simulates (mapper : Mapper) (position : Position)
    {entities entities' : List Entity} (h : List.Forall₂ names.Renames entities entities') :
    Simulates .alike (Selection.Corresponds names.Renames names.FailureRenames)
      (mapper.selectAt position entities) (mapper.selectAt position entities') := by
  obtain ⟨htextual, rfl⟩ := eq_map_of_forall₂ h
  -- both sides have the same number of candidates, so they make up whole groups on both or on none
  have hlength : (entities.map names.entity).length = entities.length := List.length_map ..
  by_cases haligned : position.Aligned entities.length
  · rw [Mapper.selectAt_of_aligned haligned, Mapper.selectAt_of_aligned (hlength ▸ haligned),
      hlength, List.getElem?_map]
    by_cases hneg : position.index.value < 0
    · simp only [if_pos hneg]
      exact names.refuse_simulates _ (.outOfRange ..)
    · simp only [if_neg hneg]
      cases hentity : entities[position.index.value.toNat]? with
      | none => exact names.refuse_simulates _ (.outOfRange ..)
      | some entity => exact .ok (.chosen ⟨htextual entity (List.mem_of_getElem? hentity), rfl⟩)
  · obtain ⟨size, hsize, hcount⟩ := Position.not_aligned_iff.1 haligned
    rw [Mapper.selectAt_of_not_aligned hsize hcount,
      Mapper.selectAt_of_not_aligned hsize (hlength ▸ hcount), hlength]
    exact names.refuse_simulates _ (.groupMismatch ..)

/-- What `bind` makes of a renamed candidate is the renamed target. -/
theorem bind_simulates (hartifact : artifact.Textual) (mapper : Mapper) {entity entity' : Entity}
    (h : names.Renames entity entity') :
    Simulates .alike (Result.Corresponds names.Renames names.FailureRenames)
      (mapper.bind artifact entity) (mapper.bind (names.artifact artifact) entity') := by
  obtain ⟨htextual, rfl⟩ := h
  cases entity with
  | ofInstruction insn =>
    -- only an instruction can be bound as something else than itself
    have hfield := names.fieldOf_artifact artifact insn
    have hmethod := names.methodOf_artifact artifact insn
    cases htarget : mapper.target with
    | toField =>
      simp only [Mapper.bind, entity, htarget, hfield]
      rcases artifact.fieldOf insn with fault | _ | field
      · exact .fault trivial
      · exact .ok (.failed (.unbound (.ofInstruction insn) _))
      · exact .ok (.resolved ⟨trivial, rfl⟩)
    | toInstruction =>
      simp only [Mapper.bind, entity, htarget]
      exact .ok (.resolved ⟨htextual, rfl⟩)
    | toClass | toMethod =>
      simp only [Mapper.bind, entity, htarget, hmethod]
      rcases hfound : artifact.methodOf insn with fault | _ | method
      · exact .fault trivial
      · exact .ok (.failed (.unbound (.ofInstruction insn) _))
      · exact .ok (.resolved ⟨hartifact.methodOf hfound, rfl⟩)
  | _ => exact .ok (.resolved ⟨htextual, rfl⟩)

/-- The outcome of a `mapper` on a renamed artifact corresponds to the one on the original, if the
renaming `Fixes` all its tests. -/
theorem resolve_mapper_simulates (hartifact : artifact.Textual) {mapper : Mapper}
    (hfix : ∀ test ∈ mapper.predicate.tests, names.Fixes test)
    (h : table.Corresponds names.Renames names.FailureRenames table') :
    Simulates .alike (Outcome.Corresponds names.Renames names.FailureRenames)
      (mapper.resolve artifact table).result
      (mapper.resolve (names.artifact artifact) table').result := by
  -- the four steps of the mapper, each on renamed input
  refine mapper.resolveBy_simulates _ (candidates_simulates hartifact h _) ?_ ?_ ?_
  · exact fun entity entity' hentity => evaluate_simulates h hfix hentity
  · intro kept kept' hkept
    unfold Mapper.selectBy
    split
    · exact .ok (selectOnly_corresponds mapper hkept)
    · exact names.selectAt_simulates mapper _ hkept
    · exact .fault trivial
  · exact fun entity entity' hentity => bind_simulates hartifact mapper hentity

/-- A pass over an artifact that `names` renames ends with a table iff the pass over the original
artifact does, and then every mapper is bound to the renamed entity or has failed or been skipped in
the same way (`FailureRenames`). -/
theorem run_artifact (names : Renaming) {artifact : Artifact} {registry : Registry}
    (hartifact : artifact.Textual)
    (hfix : ∀ mapper ∈ registry.mappers, ∀ test ∈ mapper.predicate.tests, names.Fixes test) :
    ((∃ table, (Pass.run artifact registry).result = .ok table) ↔
      ∃ table', (Pass.run (names.artifact artifact) registry).result = .ok table') ∧
    ∀ table table', (Pass.run artifact registry).result = .ok table →
      (Pass.run (names.artifact artifact) registry).result = .ok table' →
      table.Corresponds names.Renames names.FailureRenames table' := by
  have h : Simulates .alike (Table.Corresponds names.Renames names.FailureRenames)
      (Pass.run artifact registry).result (Pass.run (names.artifact artifact) registry).result := by
    refine Pass.run_simulates ?_ rfl
    intro mapper hmem table table' htable
    exact resolve_mapper_simulates hartifact (hfix mapper hmem) htable
  refine ⟨h.isOk_iff, ?_⟩
  intro table table' hrun hrun'
  rw [hrun, hrun'] at h
  obtain ⟨_, heq, hcorresponds⟩ := h.exists_of_ok
  cases heq
  exact hcorresponds

section Example

/-- The class `b`, and the class `a` with a field and a method that refer to `b`. -/
def linked : Artifact where
  classes := [
    ⟨"a", .str "b", [], 0, [⟨"a", "f", "[Lb;", 0⟩],
      [⟨"a", "m", "(I)Lb;", 0,
        [⟨"a", "m", "(I)Lb;", 0, .number 180, .null, .null, ⟨.str "a", .str "f", .str "[Lb;"⟩,
          ⟨.null, .null, .null⟩, .null⟩]⟩]⟩,
    ⟨"b", .str "", [], 0, [⟨"b", "g", "I", 0⟩], []⟩]
  revision := "1"

/-- The only class with a number, under the name `"Number"`. -/
def numberMapper : Mapper :=
  .onlyClass "Number" (.hasInstanceField (.literal "I")) [] (by decide)

/-- The only subclass of the class `"Number"` that holds a row of these. -/
def rowMapper : Mapper :=
  .onlyClass "Row" (.conjunction (.extendsType (.mapped "Number" 0))
    [.hasInstanceField (.mapped "Number" 1)]) ["Number"] (by decide)

/-- The only method of the subclass `"Row"` that returns a number and reads a field of its class. -/
def readMapper : Mapper where
  name := "Row.read"
  strategy := .identity
  predicate := .conjunction (.returns (.mapped "Number" 0))
    [.containsInstruction (.fieldOwnerIs (.mapped "Row" 0))]
  scope := .inClass .instanceMethods "Row"
  dependencies := ["Number", "Row"]
  target := .toMethod
  parameters := none
  name_ne_empty := by decide
  allows_target := rfl
  ascending_dependencies := by
    simp only [Text.Ascending]
    decide
  owner_mem _ h := Option.some.inj h ▸ List.mem_cons_of_mem _ (List.mem_singleton_self _)
  target_of_parameters _ := rfl

/-- The mappers for a number, for a row, and for the method that reads a row. -/
def rows : Registry := ⟨[readMapper, rowMapper, numberMapper], by decide⟩

/-- The classes `a` and `b` and the fields `f` and `g` change their names with each other. -/
def swapped : Renaming where
  classes := {
    map := Equiv.swap "a" "b"
    map_empty := by decide
    map_of_mem := by
      intro name hmem
      apply Equiv.swap_apply_of_ne_of_ne
      · rintro rfl
        exact absurd hmem (by decide)
      · rintro rfl
        exact absurd hmem (by decide) }
  fields := Equiv.swap "f" "g"
  methods := Equiv.refl String
  typeOperand := id
  methods_constructor := rfl
  methods_initializer := rfl

/-- The pass over the two classes of `linked` binds the three mappers of `rows`, so the pass over
the artifact with the names exchanged (`swapped`) does, too. -/
theorem run_artifact_swapped :
    linked.Textual ∧
      (∀ mapper ∈ rows.mappers, ∀ test ∈ mapper.predicate.tests, swapped.Fixes test) ∧
      ∃ table table', (Pass.run linked rows).result = .ok table ∧ table.report.complete = true ∧
        (Pass.run (swapped.artifact linked) rows).result = .ok table' ∧
        table.Corresponds swapped.Renames swapped.FailureRenames table' := by
  have hartifact : linked.Textual := by
    intro decl hmem
    rcases List.mem_pair.1 hmem with rfl | rfl
    · refine ⟨⟨_, rfl⟩, ?_⟩
      intro method hmethod insn hinsn _
      obtain rfl := List.mem_singleton.1 hmethod
      obtain rfl := List.mem_singleton.1 hinsn
      exact ⟨_, rfl⟩
    · exact ⟨⟨_, rfl⟩, fun method hmethod => absurd hmethod List.not_mem_nil⟩
  have hfix : ∀ mapper ∈ rows.mappers, ∀ test ∈ mapper.predicate.tests, swapped.Fixes test := by
    decide +kernel
  have hcomplete : (Pass.run linked rows).result.map (·.report.complete) = .ok true := by
    decide +kernel
  refine ⟨hartifact, hfix, ?_⟩
  obtain ⟨hiff, hcorresponds⟩ := run_artifact swapped hartifact hfix
  cases hrun : (Pass.run linked rows).result with
  | error fault =>
    rw [hrun] at hcomplete
    cases hcomplete
  | ok table =>
    rw [hrun] at hcomplete
    obtain ⟨table', hrun'⟩ := hiff.1 ⟨table, hrun⟩
    exact ⟨table, table', rfl, Except.ok.inj hcomplete, hrun', hcorresponds table table' hrun hrun'⟩

end Example

end Renaming

end Reidentify

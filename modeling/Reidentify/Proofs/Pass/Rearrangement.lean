import Reidentify.Proofs.Artifact.Permutation
import Reidentify.Proofs.Pass.Outcomes
import Reidentify.Proofs.Pass.Simulation
import Reidentify.Proofs.Query.Congruence

/-!
# Passes over rearranged artifacts

The classes of an artifact may come in any order. A scope over all classes lists its candidates in
that order, but a mapper that selects the only candidate does not look at it; all other scopes list
members of one class. So if no mapper selects by position among all classes, a pass ends in the same
way, up to the order in which the candidates of an ambiguous failure are listed.

## Main definitions

* `Failure.Reordered`: two failures agree up to the order of their candidates.
* `Outcome.Alike`: two outcomes say the same about a mapper, up to that order.

## Main statements

* `Mapper.resolve_simulates_of_rearranges`: a mapper ends in the same way.
* `Pass.run_alike_of_perm`: so does a whole pass.
-/

namespace Reidentify

/-- Two failures agree, up to the order in which an `ambiguous` one lists its candidates. -/
inductive Failure.Reordered : Failure → Failure → Prop
  /-- The same failure on both sides. -/
  | refl (failure) : Reordered failure failure
  /-- The candidates of one are a permutation of those of the other. -/
  | ambiguous (scope predicate) {candidates candidates'} (h : candidates.Perm candidates') :
      Reordered (.ambiguous scope predicate candidates) (.ambiguous scope predicate candidates')

namespace Failure

variable {failure failure' : Failure}

/-- The candidates that a failure lists, which only an `ambiguous` or an `unbound` one has. -/
def candidates : Failure → List String
  | .ambiguous _ _ candidates => candidates
  | .unbound selected _ => [selected]
  | _ => []

namespace Reordered

/-- Failures that are `Reordered` are of the same kind. -/
theorem kind_eq (h : failure.Reordered failure') : failure'.kind = failure.kind := by
  cases h <;> rfl

/-- Failures that are `Reordered` list the same candidates, in any order. -/
theorem candidates_perm (h : failure.Reordered failure') :
    failure.candidates.Perm failure'.candidates := by
  cases h with
  | refl => exact .refl _
  | ambiguous _ _ h => exact h

/-- In a document, failures that are `Reordered` have the same `details` under every `key` other
than the one of the candidates. -/
theorem lookup_details_eq (h : failure.Reordered failure') {key : String}
    (hkey : key ≠ "candidates") : failure'.details.lookup key = failure.details.lookup key := by
  cases h with
  | refl => rfl
  | ambiguous scope predicate h =>
    -- what stands behind the candidates is not looked at under another key
    have hnone (texts : List String) : (textsMember "candidates" texts).lookup key = none := by
      unfold textsMember
      split
      · rfl
      · rw [List.lookup_cons, beq_eq_false_iff_ne.2 hkey]
        rfl
    simp only [details, List.lookup_append, hnone, h.length_eq]

end Reordered

end Failure

/-- Two outcomes say the same about a mapper, up to the order in which the candidates of an
ambiguous failure are listed. -/
structure Outcome.Alike (outcome outcome' : Outcome) : Prop where
  /-- They are about the mapper of one name. -/
  name_eq : outcome'.name = outcome.name
  /-- The mapper has ended with the same status. -/
  status_eq : outcome'.status = outcome.status
  /-- It is bound to the same entity, if to any. -/
  entity?_eq : outcome'.entity? = outcome.entity?
  /-- Its failure, if there is one, is of the same kind. -/
  kind_eq : outcome'.failure?.map Failure.kind = outcome.failure?.map Failure.kind
  /-- The number of candidates, the dependencies and everything else about the failure is the same:
  all `details` under keys other than `candidates`. -/
  details_eq : ∀ key ≠ "candidates",
    (outcome'.failure?.bind fun failure => failure.details.lookup key) =
      outcome.failure?.bind fun failure => failure.details.lookup key
  /-- The candidates that the failures list are a permutation of each other. -/
  candidates : Option.Rel List.Perm (outcome.failure?.map Failure.candidates)
    (outcome'.failure?.map Failure.candidates)

/-- Outcomes that correspond with equal entities and `Reordered` failures are `Alike`. -/
theorem Outcome.Corresponds.alike {outcome outcome' : Outcome}
    (h : outcome.Corresponds Eq Failure.Reordered outcome') : outcome.Alike outcome' := by
  obtain ⟨name, result⟩ := outcome
  obtain ⟨name', result'⟩ := outcome'
  obtain ⟨hname, hresult⟩ := h
  cases hresult with
  | resolved hentity => exact ⟨hname, rfl, congrArg some hentity.symm, rfl, fun _ _ => rfl, .none⟩
  | failed hfailure =>
    exact ⟨hname, rfl, rfl, congrArg some hfailure.kind_eq,
      fun key hkey => hfailure.lookup_details_eq hkey, .some hfailure.candidates_perm⟩
  | skipped dependencies => exact ⟨hname, rfl, rfl, rfl, fun _ _ => rfl, .some (.refl _)⟩

namespace Mapper

variable {artifact artifact' : Artifact}

/-- If the kept candidates are permuted, `selectOnly` selects the same one, or is refused with
`Reordered` failures. -/
theorem selectOnly_corresponds (mapper : Mapper) {kept kept' : List Entity}
    (h : kept.Perm kept') :
    Selection.Corresponds Eq Failure.Reordered (mapper.selectOnly kept)
      (mapper.selectOnly kept') := by
  -- only the number of candidates decides, and permuted lists have the same one
  match kept, kept' with
  | [], [] => exact .refused (.refl _)
  | [entity], [entity'] =>
    obtain rfl := List.singleton_perm_singleton.1 h
    exact .chosen rfl
  | _ :: _ :: _, _ :: _ :: _ => exact .refused (.ambiguous _ _ (h.map _))
  | [], _ :: _ | _ :: _, [] | [_], _ :: _ :: _ | _ :: _ :: _, [_] =>
    have hlength := h.length_eq
    simp at hlength

/-- Over a rearranged artifact a `selected` candidate is bound as the same entity: `fieldOf` and
`methodOf` look classes up by name. -/
theorem bind_eq_of_rearranges (h : artifact.Rearranges artifact') (mapper : Mapper)
    (selected : Entity) : mapper.bind artifact' selected = mapper.bind artifact selected := by
  unfold bind
  simp only [h.fieldOf_eq, h.methodOf_eq]

/-- Over a rearranged artifact a mapper ends in the same way, unless it selects by position in the
scope `allClasses`. -/
theorem resolve_simulates_of_rearranges (h : artifact.Rearranges artifact') {mapper : Mapper}
    (hidentity : mapper.scope = .allClasses → mapper.strategy = .identity) (table : Table) :
    Simulates .alike (Outcome.Corresponds Eq Failure.Reordered)
      (mapper.resolve artifact table).result (mapper.resolve artifact' table).result := by
  have hbind (entity entity' : Entity) (heq : entity = entity') :
      Simulates .alike (Result.Corresponds Eq Failure.Reordered) (mapper.bind artifact entity)
        (mapper.bind artifact' entity') := by
    rw [← heq, bind_eq_of_rearranges h]
    refine Simulates.refl fun result _ => ?_
    cases result with
    | resolved entity => exact .resolved rfl
    | failed failure => exact .failed (.refl failure)
    | skipped dependencies => exact .skipped dependencies
  by_cases hscope : mapper.scope = .allClasses
  · -- the candidates come in another order, and so do those that are kept
    refine mapper.resolveBy_simulates_of_steps _ (C := List.Perm) (K := List.Perm) ?_
      (fun _ _ hcandidates => Simulates.keep_perm hcandidates _) (fun kept kept' hkept => ?_) hbind
    · rw [hscope]
      exact .ok (h.perm.map _)
    · rw [hidentity hscope]
      exact .ok (mapper.selectOnly_corresponds hkept)
  · -- the candidates are members of one class, in the order of that class
    have hcandidates : mapper.scope.candidates artifact' table =
        mapper.scope.candidates artifact table := by
      cases hcases : mapper.scope with
      | allClasses => exact absurd hcases hscope
      | inClass part owner => rw [Scope.candidates_inClass, Scope.candidates_inClass]
      | inMethod owner => rw [Scope.candidates_inMethod, Scope.candidates_inMethod]
    refine mapper.resolveBy_simulates_of_steps _ (C := Eq) (K := Eq) ?_ ?_ ?_ hbind
    · rw [hcandidates]
      exact .refl fun _ _ => rfl
    · rintro candidates _ rfl
      exact .refl fun _ _ => rfl
    · rintro kept _ rfl
      refine .refl fun selection _ => ?_
      cases selection with
      | chosen entity => exact .chosen rfl
      | refused failure => exact .refused (.refl failure)

end Mapper

namespace Pass

variable {artifact artifact' : Artifact} {registry : Registry}

/-- The `registry` does not look at the order of the classes: all of its tests are those of the
library, and no mapper selects by position among all classes. -/
structure IgnoresClassOrder (registry : Registry) : Prop where
  /-- There are no tests of one's own, which could read anything. -/
  library : ∀ mapper ∈ registry.mappers, ∀ test ∈ mapper.predicate.tests, test.isLibrary = true
  /-- A mapper with the scope `allClasses` selects the only candidate. -/
  identity : ∀ mapper ∈ registry.mappers, mapper.scope = .allClasses →
    mapper.strategy = .identity

/-- If the registry `IgnoresClassOrder`, a pass over a rearranged artifact ends in the same way,
with equal entities and `Reordered` failures. -/
theorem run_simulates_of_rearranges (h : artifact.Rearranges artifact')
    (hregistry : IgnoresClassOrder registry) :
    Simulates .alike (Table.Corresponds Eq Failure.Reordered) (run artifact registry).result
      (run artifact' registry).result := by
  refine run_simulates (fun mapper hmem table table' htable => ?_) h.revision_eq
  -- the tables bind the same names to the same entities, and nothing else is read from them
  have hresolve (name : String) : table'.resolve name = table.resolve name := by
    have hboth : Simulates .same Eq (table.resolve name) (table'.resolve name) :=
      htable.resolve name
    exact hboth.eq.symm
  have hsame : (mapper.resolve artifact' table').result = (mapper.resolve artifact' table).result :=
    Mapper.resolve_congr artifact' (fun owner _ => hresolve owner) fun test htest entity =>
      Predicate.check_congr (hregistry.library mapper hmem test htest)
        (fun name _ => hresolve name) entity
  rw [hsame]
  exact Mapper.resolve_simulates_of_rearranges h (hregistry.identity mapper hmem) table

/-- The order of the `classes` of an artifact does not matter: a pass ends with a table for any
order or for none, and the outcomes of every mapper are `Alike`. -/
theorem run_alike_of_perm {document : Value} {classes : List ClassDecl}
    (hartifact : Artifact.ofValue document = .ok artifact)
    (hperm : artifact.classes.Perm classes) (hregistry : IgnoresClassOrder registry) :
    ((∃ table, (run artifact registry).result = .ok table) ↔
      ∃ table', (run ⟨classes, artifact.revision⟩ registry).result = .ok table') ∧
    ∀ table table', (run artifact registry).result = .ok table →
      (run ⟨classes, artifact.revision⟩ registry).result = .ok table' →
      table'.order = table.order ∧ table'.revision = table.revision ∧
      ∀ mapper ∈ registry.mappers, ∃ outcome outcome',
        table.outcome? mapper.name = some outcome ∧
        table'.outcome? mapper.name = some outcome' ∧ outcome.Alike outcome' := by
  have hrearranges : artifact.Rearranges ⟨classes, artifact.revision⟩ :=
    ⟨Artifact.nodup_names_of_ofValue hartifact, hperm, rfl⟩
  have hsimulates := run_simulates_of_rearranges hrearranges hregistry
  refine ⟨hsimulates.isOk_iff, fun table table' hrun hrun' => ?_⟩
  rw [hrun, hrun'] at hsimulates
  obtain ⟨_, heq, htable⟩ := hsimulates.exists_of_ok
  cases heq
  refine ⟨htable.order_eq, htable.revision_eq, fun mapper hmem => ?_⟩
  rcases htable.outcome? mapper.name with ⟨hnone, -⟩ | ⟨outcome, outcome', hsome, hsome', hboth⟩
  · have hrecorded := (mem_recorded_iff hrun).2 (List.mem_map_of_mem hmem)
    exact absurd hrecorded (Table.outcome?_eq_none_iff.1 hnone)
  · exact ⟨outcome, outcome', hsome, hsome', hboth.alike⟩

section Example

/-- Two classes `a` and `b` with a number, and a subclass `c` of the first one whose constructor
reads the number that it inherits. -/
def inheriting : Artifact where
  classes := [
    ⟨"a", .str "java/lang/Object", [], 1, [⟨"a", "f", "I", 0⟩], []⟩,
    ⟨"b", .str "java/lang/Object", [], 1, [⟨"b", "g", "I", 0⟩], []⟩,
    ⟨"c", .str "a", [], 1, [⟨"c", "h", "J", 0⟩],
      [⟨"c", "<init>", "()V", 1,
        [⟨"c", "<init>", "()V", 0, .number ⟨180, by decide⟩, .null, .null,
          ⟨.str "c", .str "f", .str "I"⟩, ⟨.null, .null, .null⟩, .null⟩]⟩]⟩]
  revision := "1"

/-- Mappers for the class with a number, which is not the only one, for the subclass, and for the
field that its constructor reads. -/
def inheritance : Registry where
  mappers := [
    .onlyClass "Bearer" (.hasInstanceField (.literal "I")) [] (by decide),
    .onlyClass "Heir" (.hasInstanceField (.literal "J")) [] (by decide),
    { name := "Heir.number"
      strategy := .order ⟨0, none, Position.pos_of_none⟩
      predicate := .fieldAccess none
      scope := .inClass .constructorInstructions "Heir"
      dependencies := ["Heir"]
      target := .toField
      parameters := none
      name_ne_empty := by decide
      allows_target := rfl
      ascending_dependencies := List.pairwise_singleton ..
      owner_mem := fun _ h => Option.some.inj h ▸ List.mem_singleton_self _
      target_of_parameters := fun h => nomatch h }]
  nodup_names := by decide

/-- With the classes of `inheriting` the other way round the same field is found along the
superclasses, and the two candidates of the ambiguous mapper `Bearer` change places. -/
theorem run_alike_of_perm_inheriting :
    Artifact.ofValue inheriting.toValue = .ok inheriting ∧
      inheriting.classes.Perm inheriting.classes.reverse ∧ IgnoresClassOrder inheritance ∧
      (run inheriting inheritance).result.map (·.report.outcomes.map Outcome.describe) = .ok
        ["Bearer [failed] ambiguous_match: Bearer: 2 candidates in all classes match: a, b",
          "Heir → c", "Heir.number → a.f:I"] ∧
      (run ⟨inheriting.classes.reverse, "1"⟩ inheritance).result.map
          (·.report.outcomes.map Outcome.describe) = .ok
        ["Bearer [failed] ambiguous_match: Bearer: 2 candidates in all classes match: b, a",
          "Heir → c", "Heir.number → a.f:I"] ∧
      ∀ table table', (run inheriting inheritance).result = .ok table →
        (run ⟨inheriting.classes.reverse, "1"⟩ inheritance).result = .ok table' →
        ∀ mapper ∈ inheritance.mappers, ∃ outcome outcome',
          table.outcome? mapper.name = some outcome ∧
          table'.outcome? mapper.name = some outcome' ∧ outcome.Alike outcome' := by
  have hartifact : Artifact.ofValue inheriting.toValue = .ok inheriting := by decide +kernel
  have hperm := (List.reverse_perm inheriting.classes).symm
  have hregistry : IgnoresClassOrder inheritance := by
    constructor <;> decide +kernel
  have halike := (run_alike_of_perm hartifact hperm hregistry).2
  refine ⟨hartifact, hperm, hregistry, ?_, ?_, fun table table' hrun hrun' => ?_⟩
  · decide +kernel
  · decide +kernel
  · exact (halike table table' hrun hrun').2.2

end Example

end Pass

end Reidentify

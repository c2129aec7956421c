import Reidentify.Proofs.Pass.Considered
import Reidentify.Proofs.Pass.Soundness
import Reidentify.Proofs.Schedule.Survey

/-!
# Diagnosis of circles

A registry is judged before a pass evaluates anything. If it is not valid, the pass ends with the
fault of the validation; if it is valid and its mappers depend on each other in circles, the pass
ends with the members of all circles. Neither fault ever comes from the evaluation of a mapper,
unless a test of one's own chooses to end with it.

## Main definitions

* `Event.IsEvaluation`: a predicate is evaluated on some entity.
* `Fault.IsVerdict`: the faults for registries that are refused.
* `Pass.NamesCircles`: what the schedule of a registry says about circles.
* `Pass.Untouched`: nothing is evaluated in a pass.
* `Pass.JudgesFirst`: what passes over refused registries keep to.

## Main statements

* `Pass.diagnoses_circles`: the circles of a valid registry are named exactly, and refused
  registries are refused first.
-/

namespace Reidentify

variable {artifact : Artifact} {table : Table} {fault : Fault}

/-- A predicate is evaluated on some entity: a candidate is `considered`, or a part of a predicate
is `tried`. -/
def Event.IsEvaluation (event : Event) : Prop :=
  (∃ mapper candidate, event = .considered mapper candidate) ∨ event.IsTrial

/-- The faults for registries that are refused before anything is evaluated: they are not valid, or
they have circles. -/
inductive Fault.IsVerdict : Fault → Prop
  /-- The registry is not valid, for the `cause` that `validate` has found. -/
  | invalid (cause : RegistryFault) : IsVerdict (.registry cause)
  /-- There are circles, with all the `members` of them. -/
  | cyclic (members : List String) : IsVerdict (.cycle members)

/-- A registry that does not pass `validate` is refused with a `Fault.registry`. -/
theorem Registry.exists_cause_of_validate {registry : Registry}
    (h : registry.validate = .error fault) : ∃ cause, fault = .registry cause := by
  unfold validate at h
  split at h
  · cases h
    exact ⟨_, rfl⟩
  · split at h
    · cases h
      exact ⟨_, rfl⟩
    · cases h

/-- A scope whose owner is not there, or of the wrong kind, says nothing about the registry: no
fault of `candidates` is a verdict. -/
theorem Scope.not_isVerdict_of_candidates {scope : Scope} :
    FaultsAmong (¬·.IsVerdict) (scope.candidates artifact table) := by
  have howner (owner : String) : FaultsAmong (¬·.IsVerdict) (table.resolve owner) := by
    intro fault h
    obtain ⟨state, rfl⟩ := Table.exists_state_of_resolve h
    exact fun hverdict => nomatch hverdict
  cases scope with
  | allClasses => exact .ok _
  | inClass part owner =>
    rw [candidates_inClass]
    refine (howner owner).bind fun bound => ?_
    cases bound with
    | ofClass decl => exact .ok _
    | _ => exact .error fun hverdict => nomatch hverdict
  | inMethod owner =>
    rw [candidates_inMethod]
    refine (howner owner).bind fun bound => ?_
    cases bound with
    | ofMethod method => exact .ok _
    | _ => exact .error fun hverdict => nomatch hverdict

/-- The faults with which tests of the library end (`LibraryFault`) say nothing about the registry.
-/
theorem Predicate.LibraryFault.not_isVerdict (h : LibraryFault table fault) :
    ¬fault.IsVerdict := by
  intro hverdict
  cases h <;> cases hverdict

/-- If `resolve` ends with a verdict, that comes from a test of one's own, i.e.
`test.isLibrary = false`. -/
theorem Mapper.exists_own_test_of_isVerdict {mapper : Mapper}
    (h : (mapper.resolve artifact table).result = .error fault) (hverdict : fault.IsVerdict) :
    ∃ test ∈ mapper.predicate.tests, test.isLibrary = false ∧
      ∃ entity, test.check entity table = .error fault := by
  rcases fault_cases_of_resolve h with hcandidates | rfl | rfl | htest
  · exact absurd hverdict (Scope.not_isVerdict_of_candidates fault hcandidates)
  · cases hverdict
  · cases hverdict
  · exact htest.exists_own fun hlibrary => hlibrary.not_isVerdict hverdict

namespace Pass

variable {registry : Registry}

/-- A registry that is `Unplanned` has no schedule with waves to run through. -/
theorem Unplanned.not_exists_waves (h : Unplanned registry fault) {schedule : Schedule}
    {waves : List (List String)} (hschedule : (Schedule.ofRegistry registry).result = .ok schedule)
    (hwaves : schedule.waves = .ok waves) : False := by
  rw [result_ofRegistry] at hschedule
  obtain ⟨_, hvalid, heq⟩ := Except.bind_eq_ok_iff.1 hschedule
  cases heq
  cases h with
  | invalid hinvalid =>
    rw [hvalid] at hinvalid
    cases hinvalid
  | cyclic _ hmembers =>
    rw [Schedule.waves, Schedule.checkAcyclic, hmembers] at hwaves
    cases hwaves

/-- A pass ends with a verdict only if its registry is `Unplanned` for this fault, or through a test
of one's own. -/
theorem unplanned_or_own_test (h : (run artifact registry).result = .error fault)
    (hverdict : fault.IsVerdict) :
    Unplanned registry fault ∨ ∃ mapper ∈ registry.mappers, ∃ test ∈ mapper.predicate.tests,
      test.isLibrary = false ∧ ∃ entity table, test.check entity table = .error fault := by
  rcases exists_plan_or_unplanned registry with ⟨waves, hplan⟩ | ⟨reason, hunplanned⟩
  · right
    obtain ⟨mapper, table, hevaluates, hresolve⟩ := exists_evaluates_of_error hplan h
    obtain ⟨test, htest, hown, entity, hcheck⟩ :=
      Mapper.exists_own_test_of_isVerdict hresolve hverdict
    exact ⟨mapper, hevaluates.mem_mappers, test, htest, hown, entity, table, hcheck⟩
  · left
    rw [hunplanned.result_run] at h
    cases h
    exact hunplanned

/-- What the `schedule` of a registry says about circles, and that a graph library says the same. -/
structure NamesCircles (registry : Registry) (schedule : Schedule) : Prop where
  /-- The `cycleMembers` are in ascending order, each of them once. -/
  ascending : Text.Ascending schedule.cycleMembers
  /-- The `cycleMembers` are the names that depend on themselves by `DependsOn`, directly or through
  others. -/
  mem_iff : ∀ name, name ∈ schedule.cycleMembers ↔
    Relation.TransGen registry.DependsOn name name
  /-- The `owner` of the scope of a mapper is one of its dependencies, so circles through scopes
  count, too. -/
  owner : ∀ mapper ∈ registry.mappers, ∀ owner, mapper.scope.owner? = some owner →
    registry.DependsOn mapper.name owner
  /-- The check refuses the schedule iff there are such names, and its fault `cycle` has all of
  them. -/
  checkAcyclic_iff : ∀ fault, schedule.checkAcyclic = .error fault ↔
    schedule.cycleMembers ≠ [] ∧ fault = .cycle schedule.cycleMembers
  /-- The schedule has no waves iff it is refused by `checkAcyclic`, with the same fault. -/
  waves_iff : ∀ fault, schedule.waves = .error fault ↔
    schedule.cycleMembers ≠ [] ∧ fault = .cycle schedule.cycleMembers
  /-- Any `Accurate` survey of the graph leads to the same names, verdicts and waves. -/
  survey : ∀ survey : Schedule.Survey, survey.Accurate schedule →
    survey.cycleMembers schedule = schedule.cycleMembers ∧
      survey.checkAcyclic schedule = schedule.checkAcyclic ∧
      survey.waves schedule = schedule.waves

/-- No predicate is evaluated on any entity in a pass: none of its events `IsEvaluation`. -/
def Untouched (artifact : Artifact) (registry : Registry) : Prop :=
  ∀ event ∈ (run artifact registry).events, ¬event.IsEvaluation

/-- A pass over a registry that is `Unplanned` does nothing but write to the log. -/
theorem Unplanned.untouched (h : Unplanned registry fault) (artifact : Artifact) :
    Untouched artifact registry := by
  -- an event comes from making the schedule, which only logs, or from the waves, which do not exist
  intro event hevent
  rw [run, Trail.mem_events_andThen] at hevent
  rcases hevent with hschedule | ⟨schedule, hschedule, hrest⟩
  · simp only [Schedule.ofRegistry, Trail.mem_events_andThen, Trail.events_lift, Trail.events_log,
      Trail.events_done, List.not_mem_nil, List.mem_singleton, and_false, exists_false, or_false,
      false_or] at hschedule
    obtain ⟨_, -, rfl⟩ := hschedule
    rintro (⟨_, _, hnone⟩ | ⟨_, _, hnone⟩) <;> cases hnone
  · rw [Trail.mem_events_andThen, Trail.events_lift] at hrest
    rcases hrest with hnone | ⟨waves, hwaves, -⟩
    · cases hnone
    · exact (h.not_exists_waves hschedule hwaves).elim

/-- A registry is judged before anything is evaluated, and a verdict comes from that judgement or
from a test of one's own. -/
structure JudgesFirst (artifact : Artifact) (registry : Registry) : Prop where
  /-- A registry that does not pass `validate` ends the pass with that fault, and nothing has been
  evaluated. -/
  invalid : ∀ fault, registry.validate = .error fault →
    (run artifact registry).result = .error fault ∧ fault.IsVerdict ∧ Untouched artifact registry
  /-- Circles in a valid registry end the pass with their `cycleMembers`, and nothing has been
  evaluated. -/
  cyclic : registry.validate = .ok () →
    (Schedule.ofMappers registry.mappers).cycleMembers ≠ [] →
      (run artifact registry).result =
        .error (.cycle (Schedule.ofMappers registry.mappers).cycleMembers) ∧
          Untouched artifact registry
  /-- A pass ends with a fault that `IsVerdict` for no other reason, unless a test of one's own
  chooses it. -/
  source : ∀ fault, (run artifact registry).result = .error fault → fault.IsVerdict →
    registry.validate = .error fault ∨
      (registry.validate = .ok () ∧
        (Schedule.ofMappers registry.mappers).checkAcyclic = .error fault) ∨
      ∃ mapper ∈ registry.mappers, ∃ test ∈ mapper.predicate.tests,
        test.isLibrary = false ∧ ∃ entity table, test.check entity table = .error fault

/-- The schedule of a registry that passes `validate` is one that `NamesCircles`. -/
theorem namesCircles_of_validate (hvalid : registry.validate = .ok ()) :
    NamesCircles registry (Schedule.ofMappers registry.mappers) := by
  have hnodup := nodup_tasks registry
  have hclosed := closed_ofMappers hvalid
  refine {
    ascending := Text.ascending_sortedNames _
    mem_iff := fun name => (Schedule.mem_cycleMembers_iff hnodup).trans transGen_steps_iff
    owner := fun mapper hmem owner howner => ⟨mapper, hmem, rfl, mapper.owner_mem owner howner⟩
    checkAcyclic_iff := fun _ => Schedule.checkAcyclic_eq_error_iff
    waves_iff := fun _ => Schedule.waves_eq_error_iff
    survey := fun survey haccurate => ?_ }
  exact ⟨haccurate.cycleMembers_eq hnodup hclosed, haccurate.checkAcyclic_eq hnodup hclosed,
    haccurate.waves_eq hnodup hclosed⟩

/-- The circles of a valid registry are named exactly (`NamesCircles`), and refused registries,
whether or not they are valid, are refused before anything is evaluated (`JudgesFirst`). -/
theorem diagnoses_circles (artifact : Artifact) (registry : Registry) :
    (registry.validate = .ok () → ∃ schedule,
      (Schedule.ofRegistry registry).result = .ok schedule ∧ NamesCircles registry schedule) ∧
      JudgesFirst artifact registry := by
  refine ⟨fun hvalid => ?_, ?_⟩
  · refine ⟨Schedule.ofMappers registry.mappers, ?_, namesCircles_of_validate hvalid⟩
    rw [result_ofRegistry, hvalid, Except.ok_bind]
  · refine {
      invalid := fun fault hinvalid => ?_
      cyclic := fun hvalid hmembers => ?_
      source := fun fault hrun hverdict => ?_ }
    · obtain ⟨cause, rfl⟩ := Registry.exists_cause_of_validate hinvalid
      have hunplanned := Unplanned.invalid hinvalid
      exact ⟨hunplanned.result_run artifact, .invalid cause, hunplanned.untouched artifact⟩
    · cases hlist : (Schedule.ofMappers registry.mappers).cycleMembers with
      | nil => exact absurd hlist hmembers
      | cons name rest =>
        have hunplanned := Unplanned.cyclic hvalid hlist
        exact ⟨hunplanned.result_run artifact, hunplanned.untouched artifact⟩
    · rcases unplanned_or_own_test hrun hverdict with hunplanned | hown
      · cases hunplanned with
        | invalid hinvalid => exact .inl hinvalid
        | cyclic hvalid hlist =>
          refine .inr (.inl ⟨hvalid, ?_⟩)
          rw [Schedule.checkAcyclic, hlist]
      · exact .inr (.inr hown)

section Example

/-- Two mappers `Left` and `Right` that depend on each other, one on itself, one on a member of a
circle, and one on nothing. -/
def circling : Registry where
  mappers := [
    .onlyClass "Left" (.hasInstanceField (.literal "I")) ["Right"] (by decide),
    .onlyClass "Loop" (.hasInstanceField (.literal "I")) ["Loop", "Alone"] (by decide),
    .onlyClass "Beyond" (.hasInstanceField (.literal "I")) ["Left"] (by decide),
    .onlyClass "Alone" (.hasInstanceField (.literal "I")) [] (by decide),
    .onlyClass "Right" (.hasInstanceField (.literal "I")) ["Left"] (by decide)]
  nodup_names := by decide

/-- What a graph library says about the schedule of `circling`: `Left` and `Right` are one
component, all others stand alone. -/
def circlingSurvey : Schedule.Survey where
  components := [["Alone"], ["Left", "Right"], ["Loop"], ["Beyond"]]
  acyclic := false
  generations := []

/-- The survey `circlingSurvey` is right about the schedule of `circling`, as `Accurate` asks. -/
theorem accurate_circlingSurvey :
    circlingSurvey.Accurate (Schedule.ofMappers circling.mappers) where
  perm := by decide +kernel
  strong := by
    simp only [← Schedule.mem_reachable_prerequisites_iff]
    decide +kernel
  acyclic_iff := by
    refine iff_of_false (fun h => Bool.noConfusion h) fun hnone => hnone "Loop" ?_
    rw [← Schedule.mem_reachable_prerequisites_iff]
    decide +kernel
  peels h := Bool.noConfusion h

/-- In the registry `circling` the mapper `Beyond` behind a circle is not named among its members,
and nothing is evaluated. -/
theorem diagnoses_circles_circling :
    circling.validate = .ok () ∧
      circlingSurvey.cycleMembers (Schedule.ofMappers circling.mappers) =
        ["Left", "Loop", "Right"] ∧
      (run .numbered circling).result = .error (.cycle ["Left", "Loop", "Right"]) ∧
      Untouched .numbered circling ∧ Relation.TransGen circling.DependsOn "Right" "Right" ∧
      ¬Relation.TransGen circling.DependsOn "Beyond" "Beyond" := by
  have hvalid : circling.validate = .ok () := by decide +kernel
  have hmembers : (Schedule.ofMappers circling.mappers).cycleMembers =
      ["Left", "Loop", "Right"] := by
    decide +kernel
  obtain ⟨hcircles, hjudges⟩ := diagnoses_circles .numbered circling
  obtain ⟨schedule, hschedule, hnames⟩ := hcircles hvalid
  have hrun := hjudges.cyclic hvalid
  rw [result_ofRegistry, hvalid, Except.ok_bind] at hschedule
  cases hschedule
  have hiff := hnames.mem_iff
  rw [hmembers] at hrun hiff
  refine ⟨hvalid, ?_, (hrun (List.cons_ne_nil _ _)).1, (hrun (List.cons_ne_nil _ _)).2,
    (hiff "Right").1 (by decide),
    fun hcircle => absurd ((hiff "Beyond").2 hcircle) (by decide)⟩
  rw [(hnames.survey circlingSurvey accurate_circlingSurvey).1, hmembers]

end Example

end Pass

end Reidentify

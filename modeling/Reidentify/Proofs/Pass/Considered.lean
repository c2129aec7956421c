import Reidentify.Proofs.Pass.Evaluation
import Reidentify.Proofs.Query.Evaluation
import Reidentify.Proofs.Trail.Events

/-!
# Considered candidates

Before the predicate of a mapper is evaluated on a candidate, the candidate is considered for the
mapper. This module says which candidates a pass considers: those of the scopes of the mappers that
it evaluates, and no others.

## Main definitions

* `Event.IsTrial`: an event of trying a part of a predicate.

## Main statements

* `Mapper.mem_candidates_of_considered`: a mapper considers candidates of its scope only.
* `Pass.exists_evaluates_of_considered`: a pass considers candidates of evaluated mappers only.
* `Pass.Evaluates.considered`: a pass that ends with a table considers all of them.
-/

namespace Reidentify

variable {artifact : Artifact} {table : Table} {entity candidate : Entity} {name : String}

/-- The event of trying a part of a predicate on some entity, as opposed to considering a candidate.
-/
def Event.IsTrial (event : Event) : Prop :=
  ∃ leaf tested, event = .tried leaf tested

namespace Predicate

/-- Evaluating a predicate that is a single test leaves one event, that it has been `tried`. -/
theorem events_evaluate_of_isTest {predicate : Predicate} (h : predicate.isTest = true)
    (table : Table) (entity : Entity) :
    (predicate.evaluate table entity).events = [.tried predicate entity] := by
  cases predicate with
  | containsInstruction => cases h
  | lacksInstruction => cases h
  | conjunction => cases h
  | _ => rfl

/-- Looking for an instruction of a method leaves no other events than `part` does on the
instructions. -/
theorem isTrial_of_instructions {event : Event} {part : Entity → Trail Event Bool}
    (hpart : ∀ insn, event ∈ (part (.ofInstruction insn)).events → event.IsTrial)
    (h : event ∈ ((Trail.lift entity.needMethod).andThen fun method =>
      Trail.exists? method.instructions fun insn => part (.ofInstruction insn)).events) :
    event.IsTrial := by
  rw [Trail.mem_events_andThen, Trail.events_lift] at h
  rcases h with hnone | ⟨method, -, hbody⟩
  · cases hnone
  · obtain ⟨insn, -, hinsn⟩ := Trail.exists_of_mem_events_exists? hbody
    exact hpart insn hinsn

mutual

/-- Every event of evaluating a `predicate` is that of trying a part of it, i.e. `IsTrial`. -/
theorem isTrial_of_evaluate (predicate : Predicate) (entity : Entity) (event : Event)
    (h : event ∈ (predicate.evaluate table entity).events) : event.IsTrial := by
  match predicate with
  | .containsInstruction part =>
    rw [evaluate, Trail.mem_events_andThen, Trail.events_emit, List.mem_singleton] at h
    rcases h with rfl | ⟨_, -, h⟩
    · exact ⟨_, _, rfl⟩
    · exact isTrial_of_instructions (fun insn => isTrial_of_evaluate part _ event) h
  | .lacksInstruction part =>
    rw [evaluate, Trail.mem_events_andThen, Trail.events_emit, List.mem_singleton] at h
    rcases h with rfl | ⟨_, -, h⟩
    · exact ⟨_, _, rfl⟩
    · -- turning the answer around leaves no event
      simp only [Trail.mem_events_andThen, Trail.events_done, List.not_mem_nil, and_false,
        exists_false, or_false] at h
      exact isTrial_of_instructions (fun insn => isTrial_of_evaluate part _ event)
        (Trail.mem_events_andThen.2 h)
  | .conjunction first rest =>
    rw [evaluate, Trail.mem_events_andThen] at h
    rcases h with hfirst | ⟨holds, -, hrest⟩
    · exact isTrial_of_evaluate first entity event hfirst
    · cases holds with
      | false => cases hrest
      | true => exact isTrial_of_evaluateAll rest entity event hrest
  | .extendsType _ | .implementsType _ | .instanceFieldCount .. | .hasInstanceField _
  | .selfLinks _ | .ofType _ | .returns _ | .argumentsStartWith _ | .argumentCount _
  | .opcodeIs _ | .pushesInt _ | .fieldAccess _ | .fieldWrite _ | .fieldOwnerIs _ | .test .. =>
    rw [events_evaluate_of_isTest rfl, List.mem_singleton] at h
    exact ⟨_, _, h⟩

/-- Every event of evaluating several `predicates` is that of trying a part of one of them. -/
theorem isTrial_of_evaluateAll (predicates : List Predicate) (entity : Entity) (event : Event)
    (h : event ∈ (evaluateAll table predicates entity).events) : event.IsTrial := by
  match predicates with
  | [] => cases h
  | predicate :: rest =>
    rw [evaluateAll, Trail.mem_events_andThen] at h
    rcases h with hfirst | ⟨holds, -, hrest⟩
    · exact isTrial_of_evaluate predicate entity event hfirst
    · cases holds with
      | false => cases hrest
      | true => exact isTrial_of_evaluateAll rest entity event hrest

end

end Predicate

namespace Mapper

variable {mapper : Mapper}

/-- A `candidate` that a mapper has `considered` is one of the `candidates` of its scope, and is
considered under the name of the mapper. -/
theorem mem_candidates_of_considered
    (h : .considered name candidate ∈ (mapper.resolve artifact table).events) :
    name = mapper.name ∧ ∃ candidates, mapper.scope.candidates artifact table = .ok candidates ∧
      candidate ∈ candidates := by
  unfold resolve resolveBy at h
  rw [Trail.mem_events_andThen, Trail.events_lift] at h
  rcases h with hnone | ⟨candidates, hcandidates, h⟩
  · cases hnone
  rw [Trail.mem_events_andThen] at h
  rcases h with hmatching | ⟨kept, -, h⟩
  · obtain ⟨item, hitem, hevent⟩ := Trail.exists_of_mem_events_keep hmatching
    rw [Trail.mem_events_andThen, Trail.events_emit, List.mem_singleton] at hevent
    rcases hevent with heq | ⟨_, -, htried⟩
    · cases heq
      exact ⟨rfl, candidates, hcandidates, hitem⟩
    · -- the evaluation of the predicate considers nothing
      obtain ⟨_, _, hnone⟩ := Predicate.isTrial_of_evaluate _ _ _ htried
      cases hnone
  · -- nothing is considered any more when the candidates have been sifted
    rw [Trail.mem_events_andThen, Trail.events_lift] at h
    rcases h with hnone | ⟨selection, -, h⟩
    · cases hnone
    · cases selection with
      | refused failure => cases h
      | chosen selected =>
        rw [Trail.mem_events_andThen, Trail.events_lift] at h
        rcases h with hnone | ⟨result, -, hnone⟩ <;> cases hnone

/-- A mapper whose `resolve` has an outcome has `considered` all `candidates` of its scope. -/
theorem considered_of_resolve {outcome : Outcome} {candidates : List Entity}
    (hresolve : (mapper.resolve artifact table).result = .ok outcome)
    (hcandidates : mapper.scope.candidates artifact table = .ok candidates)
    (hmem : candidate ∈ candidates) :
    .considered mapper.name candidate ∈ (mapper.resolve artifact table).events := by
  obtain ⟨others, kept, _, hothers, hkept, -, -⟩ := exists_of_resolve hresolve
  rw [hcandidates] at hothers
  cases hothers
  unfold resolve resolveBy
  rw [Trail.mem_events_andThen]
  refine .inr ⟨candidates, hcandidates, ?_⟩
  rw [Trail.mem_events_andThen]
  refine .inl (Trail.mem_events_keep hkept hmem ?_)
  rw [Trail.mem_events_andThen, Trail.events_emit]
  exact .inl (List.mem_singleton_self _)

end Mapper

namespace Pass

variable {registry : Registry} {final : Table} {mapper : Mapper} {wave : List Mapper}

/-- Logging an outcome considers nothing, so `evaluate` considers what `resolve` does. -/
theorem considered_mem_events_evaluate_iff :
    .considered name candidate ∈ (evaluate artifact table mapper).events ↔
      .considered name candidate ∈ (mapper.resolve artifact table).events := by
  unfold evaluate
  simp only [Trail.mem_events_andThen, Trail.events_done, List.not_mem_nil, and_false,
    exists_false, or_false, or_iff_left_iff_imp]
  rintro ⟨outcome, -, hline⟩
  split at hline <;> cases List.mem_singleton.1 hline

/-- Admitting a mapper to a wave by `enlist` considers no candidate of any mapper. -/
theorem considered_not_mem_events_enlist (state : Table × List Mapper) (listed : String) :
    .considered name candidate ∉ (enlist registry state listed).events := by
  obtain ⟨table, runnable⟩ := state
  unfold enlist
  intro h
  rw [Trail.mem_events_andThen, Trail.events_lift] at h
  rcases h with hnone | ⟨mapper, -, h⟩
  · cases hnone
  · cases hblockers : blockers table mapper with
    | nil =>
      rw [hblockers] at h
      cases h
    | cons first others =>
      simp only [hblockers] at h
      rw [Trail.mem_events_andThen, Trail.events_log, List.mem_singleton] at h
      rcases h with hnone | ⟨_, -, h⟩
      · cases hnone
      · rw [Trail.mem_events_andThen, Trail.events_lift] at h
        rcases h with hnone | ⟨_, -, hnone⟩ <;> cases hnone

/-- A wave considers only candidates of its `runnable` mappers, each of them over
`afterSkips table wave`. -/
theorem exists_runnable_of_considered (hregistered : ∀ mapper ∈ wave, mapper ∈ registry.mappers)
    (hadmits : table.Admits (wave.map (·.name)))
    (h : .considered name candidate ∈
      (runWave artifact registry table (wave.map (·.name))).events) :
    ∃ mapper ∈ runnable table wave,
      .considered name candidate ∈ (mapper.resolve artifact (afterSkips table wave)).events := by
  unfold runWave at h
  rw [Trail.mem_events_andThen] at h
  rcases h with hadmission | ⟨state, hstate, h⟩
  · obtain ⟨_, _, _, state, -, -, hevent⟩ := Trail.mem_events_foldEach.1 hadmission
    exact absurd hevent (considered_not_mem_events_enlist state _)
  · rw [foldEach_enlist hregistered hadmits, List.nil_append] at hstate
    cases hstate
    rw [Trail.mem_events_andThen] at h
    rcases h with hevaluation | ⟨outcomes, -, hnone⟩
    · obtain ⟨mapper, hmem, hevent⟩ := Trail.exists_of_mem_events_forEach hevaluation
      exact ⟨mapper, hmem, considered_mem_events_evaluate_iff.1 hevent⟩
    · cases hnone

/-- A wave that goes through considers everything that its `runnable` mappers do. -/
theorem considered_of_settleWave (hregistered : ∀ mapper ∈ wave, mapper ∈ registry.mappers)
    (hadmits : table.Admits (wave.map (·.name)))
    (hsettle : settleWave artifact table wave = .ok final) (hmem : mapper ∈ runnable table wave)
    (h : .considered name candidate ∈
      (mapper.resolve artifact (afterSkips table wave)).events) :
    .considered name candidate ∈
      (runWave artifact registry table (wave.map (·.name))).events := by
  obtain ⟨outcomes, houtcomes, -⟩ := Except.bind_eq_ok_iff.1 hsettle
  -- the wave gets as far as its evaluations, and each of them goes through
  unfold runWave
  rw [Trail.mem_events_andThen]
  refine .inr ⟨_, foldEach_enlist hregistered hadmits [], ?_⟩
  rw [List.nil_append, Trail.mem_events_andThen]
  exact .inl (Trail.mem_events_forEach houtcomes hmem (considered_mem_events_evaluate_iff.2 h))

section Run

variable {waves : List (List Mapper)}

/-- What a pass with a plan considers is considered in one of its `waves`: making the schedule
considers nothing. -/
theorem considered_mem_events_run_iff (hplan : IsPlan registry waves) :
    .considered name candidate ∈ (run artifact registry).events ↔
      .considered name candidate ∈ (Trail.foldEach (waves.map (·.map (·.name)))
        (start artifact registry) (runWave artifact registry)).events := by
  have hvalid := hplan.valid
  have hnames := hplan.names_eq
  unfold run Schedule.ofRegistry
  simp only [Trail.mem_events_andThen, Trail.result_andThen, Trail.result_lift, Trail.result_log,
    Trail.result_done, Trail.events_lift, Trail.events_log, Trail.events_done, List.not_mem_nil,
    List.mem_singleton, reduceCtorEq, false_or, or_false, and_false, exists_false, hvalid, hnames,
    Except.ok_bind, Except.ok.injEq, exists_eq_left', start, true_and, exists_const]

/-- The waves `before` the others of a plan lead to a table `earlier` by `runWave` iff they do by
`settleWaves`. -/
theorem foldEach_runWave_eq_ok_iff {before after : List (List Mapper)}
    (hplan : IsPlan registry (before ++ after)) {earlier : Table} :
    (Trail.foldEach (before.map (·.map (·.name))) (start artifact registry)
        (runWave artifact registry)).result = .ok earlier ↔
      settleWaves artifact (start artifact registry) before = .ok earlier := by
  have hperm := hplan.isOrder.perm
  rw [List.flatten_append] at hperm
  rw [result_foldEach_runWave]
  · intro mapper hmem
    exact hperm.mem_iff.1 (List.mem_append_left _ hmem)
  · have hadmits := (admits_start artifact registry).perm (hperm.map Mapper.name).symm
    rw [List.map_append] at hadmits
    exact hadmits.sublist (List.sublist_append_left ..)

/-- A pass with a plan considers candidates only for mappers that it evaluates, in the scope of
these. -/
theorem exists_evaluates_of_considered (hplan : IsPlan registry waves)
    (h : .considered name candidate ∈ (run artifact registry).events) :
    ∃ mapper table candidates, Evaluates artifact registry mapper table ∧ mapper.name = name ∧
      mapper.scope.candidates artifact table = .ok candidates ∧ candidate ∈ candidates := by
  obtain ⟨before, wave, after, earlier, hwaves, hbefore, hevent⟩ :=
    Trail.mem_events_foldEach.1 ((considered_mem_events_run_iff hplan).1 h)
  -- the names of the waves are cut where the waves themselves are
  obtain ⟨first, rest, rfl, rfl, hrest⟩ := List.map_eq_append_iff.1 hwaves
  obtain ⟨mappers, later, rfl, rfl, rfl⟩ := List.map_eq_cons_iff.1 hrest
  have hsettle := (foldEach_runWave_eq_ok_iff hplan).1 hbefore
  have hready := hplan.isOrder.readyFor rfl hsettle
  obtain ⟨mapper, hmem, hconsidered⟩ :=
    exists_runnable_of_considered hready.registered hready.admits hevent
  obtain ⟨rfl, candidates, hcandidates, hcandidate⟩ :=
    Mapper.mem_candidates_of_considered hconsidered
  exact ⟨mapper, _, candidates, .intro hplan hsettle hmem, rfl, hcandidates, hcandidate⟩

/-- A pass that ends with a table considers all `candidates` of a mapper that it `Evaluates`. -/
theorem Evaluates.considered (h : Evaluates artifact registry mapper table)
    (hrun : (run artifact registry).result = .ok final) {candidates : List Entity}
    (hcandidates : mapper.scope.candidates artifact table = .ok candidates)
    (hmem : candidate ∈ candidates) :
    .considered mapper.name candidate ∈ (run artifact registry).events := by
  obtain ⟨-, outcome, hresolve, -⟩ := h.exists_outcome hrun
  have hconsidered := Mapper.considered_of_resolve hresolve hcandidates hmem
  obtain ⟨hplan, hbefore, hrunnable⟩ := h
  have hready := hplan.isOrder.readyFor rfl hbefore
  rw [hplan.result_run] at hrun
  obtain ⟨next, hnext, -⟩ := exists_next_of_settleWaves hrun hbefore
  rw [considered_mem_events_run_iff hplan, Trail.mem_events_foldEach]
  exact ⟨_, _, _, _, List.map_append, (foldEach_runWave_eq_ok_iff hplan).2 hbefore,
    considered_of_settleWave hready.registered hready.admits hnext hrunnable hconsidered⟩

end Run

end Pass

end Reidentify

import Reidentify.Proofs.Artifact.Walk
import Reidentify.Proofs.Pass.Soundness
import Reidentify.Proofs.Schedule.Survey

/-!
# Passes over artifacts that were read

What a document lets through may still end a pass. The owner in a reference and the name of a
superclass are taken as they are, and a list or an object among them is only found when a selected
instruction is bound. This is the one way in which a pass can fail, if its registry has a plan and
no predicate gives up: candidates can always be listed, and a candidate can always be selected or
the refusal recorded. If every such name can be looked up, every mapper is skipped, or its outcome
is recorded.

## Main definitions

* `Mapper.Stumbles`: a mapper cannot bind what it has selected.
* `Pass.Stuck`: a mapper of a pass stumbles.
* `Pass.Settled`: a mapper is skipped, or it went through its steps and the outcome is recorded.

## Main statements

* `Mapper.bind_eq_error_iff`: a mapper fails to bind iff it stumbles.
* `Mapper.resolve_eq_error_iff`: a mapper fails iff it stumbles over what it selects.
* `Pass.ends_of_ofValue`: a pass is stuck, or it ends with a table in which all mappers are settled.
-/

namespace Reidentify

namespace Mapper

variable {mapper : Mapper} {artifact : Artifact} {table : Table} {selected : Entity}
  {fault : Fault}

/-- A `mapper` cannot bind what it has selected: it is an `Instruction` that refers to a member, and
the search of the `artifact` for the member `Strands`, at an owner or a superclass that cannot be
looked up. -/
inductive Stumbles (mapper : Mapper) (artifact : Artifact) : Entity → Prop
  /-- The member is the field that the instruction `insn` refers to. -/
  | field {insn : Instruction} (htarget : mapper.target = .toField)
      (hfield : insn.isField = true)
      (h : artifact.Strands (·.findField insn.field.name insn.field.descriptor)
        insn.field.owner) : Stumbles mapper artifact (.ofInstruction insn)
  /-- The member is the method that the instruction `insn` calls, its `callee`. -/
  | callee {insn : Instruction} (hfield : mapper.target ≠ .toField)
      (hself : mapper.target ≠ .toInstruction) (hcall : insn.isCall = true)
      (h : artifact.Strands (·.findMethod insn.callee.name insn.callee.descriptor)
        insn.callee.owner) : Stumbles mapper artifact (.ofInstruction insn)

/-- For an instruction, `bind` ends with a `fault` iff the search for the member does, by `fieldOf`
or `methodOf` as the target says. -/
theorem bind_instruction_eq_error_iff {insn : Instruction} :
    mapper.bind artifact (.ofInstruction insn) = .error fault ↔
      (mapper.target = .toField ∧ artifact.fieldOf insn = .error fault) ∨
        (mapper.target ≠ .toField ∧ mapper.target ≠ .toInstruction ∧
          artifact.methodOf insn = .error fault) := by
  unfold bind
  cases mapper.target with
  | toField => rcases hfield : artifact.fieldOf insn with _ | _ | _ <;> simp [hfield]
  | toInstruction => simp
  | toClass | toMethod => rcases hcallee : artifact.methodOf insn with _ | _ | _ <;> simp [hcallee]

/-- For a `selected` entity, `bind` ends with a fault iff the mapper `Stumbles` over it, and this is
`wrongType`. -/
theorem bind_eq_error_iff : mapper.bind artifact selected = .error fault ↔
    fault = .wrongType ∧ mapper.Stumbles artifact selected := by
  cases selected with
  | ofInstruction insn =>
    rw [bind_instruction_eq_error_iff, Artifact.fieldOf_eq_error_iff,
      Artifact.methodOf_eq_error_iff]
    constructor
    · rintro (⟨htarget, rfl, hfield, h⟩ | ⟨hfield, hself, rfl, hcall, h⟩)
      · exact ⟨rfl, .field htarget hfield h⟩
      · exact ⟨rfl, .callee hfield hself hcall h⟩
    · rintro ⟨rfl, hstumbles⟩
      cases hstumbles with
      | field htarget hfield h => exact .inl ⟨htarget, rfl, hfield, h⟩
      | callee hfield hself hcall h => exact .inr ⟨hfield, hself, rfl, hcall, h⟩
  | ofClass | ofField | ofMethod =>
    -- everything else is bound as itself
    rw [bind_of_target_ne mapper artifact (by simp [Entity.target])]
    refine iff_of_false (by simp) ?_
    rintro ⟨-, hstumbles⟩
    cases hstumbles

/-- In an artifact that is `Traceable`, where every name can be looked up, no mapper `Stumbles` over
an entity that occurs there. -/
theorem not_stumbles_of_traceable (h : artifact.Traceable) (hholds : artifact.Holds selected) :
    ¬mapper.Stumbles artifact selected := by
  intro hstumbles
  cases hstumbles with
  | field _ _ hstrands => exact h.not_strands (h.owners _ hholds).1 hstrands
  | callee _ _ _ hstrands => exact h.not_strands (h.owners _ hholds).2 hstrands

/-- A mapper selects a candidate of its scope that satisfies its predicate, by its own strategy. -/
def Selects (mapper : Mapper) (artifact : Artifact) (table : Table) (selected : Entity) : Prop :=
  ∃ candidates kept, mapper.scope.candidates artifact table = .ok candidates ∧
    (mapper.matching table candidates).result = .ok kept ∧
    mapper.selectBy mapper.strategy.kind kept = .ok (.chosen selected)

/-- What a mapper `Selects` is one of the `candidates` of its scope. -/
theorem Selects.exists_candidates (h : mapper.Selects artifact table selected) :
    ∃ candidates, mapper.scope.candidates artifact table = .ok candidates ∧
      selected ∈ candidates := by
  obtain ⟨candidates, kept, hcandidates, hkept, hselection⟩ := h
  exact ⟨candidates, hcandidates, (Trail.sublist_of_keep hkept).subset (mem_of_selectBy hselection)⟩

/-- A predicate that gives up on none of the `candidates` keeps some of them, so `matching` ends
well. -/
theorem exists_kept {candidates : List Entity}
    (h : ∀ candidate ∈ candidates, ∃ holds,
      (mapper.predicate.evaluate table candidate).result = .ok holds) :
    ∃ kept, (mapper.matching table candidates).result = .ok kept := by
  cases hmatching : (mapper.matching table candidates).result with
  | ok kept => exact ⟨kept, rfl⟩
  | error fault =>
    obtain ⟨candidate, hmem, hcandidate⟩ := Trail.exists_item_of_keep hmatching
    obtain ⟨holds, hholds⟩ := h candidate hmem
    simp [hholds] at hcandidate

/-- A mapper fails with `fault` by itself, when its candidates are listed and its predicate gives up
on none of them: it selects a candidate and stumbles over it (`Mapper.Stumbles`), or it selects none
and is mute about that (`Mapper.IsMute`). -/
inductive FailsBy (mapper : Mapper) (artifact : Artifact) (table : Table) : Fault → Prop
  /-- The mapper `Selects` a candidate and `Stumbles` over it. -/
  | stumbles {selected : Entity} (hselects : mapper.Selects artifact table selected)
      (h : mapper.Stumbles artifact selected) : FailsBy mapper artifact table .wrongType
  /-- The mapper `Keeps` some matches and `IsMute` with their number. -/
  | mute {kept : List Entity} (hkeeps : mapper.Keeps artifact table kept)
      (h : mapper.IsMute kept.length) : FailsBy mapper artifact table (.value .unwritable)

/-- A mapper with `candidates` whose predicate gives up on none of them fails with a `fault` iff it
`FailsBy` this fault. -/
theorem resolve_eq_error_iff {candidates : List Entity}
    (hcandidates : mapper.scope.candidates artifact table = .ok candidates)
    (hpredicate : ∀ candidate ∈ candidates, ∃ holds,
      (mapper.predicate.evaluate table candidate).result = .ok holds) :
    (mapper.resolve artifact table).result = .error fault ↔
      mapper.FailsBy artifact table fault := by
  obtain ⟨kept, hkept⟩ := exists_kept hpredicate
  have hkeeps : mapper.Keeps artifact table kept := ⟨candidates, hcandidates, hkept⟩
  constructor
  · intro h
    rcases mapper.exists_selection_or_isMute kept with
      ⟨selection, hselection⟩ | ⟨hmute, hselection⟩
    · -- the first three steps go through, so that only the last one is left
      unfold resolve resolveBy at h
      simp only [Trail.result_andThen, Trail.result_lift, hcandidates, hkept, hselection,
        Except.ok_bind] at h
      cases selection with
      | refused failure => simp at h
      | chosen selected =>
        simp only [Trail.result_andThen, Trail.result_lift, Trail.result_done] at h
        obtain ⟨rfl, hstumbles⟩ : fault = .wrongType ∧ mapper.Stumbles artifact selected := by
          rw [Except.bind_eq_error_iff, bind_eq_error_iff] at h
          simpa using h
        exact .stumbles ⟨candidates, kept, hcandidates, hkept, hselection⟩ hstumbles
    · rw [resolve_of_selectBy_eq_error hkeeps hselection] at h
      cases h
      exact .mute hkeeps hmute
  · rintro (⟨⟨others, matched, hothers, hmatched, hselection⟩, hstumbles⟩ | ⟨hothers, hmute⟩)
    · unfold resolve resolveBy
      simp only [Trail.result_andThen, Trail.result_lift, hothers, hmatched, hselection,
        Except.ok_bind, bind_eq_error_iff.2 ⟨rfl, hstumbles⟩]
      rfl
    · exact resolve_of_selectBy_eq_error hothers (selectBy_eq_error_iff.2 ⟨rfl, hmute⟩)

end Mapper

namespace Pass

variable {artifact : Artifact} {registry : Registry} {table final : Table} {mapper : Mapper}
  {fault : Fault}

/-- No predicate of a pass gives up on a candidate that it is asked about, when its mapper
`Evaluates`. -/
def Untroubled (artifact : Artifact) (registry : Registry) : Prop :=
  ∀ mapper table, Evaluates artifact registry mapper table →
    ∀ candidates, mapper.scope.candidates artifact table = .ok candidates →
      ∀ candidate ∈ candidates, ∃ holds,
        (mapper.predicate.evaluate table candidate).result = .ok holds

/-- A mapper of a pass stumbles over what it selects (`Mapper.Stumbles`). -/
def Stuck (artifact : Artifact) (registry : Registry) : Prop :=
  ∃ mapper table selected, Evaluates artifact registry mapper table ∧
    mapper.Selects artifact table selected ∧ mapper.Stumbles artifact selected

/-- A mapper of a pass is mute with the matches that it has (`Mapper.IsMute`). -/
def Mute (artifact : Artifact) (registry : Registry) : Prop :=
  ∃ mapper table kept, Evaluates artifact registry mapper table ∧
    mapper.Keeps artifact table kept ∧ mapper.IsMute kept.length

/-- All numbers that the failures of a pass may name have a text: the indices and the sizes of
groups of the positions in `registry`, and the numbers of candidates that its mappers have. -/
structure Legible (artifact : Artifact) (registry : Registry) : Prop where
  /-- The index and the size of the groups of every position in the registry have a text
  (`isWritable`). -/
  positions : ∀ mapper ∈ registry.mappers, ∀ position, mapper.strategy = .order position →
    position.index.isWritable = true ∧ position.groupSize.all Whole.isWritable = true
  /-- The number of the candidates of every mapper has a text, so a failure can say how many there
  were. -/
  counts : ∀ mapper table candidates, Evaluates artifact registry mapper table →
    mapper.scope.candidates artifact table = .ok candidates →
      Text.canWrite candidates.length = true

/-- Where all numbers have a text (`Legible`), no mapper of the pass is `Mute`. -/
theorem not_mute_of_legible (h : Legible artifact registry) : ¬Mute artifact registry := by
  rintro ⟨mapper, table, kept, hevaluates, ⟨candidates, hcandidates, hkept⟩, position, hstrategy,
    hmute⟩
  obtain ⟨hindex, hsize⟩ := h.positions mapper hevaluates.mem_mappers position hstrategy
  -- there are no more matches than candidates
  have hlength := (Trail.sublist_of_keep hkept).length_le
  have hcount : Whole.isWritable (kept.length : ℤ) = true := by
    rw [Whole.isWritable, Whole.value_number]
    exact Text.canWrite_of_natAbs_le (by omega)
      (h.counts mapper table candidates hevaluates hcandidates)
  have hwritable := hmute.2
  rw [Position.isWritable, hindex, hsize, hcount] at hwritable
  cases hwritable

/-- A `mapper` is settled in the table `final` of a pass: it is skipped for a mapper that it depends
on, or it is evaluated and its outcome is recorded. That is the failure to select a candidate, or
what comes of binding the selected one. -/
inductive Settled (artifact : Artifact) (registry : Registry) (final : Table) (mapper : Mapper) :
    Prop
  /-- The mapper has `blockers`, and its outcome is the `skip` for them. -/
  | skipped (hblocked : blockers final mapper ≠ [])
      (h : final.outcome? mapper.name = some (skip final mapper))
  /-- The mapper `Evaluates` on some `table` and goes through its four steps there, which lead to
  its outcome. -/
  | evaluated {table candidates kept selection outcome}
      (hevaluates : Evaluates artifact registry mapper table)
      (hcandidates : mapper.scope.candidates artifact table = .ok candidates)
      (hkept : (mapper.matching table candidates).result = .ok kept)
      (hselection : mapper.selectBy mapper.strategy.kind kept = .ok selection)
      (hconcludes : mapper.Concludes artifact selection outcome)
      (h : final.outcome? mapper.name = some outcome)

/-- In a pass that ends with a table every registered mapper is `Settled`. -/
theorem settled_of_run (hrun : (run artifact registry).result = .ok final)
    (hmem : mapper ∈ registry.mappers) : Settled artifact registry final mapper := by
  rcases skipped_or_evaluates hrun hmem with ⟨hblocked, hskip⟩ | ⟨table, hevaluates⟩
  · exact .skipped hblocked hskip
  · obtain ⟨-, outcome, hresolve, hrecorded⟩ := hevaluates.exists_outcome hrun
    obtain ⟨candidates, kept, selection, hcandidates, hkept, hselection, hconcludes⟩ :=
      Mapper.exists_of_resolve hresolve
    exact .evaluated hevaluates hcandidates hkept hselection hconcludes hrecorded

section Ends

variable (howned : artifact.Owned) (hvalid : registry.validate = .ok ())

include howned hvalid

/-- If no predicate gives up, a mapper that `Evaluates` fails with a `fault` iff it `FailsBy` this
fault. -/
theorem Evaluates.resolve_eq_error_iff (hpredicates : Untroubled artifact registry)
    (h : Evaluates artifact registry mapper table) :
    (mapper.resolve artifact table).result = .error fault ↔
      mapper.FailsBy artifact table fault := by
  obtain ⟨candidates, hcandidates⟩ := (h.ownerBound howned hvalid).exists_candidates artifact
  exact Mapper.resolve_eq_error_iff hcandidates (hpredicates mapper table h candidates hcandidates)

/-- What a mapper of a pass `Selects` occurs in the artifact. -/
theorem Evaluates.holds_of_selects (h : Evaluates artifact registry mapper table)
    {selected : Entity} (hselects : mapper.Selects artifact table selected) :
    artifact.Holds selected := by
  obtain ⟨candidates, hcandidates, hmem⟩ := hselects.exists_candidates
  refine Scope.holds_of_candidates howned (fun owner entity howner hresolve => ?_)
    hcandidates hmem
  exact (h.sound howned).holds_owner hvalid h.mem_mappers howner hresolve

/-- A pass with a plan that ends with a `fault` is `Stuck` and the fault is `wrongType`, or it is
`Mute` and the fault is `unwritable`, if no predicate gives up. -/
theorem stuck_or_mute_of_run {waves : List (List Mapper)} (hplan : IsPlan registry waves)
    (hpredicates : Untroubled artifact registry)
    (hrun : (run artifact registry).result = .error fault) :
    (fault = .wrongType ∧ Stuck artifact registry) ∨
      (fault = .value .unwritable ∧ Mute artifact registry) := by
  obtain ⟨mapper, table, hevaluates, hresolve⟩ := exists_evaluates_of_error hplan hrun
  cases (hevaluates.resolve_eq_error_iff howned hvalid hpredicates).1 hresolve with
  | stumbles hselects hstumbles =>
    exact .inl ⟨rfl, mapper, table, _, hevaluates, hselects, hstumbles⟩
  | mute hkeeps hmute => exact .inr ⟨rfl, mapper, table, _, hevaluates, hkeeps, hmute⟩

/-- A pass in which a mapper that `Evaluates` also `FailsBy` some fault ends with a fault, if not
with the same one. -/
theorem exists_fault_of_failsBy (hpredicates : Untroubled artifact registry)
    (hevaluates : Evaluates artifact registry mapper table)
    (h : mapper.FailsBy artifact table fault) :
    ∃ reason, (run artifact registry).result = .error reason := by
  have hresolve := (hevaluates.resolve_eq_error_iff howned hvalid hpredicates).2 h
  cases hrun : (run artifact registry).result with
  | error reason => exact ⟨reason, rfl⟩
  | ok final =>
    -- the mapper would have an outcome
    obtain ⟨-, outcome, houtcome, -⟩ := hevaluates.exists_outcome hrun
    rw [hresolve] at houtcome
    cases houtcome

end Ends

/-- A pass over an artifact that was read, with a valid `registry` without circles whose predicates
give up on no candidate (`Untroubled`), ends with a table in which every mapper is `Settled`, unless
it is `Stuck` at a reference or a superclass that is a list or an object, or a mapper is `Mute`.
Then it ends with the fault of a look-up, or with that of a number without a text, and there is no
table. It is never stuck where every name can be looked up, and never mute where every number has a
text. -/
theorem ends_of_ofValue {document : Value} (hartifact : Artifact.ofValue document = .ok artifact)
    (hvalid : registry.validate = .ok ())
    (hacyclic : ∀ name, ¬Relation.TransGen registry.DependsOn name name)
    (hpredicates : Untroubled artifact registry) :
    (artifact.Traceable → ¬Stuck artifact registry) ∧
      (Legible artifact registry → ¬Mute artifact registry) ∧
      (¬Stuck artifact registry → ¬Mute artifact registry →
        ∃ final, (run artifact registry).result = .ok final ∧
          ∀ mapper ∈ registry.mappers, Settled artifact registry final mapper) ∧
      (Stuck artifact registry ∨ Mute artifact registry →
        ∃ fault, (run artifact registry).result = .error fault ∧
          ((fault = .wrongType ∧ Stuck artifact registry) ∨
            (fault = .value .unwritable ∧ Mute artifact registry))) := by
  have howned := Artifact.owned_of_ofValue hartifact
  obtain ⟨hwaves, -⟩ := Schedule.waves_eq_ok_of_acyclic (nodup_tasks registry)
    (closed_ofMappers hvalid) fun name hcircle => hacyclic name (transGen_steps_iff.1 hcircle)
  obtain ⟨waves, hplan⟩ := exists_plan hvalid hwaves
  have hreason (fault : Fault) (hrun : (run artifact registry).result = .error fault) :=
    stuck_or_mute_of_run howned hvalid hplan hpredicates hrun
  refine ⟨?_, not_mute_of_legible, fun hfree hloud => ?_, fun hfails => ?_⟩
  · rintro htraceable ⟨mapper, table, selected, hevaluates, hselects, hstumbles⟩
    have hholds := hevaluates.holds_of_selects howned hvalid hselects
    exact Mapper.not_stumbles_of_traceable htraceable hholds hstumbles
  · cases hrun : (run artifact registry).result with
    | ok final => exact ⟨final, rfl, fun mapper hmem => settled_of_run hrun hmem⟩
    | error fault =>
      rcases hreason fault hrun with ⟨-, hstuck⟩ | ⟨-, hmute⟩
      · exact absurd hstuck hfree
      · exact absurd hmute hloud
  · obtain ⟨fault, hrun⟩ : ∃ fault, (run artifact registry).result = .error fault := by
      rcases hfails with ⟨mapper, table, selected, hevaluates, hselects, hstumbles⟩ |
        ⟨mapper, table, kept, hevaluates, hkeeps, hmute⟩
      · exact exists_fault_of_failsBy howned hvalid hpredicates hevaluates
          (.stumbles hselects hstumbles)
      · exact exists_fault_of_failsBy howned hvalid hpredicates hevaluates (.mute hkeeps hmute)
    exact ⟨fault, hrun, hreason fault hrun⟩

section Example

/-- The artifact `counter`, whose constructor refers to the number by some `owner`. -/
def straying (owner : Value) : Artifact :=
  { counter with classes := counter.classes.map fun decl =>
    { decl with methods := decl.methods.map fun method =>
      { method with instructions := method.instructions.map fun insn =>
        { insn with field := ⟨owner, .str "f", .str "I"⟩ } } } }

/-- The predicate that every entity satisfies, as a test of one's own (`Predicate.test`). -/
def anything : Predicate := .test "anything" false fun _ _ => .ok true

/-- The mappers of `counting`, with the predicate `anything`, which never gives up. -/
def roaming : Registry where
  mappers := counting.mappers.map fun mapper => { mapper with predicate := anything }
  nodup_names := by decide

theorem acyclic_roaming (name : String) : ¬Relation.TransGen roaming.DependsOn name name := by
  have hmembers : (Schedule.ofMappers roaming.mappers).cycleMembers = [] := by decide +kernel
  intro hcircle
  exact (Schedule.cycleMembers_eq_nil_iff (nodup_tasks roaming)).1 hmembers name
    (transGen_steps_iff.2 hcircle)

theorem untroubled_roaming (artifact : Artifact) : Untroubled artifact roaming := by
  intro mapper table hevaluates candidates _ candidate _
  have hpredicate : mapper.predicate = anything := by
    obtain ⟨other, -, rfl⟩ := List.mem_map.1 hevaluates.mem_mappers
    rfl
  exact ⟨true, by rw [hpredicate, anything, Predicate.result_evaluate_of_isTest rfl]; rfl⟩

/-- The positions in `roaming` are the first ones, without groups, so that their failures name
nothing but zeros and no pass is `Mute`. -/
theorem not_mute_roaming (artifact : Artifact) : ¬Mute artifact roaming := by
  rintro ⟨mapper, table, kept, hevaluates, -, position, hstrategy, hinside, hwritable⟩
  have hpositions : ∀ mapper ∈ roaming.mappers, ∀ position ∈ mapper.strategy.position?,
      position.index = 0 ∧ position.groupSize = none := by
    decide +kernel
  obtain ⟨hindex, hgroups⟩ :=
    hpositions mapper hevaluates.mem_mappers position (by rw [hstrategy]; rfl)
  have hnone : kept.length = 0 := by
    by_contra hsome
    refine hinside ⟨Position.aligned_of_none hgroups, ?_⟩
    rw [hindex]
    exact ⟨Int.le_refl 0, by simpa [Whole.value] using Nat.pos_of_ne_zero hsome⟩
  rw [Position.isWritable, hindex, hgroups, hnone] at hwritable
  revert hwritable
  decide +kernel

theorem traceable_straying : (straying (.str "a")).Traceable where
  supers decl hdecl := by
    obtain rfl := List.mem_singleton.1 hdecl
    rfl
  owners insn hholds := by
    cases hholds with
    | ofInstruction hmethod hinsn =>
      cases hmethod with
      | ofMethod hdecl hmem =>
        obtain rfl := List.mem_singleton.1 hdecl
        obtain rfl := List.mem_singleton.1 hmem
        obtain rfl := List.mem_singleton.1 hinsn
        decide

/-- With the class `a` for its owner the reference of `straying` leads to the field, and all mappers
are `Settled`. -/
theorem ends_of_ofValue_straying :
    Artifact.ofValue (straying (.str "a")).toValue = .ok (straying (.str "a")) ∧
      roaming.validate = .ok () ∧
      ∃ final, (run (straying (.str "a")) roaming).result = .ok final ∧
        final.entities.map (fun bound => (bound.1, bound.2.describe)) =
          [("Counter.count", "a.f:I"), ("Counter.write", "a.<init>()V@0 op=181 a.f:I"),
            ("Counter", "a")] ∧
        ∀ mapper ∈ roaming.mappers, Settled (straying (.str "a")) roaming final mapper := by
  have hartifact : Artifact.ofValue (straying (.str "a")).toValue = .ok (straying (.str "a")) := by
    decide +kernel
  have hvalid : roaming.validate = .ok () := by decide +kernel
  obtain ⟨hfree, -, hends, -⟩ :=
    ends_of_ofValue hartifact hvalid acyclic_roaming (untroubled_roaming _)
  obtain ⟨final, hrun, hsettled⟩ := hends (hfree traceable_straying) (not_mute_roaming _)
  have hcomputed : (run (straying (.str "a")) roaming).result.map (fun table =>
      table.entities.map fun bound => (bound.1, bound.2.describe)) =
        .ok [("Counter.count", "a.f:I"), ("Counter.write", "a.<init>()V@0 op=181 a.f:I"),
            ("Counter", "a")] := by
    decide +kernel
  rw [hrun] at hcomputed
  exact ⟨hartifact, hvalid, final, hrun, Except.ok.inj hcomputed, hsettled⟩

/-- An artifact that was read can end a pass: a list for an owner is only found when the instruction
is bound, and no table is left of the pass over `roaming`. -/
theorem run_straying_eq_error :
    Artifact.ofValue (straying (.list [.str "b"])).toValue = .ok (straying (.list [.str "b"])) ∧
      roaming.validate = .ok () ∧
      (∀ name, ¬Relation.TransGen roaming.DependsOn name name) ∧
      Untroubled (straying (.list [.str "b"])) roaming ∧
      (run (straying (.list [.str "b"])) roaming).result = .error .wrongType := by
  refine ⟨?_, ?_, acyclic_roaming, untroubled_roaming _, ?_⟩
  · decide +kernel
  · decide +kernel
  · have hcomputed : (run (straying (.list [.str "b"])) roaming).result.map Table.entities =
        .error .wrongType := by
      decide +kernel
    cases hrun : (run (straying (.list [.str "b"])) roaming).result with
    | ok final => simp [hrun, Except.map] at hcomputed
    | error fault => simpa [hrun, Except.map] using hcomputed

end Example

end Pass

end Reidentify

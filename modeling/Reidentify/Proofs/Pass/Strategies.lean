import Reidentify.Proofs.Pass.Matching

/-!
# Strategies compared

A mapper that looks for the only match, one for the first match and one for the second match see the
same matches if they look in the same scope, by the same predicate and for the same target. So what
becomes of the first one can be told from the other two: there is no match if there is no first one,
there are several if there is a second one, and the only match is the first one without a second
one. This also holds where the match refers to a member that is not there.

## Main definitions

* `Mapper.Alike`: two mappers differ in their names and in their strategies only.
* `Mapper.IsNth`: a mapper selects the match at an index.
* `Mapper.FailsWith`, `Mapper.Resolves`: a mapper ends with a failure of some kind, or it is bound.

## Main statements

* `Mapper.strategies_agree`: what becomes of the only match, told from the first two matches.
-/

namespace Reidentify.Mapper

/-- Two mappers look in one scope, by one predicate and for one target; only their names and
strategies may differ. -/
structure Alike (mapper other : Mapper) : Prop where
  /-- They look among the candidates of one `scope`. -/
  scope : other.scope = mapper.scope
  /-- They keep candidates by one `predicate`. -/
  predicate : other.predicate = mapper.predicate
  /-- They bind a selected candidate for one `target`. -/
  target : other.target = mapper.target

/-- A mapper with an `order` strategy that selects the match at `index`, without groups. -/
def IsNth (mapper : Mapper) (index : ℕ) : Prop :=
  ∃ position : Position, mapper.strategy = .order position ∧ position.index.value = index ∧
    position.groupSize = none

/-- A mapper ends with a failure of the given `kind`, under its own name. -/
def FailsWith (mapper : Mapper) (artifact : Artifact) (table : Table) (kind : FailureKind) : Prop :=
  ∃ failure, (mapper.resolve artifact table).result = .ok ⟨mapper.name, .failed failure⟩ ∧
    failure.kind = kind

/-- A mapper is bound to the `entity`, under its own name. -/
def Resolves (mapper : Mapper) (artifact : Artifact) (table : Table) (entity : Entity) : Prop :=
  (mapper.resolve artifact table).result = .ok ⟨mapper.name, .resolved entity⟩

variable {mapper other : Mapper} {artifact : Artifact} {table : Table} {kept : List Entity}
  {index : ℕ} {selected entity : Entity} {failure : Failure} {kind : FailureKind}

/-- What a `selected` candidate is bound as by `bind` depends on the target only, so it is the same
for `Alike` mappers. -/
theorem Alike.bind_eq (h : mapper.Alike other) :
    other.bind artifact selected = mapper.bind artifact selected := by
  unfold bind
  rw [h.target]

section Selected

variable (hkeeps : mapper.Keeps artifact table kept)

include hkeeps

/-- A mapper whose `selectBy` is refused with a `failure` fails with the kind of that failure and
with no other. -/
theorem failsWith_iff_of_refused
    (h : mapper.selectBy mapper.strategy.kind kept = .ok (.refused failure)) :
    mapper.FailsWith artifact table kind ↔ failure.kind = kind := by
  simp only [FailsWith, resolve_eq_ok_iff hkeeps h, concludes_refused_iff, Outcome.mk.injEq,
    Result.failed.injEq, true_and, exists_eq_left]

/-- A mapper whose `selectBy` is refused is not bound to any `entity`. -/
theorem not_resolves_of_refused
    (h : mapper.selectBy mapper.strategy.kind kept = .ok (.refused failure)) :
    ¬mapper.Resolves artifact table entity := by
  simp [Resolves, resolve_eq_ok_iff hkeeps h, concludes_refused_iff]

/-- A mapper whose `selectBy` has chosen a match fails iff `bind` fails for that match, and then the
kind is `unboundTarget`. -/
theorem failsWith_iff_of_chosen
    (h : mapper.selectBy mapper.strategy.kind kept = .ok (.chosen selected)) :
    mapper.FailsWith artifact table kind ↔
      kind = .unboundTarget ∧ ∃ failure, mapper.bind artifact selected = .ok (.failed failure) := by
  simp only [FailsWith, resolve_eq_ok_iff hkeeps h, concludes_chosen_iff, Outcome.mk.injEq,
    true_and, exists_eq_right']
  -- no other failure comes of binding a match
  have hunbound {failure : Failure}
      (hbind : mapper.bind artifact selected = .ok (.failed failure)) :
      failure.kind = .unboundTarget := by
    rcases cases_of_bind_eq_ok hbind with ⟨_, ⟨⟩⟩ | ⟨_, ⟨⟩, hkind⟩
    exact hkind
  constructor
  · rintro ⟨failure, hbind, rfl⟩
    exact ⟨hunbound hbind, failure, hbind⟩
  · rintro ⟨rfl, failure, hbind⟩
    exact ⟨failure, hbind, hunbound hbind⟩

/-- A mapper whose `selectBy` has chosen a match is bound to an `entity` iff `bind` leads from the
match to it. -/
theorem resolves_iff_of_chosen
    (h : mapper.selectBy mapper.strategy.kind kept = .ok (.chosen selected)) :
    mapper.Resolves artifact table entity ↔
      mapper.bind artifact selected = .ok (.resolved entity) := by
  simp only [Resolves, resolve_eq_ok_iff hkeeps h, concludes_chosen_iff, Outcome.mk.injEq,
    true_and, exists_eq_right']

end Selected

namespace IsNth

/-- If there is a match at its `index`, a mapper that `IsNth` selects it. -/
theorem selectBy_eq_chosen (h : mapper.IsNth index) (hmatch : kept[index]? = some selected) :
    mapper.selectBy mapper.strategy.kind kept = .ok (.chosen selected) := by
  obtain ⟨position, hstrategy, hindex, hgroups⟩ := h
  rw [selectBy_of_order hstrategy, selectAt_eq_chosen_iff, hindex, Int.toNat_natCast]
  exact ⟨Position.aligned_of_none hgroups, Int.natCast_nonneg index, hmatch⟩

/-- Behind the last match none is selected. The number of matches is no larger than the `index`, so
for the text of the failure it is enough that `Text.canWrite index`. -/
theorem exists_refused (h : mapper.IsNth index) (hwritable : Text.canWrite index = true)
    (hlength : kept.length ≤ index) :
    ∃ failure, mapper.selectBy mapper.strategy.kind kept = .ok (.refused failure) ∧
      failure.kind = .orderOutOfRange := by
  obtain ⟨position, hstrategy, hindex, hgroups⟩ := h
  have hcount : Text.canWrite kept.length = true :=
    Text.canWrite_of_natAbs_le (by omega) hwritable
  -- the failure names the index and the number of matches, and both can be written
  have hmade : position.isWritable kept.length = true := by
    simp [Position.isWritable, Whole.isWritable, hindex, hgroups, hwritable, hcount]
  have hselection : mapper.selectAt position kept = refuse (position.isWritable kept.length) _ :=
    selectAt_of_outside (Position.aligned_of_none hgroups) (by omega)
  rw [← selectBy_of_order hstrategy, hmade] at hselection
  exact ⟨_, hselection, rfl⟩

/-- A mapper that `IsNth` fails with `orderOutOfRange` iff there is no match at its `index`, i.e.
`kept.length ≤ index`. -/
theorem failsWith_orderOutOfRange_iff (h : mapper.IsNth index)
    (hwritable : Text.canWrite index = true) (hkeeps : mapper.Keeps artifact table kept) :
    mapper.FailsWith artifact table .orderOutOfRange ↔ kept.length ≤ index := by
  by_cases hlength : kept.length ≤ index
  · obtain ⟨failure, hselection, hkind⟩ := h.exists_refused hwritable hlength
    simp [failsWith_iff_of_refused hkeeps hselection, hkind, hlength]
  · have hmatch := List.getElem?_eq_getElem (Nat.lt_of_not_le hlength)
    simp [failsWith_iff_of_chosen hkeeps (h.selectBy_eq_chosen hmatch), hlength]

end IsNth

/-- What becomes of a mapper for the only match can be told from mappers for the `first` and for the
`second` match: `noMatch` is `orderOutOfRange` of the first, `ambiguousMatch` is a second match, and
it is bound as the first one if there is no second. The predicate may give up on no candidate, which
`Keeps` says. -/
theorem strategies_agree {first second : Mapper} (hkeeps : mapper.Keeps artifact table kept)
    (hfirst : mapper.Alike first) (hsecond : mapper.Alike second)
    (hidentity : mapper.strategy = .identity) (hzero : first.IsNth 0) (hone : second.IsNth 1) :
    (mapper.FailsWith artifact table .noMatch ↔
        first.FailsWith artifact table .orderOutOfRange) ∧
      (mapper.FailsWith artifact table .ambiguousMatch ↔
        ¬second.FailsWith artifact table .orderOutOfRange) ∧
      (∀ entity, mapper.Resolves artifact table entity ↔
        first.Resolves artifact table entity ∧
          second.FailsWith artifact table .orderOutOfRange) ∧
      (mapper.FailsWith artifact table .unboundTarget ↔
        first.FailsWith artifact table .unboundTarget ∧
          second.FailsWith artifact table .orderOutOfRange) := by
  have hkeeps₀ := hkeeps.congr hfirst.scope hfirst.predicate
  have hselection : mapper.selectBy mapper.strategy.kind kept = .ok (mapper.selectOnly kept) :=
    selectBy_of_identity hidentity
  have hwritable₀ : Text.canWrite (0 : ℕ) = true := by decide +kernel
  have hwritable₁ : Text.canWrite (1 : ℕ) = true := by decide +kernel
  rw [hzero.failsWith_orderOutOfRange_iff hwritable₀ hkeeps₀,
    hone.failsWith_orderOutOfRange_iff hwritable₁
      (hkeeps.congr hsecond.scope hsecond.predicate)]
  -- the number of matches is the same for all three mappers, and it tells how they end
  rcases kept with _ | ⟨selected, _ | ⟨next, rest⟩⟩
  -- no match: the first mapper is out of range, and so is the second
  · obtain ⟨failure, hselection₀, hkind⟩ := hzero.exists_refused hwritable₀
      (Nat.le_of_eq List.length_nil)
    have hnone (kind : FailureKind) : mapper.FailsWith artifact table kind ↔ .noMatch = kind :=
      failsWith_iff_of_refused hkeeps hselection
    simp [hnone, not_resolves_of_refused hkeeps hselection,
      failsWith_iff_of_refused hkeeps₀ hselection₀, not_resolves_of_refused hkeeps₀ hselection₀,
      hkind]
  -- one match: all three mappers see it, and only the second one is out of range
  · have hselection₀ := hzero.selectBy_eq_chosen (rfl : [selected][0]? = some selected)
    simp [failsWith_iff_of_chosen hkeeps hselection, resolves_iff_of_chosen hkeeps hselection,
      failsWith_iff_of_chosen hkeeps₀ hselection₀, resolves_iff_of_chosen hkeeps₀ hselection₀,
      hfirst.bind_eq]
  -- at least two matches: the second mapper is in range
  · have hseveral (kind : FailureKind) :
        mapper.FailsWith artifact table kind ↔ .ambiguousMatch = kind :=
      failsWith_iff_of_refused hkeeps hselection
    simp [hseveral, not_resolves_of_refused hkeeps hselection]

/-- The class `pairs` writes two fields in its constructor, which `nthWrite 0` and `nthWrite 1` are
bound to; so `pairWrite .identity` is ambiguous. -/
theorem strategies_agree_pairWrite :
    (nthWrite 0).Resolves pairs pairBound (.ofField ⟨"a", "f", "I", 8⟩) ∧
      (nthWrite 1).Resolves pairs pairBound (.ofField ⟨"a", "g", "I", 8⟩) ∧
      (pairWrite .identity).FailsWith pairs pairBound .ambiguousMatch := by
  have hfirst : (nthWrite 0).Resolves pairs pairBound (.ofField ⟨"a", "f", "I", 8⟩) := by
    unfold Resolves
    decide +kernel
  have hsecond : (nthWrite 1).Resolves pairs pairBound (.ofField ⟨"a", "g", "I", 8⟩) := by
    unfold Resolves
    decide +kernel
  have halike (index : ℕ) : (pairWrite .identity).Alike (nthWrite index) := ⟨rfl, rfl, rfl⟩
  have hnth (index : ℕ) : (nthWrite index).IsNth index := ⟨_, rfl, rfl, rfl⟩
  obtain ⟨-, hambiguous, -⟩ := strategies_agree (keeps_pairWrite .identity) (halike 0) (halike 1)
    rfl (hnth 0) (hnth 1)
  refine ⟨hfirst, hsecond, hambiguous.2 ?_⟩
  rintro ⟨failure, hfails, -⟩
  rw [hsecond] at hfails
  cases hfails

end Reidentify.Mapper

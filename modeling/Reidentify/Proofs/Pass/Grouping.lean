import Reidentify.Proofs.Mapper.Position
import Reidentify.Proofs.Pass.Matching
import Reidentify.Proofs.Pass.Robustness

/-!
# Matches in groups

A mapper may select from its matches by a group and an offset in it. It then fails for all groups
and offsets if the matches do not make up whole groups. If they do, it selects a match for the
groups that there are, and fails for all others. Every match is selected for one group and one
offset, so that mappers with the positions of a group divide its matches among them.

## Main definitions

* `Mapper.byPosition`: a mapper that selects by a position instead.
* `Mapper.Grouped`: how the positions in groups of one size address the matches of a mapper.

## Main statements

* `Mapper.selects_byPosition_iff`: the match that a position selects.
* `Mapper.grouped_of_keeps`: positions in groups address the matches of every mapper.
* `Mapper.resolve_farGroup_eq_error`: with a group whose number has no text, a mapper ends with a
  fault where it should be out of range.
-/

namespace Reidentify.Mapper

variable {mapper : Mapper} {artifact : Artifact} {table : Table} {kept : List Entity}
  {size run offset : Whole} {position : Position} {selected : Entity}

/-- The mapper that selects by a `position` instead of its own strategy, and is like `mapper` in
everything else. -/
def byPosition (mapper : Mapper) (position : Position) : Mapper :=
  { mapper with strategy := .order position }

/-- The positions in groups of one `size` address the matches `kept` of a `mapper`: a position is a
group `run` and an `offset` in it, as `Position.inGroup` builds it. -/
structure Grouped (mapper : Mapper) (artifact : Artifact) (table : Table) (kept : List Entity)
    (size : Whole) : Prop where
  /-- There is a position at every `offset` of every group `run`, and both are read back from it. -/
  read_back : ∀ run offset : Whole, 0 ≤ offset.value → offset.value < size.value →
    ∃ position, Position.inGroup run offset size = .ok position ∧
      position.run = run.value ∧ position.offset.value = offset.value
  /-- If the matches do not make up whole groups, no position selects any of them, and a position
  whose numbers have a text (`isWritable`) fails with a `groupMismatch`. -/
  mismatch : ¬size.value ∣ kept.length → ∀ run offset position,
    Position.inGroup run offset size = .ok position → position.isWritable kept.length = true →
      ((mapper.byPosition position).resolve artifact table).result = .ok ⟨mapper.name,
        .failed (.groupMismatch mapper.scope.describe mapper.predicate.describe
          (kept.length : ℤ) position.index size)⟩
  /-- If they do, a position selects a match iff there is its group, i.e. `run` is not negative and
  less than the number of groups. -/
  selects_iff : size.value ∣ kept.length → ∀ run offset position,
    Position.inGroup run offset size = .ok position →
      ((∃ selected, (mapper.byPosition position).Selects artifact table selected) ↔
        0 ≤ run.value ∧ run.value < kept.length / size.value)
  /-- The match that is selected is the one at the `index` of the position. -/
  selects_match : size.value ∣ kept.length → ∀ run offset position,
    Position.inGroup run offset size = .ok position → 0 ≤ run.value →
      ∀ selected, (mapper.byPosition position).Selects artifact table selected ↔
        kept[position.index.value.toNat]? = some selected
  /-- The mapper ends with what `bind` makes of the match that the position selects. -/
  binds : ∀ position selected, (mapper.byPosition position).Selects artifact table selected →
    ∀ outcome, ((mapper.byPosition position).resolve artifact table).result = .ok outcome ↔
      ∃ result, mapper.bind artifact selected = .ok result ∧ outcome = ⟨mapper.name, result⟩
  /-- A position in any other group is out of range, and fails with `outOfRange` if its numbers have
  a text. -/
  out_of_range : size.value ∣ kept.length → ∀ run offset position,
    Position.inGroup run offset size = .ok position → position.isWritable kept.length = true →
      ¬(0 ≤ run.value ∧ run.value < kept.length / size.value) →
        ((mapper.byPosition position).resolve artifact table).result = .ok ⟨mapper.name,
          .failed (.outOfRange mapper.scope.describe mapper.predicate.describe
            (kept.length : ℤ) position.index (some size))⟩
  /-- Where a position selects nothing and one of its numbers has no text, the mapper ends with the
  fault `unwritable` instead of a failure. -/
  unwritable : ∀ run offset position,
    Position.inGroup run offset size = .ok position → position.isWritable kept.length = false →
      ¬(size.value ∣ kept.length ∧ 0 ≤ run.value ∧ run.value < kept.length / size.value) →
        ((mapper.byPosition position).resolve artifact table).result =
          .error (.value .unwritable)
  /-- A position is described by `Position.describe` iff its `index` and the `size` of its groups
  have a text. -/
  described : ∀ run offset position, Position.inGroup run offset size = .ok position →
    ((∃ text, position.describe = .ok text) ↔
      position.index.isWritable = true ∧ size.isWritable = true)
  /-- Every match is at one offset of one group, so the positions divide the matches. -/
  exists_unique : size.value ∣ kept.length → ∀ index < kept.length, ∃! address : ℤ × ℤ,
    (0 ≤ address.1 ∧ address.1 < kept.length / size.value) ∧
      ∃ position, Position.inGroup (.number address.1) (.number address.2) size = .ok position ∧
        position.index.value = index
  /-- The matches of one group are next to each other, in the order of the offsets. -/
  neighbours : ∀ run offset other position next,
    Position.inGroup run offset size = .ok position → Position.inGroup run other size = .ok next →
      next.index.value - position.index.value = other.value - offset.value

/-- The matches of a mapper do not depend on a `position`, so `mapper.byPosition position` keeps the
same ones. -/
theorem Keeps.byPosition (h : mapper.Keeps artifact table kept) (position : Position) :
    (mapper.byPosition position).Keeps artifact table kept :=
  h.congr rfl rfl

/-- A mapper with the matches `kept` selects what `selectBy` chooses from these. -/
theorem selects_iff_of_keeps (h : mapper.Keeps artifact table kept) :
    mapper.Selects artifact table selected ↔
      mapper.selectBy mapper.strategy.kind kept = .ok (.chosen selected) := by
  constructor
  · rintro ⟨candidates, others, hcandidates, hothers, hselection⟩
    rwa [h.unique ⟨candidates, hcandidates, hothers⟩]
  · obtain ⟨candidates, hcandidates, hkept⟩ := h
    exact fun hselection => ⟨candidates, kept, hcandidates, hkept, hselection⟩

/-- By a `position` a mapper selects the match at its `index`, if the matches make up whole groups
and the index is not negative. -/
theorem selects_byPosition_iff (h : mapper.Keeps artifact table kept) :
    (mapper.byPosition position).Selects artifact table selected ↔
      position.Aligned kept.length ∧ 0 ≤ position.index.value ∧
        kept[position.index.value.toNat]? = some selected := by
  rw [selects_iff_of_keeps (h.byPosition position), selectBy_of_order rfl]
  exact selectAt_eq_chosen_iff

/-- A mapper that selects a match by a `position` ends with what `bind` makes of the match, if with
any outcome. -/
theorem resolve_byPosition_eq_ok_iff (hkeeps : mapper.Keeps artifact table kept)
    (hselects : (mapper.byPosition position).Selects artifact table selected)
    (outcome : Outcome) :
    ((mapper.byPosition position).resolve artifact table).result = .ok outcome ↔
      ∃ result, mapper.bind artifact selected = .ok result ∧ outcome = ⟨mapper.name, result⟩ := by
  have hkeeps' := hkeeps.byPosition position
  rw [resolve_eq_ok_iff hkeeps' ((selects_iff_of_keeps hkeeps').1 hselects)]
  exact concludes_chosen_iff

/-- Matches are `Aligned` to a position in groups of `size` iff the size divides their number. -/
theorem aligned_iff_of_inGroup {length : ℕ} (h : Position.inGroup run offset size = .ok position) :
    position.Aligned length ↔ size.value ∣ length :=
  Position.aligned_iff (Position.inGroup_eq_ok_iff.1 h).2.2

section InGroup

variable (hkeeps : mapper.Keeps artifact table kept)
  (h : Position.inGroup run offset size = .ok position)

include hkeeps h

/-- If `size` does not divide the number of matches, the mapper fails with a `groupMismatch`,
provided that the numbers of the position have a text. -/
theorem resolve_eq_groupMismatch (hdvd : ¬size.value ∣ kept.length)
    (hwritable : position.isWritable kept.length = true) :
    ((mapper.byPosition position).resolve artifact table).result = .ok ⟨mapper.name,
      .failed (.groupMismatch mapper.scope.describe mapper.predicate.describe
        (kept.length : ℤ) position.index size)⟩ := by
  obtain ⟨-, -, hsize⟩ := Position.inGroup_eq_ok_iff.1 h
  refine (resolve_eq_ok_iff (hkeeps.byPosition position) ?_).2 (.refused _)
  rw [selectBy_of_order rfl, selectAt_of_not_aligned hsize hdvd, refuse_eq_ok_iff]
  exact ⟨hwritable, rfl⟩

/-- If the group `run` is not there, the mapper fails with `outOfRange`, provided that the numbers
of the position have a text. -/
theorem resolve_eq_outOfRange (hdvd : size.value ∣ kept.length)
    (hrun : ¬(0 ≤ run.value ∧ run.value < kept.length / size.value))
    (hwritable : position.isWritable kept.length = true) :
    ((mapper.byPosition position).resolve artifact table).result = .ok ⟨mapper.name,
      .failed (.outOfRange mapper.scope.describe mapper.predicate.describe
        (kept.length : ℤ) position.index (some size))⟩ := by
  obtain ⟨-, -, hsize⟩ := Position.inGroup_eq_ok_iff.1 h
  -- the failure comes from the selection, whose texts can all be made
  refine (resolve_eq_ok_iff (hkeeps.byPosition position) ?_).2 (.refused _)
  rw [selectBy_of_order rfl, selectAt_of_outside ((aligned_iff_of_inGroup h).2 hdvd)
    (mt (Position.index_lt_iff_of_inGroup h hdvd).1 hrun), refuse_eq_ok_iff, hsize]
  exact ⟨hwritable, rfl⟩

omit hkeeps in
/-- A position `IsInside` the matches iff `size` divides their number and its group `run` is among
them. -/
theorem isInside_iff_of_inGroup : position.IsInside kept.length ↔
    size.value ∣ kept.length ∧ 0 ≤ run.value ∧ run.value < kept.length / size.value := by
  unfold Position.IsInside
  rw [aligned_iff_of_inGroup h]
  exact and_congr_right fun hdvd => Position.index_lt_iff_of_inGroup h hdvd

/-- If the group `run` is not there and one of the numbers of the position has no text, the mapper
ends with the fault `unwritable`. -/
theorem resolve_eq_unwritable (hwritable : position.isWritable kept.length = false)
    (houtside : ¬(size.value ∣ kept.length ∧
      0 ≤ run.value ∧ run.value < kept.length / size.value)) :
    ((mapper.byPosition position).resolve artifact table).result = .error (.value .unwritable) :=
  resolve_of_selectBy_eq_error (hkeeps.byPosition position) <| selectBy_eq_error_iff.2
    ⟨rfl, position, rfl, mt (isInside_iff_of_inGroup h).1 houtside, hwritable⟩

/-- If `size` divides the number of matches, a position selects a match iff its group `run` is
there. -/
theorem exists_selects_iff (hdvd : size.value ∣ kept.length) :
    (∃ selected, (mapper.byPosition position).Selects artifact table selected) ↔
      0 ≤ run.value ∧ run.value < kept.length / size.value := by
  rw [← Position.index_lt_iff_of_inGroup h hdvd]
  simp only [selects_byPosition_iff hkeeps, (aligned_iff_of_inGroup h).2 hdvd, true_and,
    exists_and_left]
  refine and_congr_right fun hzero => ?_
  rw [← Option.isSome_iff_exists, isSome_getElem?]
  omega

end InGroup

/-- Positions in groups of any `size` from 1 on address the matches of every mapper, as `Grouped`
says. Whether the failures can be told depends on the digits of the numbers, the selection itself
does not. -/
theorem grouped_of_keeps (hkeeps : mapper.Keeps artifact table kept) (hsize : 1 ≤ size.value) :
    mapper.Grouped artifact table kept size where
  read_back run offset hzero hlt := by
    obtain ⟨position, h⟩ := Position.exists_inGroup run ⟨hzero, hlt⟩
    exact ⟨position, h, Position.run_of_inGroup h, Position.offset_of_inGroup h⟩
  mismatch hdvd run offset position h := resolve_eq_groupMismatch hkeeps h hdvd
  unwritable run offset position h := resolve_eq_unwritable hkeeps h
  described run offset position h := by
    rw [Position.exists_describe_iff, (Position.inGroup_eq_ok_iff.1 h).2.2, Option.all_some]
  selects_iff hdvd run offset position h := exists_selects_iff hkeeps h hdvd
  selects_match hdvd run offset position h hrun selected := by
    have hzero := (Position.zero_le_index_iff_of_inGroup h).2 hrun
    rw [selects_byPosition_iff hkeeps]
    exact ⟨fun hselects => hselects.2.2,
      fun hmatch => ⟨(aligned_iff_of_inGroup h).2 hdvd, hzero, hmatch⟩⟩
  binds position selected hselects := resolve_byPosition_eq_ok_iff hkeeps hselects
  out_of_range hdvd run offset position h hwritable hrun :=
    resolve_eq_outOfRange hkeeps h hdvd hrun hwritable
  exists_unique hdvd index hindex := by
    obtain ⟨address, ⟨position, h, hposition⟩, hunique⟩ :=
      Position.existsUnique_inGroup (Int.lt_of_lt_of_le Int.zero_lt_one hsize) index
    -- an index of the matches lies in one of their groups
    have hrange := (Position.index_lt_iff_of_inGroup h hdvd).1 (by omega)
    exact ⟨address, ⟨hrange, position, h, hposition⟩, fun other hother => hunique other hother.2⟩
  neighbours run offset other position next h hnext := Position.sub_index_of_inGroup h hnext

/-- The two writes of `pairs` make up one group of two, and `lastOfPair` selects the second one. -/
theorem grouped_of_keeps_pairWrite :
    (pairWrite .identity).Grouped pairs pairBound pairWrites 2 ∧
      Position.inGroup 0 1 2 = .ok lastOfPair ∧
      ∃ selected, pairWrites[1]? = some selected ∧
        ((pairWrite .identity).byPosition lastOfPair).Selects pairs pairBound selected := by
  have hgrouped : (pairWrite .identity).Grouped pairs pairBound pairWrites 2 :=
    grouped_of_keeps (keeps_pairWrite .identity) (by decide)
  have hposition : Position.inGroup 0 1 2 = .ok lastOfPair := rfl
  have hselects := hgrouped.selects_match (by decide) 0 1 lastOfPair hposition (by decide)
  exact ⟨hgrouped, hposition, _, rfl, (hselects _).2 rfl⟩

/-- A position in a group whose number has one digit too many, because it is `Text.firstUnwritable`.
-/
def farGroup : Position :=
  { lastOfPair with index := .number (Text.firstUnwritable * 2) }

/-- The two writes make up one whole group, and `farGroup` lies in another one, so that it is out of
range. But instead of this failure there is the fault `unwritable`, and there is no description of
the position either. -/
theorem resolve_farGroup_eq_error :
    (pairWrite .identity).Keeps pairs pairBound pairWrites ∧
      (2 : ℤ) ∣ pairWrites.length ∧
      Position.inGroup (.number Text.firstUnwritable) 0 2 = .ok farGroup ∧
      ¬(Text.firstUnwritable : ℤ) < pairWrites.length / 2 ∧
      (((pairWrite .identity).byPosition farGroup).resolve pairs pairBound).result =
        .error (.value .unwritable) ∧
      farGroup.describe = .error (.value .unwritable) := by
  refine ⟨keeps_pairWrite _, by decide +kernel, ?_, by decide +kernel, by decide +kernel,
    by decide +kernel⟩
  exact Position.inGroup_eq_ok_iff.2 ⟨by decide, by decide +kernel, rfl⟩

end Reidentify.Mapper

import Mathlib.Data.Int.Init
import Mathlib.Logic.ExistsUnique
import Reidentify.Mapper.Position

/-!
# Positions in groups

The position at an offset of a group is an index, and the group and the offset are read back from
it. In a sequence of whole groups the indices of the sequence are the positions in its groups, and
every index is the position at one offset of one group.

## Main statements

* `Position.inGroup_eq_ok_iff`: the position at an offset of a group.
* `Position.run_of_inGroup`, `Position.offset_of_inGroup`: the group and the offset are read back.
* `Position.index_lt_iff_of_inGroup`: the positions in the groups of a sequence are its indices.
* `Position.existsUnique_inGroup`: every index is at one offset of one group.
* `Position.exists_describe_iff`: a position is described iff its index and the size of its groups
  have a text.
-/

namespace Reidentify.Position

variable {run offset other size : Whole} {position next : Position} {length : ℤ}

/-- A `position` at an `offset` of the group `run` has the index `run * size + offset` in the whole
sequence, and it keeps the `size` of the groups. -/
theorem inGroup_eq_ok_iff : inGroup run offset size = .ok position ↔
    (0 ≤ offset.value ∧ offset.value < size.value) ∧
      position.index = .number (run.value * size.value + offset.value) ∧
      position.groupSize = some size := by
  obtain ⟨index, groupSize, hpos⟩ := position
  unfold inGroup
  split
  · next hoffset =>
    have hsize : 1 ≤ size.value := by omega
    simp only [make, hsize, dif_pos, hoffset, true_and, Except.ok.injEq, mk.injEq]
    constructor
    · rintro ⟨rfl, rfl⟩
      exact ⟨rfl, rfl⟩
    · rintro ⟨rfl, rfl⟩
      exact ⟨rfl, rfl⟩
  · next hoffset => simp [hoffset, Whole.naming_error_ne_ok]

/-- There is a position at every `offset` below the `size` in every group `run`. -/
theorem exists_inGroup (run : Whole) (hoffset : 0 ≤ offset.value ∧ offset.value < size.value) :
    ∃ position, inGroup run offset size = .ok position :=
  ⟨⟨.number (run.value * size.value + offset.value), some size, pos_of_some (by omega)⟩,
    inGroup_eq_ok_iff.2 ⟨hoffset, rfl, rfl⟩⟩

section InGroup

variable (h : inGroup run offset size = .ok position)

include h

/-- The index of a `position` in a group as a number, `run * size + offset`. -/
theorem index_of_inGroup : position.index.value = run.value * size.value + offset.value := by
  rw [(inGroup_eq_ok_iff.1 h).2.1]
  rfl

/-- The group `run` and the `offset` are the quotient and the remainder of the index by the `size`.
-/
theorem ediv_emod_of_inGroup : 0 < size.value ∧ position.index.value / size.value = run.value ∧
    position.index.value % size.value = offset.value := by
  obtain ⟨⟨hzero, hlt⟩, -, -⟩ := inGroup_eq_ok_iff.1 h
  have hpos : 0 < size.value := by omega
  refine ⟨hpos, (Int.ediv_emod_unique hpos).2 ⟨?_, hzero, hlt⟩⟩
  rw [index_of_inGroup h, Int.mul_comm, Int.add_comm]

/-- The group `run` is read back from a `position` in it. -/
theorem run_of_inGroup : position.run = run.value := by
  obtain ⟨-, -, hsize⟩ := inGroup_eq_ok_iff.1 h
  obtain ⟨hpos, hdiv, -⟩ := ediv_emod_of_inGroup h
  rw [Position.run, hsize]
  exact (Int.fdiv_eq_ediv_of_nonneg _ (by omega)).trans hdiv

/-- The `offset` is read back from a `position` at it. -/
theorem offset_of_inGroup : position.offset.value = offset.value := by
  obtain ⟨-, -, hsize⟩ := inGroup_eq_ok_iff.1 h
  obtain ⟨hpos, -, hmod⟩ := ediv_emod_of_inGroup h
  rw [Position.offset, hsize]
  exact (Int.fmod_eq_emod_of_nonneg _ (by omega)).trans hmod

/-- The index of a `position` is negative iff the number `run` of its group is. -/
theorem zero_le_index_iff_of_inGroup : 0 ≤ position.index.value ↔ 0 ≤ run.value := by
  obtain ⟨hpos, hdiv, -⟩ := ediv_emod_of_inGroup h
  rw [← hdiv, Int.ediv_nonneg_iff_of_pos hpos]

/-- In a sequence of whole groups, whose `length` the `size` divides, the positions in these groups
are the indices of the sequence. -/
theorem index_lt_iff_of_inGroup (hdvd : size.value ∣ length) :
    (0 ≤ position.index.value ∧ position.index.value < length) ↔
      0 ≤ run.value ∧ run.value < length / size.value := by
  obtain ⟨hpos, hdiv, -⟩ := ediv_emod_of_inGroup h
  rw [zero_le_index_iff_of_inGroup h, ← hdiv, Int.ediv_lt_iff_lt_mul hpos,
    Int.ediv_mul_cancel hdvd]

/-- Two positions in one group `run` are as far apart as their offsets. -/
theorem sub_index_of_inGroup (hnext : inGroup run other size = .ok next) :
    next.index.value - position.index.value = other.value - offset.value := by
  rw [index_of_inGroup h, index_of_inGroup hnext]
  omega

end InGroup

/-- Every `index` is the position at one offset of one group, the `address` of the index. -/
theorem existsUnique_inGroup (hpos : 0 < size.value) (index : ℤ) :
    ∃! address : ℤ × ℤ, ∃ position,
      inGroup (.number address.1) (.number address.2) size = .ok position ∧
        position.index.value = index := by
  refine ⟨(index / size.value, index % size.value), ?_, ?_⟩
  · have hoffset : 0 ≤ (Whole.number (index % size.value)).value ∧
        (Whole.number (index % size.value)).value < size.value :=
      ⟨Int.emod_nonneg _ (by omega), Int.emod_lt_of_pos _ hpos⟩
    obtain ⟨position, h⟩ := exists_inGroup (.number (index / size.value)) hoffset
    refine ⟨position, h, (index_of_inGroup h).trans ?_⟩
    exact Int.ediv_mul_add_emod index size.value
  · rintro ⟨run, offset⟩ ⟨position, h, rfl⟩
    obtain ⟨-, hdiv, hmod⟩ := ediv_emod_of_inGroup h
    exact Prod.ext hdiv.symm hmod.symm

section Describe

variable (hsize : position.groupSize = some size)

include hsize

/-- The `run` of a `position` is no further from zero than its index. -/
theorem natAbs_run_le : position.run.natAbs ≤ position.index.value.natAbs := by
  have hpos := position.groupSize_pos size hsize
  rw [Position.run, hsize]
  dsimp only
  rw [Int.fdiv_eq_ediv_of_nonneg _ (by omega)]
  exact Int.natAbs_ediv_le_natAbs ..

/-- The `offset` of a `position` is smaller than the `size` of its groups. -/
theorem natAbs_offset_lt : position.offset.value.natAbs < size.value.natAbs := by
  have hpos := position.groupSize_pos size hsize
  have hmod := Int.emod_lt_of_pos position.index.value hpos
  have hzero := Int.emod_nonneg position.index.value (by omega : size.value ≠ 0)
  rw [Position.offset, hsize]
  dsimp only
  rw [Whole.value_number, Int.fmod_eq_emod_of_nonneg _ (by omega)]
  omega

end Describe

/-- A `position` is described iff its index and the size of its groups have a text (`isWritable`).
The `run` and the `offset` have one then. -/
theorem exists_describe_iff : (∃ text, position.describe = .ok text) ↔
    position.index.isWritable = true ∧ position.groupSize.all Whole.isWritable = true := by
  unfold describe
  cases hsize : position.groupSize with
  | none => cases hindex : position.index.isWritable <;> simp [Whole.naming, hindex]
  | some size =>
    have hrun (h : position.index.isWritable = true) :
        (Whole.number position.run).isWritable = true :=
      Text.canWrite_of_natAbs_le (natAbs_run_le hsize) h
    have hoffset (h : size.isWritable = true) : position.offset.isWritable = true :=
      Text.canWrite_of_natAbs_le (Nat.le_of_lt (natAbs_offset_lt hsize)) h
    by_cases hindex : position.index.isWritable = true
    · by_cases hgroup : size.isWritable = true
      · simp [Whole.naming, hindex, hgroup, hrun hindex, hoffset hgroup]
      · simp [Whole.naming, hgroup]
    · simp [Whole.naming, hindex]

end Reidentify.Position

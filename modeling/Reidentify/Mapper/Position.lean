import Reidentify.Fault

/-!
# Positions

A mapper that selects by position names the index of its candidate in the sequence of all
candidates that satisfy its predicate. If the sequence consists of groups of one size, the index
is the number of the group times that size plus the offset inside the group.
-/

namespace Reidentify

/-- The place of a candidate in the sequence of those that satisfy a predicate. The sequence may
consist of groups of one size. -/
structure Position where
  /-- The index in the whole sequence; it may be negative, and then there is no such candidate. -/
  index : Whole
  /-- The size of the groups that the sequence consists of, or `none` if it is not divided. -/
  groupSize : Option Whole
  /-- Groups are not empty. -/
  groupSize_pos : ∀ size, groupSize = some size → 0 < size.value
  deriving DecidableEq

namespace Position

theorem pos_of_none (size : Whole) (h : none = some size) : 0 < size.value := by
  cases h

theorem pos_of_some {given : Whole} (hgiven : 1 ≤ given.value) (size : Whole)
    (h : some given = some size) : 0 < size.value := by
  obtain rfl := Option.some.inj h
  omega

/-- A position by its `index` and the size of the groups, which has to be at least one. -/
def make (index : Whole) (groupSize : Option Whole) : Except Fault Position :=
  match groupSize with
  | none => .ok ⟨index, none, pos_of_none⟩
  | some size =>
    if h : 1 ≤ size.value then .ok ⟨index, some size, pos_of_some h⟩
    else Whole.naming [size] (.error (.configuration (.groupSize size)))

/-- The position at an `offset` of the group number `run`: the index is `run * groupSize + offset`,
and the offset has to lie inside a group. -/
def inGroup (run offset groupSize : Whole) : Except Fault Position :=
  if 0 ≤ offset.value ∧ offset.value < groupSize.value then
    make (.number (run.value * groupSize.value + offset.value)) (some groupSize)
  else Whole.naming [offset, groupSize] (.error (.configuration (.groupOffset offset groupSize)))

/-- The number of the group that `position` lies in; without groups there is only the first one. -/
def run (position : Position) : Int :=
  match position.groupSize with
  | some size => position.index.value.fdiv size.value
  | none => 0

/-- The offset of `position` inside its group; without groups it is the index. -/
def offset (position : Position) : Whole :=
  match position.groupSize with
  | some size => .number (position.index.value.fmod size.value)
  | none => position.index

/-- A position in words, which name its index, and also its run, its offset and the size of its
groups if it has groups. -/
def describe (position : Position) : Except Fault String :=
  let index := position.index.text
  match position.groupSize with
  | some size =>
    Whole.naming [position.index, .number position.run, position.offset, size] <| .ok <|
      s!"index {index} (run {position.run}, offset {position.offset.text}, "
        ++ s!"group size {size.text})"
  | none => Whole.naming [position.index] (.ok s!"index {index}")

end Position

end Reidentify

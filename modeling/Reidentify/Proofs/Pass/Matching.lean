import Mathlib.Data.Int.Init
import Reidentify.Proofs.Pass.Resolution

/-!
# Matches

The candidates of its scope that satisfy the predicate of a mapper are its matches, in the order of
the scope. A strategy looks at nothing but the list of the matches: it selects the only one, or the
one at a position. This module says which candidate that is. The match at an index of the list is
the one that as many matches come before among all candidates, and there is no other such place.

## Main definitions

* `Mapper.accepts`: a candidate satisfies the predicate of a mapper.
* `Mapper.Keeps`: the matches of a mapper.
* `Position.Aligned`: a number of matches makes up whole groups.
* `Position.IsInside`: a position is inside a number of matches.
* `Position.isWritable`: the numbers that a failure of a position names have a text.
* `Position.IsMute`, `Mapper.IsMute`: a position that selects none of the matches, and whose failure
  to say so is not made, and a mapper that selects by one.
* `Split`: a place in a list.

## Main statements

* `Mapper.resolve_eq_ok_iff`: a mapper ends with what its selection leads to.
* `Mapper.selectOnly_eq_chosen_iff`, `Mapper.selectAt_eq_chosen_iff`: what is selected as the only
  match, and what is selected by a position.
* `Mapper.selectBy_eq_error_iff`: there is a selection unless the mapper is mute.
* `getElem?_filter_eq_some_iff`: the match at an index, as a place among the candidates.
* `Split.eq_of_rank`: no two places come after the same number of matches.
-/

namespace Reidentify

section Places

/-- A place in a list: the `item` that stands there, with what comes before it and behind it. -/
@[ext]
structure Split (α : Type) where
  /-- The items that come before the place. -/
  before : List α
  /-- The item that stands at the place. -/
  item : α
  /-- The items that come behind the place. -/
  after : List α

namespace Split

variable {α : Type} {test : α → Bool} {items : List α} {place other : Split α}

/-- The number of items before a `place` that pass a `test`. -/
def rank (test : α → Bool) (place : Split α) : ℕ :=
  place.before.countP test

end Split

end Places

namespace Position

variable {position : Position} {length : ℕ}

/-- A number of matches makes up whole groups of the size that a `position` names, if it names one.
-/
def Aligned (position : Position) (length : ℕ) : Prop :=
  ∀ size, position.groupSize = some size → size.value ∣ length

/-- The numbers that a failure of `position` among `length` matches names have a text: the index,
the size of the groups if there is one, and `length`. -/
def isWritable (position : Position) (length : ℕ) : Bool :=
  position.index.isWritable && position.groupSize.all Whole.isWritable &&
    Whole.isWritable (length : ℤ)

/-- A position with `groupSize = none` is `Aligned` with any number of matches. -/
theorem aligned_of_none (h : position.groupSize = none) : position.Aligned length := by
  intro size hsize
  rw [h] at hsize
  cases hsize

/-- A position with groups of a `size` is `Aligned` with a number of matches iff the size divides
it. -/
theorem aligned_iff {size : Whole} (h : position.groupSize = some size) :
    position.Aligned length ↔ size.value ∣ length := by
  refine ⟨fun haligned => haligned size h, fun hdvd other hother => ?_⟩
  rw [h] at hother
  cases hother
  exact hdvd

/-- Whether a position is `Aligned` is tested by a remainder, with groups of one if it has none. -/
theorem emod_eq_zero_iff :
    (length : ℤ) % (position.groupSize.getD 1).value = 0 ↔ position.Aligned length := by
  rw [← Int.dvd_iff_emod_eq_zero]
  cases hsize : position.groupSize with
  | none => exact iff_of_true (Int.one_dvd _) (aligned_of_none hsize)
  | some size => exact (aligned_iff hsize).symm

/-- A position that is not `Aligned` has groups of some `size` that does not divide the number of
matches. -/
theorem not_aligned_iff : ¬position.Aligned length ↔
    ∃ size, position.groupSize = some size ∧ ¬size.value ∣ length := by
  simp [Aligned]

/-- A `position` is inside `length` matches: they make up whole groups (`Aligned`), and its index is
one of theirs. -/
def IsInside (position : Position) (length : ℕ) : Prop :=
  position.Aligned length ∧ 0 ≤ position.index.value ∧ position.index.value < length

/-- A position is mute among `length` matches: it is not inside them (`IsInside`), and the failure
that says so is not made, since not all of its numbers have a text (`isWritable`). -/
def IsMute (position : Position) (length : ℕ) : Prop :=
  ¬position.IsInside length ∧ position.isWritable length = false

end Position

namespace Mapper

variable {mapper : Mapper} {artifact : Artifact} {table : Table} {candidates kept : List Entity}
  {position : Position} {entity : Entity} {outcome : Outcome} {selection : Selection}

/-- The matches `kept` of a mapper: the candidates of its scope that are left of its predicate. -/
def Keeps (mapper : Mapper) (artifact : Artifact) (table : Table) (kept : List Entity) : Prop :=
  ∃ candidates, mapper.scope.candidates artifact table = .ok candidates ∧
    (mapper.matching table candidates).result = .ok kept

/-- A mapper is mute with `count` matches: it selects by a position that is. A mapper for the only
match never is. -/
def IsMute (mapper : Mapper) (count : ℕ) : Prop :=
  ∃ position, mapper.strategy = .order position ∧ position.IsMute count

/-- A mapper has one list of matches only (`Keeps`), over one artifact and one table. -/
theorem Keeps.unique {others : List Entity} (h : mapper.Keeps artifact table kept)
    (hothers : mapper.Keeps artifact table others) : kept = others := by
  obtain ⟨candidates, hcandidates, hkept⟩ := h
  obtain ⟨candidates', hcandidates', hkept'⟩ := hothers
  rw [hcandidates] at hcandidates'
  cases hcandidates'
  rw [hkept] at hkept'
  exact Except.ok.inj hkept'

/-- The matches of a mapper are those of any `other` with the same scope and predicate. -/
theorem Keeps.congr {other : Mapper} (h : mapper.Keeps artifact table kept)
    (hscope : other.scope = mapper.scope) (hpredicate : other.predicate = mapper.predicate) :
    other.Keeps artifact table kept := by
  obtain ⟨candidates, hcandidates, hkept⟩ := h
  refine ⟨candidates, by rwa [hscope], ?_⟩
  -- the trails name different mappers, but their tests end in the same way
  rw [← hkept]
  refine Trail.result_keep_congr candidates fun candidate => ?_
  simp only [Trail.result_andThen, Trail.result_emit, hpredicate]

/-- A mapper with the matches `kept` ends with an `outcome` iff what it selects from these
`Concludes` with the outcome. -/
theorem resolve_eq_ok_iff (hkeeps : mapper.Keeps artifact table kept)
    (hselection : mapper.selectBy mapper.strategy.kind kept = .ok selection) :
    (mapper.resolve artifact table).result = .ok outcome ↔
      mapper.Concludes artifact selection outcome := by
  obtain ⟨candidates, hcandidates, hkept⟩ := hkeeps
  unfold resolve resolveBy
  simp only [Trail.result_andThen, Trail.result_lift, hcandidates, hkept, hselection,
    Except.ok_bind]
  cases selection with
  | refused failure =>
    rw [concludes_refused_iff, eq_comm (a := outcome)]
    exact ⟨Except.ok.inj, congrArg Except.ok⟩
  | chosen entity =>
    rw [concludes_chosen_iff, Trail.result_andThen, Trail.result_lift, Except.bind_eq_ok_iff]
    simp only [Trail.result_done, Except.ok.injEq, eq_comm (a := outcome)]

/-- A mapper whose `selectBy` ends with a `fault` ends with this fault. -/
theorem resolve_of_selectBy_eq_error {fault : Fault} (hkeeps : mapper.Keeps artifact table kept)
    (hselection : mapper.selectBy mapper.strategy.kind kept = .error fault) :
    (mapper.resolve artifact table).result = .error fault := by
  obtain ⟨candidates, hcandidates, hkept⟩ := hkeeps
  unfold resolve resolveBy
  simp only [Trail.result_andThen, Trail.result_lift, hcandidates, hkept, hselection,
    Except.ok_bind]
  rfl

section Selection

/-- A mapper of strategy `identity` selects by `selectOnly`, whatever it has kept. -/
theorem selectBy_of_identity (h : mapper.strategy = .identity) :
    mapper.selectBy mapper.strategy.kind kept = .ok (mapper.selectOnly kept) := by
  rw [h]
  rfl

/-- A mapper of strategy `order position` selects by `selectAt position`. -/
theorem selectBy_of_order (h : mapper.strategy = .order position) :
    mapper.selectBy mapper.strategy.kind kept = mapper.selectAt position kept := by
  unfold selectBy
  rw [h]
  rfl

/-- An `entity` is selected as the only match iff it is the only one of those that are `kept`. -/
theorem selectOnly_eq_chosen_iff : mapper.selectOnly kept = .chosen entity ↔ kept = [entity] := by
  match kept with
  | [] => simp [selectOnly]
  | [other] => simp [selectOnly]
  | _ :: _ :: _ => simp [selectOnly]

/-- Refuses to select with `failure`, if the numbers that the failure names are `writable`. -/
def refuse (writable : Bool) (failure : Failure) : Except Fault Selection :=
  if writable then .ok (.refused failure) else .error (.value .unwritable)

@[simp]
theorem refuse_eq_ok_iff {writable : Bool} {failure : Failure} :
    refuse writable failure = .ok selection ↔
      writable = true ∧ selection = .refused failure := by
  cases writable <;> simp [refuse, eq_comm]

@[simp]
theorem refuse_eq_error_iff {writable : Bool} {failure : Failure} {fault : Fault} :
    refuse writable failure = .error fault ↔
      fault = .value .unwritable ∧ writable = false := by
  cases writable <;> simp [refuse, eq_comm]

/-- The failure `groupMismatchOf` of a position in groups is made iff its numbers have a text
(`isWritable`). -/
theorem map_groupMismatchOf {scope predicate : String} {length : ℕ} {size : Whole}
    (hsize : position.groupSize = some size) :
    (Failure.groupMismatchOf scope predicate (length : ℤ) position.index size).map .refused =
      refuse (position.isWritable length)
        (.groupMismatch scope predicate (length : ℤ) position.index size) := by
  have hpos := position.groupSize_pos size hsize
  have hall : [.number length, size, position.index].all Whole.isWritable =
      position.isWritable length := by
    simp [Position.isWritable, hsize, Bool.and_comm]
  unfold Failure.groupMismatchOf
  rw [if_neg (by omega), Whole.naming_naming]
  unfold Whole.naming
  rw [List.cons_append, List.cons_append, List.nil_append, hall]
  cases position.isWritable length <;> rfl

/-- The failure `outOfRangeOf` of an index is made iff its numbers have a text (`isWritable`). -/
theorem map_outOfRangeOf {scope predicate : String} {length : ℕ} :
    (Failure.outOfRangeOf scope predicate (length : ℤ) position.index position.groupSize).map
        .refused =
      refuse (position.isWritable length)
        (.outOfRange scope predicate (length : ℤ) position.index position.groupSize) := by
  have hall : (position.groupSize.toList ++ [position.index, .number length]).all
      Whole.isWritable = position.isWritable length := by
    cases hsize : position.groupSize <;>
      simp [Position.isWritable, hsize, Bool.and_left_comm, Bool.and_assoc]
  unfold Failure.outOfRangeOf Whole.naming
  rw [hall]
  cases position.isWritable length <;> rfl

/-- If `size` does not divide the number of matches, `selectAt` refuses with a `groupMismatch`,
whatever the index is. -/
theorem selectAt_of_not_aligned {size : Whole} (hsize : position.groupSize = some size)
    (h : ¬size.value ∣ (kept.length : ℤ)) :
    mapper.selectAt position kept = refuse (position.isWritable kept.length)
      (.groupMismatch mapper.scope.describe mapper.predicate.describe
        (kept.length : ℤ) position.index size) := by
  have hremainder : (kept.length : ℤ) % size.value ≠ 0 := mt Int.dvd_of_emod_eq_zero h
  simp only [selectAt, hsize, Option.getD_some]
  rw [if_pos hremainder, map_groupMismatchOf hsize]

/-- If the matches make up whole groups, the index decides what `selectAt` selects. -/
theorem selectAt_of_aligned (h : position.Aligned kept.length) :
    mapper.selectAt position kept =
      match if position.index.value < 0 then none else kept[position.index.value.toNat]? with
      | some entity => .ok (.chosen entity)
      | none => refuse (position.isWritable kept.length)
          (.outOfRange mapper.scope.describe mapper.predicate.describe
            (kept.length : ℤ) position.index position.groupSize) := by
  have hremainder := Position.emod_eq_zero_iff.2 h
  unfold selectAt
  dsimp only
  rw [map_outOfRangeOf]
  exact if_neg (not_not_intro hremainder)

/-- An index outside the matches selects none of them: `selectAt` refuses with `outOfRange`. -/
theorem selectAt_of_outside (haligned : position.Aligned kept.length)
    (h : ¬(0 ≤ position.index.value ∧ position.index.value < kept.length)) :
    mapper.selectAt position kept = refuse (position.isWritable kept.length)
      (.outOfRange mapper.scope.describe mapper.predicate.describe
        (kept.length : ℤ) position.index position.groupSize) := by
  rw [selectAt_of_aligned haligned]
  by_cases hneg : position.index.value < 0
  · rw [if_pos hneg]
  · have hlarge : kept.length ≤ position.index.value.toNat := by omega
    rw [if_neg hneg, List.getElem?_eq_none hlarge]

/-- What `selectAt` has chosen is the match at the `index`, and the matches make up whole groups. -/
theorem selectAt_eq_chosen_iff : mapper.selectAt position kept = .ok (.chosen entity) ↔
    position.Aligned kept.length ∧ 0 ≤ position.index.value ∧
      kept[position.index.value.toNat]? = some entity := by
  by_cases haligned : position.Aligned kept.length
  · rw [selectAt_of_aligned haligned]
    by_cases hneg : position.index.value < 0
    · simp [hneg, Int.not_le.2 hneg]
    · simp only [hneg, if_false, haligned, Int.not_lt.1 hneg, true_and]
      cases kept[position.index.value.toNat]? <;> simp
  · obtain ⟨size, hsize, hcount⟩ := Position.not_aligned_iff.1 haligned
    simp [selectAt_of_not_aligned hsize hcount, haligned]

/-- A `position` that `IsInside` the matches selects one of them. Any other position refuses with a
failure of one of two kinds. -/
theorem selectAt_cases (mapper : Mapper) (position : Position) (kept : List Entity) :
    (position.IsInside kept.length ∧
        ∃ entity, mapper.selectAt position kept = .ok (.chosen entity)) ∨
      ¬position.IsInside kept.length ∧ ∃ failure : Failure,
        (failure.kind = .groupMismatch ∨ failure.kind = .orderOutOfRange) ∧
          mapper.selectAt position kept = refuse (position.isWritable kept.length) failure := by
  by_cases haligned : position.Aligned kept.length
  · by_cases hindex : 0 ≤ position.index.value ∧ position.index.value < kept.length
    · left
      have hfound := List.getElem?_eq_getElem
        (by omega : position.index.value.toNat < kept.length)
      exact ⟨⟨haligned, hindex⟩, _, selectAt_eq_chosen_iff.2 ⟨haligned, hindex.1, hfound⟩⟩
    · exact .inr ⟨fun h => hindex h.2, _, .inr rfl, selectAt_of_outside haligned hindex⟩
  · obtain ⟨size, hsize, hcount⟩ := Position.not_aligned_iff.1 haligned
    exact .inr ⟨fun h => haligned h.1, _, .inl rfl, selectAt_of_not_aligned hsize hcount⟩

/-- There is a selection by `selectAt` unless the position is mute (`Position.IsMute`). -/
theorem selectAt_eq_error_iff {fault : Fault} : mapper.selectAt position kept = .error fault ↔
    fault = .value .unwritable ∧ position.IsMute kept.length := by
  rcases mapper.selectAt_cases position kept with
    ⟨hinside, _, hselection⟩ | ⟨hinside, _, -, hselection⟩
  · simp [hselection, Position.IsMute, hinside]
  · simp [hselection, Position.IsMute, hinside]

/-- The failures of `selectAt` are of kind `groupMismatch` or `orderOutOfRange`. -/
theorem kind_of_selectAt {failure : Failure}
    (h : mapper.selectAt position kept = .ok (.refused failure)) :
    failure.kind = .groupMismatch ∨ failure.kind = .orderOutOfRange := by
  rcases mapper.selectAt_cases position kept with
    ⟨-, entity, hselection⟩ | ⟨-, other, hkind, hselection⟩
  · rw [hselection] at h
    cases h
  · rw [hselection, refuse_eq_ok_iff] at h
    cases h.2
    exact hkind

/-- A mapper can select by its own strategy: if that is by position, it has a position. Only a
mapper that `IsMute` comes to no selection. -/
theorem selectBy_eq_error_iff {fault : Fault} :
    mapper.selectBy mapper.strategy.kind kept = .error fault ↔
      fault = .value .unwritable ∧ mapper.IsMute kept.length := by
  cases hstrategy : mapper.strategy with
  | identity =>
    rw [← hstrategy, selectBy_of_identity hstrategy]
    simp [IsMute, hstrategy]
  | order position =>
    rw [← hstrategy, selectBy_of_order hstrategy, selectAt_eq_error_iff]
    simp [IsMute, hstrategy]

/-- A mapper comes to a selection from those that are `kept`, or it is mute (`IsMute`) and ends with
the fault `unwritable`. -/
theorem exists_selection_or_isMute (mapper : Mapper) (kept : List Entity) :
    (∃ selection, mapper.selectBy mapper.strategy.kind kept = .ok selection) ∨
      mapper.IsMute kept.length ∧
        mapper.selectBy mapper.strategy.kind kept = .error (.value .unwritable) := by
  cases hselection : mapper.selectBy mapper.strategy.kind kept with
  | ok selection => exact .inl ⟨selection, rfl⟩
  | error fault =>
    obtain ⟨rfl, hmute⟩ := selectBy_eq_error_iff.1 hselection
    exact .inr ⟨hmute, rfl⟩

end Selection

section Example

/-- A constructor of the class `a`, told apart by its `descriptor`, that is passed a number and
writes it to the field `number`. -/
def writing (descriptor number : String) : MethodDecl :=
  ⟨"a", "<init>", descriptor, 1,
    [⟨"a", "<init>", descriptor, 0, .number ⟨21, by decide⟩, .null, .null,
        ⟨.null, .null, .null⟩, ⟨.null, .null, .null⟩, .null⟩,
      ⟨"a", "<init>", descriptor, 1, .number ⟨179, by decide⟩, .null, .null,
        ⟨.str "a", .str number, .str "I"⟩, ⟨.null, .null, .null⟩, .null⟩]⟩

/-- The class `a` with two static numbers `f` and `g` and a constructor for each of them. -/
def pairDecl : ClassDecl where
  name := "a"
  superName := .str "java/lang/Object"
  interfaces := []
  access := 1
  fields := [⟨"a", "f", "I", 8⟩, ⟨"a", "g", "I", 8⟩]
  methods := [writing "(I)V" "f", writing "(J)V" "g"]

/-- An artifact whose only class is `pairDecl`, with one write in each of its constructors. -/
def pairs : Artifact :=
  ⟨[pairDecl], "1"⟩

/-- The table in which the mapper `Pair` is bound to `pairDecl`. -/
def pairBound : Table :=
  ⟨["Pair"], [⟨"Pair", .resolved (.ofClass pairDecl)⟩], "1"⟩

theorem toMethod_of_none {target : Target} (h : (none : Option (List String)).isSome = true) :
    target = .toMethod :=
  nomatch h

/-- The mapper with a `strategy` for a number that the constructors of the class of `Pair` write. -/
def pairWrite (strategy : Strategy) : Mapper where
  name := "Pair.write"
  strategy := strategy
  predicate := .fieldWrite none
  scope := .inClass .constructorInstructions "Pair"
  dependencies := ["Pair"]
  target := .toField
  parameters := none
  name_ne_empty := by decide
  allows_target := rfl
  ascending_dependencies := List.pairwise_singleton ..
  owner_mem _ h := Option.some.inj h ▸ List.mem_singleton_self _
  target_of_parameters := toMethod_of_none

/-- The position of the second write, at offset 1, where the writes come in groups of 2. -/
def lastOfPair : Position :=
  ⟨1, some 2, Position.pos_of_some (by decide)⟩

/-- The mapper `pairWrite` for the write at an `index`, without groups. -/
def nthWrite (index : ℕ) : Mapper :=
  pairWrite (.order ⟨.number index, none, Position.pos_of_none⟩)

/-- The writes of both constructors of `pairDecl`, one constructor after the other. -/
def pairWrites : List Entity :=
  ((writing "(I)V" "f").instructions.drop 1 ++ (writing "(J)V" "g").instructions.drop 1).map
    .ofInstruction

theorem keeps_pairWrite (strategy : Strategy) :
    (pairWrite strategy).Keeps pairs pairBound pairWrites :=
  ⟨_, rfl, rfl⟩

end Example

end Mapper

end Reidentify

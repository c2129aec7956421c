import Reidentify.Proofs.Query.Evaluation
import Reidentify.Proofs.Trail.Events

/-!
# Predicates that are put together

There are several ways of putting predicates together: two of them, one and a test of the entity
behind it, a list whose parts are joined, and a list that becomes the parts as it is. The ways can
be nested, and what comes out is grouped accordingly. But the grouping cannot be seen: the predicate
describes and tries the single ones from left to right, up to the first that does not hold.

## Main definitions

* `Predicate.conjuncts`: the predicates that a predicate is a conjunction of, at any depth.
* `Predicate.TriesInOrder`: predicates are tried in order, up to the first that does not hold.
* `Composition`: a way of putting predicates together.

## Main statements

* `Predicate.evaluateAll_conjuncts`: a predicate tries its conjuncts.
* `Predicate.intercalate_describe_conjuncts`: a predicate describes its conjuncts.
* `Predicate.triesInOrder_iff`: there is one way of trying predicates in order.
* `Composition.exists_build`: the conjuncts of what is put together are the single predicates.
* `Composition.isFlat_of_build`: so the grouping cannot be seen.
-/

namespace Reidentify

namespace Predicate

variable {table : Table} {entity : Entity}

section Conjuncts

/-- Whether a predicate is a `Predicate.conjunction`. -/
def isConjunction : Predicate → Bool
  | .conjunction .. => true
  | _ => false

mutual

/-- The predicates that a predicate is a conjunction of, at any depth and from left to right. None
of them is a conjunction itself. -/
def conjuncts : Predicate → List Predicate
  | .conjunction first rest => first.conjuncts ++ conjunctsOfAll rest
  | predicate => [predicate]

/-- The `conjuncts` of several predicates, from left to right. -/
def conjunctsOfAll : List Predicate → List Predicate
  | [] => []
  | predicate :: rest => predicate.conjuncts ++ conjunctsOfAll rest

end

theorem conjunctsOfAll_eq_flatMap (predicates : List Predicate) :
    conjunctsOfAll predicates = predicates.flatMap conjuncts := by
  induction predicates with
  | nil => rfl
  | cons predicate rest ih => rw [conjunctsOfAll, ih, List.flatMap_cons]

/-- A `predicate` that is no conjunction is its own only conjunct. -/
theorem conjuncts_eq_singleton {predicate : Predicate} (h : predicate.isConjunction = false) :
    predicate.conjuncts = [predicate] := by
  cases predicate with
  | conjunction => cases h
  | _ => rfl

/-- Every `predicate` has at least one conjunct, since a conjunction has a first part. -/
theorem conjuncts_ne_nil (predicate : Predicate) : predicate.conjuncts ≠ [] := by
  cases predicate with
  | conjunction first rest =>
    -- the conjuncts of the first part are among them, and there are some by induction
    rw [conjuncts]
    exact List.append_ne_nil_of_left_ne_nil (conjuncts_ne_nil first) _
  | _ => exact List.cons_ne_nil _ _

/-- The `leaves` of a predicate have its conjuncts, in the same order. -/
theorem flatMap_conjuncts_leaves (predicate : Predicate) :
    predicate.leaves.flatMap conjuncts = predicate.conjuncts := by
  rw [← conjunctsOfAll_eq_flatMap]
  cases predicate with
  | conjunction first rest => rfl
  | _ => rfl

theorem leaves_ne_nil (predicate : Predicate) : predicate.leaves ≠ [] := by
  cases predicate with
  | _ => exact List.cons_ne_nil _ _

/-- The conjuncts of `a.and b` are those of `a` and behind them those of `b`. -/
theorem conjuncts_and (a b : Predicate) : (a.and b).conjuncts = a.conjuncts ++ b.conjuncts := by
  rw [← flatMap_conjuncts_leaves a, ← flatMap_conjuncts_leaves b, ← List.flatMap_append]
  -- neither side is without parts, so the joined parts are a conjunction
  unfold Predicate.and
  split
  · next hnone => exact absurd hnone (List.append_ne_nil_of_left_ne_nil a.leaves_ne_nil _)
  · next first rest hparts => rw [hparts, conjuncts, conjunctsOfAll_eq_flatMap, List.flatMap_cons]

/-- The conjunction of at least one predicate exists, and has the conjuncts of all `predicates`. -/
theorem exists_conjunctionOf {predicates : List Predicate} (h : predicates ≠ []) :
    ∃ predicate, conjunctionOf predicates = .ok predicate ∧
      predicate.conjuncts = predicates.flatMap conjuncts := by
  obtain ⟨first, rest, rfl⟩ := List.exists_cons_of_ne_nil h
  refine ⟨.conjunction first rest, rfl, ?_⟩
  rw [conjuncts, conjunctsOfAll_eq_flatMap, List.flatMap_cons]

/-- So does `allOf` for at least one predicate: a single one is left as it is, and the parts of
several are joined. -/
theorem exists_allOf {predicates : List Predicate} (h : predicates ≠ []) :
    ∃ predicate, allOf predicates = .ok predicate ∧
      predicate.conjuncts = predicates.flatMap conjuncts := by
  have hparts : predicates.flatMap leaves ≠ [] := by
    obtain ⟨first, rest, rfl⟩ := List.exists_cons_of_ne_nil h
    rw [List.flatMap_cons]
    exact List.append_ne_nil_of_left_ne_nil first.leaves_ne_nil _
  have hjoined : (predicates.flatMap leaves).flatMap conjuncts = predicates.flatMap conjuncts := by
    rw [List.flatMap_assoc]
    exact List.flatMap_congr fun predicate _ => flatMap_conjuncts_leaves predicate
  obtain ⟨joined, hjoin, hconjuncts⟩ := exists_conjunctionOf hparts
  -- only from two predicates on the parts are joined
  by_cases hsingle : ∃ predicate, predicates = [predicate]
  · obtain ⟨predicate, rfl⟩ := hsingle
    exact ⟨predicate, rfl, (List.flatMap_singleton conjuncts predicate).symm⟩
  · refine ⟨joined, ?_, hconjuncts.trans hjoined⟩
    unfold allOf
    split
    · next predicate => exact absurd ⟨predicate, rfl⟩ hsingle
    · exact hjoin

end Conjuncts

section Evaluation

theorem evaluateAll_singleton (table : Table) (predicate : Predicate) (entity : Entity) :
    evaluateAll table [predicate] entity = predicate.evaluate table entity := by
  have hlast : (fun holds => if holds then evaluateAll table [] entity else .done false) =
      (Trail.done : Bool → Trail Event Bool) := by
    funext holds
    cases holds <;> rfl
  rw [evaluateAll, hlast, Trail.andThen_done_right]

/-- The predicates `others` are tried behind `predicates` if all of these hold. -/
theorem evaluateAll_append (table : Table) (predicates others : List Predicate) (entity : Entity) :
    evaluateAll table (predicates ++ others) entity =
      (evaluateAll table predicates entity).andThen fun holds =>
        if holds then evaluateAll table others entity else .done false := by
  induction predicates with
  | nil => rfl
  | cons predicate rest ih =>
    -- the first predicate is tried on both sides, and the rest is tried behind it if it holds
    rw [List.cons_append, evaluateAll, evaluateAll, Trail.andThen_assoc]
    congr 1
    funext holds
    cases holds with
    | true => exact ih
    | false => rfl

mutual

/-- Evaluating the `conjuncts` of `predicate` one after another is evaluating `predicate`, events
included. -/
theorem evaluateAll_conjuncts (table : Table) (predicate : Predicate) (entity : Entity) :
    evaluateAll table predicate.conjuncts entity = predicate.evaluate table entity := by
  cases predicate with
  | conjunction first rest =>
    rw [conjuncts, evaluateAll_append, evaluateAll_conjuncts table first,
      evaluateAll_conjunctsOfAll table rest, evaluate]
  | _ => exact evaluateAll_singleton table _ entity

/-- Evaluating the `conjuncts` of several `predicates` is evaluating the predicates themselves. -/
theorem evaluateAll_conjunctsOfAll (table : Table) (predicates : List Predicate)
    (entity : Entity) :
    evaluateAll table (conjunctsOfAll predicates) entity = evaluateAll table predicates entity := by
  match predicates with
  | [] => rfl
  | predicate :: rest =>
    rw [conjunctsOfAll, evaluateAll_append, evaluateAll_conjuncts table predicate,
      evaluateAll_conjunctsOfAll table rest, evaluateAll]

end

/-- What happens when all of `predicates` are evaluated on `entity` one after another. -/
def eventsOf (table : Table) (entity : Entity) (predicates : List Predicate) : List Event :=
  predicates.flatMap fun predicate => (predicate.evaluate table entity).events

theorem eventsOf_concat (predicates : List Predicate) (predicate : Predicate) :
    eventsOf table entity (predicates ++ [predicate]) =
      eventsOf table entity predicates ++ (predicate.evaluate table entity).events := by
  rw [eventsOf, List.flatMap_append, List.flatMap_singleton, eventsOf]

/-- If all of `predicates` hold, evaluating `others` behind them adds the events of both and ends as
`others` do. -/
theorem evaluateAll_append_of_holds {predicates : List Predicate}
    (h : ∀ predicate ∈ predicates, (predicate.evaluate table entity).result = .ok true)
    (others : List Predicate) :
    evaluateAll table (predicates ++ others) entity =
      ⟨eventsOf table entity predicates ++ (evaluateAll table others entity).events,
        (evaluateAll table others entity).result⟩ := by
  induction predicates with
  | nil => rfl
  | cons predicate rest ih =>
    obtain ⟨hfirst, hrest⟩ := List.forall_mem_cons.1 h
    -- the first predicate holds, so its events come first and the rest decides
    rw [List.cons_append, evaluateAll, Trail.andThen_eq, hfirst]
    dsimp only
    rw [if_pos rfl, ih hrest, eventsOf, eventsOf, List.flatMap_cons, List.append_assoc]

/-- The trail of trying predicates on `entity`, one after another, up to the first that does not
hold. -/
inductive TriesInOrder (table : Table) (entity : Entity) :
    List Predicate → Trail Event Bool → Prop
  /-- All of them hold. -/
  | holds {predicates}
      (h : ∀ predicate ∈ predicates, (predicate.evaluate table entity).result = .ok true) :
      TriesInOrder table entity predicates ⟨eventsOf table entity predicates, .ok true⟩
  /-- The first `predicate` that does not hold is `false`; those `before` it hold, and those `after`
  it are not tried. -/
  | fails {before predicate after}
      (hbefore : ∀ earlier ∈ before, (earlier.evaluate table entity).result = .ok true)
      (h : (predicate.evaluate table entity).result = .ok false) :
      TriesInOrder table entity (before ++ predicate :: after)
        ⟨eventsOf table entity (before ++ [predicate]), .ok false⟩
  /-- The first `predicate` that does not hold ends with `fault`; those `before` it hold, and those
  `after` it are not tried. -/
  | faults {before predicate after fault}
      (hbefore : ∀ earlier ∈ before, (earlier.evaluate table entity).result = .ok true)
      (h : (predicate.evaluate table entity).result = .error fault) :
      TriesInOrder table entity (before ++ predicate :: after)
        ⟨eventsOf table entity (before ++ [predicate]), .error fault⟩

/-- A `predicate` that holds can be tried in front of `rest`, and its events come first. -/
theorem TriesInOrder.cons {predicate : Predicate} {rest : List Predicate}
    {trail : Trail Event Bool} (hfirst : (predicate.evaluate table entity).result = .ok true)
    (h : TriesInOrder table entity rest trail) :
    TriesInOrder table entity (predicate :: rest)
      ⟨(predicate.evaluate table entity).events ++ trail.events, trail.result⟩ := by
  cases h with
  | holds hrest => exact .holds (List.forall_mem_cons.2 ⟨hfirst, hrest⟩)
  | fails hbefore h => exact .fails (List.forall_mem_cons.2 ⟨hfirst, hbefore⟩) h
  | faults hbefore h => exact .faults (List.forall_mem_cons.2 ⟨hfirst, hbefore⟩) h

/-- The evaluation of `predicates` by `evaluateAll` tries them in order. -/
theorem triesInOrder_evaluateAll (table : Table) (entity : Entity) (predicates : List Predicate) :
    TriesInOrder table entity predicates (evaluateAll table predicates entity) := by
  induction predicates with
  | nil => exact .holds fun _ hmem => absurd hmem List.not_mem_nil
  | cons predicate rest ih =>
    have hnone : ∀ earlier ∈ ([] : List Predicate),
        (earlier.evaluate table entity).result = .ok true :=
      fun _ hmem => absurd hmem List.not_mem_nil
    have honly : eventsOf table entity ([] ++ [predicate]) =
        (predicate.evaluate table entity).events := eventsOf_concat [] predicate
    rw [evaluateAll, Trail.andThen_eq]
    -- the first predicate decides whether the others are tried at all
    cases hresult : (predicate.evaluate table entity).result with
    | error fault =>
      rw [← honly]
      exact .faults hnone hresult
    | ok holds =>
      cases holds with
      | false =>
        have h : TriesInOrder table entity ([] ++ predicate :: rest)
            ⟨eventsOf table entity ([] ++ [predicate]), .ok false⟩ := .fails hnone hresult
        rw [honly, ← List.append_nil (Trail.events _)] at h
        exact h
      | true => exact ih.cons hresult

/-- There is one way of trying `predicates` in order, that of `evaluateAll`. -/
theorem triesInOrder_iff {predicates : List Predicate} {trail : Trail Event Bool} :
    TriesInOrder table entity predicates trail ↔ trail = evaluateAll table predicates entity := by
  constructor
  · -- the predicates in front hold, so the one that decides is reached, and the trail ends there
    intro h
    cases h with
    | holds h =>
      have hall := evaluateAll_append_of_holds h []
      rw [List.append_nil] at hall
      rw [hall]
      exact congrArg (Trail.mk · _) (List.append_nil _).symm
    | @fails before predicate after hbefore h =>
      rw [evaluateAll_append_of_holds hbefore, evaluateAll, Trail.andThen_eq, h, eventsOf_concat]
      exact congrArg (Trail.mk · _) (congrArg _ (List.append_nil _).symm)
    | @faults before predicate after fault hbefore h =>
      rw [evaluateAll_append_of_holds hbefore, evaluateAll, Trail.andThen_eq, h, eventsOf_concat]
  · rintro rfl
    exact triesInOrder_evaluateAll table entity predicates

end Evaluation

section Description

mutual

/-- The description of `predicate` is made of those of its conjuncts, with the word for a
conjunction between them. -/
theorem intercalate_describe_conjuncts (predicate : Predicate) :
    " and ".intercalate (predicate.conjuncts.map describe) = predicate.describe := by
  cases predicate with
  | conjunction first rest =>
    have hfirst : first.conjuncts.map describe ≠ [] := by
      simpa using first.conjuncts_ne_nil
    calc " and ".intercalate ((Predicate.conjunction first rest).conjuncts.map describe)
        = " and ".intercalate (first.conjuncts.map describe ++
            (conjunctsOfAll rest).map describe) := by rw [conjuncts, List.map_append]
      _ = " and ".intercalate (first.conjuncts.map describe) ++ describeRest rest :=
          (intercalate_append_describeRest rest hfirst).symm
      _ = first.describe ++ describeRest rest := by rw [intercalate_describe_conjuncts first]
      _ = (Predicate.conjunction first rest).describe := rfl
  | _ => exact String.intercalate_singleton

/-- The words of `describeRest` add the descriptions of the conjuncts of `rest` behind `texts`. -/
theorem intercalate_append_describeRest (rest : List Predicate) {texts : List String}
    (htexts : texts ≠ []) :
    " and ".intercalate texts ++ describeRest rest =
      " and ".intercalate (texts ++ (conjunctsOfAll rest).map describe) := by
  match rest with
  | [] => simp [describeRest, conjunctsOfAll]
  | predicate :: others =>
    have hconjuncts : predicate.conjuncts.map describe ≠ [] := by
      simpa using predicate.conjuncts_ne_nil
    have hmore : texts ++ predicate.conjuncts.map describe ≠ [] :=
      List.append_ne_nil_of_left_ne_nil htexts _
    calc " and ".intercalate texts ++ describeRest (predicate :: others)
        = " and ".intercalate texts ++ " and " ++
            " and ".intercalate (predicate.conjuncts.map describe) ++ describeRest others := by
          rw [describeRest, intercalate_describe_conjuncts predicate]
          simp only [String.append_assoc]
      _ = " and ".intercalate (texts ++ predicate.conjuncts.map describe) ++
            describeRest others := by
          rw [String.intercalate_append_of_ne_nil htexts hconjuncts]
      _ = " and ".intercalate (texts ++ predicate.conjuncts.map describe ++
            (conjunctsOfAll others).map describe) :=
          intercalate_append_describeRest others hmore
      _ = " and ".intercalate (texts ++ (conjunctsOfAll (predicate :: others)).map describe) := by
          rw [conjunctsOfAll, List.map_append, List.append_assoc]

end

end Description

end Predicate

/-- A way of putting predicates together, a tree with the single ones as its leaves. -/
inductive Composition where
  /-- A single `predicate`, which is no conjunction. -/
  | leaf (predicate : Predicate) (h : predicate.isConjunction = false)
  /-- Two of them, by `Predicate.and`; the parts of conjunctions are joined. -/
  | both (first second : Composition)
  /-- One of them and a test of the entity behind it, by `Predicate.andOfEntity`. -/
  | andOfEntity (first : Composition) (description : String)
    (holds : Entity → Except Fault Bool)
  /-- At least one of them, by `Predicate.allOf`; the parts of conjunctions are joined, unless there
  is only one. -/
  | allOf (first : Composition) (rest : List Composition)
  /-- At least one of them, by `Predicate.conjunctionOf`; they become parts as they are. -/
  | conjunctionOf (first : Composition) (rest : List Composition)

namespace Composition

open Predicate

mutual

/-- The predicate that a composition puts together, each of its nodes in its own way, if nothing
goes wrong there. -/
def build : Composition → Except Fault Predicate
  | .leaf predicate _ => .ok predicate
  | .both first second => do
    let a ← first.build
    let b ← second.build
    return a.and b
  | .andOfEntity first description holds => do
    let predicate ← first.build
    return predicate.andOfEntity description holds
  | .allOf first rest => do
    let predicate ← first.build
    let others ← buildAll rest
    Predicate.allOf (predicate :: others)
  | .conjunctionOf first rest => do
    let predicate ← first.build
    let others ← buildAll rest
    Predicate.conjunctionOf (predicate :: others)

/-- The predicates that several compositions put together with `build`, in order. -/
def buildAll : List Composition → Except Fault (List Predicate)
  | [] => .ok []
  | composition :: rest => do
    let predicate ← composition.build
    let others ← buildAll rest
    return predicate :: others

end

mutual

/-- The single predicates of a composition, from left to right, however they are nested. -/
def leaves : Composition → List Predicate
  | .leaf predicate _ => [predicate]
  | .both first second => first.leaves ++ second.leaves
  | .andOfEntity first description holds => first.leaves ++ [ofEntity description holds]
  | .allOf first rest => first.leaves ++ leavesOfAll rest
  | .conjunctionOf first rest => first.leaves ++ leavesOfAll rest

/-- The single predicates of several compositions (`leaves`), from left to right. -/
def leavesOfAll : List Composition → List Predicate
  | [] => []
  | composition :: rest => composition.leaves ++ leavesOfAll rest

end

mutual

/-- A `composition` puts a predicate together without fault, and its `conjuncts` are the single
predicates. -/
theorem exists_build (composition : Composition) :
    ∃ predicate, composition.build = .ok predicate ∧ predicate.conjuncts = composition.leaves := by
  match composition with
  | .leaf predicate h => exact ⟨predicate, rfl, conjuncts_eq_singleton h⟩
  | .both first second =>
    -- none of the parts fails, and the conjuncts of the parts are joined
    obtain ⟨a, ha, hfirst⟩ := exists_build first
    obtain ⟨b, hb, hsecond⟩ := exists_build second
    refine ⟨a.and b, ?_, ?_⟩
    · rw [build, ha, hb]
      rfl
    · rw [conjuncts_and, hfirst, hsecond, leaves]
  | .andOfEntity first description holds =>
    obtain ⟨a, ha, hfirst⟩ := exists_build first
    refine ⟨a.andOfEntity description holds, ?_, ?_⟩
    · rw [build, ha]
      rfl
    · rw [Predicate.andOfEntity, conjuncts_and, hfirst, leaves]
      rfl
  | .allOf first rest =>
    obtain ⟨a, ha, hfirst⟩ := exists_build first
    obtain ⟨others, hothers, hrest⟩ := exists_buildAll rest
    obtain ⟨predicate, hjoin, hconjuncts⟩ := exists_allOf (List.cons_ne_nil a others)
    refine ⟨predicate, ?_, ?_⟩
    · rw [build, ha, hothers]
      exact hjoin
    · rw [hconjuncts, List.flatMap_cons, hfirst, hrest, leaves]
  | .conjunctionOf first rest =>
    obtain ⟨a, ha, hfirst⟩ := exists_build first
    obtain ⟨others, hothers, hrest⟩ := exists_buildAll rest
    obtain ⟨predicate, hjoin, hconjuncts⟩ := exists_conjunctionOf (List.cons_ne_nil a others)
    refine ⟨predicate, ?_, ?_⟩
    · rw [build, ha, hothers]
      exact hjoin
    · rw [hconjuncts, List.flatMap_cons, hfirst, hrest, leaves]

/-- So do several `compositions`, and the conjuncts of the predicates are the single predicates of
all of them. -/
theorem exists_buildAll (compositions : List Composition) :
    ∃ predicates, buildAll compositions = .ok predicates ∧
      predicates.flatMap conjuncts = leavesOfAll compositions := by
  match compositions with
  | [] => exact ⟨[], rfl, rfl⟩
  | composition :: rest =>
    obtain ⟨predicate, hfirst, hconjuncts⟩ := exists_build composition
    obtain ⟨others, hothers, hrest⟩ := exists_buildAll rest
    refine ⟨predicate :: others, ?_, ?_⟩
    · rw [buildAll, hfirst, hothers]
      rfl
    · rw [List.flatMap_cons, hconjuncts, hrest, leavesOfAll]

end

/-- The behaviour of `predicate` is that of the single predicates `leaves` in a row. -/
structure IsFlat (predicate : Predicate) (leaves : List Predicate) : Prop where
  /-- It is described by their descriptions. -/
  describe_eq : predicate.describe = " and ".intercalate (leaves.map describe)
  /-- It tries them in order on every entity and every table. -/
  triesInOrder : ∀ table entity,
    TriesInOrder table entity leaves (predicate.evaluate table entity)

/-- Every `predicate` behaves like its `conjuncts` in a row. -/
theorem isFlat_conjuncts (predicate : Predicate) : IsFlat predicate predicate.conjuncts where
  describe_eq := (intercalate_describe_conjuncts predicate).symm
  triesInOrder table entity :=
    triesInOrder_iff.2 (evaluateAll_conjuncts table predicate entity).symm

/-- Predicates that behave like the same `leaves` in a row have the same description and the same
evaluations. -/
theorem IsFlat.unique {predicate other : Predicate} {leaves : List Predicate}
    (h : IsFlat predicate leaves) (hother : IsFlat other leaves) :
    other.describe = predicate.describe ∧
      ∀ table entity, other.evaluate table entity = predicate.evaluate table entity := by
  refine ⟨hother.describe_eq.trans h.describe_eq.symm, fun table entity => ?_⟩
  rw [triesInOrder_iff.1 (h.triesInOrder table entity),
    triesInOrder_iff.1 (hother.triesInOrder table entity)]

/-- However predicates are put together, what comes out behaves like the single ones in a row
(`IsFlat`), so two ways of putting the same `leaves` together cannot be told apart. -/
theorem isFlat_of_build (composition : Composition) :
    ∃ predicate, composition.build = .ok predicate ∧ IsFlat predicate composition.leaves ∧
      ∀ other : Composition, other.leaves = composition.leaves →
        ∃ predicate', other.build = .ok predicate' ∧
          predicate'.describe = predicate.describe ∧
          ∀ table entity, predicate'.evaluate table entity = predicate.evaluate table entity := by
  obtain ⟨predicate, hbuild, hconjuncts⟩ := exists_build composition
  have hflat : IsFlat predicate composition.leaves := hconjuncts ▸ isFlat_conjuncts predicate
  refine ⟨predicate, hbuild, hflat, fun other hleaves => ?_⟩
  obtain ⟨predicate', hother, hconjuncts'⟩ := exists_build other
  have hflat' : IsFlat predicate' composition.leaves :=
    hleaves ▸ hconjuncts' ▸ isFlat_conjuncts predicate'
  exact ⟨predicate', hother, hflat.unique hflat'⟩

section Example

/-- A test with this `description` that ends with `result` on every entity. -/
def ending (description : String) (result : Except Fault Bool) : Predicate :=
  ofEntity description fun _ => result

/-- A test that holds in front of a conjunction of one that gives up and one that does not hold. -/
def groupedRight : Composition :=
  .both (.leaf (ending "a" (.ok true)) rfl)
    (.allOf (.conjunctionOf (.leaf (ending "b" (.error .wrongType)) rfl)
      [.leaf (ending "c" (.ok false)) rfl]) [])

/-- The same three tests, the first two of which are put together first, in a group of their own. -/
def groupedLeft : Composition :=
  .conjunctionOf (.andOfEntity (.leaf (ending "a" (.ok true)) rfl) "b" fun _ => .error .wrongType)
    [.leaf (ending "c" (.ok false)) rfl]

/-- The two ways have different parts, but nobody can tell: both give up at the second test. -/
theorem isFlat_of_build_grouped :
    groupedLeft.leaves = groupedRight.leaves ∧
      ∃ predicate other, groupedRight.build = .ok predicate ∧ groupedLeft.build = .ok other ∧
        predicate.leaves.length = 3 ∧ other.leaves.length = 2 ∧
        IsFlat predicate groupedRight.leaves ∧ other.describe = predicate.describe ∧
        (∀ table entity, other.evaluate table entity = predicate.evaluate table entity) ∧
        predicate.describe = "a and b and c" ∧
        ∀ table entity, predicate.evaluate table entity =
          ⟨[.tried (ending "a" (.ok true)) entity,
            .tried (ending "b" (.error .wrongType)) entity], .error .wrongType⟩ := by
  have hleaves : groupedLeft.leaves = groupedRight.leaves := rfl
  obtain ⟨predicate, hbuild, hflat, hsame⟩ := isFlat_of_build groupedRight
  obtain ⟨other, hother, hdescribe, hevaluate⟩ := hsame groupedLeft hleaves
  refine ⟨hleaves, predicate, other, hbuild, hother, ?_, ?_, hflat, hdescribe, hevaluate, ?_, ?_⟩
  · cases hbuild
    rfl
  · cases hother
    rfl
  · cases hbuild
    rfl
  · cases hbuild
    exact fun _ _ => rfl

end Example

end Composition

end Reidentify

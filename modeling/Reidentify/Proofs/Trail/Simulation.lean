import Reidentify.Proofs.Trail.Result

/-!
# Simulation of computations

One computation simulates another one if related values come out of both, or faults. What the faults
have to do with each other depends on the purpose, so it is a parameter, `FaultMatch`: a fault is
answered by the same fault, or by any other one.

The rules of this module compose simulations along the operations that computations are built
from; each of them is a single induction on the list or a case distinction on the first result.

## Main definitions

* `Simulates faults R x y`: the result `y` answers to the result `x`, where values are related by
  `R`.
* `FaultMatch.alike`: a fault is answered by a fault.
* `FaultMatch.same`: a fault is answered by the same fault.
-/

namespace Reidentify

/-- How the faults of one computation bind the computation that simulates it, a reflexive relation
of faults. -/
structure FaultMatch where
  /-- Whether the other computation may answer the first fault by the second one. -/
  answers : Fault → Fault → Prop
  /-- Every fault may be answered by itself. -/
  answers_self : ∀ fault, answers fault fault

/-- Every fault may be answered by any other one: only whether there is a fault counts. -/
def FaultMatch.alike : FaultMatch := ⟨fun _ _ => True, fun _ => trivial⟩

/-- Every fault has to be answered by the same fault, unlike in `FaultMatch.alike`. -/
def FaultMatch.same : FaultMatch := ⟨Eq, fun _ => rfl⟩

variable {ω ω' α β γ δ : Type} {faults : FaultMatch}

/-- The second result answers to the first one: the values of both are related by `R`, or the faults
of both match by `faults`. -/
inductive Simulates (faults : FaultMatch) (R : α → β → Prop) :
    Except Fault α → Except Fault β → Prop
  /-- Two values `a` and `b` that are related. -/
  | ok {a b} (h : R a b) : Simulates faults R (.ok a) (.ok b)
  /-- Two faults `f` and `g`, the second of which answers the first one. -/
  | fault {f g} (h : faults.answers f g) : Simulates faults R (.error f) (.error g)

namespace Simulates

variable {R : α → β → Prop} {S : γ → δ → Prop}

/-- A `fault` answers to itself, whatever `faults` and `R` are. -/
theorem error (fault : Fault) : Simulates faults R (.error fault) (.error fault) :=
  .fault (faults.answers_self fault)

/-- A result `x` answers to itself if its value is related to itself. -/
theorem refl {R : α → α → Prop} {x : Except Fault α} (h : ∀ a, x = .ok a → R a a) :
    Simulates faults R x x := by
  cases x with
  | ok a => exact .ok (h a rfl)
  | error fault => exact .error fault

/-- If `y` answers to the value `a`, it is a value `b` that is related to `a`. -/
theorem exists_of_ok {a : α} {y : Except Fault β} (h : Simulates faults R (.ok a) y) :
    ∃ b, y = .ok b ∧ R a b := by
  cases h with
  | ok hab => exact ⟨_, rfl, hab⟩

/-- Where every fault answers every other one (`alike`), both computations end with a value or
neither does. -/
theorem isOk_iff {x : Except Fault α} {y : Except Fault β} (h : Simulates .alike R x y) :
    (∃ a, x = .ok a) ↔ ∃ b, y = .ok b := by
  cases h with
  | ok hab => exact ⟨fun _ => ⟨_, rfl⟩, fun _ => ⟨_, rfl⟩⟩
  | fault _ =>
    constructor
    · rintro ⟨a, ha⟩
      cases ha
    · rintro ⟨b, hb⟩
      cases hb

/-- Results that answer to each other with the same values and the same faults are equal. -/
theorem eq {x y : Except Fault α} (h : Simulates .same Eq x y) : x = y := by
  cases h with
  | ok hab => rw [hab]
  | fault hfg =>
    have heq : _ = _ := hfg
    rw [heq]

/-- The relation `R` of the values can be replaced by a weaker one, `R'`. -/
theorem mono {R' : α → β → Prop} {x : Except Fault α} {y : Except Fault β}
    (h : Simulates faults R x y) (hR : ∀ a b, R a b → R' a b) : Simulates faults R' x y := by
  cases h with
  | ok hab => exact .ok (hR _ _ hab)
  | fault hfg => exact .fault hfg

/-- Sequences simulate each other if their first steps do, and their second steps do on related
values. -/
theorem bind {x : Except Fault α} {y : Except Fault β} {f : α → Except Fault γ}
    {g : β → Except Fault δ} (h : Simulates faults R x y)
    (hnext : ∀ a b, R a b → Simulates faults S (f a) (g b)) :
    Simulates faults S (x >>= f) (y >>= g) := by
  cases h with
  | ok hab => exact hnext _ _ hab
  | fault hfg => exact .fault hfg

/-- The computations may go on with functions `f` and `g` of their values, if these take related
values to values related by `S`. -/
theorem map {x : Except Fault α} {y : Except Fault β} {f : α → γ} {g : β → δ}
    (h : Simulates faults R x y) (hmap : ∀ a b, R a b → S (f a) (g b)) :
    Simulates faults S (x >>= fun a => .ok (f a)) (y >>= fun b => .ok (g b)) :=
  h.bind fun a b hab => .ok (hmap a b hab)

section Lists

variable {first : α → Trail ω γ} {second : β → Trail ω' δ}

/-- If `first` and `second` simulate each other on related items, so do the computations for all
items of related lists. -/
theorem forEach {items : List α} {others : List β} (h : List.Forall₂ R items others)
    (hstep : ∀ a b, R a b → Simulates faults S (first a).result (second b).result) :
    Simulates faults (List.Forall₂ S) (Trail.forEach items first).result
      (Trail.forEach others second).result := by
  induction h with
  | nil => exact .ok .nil
  | cons hab _ ih =>
    rw [Trail.result_forEach_cons, Trail.result_forEach_cons]
    exact (hstep _ _ hab).bind fun c d hcd => ih.map fun cs ds hall => .cons hcd hall

/-- Sifting related lists with `Trail.keep` by tests that answer to each other leaves related lists.
-/
theorem keep {items : List α} {others : List β} {test : α → Trail ω Bool}
    {test' : β → Trail ω' Bool} (h : List.Forall₂ R items others)
    (htest : ∀ a b, R a b → Simulates faults Eq (test a).result (test' b).result) :
    Simulates faults (List.Forall₂ R) (Trail.keep items test).result
      (Trail.keep others test').result := by
  induction h with
  | nil => exact .ok .nil
  | cons hab _ ih =>
    rw [Trail.keep, Trail.keep, Trail.result_andThen, Trail.result_andThen]
    refine (htest _ _ hab).bind ?_
    rintro kept _ rfl
    rw [Trail.result_andThen, Trail.result_andThen]
    refine ih.map fun cs ds hall => ?_
    -- the tests agree: both lists keep the item, or both drop it
    cases kept with
    | true => exact .cons hab hall
    | false => exact hall

/-- Searching related lists with `Trail.exists?` by tests that answer to each other has the same
answer. -/
theorem exists? {items : List α} {others : List β} {test : α → Trail ω Bool}
    {test' : β → Trail ω' Bool} (h : List.Forall₂ R items others)
    (htest : ∀ a b, R a b → Simulates faults Eq (test a).result (test' b).result) :
    Simulates faults Eq (Trail.exists? items test).result
      (Trail.exists? others test').result := by
  induction h with
  | nil => exact .ok rfl
  | cons hab _ ih =>
    rw [Trail.exists?, Trail.exists?, Trail.result_andThen, Trail.result_andThen]
    refine (htest _ _ hab).bind ?_
    rintro found _ rfl
    -- the tests agree: both searches stop here, or both go on
    cases found with
    | true => exact .ok rfl
    | false => exact ih

/-- Running over related lists with states that are related by `T` ends in states that are related
by `T`, if every step keeps the relation. -/
theorem foldEach {T : α → β → Prop} {items : List γ} {others : List δ} {a : α} {b : β}
    {step : α → γ → Trail ω α} {step' : β → δ → Trail ω' β}
    (h : List.Forall₂ S items others) (hab : T a b)
    (hstep : ∀ a b c d, T a b → S c d → Simulates faults T (step a c).result (step' b d).result) :
    Simulates faults T (Trail.foldEach items a step).result
      (Trail.foldEach others b step').result := by
  induction h generalizing a b with
  | nil => exact .ok hab
  | cons hcd _ ih =>
    rw [Trail.result_foldEach_cons, Trail.result_foldEach_cons]
    exact (hstep _ _ _ _ hab hcd).bind fun _ _ hnext => ih hnext

end Lists

section Permutations

/-- Simulations by which every fault answers every other one can be chained, if `R` is transitive.
-/
theorem trans {R : α → α → Prop} (hR : ∀ a b c, R a b → R b c → R a c) {x y z : Except Fault α}
    (h : Simulates .alike R x y) (h' : Simulates .alike R y z) : Simulates .alike R x z := by
  cases h with
  | ok hab =>
    cases h' with
    | ok hbc => exact .ok (hR _ _ _ hab hbc)
  | fault _ =>
    cases h' with
    | fault _ => exact .fault trivial

/-- Sifting a rearranged list by `test` keeps the same items up to their order, or gives up as well,
perhaps with the fault of another item. -/
theorem keep_perm {items others : List α} (h : items.Perm others) (test : α → Trail ω Bool) :
    Simulates .alike List.Perm (Trail.keep items test).result (Trail.keep others test).result := by
  induction h with
  | nil => exact .ok (.refl _)
  | cons item _ ih =>
    simp only [Trail.keep, Trail.result_andThen, Trail.result_done]
    refine (refl (R := Eq) fun _ _ => rfl).bind ?_
    rintro holds _ rfl
    refine ih.map fun kept kept' hkept => ?_
    cases holds with
    | true => exact hkept.cons item
    | false => exact hkept
  | swap a b rest =>
    -- whichever of the two tests and of the rest give up, the whole does on both sides
    simp only [Trail.keep, Trail.result_andThen, Trail.result_done]
    rcases (test a).result with faultA | keptA <;> rcases (test b).result with faultB | keptB <;>
      rcases (Trail.keep rest test).result with fault | kept <;>
      first
      | exact .fault trivial
      | refine .ok ?_
    cases keptA <;> cases keptB <;> first | exact .refl _ | exact .swap _ _ _
  | trans _ _ ih ih' => exact ih.trans (fun _ _ _ => .trans) ih'

end Permutations

end Simulates

end Reidentify

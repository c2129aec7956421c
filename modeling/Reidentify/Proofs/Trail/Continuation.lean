import Reidentify.Proofs.Trail.Events

/-!
# Computations that go on

A computation may stop because something is missing that will be there later. When it is done again
later it goes the same way up to this point, and goes on from there. If nothing was missing it goes
the same way to the end.

## Main definitions

* `Trail.Continues`: a computation continues another one that may have stopped for want of
  something.

## Main statements

* `Trail.Continues.andThen`, `Trail.Continues.exists?`: sequences and searches continue if their
  parts do.
* `Trail.Continues.eq`: if nothing is missing, both computations are the same.
-/

namespace Reidentify.Trail

variable {ω α β : Type} {missing : Fault → Prop}

/-- The second computation continues the first one: they are the same, or the first one has stopped
with a fault that is `missing` something, and the second one begins with its events. -/
inductive Continues (missing : Fault → Prop) : Trail ω α → Trail ω α → Prop
  /-- The computations are the same, whichever way they end. -/
  | same (trail) : Continues missing trail trail
  /-- The first computation has stopped for want of something, and the `second` one has done all
  that it did. -/
  | stopped {events fault second} (hmissing : missing fault) (hevents : events <+: second.events) :
    Continues missing ⟨events, .error fault⟩ second

/-- The events of `first` stand at the beginning of those of `first.andThen next`, whether or not
`next` is reached. -/
theorem events_prefix_andThen (first : Trail ω α) (next : α → Trail ω β) :
    first.events <+: (first.andThen next).events := by
  rw [andThen_eq]
  cases first.result with
  | error fault => exact List.prefix_rfl
  | ok a => exact List.prefix_append _ _

namespace Continues

variable {first second : Trail ω α}

/-- A result `y` without events continues `x` if it is the same, or if `x` is a fault that is
`missing` something. -/
theorem lift {x y : Except Fault α} (h : y = x ∨ ∃ fault, missing fault ∧ x = .error fault) :
    Continues missing (lift x : Trail ω α) (lift y) := by
  rcases h with rfl | ⟨fault, hmissing, rfl⟩
  · exact .same _
  · exact .stopped hmissing List.prefix_rfl

/-- Sequences continue each other (`Continues`) if their first and their second steps do. -/
theorem andThen {next next' : α → Trail ω β} (h : Continues missing first second)
    (hnext : ∀ a, Continues missing (next a) (next' a)) :
    Continues missing (first.andThen next) (second.andThen next') := by
  cases h with
  | stopped hmissing hevents =>
    rw [andThen_fail]
    exact .stopped hmissing (hevents.trans (events_prefix_andThen second next'))
  | same =>
    rw [andThen_eq, andThen_eq]
    cases first.result with
    | error fault => exact .same _
    | ok a =>
      -- the events of the first step stand before those of the second one on both sides
      dsimp only
      generalize next a = rest, next' a = rest', hnext a = h
      cases h with
      | same => exact .same _
      | stopped hmissing hevents =>
        exact .stopped hmissing ((List.prefix_append_right_inj _).2 hevents)

/-- A search of a list continues another one (`Continues`) if the tests do on every item. -/
theorem exists? {items : List α} {test test' : α → Trail ω Bool}
    (h : ∀ item, Continues missing (test item) (test' item)) :
    Continues missing (Trail.exists? items test) (Trail.exists? items test') := by
  induction items with
  | nil => exact .same _
  | cons item rest ih =>
    refine (h item).andThen fun found => ?_
    -- the search goes on behind the item only if both tests have failed
    cases found with
    | true => exact .same _
    | false => exact ih

/-- If the first computation has no fault that is `missing` something, the second one is the same.
-/
theorem eq (h : Continues missing first second)
    (hpresent : ∀ fault, first.result = .error fault → ¬ missing fault) : second = first := by
  cases h with
  | same => rfl
  | stopped hmissing _ => exact absurd hmissing (hpresent _ rfl)

end Continues

end Reidentify.Trail

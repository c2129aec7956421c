import Reidentify.Fault

/-!
# Computations with a trail

A computation that leaves a trail ends with a value or with a fault, and in both cases with the
list of events that happened on the way, in order. When computations follow each other their
trails are joined, and nothing happens any more behind a fault.
-/

namespace Reidentify

/-- A computation with values in `α`: the events of type `ω` that happened, and how it ended. -/
structure Trail (ω α : Type) where
  /-- The events in the order in which they happened, up to the fault if there is one. -/
  events : List ω
  /-- The value or the fault at the end. -/
  result : Except Fault α

namespace Trail

variable {ω α β : Type}

/-- A computation without events that ends with the value `a`. -/
def done (a : α) : Trail ω α := ⟨[], .ok a⟩

/-- A computation without events that ends with `fault`. -/
def fail (fault : Fault) : Trail ω α := ⟨[], .error fault⟩

/-- A computation without events that ends with `result`, whichever of the two it is. -/
def lift (result : Except Fault α) : Trail ω α := ⟨[], result⟩

/-- A computation that consists of the single `event`. -/
def emit (event : ω) : Trail ω Unit := ⟨[event], .ok ()⟩

/-- The computation `first` and, if it ends with a value, `next` on that value. The events are
joined, and a fault of `first` leaves `next` out. -/
def andThen (first : Trail ω α) (next : α → Trail ω β) : Trail ω β :=
  match first.result with
  | .error fault => ⟨first.events, .error fault⟩
  | .ok a =>
    let rest := next a
    ⟨first.events ++ rest.events, rest.result⟩

instance : Monad (Trail ω) where
  pure := done
  bind := andThen

@[simp] theorem pure_eq (a : α) : (pure a : Trail ω α) = ⟨[], .ok a⟩ := rfl

@[simp] theorem bind_eq (first : Trail ω α) (next : α → Trail ω β) :
    first >>= next = first.andThen next := rfl

@[simp] theorem andThen_fail (events : List ω) (fault : Fault) (next : α → Trail ω β) :
    andThen ⟨events, .error fault⟩ next = ⟨events, .error fault⟩ := rfl

@[simp] theorem andThen_done (events : List ω) (a : α) (next : α → Trail ω β) :
    andThen ⟨events, .ok a⟩ next = ⟨events ++ (next a).events, (next a).result⟩ := rfl

/-- The computation `step` for every item of `items`, in order, with the list of their values. -/
def forEach (items : List α) (step : α → Trail ω β) : Trail ω (List β) :=
  match items with
  | [] => done []
  | item :: rest =>
    (step item).andThen fun b => (forEach rest step).andThen fun bs => done (b :: bs)

/-- The elements of `items` for which `test` ends with `true`. The test is made for all of them, in
order. -/
def keep (items : List α) (test : α → Trail ω Bool) : Trail ω (List α) :=
  match items with
  | [] => done []
  | item :: rest =>
    (test item).andThen fun kept =>
      (keep rest test).andThen fun others => done (if kept then item :: others else others)

/-- Whether `test` ends with `true` for some element of `items`; those behind the first such one are
not looked at. -/
def exists? (items : List α) (test : α → Trail ω Bool) : Trail ω Bool :=
  match items with
  | [] => done false
  | item :: rest =>
    (test item).andThen fun found => if found then done true else exists? rest test

/-- Runs `step` over `items` with a state that begins as `state` and is handed on from item to item.
-/
def foldEach (items : List α) (state : β) (step : β → α → Trail ω β) : Trail ω β :=
  match items with
  | [] => done state
  | item :: rest => (step state item).andThen fun next => foldEach rest next step

end Trail

end Reidentify

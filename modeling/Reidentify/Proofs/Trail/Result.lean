import Mathlib.Data.List.Forall2
import Reidentify.Query.Event

/-!
# Results of computations

The result of a computation does not depend on its trail. This module says what the results of
composed computations are in terms of the results of their parts.

## Main statements

* `Except.bind_eq_ok_iff`: a sequence ends with a value if both of its steps do.
* `Trail.result_andThen`: the result of a sequence is the sequence of the results.
* `Trail.result_forEach_ok_iff`: a computation for every item ends with a value if it does for
  every single item.
* `Trail.result_forEach_error`: otherwise it ends with the fault of the first item that has one.
-/

namespace Reidentify

section Sequence

variable {α β : Type}

/-- The sequence `x >>= f` ends with `b` iff `x` ends with some value `a` and `f a` ends with `b`.
-/
theorem Except.bind_eq_ok_iff {x : Except Fault α} {f : α → Except Fault β} {b : β} :
    x >>= f = .ok b ↔ ∃ a, x = .ok a ∧ f a = .ok b := by
  constructor
  · intro h
    cases x with
    | error fault => cases h
    | ok a => exact ⟨a, rfl, h⟩
  · rintro ⟨a, rfl, h⟩
    exact h

/-- The sequence `x >>= f` ends with `fault` iff `x` does, or `x` ends with a value `a` and `f a`
ends with `fault`. -/
theorem Except.bind_eq_error_iff {x : Except Fault α} {f : α → Except Fault β} {fault : Fault} :
    x >>= f = .error fault ↔ x = .error fault ∨ ∃ a, x = .ok a ∧ f a = .error fault := by
  constructor
  · intro h
    cases x with
    | error other =>
      cases h
      exact .inl rfl
    | ok a => exact .inr ⟨a, rfl, h⟩
  · rintro (rfl | ⟨a, rfl, h⟩)
    · rfl
    · exact h

@[simp] theorem Except.ok_bind (a : α) (f : α → Except Fault β) :
    (.ok a : Except Fault α) >>= f = f a := rfl

@[simp] theorem Except.error_bind (fault : Fault) (f : α → Except Fault β) :
    (.error fault : Except Fault α) >>= f = .error fault := rfl

/-- Ending with the value of `x` is ending as `x` does. -/
@[simp] theorem Except.bind_ok (x : Except Fault α) : (x >>= fun a => .ok a) = x := by
  cases x <;> rfl

/-- Three steps `x`, `f` and `g` can be bracketed in either way. -/
theorem Except.bind_assoc {γ : Type} (x : Except Fault α) (f : α → Except Fault β)
    (g : β → Except Fault γ) : (x >>= f) >>= g = x >>= fun a => f a >>= g := by
  cases x <;> rfl

end Sequence

namespace Trail

variable {ω α β : Type}

/-- The result of `first.andThen next` is the sequence of the results of its steps, whatever their
events are. -/
@[simp] theorem result_andThen (first : Trail ω α) (next : α → Trail ω β) :
    (first.andThen next).result = first.result >>= fun a => (next a).result := by
  obtain ⟨events, result⟩ := first
  cases result <;> rfl

@[simp] theorem result_done (a : α) : (done a : Trail ω α).result = .ok a := rfl

@[simp] theorem result_lift (result : Except Fault α) :
    (lift result : Trail ω α).result = result := rfl

@[simp] theorem result_emit (event : ω) : (emit event).result = .ok () := rfl

@[simp] theorem result_log (level : LogLevel) (source : LogSource) (text : String) :
    (log level source text).result = .ok () := rfl

@[simp] theorem result_forEach_nil (step : α → Trail ω β) :
    (forEach [] step).result = .ok [] := rfl

@[simp] theorem result_forEach_cons (item : α) (rest : List α) (step : α → Trail ω β) :
    (forEach (item :: rest) step).result =
      (step item).result >>= fun b => (forEach rest step).result >>= fun bs => .ok (b :: bs) := by
  simp [forEach]

@[simp] theorem result_foldEach_nil (state : β) (step : β → α → Trail ω β) :
    (foldEach [] state step).result = .ok state := rfl

@[simp] theorem result_foldEach_cons (item : α) (rest : List α) (state : β)
    (step : β → α → Trail ω β) :
    (foldEach (item :: rest) state step).result =
      (step state item).result >>= fun next => (foldEach rest next step).result := by
  simp [foldEach]

/-- The computation `forEach items step` ends with `bs` iff the steps of the single items end with
the elements of `bs`. -/
theorem result_forEach_ok_iff {items : List α} {step : α → Trail ω β} {bs : List β} :
    (forEach items step).result = .ok bs ↔
      List.Forall₂ (fun item b => (step item).result = .ok b) items bs := by
  induction items generalizing bs with
  | nil =>
    rw [result_forEach_nil, List.forall₂_nil_left_iff, Except.ok.injEq]
    exact eq_comm
  | cons item rest ih =>
    rw [result_forEach_cons, Except.bind_eq_ok_iff, List.forall₂_cons_left_iff]
    constructor
    · rintro ⟨b, hb, h⟩
      obtain ⟨others, hothers, hbs⟩ := Except.bind_eq_ok_iff.1 h
      cases hbs
      exact ⟨b, others, hb, ih.1 hothers, rfl⟩
    · rintro ⟨b, others, hb, hothers, rfl⟩
      exact ⟨b, hb, Except.bind_eq_ok_iff.2 ⟨others, ih.2 hothers, rfl⟩⟩

/-- If `forEach items step` ends with `fault`, so does the step of some `item`, and the items
`before` it have their values. -/
theorem result_forEach_error {items : List α} {step : α → Trail ω β} {fault : Fault}
    (h : (forEach items step).result = .error fault) :
    ∃ before item after, items = before ++ item :: after ∧
      (∀ earlier ∈ before, ∃ b, (step earlier).result = .ok b) ∧
      (step item).result = .error fault := by
  induction items with
  | nil => cases h
  | cons item rest ih =>
    rw [result_forEach_cons] at h
    rcases Except.bind_eq_error_iff.1 h with hitem | ⟨b, hb, hrest⟩
    · exact ⟨[], item, rest, rfl, by simp, hitem⟩
    · -- the first item has its value, so the fault comes from one of the others
      rcases Except.bind_eq_error_iff.1 hrest with hrest | ⟨bs, -, hnone⟩
      · obtain ⟨before, failing, after, rfl, hbefore, hfailing⟩ := ih hrest
        refine ⟨item :: before, failing, after, rfl, ?_, hfailing⟩
        intro earlier hmem
        rcases List.mem_cons.1 hmem with rfl | hmem
        · exact ⟨b, hb⟩
        · exact hbefore earlier hmem
      · cases hnone

/-- Two computations `step` and `step'` for every item end in the same way if they do for every
single item. -/
theorem result_forEach_congr {items : List α} {step step' : α → Trail ω β}
    (h : ∀ item ∈ items, (step item).result = (step' item).result) :
    (forEach items step).result = (forEach items step').result := by
  induction items with
  | nil => rfl
  | cons item rest ih =>
    obtain ⟨hitem, hrest⟩ := List.forall_mem_cons.1 h
    rw [result_forEach_cons, result_forEach_cons, hitem, ih hrest]

/-- A list is sifted in the same way by tests `test` and `test'` that end in the same way. -/
theorem result_keep_congr {test test' : α → Trail ω Bool} (items : List α)
    (h : ∀ item, (test item).result = (test' item).result) :
    (keep items test).result = (keep items test').result := by
  induction items with
  | nil => rfl
  | cons item rest ih => simp only [keep, result_andThen, h, ih]

/-- What `keep` leaves of `items` are some of them, in their order. -/
theorem sublist_of_keep {items kept : List α} {test : α → Trail ω Bool}
    (h : (keep items test).result = .ok kept) : kept.Sublist items := by
  induction items generalizing kept with
  | nil =>
    cases h
    exact .slnil
  | cons item rest ih =>
    simp only [keep, result_andThen] at h
    obtain ⟨holds, -, h⟩ := Except.bind_eq_ok_iff.1 h
    obtain ⟨others, hothers, h⟩ := Except.bind_eq_ok_iff.1 h
    cases h
    cases holds with
    | true => exact (ih hothers).cons_cons item
    | false => exact (ih hothers).cons item

/-- If `keep` ends with `fault`, so does the test of some item. -/
theorem exists_item_of_keep {items : List α} {test : α → Trail ω Bool} {fault : Fault}
    (h : (keep items test).result = .error fault) :
    ∃ item ∈ items, (test item).result = .error fault := by
  induction items with
  | nil => cases h
  | cons item rest ih =>
    simp only [keep, result_andThen] at h
    rcases Except.bind_eq_error_iff.1 h with hitem | ⟨holds, -, h⟩
    · exact ⟨item, List.mem_cons_self .., hitem⟩
    · rcases Except.bind_eq_error_iff.1 h with hrest | ⟨others, -, hnone⟩
      · obtain ⟨other, hother, hfault⟩ := ih hrest
        exact ⟨other, List.mem_cons_of_mem _ hother, hfault⟩
      · cases hnone

/-- If the search `exists?` ends with `fault`, so does the test of some item. -/
theorem exists_item_of_exists? {items : List α} {test : α → Trail ω Bool} {fault : Fault}
    (h : (exists? items test).result = .error fault) :
    ∃ item ∈ items, (test item).result = .error fault := by
  induction items with
  | nil => cases h
  | cons item rest ih =>
    rw [exists?, result_andThen] at h
    rcases Except.bind_eq_error_iff.1 h with hitem | ⟨found, -, hrest⟩
    · exact ⟨item, List.mem_cons_self .., hitem⟩
    -- behind an item that satisfies the test nothing is tried any more
    · cases found with
      | true => cases hrest
      | false =>
        obtain ⟨other, hother, hfault⟩ := ih hrest
        exact ⟨other, List.mem_cons_of_mem _ hother, hfault⟩

end Trail

end Reidentify

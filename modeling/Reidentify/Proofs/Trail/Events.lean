import Reidentify.Proofs.Trail.Result

/-!
# Events of computations

The trail of a composed computation consists of the trails of those of its parts that were reached.
This module says where an event of a composed computation comes from.

## Main statements

* `Trail.andThen_assoc`: sequences can be bracketed in either way.
* `Trail.mem_events_andThen`: an event of a sequence is one of its first step, or one of its second
  step if that is reached.
* `Trail.mem_events_foldEach`: an event of a run over a list is one of some step, in the state that
  the steps before it have led to.
-/

namespace Reidentify.Trail

variable {ω α β : Type} {event : ω}

/-- The sequence `first.andThen next` by the result of its first step, the definition as an
equation. -/
theorem andThen_eq (first : Trail ω α) (next : α → Trail ω β) :
    first.andThen next =
      match first.result with
      | .error fault => ⟨first.events, .error fault⟩
      | .ok a => ⟨first.events ++ (next a).events, (next a).result⟩ := rfl

/-- Three computations in a row (`andThen`) can be bracketed in either way. -/
theorem andThen_assoc {γ : Type} (first : Trail ω α) (next : α → Trail ω β)
    (last : β → Trail ω γ) :
    (first.andThen next).andThen last = first.andThen fun a => (next a).andThen last := by
  obtain ⟨events, result⟩ := first
  cases result with
  | error fault => rfl
  | ok a =>
    rw [andThen_done, andThen_done]
    obtain ⟨behind, result⟩ := next a
    cases result with
    | error fault => rfl
    | ok b => rw [andThen_done, andThen_done, List.append_assoc]

/-- Ending with the value of `trail` is ending as `trail` does: `done` is neutral behind a
computation. -/
theorem andThen_done_right (trail : Trail ω α) : trail.andThen done = trail := by
  obtain ⟨events, result⟩ := trail
  cases result with
  | error fault => rfl
  | ok a =>
    rw [andThen_done]
    exact congrArg (Trail.mk · _) (List.append_nil events)

/-- An `event` of `first.andThen next` is one of `first`, or one of `next a` if `first` ends with
the value `a`. -/
theorem mem_events_andThen {first : Trail ω α} {next : α → Trail ω β} :
    event ∈ (first.andThen next).events ↔
      event ∈ first.events ∨ ∃ a, first.result = .ok a ∧ event ∈ (next a).events := by
  obtain ⟨events, result⟩ := first
  cases result <;> simp

@[simp] theorem events_done (a : α) : (done a : Trail ω α).events = [] := rfl

@[simp] theorem events_lift (result : Except Fault α) : (lift result : Trail ω α).events = [] := rfl

@[simp] theorem events_emit (event : ω) : (emit event).events = [event] := rfl

@[simp] theorem events_log (level : LogLevel) (source : LogSource) (text : String) :
    (log level source text).events = [.logged ⟨level, source, text⟩] := rfl

section Lists

variable {items : List α}

/-- An `event` of `forEach items step` is one of the step of some item. -/
theorem exists_of_mem_events_forEach {step : α → Trail ω β}
    (h : event ∈ (forEach items step).events) : ∃ item ∈ items, event ∈ (step item).events := by
  induction items with
  | nil => cases h
  | cons item rest ih =>
    simp only [forEach, mem_events_andThen, events_done, List.not_mem_nil, and_false, exists_false,
      or_false] at h
    rcases h with hitem | ⟨b, -, hrest⟩
    · exact ⟨item, List.mem_cons_self .., hitem⟩
    · obtain ⟨other, hother, hevent⟩ := ih hrest
      exact ⟨other, List.mem_cons_of_mem _ hother, hevent⟩

/-- If `forEach items step` ends with values, the events of the step of every item happen in it. -/
theorem mem_events_forEach {step : α → Trail ω β} {bs : List β}
    (hresult : (forEach items step).result = .ok bs) {item : α} (hmem : item ∈ items)
    (h : event ∈ (step item).events) : event ∈ (forEach items step).events := by
  induction items generalizing bs with
  | nil => cases hmem
  | cons first rest ih =>
    -- the first item and the others all have their values, so none of them ends the run
    rw [result_forEach_cons] at hresult
    obtain ⟨b, hb, hresult⟩ := Except.bind_eq_ok_iff.1 hresult
    obtain ⟨others, hothers, -⟩ := Except.bind_eq_ok_iff.1 hresult
    rw [forEach, mem_events_andThen]
    rcases List.mem_cons.1 hmem with rfl | hmem
    · exact .inl h
    · refine .inr ⟨b, hb, ?_⟩
      rw [mem_events_andThen]
      exact .inl (ih hothers hmem)

/-- An `event` of `keep items test` is one of the test of some item. -/
theorem exists_of_mem_events_keep {test : α → Trail ω Bool}
    (h : event ∈ (keep items test).events) : ∃ item ∈ items, event ∈ (test item).events := by
  induction items with
  | nil => cases h
  | cons item rest ih =>
    simp only [keep, mem_events_andThen, events_done, List.not_mem_nil, and_false, exists_false,
      or_false] at h
    rcases h with hitem | ⟨holds, -, hrest⟩
    · exact ⟨item, List.mem_cons_self .., hitem⟩
    · obtain ⟨other, hother, hevent⟩ := ih hrest
      exact ⟨other, List.mem_cons_of_mem _ hother, hevent⟩

/-- If `keep items test` ends with a list, the events of the test of every item happen in it. -/
theorem mem_events_keep {test : α → Trail ω Bool} {kept : List α}
    (hresult : (keep items test).result = .ok kept) {item : α} (hmem : item ∈ items)
    (h : event ∈ (test item).events) : event ∈ (keep items test).events := by
  induction items generalizing kept with
  | nil => cases hmem
  | cons first rest ih =>
    simp only [keep, result_andThen] at hresult
    obtain ⟨holds, hholds, hresult⟩ := Except.bind_eq_ok_iff.1 hresult
    obtain ⟨others, hothers, -⟩ := Except.bind_eq_ok_iff.1 hresult
    rw [keep, mem_events_andThen]
    rcases List.mem_cons.1 hmem with rfl | hmem
    · exact .inl h
    · refine .inr ⟨holds, hholds, ?_⟩
      rw [mem_events_andThen]
      exact .inl (ih hothers hmem)

/-- An `event` of the search `exists? items test` is one of the test of some item. -/
theorem exists_of_mem_events_exists? {test : α → Trail ω Bool}
    (h : event ∈ (exists? items test).events) : ∃ item ∈ items, event ∈ (test item).events := by
  induction items with
  | nil => cases h
  | cons item rest ih =>
    rw [exists?, mem_events_andThen] at h
    rcases h with hitem | ⟨found, -, hrest⟩
    · exact ⟨item, List.mem_cons_self .., hitem⟩
    · -- the search only goes on if the item does not satisfy the test
      cases found with
      | true => cases hrest
      | false =>
        obtain ⟨other, hother, hevent⟩ := ih hrest
        exact ⟨other, List.mem_cons_of_mem _ hother, hevent⟩

/-- An `event` of `foldEach items state step` is one of the step of some `item`, in the state that
the items `before` it have led to. -/
theorem mem_events_foldEach {state : β} {step : β → α → Trail ω β} :
    event ∈ (foldEach items state step).events ↔
      ∃ before item after middle, items = before ++ item :: after ∧
        (foldEach before state step).result = .ok middle ∧ event ∈ (step middle item).events := by
  induction items generalizing state with
  | nil =>
    constructor
    · intro h
      cases h
    · rintro ⟨before, item, after, middle, hitems, -, -⟩
      cases before <;> cases hitems
  | cons first rest ih =>
    rw [foldEach, mem_events_andThen]
    constructor
    · rintro (hfirst | ⟨next, hnext, hrest⟩)
      -- no item stands before the one of the event
      · exact ⟨[], first, rest, state, rfl, rfl, hfirst⟩
      · obtain ⟨before, item, after, middle, rfl, hbefore, hevent⟩ := ih.1 hrest
        refine ⟨first :: before, item, after, middle, rfl, ?_, hevent⟩
        rw [result_foldEach_cons, hnext, Except.ok_bind, hbefore]
    · rintro ⟨before, item, after, middle, hitems, hbefore, hevent⟩
      rcases List.cons_eq_append_iff.1 hitems with ⟨rfl, hfirst⟩ | ⟨others, rfl, hrest⟩
      · -- the step is the first one
        cases hbefore
        cases hfirst
        exact .inl hevent
      · rw [result_foldEach_cons] at hbefore
        obtain ⟨next, hnext, hbefore⟩ := Except.bind_eq_ok_iff.1 hbefore
        exact .inr ⟨next, hnext, ih.2 ⟨others, item, after, middle, hrest, hbefore, hevent⟩⟩

end Lists

end Reidentify.Trail

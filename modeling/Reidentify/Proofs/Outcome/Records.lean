import Mathlib.Data.List.Induction
import Reidentify.Proofs.Outcome.Listing
import Reidentify.Report.Summary

/-!
# Tables that remember

An outcome is recorded for a name that has none, and every other call is refused and leaves the
table as it was. So after any calls, accepted and refused ones, a table holds the first outcome of
every name. It lists the outcomes of the names that it was made with in the order of these names,
and those of other names in the order in which they were first recorded. All that is read from the
table says the same.

## Main definitions

* `Table.after`, `Table.afterAll`: the table that calls leave.
* `Outcome.firsts`: the first outcome of every name.
* `Table.Remembers`: a table answers as the calls say.

## Main statements

* `Table.afterAll_empty`: the table that calls leave, in closed form.
* `Table.remembers_afterAll`: it answers as the calls say.
-/

namespace Reidentify

namespace Outcome

variable {calls : List Outcome} {outcome : Outcome} {name : String}

/-- The first outcome of every name in a list of calls, in the order of these calls. -/
def firsts : List Outcome → List Outcome
  | [] => []
  | outcome :: rest => outcome :: (firsts rest).filter (·.name != outcome.name)

/-- No name is twice among the `firsts`, the first of the `calls` for every name. -/
theorem nodup_firsts (calls : List Outcome) : ((firsts calls).map (·.name)).Nodup := by
  induction calls with
  | nil => exact .nil
  | cons outcome rest ih =>
    rw [firsts, List.map_cons, List.nodup_cons]
    refine ⟨?_, ih.sublist (List.filter_sublist.map _)⟩
    simp

/-- What is found by `name` among the `firsts` is the first of the `calls` with this name. -/
theorem find?_firsts (calls : List Outcome) (name : String) :
    (firsts calls).find? (·.name == name) = calls.find? (·.name == name) := by
  induction calls with
  | nil => rfl
  | cons outcome rest ih =>
    by_cases hname : outcome.name = name
    · simp [firsts, hname]
    · -- the outcomes that are left out have the name of the first one
      have hleft (other : Outcome) :
          ((other.name != outcome.name) = true ∧ (other.name == name) = true) ↔
            (other.name == name) = true := by
        refine and_iff_right_of_imp fun hother => ?_
        rw [beq_iff_eq.1 hother]
        exact bne_iff_ne.2 (Ne.symm hname)
      simp only [firsts, List.find?_cons, beq_false_of_ne hname, List.find?_filter, hleft,
        Bool.decide_eq_true, ih]

/-- The `firsts` have the names of all `calls`, and no other names. -/
theorem mem_map_firsts : name ∈ (firsts calls).map (·.name) ↔ name ∈ calls.map (·.name) := by
  -- both sides are about what is found by the name
  rw [← not_iff_not, ← Text.find?_eq_none_iff, find?_firsts, Text.find?_eq_none_iff]

/-- One more `outcome` behind `calls` counts among the `firsts` iff its name is new. -/
theorem firsts_concat (calls : List Outcome) (outcome : Outcome) :
    firsts (calls ++ [outcome]) =
      if outcome.name ∈ calls.map (·.name) then firsts calls else firsts calls ++ [outcome] := by
  induction calls with
  | nil => rfl
  | cons first rest ih =>
    rw [List.cons_append, firsts, ih, firsts, List.map_cons]
    -- the name may be that of a later call, that of the first one, or new
    by_cases hrest : outcome.name ∈ rest.map (·.name)
    · rw [if_pos hrest, if_pos (List.mem_cons_of_mem _ hrest)]
    · rw [if_neg hrest, List.filter_append]
      by_cases hfirst : outcome.name = first.name
      · simp [hfirst]
      · simp [hfirst, hrest]

end Outcome

namespace Table

variable {table : Table} {names : List String} {revision : String} {calls : List Outcome}
  {outcome : Outcome} {name : String} {fault : Fault}

/-- The table that a call to record `outcome` leaves. A call that is refused changes nothing. -/
def after (table : Table) (outcome : Outcome) : Table :=
  match table.record outcome with
  | .ok next => next
  | .error _ => table

/-- The table that `calls` leave, one after another, the refused ones included. -/
def afterAll (table : Table) (calls : List Outcome) : Table :=
  calls.foldl after table

/-- A call to record `outcome` is refused iff its name has an outcome, and then with the fault
`recordedTwice`. -/
theorem record_eq_error_iff : table.record outcome = .error fault ↔
    fault = .recordedTwice outcome.name ∧ table.isTerminal outcome.name = true := by
  unfold record
  split
  · next h => simp [h, eq_comm]
  · next h => simp [h]

/-- A call whose name was recorded is refused and leaves the table as it is. -/
theorem after_eq_self (h : outcome.name ∈ table.recorded) : table.after outcome = table := by
  rw [after, record_eq_error_iff.2 ⟨rfl, isTerminal_iff.2 h⟩]

/-- Any other call adds its `outcome`, and its name to the order if it is missing there. -/
theorem after_eq (h : outcome.name ∉ table.recorded) :
    table.after outcome =
      ⟨if outcome.name ∈ table.order then table.order else table.order ++ [outcome.name],
        table.outcomes ++ [outcome], table.revision⟩ := by
  rw [after, record, if_neg (mt isTerminal_iff.1 h)]
  simp only [List.contains_iff_mem]

/-- No further `call` changes an outcome that is there, since it is refused. -/
theorem outcome?_after (h : table.outcome? name = some outcome) (call : Outcome) :
    (table.after call).outcome? name = some outcome := by
  by_cases hmem : call.name ∈ table.recorded
  · rwa [after_eq_self hmem]
  · rw [after_eq hmem]
    change (table.outcomes ++ [call]).find? _ = _
    rw [List.find?_append]
    change (table.outcome? name).or _ = _
    rw [h, Option.some_or]

/-- The order of the names after `calls`: those that the table was made with, and then the new ones.
-/
def orderAfter (names : List String) (calls : List Outcome) : List String :=
  names ++ ((Outcome.firsts calls).map (·.name)).filter fun name => !names.contains name

/-- The names of `orderAfter` are those that the table was made with and those of the calls. -/
theorem mem_orderAfter :
    name ∈ orderAfter names calls ↔ name ∈ names ∨ name ∈ calls.map (·.name) := by
  rw [orderAfter, List.mem_append, List.mem_filter, Outcome.mem_map_firsts]
  by_cases h : name ∈ names
  · simp [h]
  · simp [h]

/-- One more call with a name that was not called adds this name to `orderAfter` if it is missing
there. -/
theorem orderAfter_concat (h : outcome.name ∉ calls.map (·.name)) :
    orderAfter names (calls ++ [outcome]) =
      if outcome.name ∈ orderAfter names calls then orderAfter names calls
      else orderAfter names calls ++ [outcome.name] := by
  have hnames : outcome.name ∈ orderAfter names calls ↔ outcome.name ∈ names := by
    rw [mem_orderAfter, or_iff_left h]
  -- the order grows by the name iff the table was not made with it
  have hmore : orderAfter names (calls ++ [outcome]) =
      orderAfter names calls ++ [outcome.name].filter fun name => !names.contains name := by
    rw [orderAfter, orderAfter, Outcome.firsts_concat, if_neg h, List.map_append,
      List.filter_append, List.append_assoc]
    rfl
  rw [hmore]
  by_cases hname : outcome.name ∈ names
  · simp [hnames, hname]
  · simp [hnames, hname]

/-- The table with the first outcome of every name, which `calls` turn out to leave. -/
def ofCalls (names : List String) (revision : String) (calls : List Outcome) : Table :=
  ⟨orderAfter names calls, Outcome.firsts calls, revision⟩

/-- The table that `calls` leave is `ofCalls`, if it was made with `names` and without outcomes. -/
theorem afterAll_empty (names : List String) (revision : String) (calls : List Outcome) :
    (empty names revision).afterAll calls = ofCalls names revision calls := by
  -- the last call meets the table that the calls before it have left
  induction calls using List.reverseRecOn with
  | nil => simp [afterAll, empty, ofCalls, orderAfter, Outcome.firsts]
  | append_singleton calls outcome ih =>
    have hlast : (empty names revision).afterAll (calls ++ [outcome]) =
        ((empty names revision).afterAll calls).after outcome := List.foldl_concat ..
    rw [hlast, ih, ofCalls, ofCalls]
    by_cases hmem : outcome.name ∈ calls.map (·.name)
    · -- it is refused, and no new name comes up
      rw [after_eq_self (Outcome.mem_map_firsts.2 hmem), orderAfter, orderAfter,
        Outcome.firsts_concat, if_pos hmem]
    · rw [after_eq (mt Outcome.mem_map_firsts.1 hmem), orderAfter_concat hmem,
        Outcome.firsts_concat, if_neg hmem]

section OfCalls

theorem outcome?_ofCalls (name : String) :
    (ofCalls names revision calls).outcome? name = calls.find? (·.name == name) :=
  Outcome.find?_firsts calls name

theorem mem_recorded_ofCalls :
    name ∈ (ofCalls names revision calls).recorded ↔ name ∈ calls.map (·.name) :=
  Outcome.mem_map_firsts

theorem nodup_recorded_ofCalls : (ofCalls names revision calls).recorded.Nodup :=
  Outcome.nodup_firsts calls

theorem mem_order_of_recorded (h : name ∈ (ofCalls names revision calls).recorded) :
    name ∈ (ofCalls names revision calls).order :=
  mem_orderAfter.2 (.inr (mem_recorded_ofCalls.1 h))

theorem nodup_order_ofCalls (h : names.Nodup) : (ofCalls names revision calls).order.Nodup := by
  refine List.Nodup.append h ((Outcome.nodup_firsts calls).filter _) ?_
  intro name hname hother
  simpa [hname] using (List.mem_filter.1 hother).2

/-- In `ofCalls` the outcomes of `names` are listed in the order of these names, and behind them all
others in the order of the calls. -/
theorem listed_ofCalls : (ofCalls names revision calls).listed =
    names.filterMap (fun name => calls.find? (·.name == name)) ++
      (Outcome.firsts calls).filter fun outcome => !names.contains outcome.name := by
  have hothers : ∀ outcome ∈ (Outcome.firsts calls).filter fun outcome =>
      !names.contains outcome.name, outcome ∈ (ofCalls names revision calls).outcomes :=
    fun outcome hmem => List.mem_of_mem_filter hmem
  have horder : (ofCalls names revision calls).order =
      names ++ ((Outcome.firsts calls).filter fun outcome =>
        !names.contains outcome.name).map (·.name) := by
    rw [ofCalls, orderAfter, List.filter_map]
    rfl
  -- the order falls into the two parts, and each is looked up on its own
  rw [listed, horder, List.filterMap_append, filterMap_outcome?_map nodup_recorded_ofCalls hothers]
  simp only [outcome?_ofCalls]

end OfCalls

/-- No calls `later` change an outcome that is there, since all those of its name are refused. -/
theorem outcome?_afterAll (h : table.outcome? name = some outcome) (later : List Outcome) :
    (table.afterAll later).outcome? name = some outcome := by
  induction later generalizing table with
  | nil => exact h
  | cons call rest ih => exact ih (outcome?_after h call)

/-- Looking up `name` ends with the fault `unresolved` iff it is not bound to any entity. -/
theorem exists_unresolved_iff :
    (∃ state, table.resolve name = .error (.unresolved name state)) ↔
      ¬∃ entity, table.resolve name = .ok entity := by
  constructor
  · rintro ⟨state, hstate⟩ ⟨entity, hentity⟩
    rw [hstate] at hentity
    cases hentity
  · intro h
    unfold resolve at h ⊢
    split at h
    · exact ⟨_, rfl⟩
    · split at h
      · exact absurd ⟨_, rfl⟩ h
      · exact ⟨_, rfl⟩
      · exact ⟨_, rfl⟩

/-- A `table` that was made with `names` answers as the `calls` to record outcomes say, those that
were refused included. -/
structure Remembers (names : List String) (revision : String) (calls : List Outcome)
    (table : Table) : Prop where
  /-- The outcome of a name is the first one that it was called with. -/
  outcome?_eq : ∀ name, table.outcome? name = calls.find? (·.name == name)
  /-- It stays the outcome of the name, whatever is called `later`. -/
  stays : ∀ name outcome, table.outcome? name = some outcome →
    ∀ later, (table.afterAll later).outcome? name = some outcome
  /-- One more call is refused iff there was one with its name. -/
  refused_iff : ∀ outcome fault, table.record outcome = .error fault ↔
    fault = .recordedTwice outcome.name ∧ outcome.name ∈ calls.map (·.name)
  /-- A call with such a name leaves the table as it is. -/
  unchanged : ∀ outcome, outcome.name ∈ calls.map (·.name) → table.after outcome = table
  /-- The outcomes of the names that the table was made with are listed in the order of these names,
  and then those of all other names in the order in which they were recorded. -/
  listed_eq : table.listed = names.filterMap (fun name => calls.find? (·.name == name)) ++
    (Outcome.firsts calls).filter fun outcome => !names.contains outcome.name
  /-- No name is listed twice, whichever names the calls have. -/
  nodup_listed : (table.listed.map (·.name)).Nodup
  /-- An `outcome` is listed iff it is the one of its name. -/
  mem_listed_iff : ∀ outcome, outcome ∈ table.listed ↔ table.outcome? outcome.name = some outcome
  /-- The report has the listed outcomes, and the revision that the table was made with. -/
  report_eq : table.report = ⟨table.listed, revision⟩
  /-- The size is the number of listed outcomes. -/
  size_eq : table.size = table.listed.length
  /-- A `name` is settled iff it has an outcome. -/
  isTerminal_iff : ∀ name, table.isTerminal name = true ↔
    ∃ outcome, table.outcome? name = some outcome
  /-- A `name` is resolved iff its outcome binds an entity. -/
  isResolved_iff : ∀ name, table.isResolved name = true ↔
    ∃ entity, table.outcome? name = some ⟨name, .resolved entity⟩
  /-- The entities are those of the listed outcomes. -/
  entities_eq : table.entities =
    table.listed.filterMap fun outcome => outcome.entity?.map (outcome.name, ·)
  /-- A `name` leads to the `entity` that its outcome binds. -/
  resolve_iff : ∀ name entity, table.resolve name = .ok entity ↔
    table.outcome? name = some ⟨name, .resolved entity⟩
  /-- Any other name is reported as unresolved. -/
  unresolved_iff : ∀ name, (∃ state, table.resolve name = .error (.unresolved name state)) ↔
    ¬∃ entity, table.outcome? name = some ⟨name, .resolved entity⟩

/-- The table that `calls` leave of one that was made with distinct `names` remembers them
(`Remembers`), accepted and refused ones. -/
theorem remembers_afterAll (names : List String) (hnames : names.Nodup) (revision : String)
    (calls : List Outcome) :
    Remembers names revision calls ((empty names revision).afterAll calls) := by
  rw [afterAll_empty]
  have horder : (ofCalls names revision calls).order.Nodup := nodup_order_ofCalls hnames
  refine {
    outcome?_eq := outcome?_ofCalls
    stays := fun name outcome h later => outcome?_afterAll h later
    refused_iff := fun outcome fault => ?_
    unchanged := fun outcome h => after_eq_self (mem_recorded_ofCalls.2 h)
    listed_eq := listed_ofCalls
    nodup_listed := nodup_listed horder
    mem_listed_iff := fun outcome => mem_listed_iff fun _ => mem_order_of_recorded
    report_eq := rfl
    size_eq := ?_
    isTerminal_iff := fun name => isTerminal_iff.trans mem_recorded_iff_exists
    isResolved_iff := fun name => ?_
    entities_eq := entities_eq horder
    resolve_iff := fun name entity => resolve_eq_ok_iff_outcome?
    unresolved_iff := fun name => ?_ }
  · rw [record_eq_error_iff, isTerminal_iff, mem_recorded_ofCalls]
  · exact (listed_perm_of_nodup nodup_recorded_ofCalls horder
      fun _ => mem_order_of_recorded).length_eq.symm
  · simp only [isResolved_iff, resolve_eq_ok_iff_outcome?]
  · simp only [exists_unresolved_iff, resolve_eq_ok_iff_outcome?]

section Example

/-- Calls for two names, of which one is not registered, and then for both of them again. -/
def repeated : List Outcome :=
  [⟨"x", .skipped ["a"]⟩, ⟨"b", .resolved (.ofField ⟨"a", "f", "I", 0⟩)⟩,
    ⟨"x", .resolved (.ofField ⟨"a", "g", "I", 0⟩)⟩, ⟨"b", .failed (.noMatch "all classes" "all")⟩]

/-- In `repeated` the first call of each name counts, and the registered name is listed first. -/
theorem remembers_afterAll_repeated :
    Remembers ["a", "b"] "1" repeated ((empty ["a", "b"] "1").afterAll repeated) ∧
      ((empty ["a", "b"] "1").afterAll repeated).listed =
        [⟨"b", .resolved (.ofField ⟨"a", "f", "I", 0⟩)⟩, ⟨"x", .skipped ["a"]⟩] :=
  ⟨remembers_afterAll ["a", "b"] (by decide) "1" repeated, by decide⟩

end Example

end Table

end Reidentify

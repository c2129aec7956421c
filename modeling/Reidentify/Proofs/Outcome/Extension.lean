import Mathlib.Data.List.Perm.Basic
import Reidentify.Pass.Run
import Reidentify.Proofs.Text.Names
import Reidentify.Proofs.Trail.Result

/-!
# Growing tables

During a pass outcomes are only added to a table, and never for a name that has one already. What
a table binds stays bound to the same entity, and what it does not bind is not bound by skipping
further mappers.

## Main definitions

* `Table.append`: a table with further outcomes.
* `Table.Admits`: outcomes of these names can be added to a table.
* `Table.Agrees`: a table has the outcomes of another one.

## Main statements

* `Pass.recordAll_eq_ok`: outcomes of admitted names are recorded without being refused.
* `Table.resolve_append`: further outcomes do not change what is bound.
* `Table.isResolved_append_of_not_isResolved`: outcomes that bind nothing change nothing.
-/

namespace Reidentify

namespace Outcome

variable {outcome : Outcome} {entity : Entity}

/-- A mapper binds `entity` iff its result says so: `Outcome.entity?` reads the result and nothing
else. -/
theorem entity?_eq_some_iff :
    outcome.entity? = some entity ↔ outcome.result = .resolved entity := by
  obtain ⟨name, result⟩ := outcome
  cases result with
  | resolved other =>
    change some other = some entity ↔ _
    rw [Option.some.injEq, Result.resolved.injEq]
  | failed | skipped =>
    constructor
    · intro h
      cases h
    · intro h
      cases h

/-- An outcome is resolved iff it binds some entity, its `entity?`. -/
theorem isResolved_iff : outcome.isResolved = true ↔ ∃ entity, outcome.entity? = some entity := by
  obtain ⟨name, result⟩ := outcome
  cases result with
  | resolved other => exact ⟨fun _ => ⟨other, rfl⟩, fun _ => rfl⟩
  | failed | skipped =>
    constructor
    · intro h
      cases h
    · rintro ⟨entity, h⟩
      cases h

end Outcome

namespace Table

variable {table : Table} {outcomes : List Outcome} {name : String} {entity : Entity}

/-- The names that have an outcome in `table`, in the order in which the outcomes were recorded. -/
def recorded (table : Table) : List String :=
  table.outcomes.map (·.name)

/-- The table `table` with further `outcomes`, of names that it was made with. -/
def append (table : Table) (outcomes : List Outcome) : Table :=
  { table with outcomes := table.outcomes ++ outcomes }

@[simp] theorem append_order : (table.append outcomes).order = table.order := rfl

@[simp] theorem append_revision : (table.append outcomes).revision = table.revision := rfl

@[simp] theorem append_outcomes :
    (table.append outcomes).outcomes = table.outcomes ++ outcomes := rfl

@[simp] theorem append_nil : table.append [] = table := by
  rw [append, List.append_nil]

theorem append_append (more : List Outcome) :
    (table.append outcomes).append more = table.append (outcomes ++ more) := by
  rw [append, append, append, List.append_assoc]

theorem recorded_append :
    (table.append outcomes).recorded = table.recorded ++ outcomes.map (·.name) :=
  List.map_append

/-- An outcome that was there is found before the further `outcomes`. -/
theorem outcome?_append (name : String) :
    (table.append outcomes).outcome? name =
      (table.outcome? name).or (outcomes.find? (·.name == name)) :=
  List.find?_append

/-- No outcome is found by `name` iff `name` was not `recorded`. -/
theorem outcome?_eq_none_iff : table.outcome? name = none ↔ name ∉ table.recorded :=
  Text.find?_eq_none_iff

/-- A `name` was `recorded` iff an outcome is found by it. -/
theorem mem_recorded_iff_exists :
    name ∈ table.recorded ↔ ∃ outcome, table.outcome? name = some outcome := by
  rw [← Option.ne_none_iff_exists', ne_eq, outcome?_eq_none_iff, not_not]

/-- If no name was recorded twice, exactly the outcome with this `name` is found by it. -/
theorem outcome?_eq_some_iff (h : table.recorded.Nodup) {outcome : Outcome} :
    table.outcome? name = some outcome ↔ outcome ∈ table.outcomes ∧ outcome.name = name :=
  Text.find?_eq_some_iff_of_nodup h

/-- The table counts `name` as settled iff `name` was `recorded`. -/
theorem isTerminal_iff : table.isTerminal name = true ↔ name ∈ table.recorded := by
  rw [isTerminal, ← not_iff_not, ← outcome?_eq_none_iff, Option.not_isSome_iff_eq_none]

/-- A `name` is bound to `entity` iff the outcome that is found by it binds `entity`. -/
theorem resolve_eq_ok_iff :
    table.resolve name = .ok entity ↔
      ∃ outcome, table.outcome? name = some outcome ∧ outcome.entity? = some entity := by
  constructor
  · intro h
    unfold resolve at h
    split at h
    · cases h
    · next outcome houtcome =>
      split at h
      · next hresult =>
        cases h
        exact ⟨outcome, houtcome, Outcome.entity?_eq_some_iff.2 hresult⟩
      · cases h
      · cases h
  · rintro ⟨outcome, hsome, hentity⟩
    rw [resolve, hsome]
    -- with its result known, the match in `Table.resolve` is decided
    simp only [Outcome.entity?_eq_some_iff.1 hentity]

/-- A `name` counts as bound iff it is bound to some entity. -/
theorem isResolved_iff :
    table.isResolved name = true ↔ ∃ entity, table.resolve name = .ok entity := by
  unfold isResolved
  cases houtcome : table.outcome? name with
  | none =>
    constructor
    · intro h
      cases h
    · rintro ⟨entity, h⟩
      obtain ⟨outcome, hsome, -⟩ := resolve_eq_ok_iff.1 h
      rw [houtcome] at hsome
      cases hsome
  | some outcome =>
    rw [Outcome.isResolved_iff]
    constructor
    · rintro ⟨entity, hentity⟩
      exact ⟨entity, resolve_eq_ok_iff.2 ⟨outcome, houtcome, hentity⟩⟩
    · rintro ⟨entity, h⟩
      obtain ⟨other, hsome, hentity⟩ := resolve_eq_ok_iff.1 h
      rw [houtcome] at hsome
      cases hsome
      exact ⟨entity, hentity⟩

/-- An `entity` that `name` is bound to stays bound when further `outcomes` are added. -/
theorem resolve_append (h : table.resolve name = .ok entity) :
    (table.append outcomes).resolve name = .ok entity := by
  obtain ⟨outcome, hsome, hentity⟩ := resolve_eq_ok_iff.1 h
  refine resolve_eq_ok_iff.2 ⟨outcome, ?_, hentity⟩
  rw [outcome?_append, hsome, Option.some_or]

/-- Further `outcomes` that bind nothing do not change which names are bound. -/
theorem isResolved_append_of_not_isResolved
    (h : ∀ outcome ∈ outcomes, outcome.isResolved = false) :
    (table.append outcomes).isResolved name = table.isResolved name := by
  unfold isResolved
  rw [outcome?_append]
  -- the first outcome of a name counts, so only names without one could change
  cases table.outcome? name with
  | some outcome => rw [Option.some_or]
  | none =>
    rw [Option.none_or]
    cases hfind : outcomes.find? (·.name == name) with
    | none => rfl
    | some outcome => exact h outcome (List.mem_of_find?_eq_some hfind)

/-- Outcomes of `names` can be added to `table`: it was made with the names, none of them has an
outcome, and each of them is added once. -/
structure Admits (table : Table) (names : List String) : Prop where
  /-- Every name is added once: `names` has no repetitions. -/
  nodup : names.Nodup
  /-- No name has an outcome yet, so none is refused. -/
  fresh : ∀ name ∈ names, name ∉ table.recorded
  /-- The table was made with the names, so its order does not grow. -/
  ordered : ∀ name ∈ names, name ∈ table.order

/-- An `outcome` of a name that is fresh and in the order is recorded behind the others. -/
theorem record_eq_ok {outcome : Outcome} (hfresh : outcome.name ∉ table.recorded)
    (hordered : outcome.name ∈ table.order) :
    table.record outcome = .ok (table.append [outcome]) := by
  unfold record
  rw [if_neg (mt isTerminal_iff.1 hfresh), List.contains_iff_mem.2 hordered]
  rfl

namespace Admits

variable {names others : List String}

theorem sublist (h : table.Admits names) (hsub : others.Sublist names) : table.Admits others where
  nodup := h.nodup.sublist hsub
  fresh name hmem := h.fresh name (hsub.subset hmem)
  ordered name hmem := h.ordered name (hsub.subset hmem)

theorem perm (h : table.Admits names) (hperm : names.Perm others) : table.Admits others where
  nodup := hperm.nodup_iff.1 h.nodup
  fresh name hmem := h.fresh name (hperm.mem_iff.2 hmem)
  ordered name hmem := h.ordered name (hperm.mem_iff.2 hmem)

/-- When the outcomes of some names have been added, those of the `others` can still be. -/
theorem append (h : table.Admits (outcomes.map (·.name) ++ others)) :
    (table.append outcomes).Admits others where
  nodup := h.nodup.of_append_right
  fresh name hmem := by
    rw [recorded_append, List.mem_append, not_or]
    -- a name that is among the added ones would be there twice
    refine ⟨h.fresh name (List.mem_append_right _ hmem), ?_⟩
    exact fun hname => List.disjoint_of_nodup_append h.nodup hname hmem
  ordered name hmem := h.ordered name (List.mem_append_right _ hmem)

end Admits

end Table

/-- The table `table'` has the outcomes of `table`, perhaps among others. -/
def Table.Agrees (table table' : Table) : Prop :=
  ∀ name ∈ table.recorded, table'.outcome? name = table.outcome? name

namespace Table.Agrees

variable {table table' : Table}

/-- A `table` agrees (`Agrees`) with every table that it grows to by further `outcomes`. -/
theorem append (table : Table) (outcomes : List Outcome) :
    table.Agrees (table.append outcomes) := by
  intro name hmem
  obtain ⟨outcome, houtcome⟩ := mem_recorded_iff_exists.1 hmem
  rw [outcome?_append, houtcome, Option.some_or]

/-- Names that have an outcome in `table` are bound in both tables or in none. -/
theorem isResolved_eq (h : table.Agrees table') {name : String} (hmem : name ∈ table.recorded) :
    table'.isResolved name = table.isResolved name := by
  rw [isResolved, isResolved, h name hmem]

/-- A `mapper` all of whose dependencies have an outcome is blocked by the same ones in both tables.
-/
theorem blockers_eq (h : table.Agrees table') {mapper : Mapper}
    (hready : ∀ name ∈ mapper.dependencies, name ∈ table.recorded) :
    Pass.blockers table' mapper = Pass.blockers table mapper :=
  List.filter_congr fun name hmem => by rw [h.isResolved_eq (hready name hmem)]

end Table.Agrees

namespace Pass

/-- Recording outcomes in order is recording the first one and then `rest`. -/
theorem recordAll_cons (table : Table) (outcome : Outcome) (rest : List Outcome) :
    recordAll table (outcome :: rest) =
      table.record outcome >>= fun next => recordAll next rest := by
  rw [recordAll]
  cases table.record outcome <;> rfl

/-- Outcomes of names that `table` admits are recorded without being refused, and the table grows by
them. -/
theorem recordAll_eq_ok {table : Table} {outcomes : List Outcome}
    (h : table.Admits (outcomes.map (·.name))) :
    recordAll table outcomes = .ok (table.append outcomes) := by
  induction outcomes generalizing table with
  | nil => rw [Table.append_nil, recordAll]
  | cons outcome rest ih =>
    have hfirst : outcome.name ∈ (outcome :: rest).map (·.name) := List.mem_cons_self ..
    have hrest : (table.append [outcome]).Admits (rest.map (·.name)) := Table.Admits.append h
    -- the first outcome uses up its name and leaves the names of the others free
    rw [recordAll_cons, Table.record_eq_ok (h.fresh _ hfirst) (h.ordered _ hfirst),
      Except.ok_bind, ih hrest, Table.append_append]
    rfl

end Pass

end Reidentify

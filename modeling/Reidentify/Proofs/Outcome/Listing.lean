import Reidentify.Proofs.Outcome.Extension

/-!
# Listing outcomes

A table lists its outcomes in an order of names that is kept apart from the outcomes. If this order
has every name once, no outcome is listed twice, and if it has all names that were recorded, every
outcome is listed.

## Main statements

* `Table.map_name_listed_eq_filter`: the names of the listed outcomes.
* `Table.mem_listed_iff`, `Table.listed_perm_of_nodup`: all outcomes are listed.
* `Table.entities_eq`: the names that are bound, in the order of the outcomes.
-/

namespace Reidentify.Table

variable {table : Table} {name : String} {outcome : Outcome}

/-- An `outcome` that is found by `name` has this name. -/
theorem name_of_outcome? (h : table.outcome? name = some outcome) : outcome.name = name := by
  have hfound := List.find?_some h
  exact beq_iff_eq.1 hfound

/-- A `name` is bound to `entity` iff its outcome is `⟨name, .resolved entity⟩`. -/
theorem resolve_eq_ok_iff_outcome? {entity : Entity} :
    table.resolve name = .ok entity ↔ table.outcome? name = some ⟨name, .resolved entity⟩ := by
  rw [resolve_eq_ok_iff]
  constructor
  · rintro ⟨outcome, houtcome, hentity⟩
    rw [houtcome, ← name_of_outcome? houtcome, ← Outcome.entity?_eq_some_iff.1 hentity]
  · exact fun houtcome => ⟨_, houtcome, rfl⟩

/-- The names of `outcomes` of the table lead to these outcomes, if no name was recorded twice. -/
theorem filterMap_outcome?_map (hnodup : table.recorded.Nodup) {outcomes : List Outcome}
    (h : ∀ outcome ∈ outcomes, outcome ∈ table.outcomes) :
    (outcomes.map (·.name)).filterMap table.outcome? = outcomes := by
  rw [List.filterMap_map]
  refine (List.filterMap_congr fun outcome hmem => ?_).trans List.filterMap_some
  exact (outcome?_eq_some_iff hnodup).2 ⟨h outcome hmem, rfl⟩

/-- The listed outcomes carry those names of `table.order` that have an outcome, in this order. -/
theorem map_name_listed_eq_filter :
    table.listed.map (·.name) = table.order.filter table.isTerminal := by
  unfold listed
  induction table.order with
  | nil => rfl
  | cons name rest ih =>
    -- a name without an outcome is passed over on both sides
    cases houtcome : table.outcome? name with
    | none =>
      rw [List.filterMap_cons, houtcome, ih,
        List.filter_cons_of_neg (by simp [isTerminal, houtcome])]
    | some outcome =>
      rw [List.filterMap_cons, houtcome, List.map_cons, ih, name_of_outcome? houtcome,
        List.filter_cons_of_pos (by simp [isTerminal, houtcome])]

/-- If all names of `table.order` have an outcome, the listed outcomes carry exactly these names. -/
theorem map_name_listed (h : ∀ name ∈ table.order, name ∈ table.recorded) :
    table.listed.map (·.name) = table.order := by
  rw [map_name_listed_eq_filter, List.filter_eq_self]
  exact fun name hmem => isTerminal_iff.2 (h name hmem)

/-- No two listed outcomes have the same name, if no name is twice in `table.order`. -/
theorem nodup_listed (h : table.order.Nodup) : (table.listed.map (·.name)).Nodup := by
  rw [map_name_listed_eq_filter]
  exact h.filter _

/-- An `outcome` is listed iff it is found by its name, if `table.order` has all names that were
recorded. -/
theorem mem_listed_iff (h : ∀ name ∈ table.recorded, name ∈ table.order) :
    outcome ∈ table.listed ↔ table.outcome? outcome.name = some outcome := by
  unfold listed
  rw [List.mem_filterMap]
  constructor
  · rintro ⟨name, -, houtcome⟩
    rwa [name_of_outcome? houtcome]
  · intro houtcome
    exact ⟨outcome.name, h _ (mem_recorded_iff_exists.2 ⟨outcome, houtcome⟩), houtcome⟩

/-- All outcomes are listed once, if `table.order` has all names that were recorded, and both have
every name once. -/
theorem listed_perm_of_nodup (hnodup : table.recorded.Nodup) (horder : table.order.Nodup)
    (h : ∀ name ∈ table.recorded, name ∈ table.order) : table.listed.Perm table.outcomes := by
  -- both lists hold every outcome once, so only membership is left to compare
  rw [List.perm_ext_iff_of_nodup (nodup_listed horder).of_map hnodup.of_map]
  intro outcome
  rw [mem_listed_iff h, outcome?_eq_some_iff hnodup]
  exact and_iff_left rfl

/-- If `table.order` is a rearrangement of the names that were recorded, all outcomes are listed
once. -/
theorem listed_perm (hnodup : table.recorded.Nodup) (h : table.order.Perm table.recorded) :
    table.listed.Perm table.outcomes :=
  listed_perm_of_nodup hnodup (h.nodup_iff.2 hnodup) fun _ => h.mem_iff.2

/-- The names that are bound, with their entities, are those of the listed outcomes that bind an
entity. -/
theorem entities_eq (h : table.order.Nodup) :
    table.entities =
      table.listed.filterMap fun outcome => outcome.entity?.map (outcome.name, ·) := by
  unfold entities listed
  rw [Text.eraseDups_eq_of_nodup h, List.filterMap_filterMap]
  refine List.filterMap_congr fun name _ => ?_
  cases houtcome : table.outcome? name with
  | none => rfl
  | some outcome =>
    rw [Option.bind_some, name_of_outcome? houtcome]
    cases hentity : outcome.entity? with
    | none => simp [hentity]
    | some entity => simp [hentity]

end Reidentify.Table

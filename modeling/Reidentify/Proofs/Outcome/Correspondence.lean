import Reidentify.Outcome.Table
import Reidentify.Proofs.Trail.Simulation

/-!
# Corresponding tables

Two passes can be compared mapper by mapper if it is said which entities and which failures
correspond to each other. Outcomes correspond if they have the same name and the same status and
their entities or failures correspond; tables correspond if they list corresponding outcomes in
the same order. Whatever a pass reads from a table or adds to it respects this.

## Main statements

* `Table.Corresponds.resolve`: corresponding tables bind a name to corresponding entities.
* `Table.Corresponds.record`: recording corresponding outcomes keeps tables corresponding.
-/

namespace Reidentify

variable {R : Entity → Entity → Prop} {F : Failure → Failure → Prop} {faults : FaultMatch}

/-- Two results have the same status, and their entities are related by `R` or their failures by
`F`. -/
inductive Result.Corresponds (R : Entity → Entity → Prop) (F : Failure → Failure → Prop) :
    Result → Result → Prop
  /-- Two entities that are related by `R`. -/
  | resolved {entity entity'} (h : R entity entity') :
      Corresponds R F (.resolved entity) (.resolved entity')
  /-- Two failures that are related by `F`. -/
  | failed {failure failure'} (h : F failure failure') :
      Corresponds R F (.failed failure) (.failed failure')
  /-- The same `dependencies` on both sides, since names do not change. -/
  | skipped (dependencies) : Corresponds R F (.skipped dependencies) (.skipped dependencies)

/-- The outcomes `outcome` and `outcome'` of the same mapper have corresponding results. -/
structure Outcome.Corresponds (R : Entity → Entity → Prop) (F : Failure → Failure → Prop)
    (outcome outcome' : Outcome) : Prop where
  /-- The outcomes belong to the same mapper. -/
  name_eq : outcome'.name = outcome.name
  /-- The mapper ended in corresponding ways (`Result.Corresponds`). -/
  result : outcome.result.Corresponds R F outcome'.result

/-- The tables `table` and `table'` list corresponding outcomes in the same order. -/
structure Table.Corresponds (R : Entity → Entity → Prop) (F : Failure → Failure → Prop)
    (table table' : Table) : Prop where
  /-- The tables list names in the same order. -/
  order_eq : table'.order = table.order
  /-- The tables belong to the same revision. -/
  revision_eq : table'.revision = table.revision
  /-- The outcomes correspond one by one, in the order in which they were recorded. -/
  outcomes : List.Forall₂ (Outcome.Corresponds R F) table.outcomes table'.outcomes

/-- Outcomes that correspond (`Outcome.Corresponds`) have the same `status`. -/
theorem Outcome.Corresponds.status_eq {outcome outcome' : Outcome}
    (h : outcome.Corresponds R F outcome') : outcome'.status = outcome.status := by
  obtain ⟨name, result⟩ := outcome
  obtain ⟨name', result'⟩ := outcome'
  rcases h.result with _ | _ | _ <;> rfl

/-- Outcomes that correspond (`Outcome.Corresponds`) are both resolved, or neither of them is. -/
theorem Outcome.Corresponds.isResolved_eq {outcome outcome' : Outcome}
    (h : outcome.Corresponds R F outcome') : outcome'.isResolved = outcome.isResolved := by
  rw [Outcome.isResolved, Outcome.isResolved, h.status_eq]

/-- The first outcomes of `name` in corresponding lists correspond, and if there is none in one list
there is none in the other. -/
theorem find?_corresponds {outcomes outcomes' : List Outcome}
    (h : List.Forall₂ (Outcome.Corresponds R F) outcomes outcomes') (name : String) :
    (outcomes.find? (·.name == name) = none ∧ outcomes'.find? (·.name == name) = none) ∨
      ∃ outcome outcome', outcomes.find? (·.name == name) = some outcome ∧
        outcomes'.find? (·.name == name) = some outcome' ∧ outcome.Corresponds R F outcome' := by
  induction h with
  | nil => exact .inl ⟨rfl, rfl⟩
  | cons hfirst _ ih =>
    rw [List.find?_cons, List.find?_cons, hfirst.name_eq]
    split
    · exact .inr ⟨_, _, rfl, rfl, hfirst⟩
    · exact ih

namespace Table.Corresponds

variable {table table' : Table}

/-- Tables without outcomes correspond, for the same `names` and the same `revision`. -/
theorem empty (names : List String) (revision : String) :
    (Table.empty names revision).Corresponds R F (Table.empty names revision) :=
  ⟨rfl, rfl, .nil⟩

/-- The outcomes of `name` in corresponding tables correspond, or neither table has one. -/
theorem outcome? (h : table.Corresponds R F table') (name : String) :
    (table.outcome? name = none ∧ table'.outcome? name = none) ∨
      ∃ outcome outcome', table.outcome? name = some outcome ∧
        table'.outcome? name = some outcome' ∧ outcome.Corresponds R F outcome' :=
  find?_corresponds h.outcomes name

/-- Tables that correspond (`Table.Corresponds`) have outcomes of the same names. -/
theorem isTerminal_eq (h : table.Corresponds R F table') (name : String) :
    table'.isTerminal name = table.isTerminal name := by
  unfold Table.isTerminal
  rcases h.outcome? name with ⟨hnone, hnone'⟩ | ⟨outcome, outcome', hsome, hsome', -⟩
  · rw [hnone, hnone']
  · rw [hsome, hsome', Option.isSome_some, Option.isSome_some]

/-- Tables that correspond (`Table.Corresponds`) bind the same names. -/
theorem isResolved_eq (h : table.Corresponds R F table') (name : String) :
    table'.isResolved name = table.isResolved name := by
  unfold Table.isResolved
  rcases h.outcome? name with ⟨hnone, hnone'⟩ | ⟨outcome, outcome', hsome, hsome', hboth⟩
  · rw [hnone, hnone']
  · rw [hsome, hsome']
    exact hboth.isResolved_eq

/-- Tables that correspond bind `name` to entities related by `R`, or refuse it with the same fault.
-/
theorem resolve (h : table.Corresponds R F table') (name : String) :
    Simulates faults R (table.resolve name) (table'.resolve name) := by
  unfold Table.resolve
  rcases h.outcome? name with ⟨hnone, hnone'⟩ | ⟨⟨_, _⟩, ⟨_, _⟩, hsome, hsome', hboth⟩
  · rw [hnone, hnone']
    exact .error _
  · rw [hsome, hsome']
    rcases hboth.result with hentity | _ | _
    · exact .ok hentity
    · exact .error _
    · exact .error _

/-- Recording outcomes that correspond keeps tables corresponding, or `record` is refused by both of
them. -/
theorem record (h : table.Corresponds R F table') {outcome outcome' : Outcome}
    (houtcome : outcome.Corresponds R F outcome') :
    Simulates faults (Table.Corresponds R F) (table.record outcome) (table'.record outcome') := by
  unfold Table.record
  rw [houtcome.name_eq, h.isTerminal_eq, h.order_eq]
  -- both tables refuse the outcome, or both take it at the same place
  split
  · exact .error _
  · refine .ok ⟨rfl, h.revision_eq, ?_⟩
    exact List.rel_append h.outcomes (.cons houtcome .nil)

end Table.Corresponds

end Reidentify

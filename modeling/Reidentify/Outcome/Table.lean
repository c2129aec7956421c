import Reidentify.Outcome.Basic

/-!
# Tables of outcomes

A table collects the outcomes of a pass. Every mapper gets one outcome, which is never replaced.
Outcomes are listed in the order of the names the table was made with; names that it was not
made with follow in the order in which their outcomes were recorded.
-/

namespace Reidentify

/-- The outcomes recorded so far, at most one for a name (`Table.record`). -/
structure Table where
  /-- The names in the order in which they are listed, with or without an outcome. -/
  order : List String
  /-- The outcomes in the order in which they were recorded. -/
  outcomes : List Outcome
  /-- The revision of the artifact. -/
  revision : String

namespace Table

/-- The table for `names` without outcomes, with which a pass begins. -/
def empty (names : List String) (revision : String) : Table :=
  ⟨names, [], revision⟩

/-- The outcome of `name`, or `none` if nothing was recorded for it. -/
def outcome? (table : Table) (name : String) : Option Outcome :=
  table.outcomes.find? (·.name == name)

/-- Whether an outcome of `name` was recorded, of whatever kind. -/
def isTerminal (table : Table) (name : String) : Bool :=
  (table.outcome? name).isSome

/-- Whether `name` is bound to an entity. A name without an outcome is not. -/
def isResolved (table : Table) (name : String) : Bool :=
  match table.outcome? name with
  | some outcome => outcome.isResolved
  | none => false

/-- Records `outcome` behind the others. A second outcome of a name is refused, and a name that is
not in `table.order` is added to it. -/
def record (table : Table) (outcome : Outcome) : Except Fault Table :=
  if table.isTerminal outcome.name then .error (.recordedTwice outcome.name)
  else
    let order :=
      if table.order.contains outcome.name then table.order else table.order ++ [outcome.name]
    .ok { table with order, outcomes := table.outcomes ++ [outcome] }

/-- The entity that `name` is bound to, or the fault that says in which state it is instead. -/
def resolve (table : Table) (name : String) : Except Fault Entity :=
  match table.outcome? name with
  | none => .error (.unresolved name .pending)
  | some outcome =>
    match outcome.result with
    | .resolved entity => .ok entity
    | .failed _ => .error (.unresolved name .failed)
    | .skipped _ => .error (.unresolved name .skipped)

/-- The outcomes of `table` in the order in which they are listed; names without an outcome are
passed over. -/
def listed (table : Table) : List Outcome :=
  table.order.filterMap table.outcome?

/-- The number of `outcomes` that were recorded in the table. -/
def size (table : Table) : Nat :=
  table.outcomes.length

/-- The names that the table binds to an entity, with their entities, each of them once. -/
def entities (table : Table) : List (String × Entity) :=
  table.order.eraseDups.filterMap fun name => do
    let outcome ← table.outcome? name
    let entity ← outcome.entity?
    return (name, entity)

/-- Whether the tables `a` and `b` give every name equal outcomes, in whatever order. -/
def sameOutcomes (a b : Table) : Bool :=
  a.size == b.size && a.outcomes.all fun outcome => (b.outcome? outcome.name).any outcome.equals

/-- The short form of `table`, the number of its outcomes and its revision. -/
def summary (table : Table) : String :=
  let count := table.size
  s!"MappingTable(entries={count}, revision={Text.quoted table.revision})"

end Table

end Reidentify

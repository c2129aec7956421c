import Reidentify.Outcome.Failure

/-!
# Outcomes of mappers

Every mapper ends in one of three ways: it binds an entity, it fails, or it is skipped because a
mapper it depends on binds nothing.
-/

namespace Reidentify

/-- How a mapper ended, with the entity or the reason. `Outcome` adds the name of the mapper. -/
inductive Result where
  /-- The mapper binds `entity`. -/
  | resolved (entity : Entity)
  /-- The mapper was evaluated and failed, for the reason `failure`. -/
  | failed (failure : Failure)
  /-- The mapper was not evaluated, because the mappers `dependencies` bind nothing. -/
  | skipped (dependencies : List String)
  deriving DecidableEq

/-- The three ways in which a mapper can end (`Result`), without the details. -/
inductive Status where
  /-- With an entity. -/
  | resolved
  /-- With a failure. -/
  | failed
  /-- Without having been evaluated. -/
  | skipped
  deriving DecidableEq, Repr

/-- The name of a status in documents and lines, a word in lower case. -/
def Status.name : Status → String
  | .resolved => "resolved"
  | .failed => "failed"
  | .skipped => "skipped"

/-- The name of a status at the start of a line of a report, in capitals. -/
def Status.heading : Status → String
  | .resolved => "RESOLVED"
  | .failed => "FAILED"
  | .skipped => "SKIPPED"

/-- The outcome of the mapper called `name`, as a table records it: its `result`. -/
structure Outcome where
  /-- The name of the mapper. -/
  name : String
  /-- How it ended. -/
  result : Result
  deriving DecidableEq

namespace Outcome

/-- How the mapper ended, without the details of `outcome.result`. -/
def status (outcome : Outcome) : Status :=
  match outcome.result with
  | .resolved _ => .resolved
  | .failed _ => .failed
  | .skipped _ => .skipped

/-- Whether the mapper binds an entity, i.e. whether `outcome.status` is `resolved`. -/
def isResolved (outcome : Outcome) : Bool :=
  outcome.status == .resolved

/-- The entity that the mapper binds, and `none` if it failed or was skipped. -/
def entity? (outcome : Outcome) : Option Entity :=
  match outcome.result with
  | .resolved entity => some entity
  | _ => none

/-- Why the mapper binds nothing; a skipped mapper has the failure `unresolvedDependency`. -/
def failure? (outcome : Outcome) : Option Failure :=
  match outcome.result with
  | .resolved _ => none
  | .failed failure => some failure
  | .skipped dependencies => some (.unresolvedDependency dependencies)

/-- The sentence about the failure (`Failure.detail`); empty if there is none. -/
def failureDetail (outcome : Outcome) : String :=
  match outcome.failure? with
  | some failure => failure.detail outcome.name
  | none => ""

/-- The kind and the sentence of the failure (`Failure.describe`); empty if there is none. -/
def failureText (outcome : Outcome) : String :=
  match outcome.failure? with
  | some failure => failure.describe outcome.name
  | none => ""

/-- The outcome in one line: what the mapper is bound to, or its status and its failure. -/
def describe (outcome : Outcome) : String :=
  match outcome.entity? with
  | some entity => outcome.name ++ " → " ++ entity.describe
  | none => s!"{outcome.name} [{outcome.status.name}] {outcome.failureText}"

/-- The document of `outcome`: its name and its status, then the reference to its entity or the
document of its failure. -/
def toValue (outcome : Outcome) : Value :=
  .obj ([("name", .str outcome.name), ("status", .str outcome.status.name)]
    ++ (outcome.entity?.map fun entity => ("entity", entity.ref.toValue)).toList
    ++ (outcome.failure?.map fun failure => ("failure", failure.toValue outcome.name)).toList)

/-- Whether the outcomes `a` and `b` are equal: the same name, and the same result up to
`Entity.equals`. -/
def equals (a b : Outcome) : Bool :=
  a.name == b.name &&
    match a.result, b.result with
    | .resolved x, .resolved y => x.equals y
    | x, y => x == y

end Outcome

end Reidentify

import Reidentify.Json.Writer
import Reidentify.Outcome.Table
import Reidentify.Text.Column

/-!
# Reports

A report lists the outcomes of a pass in the order of the table, with their numbers. It has a
text form, one line for every mapper that binds nothing, and a document form.
-/

namespace Reidentify

/-- The `outcomes` of a pass in the order of registration, with the `revision` of the artifact. -/
structure Report where
  /-- The outcomes in the order of the table (`Table.listed`). -/
  outcomes : List Outcome
  /-- The revision of the artifact. -/
  revision : String
  deriving DecidableEq

/-- The report of `table`: its outcomes as they are listed, and its revision. -/
def Table.report (table : Table) : Report :=
  ⟨table.listed, table.revision⟩

namespace Report

/-- The outcomes of `report` with this `status`, in order. -/
def withStatus (report : Report) (status : Status) : List Outcome :=
  report.outcomes.filter (·.status == status)

/-- The number of outcomes of `report` with this `status` (`withStatus`). -/
def count (report : Report) (status : Status) : Nat :=
  (report.withStatus status).length

/-- The number of outcomes of `report`, with any status. -/
def total (report : Report) : Nat :=
  report.outcomes.length

/-- Whether every mapper binds an entity: all outcomes of `report` are resolved. -/
def complete (report : Report) : Bool :=
  report.count .resolved == report.total

/-- The numbers of `report` in words: the resolved ones out of all, the failed and the skipped ones.
-/
def numbers (report : Report) : String :=
  let resolved := report.count .resolved
  let total := report.total
  let failed := report.count .failed
  let skipped := report.count .skipped
  s!"{resolved}/{total} resolved, {failed} failed, {skipped} skipped"

/-- The line of the log at the end of a pass, with the `numbers` of its report. -/
def closing (report : Report) : String :=
  "Resolution finished: " ++ report.numbers

/-- The line of a report about an `outcome` that binds nothing: its status in a column and the
sentence of its failure. -/
def line (outcome : Outcome) : String :=
  "  " ++ Text.padRight 8 outcome.status.heading ++ " " ++ outcome.failureDetail

/-- The text of `report`: its `numbers` behind the revision, then a `line` for every failed mapper
and for every skipped one. -/
def text (report : Report) : String :=
  let head :=
    if report.revision.isEmpty then "" else "revision " ++ report.revision ++ ": "
  let lines := (report.withStatus .failed ++ report.withStatus .skipped).map line
  "\n".intercalate ((head ++ report.numbers) :: lines)

/-- The document of `report`: its revision, its numbers and the documents of its outcomes. -/
def toValue (report : Report) : Value :=
  .obj [("revision", .str report.revision),
    ("summary", .obj [("total", .int report.total), ("resolved", .int (report.count .resolved)),
      ("failed", .int (report.count .failed)), ("skipped", .int (report.count .skipped))]),
    ("outcomes", .list (report.outcomes.map Outcome.toValue))]

/-- Reports and hooks are written in ASCII, with `indent` as it is asked for. -/
def layout (indent : Option Nat) : Json.Layout := ⟨indent, true⟩

/-- The JSON text of the document of `report`, in the layout of this `indent`. -/
def json (report : Report) (indent : Option Nat) : String :=
  Json.written (layout indent) report.toValue

end Report

end Reidentify

import Reidentify.Archive.Pattern
import Reidentify.Archive.Run
import Reidentify.Text.Order

/-!
# The archive

The archive keeps one run per artifact. A run that is saved replaces the run of the same key, and
gets a number that is larger than every number given before, so a number never comes to mean
another run. Runs are found by key, by number, or by a part of their revision.
-/

namespace Reidentify

/-- The runs that are kept, and what is needed to give a new one its number. -/
structure Archive where
  /-- The runs in the order in which they were saved, one for a key. -/
  runs : List StoredRun
  /-- The largest number given so far, also if its run was removed. -/
  lastId : Int
  deriving DecidableEq

namespace Archive

/-- The archive without `runs`, whose first run gets the number one after the `lastId` zero. -/
def empty : Archive := ⟨[], 0⟩

/-- The text of `cell`, or the fault that its `column` must have a value. -/
def required (column : String) (cell : Cell) : Except Fault String :=
  match cell.asText? with
  | some text => .ok text
  | none => .error (.store (.missing column))

/-- The number of `cell` in a column of counts. An empty cell stands for zero. -/
def count (cell : Cell) : Cell :=
  match cell.asInteger with
  | .empty => .integer 0
  | other => other

/-- The run that is kept for `record` under the number `id`. All values are made cells before any of
them is missed. -/
def rowOf (id : Int) (record : RunRecord) : Except Fault StoredRun := do
  let key ← Cell.ofValue 1 record.key
  let revision ← Cell.ofValue 2 record.revision
  let report ← Cell.ofValue 3 record.report
  let hooks ← Cell.ofValue 4 record.hooks
  let resolved ← Cell.ofValue 5 record.resolved
  let failed ← Cell.ofValue 6 record.failed
  let keyText ← required "artifact_hash" key
  let reportText ← required "report_json" report
  return {
    id
    key := keyText
    revision := revision.asText?.getD ""
    report := reportText
    hooks := hooks.asText?.getD "[]"
    resolved := count resolved
    failed := count failed
    created := record.created.stamp }

/-- Saves `record` in place of the run with the same key, and returns its number, one more than
`archive.lastId`. -/
def save (archive : Archive) (record : RunRecord) : Except Fault (Archive × Int) :=
  let id := archive.lastId + 1
  match rowOf id record with
  | .error fault => .error fault
  | .ok row => .ok (⟨archive.runs.filter (·.key != row.key) ++ [row], id⟩, id)

/-- The run of `key`, which may be any value that has a cell. -/
def get (archive : Archive) (key : Value) : Except Fault (Option StoredRun) :=
  (Cell.ofValue 1 key).map fun cell =>
    cell.asText?.bind fun text => archive.runs.find? (·.key == text)

/-- Whether `cell` is the number of `run`, after it is converted as in a column of integers. -/
def isId (cell : Cell) (run : StoredRun) : Bool :=
  cell.asInteger == .integer run.id

/-- The run with the number `id`, which may be any value that has a cell. -/
def getById (archive : Archive) (id : Value) : Except Fault (Option StoredRun) :=
  (Cell.ofValue 1 id).map fun cell => archive.runs.find? (isId cell)

/-- Whether the run `a` is listed before the run `b`: later stamps come first, and of equal stamps
the larger number. -/
def listedBefore (a b : StoredRun) : Bool :=
  if a.created = b.created then b.id ≤ a.id else Text.isBefore b.created a.created

/-- Puts `run` at its place by `listedBefore` in a list of runs. -/
def insertRun (run : StoredRun) : List StoredRun → List StoredRun
  | [] => [run]
  | other :: rest =>
    if listedBefore run other then run :: other :: rest else other :: insertRun run rest

/-- The runs whose revision contains the text `revision`, in the order in which runs are listed. A
text that is too long is refused as soon as there is a run to compare it with. -/
def search (archive : Archive) (revision : String) : Except Fault (List StoredRun) :=
  match Cell.encodable (Pattern.containing revision) with
  | .error fault => .error fault
  | .ok pattern =>
    if Pattern.isTooLong pattern && !archive.runs.isEmpty then .error (.store .patternTooLong)
    else
      .ok ((archive.runs.filter fun run => Pattern.fitsText pattern run.revision).foldr
        insertRun [])

/-- Removes the run of `key`, which may be any value that has a cell, and returns how many runs were
removed. -/
def invalidate (archive : Archive) (key : Value) : Except Fault (Archive × Nat) :=
  (Cell.ofValue 1 key).map fun cell =>
    match cell.asText? with
    | none => (archive, 0)
    | some text =>
      ({ archive with runs := archive.runs.filter (·.key != text) },
        archive.runs.countP (·.key == text))

/-- Removes the run with the number `id`, which may be any value that has a cell, and returns
whether there was one. -/
def delete (archive : Archive) (id : Value) : Except Fault (Archive × Bool) :=
  (Cell.ofValue 1 id).map fun cell =>
    ({ archive with runs := archive.runs.filter fun run => !isId cell run },
      archive.runs.any (isId cell))

end Archive

end Reidentify

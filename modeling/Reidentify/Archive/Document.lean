import Reidentify.Archive.Store
import Reidentify.Json.Writer

/-!
# Documents of archives

An archive as a document, so that it can be kept in a file: the largest number given so far and
the runs. Reading a document back refuses everything that is not such a document.
-/

namespace Reidentify

/-- The document of `run`, its columns by name. -/
def StoredRun.toValue (run : StoredRun) : Value :=
  .obj [("id", .int run.id), ("key", .str run.key), ("revision", .str run.revision),
    ("report", .str run.report), ("hooks", .str run.hooks), ("resolved", run.resolved.toValue),
    ("failed", run.failed.toValue), ("created", .str run.created)]

/-- The cell that a value stands for, as `Cell.toValue` writes it; truth values, lists and objects
stand for none. -/
def Cell.ofScalar? : Value → Option Cell
  | .null => some .empty
  | .int number => some (.integer number)
  | .float number => some (.real number)
  | .str value => some (.text value)
  | _ => none

/-- Reads the document of a run, exactly the form of `StoredRun.toValue`. -/
def StoredRun.ofValue? : Value → Option StoredRun
  | .obj [("id", .int id), ("key", .str key), ("revision", .str revision),
      ("report", .str report), ("hooks", .str hooks), ("resolved", resolved),
      ("failed", failed), ("created", .str created)] => do
    let resolved ← Cell.ofScalar? resolved
    let failed ← Cell.ofScalar? failed
    return { id, key, revision, report, hooks, resolved, failed, created }
  | _ => none

namespace Archive

/-- The document of `archive`: the largest number given and its runs in order. -/
def toValue (archive : Archive) : Value :=
  .obj [("lastId", .int archive.lastId), ("runs", .list (archive.runs.map StoredRun.toValue))]

/-- Reads the document of an archive, exactly the form of `Archive.toValue`. -/
def ofValue? : Value → Option Archive
  | .obj [("lastId", .int lastId), ("runs", .list runs)] =>
    (runs.mapM StoredRun.ofValue?).map fun found => ⟨found, lastId⟩
  | _ => none

/-- The text of `archive` in a file, on one line and in ASCII. -/
def text (archive : Archive) : String :=
  Json.written ⟨none, true⟩ archive.toValue

/-- Reads the `text` of an archive, or finds that it is none. -/
def ofText? (text : String) : Option Archive :=
  match Json.read text with
  | .ok document => ofValue? document
  | .error _ => none

end Archive

@[simp] theorem Cell.ofScalar?_toValue (cell : Cell) : Cell.ofScalar? cell.toValue = some cell := by
  cases cell <;> rfl

@[simp] theorem StoredRun.ofValue?_toValue (run : StoredRun) :
    StoredRun.ofValue? run.toValue = some run := by
  simp [StoredRun.ofValue?, StoredRun.toValue]

theorem Archive.ofValue?_toValue (archive : Archive) :
    Archive.ofValue? archive.toValue = some archive := by
  have h : ∀ runs : List StoredRun,
      (runs.map StoredRun.toValue).mapM StoredRun.ofValue? = some runs := by
    intro runs
    induction runs with
    | nil => rfl
    | cons run rest ih => simp [ih]
  simp [Archive.ofValue?, Archive.toValue, h]

end Reidentify

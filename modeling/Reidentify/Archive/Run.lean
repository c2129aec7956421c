import Reidentify.Archive.Cell
import Reidentify.Archive.Iso

/-!
# Runs

A run is the record of one pass: the key of the artifact's file, its revision, the report and the
hooks as JSON texts, and the numbers of mappers that did and did not bind an entity. A run may be
made of any values; the archive decides what it keeps of them.
-/

namespace Reidentify

/-- A run that is to be kept. All parts but the time are values of any form, because `Archive.rowOf`
decides what becomes of them. -/
structure RunRecord where
  /-- The key of the artifact's file. -/
  key : Value
  /-- The report as JSON text. -/
  report : Value
  /-- The revision of the artifact. -/
  revision : Value
  /-- The hooks as JSON text. -/
  hooks : Value
  /-- The number of mappers that bind an entity, if it is a number. -/
  resolved : Value
  /-- The number of the other mappers, if it is a number. -/
  failed : Value
  /-- When the run was made. -/
  created : Timestamp
  deriving DecidableEq

/-- A run that is kept, a row of the store whose values its columns have converted (`Cell`). -/
structure StoredRun where
  /-- The number of the run, given by `Archive.save` and never given twice. -/
  id : Int
  /-- The key of the artifact's file, which no two runs of an archive share. -/
  key : String
  /-- The revision of the artifact. -/
  revision : String
  /-- The report as JSON text. -/
  report : String
  /-- The hooks as JSON text. -/
  hooks : String
  /-- The number of mappers that bind an entity. -/
  resolved : Cell
  /-- The number of the other mappers. -/
  failed : Cell
  /-- The stamp of the time when the run was made (`Timestamp.stamp`). -/
  created : String
  deriving DecidableEq

namespace RunRecord

/-- The names of the members that a run can be made of by `ofMembers`. -/
def memberNames : List String :=
  ["artifact_hash", "report_json", "revision", "hooks_json", "resolved_count", "failed_count",
   "id", "created_at"]

/-- The time of a run. The absent value stands for the present, `now`. -/
def createdOf (now : Timestamp) : Value → Except Fault Timestamp
  | .null => .ok now
  | .str text =>
    match Iso.read text with
    | .ok t => .ok t
    | .error cause => .error (.value cause)
  | _ => .error .wrongType

/-- Makes a run of named `members`. The time is read first; the key and the report have to be there,
and every name has to be one of `memberNames`. -/
def ofMembers (now : Timestamp) (members : List (String × Value)) : Except Fault RunRecord :=
  match createdOf now ((members.lookup "created_at").getD .null) with
  | .error fault => .error fault
  | .ok created =>
    match members.lookup "artifact_hash", members.lookup "report_json" with
    | some key, some report =>
      if members.all fun entry => memberNames.contains entry.1 then
        .ok {
          key, report, created
          revision := (members.lookup "revision").getD (.str "")
          hooks := (members.lookup "hooks_json").getD (.str "[]")
          resolved := (members.lookup "resolved_count").getD (.int 0)
          failed := (members.lookup "failed_count").getD (.int 0) }
      else .error .wrongType
    | _, _ => .error .wrongType

end RunRecord

namespace StoredRun

/-- When `run` was made. A stamp that cannot be read stands for the present, `now`. -/
def createdAt (run : StoredRun) (now : Timestamp) : Timestamp :=
  (Timestamp.ofStamp? run.created).getD now

/-- The short form of `run`: its number, its revision and its counts. -/
def summary (run : StoredRun) : String :=
  s!"RunRecord(id={run.id}, revision={Text.quoted run.revision}, resolved="
    ++ run.resolved.toValue.plain ++ ", failed=" ++ run.failed.toValue.plain ++ ")"

/-- The value that a JSON `text` of a run writes, with the faults of a reader of documents. -/
def parsed (text : String) : Except Fault Value :=
  match Json.read text with
  | .ok value => .ok value
  | .error (.malformed problem offset) => .error (.json text problem offset)
  | .error .tooDeep => .error .tooDeep
  | .error (.integerTooLong digits) => .error (.value (.tooManyDigits digits))

end StoredRun

end Reidentify

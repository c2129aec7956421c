import Reidentify.Report.Summary

/-!
# Changes between reports

Two reports are compared by the names of their outcomes: a name may be new, may be gone, may have
changed its status, or may be bound to another entity. Reports are compared in their document
form too, so that a stored report can be compared with a fresh one; a document may hold any
values as names, statuses and entities.
-/

namespace Reidentify

/-- What a comparison of reports looks at in an outcome. All three parts are values, because a
document may hold any. -/
structure ReportEntry where
  /-- The name of the mapper. -/
  name : Value
  /-- The status of the mapper. -/
  status : Value
  /-- The reference to the entity that the mapper binds, or `.null`. -/
  entity : Value
  deriving DecidableEq

/-- The kinds of changes. A name of both reports has at most one: `status` comes before `entity`. -/
inductive ChangeKind where
  /-- The name is in the new report only. -/
  | added
  /-- The name is in the old report only. -/
  | removed
  /-- The status differs. -/
  | status
  /-- The status is the same, but the entity differs. -/
  | entity
  deriving DecidableEq, Repr

/-- The name of a kind of change in a line, a word in lower case. -/
def ChangeKind.name : ChangeKind → String
  | .added => "added"
  | .removed => "removed"
  | .status => "status"
  | .entity => "entity"

/-- A change of one name, with both sides of it. What a side does not have is `.null`. -/
structure Change where
  /-- The name of the mapper. -/
  name : Value
  /-- What has changed. -/
  kind : ChangeKind
  /-- The status in the old report. -/
  oldStatus : Value
  /-- The status in the new report. -/
  newStatus : Value
  /-- The entity in the old report. -/
  oldEntity : Value
  /-- The entity in the new report. -/
  newEntity : Value
  deriving DecidableEq

/-- Whether `a` and `b` are the same name. A value that is no number is the same name as itself,
although it is not equal to itself. -/
def Value.sameName (a b : Value) : Bool :=
  a.bothNotANumber b || a.equals b

namespace Change

/-- The words for `change`: the name and both entities, or both statuses with a dash for what is not
there. -/
def describe (change : Change) : String :=
  match change.kind with
  | .entity =>
    s!"{change.name.plain}: {change.oldEntity.plain} → {change.newEntity.plain}"
  | _ =>
    let shown (status : Value) : String := if status.isTruthy then status.plain else "-"
    s!"{change.name.plain}: {shown change.oldStatus} → {shown change.newStatus}"

/-- The change from the entry `old` of the old report, if there is one, to the entry `new`, and
`none` if they agree. -/
def between? (old : Option ReportEntry) (new : ReportEntry) : Option Change :=
  match old with
  | none => some ⟨new.name, .added, .null, new.status, .null, new.entity⟩
  | some old =>
    if !old.status.equals new.status then
      some ⟨new.name, .status, old.status, new.status, old.entity, new.entity⟩
    else if !old.entity.equals new.entity then
      some ⟨new.name, .entity, old.status, new.status, old.entity, new.entity⟩
    else none

/-- The change of the entry `old` of the old report, which the new one does not have. -/
def removal (old : ReportEntry) : Change :=
  ⟨old.name, .removed, old.status, .null, old.entity, .null⟩

end Change

namespace ReportEntry

/-- The first of `entries` with this `name`, in the sense of `Value.sameName`. -/
def find? (entries : List ReportEntry) (name : Value) : Option ReportEntry :=
  entries.find? (·.name.sameName name)

/-- The changes between two reports: first what is new or different, in the order of `new`, then
what is gone, in the order of `old`. -/
def changes (old new : List ReportEntry) : List Change :=
  new.filterMap (fun entry => Change.between? (find? old entry.name) entry)
    ++ (old.filter fun entry => (find? new entry.name).isNone).map Change.removal

/-- The entry of `outcome`: its name, the name of its status and the reference to its entity. -/
def ofOutcome (outcome : Outcome) : ReportEntry :=
  ⟨.str outcome.name, .str outcome.status.name,
    match outcome.entity? with
    | some entity => entity.ref.toValue
    | none => .null⟩

end ReportEntry

/-- The entries of `report`, in the order of its outcomes. -/
def Report.entries (report : Report) : List ReportEntry :=
  report.outcomes.map ReportEntry.ofOutcome

/-- An outcome of a document: its `name`, and all its `members`, the name included. -/
structure NamedMembers where
  /-- The name of the mapper. -/
  name : Value
  /-- The members of the outcome. -/
  members : List (String × Value)
  deriving DecidableEq

namespace NamedMembers

/-- Sets the members of the name of `entry`: a known name (`Value.sameName`) keeps its place, a new
one is added at the end. -/
def put (entry : NamedMembers) : List NamedMembers → List NamedMembers
  | [] => [entry]
  | other :: rest =>
    if other.name.sameName entry.name then ⟨other.name, entry.members⟩ :: rest
    else other :: put entry rest

/-- Reads an outcome of a document. It has to be an object with a name, and the name a value that
can be looked up (`Value.isIndexable`). -/
def ofValue (outcome : Value) : Except Fault NamedMembers :=
  match outcome with
  | .obj members =>
    match members.lookup "name" with
    | none => .error (.missingKey "name")
    | some name => if name.isIndexable then .ok ⟨name, members⟩ else .error .wrongType
  | _ => .error .wrongType

/-- Reads outcomes one after another, behind those `seen`; a later one replaces an earlier one of
its name (`put`). -/
def ofItems (seen : List NamedMembers) : List Value → Except Fault (List NamedMembers)
  | [] => .ok seen
  | item :: rest =>
    match ofValue item with
    | .error fault => .error fault
    | .ok entry => ofItems (put entry seen) rest

/-- Reads the outcomes of a report in its document form. A report without outcomes has none, and
empty texts and objects are as good as the empty list. -/
def ofReport (report : Value) : Except Fault (List NamedMembers) :=
  match report with
  | .obj members =>
    match (members.lookup "outcomes").getD (.list []) with
    | .list items => ofItems [] items
    | .str "" | .obj [] => .ok []
    | _ => .error .wrongType
  | _ => .error .noAttribute

/-- The entry of `outcome`, which needs a status; its entity may be missing. -/
def toEntry (outcome : NamedMembers) : Except Fault ReportEntry :=
  match outcome.members.lookup "status" with
  | none => .error (.missingKey "status")
  | some status => .ok ⟨outcome.name, status, Value.member outcome.members "entity"⟩

/-- The entries of several outcomes, in order, or the first fault of `toEntry`. -/
def toEntries : List NamedMembers → Except Fault (List ReportEntry)
  | [] => .ok []
  | outcome :: rest =>
    match outcome.toEntry with
    | .error fault => .error fault
    | .ok entry => (toEntries rest).map (entry :: ·)

end NamedMembers

/-- The changes between two reports in their document form. The names of both are read before the
statuses of either. -/
def changesOfDocuments (old new : Value) : Except Fault (List Change) :=
  match NamedMembers.ofReport old with
  | .error fault => .error fault
  | .ok before =>
    match NamedMembers.ofReport new with
    | .error fault => .error fault
    | .ok after =>
      -- the statuses of the new report are asked for first
      match NamedMembers.toEntries after with
      | .error fault => .error fault
      | .ok newEntries =>
        match NamedMembers.toEntries before with
        | .error fault => .error fault
        | .ok oldEntries => .ok (ReportEntry.changes oldEntries newEntries)

end Reidentify

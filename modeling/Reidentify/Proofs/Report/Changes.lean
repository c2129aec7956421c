import Mathlib.Data.List.Perm.Lattice
import Mathlib.Data.Option.Basic
import Reidentify.Proofs.Text.Names
import Reidentify.Report.Changes

/-!
# The changes between two reports

The changes from an old report to a new one are exactly what turns the one into the other. There is
at most one change for every name, and there is one iff the reports say something different about
the name; whoever knows the old report and the changes knows the new one. The changes in the other
direction are the same ones, read backwards.

## Main definitions

* `ReportEntry.Same`, `ReportEntry.Agree`: two reports say the same about a name.
* `Change.Tells`: the change that tells two reports apart at a name.
* `Change.applyAll`: what is known of the names when changes are applied.
* `Change.mirror`: a change that is read backwards.
* `Report.IsDiff`: changes are exactly what turns a report into another one.

## Main statements

* `Report.mem_changes_iff`: the changes are those that tell the reports apart.
* `Report.isDiff_changes`: they are exactly what turns one report into the other.
-/

namespace Reidentify

section Definitions

/-- Two entries `a` and `b` say the same: they have equal statuses and equal references. -/
def ReportEntry.Same (a b : ReportEntry) : Prop :=
  a.status.equals b.status = true ∧ a.entity.equals b.entity = true

/-- The same is said (`ReportEntry.Same`), or nothing is said on either side. -/
def ReportEntry.Agree : Option ReportEntry → Option ReportEntry → Prop :=
  Option.Rel ReportEntry.Same

/-- What a `report` says about a `name`, if it has an outcome of the name. -/
def Report.entryOf? (report : Report) (name : String) : Option ReportEntry :=
  ReportEntry.find? report.entries (.str name)

namespace Change

/-- The change that tells two reports apart, which say different things about a `name`. What a side
does not say is absent from the change. -/
inductive Tells (name : String) : Option ReportEntry → Option ReportEntry → Change → Prop
  /-- Only the `new` report has the name. -/
  | added (new : ReportEntry) :
    Tells name none (some new) ⟨.str name, .added, .null, new.status, .null, new.entity⟩
  /-- Only the `old` report has the name. -/
  | removed (old : ReportEntry) :
    Tells name (some old) none ⟨.str name, .removed, old.status, .null, old.entity, .null⟩
  /-- The statuses differ, whether or not the references do. -/
  | status {old new : ReportEntry} (hstatus : old.status.equals new.status = false) :
    Tells name (some old) (some new)
      ⟨.str name, .status, old.status, new.status, old.entity, new.entity⟩
  /-- The statuses are equal, and the references differ. -/
  | entity {old new : ReportEntry} (hstatus : old.status.equals new.status = true)
    (hentity : old.entity.equals new.entity = false) :
    Tells name (some old) (some new)
      ⟨.str name, .entity, old.status, new.status, old.entity, new.entity⟩

/-- What is known of the names behind a `change`: it removes its name from what is `known` or sets
what is said about it. -/
def apply (change : Change) (known : String → Option ReportEntry) (name : String) :
    Option ReportEntry :=
  if change.name = .str name then
    if change.kind = .removed then none
    else some ⟨change.name, change.newStatus, change.newEntity⟩
  else known name

/-- What is known of the names behind several `changes`, which are applied one after the other. -/
def applyAll (changes : List Change) (known : String → Option ReportEntry) :
    String → Option ReportEntry :=
  changes.foldl (fun known change => change.apply known) known

end Change

/-- The kind of a change that is read backwards: `added` and `removed` are exchanged. -/
def ChangeKind.mirror : ChangeKind → ChangeKind
  | .added => .removed
  | .removed => .added
  | .status => .status
  | .entity => .entity

/-- A `change` that is read backwards, from the new report to the old one. -/
def Change.mirror (change : Change) : Change :=
  ⟨change.name, change.kind.mirror, change.newStatus, change.oldStatus, change.newEntity,
    change.oldEntity⟩

/-- The `changes` are exactly what turns the report `old` into the report `new`. -/
structure Report.IsDiff (old new : Report) (changes : List Change) : Prop where
  /-- There is at most one change for a name. -/
  nodup : (changes.map (·.name)).Nodup
  /-- The changes are those that tell the reports apart at some name (`Change.Tells`). -/
  mem_iff : ∀ change, change ∈ changes ↔
    ∃ name, change.Tells name (old.entryOf? name) (new.entryOf? name)
  /-- There is a change for a name iff the reports do not `Agree` about it. -/
  changed_iff : ∀ name, .str name ∈ changes.map (·.name) ↔
    ¬ReportEntry.Agree (old.entryOf? name) (new.entryOf? name)
  /-- Applied to the `old` report by `applyAll`, the changes give what the `new` one says. -/
  applied : ∀ name,
    ReportEntry.Agree (Change.applyAll changes old.entryOf? name) (new.entryOf? name)
  /-- The names that are `kept` come in the order of the new report, and then those that are `gone`
  in the order of the old one. -/
  order : ∃ kept gone : List String, changes.map (·.name) = (kept ++ gone).map .str ∧
    kept.Sublist (new.outcomes.map (·.name)) ∧ gone.Sublist (old.outcomes.map (·.name)) ∧
    ∀ name ∈ gone, name ∉ new.outcomes.map (·.name)
  /-- There are no changes iff the reports say the same about every name. -/
  eq_nil_iff : changes = [] ↔ ∀ name, ReportEntry.Agree (old.entryOf? name) (new.entryOf? name)

end Definitions

section References

/-- The operation `opcode` as a number, however it was written, since equal ones may be written in
two ways. -/
def Opcode.numbered (opcode : Opcode) : Opcode :=
  .number ⟨opcode.code, opcode.code_lt⟩

/-- A reference whose operation, if it has one, is `numbered`. -/
def EntityRef.numbered : EntityRef → EntityRef
  | .toInstruction owner method descriptor index opcode =>
    .toInstruction owner method descriptor index opcode.numbered
  | reference => reference

theorem Opcode.toValue_equals_iff (a b : Opcode) :
    a.toValue.equals b.toValue = true ↔ a.numbered = b.numbered := by
  have htruth (truth : Bool) :
      (if truth then 1 else 0 : Int) = (if truth then 1 else 0 : Nat) := by
    cases truth <;> rfl
  cases a <;> cases b <;>
    simp only [toValue, numbered, code, Value.equals, Value.scalarEquals, Value.quantity?,
      Value.Quantity.equals, htruth, beq_iff_eq, Int.ofNat_inj, Opcode.number.injEq, Fin.mk.injEq]

/-- References `a` and `b` are equal iff they are the same when their operations are `numbered`. -/
theorem EntityRef.toValue_equals_iff (a b : EntityRef) :
    a.toValue.equals b.toValue = true ↔ a.numbered = b.numbered := by
  have htext (x y : String) : (Value.str x).scalarEquals (.str y) = (x == y) := rfl
  have hindex (m n : Nat) : (Value.int m).scalarEquals (.int n) = true ↔ m = n := by
    show ((m : Int) == n) = true ↔ m = n
    rw [beq_iff_eq, Int.ofNat_inj]
  -- none of the members is a floating-point number
  have htext' (x y : String) : (Value.str x).bothNotANumber (.str y) = false := rfl
  have hindex' (m n : Int) : (Value.int m).bothNotANumber (.int n) = false := rfl
  have hopcode' (a b : Opcode) : a.toValue.bothNotANumber b.toValue = false := by
    cases a <;> cases b <;> rfl
  cases a <;> cases b <;>
    simp [toValue, numbered, Value.equals, Value.membersWithin, List.lookup_cons, htext, hindex,
      htext', hindex', hopcode', Opcode.toValue_equals_iff]

end References

section Entries

variable {report : Report} {name : String}

namespace ReportEntry

theorem status_equals_iff (a b : Outcome) :
    (ofOutcome a).status.equals (ofOutcome b).status = true ↔ a.status.name = b.status.name := by
  show (Value.str a.status.name).equals (.str b.status.name) = true ↔ _
  rw [Value.equals_str, Value.str.injEq]

/-- Outcomes `a` and `b` are bound to equal entities iff their references are the same as numbers
(`numbered`). -/
theorem entity_equals_iff (a b : Outcome) :
    (ofOutcome a).entity.equals (ofOutcome b).entity = true ↔
      a.entity?.map (·.ref.numbered) = b.entity?.map (·.ref.numbered) := by
  have hnull : Value.null.equals .null = true := rfl
  -- the absent value is no reference
  have hleft (reference : EntityRef) : Value.null.equals reference.toValue = false := by
    cases reference <;> rfl
  have hright (reference : EntityRef) : reference.toValue.equals .null = false := by
    cases reference <;> rfl
  unfold ofOutcome
  cases a.entity? with
  | none => cases b.entity? <;> simp [hnull, hleft]
  | some entity => cases b.entity? <;> simp [hright, EntityRef.toValue_equals_iff]

theorem same_refl (outcome : Outcome) : Same (ofOutcome outcome) (ofOutcome outcome) :=
  ⟨(status_equals_iff outcome outcome).2 rfl, (entity_equals_iff outcome outcome).2 rfl⟩

theorem status_equals_comm (a b : Outcome) : (ofOutcome a).status.equals (ofOutcome b).status =
    (ofOutcome b).status.equals (ofOutcome a).status := by
  rw [Bool.eq_iff_iff, status_equals_iff, status_equals_iff, eq_comm]

theorem entity_equals_comm (a b : Outcome) : (ofOutcome a).entity.equals (ofOutcome b).entity =
    (ofOutcome b).entity.equals (ofOutcome a).entity := by
  rw [Bool.eq_iff_iff, entity_equals_iff, entity_equals_iff, eq_comm]

end ReportEntry

/-- Only a `text` is the same name as the text (`sameName`). -/
theorem Value.sameName_str_iff {value : Value} {text : String} :
    value.sameName (.str text) = true ↔ value = .str text := by
  cases value <;> simp [sameName, bothNotANumber, equals_str]

namespace Report

/-- What a `report` says about a `name` is what it says in the first outcome of the name. -/
theorem entryOf?_eq (report : Report) (name : String) : report.entryOf? name =
    (report.outcomes.find? (·.name == name)).map ReportEntry.ofOutcome := by
  have hsame (outcome : Outcome) :
      (ReportEntry.ofOutcome outcome).name.sameName (.str name) = (outcome.name == name) := by
    rw [Bool.eq_iff_iff, Value.sameName_str_iff, beq_iff_eq]
    show Value.str outcome.name = .str name ↔ _
    rw [Value.str.injEq]
  rw [entryOf?, ReportEntry.find?, entries, List.find?_map]
  simp only [Function.comp_def, hsame]

theorem entryOf?_eq_some_iff (h : (report.outcomes.map (·.name)).Nodup) {entry : ReportEntry} :
    report.entryOf? name = some entry ↔
      ∃ outcome ∈ report.outcomes, outcome.name = name ∧ ReportEntry.ofOutcome outcome = entry := by
  simp [entryOf?_eq, Text.find?_eq_some_iff_of_nodup h, and_assoc]

theorem entryOf?_eq_none_iff :
    report.entryOf? name = none ↔ name ∉ report.outcomes.map (·.name) := by
  rw [entryOf?_eq, Option.map_eq_none_iff, Text.find?_eq_none_iff]

end Report

end Entries

namespace Change

variable {name : String} {old new : Option ReportEntry} {change : Change}

namespace Tells

theorem name_eq (h : Tells name old new change) : change.name = .str name := by
  cases h <;> rfl

/-- A change that `Tells` two reports apart turns what the `old` one says about its name into what
the `new` one says. -/
theorem apply_eq (h : Tells name old new change)
    (hname : ∀ entry, new = some entry → entry.name = .str name)
    (known : String → Option ReportEntry) : change.apply known name = new := by
  cases h with
  | removed old => simp [apply]
  | added new | status | entity => simp [apply, ← hname _ rfl]

/-- The change that `Tells` two outcomes apart tells them apart when it is read backwards. -/
theorem mirror {old new : Option Outcome}
    (h : Tells name (old.map .ofOutcome) (new.map .ofOutcome) change) :
    Tells name (new.map .ofOutcome) (old.map .ofOutcome) change.mirror := by
  cases old with
  | none =>
    cases new with
    | none => cases h
    | some new =>
      cases h
      exact .removed _
  | some old =>
    cases new with
    | none =>
      cases h
      exact .added _
    | some new =>
      cases h with
      | status hstatus =>
        rw [ReportEntry.status_equals_comm] at hstatus
        exact .status hstatus
      | entity hstatus hentity =>
        rw [ReportEntry.status_equals_comm] at hstatus
        rw [ReportEntry.entity_equals_comm] at hentity
        exact .entity hstatus hentity

end Tells

theorem mirror_mirror (change : Change) : change.mirror.mirror = change := by
  obtain ⟨name, kind, oldStatus, newStatus, oldEntity, newEntity⟩ := change
  cases kind <;> rfl

/-- Some change `Tells` two reports apart at a name iff they do not `Agree` about it. -/
theorem exists_tells_iff : (∃ change, Tells name old new change) ↔ ¬ReportEntry.Agree old new := by
  constructor
  · rintro ⟨change, htells⟩ hagree
    cases htells with
    | added | removed => cases hagree
    | status hstatus =>
      cases hagree with
      | some hsame => simp [hsame.1] at hstatus
    | entity _ hentity =>
      cases hagree with
      | some hsame => simp [hsame.2] at hentity
  · intro hdiffer
    cases old with
    | none =>
      cases new with
      | none => exact absurd .none hdiffer
      | some new => exact ⟨_, .added new⟩
    | some old =>
      cases new with
      | none => exact ⟨_, .removed old⟩
      | some new =>
        -- the references count only where the statuses are equal
        by_cases hstatus : old.status.equals new.status = true
        · by_cases hentity : old.entity.equals new.entity = true
          · exact absurd (.some ⟨hstatus, hentity⟩) hdiffer
          · exact ⟨_, .entity hstatus (Bool.eq_false_iff.2 hentity)⟩
        · exact ⟨_, .status (Bool.eq_false_iff.2 hstatus)⟩

/-- The change at an `entry` of the new report is the one that `between?` finds. -/
theorem tells_some_iff {entry : ReportEntry} (hname : entry.name = .str name) :
    Tells name old (some entry) change ↔ between? old entry = some change := by
  unfold between?
  rw [hname]
  constructor
  · intro h
    cases h with
    | added => rfl
    | status hstatus => simp [hstatus]
    | entity hstatus hentity => simp [hstatus, hentity]
  · intro h
    split at h
    · cases h
      exact .added entry
    · split at h
      · next hstatus =>
        cases h
        rw [Bool.not_eq_true'] at hstatus
        exact .status hstatus
      · next hstatus =>
        rw [Bool.not_eq_true', Bool.not_eq_false] at hstatus
        split at h
        · next hentity =>
          cases h
          rw [Bool.not_eq_true'] at hentity
          exact .entity hstatus hentity
        · cases h

/-- The change at an `entry` of the old report that the new one does not have is its `removal`. -/
theorem tells_none_iff {entry : ReportEntry} (hname : entry.name = .str name) :
    Tells name (some entry) none change ↔ removal entry = change := by
  rw [removal, hname]
  constructor
  · rintro ⟨⟩
    rfl
  · rintro rfl
    exact .removed entry

section ApplyAll

variable {changes : List Change} {known : String → Option ReportEntry}

/-- Nothing that is `known` changes for a name without a change. -/
theorem applyAll_of_not_mem (h : .str name ∉ changes.map (·.name)) :
    applyAll changes known name = known name := by
  -- by induction on the changes, each of which is for another name
  induction changes generalizing known with
  | nil => rfl
  | cons first rest ih =>
    rw [List.map_cons, List.mem_cons, not_or] at h
    have hrest : applyAll rest (first.apply known) name = first.apply known name := ih h.2
    rw [applyAll, List.foldl_cons, ← applyAll, hrest, apply, if_neg (Ne.symm h.1)]

/-- If there is only one change for every name, the `change` of a name is the only one that counts
for it. -/
theorem applyAll_of_mem (hnodup : (changes.map (·.name)).Nodup) (hmem : change ∈ changes)
    (hname : change.name = .str name) :
    applyAll changes known name = change.apply known name := by
  induction changes generalizing known with
  | nil => cases hmem
  | cons first rest ih =>
    rw [List.map_cons, List.nodup_cons] at hnodup
    rcases List.mem_cons.1 hmem with rfl | hmem
    · exact applyAll_of_not_mem (hname ▸ hnodup.1)
    · -- whatever the first change does is overwritten
      have hrest : applyAll rest (first.apply known) name = change.apply (first.apply known) name :=
        ih hnodup.2 hmem
      rw [applyAll, List.foldl_cons, ← applyAll, hrest]
      simp [apply, hname]

end ApplyAll

end Change

section Documents

namespace NamedMembers

/-- An `entry` of a name that is not known is put behind the others that have been `seen`. -/
theorem put_of_fresh {entry : NamedMembers} {name : String} (hname : entry.name = .str name)
    {seen : List NamedMembers} (h : ∀ other ∈ seen, other.name ≠ .str name) :
    put entry seen = seen ++ [entry] := by
  induction seen with
  | nil => rfl
  | cons other rest ih =>
    obtain ⟨hother, hrest⟩ := List.forall_mem_cons.1 h
    rw [put, hname, if_neg (mt Value.sameName_str_iff.1 hother), ih hrest, List.cons_append]

/-- The document `outcome.toValue` is read as the entry of the `outcome`. -/
theorem exists_ofValue_toValue (outcome : Outcome) :
    ∃ entry, ofValue outcome.toValue = .ok entry ∧ entry.name = .str outcome.name ∧
      entry.toEntry = .ok (ReportEntry.ofOutcome outcome) := by
  refine ⟨⟨.str outcome.name, _⟩, rfl, rfl, ?_⟩
  unfold toEntry ReportEntry.ofOutcome Value.member
  cases outcome.entity? <;> cases outcome.failure? <;> simp [List.lookup_cons]

/-- The documents of `outcomes` with distinct names are read one by one, behind those that have been
`seen`. -/
theorem exists_ofItems_toValue {outcomes : List Outcome} (seen : List NamedMembers)
    (hnodup : (outcomes.map (·.name)).Nodup)
    (hfresh : ∀ outcome ∈ outcomes, ∀ other ∈ seen, other.name ≠ .str outcome.name) :
    ∃ entries, ofItems seen (outcomes.map Outcome.toValue) = .ok (seen ++ entries) ∧
      toEntries entries = .ok (outcomes.map ReportEntry.ofOutcome) := by
  -- the outcomes that have been read grow, and stay free of the names that are still to come
  induction outcomes generalizing seen with
  | nil => exact ⟨[], by rw [List.append_nil]; rfl, rfl⟩
  | cons outcome rest ih =>
    obtain ⟨hother, hnodup⟩ := List.nodup_cons.1 hnodup
    obtain ⟨hseen, hfresh⟩ := List.forall_mem_cons.1 hfresh
    obtain ⟨entry, hread, hname, hentry⟩ := exists_ofValue_toValue outcome
    have hrest : ∀ later ∈ rest, ∀ other ∈ seen ++ [entry], other.name ≠ .str later.name := by
      intro later hlater other hmem
      rcases List.mem_append.1 hmem with hmem | hmem
      · exact hfresh later hlater other hmem
      · obtain rfl := List.mem_singleton.1 hmem
        rw [hname, Ne, Value.str.injEq]
        intro hsame
        exact hother (List.mem_map.2 ⟨later, hlater, hsame.symm⟩)
    obtain ⟨entries, hitems, hentries⟩ := ih _ hnodup hrest
    refine ⟨entry :: entries, ?_, ?_⟩
    · rw [List.map_cons, ofItems, hread]
      simp only
      rw [put_of_fresh hname hseen, hitems, List.append_assoc, List.singleton_append]
    · rw [toEntries, hentry]
      simp only
      rw [hentries]
      rfl

end NamedMembers

/-- Reports `old` and `new` are compared in their document form by their `entries`. -/
theorem Report.changesOfDocuments_toValue {old new : Report}
    (hold : (old.outcomes.map (·.name)).Nodup) (hnew : (new.outcomes.map (·.name)).Nodup) :
    changesOfDocuments old.toValue new.toValue =
      .ok (ReportEntry.changes old.entries new.entries) := by
  have hread (report : Report) (h : (report.outcomes.map (·.name)).Nodup) :
      ∃ entries, NamedMembers.ofReport report.toValue = .ok entries ∧
        NamedMembers.toEntries entries = .ok report.entries :=
    NamedMembers.exists_ofItems_toValue [] h (by simp)
  obtain ⟨before, hbefore, hold⟩ := hread old hold
  obtain ⟨after, hafter, hnew⟩ := hread new hnew
  simp only [changesOfDocuments, hbefore, hafter, hold, hnew]

end Documents

namespace Report

variable {old new : Report} {change : Change}

/-- The `changes` between two reports are those that tell them apart (`Change.Tells`). -/
theorem mem_changes_iff (hold : (old.outcomes.map (·.name)).Nodup)
    (hnew : (new.outcomes.map (·.name)).Nodup) :
    change ∈ ReportEntry.changes old.entries new.entries ↔
      ∃ name, change.Tells name (old.entryOf? name) (new.entryOf? name) := by
  rw [ReportEntry.changes, List.mem_append, List.mem_filterMap, List.mem_map]
  constructor
  · -- the first part of the list is about the names of the new report, the second one about names
    -- that it does not have
    rintro (⟨entry, hentry, hchange⟩ | ⟨entry, hentry, rfl⟩)
    · obtain ⟨outcome, hmem, rfl⟩ := List.mem_map.1 hentry
      have hfound := (entryOf?_eq_some_iff hnew).2 ⟨outcome, hmem, rfl, rfl⟩
      refine ⟨outcome.name, ?_⟩
      rw [hfound]
      exact (Change.tells_some_iff rfl).2 hchange
    · obtain ⟨hentry, hnone⟩ := List.mem_filter.1 hentry
      obtain ⟨outcome, hmem, rfl⟩ := List.mem_map.1 hentry
      have hfound := (entryOf?_eq_some_iff hold).2 ⟨outcome, hmem, rfl, rfl⟩
      have hnone : new.entryOf? outcome.name = none := Option.isNone_iff_eq_none.1 hnone
      refine ⟨outcome.name, ?_⟩
      rw [hfound, hnone]
      exact (Change.tells_none_iff rfl).2 rfl
  · rintro ⟨name, htells⟩
    cases hfound : new.entryOf? name with
    | some entry =>
      obtain ⟨outcome, hmem, rfl, rfl⟩ := (entryOf?_eq_some_iff hnew).1 hfound
      rw [hfound, Change.tells_some_iff rfl] at htells
      exact .inl ⟨_, List.mem_map_of_mem hmem, htells⟩
    | none =>
      cases hgone : old.entryOf? name with
      | none =>
        rw [hfound, hgone] at htells
        cases htells
      | some entry =>
        obtain ⟨outcome, hmem, rfl, rfl⟩ := (entryOf?_eq_some_iff hold).1 hgone
        rw [hfound, hgone, Change.tells_none_iff rfl] at htells
        refine .inr ⟨_, List.mem_filter.2 ⟨List.mem_map_of_mem hmem, ?_⟩, htells⟩
        exact Option.isNone_iff_eq_none.2 hfound

/-- First come names `kept` of the new report, then names `gone` that only the old report has. -/
theorem exists_map_name_changes (old new : Report) : ∃ kept gone : List String,
    (ReportEntry.changes old.entries new.entries).map (·.name) = (kept ++ gone).map .str ∧
    kept.Sublist (new.outcomes.map (·.name)) ∧ gone.Sublist (old.outcomes.map (·.name)) ∧
    ∀ name ∈ gone, name ∉ new.outcomes.map (·.name) := by
  -- by induction on the outcomes of the new report, each of which leads to one change at most
  have hkept (outcomes : List Outcome) : ∃ kept : List String,
      ((outcomes.map ReportEntry.ofOutcome).filterMap fun entry =>
        Change.between? (ReportEntry.find? old.entries entry.name) entry).map (·.name) =
          kept.map .str ∧ kept.Sublist (outcomes.map (·.name)) := by
    induction outcomes with
    | nil => exact ⟨[], rfl, .slnil⟩
    | cons outcome rest ih =>
      obtain ⟨kept, hnames, hsublist⟩ := ih
      rw [List.map_cons, List.filterMap_cons]
      split
      · exact ⟨kept, hnames, hsublist.cons _⟩
      · next change hchange =>
        have hname := ((Change.tells_some_iff rfl).2 hchange).name_eq
        refine ⟨outcome.name :: kept, ?_, hsublist.cons_cons _⟩
        rw [List.map_cons, List.map_cons, hname, hnames]
  obtain ⟨kept, hnames, hsublist⟩ := hkept new.outcomes
  let gone := old.outcomes.filter fun outcome => (new.entryOf? outcome.name).isNone
  refine ⟨kept, gone.map (·.name), ?_, hsublist, List.filter_sublist.map _, ?_⟩
  · rw [ReportEntry.changes, List.map_append, List.map_append]
    congr 1
    rw [entries, entries, List.filter_map, List.map_map, List.map_map, List.map_map]
    rfl
  · intro name hmem
    obtain ⟨outcome, hgone, rfl⟩ := List.mem_map.1 hmem
    exact entryOf?_eq_none_iff.1 (Option.isNone_iff_eq_none.1 (List.mem_filter.1 hgone).2)

/-- There is at most one of the `changes` for a name. -/
theorem nodup_map_name_changes (hold : (old.outcomes.map (·.name)).Nodup)
    (hnew : (new.outcomes.map (·.name)).Nodup) :
    ((ReportEntry.changes old.entries new.entries).map (·.name)).Nodup := by
  obtain ⟨kept, gone, hnames, hkept, hgone, hfresh⟩ := exists_map_name_changes old new
  rw [hnames]
  refine List.Nodup.map (fun _ _ => Value.str.inj) (List.nodup_append'.2 ⟨?_, ?_, ?_⟩)
  · exact hkept.nodup hnew
  · exact hgone.nodup hold
  · intro name hmem hmem'
    exact hfresh name hmem' (hkept.subset hmem)

/-- The names with a change are those about which the reports do not `Agree`. -/
theorem mem_map_name_changes_iff (hold : (old.outcomes.map (·.name)).Nodup)
    (hnew : (new.outcomes.map (·.name)).Nodup) (name : String) :
    .str name ∈ (ReportEntry.changes old.entries new.entries).map (·.name) ↔
      ¬ReportEntry.Agree (old.entryOf? name) (new.entryOf? name) := by
  constructor
  · intro hchanged
    obtain ⟨change, hmem, hname⟩ := List.mem_map.1 hchanged
    obtain ⟨other, htells⟩ := (mem_changes_iff hold hnew).1 hmem
    obtain rfl := Value.str.inj (hname.symm.trans htells.name_eq)
    exact Change.exists_tells_iff.1 ⟨change, htells⟩
  · intro hdiffer
    obtain ⟨change, htells⟩ : ∃ change, Change.Tells name _ _ change :=
      Change.exists_tells_iff.2 hdiffer
    exact List.mem_map.2 ⟨change, (mem_changes_iff hold hnew).2 ⟨name, htells⟩, htells.name_eq⟩

/-- Applied to the old report by `applyAll`, the `changes` give what the new one says. -/
theorem agree_applyAll_changes (hold : (old.outcomes.map (·.name)).Nodup)
    (hnew : (new.outcomes.map (·.name)).Nodup) (name : String) :
    ReportEntry.Agree
      (Change.applyAll (ReportEntry.changes old.entries new.entries) old.entryOf? name)
      (new.entryOf? name) := by
  by_cases hagree : ReportEntry.Agree (old.entryOf? name) (new.entryOf? name)
  · -- a name without a change is left as it was
    have hnone := mt (mem_map_name_changes_iff hold hnew name).1 (not_not.2 hagree)
    rwa [Change.applyAll_of_not_mem hnone]
  · -- the only change for the name decides what is known of it
    obtain ⟨change, htells⟩ := Change.exists_tells_iff.2 hagree
    have hmem := (mem_changes_iff hold hnew).2 ⟨name, htells⟩
    have happly : change.apply old.entryOf? name = new.entryOf? name := by
      apply htells.apply_eq
      intro entry hentry
      obtain ⟨outcome, -, rfl, rfl⟩ := (entryOf?_eq_some_iff hnew).1 hentry
      rfl
    rw [Change.applyAll_of_mem (nodup_map_name_changes hold hnew) hmem htells.name_eq, happly,
      entryOf?_eq]
    cases new.outcomes.find? (·.name == name) with
    | none => exact .none
    | some outcome => exact .some (ReportEntry.same_refl outcome)

/-- The `changes` in the other direction are the same ones read backwards (`Change.mirror`). -/
theorem changes_perm_mirror (hold : (old.outcomes.map (·.name)).Nodup)
    (hnew : (new.outcomes.map (·.name)).Nodup) :
    (ReportEntry.changes new.entries old.entries).Perm
      ((ReportEntry.changes old.entries new.entries).map Change.mirror) := by
  have hmirror {old new : Report} {name : String} {change : Change}
      (h : change.Tells name (old.entryOf? name) (new.entryOf? name)) :
      change.mirror.Tells name (new.entryOf? name) (old.entryOf? name) := by
    rw [entryOf?_eq, entryOf?_eq] at h ⊢
    exact h.mirror
  have hnames : ((ReportEntry.changes old.entries new.entries).map Change.mirror).map (·.name) =
      (ReportEntry.changes old.entries new.entries).map (·.name) := List.map_map
  have hnodup := nodup_map_name_changes hold hnew
  rw [← hnames] at hnodup
  -- no change comes twice on either side, so it is enough that they are the same ones
  refine (List.perm_ext_iff_of_nodup (nodup_map_name_changes hnew hold).of_map hnodup.of_map).2 ?_
  intro change
  rw [mem_changes_iff hnew hold, List.mem_map]
  constructor
  · rintro ⟨name, htells⟩
    have hmem := (mem_changes_iff hold hnew).2 ⟨name, hmirror htells⟩
    exact ⟨change.mirror, hmem, change.mirror_mirror⟩
  · rintro ⟨change, hmem, rfl⟩
    obtain ⟨name, htells⟩ := (mem_changes_iff hold hnew).1 hmem
    exact ⟨name, hmirror htells⟩

/-- There are no `changes` iff the reports `Agree` about every name. -/
theorem changes_eq_nil_iff (hold : (old.outcomes.map (·.name)).Nodup)
    (hnew : (new.outcomes.map (·.name)).Nodup) :
    ReportEntry.changes old.entries new.entries = [] ↔
      ∀ name, ReportEntry.Agree (old.entryOf? name) (new.entryOf? name) := by
  constructor
  · intro hnil name
    by_contra hdiffer
    have hmem := (mem_map_name_changes_iff hold hnew name).2 hdiffer
    rw [hnil] at hmem
    cases hmem
  · intro hagree
    rw [List.eq_nil_iff_forall_not_mem]
    intro change hmem
    obtain ⟨name, htells⟩ := (mem_changes_iff hold hnew).1 hmem
    exact Change.exists_tells_iff.1 ⟨change, htells⟩ (hagree name)

/-- The `changes` between two reports whose outcomes have distinct names are exactly what turns the
one into the other (`IsDiff`), in their document form as well, and in the other direction they are
the same changes read backwards (`Change.mirror`). -/
theorem isDiff_changes (hold : (old.outcomes.map (·.name)).Nodup)
    (hnew : (new.outcomes.map (·.name)).Nodup) :
    let changes := ReportEntry.changes old.entries new.entries
    changesOfDocuments old.toValue new.toValue = .ok changes ∧ old.IsDiff new changes ∧
      (ReportEntry.changes new.entries old.entries).Perm (changes.map Change.mirror) := by
  intro changes
  refine ⟨changesOfDocuments_toValue hold hnew, ?_, changes_perm_mirror hold hnew⟩
  exact {
    nodup := nodup_map_name_changes hold hnew
    mem_iff := fun _ => mem_changes_iff hold hnew
    changed_iff := mem_map_name_changes_iff hold hnew
    applied := agree_applyAll_changes hold hnew
    order := exists_map_name_changes old new
    eq_nil_iff := changes_eq_nil_iff hold hnew }

section Example

/-- The outcome of a `mapper` that is bound to the class called `name`. -/
def boundTo (mapper name : String) : Outcome :=
  ⟨mapper, .resolved (.ofClass ⟨name, .str "java/lang/Object", [], 1, [], []⟩)⟩

/-- The outcome of a `mapper` that is bound to the first instruction of a method, with some
`opcode`. -/
def boundToFirst (mapper : String) (opcode : Opcode) : Outcome :=
  let none : MemberRef := ⟨.null, .null, .null⟩
  ⟨mapper, .resolved (.ofInstruction ⟨"a", "m", "()V", 0, opcode, .null, .null, none, none, .null⟩)⟩

/-- A report of four mappers, one of which is bound to an instruction whose operation was written as
the truth value `true`. -/
def earlier : Report :=
  ⟨[boundTo "Moved" "a", boundTo "Lost" "b", boundTo "Gone" "c", boundToFirst "Kept" (.flag true)],
    ""⟩

/-- A report in which `"Moved"` is bound to another class, `"Lost"` has failed, `"Gone"` is not
there and `"New"` is new. The mapper `"Kept"` is bound to an instruction with an `operation`. -/
def later (operation : Opcode) : Report :=
  ⟨[boundTo "New" "d", ⟨"Lost", .failed (.noMatch "scope" "predicate")⟩,
    boundToFirst "Kept" operation, boundTo "Moved" "d"], ""⟩

/-- The changes from the report `earlier` to the report `later`, without one for `"Kept"`. -/
def told : List Change :=
  let reference (name : String) : Value := (EntityRef.toClass name).toValue
  [⟨.str "New", .added, .null, .str "resolved", .null, reference "d"⟩,
    ⟨.str "Lost", .status, .str "resolved", .str "failed", reference "b", .null⟩,
    ⟨.str "Moved", .entity, .str "resolved", .str "resolved", reference "a", reference "d"⟩,
    ⟨.str "Gone", .removed, .str "resolved", .null, reference "c", .null⟩]

theorem isDiff_changes_told :
    (earlier.outcomes.map (·.name)).Nodup ∧ ((later (.number 1)).outcomes.map (·.name)).Nodup ∧
      changesOfDocuments earlier.toValue (later (.number 1)).toValue = .ok told ∧
      earlier.IsDiff (later (.number 1)) told ∧
      (ReportEntry.changes (later (.number 1)).entries earlier.entries).Perm
        (told.map Change.mirror) := by
  have hearlier : (earlier.outcomes.map (·.name)).Nodup := by decide
  have hlater : ((later (.number 1)).outcomes.map (·.name)).Nodup := by decide
  have htold : ReportEntry.changes earlier.entries (later (.number 1)).entries = told := by
    decide +kernel
  have h := isDiff_changes hearlier hlater
  rw [htold] at h
  exact ⟨hearlier, hlater, h⟩

end Example

end Report

end Reidentify

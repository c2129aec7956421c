import Reidentify.Proofs.Artifact.Identity
import Reidentify.Proofs.Pass.Matching
import Reidentify.Proofs.Pass.Outcomes
import Reidentify.Proofs.Pass.Soundness

/-!
# Mappers that are bound to something else

A mapper that binds an entity in two reports over an artifact is listed among the changes iff the
references of the two entities differ. So every rebinding is noticed iff references identify the
entities of the artifact, that is, iff every class tells its members apart. A class with two fields
of one name and one type is read without complaint, and a mapper that moves from the one to the
other goes unnoticed.

## Main definitions

* `Change.rebinding`: the change of a mapper that is bound to another entity.
* `Report.Over`: a report binds entities of an artifact.
* `Artifact.NoticesRebindings`: mappers that are bound to another entity are listed.
* `Artifact.Identification`: how far references identify the entities of an artifact.

## Main statements

* `Report.rebinding_mem_changes_iff`: a rebinding is listed iff the references differ.
* `Artifact.noticesRebindings_iff`: all rebindings are listed iff references identify entities.
* `Artifact.identification_of_ofValue`: both hold iff classes tell their members apart.
-/

namespace Reidentify

section Definitions

/-- The change of a mapper called `name` that was bound to the entity `a` and is bound to the entity
`b`. -/
def Change.rebinding (name : String) (a b : Entity) : Change :=
  ⟨.str name, .entity, .str Status.resolved.name, .str Status.resolved.name, a.ref.toValue,
    b.ref.toValue⟩

/-- A `report` over an `artifact`: every name has one outcome, and what is bound occurs in the
artifact. -/
structure Report.Over (report : Report) (artifact : Artifact) : Prop where
  /-- No two `outcomes` have the same name. -/
  nodup : (report.outcomes.map (·.name)).Nodup
  /-- The entities that are bound occur in the artifact (`Holds`). -/
  holds : ∀ name entity, ⟨name, .resolved entity⟩ ∈ report.outcomes → artifact.Holds entity

/-- A mapper that binds an entity `a` in a report over the `artifact` and `b` in another one is
listed among the changes iff the two are not the `Same`. -/
def Artifact.NoticesRebindings (artifact : Artifact) : Prop :=
  ∀ old new : Report, old.Over artifact → new.Over artifact → ∀ name a b,
    ⟨name, .resolved a⟩ ∈ old.outcomes → ⟨name, .resolved b⟩ ∈ new.outcomes →
      (Change.rebinding name a b ∈ ReportEntry.changes old.entries new.entries ↔ ¬a.Same b)

/-- How far references identify the entities of an `artifact`, and what follows for its reports. -/
structure Artifact.Identification (artifact : Artifact) : Prop where
  /-- Entities with equal references are the same iff every class `TellsApart` its members. -/
  refsIdentify_iff : artifact.RefsIdentify ↔ ∀ decl ∈ artifact.classes, decl.TellsApart
  /-- All rebindings of mappers are listed iff every class `TellsApart` its members. -/
  noticesRebindings_iff :
    artifact.NoticesRebindings ↔ ∀ decl ∈ artifact.classes, decl.TellsApart
  /-- Without any condition classes are identified, since every name has one class. -/
  classes : ∀ a b, artifact.Holds (.ofClass a) → artifact.Holds (.ofClass b) →
    Entity.SameRef (.ofClass a) (.ofClass b) → a = b
  /-- The report of a pass over the artifact is a report `Over` it. -/
  reported : ∀ registry table, (Pass.run artifact registry).result = .ok table →
    table.report.Over artifact
  /-- Two reports over the artifact are compared in their document form by their `entries`. -/
  compared : ∀ old new : Report, old.Over artifact → new.Over artifact →
    changesOfDocuments old.toValue new.toValue =
      .ok (ReportEntry.changes old.entries new.entries)
  /-- Between them a rebinding from `a` to `b` is listed iff the references differ (`SameRef`). -/
  listed_iff : ∀ old new : Report, old.Over artifact → new.Over artifact → ∀ name a b,
    ⟨name, .resolved a⟩ ∈ old.outcomes → ⟨name, .resolved b⟩ ∈ new.outcomes →
      (Change.rebinding name a b ∈ ReportEntry.changes old.entries new.entries ↔ ¬a.SameRef b)

end Definitions

namespace Report

variable {old new : Report} {name : String} {a b : Entity}

/-- A `rebinding` from `a` to `b` is among the changes iff the references differ (`SameRef`). -/
theorem rebinding_mem_changes_iff (hold : (old.outcomes.map (·.name)).Nodup)
    (hnew : (new.outcomes.map (·.name)).Nodup) (ha : ⟨name, .resolved a⟩ ∈ old.outcomes)
    (hb : ⟨name, .resolved b⟩ ∈ new.outcomes) :
    Change.rebinding name a b ∈ ReportEntry.changes old.entries new.entries ↔
      ¬a.SameRef b := by
  have hbefore := (entryOf?_eq_some_iff hold).2 ⟨_, ha, rfl, rfl⟩
  have hafter := (entryOf?_eq_some_iff hnew).2 ⟨_, hb, rfl, rfl⟩
  rw [mem_changes_iff hold hnew, Entity.SameRef, Bool.not_eq_true]
  constructor
  · rintro ⟨other, htells⟩
    obtain rfl := Value.str.inj htells.name_eq
    rw [hbefore, hafter] at htells
    cases htells with
    | entity _ hentity => exact hentity
  · intro hdiffer
    refine ⟨name, ?_⟩
    rw [hbefore, hafter]
    exact .entity ((ReportEntry.status_equals_iff _ _).2 rfl) hdiffer

/-- A report with one mapper, called `name`, which is bound to an `entity`. -/
def single (name : String) (entity : Entity) : Report :=
  ⟨[⟨name, .resolved entity⟩], ""⟩

theorem over_single {artifact : Artifact} (h : artifact.Holds a) :
    (single name a).Over artifact where
  nodup := List.nodup_singleton _
  holds _ _ hmem := by
    cases List.mem_singleton.1 hmem
    exact h

/-- The report of a pass is a report `Over` the `artifact`, if the members in it name their classes.
-/
theorem over_of_run {artifact : Artifact} {registry : Registry} {table : Table}
    (howned : artifact.Owned) (h : (Pass.run artifact registry).result = .ok table) :
    table.report.Over artifact := by
  have hnames := Pass.map_name_report h
  constructor
  · rw [hnames]
    exact registry.nodup_names
  · intro name entity hmem
    -- the name is registered, and its mapper is bound to the entity
    have hname : name ∈ registry.names := hnames ▸ List.mem_map_of_mem hmem
    obtain ⟨mapper, hmapper, rfl⟩ := List.mem_map.1 hname
    have houtcome := (Table.outcome?_eq_some_iff (Pass.nodup_recorded_of_run h)).2
      ⟨(Pass.listed_perm_of_run h).mem_iff.1 hmem, rfl⟩
    have hresolve := Table.resolve_eq_ok_iff_outcome?.2 houtcome
    exact (Pass.sound_of_run howned h mapper hmapper entity hresolve).2

end Report

namespace Artifact

variable {artifact : Artifact}

/-- All rebindings are listed (`NoticesRebindings`) iff references identify the entities
(`RefsIdentify`). -/
theorem noticesRebindings_iff : artifact.NoticesRebindings ↔ artifact.RefsIdentify := by
  constructor
  · intro hnotices a b ha hb hsame
    -- compare a report that binds one of the two with a report that binds the other
    have hold : (Report.single "" a).Over artifact := Report.over_single ha
    have hnew : (Report.single "" b).Over artifact := Report.over_single hb
    have hlisted := hnotices _ _ hold hnew "" a b (List.mem_singleton_self _)
      (List.mem_singleton_self _)
    rw [Report.rebinding_mem_changes_iff hold.nodup hnew.nodup (List.mem_singleton_self _)
      (List.mem_singleton_self _), not_iff_not] at hlisted
    exact hlisted.1 hsame
  · intro hrefs old new hold hnew name a b ha hb
    rw [Report.rebinding_mem_changes_iff hold.nodup hnew.nodup ha hb, not_iff_not]
    exact ⟨hrefs a b (hold.holds name a ha) (hnew.holds name b hb), Entity.Same.sameRef⟩

/-- In an `artifact` that was read from a `document`, references identify the entities
(`RefsIdentify`), and all rebindings of mappers are listed (`NoticesRebindings`), iff every class
`TellsApart` its members. -/
theorem identification_of_ofValue {document : Value} (h : ofValue document = .ok artifact) :
    artifact.Identification := by
  obtain ⟨_, -, hdescribes⟩ := ofValue_eq_ok_iff.1 h
  have hconsistent := hdescribes.consistent
  have hrefs := hconsistent.refsIdentify_iff
  exact {
    refsIdentify_iff := hrefs
    noticesRebindings_iff := noticesRebindings_iff.trans hrefs
    classes := fun _ _ => hconsistent.eq_of_sameRef
    reported := fun _ _ => Report.over_of_run (owned_of_ofValue h)
    compared := fun _ _ hold hnew => Report.changesOfDocuments_toValue hold.nodup hnew.nodup
    listed_iff := fun _ _ hold hnew _ _ _ =>
      Report.rebinding_mem_changes_iff hold.nodup hnew.nodup }

section Example

/-- The number `f` of an instance of the class `a`. -/
def ownNumber : FieldDecl := ⟨"a", "f", "I", 0⟩

/-- A number called `name` that belongs to the class `a` itself. -/
def sharedNumber (name : String) : FieldDecl := ⟨"a", name, "I", 8⟩

/-- The class `a` with both numbers, `ownNumber` and the `sharedNumber` of a `name`. -/
def bearer (name : String) : ClassDecl :=
  ⟨"a", .str Document.rootClass, [], 1, [ownNumber, sharedNumber name], []⟩

/-- The artifact of the class `bearer name`. -/
def bearing (name : String) : Artifact := ⟨[bearer name], "1"⟩

/-- The mapper `"Tally.value"` for the only number in a `part` of the class. -/
def onlyNumber (part : ClassPart) (hpart : part.memberTarget = .toField) : Mapper where
  name := "Tally.value"
  strategy := .identity
  predicate := .ofType (.literal "I")
  scope := .inClass part "Tally"
  dependencies := ["Tally"]
  target := .toField
  parameters := none
  name_ne_empty := by decide
  allows_target := by cases part <;> first | rfl | cases hpart
  ascending_dependencies := List.pairwise_singleton ..
  owner_mem _ h := Option.some.inj h ▸ List.mem_singleton_self _
  target_of_parameters := Mapper.toMethod_of_none

/-- Mappers for the class and for the number in a `part` of it. -/
def binding (part : ClassPart) (hpart : part.memberTarget = .toField) : Registry where
  mappers := [.onlyClass "Tally" (.hasInstanceField (.literal "I")) [] (by decide),
    onlyNumber part hpart]
  nodup_names := by
    show ["Tally", "Tally.value"].Nodup
    decide

/-- The report on the class and on the `number` of it that is bound. -/
def numberBound (name : String) (number : FieldDecl) : Report :=
  ⟨[⟨"Tally", .resolved (.ofClass (bearer name))⟩,
    ⟨"Tally.value", .resolved (.ofField number)⟩], "1"⟩

/-- The numbers `f` and `g` have different names and are told apart, so it is noticed when a mapper
moves from the one to the other. -/
theorem identification_of_ofValue_bearing :
    ofValue (bearing "g").toValue = .ok (bearing "g") ∧ (bearing "g").Identification ∧
      (bearing "g").NoticesRebindings ∧
      (Pass.run (bearing "g") (binding .instanceFields rfl)).result.map (·.report) =
        .ok (numberBound "g" ownNumber) ∧
      (Pass.run (bearing "g") (binding .staticFields rfl)).result.map (·.report) =
        .ok (numberBound "g" (sharedNumber "g")) ∧
      ReportEntry.changes (numberBound "g" ownNumber).entries
        (numberBound "g" (sharedNumber "g")).entries =
          [.rebinding "Tally.value" (.ofField ownNumber) (.ofField (sharedNumber "g"))] := by
  have hread : ofValue (bearing "g").toValue = .ok (bearing "g") := by decide +kernel
  have hidentified := identification_of_ofValue hread
  refine ⟨hread, hidentified, ?_, ?_, ?_, ?_⟩
  · rw [hidentified.noticesRebindings_iff]
    intro decl hdecl
    obtain rfl := List.mem_singleton.1 hdecl
    constructor
    · simp [bearer, ownNumber, sharedNumber, Entity.Same]
    · simp [bearer]
  · decide +kernel
  · decide +kernel
  · decide +kernel

/-- Two numbers of the name `f` are not told apart: an artifact with both of them is read, two
passes bind a mapper to the one and to the other, and nothing is listed. -/
theorem changes_numberBound_eq_nil :
    ofValue (bearing "f").toValue = .ok (bearing "f") ∧
      ¬(bearing "f").RefsIdentify ∧
      (Pass.run (bearing "f") (binding .instanceFields rfl)).result.map (·.report) =
        .ok (numberBound "f" ownNumber) ∧
      (Pass.run (bearing "f") (binding .staticFields rfl)).result.map (·.report) =
        .ok (numberBound "f" (sharedNumber "f")) ∧
      ¬Entity.Same (.ofField ownNumber) (.ofField (sharedNumber "f")) ∧
      ReportEntry.changes (numberBound "f" ownNumber).entries
        (numberBound "f" (sharedNumber "f")).entries = [] := by
  have hdiffer : ¬Entity.Same (.ofField ownNumber) (.ofField (sharedNumber "f")) := by
    unfold Entity.Same
    decide
  have hrefs : ¬(bearing "f").RefsIdentify := by
    intro hrefs
    have hclass : bearer "f" ∈ (bearing "f").classes := List.mem_singleton_self _
    have hown : ownNumber ∈ (bearer "f").fields := List.mem_cons_self
    have hshared : sharedNumber "f" ∈ (bearer "f").fields :=
      List.mem_cons_of_mem _ (List.mem_singleton_self _)
    exact hdiffer (hrefs _ _ (.ofField hclass hown rfl) (.ofField hclass hshared rfl)
      (Entity.sameRef_ofField_iff.2 ⟨rfl, rfl, rfl⟩))
  refine ⟨?_, hrefs, ?_, ?_, hdiffer, ?_⟩
  · decide +kernel
  · decide +kernel
  · decide +kernel
  · decide +kernel

end Example

end Artifact

end Reidentify

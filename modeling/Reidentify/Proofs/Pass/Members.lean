import Reidentify.Proofs.Mapper.Member
import Reidentify.Proofs.Pass.Export
import Reidentify.Proofs.Pass.Propagation
import Reidentify.Proofs.Report.Labels

/-!
# Members in the hooks of a pass

A mapper for a member is built with an owner and a member, and all that the hooks know of them is
the name that is put together from the two. As long as there is no dot in the member, the name is
taken apart again where it was put together: the member is listed in the hook of its owner, under
its own name. With a dot in the member it is listed elsewhere.

What is named after no class is listed in the hook of the class that declares it, under a label that
another member of the hook may have as well.

## Main definitions

* `Hook.Shows`: a hook shows what a mapper is bound to under a label.

## Main statements

* `Pass.shows_of_builtFor`: members are shown in the hooks of their owners, under their names.
* `Pass.exists_member_elsewhere`: members with dots, and members without a name, are not.
* `Pass.labelled_of_run`: why labels are shared in a hook of a pass.
* `Pass.exists_shared_label`: two fields of a hook with one label.
-/

namespace Reidentify

/-- A `hook` shows the member that a `mapper` is bound to under a `label`. -/
inductive Hook.Shows (hook : Hook) (mapper : Mapper) (label : String) : Entity → Prop
  /-- The hook lists the field under the label. -/
  | field {field : FieldDecl} (h : ⟨label, field⟩ ∈ hook.fields) :
    Shows hook mapper label (.ofField field)
  /-- The hook lists the method under the label, with the `parameters` of the mapper. -/
  | method {method : MethodDecl} (h : ⟨label, method, mapper.parameters⟩ ∈ hook.methods) :
    Shows hook mapper label (.ofMethod method)

namespace Hook

variable {table : Table} {registry : Registry} {mapper : Mapper} {hooks : List Hook} {hook : Hook}
  {owner member : String} {entity : Entity}

/-- Hooks that show what a table binds (`Exports`) show a member in the hook that it belongs to by
`Houses`, under the part `member` of its name. -/
theorem Exports.shows (h : Exports table registry hooks) (hhook : hook ∈ hooks)
    (hmem : mapper ∈ registry.mappers) (hbinds : table.Binds mapper entity)
    (htarget : mapper.target = .toField ∨ mapper.target = .toMethod)
    (hhouses : ∀ declaring, Houses table registry mapper.name declaring hook.label)
    (hsplit : SplitsAt mapper.name owner member) :
    hook.Shows mapper (if member = "" then mapper.name else member) entity := by
  cases entity with
  | ofClass decl | ofInstruction insn =>
    -- such an entity is of another target
    rcases htarget with htarget | htarget
    all_goals
      have hother := htarget.symm.trans hbinds.1
      cases hother
  | ofField field =>
    obtain ⟨⟨label, other⟩, hentry, hbinds', hlabel⟩ :=
      (h.fields hook hhook).exists_entry hmem ⟨field, hbinds, hhouses field.owner⟩
    obtain rfl : field = other := by
      simpa using hbinds.2.symm.trans hbinds'.2
    rw [← hlabel.eq_of_splitsAt hsplit]
    exact .field hentry
  | ofMethod method =>
    obtain ⟨⟨label, other, parameters⟩, hentry, hbinds', hlabel, rfl⟩ :=
      (h.methods hook hhook).exists_entry hmem ⟨method, hbinds, hhouses method.owner⟩
    obtain rfl : method = other := by
      simpa using hbinds.2.symm.trans hbinds'.2
    rw [← hlabel.eq_of_splitsAt hsplit]
    exact .method hentry

end Hook

namespace Pass

variable {artifact : Artifact} {registry : Registry} {table : Table} {mapper : Mapper}
  {owner member : String}

/-- In the table of a pass everything that a bound mapper depends on is bound (`isResolved`). -/
theorem isResolved_of_dependency (hrun : (run artifact registry).result = .ok table)
    (hmem : mapper ∈ registry.mappers) (hresolved : table.isResolved mapper.name = true)
    {name : String} (hname : name ∈ mapper.dependencies) : table.isResolved name = true := by
  -- otherwise the mapper would be skipped
  by_contra hunbound
  have hskipped := (skipped_iff_blocked hrun hmem).2 ⟨name, hname, Bool.eq_false_iff.2 hunbound⟩
  rw [Table.isResolved_iff_status?.1 hresolved] at hskipped
  cases hskipped

/-- The `owner` of the class that a bound mapper looks into is the name of a registered mapper,
which is bound to a class. -/
theorem exists_home_of_scope (hrun : (run artifact registry).result = .ok table)
    (hmem : mapper ∈ registry.mappers) (hresolved : table.isResolved mapper.name = true)
    {part : ClassPart} (hscope : mapper.scope = .inClass part owner) :
    ∃ home ∈ registry.mappers, home.name = owner ∧ ∃ decl, table.Binds home (.ofClass decl) := by
  obtain ⟨waves, hplan, -⟩ := exists_plan_of_run hrun
  have howner : mapper.scope.owner? = some owner := by rw [hscope]; rfl
  obtain ⟨home, hhome, rfl, htarget⟩ := Registry.exists_fitting_owner hplan.valid hmem howner
  rw [hscope] at htarget
  -- it is bound since the mapper depends on it, and to a class since it is a mapper for classes
  obtain ⟨entity, hentity⟩ := Table.isResolved_iff.1
    (isResolved_of_dependency hrun hmem hresolved (mapper.owner_mem _ howner))
  have hfits := fits_of_run hrun home hhome entity hentity
  rw [← Option.some.inj htarget] at hfits
  cases entity with
  | ofClass decl =>
    exact ⟨home, hhome, rfl, decl, (Option.some.inj htarget).symm, hentity⟩
  | ofField | ofMethod | ofInstruction => cases hfits

/-- **Members are shown in the hooks of their owners, under the names that their mappers were built
with**, as long as there is no dot in these names. A `member` whose name is empty is shown under the
whole name of its mapper. -/
theorem shows_of_builtFor (hrun : (run artifact registry).result = .ok table)
    (hmem : mapper ∈ registry.mappers) (hbuilt : mapper.BuiltFor owner member)
    (hdot : '.' ∉ member.toList) (hresolved : table.isResolved mapper.name = true) :
    ∃ hooks hook entity, (Hook.build table registry).result = .ok hooks ∧ hook ∈ hooks ∧
      hook.label = owner ∧ table.resolve owner = .ok (.ofClass hook.decl) ∧
      (∀ other ∈ hooks, other.label = owner → other = hook) ∧
      table.resolve mapper.name = .ok entity ∧
      hook.Shows mapper (if member = "" then mapper.name else member) entity := by
  obtain ⟨hname, part, hscope, htarget⟩ := hbuilt.spec
  -- the owner is a registered mapper, and bound to a class, because the mapper looks into it
  obtain ⟨home, hhome, rfl, decl, hdecl⟩ := exists_home_of_scope hrun hmem hresolved hscope
  obtain ⟨hooks, hbuild, hexports⟩ := Hook.exists_exports (fits_of_run hrun)
  obtain ⟨entity, hbinds⟩ := hexports.binds mapper hmem hresolved
  -- the name is taken apart where it was put together
  have hsplit : Hook.SplitsAt mapper.name home.name member := ⟨hname, hdot⟩
  have hhouses (declaring : String) :
      Hook.Houses table registry mapper.name declaring home.name :=
    .named hhome hdecl hsplit
  obtain ⟨hook, ⟨hhook, hlabel⟩, hunique⟩ := hexports.exists_hook _ "" _ (hhouses "")
  -- the hook is that of a mapper with its label, so it has the class of the owner
  obtain ⟨other, hother, -, hotherName, hotherBinds⟩ := hexports.classes.exists_mapper hhook
  refine ⟨hooks, hook, entity, hbuild, hhook, hlabel, ?_, fun other hother hsame =>
    hunique other ⟨hother, hsame⟩, hbinds.2, hexports.shows hhook hmem hbinds htarget ?_ hsplit⟩
  · rw [← hlabel, hotherName]
    exact hotherBinds.2
  · rw [hlabel]
    exact hhouses

/-- **Labels are shared in the hooks of a pass only by members of which one at least is named after
no class**, as `Hook.Labelled` says. -/
theorem labelled_of_run (hrun : (run artifact registry).result = .ok table) :
    ∃ hooks, (Hook.build table registry).result = .ok hooks ∧
      ∀ hook ∈ hooks, Hook.Labelled table registry hook := by
  obtain ⟨hooks, hbuild, hexports⟩ := Hook.exists_exports (fits_of_run hrun)
  exact ⟨hooks, hbuild, fun hook hhook => hexports.labelled hhook⟩

section Example

/-- A class `a` with two fields `f` and `g`, which its constructor writes with an `operation`. -/
def holder (operation : Opcode) : Artifact where
  classes := [{
    name := "a"
    superName := .str "java/lang/Object"
    interfaces := []
    access := 1
    fields := [⟨"a", "f", "I", 0⟩, ⟨"a", "g", "J", 0⟩]
    methods := [⟨"a", "<init>", "()V", 1, [
      writeTo operation 0 ⟨.str "a", .str "f", .str "I"⟩,
      writeTo operation 1 ⟨.str "a", .str "g", .str "J"⟩]⟩] }]
  revision := ""

/-- Two mappers `Home` and `Home.inner` for the same class, and mappers for one field of it whose
names begin with these. -/
def filing : Registry where
  mappers := [
    .onlyClass "Home" (.hasInstanceField (.literal "I")) [] (by decide),
    .onlyClass "Home.inner" (.hasInstanceField (.literal "I")) [] (by decide),
    written "Home.value" "Home" "I" (by decide),
    written "Home.inner.value" "Home" "I" (by decide),
    written "Home." "Home" "I" (by decide)]
  nodup_names := by decide

/-- The pass over `filing` binds one field three times, and shows it where the last dot in the name
of its mapper says. -/
theorem exists_run_filing : ∃ table hooks, (run (holder (.number 181)) filing).result = .ok table ∧
    (∀ mapper ∈ filing.mappers, table.isResolved mapper.name = true) ∧
    (Hook.build table filing).result = .ok hooks ∧
    hooks.map (fun hook => (hook.label, hook.fields)) =
      [("Home", [⟨"value", ⟨"a", "f", "I", 0⟩⟩, ⟨"Home.", ⟨"a", "f", "I", 0⟩⟩]),
        ("Home.inner", [⟨"value", ⟨"a", "f", "I", 0⟩⟩])] := by
  have hpass : ((run (holder (.number 181)) filing).result >>= fun table =>
      (Hook.build table filing).result >>= fun hooks =>
        .ok (filing.mappers.all fun mapper => table.isResolved mapper.name,
          hooks.map fun hook => (hook.label, hook.fields))) =
      .ok (true, [("Home", [⟨"value", ⟨"a", "f", "I", 0⟩⟩, ⟨"Home.", ⟨"a", "f", "I", 0⟩⟩]),
        ("Home.inner", [⟨"value", ⟨"a", "f", "I", 0⟩⟩])]) := by
    decide +kernel
  obtain ⟨table, hrun, hpass⟩ := Except.bind_eq_ok_iff.1 hpass
  obtain ⟨hooks, hbuild, hshown⟩ := Except.bind_eq_ok_iff.1 hpass
  obtain ⟨hresolved, hfields⟩ := Prod.mk.inj (Except.ok.inj hshown)
  exact ⟨table, hooks, hrun, List.all_eq_true.1 hresolved, hbuild, hfields⟩

/-- The member `value` is shown under its name in the hook of its owner `Home`. -/
theorem shows_of_builtFor_filing : ∃ table mapper hooks hook entity,
    (run (holder (.number 181)) filing).result = .ok table ∧ mapper ∈ filing.mappers ∧
      Mapper.constructorField "Home" "value" (.fieldWrite (some (.literal "I"))) 0 none [] =
        .ok mapper ∧ '.' ∉ "value".toList ∧ table.isResolved mapper.name = true ∧
      (Hook.build table filing).result = .ok hooks ∧ hook ∈ hooks ∧ hook.label = "Home" ∧
      table.resolve "Home" = .ok (.ofClass hook.decl) ∧
      (∀ other ∈ hooks, other.label = "Home" → other = hook) ∧
      table.resolve mapper.name = .ok entity ∧ hook.Shows mapper "value" entity := by
  obtain ⟨table, -, hrun, hresolved, -⟩ := exists_run_filing
  have hmem : written "Home.value" "Home" "I" (by decide) ∈ filing.mappers := by
    simp [filing]
  have hbuilt : Mapper.constructorField "Home" "value" (.fieldWrite (some (.literal "I"))) 0 none
      [] = .ok (written "Home.value" "Home" "I" (by decide)) := rfl
  obtain ⟨hooks, hook, entity, hshows⟩ :=
    shows_of_builtFor hrun hmem (.constructorField hbuilt) (by decide) (hresolved _ hmem)
  exact ⟨table, _, hooks, hook, entity, hrun, hmem, hbuilt, by decide, hresolved _ hmem, hshows⟩

/-- The member `inner.value` of `Home` is shown in the hook of `Home.inner`, under the name `value`,
and a member without a name is shown under the name of its mapper. -/
theorem exists_member_elsewhere : ∃ table hooks dotted unnamed,
    (run (holder (.number 181)) filing).result = .ok table ∧
      Mapper.constructorField "Home" "inner.value" (.fieldWrite (some (.literal "I"))) 0 none [] =
        .ok dotted ∧
      dotted ∈ filing.mappers ∧ table.isResolved dotted.name = true ∧
      Mapper.constructorField "Home" "" (.fieldWrite (some (.literal "I"))) 0 none [] =
        .ok unnamed ∧
      unnamed ∈ filing.mappers ∧ table.isResolved unnamed.name = true ∧
      (Hook.build table filing).result = .ok hooks ∧
      hooks.map (fun hook => (hook.label, hook.fields)) =
        [("Home", [⟨"value", ⟨"a", "f", "I", 0⟩⟩, ⟨"Home.", ⟨"a", "f", "I", 0⟩⟩]),
          ("Home.inner", [⟨"value", ⟨"a", "f", "I", 0⟩⟩])] := by
  obtain ⟨table, hooks, hrun, hresolved, hbuild, hfields⟩ := exists_run_filing
  have hdotted : written "Home.inner.value" "Home" "I" (by decide) ∈ filing.mappers := by
    simp [filing]
  have hunnamed : written "Home." "Home" "I" (by decide) ∈ filing.mappers := by
    simp [filing]
  exact ⟨table, hooks, _, _, hrun, rfl, hdotted, hresolved _ hdotted, rfl, hunnamed,
    hresolved _ hunnamed, hbuild, hfields⟩

/-- A mapper `Home` for a class and mappers for two fields of it, one of which is named after
`Other`, which is no mapper. -/
def sharing : Registry where
  mappers := [
    .onlyClass "Home" (.hasInstanceField (.literal "I")) [] (by decide),
    written "Home.value" "Home" "I" (by decide),
    written "Other.value" "Home" "J" (by decide)]
  nodup_names := by decide

/-- In the only hook of the pass over `sharing` both fields are shown, under the label `value`. -/
theorem exists_run_sharing : ∃ table hooks,
    (run (holder (.number 181)) sharing).result = .ok table ∧
    (Hook.build table sharing).result = .ok hooks ∧
    hooks.map (fun hook => hook.fields) =
      [[⟨"value", ⟨"a", "f", "I", 0⟩⟩, ⟨"value", ⟨"a", "g", "J", 0⟩⟩]] := by
  have hpass : ((run (holder (.number 181)) sharing).result >>= fun table =>
      (Hook.build table sharing).result >>= fun hooks => .ok (hooks.map fun hook => hook.fields)) =
        .ok [[⟨"value", ⟨"a", "f", "I", 0⟩⟩, ⟨"value", ⟨"a", "g", "J", 0⟩⟩]] := by
    decide +kernel
  obtain ⟨table, hrun, hpass⟩ := Except.bind_eq_ok_iff.1 hpass
  obtain ⟨hooks, hbuild, hfields⟩ := Except.bind_eq_ok_iff.1 hpass
  exact ⟨table, hooks, hrun, hbuild, Except.ok.inj hfields⟩

/-- The hook in which two fields are shown under one label is `Labelled`: the name `Other.value` is
the name of a member of no class. -/
theorem labelled_of_run_sharing : ∃ table hooks,
    (run (holder (.number 181)) sharing).result = .ok table ∧
    (Hook.build table sharing).result = .ok hooks ∧
    ∀ hook ∈ hooks, Hook.Labelled table sharing hook := by
  obtain ⟨table, -, hrun, -⟩ := exists_run_sharing
  obtain ⟨hooks, hbuild, hlabelled⟩ := labelled_of_run hrun
  exact ⟨table, hooks, hrun, hbuild, hlabelled⟩

/-- Two fields of a hook have the label `value`, so labels are not unique. -/
theorem exists_shared_label : ∃ table hooks,
    (run (holder (.number 181)) sharing).result = .ok table ∧
    (Hook.build table sharing).result = .ok hooks ∧
    ∃ hook ∈ hooks, hook.fields.map (·.label) = ["value", "value"] := by
  obtain ⟨table, hooks, hrun, hbuild, hfields⟩ := exists_run_sharing
  obtain ⟨hook, rest, rfl, hfirst, -⟩ := List.map_eq_cons_iff.1 hfields
  exact ⟨table, _, hrun, hbuild, hook, List.mem_cons_self, by rw [hfirst]; rfl⟩

end Example

end Pass

end Reidentify

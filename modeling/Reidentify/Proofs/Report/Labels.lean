import Reidentify.Proofs.Report.Hooks

/-!
# Labels of members

In a hook a member goes by what follows the last dot of its mapper's name, so mappers with different
names may give one label to their members. They never do if their names have the same owner. As a
member that is named after a class gets into the hook of that class, two members of one hook can
share a label only if one of them was named after no class and has come into the hook because the
class declares it.

## Main definitions

* `Hook.Stray`: a name is the one of a member that is named after no class.
* `Hook.MayShare`: two names may lead to one label in one hook.
* `Hook.Labelled`: labels are shared in a hook for this reason only.

## Main statements

* `Hook.Labels.eq_of_splitsAt`: where a name is split decides about its label.
* `Hook.eq_of_same_label`: names with the same owner and the same label are the same.
* `Hook.Exports.labelled`: hooks that show what a table binds are labelled.
-/

namespace Reidentify.Hook

variable {table : Table} {registry : Registry} {α : Type} {entries : List α}
  {kind : Mapper → Prop} {describes : Mapper → α → Prop}
  {name name' owner member member' label declaring declaring' : String}

/-! ## The label of a member -/

/-- A `label` with a dot is the whole `name`. -/
theorem Labels.eq_of_dot (h : Labels name label) (hdot : '.' ∈ label.toList) : label = name := by
  cases h with
  | member hsplit => exact absurd hdot hsplit.2
  | whole => rfl

/-- Where a `name` is split (`SplitsAt`) decides about its `label`. -/
theorem Labels.eq_of_splitsAt (h : Labels name label) (hsplit : SplitsAt name owner member) :
    label = if member = "" then name else member := by
  cases h with
  | member hsplit' hne =>
    obtain ⟨-, rfl⟩ := hsplit.unique hsplit'
    rw [if_neg hne]
  | whole hempty => rw [if_pos (hempty owner member hsplit)]

/-- Names with the same `owner` and the same `label` are the same. -/
theorem eq_of_same_label (h : Labels name label) (h' : Labels name' label)
    (hsplit : SplitsAt name owner member) (hsplit' : SplitsAt name' owner member') :
    name = name' := by
  -- without a member the label is a whole name, which has a dot
  have hdot {name member : String} (hsplit : SplitsAt name owner member) :
      '.' ∈ name.toList := by
    simp [hsplit.1, Mapper.memberName]
  have hlabel := h.eq_of_splitsAt hsplit
  have hlabel' := h'.eq_of_splitsAt hsplit'
  split at hlabel
  · -- the first label is a whole name, so the second one is too
    rw [← h'.eq_of_dot (hlabel ▸ hdot hsplit), hlabel]
  · split at hlabel'
    · rw [← h.eq_of_dot (hlabel' ▸ hdot hsplit'), hlabel']
    · -- both labels are members, so the members are the same
      rw [hsplit.1, hsplit'.1, ← hlabel, ← hlabel']

/-! ## Labels that are shared -/

/-- A `name` is the one of a member that is named after no mapper for a class that the `table`
binds. -/
def Stray (table : Table) (registry : Registry) (name : String) : Prop :=
  ∀ owner member, SplitsAt name owner member → ∀ other ∈ registry.mappers, ∀ decl,
    table.Binds other (.ofClass decl) → other.name ≠ owner

/-- A member that belongs to the hook of a `label` is named after it, or it is `Stray`. -/
theorem Houses.named_or_stray (h : Houses table registry name declaring label) :
    (∃ member, SplitsAt name label member) ∨ Stray table registry name := by
  cases h with
  | named _ _ hname => exact .inl ⟨_, hname⟩
  | declared hunnamed => exact .inr hunnamed

/-- The two names `name` and `name'` may lead to one label in one hook: they have no owner in
common, and one of them at least is `Stray`. -/
structure MayShare (table : Table) (registry : Registry) (name name' : String) : Prop where
  /-- The names have different owners, or one of them has none. -/
  apart : ∀ owner member member', SplitsAt name owner member → ¬SplitsAt name' owner member'
  /-- One of the members got into the hook because the class declares it. -/
  stray : Stray table registry name ∨ Stray table registry name'

/-- Members of one `hook` with one `label` have names that may share it (`MayShare`). -/
theorem mayShare_of_houses (hne : name ≠ name') (hlabel : Labels name label)
    (hlabel' : Labels name' label) {hook : String} (h : Houses table registry name declaring hook)
    (h' : Houses table registry name' declaring' hook) : MayShare table registry name name' := by
  have hapart (owner member member' : String) (hsplit : SplitsAt name owner member) :
      ¬SplitsAt name' owner member' :=
    fun hsplit' => hne (eq_of_same_label hlabel hlabel' hsplit hsplit')
  refine ⟨hapart, ?_⟩
  rcases h.named_or_stray with ⟨member, hnamed⟩ | hstray
  · rcases h'.named_or_stray with ⟨member', hnamed'⟩ | hstray'
    · -- both are named after the hook
      exact absurd hnamed' (hapart _ _ _ hnamed)
    · exact .inr hstray'
  · exact .inl hstray

/-- The `mapper` is bound to an `entity` that belongs to the hook of the label `home`, and gives it
a `label` there. -/
structure IsSource (table : Table) (registry : Registry) (home : String) (mapper : Mapper)
    (entity : Entity) (label : String) : Prop where
  /-- The `mapper` is registered. -/
  mem : mapper ∈ registry.mappers
  /-- It is bound to the `entity`. -/
  binds : table.Binds mapper entity
  /-- The entity belongs to the hook of `home` (`Houses`). -/
  houses : ∃ declaring, declaringClass entity = .ok declaring ∧
    Houses table registry mapper.name declaring home
  /-- It goes by the `label` (`Labels`). -/
  labels : Labels mapper.name label

/-- Two of the `entries` share a `label` only if the names of their mappers may share it
(`MayShare`). -/
def LabelsApart (table : Table) (registry : Registry) (home : String) (entity : α → Entity)
    (label : α → String) (entries : List α) : Prop :=
  entries.Pairwise fun entry entry' => label entry = label entry' → ∃ mapper mapper',
    IsSource table registry home mapper (entity entry) (label entry) ∧
      IsSource table registry home mapper' (entity entry') (label entry') ∧
      MayShare table registry mapper.name mapper'.name

/-- All members that belong to the hook of the label `home` are named after it. -/
def AllNamed (table : Table) (registry : Registry) (home : String) : Prop :=
  ∀ mapper entity label, IsSource table registry home mapper entity label →
    ∃ member, SplitsAt mapper.name home member

variable {home : String} {entity : α → Entity} {labelOf : α → String}

/-- The labels of a list are `LabelsApart` if each of its entries `IsSource` for the mapper it is
listed for. -/
theorem Lists.labelsApart (h : Lists kind describes registry.mappers entries)
    (hsource : ∀ mapper ∈ registry.mappers, ∀ entry, kind mapper → describes mapper entry →
      IsSource table registry home mapper (entity entry) (labelOf entry)) :
    LabelsApart table registry home entity labelOf entries := by
  refine h.pairwise registry.nodup_names ?_
  intro mapper hmem mapper' hmem' hne hkind hkind' entry entry' hdescribes hdescribes' heq
  have hfirst := hsource mapper hmem entry hkind hdescribes
  have hsecond := hsource mapper' hmem' entry' hkind' hdescribes'
  obtain ⟨declaring, -, hhouses⟩ := hfirst.houses
  obtain ⟨declaring', -, hhouses'⟩ := hsecond.houses
  exact ⟨mapper, mapper', hfirst, hsecond,
    mayShare_of_houses hne hfirst.labels (heq ▸ hsecond.labels) hhouses hhouses'⟩

/-- The labels of members that are all named after their hook (`AllNamed`) are distinct. -/
theorem LabelsApart.nodup (h : LabelsApart table registry home entity labelOf entries)
    (hnamed : AllNamed table registry home) : (entries.map labelOf).Nodup := by
  refine List.pairwise_map.2 (h.imp fun {entry entry'} hshare heq => ?_)
  obtain ⟨mapper, mapper', hfirst, hsecond, hmayShare⟩ := hshare heq
  obtain ⟨member, hsplit⟩ := hnamed _ _ _ hfirst
  obtain ⟨member', hsplit'⟩ := hnamed _ _ _ hsecond
  exact hmayShare.apart _ _ _ hsplit hsplit'

/-- The `hook` is labelled: two of its fields, or two of its methods, share a label only if they may
(`LabelsApart`), and never if all its members are named after it (`AllNamed`). -/
structure Labelled (table : Table) (registry : Registry) (hook : Hook) : Prop where
  /-- Two of the `fields` share a label only if they may. -/
  fields : LabelsApart table registry hook.label (.ofField ·.field) (·.label) hook.fields
  /-- Two of the `methods` share a label only if they may. -/
  methods : LabelsApart table registry hook.label (.ofMethod ·.method) (·.label) hook.methods
  /-- The labels of the `fields` are distinct if all are named after the hook. -/
  nodup_fields : AllNamed table registry hook.label → (hook.fields.map (·.label)).Nodup
  /-- The labels of the `methods` are distinct if all are named after the hook. -/
  nodup_methods : AllNamed table registry hook.label → (hook.methods.map (·.label)).Nodup

/-- Hooks that show what a table binds (`Exports`) are `Labelled`. -/
theorem Exports.labelled {hooks : List Hook} {hook : Hook} (h : Exports table registry hooks)
    (hhook : hook ∈ hooks) : Labelled table registry hook := by
  have hfields : LabelsApart table registry hook.label (.ofField ·.field) (·.label)
      hook.fields := by
    refine (h.fields hook hhook).labelsApart ?_
    rintro mapper hmem entry ⟨field, hfield, hhouses⟩ ⟨hbinds, hlabel⟩
    -- a mapper is bound to one field only
    obtain rfl : field = entry.field := by
      simpa using hfield.2.symm.trans hbinds.2
    exact ⟨hmem, hbinds, ⟨_, rfl, hhouses⟩, hlabel⟩
  have hmethods : LabelsApart table registry hook.label (.ofMethod ·.method) (·.label)
      hook.methods := by
    refine (h.methods hook hhook).labelsApart ?_
    rintro mapper hmem entry ⟨method, hmethod, hhouses⟩ ⟨hbinds, hlabel, -⟩
    obtain rfl : method = entry.method := by
      simpa using hmethod.2.symm.trans hbinds.2
    exact ⟨hmem, hbinds, ⟨_, rfl, hhouses⟩, hlabel⟩
  exact ⟨hfields, hmethods, hfields.nodup, hmethods.nodup⟩

end Reidentify.Hook

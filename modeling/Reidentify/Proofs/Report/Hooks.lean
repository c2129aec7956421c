import Mathlib.Data.List.Forall2
import Mathlib.Data.List.Nodup
import Mathlib.Data.List.TakeWhile
import Reidentify.Mapper.Member
import Reidentify.Proofs.Artifact.Occurrence
import Reidentify.Proofs.Outcome.Extension
import Reidentify.Report.Hooks

/-!
# The hooks of a table

The hooks of a table lose nothing and repeat nothing. There is one hook for every mapper that is
bound to a class. A member has one hook at most: the one that its mapper is named after, or else the
first one of the class that declares it. It is listed there, and nowhere else.

## Main definitions

* `Registry.Fits`: mappers are bound to entities of their targets.
* `Hook.SplitsAt`: a name is split at its last dot.
* `Hook.Houses`: the hook that a member belongs to.
* `Hook.Lists`: a list has one entry for every mapper of a kind.
* `Hook.Exports`: hooks show what a table binds.

## Main statements

* `Hook.home?_eq_some_iff`: the hook that is found for a member is the one that it belongs to.
* `Hook.exists_exports`: the hooks of a table can be built, and they show what the table binds.
-/

namespace Reidentify

/-- The `table` binds the `mapper` to an `entity`, which is of its target. -/
def Table.Binds (table : Table) (mapper : Mapper) (entity : Entity) : Prop :=
  mapper.target = entity.target ∧ table.resolve mapper.name = .ok entity

/-- Mappers of the `registry` that the `table` binds are bound to entities of their targets. -/
def Registry.Fits (registry : Registry) (table : Table) : Prop :=
  ∀ mapper ∈ registry.mappers, ∀ entity, table.resolve mapper.name = .ok entity →
    mapper.target = entity.target

namespace Hook

/-- A `name` is split at its last dot, into `owner` and `member`. -/
def SplitsAt (name owner member : String) : Prop :=
  name = Mapper.memberName owner member ∧ '.' ∉ member.toList

/-- The label that a member is given: what follows the last dot in the `name` of its mapper
(`SplitsAt`), or the whole name if nothing follows a dot. -/
inductive Labels (name : String) : String → Prop
  /-- Something follows the last dot, the `member`. -/
  | member {owner member : String} (h : SplitsAt name owner member) (hne : member ≠ "") :
    Labels name member
  /-- There is no dot, or nothing follows the last one. -/
  | whole (h : ∀ owner member, SplitsAt name owner member → member = "") : Labels name name

/-- The label of the hook that a member belongs to, as the `name` of its mapper and the name
`declaring` of the class that declares it say, from what the `table` binds of the `registry`. -/
inductive Houses (table : Table) (registry : Registry) (name declaring : String) : String → Prop
  /-- Up to its last dot, the `name` is the name of a mapper `home` that is bound to a class `decl`.
  -/
  | named {home decl member} (hmem : home ∈ registry.mappers)
    (hbinds : table.Binds home (.ofClass decl)) (hname : SplitsAt name home.name member) :
    Houses table registry name declaring home.name
  /-- There is no such mapper, and the first one that is bound to the class called `declaring` is
  the `home`: no `earlier` one is. -/
  | declared {home decl before after}
    (hunnamed : ∀ owner member, SplitsAt name owner member → ∀ other ∈ registry.mappers, ∀ decl,
      table.Binds other (.ofClass decl) → other.name ≠ owner)
    (hmappers : registry.mappers = before ++ home :: after)
    (hbinds : table.Binds home (.ofClass decl)) (hdecl : decl.name = declaring)
    (hfirst : ∀ earlier ∈ before, ∀ decl, table.Binds earlier (.ofClass decl) →
      decl.name ≠ declaring) :
    Houses table registry name declaring home.name

open Classical in
/-- A list has one of the `entries` for every one of the `mappers` of a `kind`, in their order, and
the mapper `describes` the entry. -/
def Lists {α : Type} (kind : Mapper → Prop) (describes : Mapper → α → Prop)
    (mappers : List Mapper) (entries : List α) : Prop :=
  List.Forall₂ describes (mappers.filter (kind ·)) entries

/-- The `hooks` show what the `table` binds: every class once, and every member in the hook that
`Houses` it. -/
structure Exports (table : Table) (registry : Registry) (hooks : List Hook) : Prop where
  /-- Every mapper that is bound at all is bound to an entity of its target (`Binds`). -/
  binds : ∀ mapper ∈ registry.mappers, table.isResolved mapper.name = true →
    ∃ entity, table.Binds mapper entity
  /-- There is one hook for every mapper that is bound to a class, of its name and this class. -/
  classes : Lists (fun mapper => ∃ decl, table.Binds mapper (.ofClass decl))
    (fun mapper hook => hook.label = mapper.name ∧ table.Binds mapper (.ofClass hook.decl))
    registry.mappers hooks
  /-- A hook lists one field for every mapper of a field that it `Houses`. -/
  fields : ∀ hook ∈ hooks, Lists
    (fun mapper => ∃ field, table.Binds mapper (.ofField field) ∧
      Houses table registry mapper.name field.owner hook.label)
    (fun mapper entry => table.Binds mapper (.ofField entry.field) ∧
      Labels mapper.name entry.label)
    registry.mappers hook.fields
  /-- A hook lists one method for every mapper of a method that it `Houses`, with its parameters. -/
  methods : ∀ hook ∈ hooks, Lists
    (fun mapper => ∃ method, table.Binds mapper (.ofMethod method) ∧
      Houses table registry mapper.name method.owner hook.label)
    (fun mapper entry => table.Binds mapper (.ofMethod entry.method) ∧
      Labels mapper.name entry.label ∧ entry.parameters = mapper.parameters)
    registry.mappers hook.methods
  /-- A member belongs to one hook at most: no two labels are those of hooks that `Houses` gives. -/
  houses_unique : ∀ name declaring label label', Houses table registry name declaring label →
    Houses table registry name declaring label' → label = label'
  /-- The hook that a member belongs to is there, once. -/
  exists_hook : ∀ name declaring label, Houses table registry name declaring label →
    ∃! hook, hook ∈ hooks ∧ hook.label = label

section Names

variable {name owner owner' member member' : String}

theorem ne_dot_of_not_mem (h : '.' ∉ name.toList) :
    ∀ c ∈ name.toList.reverse, decide (c ≠ '.') = true := by
  intro c hc
  rw [decide_eq_true_eq]
  rintro rfl
  exact h (List.mem_reverse.1 hc)

theorem splitMemberName_of_splitsAt (h : SplitsAt name owner member) :
    splitMemberName name = (owner, member) := by
  obtain ⟨rfl, hmember⟩ := h
  have hchars : (Mapper.memberName owner member).toList.reverse =
      member.toList.reverse ++ '.' :: owner.toList.reverse := by
    simp [Mapper.memberName]
  rw [splitMemberName, hchars, List.takeWhile_append_of_pos (ne_dot_of_not_mem hmember),
    List.dropWhile_append_of_pos (ne_dot_of_not_mem hmember)]
  simp

/-- A `name` is split at its last dot in one way only. -/
theorem SplitsAt.unique (h : SplitsAt name owner member) (h' : SplitsAt name owner' member') :
    owner = owner' ∧ member = member' := by
  have hsame := (splitMemberName_of_splitsAt h).symm.trans (splitMemberName_of_splitsAt h')
  exact Prod.mk.inj hsame

/-- A `name` with a dot is split at the last one (`SplitsAt`). -/
theorem exists_splitsAt (h : '.' ∈ name.toList) : ∃ owner member, SplitsAt name owner member := by
  obtain ⟨after, before, hchars, hfirst⟩ := List.eq_append_cons_of_mem (List.mem_reverse.2 h)
  refine ⟨String.ofList before.reverse, String.ofList after.reverse, ?_, by simpa using hfirst⟩
  rw [← String.toList_inj]
  rw [List.reverse_eq_iff] at hchars
  simp [Mapper.memberName, hchars]

/-- A `name` without a dot is not split at all by `splitMemberName`. -/
theorem splitMemberName_of_not_mem (h : '.' ∉ name.toList) : splitMemberName name = ("", name) := by
  rw [splitMemberName, List.takeWhile_eq_self_iff.2 (ne_dot_of_not_mem h),
    List.dropWhile_eq_nil_iff.2 (ne_dot_of_not_mem h)]
  simp

end Names

/-- The label that a member is given by the `name` of its mapper. -/
def memberLabel (name : String) : String :=
  let member := (splitMemberName name).2
  if member.isEmpty then name else member

theorem labels_memberLabel (name : String) : Labels name (memberLabel name) := by
  by_cases hdot : '.' ∈ name.toList
  · obtain ⟨owner, member, hsplit⟩ := exists_splitsAt hdot
    rw [memberLabel, splitMemberName_of_splitsAt hsplit]
    by_cases hmember : member = ""
    · rw [hmember]
      refine .whole fun owner' member' hsplit' => ?_
      obtain ⟨-, rfl⟩ := hsplit.unique hsplit'
      exact hmember
    · simp only [String.isEmpty_iff, hmember]
      exact .member hsplit hmember
  · rw [memberLabel, splitMemberName_of_not_mem hdot]
    simp only [ite_self]
    refine .whole fun owner member hsplit => absurd ?_ hdot
    simp [hsplit.1, Mapper.memberName]

section Entries

variable {α : Type} {mapper : Mapper} {mappers : List Mapper} {entry : α} {entries : List α}
  {kind : Mapper → Prop} {describes : Mapper → α → Prop}

/-- The `entries` of a list and the mappers of the `kind`, which are its `sources`, correspond to
each other. -/
theorem Lists.exists_sources (h : Lists kind describes mappers entries) :
    ∃ sources : List Mapper, sources.Sublist mappers ∧
      (∀ mapper, mapper ∈ sources ↔ mapper ∈ mappers ∧ kind mapper) ∧
      sources.length = entries.length ∧
      ∀ (i : Nat) (hi : i < sources.length) (hi' : i < entries.length),
        describes sources[i] entries[i] := by
  classical
  refine ⟨mappers.filter (kind ·), List.filter_sublist, fun mapper => by simp, ?_⟩
  exact List.forall₂_iff_get.1 h

/-- A list has one of its `entries` for every `mapper` of the `kind`. -/
theorem Lists.exists_entry (h : Lists kind describes mappers entries) (hmem : mapper ∈ mappers)
    (hkind : kind mapper) : ∃ entry ∈ entries, describes mapper entry := by
  obtain ⟨sources, -, hsources, hlength, hdescribes⟩ := h.exists_sources
  obtain ⟨i, hi, rfl⟩ := List.mem_iff_getElem.1 ((hsources mapper).2 ⟨hmem, hkind⟩)
  exact ⟨_, List.getElem_mem (hlength ▸ hi), hdescribes i hi (hlength ▸ hi)⟩

/-- Every `entry` of a list is that of a mapper of the `kind`. -/
theorem Lists.exists_mapper (h : Lists kind describes mappers entries) (hentry : entry ∈ entries) :
    ∃ mapper ∈ mappers, kind mapper ∧ describes mapper entry := by
  obtain ⟨sources, -, hsources, hlength, hdescribes⟩ := h.exists_sources
  obtain ⟨i, hi, rfl⟩ := List.mem_iff_getElem.1 hentry
  have hi' : i < sources.length := hlength ▸ hi
  obtain ⟨hmem, hkind⟩ := (hsources _).1 (List.getElem_mem hi')
  exact ⟨_, hmem, hkind, hdescribes i hi' hi⟩

/-- Any two entries of a list are `related` if those of mappers with different names are. -/
theorem Lists.pairwise {related : α → α → Prop} (h : Lists kind describes mappers entries)
    (hnodup : (mappers.map (·.name)).Nodup)
    (hrelated : ∀ mapper ∈ mappers, ∀ mapper' ∈ mappers, mapper.name ≠ mapper'.name →
      kind mapper → kind mapper' → ∀ entry entry', describes mapper entry →
        describes mapper' entry' → related entry entry') :
    entries.Pairwise related := by
  obtain ⟨sources, hsublist, hsources, hlength, hdescribes⟩ := h.exists_sources
  have hnames : sources.Pairwise (·.name ≠ ·.name) :=
    List.pairwise_map.1 ((hsublist.map _).nodup hnodup)
  rw [List.pairwise_iff_getElem] at hnames ⊢
  -- entries at two positions are those of the mappers at the same positions
  intro i j hi hj hlt
  have hi' : i < sources.length := hlength ▸ hi
  have hj' : j < sources.length := hlength ▸ hj
  obtain ⟨hmem, hkind⟩ := (hsources _).1 (List.getElem_mem hi')
  obtain ⟨hmem', hkind'⟩ := (hsources _).1 (List.getElem_mem hj')
  exact hrelated _ hmem _ hmem' (hnames i j hi' hj' hlt) hkind hkind' _ _ (hdescribes i hi' hi)
    (hdescribes j hj' hj)

end Entries

section Homes

variable {table : Table} {registry : Registry} {mapper : Mapper}

/-- The hook of a `mapper` that the `table` binds to a class, without members. -/
def ofBound? (table : Table) (mapper : Mapper) : Option Hook :=
  match table.resolve mapper.name with
  | .ok (.ofClass decl) => some ⟨mapper.name, decl, [], []⟩
  | _ => none

/-- The hooks of a `table` before the members are listed, one for every class that is bound. -/
def bare (table : Table) (registry : Registry) : List Hook :=
  registry.mappers.filterMap (ofBound? table)

section Fits

variable (hfits : registry.Fits table)

include hfits

theorem ofBound?_eq_some_iff (hmem : mapper ∈ registry.mappers) {hook : Hook} :
    ofBound? table mapper = some hook ↔
      ∃ decl, table.Binds mapper (.ofClass decl) ∧ hook = ⟨mapper.name, decl, [], []⟩ := by
  unfold ofBound?
  constructor
  · intro h
    split at h
    · next decl hresolve =>
      cases h
      exact ⟨decl, ⟨hfits mapper hmem _ hresolve, hresolve⟩, rfl⟩
    · cases h
  · rintro ⟨decl, ⟨-, hresolve⟩, rfl⟩
    rw [hresolve]

theorem ofMapper_eq (hmem : mapper ∈ registry.mappers) :
    ofMapper table mapper = .ok (ofBound? table mapper) := by
  unfold ofMapper ofBound?
  by_cases hresolved : table.isResolved mapper.name = true
  · obtain ⟨entity, hentity⟩ := Table.isResolved_iff.1 hresolved
    have htarget := hfits mapper hmem entity hentity
    cases entity with
    | ofClass decl => rw [if_pos ⟨htarget, hresolved⟩, hentity]
    | _ => rw [if_neg (by simp [htarget, Entity.target]), hentity]
  · -- what is not resolved is not bound to a class either
    rw [if_neg fun h => hresolved h.2]
    split
    · next decl hentity => exact absurd (Table.isResolved_iff.2 ⟨_, hentity⟩) hresolved
    · rfl

theorem ofMappers_eq : ofMappers table registry.mappers = .ok (bare table registry) := by
  -- by induction on the mappers, all of which are registered
  have hsome (mappers : List Mapper) (h : ∀ mapper ∈ mappers, mapper ∈ registry.mappers) :
      ofMappers table mappers = .ok (mappers.filterMap (ofBound? table)) := by
    induction mappers with
    | nil => rfl
    | cons mapper rest ih =>
      obtain ⟨hmem, hrest⟩ := List.forall_mem_cons.1 h
      rw [ofMappers, ofMapper_eq hfits hmem, ih hrest]
      cases hhook : ofBound? table mapper <;> simp [hhook, Except.map]
  exact hsome registry.mappers fun _ hmem => hmem

theorem mem_bare_iff {hook : Hook} : hook ∈ bare table registry ↔
    ∃ home ∈ registry.mappers, ∃ decl, table.Binds home (.ofClass decl) ∧
      hook = ⟨home.name, decl, [], []⟩ := by
  rw [bare, List.mem_filterMap]
  refine exists_congr fun home => and_congr_right fun hmem => ?_
  exact ofBound?_eq_some_iff hfits hmem

/-- One of the `bare` hooks has the label that a `name` is split at iff a mapper `home` of this name
is bound to a class. -/
theorem any_label_iff {name : String} :
    (bare table registry).any (·.label == (splitMemberName name).1) = true ↔
      ∃ home ∈ registry.mappers, ∃ decl member, table.Binds home (.ofClass decl) ∧
        SplitsAt name home.name member := by
  rw [List.any_eq_true]
  -- the label is the part in front of the last dot, and that of a name without a dot is empty
  constructor
  · rintro ⟨hook, hhook, hlabel⟩
    obtain ⟨home, hmem, decl, hbinds, rfl⟩ := (mem_bare_iff hfits).1 hhook
    have hlabel : home.name = (splitMemberName name).1 := beq_iff_eq.1 hlabel
    by_cases hdot : '.' ∈ name.toList
    · obtain ⟨owner, member, hsplit⟩ := exists_splitsAt hdot
      rw [splitMemberName_of_splitsAt hsplit] at hlabel
      obtain rfl : home.name = owner := hlabel
      exact ⟨home, hmem, decl, member, hbinds, hsplit⟩
    · -- no mapper has an empty name
      rw [splitMemberName_of_not_mem hdot] at hlabel
      exact absurd hlabel home.name_ne_empty
  · rintro ⟨home, hmem, decl, member, hbinds, hsplit⟩
    refine ⟨_, (mem_bare_iff hfits).2 ⟨home, hmem, decl, hbinds, rfl⟩, ?_⟩
    rw [splitMemberName_of_splitsAt hsplit, beq_iff_eq]

theorem any_ofBound?_iff (hmem : mapper ∈ registry.mappers) {declaring : String} :
    (ofBound? table mapper).any (·.decl.name == declaring) = true ↔
      ∃ decl, table.Binds mapper (.ofClass decl) ∧ decl.name = declaring := by
  rw [Option.any_eq_true]
  constructor
  · rintro ⟨hook, hhook, hname⟩
    obtain ⟨decl, hbinds, rfl⟩ := (ofBound?_eq_some_iff hfits hmem).1 hhook
    exact ⟨decl, hbinds, beq_iff_eq.1 hname⟩
  · rintro ⟨decl, hbinds, hname⟩
    exact ⟨_, (ofBound?_eq_some_iff hfits hmem).2 ⟨decl, hbinds, rfl⟩, beq_iff_eq.2 hname⟩

/-- The first `bare` hook of the class called `declaring` is the one of the first mapper `home` that
is bound to the class. -/
theorem find?_bare_eq_some_iff {declaring : String} {hook : Hook} :
    (bare table registry).find? (·.decl.name == declaring) = some hook ↔
      ∃ before home after decl, registry.mappers = before ++ home :: after ∧
        table.Binds home (.ofClass decl) ∧ decl.name = declaring ∧
        (∀ earlier ∈ before, ∀ decl, table.Binds earlier (.ofClass decl) →
          decl.name ≠ declaring) ∧
        hook = ⟨home.name, decl, [], []⟩ := by
  -- the search among the hooks is a search among the mappers
  rw [bare, List.find?_filterMap, Option.bind_eq_some_iff]
  constructor
  · rintro ⟨home, hfind, hhook⟩
    obtain ⟨hfound, before, after, hmappers, hbefore⟩ := List.find?_eq_some_iff_append.1 hfind
    have hmem : home ∈ registry.mappers := List.mem_of_find?_eq_some hfind
    obtain ⟨decl, hbinds, hdecl⟩ := (any_ofBound?_iff hfits hmem).1 hfound
    obtain ⟨other, hbinds', rfl⟩ := (ofBound?_eq_some_iff hfits hmem).1 hhook
    refine ⟨before, home, after, other, hmappers, hbinds', ?_, ?_, rfl⟩
    · -- a mapper is bound to one class only
      have hsame := Except.ok.inj (hbinds.2.symm.trans hbinds'.2)
      rw [← Entity.ofClass.inj hsame]
      exact hdecl
    · intro earlier hearlier decl' hbinds' hdecl'
      have hmem' : earlier ∈ registry.mappers := by
        rw [hmappers]
        exact List.mem_append_left _ hearlier
      have hnot := hbefore earlier hearlier
      rw [(any_ofBound?_iff hfits hmem').2 ⟨decl', hbinds', hdecl'⟩] at hnot
      cases hnot
  · rintro ⟨before, home, after, decl, hmappers, hbinds, hdecl, hfirst, rfl⟩
    have hmem (other : Mapper) (h : other ∈ before ++ home :: after) : other ∈ registry.mappers :=
      hmappers ▸ h
    have hhome := hmem home List.mem_append_cons_self
    refine ⟨home, ?_, (ofBound?_eq_some_iff hfits hhome).2 ⟨decl, hbinds, rfl⟩⟩
    rw [List.find?_eq_some_iff_append]
    refine ⟨(any_ofBound?_iff hfits hhome).2 ⟨decl, hbinds, hdecl⟩, before, after, hmappers, ?_⟩
    intro earlier hearlier
    have hmem' := hmem earlier (List.mem_append_left _ hearlier)
    rw [Bool.not_eq_true', ← Bool.not_eq_true, any_ofBound?_iff hfits hmem']
    rintro ⟨decl', hbinds', hdecl'⟩
    exact hfirst earlier hearlier decl' hbinds' hdecl'

/-- The label that `home?` finds for a member is the one of the hook that `Houses` it. -/
theorem home?_eq_some_iff {name declaring label : String} :
    home? (bare table registry) (splitMemberName name).1 declaring = some label ↔
      Houses table registry name declaring label := by
  unfold home?
  split
  · next hnamed =>
    obtain ⟨home, hmem, decl, member, hbinds, hsplit⟩ := (any_label_iff hfits).1 hnamed
    rw [splitMemberName_of_splitsAt hsplit, Option.some.injEq]
    constructor
    · rintro rfl
      exact .named hmem hbinds hsplit
    · intro h
      cases h with
      | named hmem' hbinds' hsplit' =>
        -- there is only one way to split a name
        exact (hsplit.unique hsplit').1
      | declared hunnamed => exact absurd rfl (hunnamed _ _ hsplit home hmem decl hbinds)
  · next hunnamed =>
    rw [any_label_iff hfits] at hunnamed
    rw [Option.map_eq_some_iff]
    constructor
    · rintro ⟨hook, hfind, rfl⟩
      obtain ⟨before, home, after, decl, hmappers, hbinds, hdecl, hfirst, rfl⟩ :=
        (find?_bare_eq_some_iff hfits).1 hfind
      refine .declared ?_ hmappers hbinds hdecl hfirst
      rintro owner member hsplit other hmem decl' hbinds' rfl
      exact hunnamed ⟨other, hmem, decl', member, hbinds', hsplit⟩
    · intro h
      cases h with
      | named hmem hbinds hsplit => exact absurd ⟨_, hmem, _, _, hbinds, hsplit⟩ hunnamed
      | declared _ hmappers hbinds hdecl hfirst =>
        exact ⟨_, (find?_bare_eq_some_iff hfits).2
          ⟨_, _, _, _, hmappers, hbinds, hdecl, hfirst, rfl⟩, rfl⟩

end Fits

end Homes

section Members

variable {table : Table} {registry : Registry} {mapper : Mapper} {hooks : List Hook}

/-- The entry of a `mapper` that is bound to a field or a method, if there is one of the `hooks`
that it belongs to. -/
def memberOf? (table : Table) (hooks : List Hook) (mapper : Mapper) : Option HookEntry :=
  let owner := (splitMemberName mapper.name).1
  let label := memberLabel mapper.name
  match table.resolve mapper.name with
  | .ok (.ofField field) =>
    (home? hooks owner field.owner).map fun hook => .field hook ⟨label, field⟩
  | .ok (.ofMethod method) =>
    (home? hooks owner method.owner).map fun hook =>
      .method hook ⟨label, method, mapper.parameters⟩
  | _ => none

theorem result_memberEntry (hfits : registry.Fits table) (hmem : mapper ∈ registry.mappers) :
    (memberEntry table hooks mapper).result = .ok (memberOf? table hooks mapper) := by
  unfold memberEntry memberOf? memberLabel
  by_cases hresolved : table.isResolved mapper.name = true
  · obtain ⟨entity, hentity⟩ := Table.isResolved_iff.1 hresolved
    have htarget := hfits mapper hmem entity hentity
    rw [hentity]
    cases entity with
    | ofField field =>
      rw [if_pos ⟨.inl htarget, hresolved⟩]
      simp only [declaringClass, Trail.result_andThen, Trail.result_lift, Except.ok_bind]
      cases home? hooks (splitMemberName mapper.name).1 field.owner <;> rfl
    | ofMethod method =>
      rw [if_pos ⟨.inr htarget, hresolved⟩]
      simp only [declaringClass, Trail.result_andThen, Trail.result_lift, Except.ok_bind]
      cases home? hooks (splitMemberName mapper.name).1 method.owner <;> rfl
    | ofClass | ofInstruction =>
      rw [if_neg (by simp [htarget, Entity.target])]
      rfl
  · rw [if_neg fun h => hresolved h.2]
    split
    · next hentity => exact absurd (Table.isResolved_iff.2 ⟨_, hentity⟩) hresolved
    · next hentity => exact absurd (Table.isResolved_iff.2 ⟨_, hentity⟩) hresolved
    · rfl

/-- The entries `memberOf?` of all mappers in the `registry`, in their order. -/
def members (table : Table) (registry : Registry) : List HookEntry :=
  registry.mappers.filterMap (memberOf? table (bare table registry))

/-- The hooks that `build` makes are the `bare` ones with the `members` listed in them. -/
theorem result_build (hfits : registry.Fits table) : (build table registry).result =
    .ok ((bare table registry).map (·.withEntries (members table registry))) := by
  -- no entry of a member makes the pass fail
  have hentries :
      (Trail.forEach registry.mappers (memberEntry table (bare table registry))).result =
        .ok (registry.mappers.map (memberOf? table (bare table registry))) := by
    rw [Trail.result_forEach_ok_iff, List.forall₂_map_right_iff, List.forall₂_same]
    exact fun mapper hmem => result_memberEntry hfits hmem
  simp only [build, Trail.result_andThen, Trail.result_lift, ofMappers_eq hfits, hentries,
    Except.ok_bind, Trail.result_log, Trail.result_done, List.filterMap_map]
  rfl

/-- The entries that `pick` finds for mappers are `Lists` of those of a `kind`, if it finds one for
exactly these. -/
theorem lists_filterMap {α : Type} {kind : Mapper → Prop} {describes : Mapper → α → Prop}
    {pick : Mapper → Option α} {mappers : List Mapper}
    (hkind : ∀ mapper ∈ mappers, kind mapper ↔ ∃ entry, pick mapper = some entry)
    (hdescribes : ∀ mapper ∈ mappers, ∀ entry, pick mapper = some entry →
      describes mapper entry) :
    Lists kind describes mappers (mappers.filterMap pick) := by
  unfold Lists
  induction mappers with
  | nil => exact .nil
  | cons mapper rest ih =>
    obtain ⟨hkind, hrest⟩ := List.forall_mem_cons.1 hkind
    obtain ⟨hdescribes, hrest'⟩ := List.forall_mem_cons.1 hdescribes
    cases hentry : pick mapper with
    | none =>
      rw [List.filterMap_cons_none hentry, List.filter_cons_of_neg (by simp [hkind, hentry])]
      exact ih hrest hrest'
    | some entry =>
      rw [List.filterMap_cons_some hentry, List.filter_cons_of_pos (by simp [hkind, hentry])]
      exact .cons (hdescribes entry hentry) (ih hrest hrest')

/-- The entry that a `mapper` has in the hook of a label, if its entity belongs to one (`Houses`).
-/
inductive Belongs (table : Table) (registry : Registry) (mapper : Mapper) : HookEntry → Prop
  /-- The mapper is bound to a field `decl` that belongs to the hook of the `label`. -/
  | field {decl label} (hbinds : table.Binds mapper (.ofField decl))
    (hhouses : Houses table registry mapper.name decl.owner label) :
    Belongs table registry mapper (.field label ⟨memberLabel mapper.name, decl⟩)
  /-- The mapper is bound to a method `decl` that belongs to the hook of the `label`. -/
  | method {decl label} (hbinds : table.Binds mapper (.ofMethod decl))
    (hhouses : Houses table registry mapper.name decl.owner label) :
    Belongs table registry mapper
      (.method label ⟨memberLabel mapper.name, decl, mapper.parameters⟩)

theorem memberOf?_eq_some_iff (hfits : registry.Fits table) (hmem : mapper ∈ registry.mappers)
    {entry : HookEntry} : memberOf? table (bare table registry) mapper = some entry ↔
      Belongs table registry mapper entry := by
  unfold memberOf?
  constructor
  · intro h
    split at h
    · next hresolve =>
      obtain ⟨label, hhome, rfl⟩ := Option.map_eq_some_iff.1 h
      exact .field ⟨hfits mapper hmem _ hresolve, hresolve⟩ ((home?_eq_some_iff hfits).1 hhome)
    · next hresolve =>
      obtain ⟨label, hhome, rfl⟩ := Option.map_eq_some_iff.1 h
      exact .method ⟨hfits mapper hmem _ hresolve, hresolve⟩ ((home?_eq_some_iff hfits).1 hhome)
    · cases h
  · intro h
    cases h with
    | field hbinds hhouses | method hbinds hhouses =>
      simp [hbinds.2, (home?_eq_some_iff hfits).2 hhouses]

/-- The entries of one hook, which `pick` finds among the `members`, are listed for the mappers that
they belong to (`Belongs`). -/
theorem lists_entries {α : Type} (hfits : registry.Fits table) {kind : Mapper → Prop}
    {describes : Mapper → α → Prop} {pick : HookEntry → Option α} (wrap : α → HookEntry)
    (hpick : ∀ item entry, pick item = some entry ↔ item = wrap entry)
    (hkind : ∀ mapper, kind mapper ↔ ∃ entry, Belongs table registry mapper (wrap entry))
    (hdescribes : ∀ mapper entry, Belongs table registry mapper (wrap entry) →
      describes mapper entry) :
    Lists kind describes registry.mappers ((members table registry).filterMap pick) := by
  have hentry (mapper : Mapper) (hmem : mapper ∈ registry.mappers) (entry : α) :
      (memberOf? table (bare table registry) mapper).bind pick = some entry ↔
        Belongs table registry mapper (wrap entry) := by
    simp [Option.bind_eq_some_iff, hpick, memberOf?_eq_some_iff hfits hmem]
  -- picking from the entries of all mappers is picking from the entry of each one
  rw [members, List.filterMap_filterMap]
  apply lists_filterMap
  · intro mapper hmem
    simp only [hentry mapper hmem, hkind]
  · intro mapper hmem entry h
    exact hdescribes mapper entry ((hentry mapper hmem entry).1 h)

/-- A `plain` hook, once the `members` are listed in it, lists the fields that it `Houses`. -/
theorem lists_fields (hfits : registry.Fits table) (plain : Hook) : Lists
    (fun mapper => ∃ field, table.Binds mapper (.ofField field) ∧
      Houses table registry mapper.name field.owner plain.label)
    (fun mapper entry => table.Binds mapper (.ofField entry.field) ∧
      Labels mapper.name entry.label)
    registry.mappers (plain.withEntries (members table registry)).fields := by
  refine lists_entries hfits (.field plain.label) ?_ ?_ ?_
  · intro item entry
    cases item <;> simp
  · intro mapper
    constructor
    · rintro ⟨field, hbinds, hhouses⟩
      exact ⟨_, .field hbinds hhouses⟩
    · rintro ⟨entry, hbelongs⟩
      cases hbelongs with
      | field hbinds hhouses => exact ⟨_, hbinds, hhouses⟩
  · intro mapper entry hbelongs
    cases hbelongs with
    | field hbinds hhouses =>
      dsimp only
      exact ⟨hbinds, labels_memberLabel mapper.name⟩

/-- A `plain` hook, once the `members` are listed in it, lists the methods that it `Houses`, with
the names of their parameters. -/
theorem lists_methods (hfits : registry.Fits table) (plain : Hook) : Lists
    (fun mapper => ∃ method, table.Binds mapper (.ofMethod method) ∧
      Houses table registry mapper.name method.owner plain.label)
    (fun mapper entry => table.Binds mapper (.ofMethod entry.method) ∧
      Labels mapper.name entry.label ∧ entry.parameters = mapper.parameters)
    registry.mappers (plain.withEntries (members table registry)).methods := by
  refine lists_entries hfits (.method plain.label) ?_ ?_ ?_
  · intro item entry
    cases item <;> simp
  · intro mapper
    constructor
    · rintro ⟨method, hbinds, hhouses⟩
      exact ⟨_, .method hbinds hhouses⟩
    · rintro ⟨entry, hbelongs⟩
      cases hbelongs with
      | method hbinds hhouses => exact ⟨_, hbinds, hhouses⟩
  · intro mapper entry hbelongs
    cases hbelongs with
    | method hbinds hhouses =>
      dsimp only
      exact ⟨hbinds, labels_memberLabel mapper.name, rfl⟩

/-- There is one `bare` hook for every mapper that is bound to a class. -/
theorem lists_bare (hfits : registry.Fits table) : Lists
    (fun mapper => ∃ decl, table.Binds mapper (.ofClass decl))
    (fun mapper hook => hook.label = mapper.name ∧ table.Binds mapper (.ofClass hook.decl))
    registry.mappers (bare table registry) := by
  apply lists_filterMap
  · intro mapper hmem
    simp [ofBound?_eq_some_iff hfits hmem]
  · intro mapper hmem hook h
    obtain ⟨decl, hbinds, rfl⟩ := (ofBound?_eq_some_iff hfits hmem).1 h
    exact ⟨rfl, hbinds⟩

/-- No two of the `bare` hooks have the same label, since mappers have distinct names. -/
theorem nodup_label_bare (hfits : registry.Fits table) :
    ((bare table registry).map (·.label)).Nodup := by
  apply List.pairwise_map.2
  refine (lists_bare hfits).pairwise registry.nodup_names ?_
  intro mapper _ mapper' _ hne _ _ hook hook' hhook hhook'
  rw [hhook.1, hhook'.1]
  exact hne

/-- The hook that `Houses` a member is among the `bare` ones. -/
theorem Houses.exists_bare (hfits : registry.Fits table) {name declaring label : String}
    (h : Houses table registry name declaring label) :
    ∃ plain ∈ bare table registry, plain.label = label := by
  cases h with
  | named hmem hbinds => exact ⟨_, (mem_bare_iff hfits).2 ⟨_, hmem, _, hbinds, rfl⟩, rfl⟩
  | declared _ hmappers hbinds =>
    exact ⟨_, (mem_bare_iff hfits).2 ⟨_, hmappers ▸ List.mem_append_cons_self, _, hbinds, rfl⟩, rfl⟩

/-- The hooks of a `table` can be built by `build` if its mappers are bound to entities of their
targets (`Fits`), and they show what the table binds (`Exports`). -/
theorem exists_exports (hfits : registry.Fits table) :
    ∃ hooks, (build table registry).result = .ok hooks ∧ Exports table registry hooks := by
  refine ⟨_, result_build hfits, ?_⟩
  exact {
    binds := by
      intro mapper hmem hresolved
      obtain ⟨entity, hentity⟩ := Table.isResolved_iff.1 hresolved
      exact ⟨entity, hfits mapper hmem entity hentity, hentity⟩
    classes := by
      rw [Lists, List.forall₂_map_right_iff]
      exact lists_bare hfits
    fields := by
      intro hook hhook
      obtain ⟨plain, -, rfl⟩ := List.mem_map.1 hhook
      exact lists_fields hfits plain
    methods := by
      intro hook hhook
      obtain ⟨plain, -, rfl⟩ := List.mem_map.1 hhook
      exact lists_methods hfits plain
    houses_unique := by
      intro name declaring label label' h h'
      rw [← home?_eq_some_iff hfits] at h h'
      exact Option.some.inj (h.symm.trans h')
    exists_hook := by
      intro name declaring label h
      obtain ⟨plain, hplain, hlabel⟩ := h.exists_bare hfits
      refine ⟨_, ⟨List.mem_map_of_mem hplain, hlabel⟩, ?_⟩
      rintro other ⟨hother, hsame⟩
      obtain ⟨plain', hplain', rfl⟩ := List.mem_map.1 hother
      have hunique := List.inj_on_of_nodup_map (nodup_label_bare hfits) hplain' hplain
        (hsame.trans hlabel.symm)
      rw [hunique] }

end Members

end Hook

end Reidentify

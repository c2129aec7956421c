import Mathlib.Data.List.Nodup
import Reidentify.Text.Order

/-!
# Distinct names

Mappers, tasks and outcomes are looked up by their names, and no two of a list have the same one.
So looking up the name of an item finds this item, and sorting names only changes their order.

## Main statements

* `find?_eq_some_iff_of_nodup`: exactly the item of a name is found by it.
* `sortedNames_perm`: distinct names are only put in another order by sorting.
* `Ascending.ext`: an ascending list is determined by its names.
-/

namespace Reidentify.Text

section Lookup

variable {α κ : Type} [BEq κ] [LawfulBEq κ] {name : α → κ} {items : List α}

/-- If no two of `items` have the same `name`, exactly the item with the name `key` is found by
`key`. -/
theorem find?_eq_some_iff_of_nodup (h : (items.map name).Nodup) {key : κ} {item : α} :
    items.find? (name · == key) = some item ↔ item ∈ items ∧ name item = key := by
  constructor
  · intro hfind
    have hkey := List.find?_some hfind
    exact ⟨List.mem_of_find?_eq_some hfind, beq_iff_eq.1 hkey⟩
  · rintro ⟨hmem, rfl⟩
    cases hfind : items.find? (name · == name item) with
    | none =>
      have hnone := List.find?_eq_none.1 hfind item hmem
      exact absurd (beq_self_eq_true _) hnone
    | some other =>
      have hkey := List.find?_some hfind
      rw [List.inj_on_of_nodup_map h (List.mem_of_find?_eq_some hfind) hmem (beq_iff_eq.1 hkey)]

/-- If no two of `items` have the same `name`, a rearrangement `items'` of them finds the same item
by `key`. -/
theorem find?_eq_of_perm (h : (items.map name).Nodup) {items' : List α} (hperm : items.Perm items')
    (key : κ) : items.find? (name · == key) = items'.find? (name · == key) := by
  have h' : (items'.map name).Nodup := (hperm.map name).nodup_iff.1 h
  refine Option.ext fun item => ?_
  rw [find?_eq_some_iff_of_nodup h, find?_eq_some_iff_of_nodup h', hperm.mem_iff]

/-- Nothing is found by `key` iff none of `items` has this name. -/
theorem find?_eq_none_iff {key : κ} :
    items.find? (name · == key) = none ↔ key ∉ items.map name := by
  simp [List.find?_eq_none]

end Lookup

/-- A list of distinct `names` is left as it is when repeated ones are left out. -/
theorem eraseDups_eq_of_nodup {names : List String} (h : names.Nodup) :
    names.eraseDups = names := by
  induction names with
  | nil => rfl
  | cons name rest ih =>
    obtain ⟨hname, hrest⟩ := List.nodup_cons.1 h
    -- `eraseDups` leaves out what equals the first name, and nothing of the rest does
    have hfilter : rest.filter (fun other => !other == name) = rest := by
      refine List.filter_eq_self.2 fun other hmem => ?_
      simpa using ne_of_mem_of_not_mem hmem hname
    rw [List.eraseDups_cons, hfilter, ih hrest]

section Sorting

/-- A `name` that is not among `names` is added to them by `insertName`, somewhere. -/
theorem insertName_perm {name : String} {names : List String} (h : name ∉ names) :
    (insertName name names).Perm (name :: names) := by
  induction names with
  | nil => exact .refl _
  | cons other rest ih =>
    obtain ⟨hother, hrest⟩ := not_or.1 (mt List.mem_cons.2 h)
    unfold insertName
    split
    · exact .refl _
    -- `name` moves past `other`, so the two are swapped behind the induction hypothesis
    · exact ((ih hrest).cons other).trans (.swap name other rest)

/-- A list of distinct `names` is only put in another order by `sortedNames`. -/
theorem sortedNames_perm {names : List String} (h : names.Nodup) :
    (sortedNames names).Perm names := by
  induction names with
  | nil => exact .refl _
  | cons name rest ih =>
    obtain ⟨hname, hrest⟩ := List.nodup_cons.1 h
    exact (insertName_perm (mt mem_sortedNames.1 hname)).trans ((ih hrest).cons name)

/-- Two `Ascending` lists with the same elements are equal. -/
theorem Ascending.ext {names others : List String} (h : Ascending names) (h' : Ascending others)
    (hmem : ∀ x, x ∈ names ↔ x ∈ others) : names = others := by
  have hperm : names.Perm others := (List.perm_ext_iff_of_nodup h.nodup h'.nodup).2 hmem
  refine hperm.eq_of_pairwise (fun a b _ _ hab hba => ?_) h h'
  -- no name stands before itself
  have hself := isBefore_trans hab hba
  rw [isBefore_irrefl] at hself
  cases hself

/-- The list `sortedNames names` depends only on which names there are. -/
theorem sortedNames_congr {names others : List String} (h : ∀ x, x ∈ names ↔ x ∈ others) :
    sortedNames names = sortedNames others := by
  refine (ascending_sortedNames names).ext (ascending_sortedNames others) fun x => ?_
  rw [mem_sortedNames, mem_sortedNames, h]

/-- Leaving out the names that `p` does not hold of and sorting can be exchanged. -/
theorem filter_sortedNames (p : String → Bool) (names : List String) :
    (sortedNames names).filter p = sortedNames (names.filter p) := by
  have hfilter : Ascending ((sortedNames names).filter p) :=
    (ascending_sortedNames names).sublist List.filter_sublist
  -- both sides are ascending, so it is enough to compare their elements
  refine hfilter.ext (ascending_sortedNames _) fun x => ?_
  rw [List.mem_filter, mem_sortedNames, mem_sortedNames, List.mem_filter]

end Sorting

end Reidentify.Text

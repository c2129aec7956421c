import Mathlib.Data.List.Nodup
import Mathlib.Data.List.Perm.Subperm
import Reidentify.Proofs.Artifact.Occurrence

/-!
# Walks along superclasses

A search for a member walks from a class to its superclass until a class declares the member. The
names on the way are values of the document, and a list or an object among them cannot be looked
up. The search fails iff its walk strands at such a value. This needs that a walk that strands
passes no class twice: a circle never strands, and a search has fuel for every class once.

## Main definitions

* `Artifact.Walks`: the classes between the start of a search and a name that it comes to.
* `Artifact.Strands`: a search comes to a name that cannot be looked up.
* `Artifact.Traceable`: every name that a search can come to can be looked up.

## Main statements

* `Artifact.nearest_eq_error_iff`: a search fails iff it strands.
* `Artifact.fieldOf_eq_error_iff`, `Artifact.methodOf_eq_error_iff`: so does the search for the
  member of an instruction.
* `Artifact.Traceable.not_strands`: no search strands where every name can be looked up.
-/

namespace Reidentify

namespace Artifact

/-- The classes `decls` that a search walks over, from its start `owner` to a name `last` that it
comes to. None of them declares what is searched for: `declares decl = none`. -/
inductive Walks {α : Type} (artifact : Artifact) (declares : ClassDecl → Option α) :
    Value → List ClassDecl → Value → Prop
  /-- The search starts at the name `owner`, before any class. -/
  | here (owner : Value) : Walks artifact declares owner [] owner
  /-- The search passes the class `decl` and goes on from the name of its superclass,
  `decl.superName`. -/
  | up {owner decl decls last} (hdecl : artifact.classNamed owner = .ok (some decl))
      (htrue : owner.isTruthy = true) (hnone : declares decl = none)
      (h : Walks artifact declares decl.superName decls last) :
      Walks artifact declares owner (decl :: decls) last

/-- A search from `owner` comes to a name `last` that counts as true and cannot be looked up
(`isIndexable`). -/
def Strands {α : Type} (artifact : Artifact) (declares : ClassDecl → Option α) (owner : Value) :
    Prop :=
  ∃ decls last, artifact.Walks declares owner decls last ∧ last.isTruthy = true ∧
    last.isIndexable = false

variable {α : Type} {artifact : Artifact} {declares : ClassDecl → Option α} {fuel : Nat}
  {passed : List String} {owner last : Value} {decl : ClassDecl} {decls others : List ClassDecl}
  {fault : Fault}

/-- A class that `classNamed` finds by a value is found by its name, and the value is
`.str decl.name`. -/
theorem eq_str_of_classNamed (h : artifact.classNamed owner = .ok (some decl)) :
    owner = .str decl.name := by
  unfold classNamed at h
  split at h
  · obtain ⟨text, htext, hfound⟩ := Option.bind_eq_some_iff.1 (Except.ok.inj h)
    have hname : decl.name = text := by simpa using List.find?_some hfound
    cases owner with
    | str given =>
      cases htext
      rw [hname]
    | _ => cases htext
  · cases h

namespace Walks

/-- Every class on a walk is the one that its `name` stands for. -/
theorem classNamed_of_mem (h : artifact.Walks declares owner decls last) (hmem : decl ∈ decls) :
    artifact.classNamed (.str decl.name) = .ok (some decl) := by
  -- by induction on the walk; the class that was found first is found by its own name
  induction h with
  | here => cases hmem
  | up hdecl _ _ _ ih =>
    rcases List.mem_cons.1 hmem with rfl | hmem
    · rw [← eq_str_of_classNamed hdecl, hdecl]
    · exact ih hmem

/-- From every class on a walk the `rest` of the walk goes on, which has fewer classes. -/
theorem exists_rest (h : artifact.Walks declares owner decls last) (hmem : decl ∈ decls) :
    ∃ rest, artifact.Walks declares decl.superName rest last ∧ rest.length < decls.length := by
  induction h with
  | here => cases hmem
  | @up _ _ decls _ _ _ _ h ih =>
    rcases List.mem_cons.1 hmem with rfl | hmem
    · exact ⟨decls, h, by simp⟩
    · obtain ⟨rest, hrest, hlength⟩ := ih hmem
      refine ⟨rest, hrest, ?_⟩
      rw [List.length_cons]
      omega

/-- There is only one walk from `owner` to a name `last` where the search strands. -/
theorem unique (h : artifact.Walks declares owner decls last)
    (h' : artifact.Walks declares owner others last) (hlast : last.isIndexable = false) :
    decls = others := by
  -- nothing is found by the last name, so no walk goes on from there
  have hend (decl : ClassDecl) : artifact.classNamed last ≠ .ok (some decl) := by
    simp [classNamed, hlast]
  induction h generalizing others with
  | here =>
    cases h' with
    | here => rfl
    | up hdecl => exact absurd hdecl (hend _)
  | up hdecl _ _ _ ih =>
    cases h' with
    | here => exact absurd hdecl (hend _)
    | up hdecl' _ _ h' =>
      rw [hdecl] at hdecl'
      cases hdecl'
      rw [ih h' hlast hend]

/-- A walk that strands passes no name twice, since a circle has no end. -/
theorem nodup_names (h : artifact.Walks declares owner decls last)
    (hlast : last.isIndexable = false) : (decls.map (·.name)).Nodup := by
  induction h with
  | here => simp
  | @up _ decl decls _ hdecl _ _ h ih =>
    rw [List.map_cons, List.nodup_cons]
    refine ⟨fun hmem => ?_, ih hlast⟩
    -- the name would stand for the same class, from which the walk goes on with fewer steps
    obtain ⟨other, hother, hname⟩ := List.mem_map.1 hmem
    have hsame := h.classNamed_of_mem hother
    rw [hname, ← eq_str_of_classNamed hdecl, hdecl] at hsame
    cases hsame
    obtain ⟨rest, hrest, hlength⟩ := h.exists_rest hother
    rw [hrest.unique h hlast] at hlength
    exact Nat.lt_irrefl _ hlength

/-- A walk that strands has no more classes `decls` than the `artifact` has. -/
theorem length_le (h : artifact.Walks declares owner decls last)
    (hlast : last.isIndexable = false) : decls.length ≤ artifact.classes.length := by
  -- distinct classes of the artifact, so they are not more than it has
  have hsubset : decls ⊆ artifact.classes := fun _ hmem =>
    mem_of_classNamed (h.classNamed_of_mem hmem)
  exact ((List.Nodup.of_map _ (h.nodup_names hlast)).subperm hsubset).length_le

/-- The search `searchChain` fails at the end of a walk that strands, if it has `fuel` for the walk
and none of the classes is among the `passed` ones. -/
theorem searchChain_eq_error (h : artifact.Walks declares owner decls last)
    (htrue : last.isTruthy = true) (hlast : last.isIndexable = false)
    (hfuel : decls.length < fuel) (hpassed : ∀ decl ∈ decls, decl.name ∉ passed) :
    artifact.searchChain declares fuel passed owner = .error .wrongType := by
  have hnodup := h.nodup_names hlast
  induction h generalizing fuel passed with
  | here =>
    obtain ⟨fuel, rfl⟩ := Nat.exists_eq_succ_of_ne_zero (Nat.ne_of_gt hfuel)
    simp [searchChain, htrue, classNamed, hlast]
  | @up _ decl decls _ hdecl howner hnone _ ih =>
    obtain ⟨fuel, rfl⟩ := Nat.exists_eq_succ_of_ne_zero (Nat.ne_of_gt (Nat.zero_lt_of_lt hfuel))
    obtain ⟨hfirst, hrest⟩ := List.forall_mem_cons.1 hpassed
    rw [List.map_cons, List.nodup_cons] at hnodup
    simp only [searchChain, howner, hdecl, hnone, List.contains_eq_mem, hfirst, Bool.not_true,
      decide_false, Bool.false_eq_true, if_false]
    -- the rest of the walk avoids the name that has just been passed, too
    refine ih htrue hlast (by simpa using hfuel) (fun other hother => ?_) hnodup.2
    rw [List.mem_cons, not_or]
    refine ⟨fun hname => hnodup.1 ?_, hrest other hother⟩
    exact hname ▸ List.mem_map_of_mem hother

end Walks

/-- Where the search `searchChain` fails, its walk has stranded (`Strands`). -/
theorem strands_of_searchChain
    (h : artifact.searchChain declares fuel passed owner = .error fault) :
    artifact.Strands declares owner := by
  induction fuel generalizing passed owner with
  | zero => cases h
  | succ fuel ih =>
    unfold searchChain at h
    split at h
    · cases h
    · next hnot =>
      have htrue : owner.isTruthy = true := by simpa using hnot
      split at h
      · next hdecl =>
        unfold classNamed at hdecl
        split at hdecl
        · cases hdecl
        · next hindexable => exact ⟨[], owner, .here owner, htrue, by simpa using hindexable⟩
      · cases h
      · next hdecl =>
        split at h
        · cases h
        · split at h
          · cases h
          · next hnone =>
            obtain ⟨decls, last, hwalk, hlast⟩ := ih h
            exact ⟨_, last, .up hdecl htrue hnone hwalk, hlast⟩

/-- The search `nearest` fails iff its walk `Strands`, and it has no other fault than `wrongType`.
-/
theorem nearest_eq_error_iff : artifact.nearest declares owner = .error fault ↔
    fault = .wrongType ∧ artifact.Strands declares owner := by
  constructor
  · exact fun h => ⟨eq_wrongType_of_searchChain h, strands_of_searchChain h⟩
  · rintro ⟨rfl, decls, last, hwalk, htrue, hlast⟩
    refine hwalk.searchChain_eq_error htrue hlast ?_ fun _ _ => List.not_mem_nil
    have hlength := hwalk.length_le hlast
    omega

/-- The search `fieldOf` fails iff the operation accesses a field and the walk for the field
`Strands`. -/
theorem fieldOf_eq_error_iff {insn : Instruction} : artifact.fieldOf insn = .error fault ↔
    fault = .wrongType ∧ insn.isField = true ∧
      artifact.Strands (·.findField insn.field.name insn.field.descriptor) insn.field.owner := by
  unfold fieldOf
  split
  · next hfield => simp [nearest_eq_error_iff, hfield]
  · next hfield => simp [hfield]

/-- The search `methodOf` fails iff the operation is a call and the walk for the method `Strands`.
-/
theorem methodOf_eq_error_iff {insn : Instruction} : artifact.methodOf insn = .error fault ↔
    fault = .wrongType ∧ insn.isCall = true ∧
      artifact.Strands (·.findMethod insn.callee.name insn.callee.descriptor)
        insn.callee.owner := by
  unfold methodOf
  split
  · next hcall => simp [nearest_eq_error_iff, hcall]
  · next hcall => simp [hcall]

/-- No walk `Strands` if its start `owner` and the names of all superclasses can be looked up. -/
theorem not_strands_of_isIndexable
    (hsupers : ∀ decl ∈ artifact.classes, decl.superName.isIndexable = true)
    (howner : owner.isTruthy = true → owner.isIndexable = true) :
    ¬artifact.Strands declares owner := by
  rintro ⟨decls, last, hwalk, htrue, hlast⟩
  -- the name that the walk ends at is its start or the name of a superclass
  induction hwalk with
  | here => simp [howner htrue] at hlast
  | up hdecl _ _ _ ih => exact ih (fun _ => hsupers _ (mem_of_classNamed hdecl)) htrue hlast

/-- Every name that a search in the `artifact` can come to can be looked up: no class is below a
list or an object, and no reference counts as true and has one for its owner. -/
structure Traceable (artifact : Artifact) : Prop where
  /-- The names `superName` of the superclasses can be looked up. -/
  supers : ∀ decl ∈ artifact.classes, decl.superName.isIndexable = true
  /-- So can the owners in the references `field` and `callee` of the instructions, if they count as
  true. -/
  owners : ∀ insn, artifact.Holds (.ofInstruction insn) →
    (insn.field.owner.isTruthy = true → insn.field.owner.isIndexable = true) ∧
      (insn.callee.owner.isTruthy = true → insn.callee.owner.isIndexable = true)

/-- In a `Traceable` artifact no walk `Strands` that starts at a name that can be looked up. -/
theorem Traceable.not_strands (h : artifact.Traceable)
    (howner : owner.isTruthy = true → owner.isIndexable = true) :
    ¬artifact.Strands declares owner :=
  not_strands_of_isIndexable h.supers howner

end Artifact

end Reidentify

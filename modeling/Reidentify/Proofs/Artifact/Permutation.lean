import Reidentify.Proofs.Artifact.Occurrence
import Reidentify.Proofs.Text.Names

/-!
# Artifacts with their classes in another order

No two classes of a document may have the same name, so a class is found by its name wherever it
stands. The search along superclasses goes from name to name, and its fuel is the number of classes;
so it does not depend on the order of the classes either.

## Main definitions

* `Artifact.Rearranges`: two artifacts have the same classes, each under a name of its own.

## Main statements

* `Artifact.nodup_names_of_ofValue`: the classes of a document have distinct names.
* `Artifact.Rearranges.fieldOf_eq`, `Artifact.Rearranges.methodOf_eq`: instructions refer to the
  same members.
-/

namespace Reidentify

namespace Artifact

variable {artifact artifact' : Artifact}

/-- The classes of an `artifact` that was read from a document have distinct names. -/
theorem nodup_names_of_ofValue {document : Value} (h : ofValue document = .ok artifact) :
    (artifact.classes.map (·.name)).Nodup := by
  obtain ⟨_, -, hartifact⟩ := ofValue_eq_ok_iff.1 h
  exact hartifact.nodup

/-- Two artifacts have the same classes, in any order, and each class has a name of its own. -/
structure Rearranges (artifact artifact' : Artifact) : Prop where
  /-- No two classes have the same name. -/
  nodup : (artifact.classes.map (·.name)).Nodup
  /-- The classes of `artifact'` are a permutation of those of `artifact`. -/
  perm : artifact.classes.Perm artifact'.classes
  /-- The artifacts are of the same revision. -/
  revision_eq : artifact'.revision = artifact.revision

/-- Searches along superclasses end in the same way if `classNamed` finds the same classes by every
value. -/
theorem searchChain_congr {α : Type}
    (h : ∀ name, artifact'.classNamed name = artifact.classNamed name)
    (declares : ClassDecl → Option α) (fuel : Nat) (passed : List String) (owner : Value) :
    searchChain artifact' declares fuel passed owner =
      searchChain artifact declares fuel passed owner := by
  induction fuel generalizing passed owner with
  | zero => rfl
  | succ fuel ih => simp only [searchChain, h, ih]

namespace Rearranges

/-- In a rearranged artifact `classNamed` finds the same class by a value. -/
theorem classNamed_eq (h : artifact.Rearranges artifact') (name : Value) :
    artifact'.classNamed name = artifact.classNamed name := by
  have hnodup : (artifact'.classes.map (·.name)).Nodup :=
    (h.perm.map (·.name)).nodup_iff.1 h.nodup
  have hfind : artifact'.findClass? = artifact.findClass? := by
    funext name
    rw [findClass?_eq_find? hnodup, findClass?_eq_find? h.nodup]
    exact (Text.find?_eq_of_perm h.nodup h.perm name).symm
  unfold classNamed
  rw [hfind]

/-- In a rearranged artifact the `nearest` class that declares a member is the same. -/
theorem nearest_eq {α : Type} (h : artifact.Rearranges artifact') (declares : ClassDecl → Option α)
    (owner : Value) : artifact'.nearest declares owner = artifact.nearest declares owner := by
  unfold nearest
  rw [h.perm.length_eq, searchChain_congr h.classNamed_eq]

/-- In a rearranged artifact (`Rearranges`) the instruction `insn` refers to the same field. -/
theorem fieldOf_eq (h : artifact.Rearranges artifact') (insn : Instruction) :
    artifact'.fieldOf insn = artifact.fieldOf insn := by
  unfold fieldOf
  rw [h.nearest_eq]

/-- In a rearranged artifact (`Rearranges`) the instruction `insn` calls the same method. -/
theorem methodOf_eq (h : artifact.Rearranges artifact') (insn : Instruction) :
    artifact'.methodOf insn = artifact.methodOf insn := by
  unfold methodOf
  rw [h.nearest_eq]

end Rearranges

end Artifact

end Reidentify

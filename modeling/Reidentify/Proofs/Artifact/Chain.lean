import Reidentify.Artifact.Lookup
import Reidentify.Proofs.Text.Names

/-!
# The chain of superclasses

Whatever is found on a chain of superclasses is declared by a class of the artifact. A search can
only go wrong where a class is to be looked up by something that cannot be looked up.

## Main statements

* `Artifact.exists_of_searchChain`: a member that is found is declared by some class.
* `Artifact.eq_wrongType_of_searchChain`: the only fault of a search.
-/

namespace Reidentify.Artifact

variable {α : Type} {artifact : Artifact} {declares : ClassDecl → Option α} {fuel : Nat}
  {passed : List String} {owner : Value} {decl : ClassDecl} {found : α} {fault : Fault}

/-- If no two classes share a `name`, the last class of the name, which `findClass?` looks for, is
the first one as well. -/
theorem findClass?_eq_find? (hnodup : (artifact.classes.map (·.name)).Nodup) (name : String) :
    artifact.findClass? name = artifact.classes.find? (·.name == name) :=
  (Text.find?_eq_of_perm hnodup (List.reverse_perm _).symm name).symm

/-- If no two classes share a name, `findClass?` finds every class of the artifact by its `name`. -/
theorem findClass?_eq_some_iff (hnodup : (artifact.classes.map (·.name)).Nodup) {name : String} :
    artifact.findClass? name = some decl ↔ decl ∈ artifact.classes ∧ decl.name = name := by
  rw [findClass?_eq_find? hnodup]
  exact Text.find?_eq_some_iff_of_nodup hnodup

/-- A class that `classNamed` looks up by an `owner` is one of the artifact. -/
theorem mem_of_classNamed (h : artifact.classNamed owner = .ok (some decl)) :
    decl ∈ artifact.classes := by
  unfold classNamed at h
  split at h
  · obtain ⟨name, -, hname⟩ := Option.bind_eq_some_iff.1 (Except.ok.inj h)
    exact List.mem_reverse.1 (List.mem_of_find?_eq_some hname)
  · cases h

/-- The only `fault` of `classNamed` is `wrongType`, for a value that cannot be looked up. -/
theorem eq_wrongType_of_classNamed (h : artifact.classNamed owner = .error fault) :
    fault = .wrongType := by
  unfold classNamed at h
  split at h
  · cases h
  · cases h
    rfl

/-- A member that `searchChain` has `found` is declared by some class of the artifact. -/
theorem exists_of_searchChain
    (h : artifact.searchChain declares fuel passed owner = .ok (some found)) :
    ∃ decl ∈ artifact.classes, declares decl = some found := by
  -- by induction on the fuel, following `searchChain`: the class declares the member, or one above
  -- it does
  induction fuel generalizing passed owner with
  | zero => cases h
  | succ fuel ih =>
    unfold searchChain at h
    split at h
    · cases h
    · split at h
      · cases h
      · cases h
      · next decl hdecl =>
        split at h
        · cases h
        · split at h
          · next hfound =>
            cases h
            exact ⟨decl, mem_of_classNamed hdecl, hfound⟩
          · exact ih h

/-- The only `fault` of `searchChain` is `wrongType`, for a name that cannot be looked up. -/
theorem eq_wrongType_of_searchChain
    (h : artifact.searchChain declares fuel passed owner = .error fault) :
    fault = .wrongType := by
  induction fuel generalizing passed owner with
  | zero => cases h
  | succ fuel ih =>
    unfold searchChain at h
    split at h
    · cases h
    · split at h
      · next hdecl =>
        cases h
        exact eq_wrongType_of_classNamed hdecl
      · cases h
      · split at h
        · cases h
        · split at h
          · cases h
          · exact ih h

/-- The `field` that `fieldOf` finds for an instruction is declared by a class of the artifact. -/
theorem exists_of_fieldOf {insn : Instruction} {field : FieldDecl}
    (h : artifact.fieldOf insn = .ok (some field)) :
    ∃ decl ∈ artifact.classes, field ∈ decl.fields := by
  unfold fieldOf at h
  split at h
  · obtain ⟨decl, hdecl, hfound⟩ := exists_of_searchChain h
    exact ⟨decl, hdecl, List.mem_of_find?_eq_some hfound⟩
  · cases h

/-- The `method` that `methodOf` finds for an instruction is declared by a class of the artifact. -/
theorem exists_of_methodOf {insn : Instruction} {method : MethodDecl}
    (h : artifact.methodOf insn = .ok (some method)) :
    ∃ decl ∈ artifact.classes, method ∈ decl.methods := by
  unfold methodOf at h
  split at h
  · obtain ⟨decl, hdecl, hfound⟩ := exists_of_searchChain h
    exact ⟨decl, hdecl, List.mem_of_find?_eq_some hfound⟩
  · cases h

/-- The only `fault` of `fieldOf` is `wrongType`, for a name that cannot be looked up. -/
theorem eq_wrongType_of_fieldOf {insn : Instruction} (h : artifact.fieldOf insn = .error fault) :
    fault = .wrongType := by
  unfold fieldOf at h
  split at h
  · exact eq_wrongType_of_searchChain h
  · cases h

/-- The only `fault` of `methodOf` is `wrongType`, for a name that cannot be looked up. -/
theorem eq_wrongType_of_methodOf {insn : Instruction} (h : artifact.methodOf insn = .error fault) :
    fault = .wrongType := by
  unfold methodOf at h
  split at h
  · exact eq_wrongType_of_searchChain h
  · cases h

end Reidentify.Artifact

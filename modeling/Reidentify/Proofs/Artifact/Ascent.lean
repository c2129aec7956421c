import Mathlib.Data.List.Perm.Subperm
import Mathlib.Data.Nat.Find
import Reidentify.Proofs.Artifact.Chain
import Reidentify.Proofs.Text.Names

/-!
# The nearest declaration

From a class one can walk to its superclass, from there to the next one, and so on. The walk ends
where a name is empty or no class has it, and where the superclasses run in a circle it never ends.
The search for a member looks at the classes of this walk until one of them declares the member. It
remembers the names that it has passed and gives up at the first one that comes again. This module
shows that the search always ends, and that nothing is lost by giving up there: what is found is
what the nearest class of the whole walk declares.

## Main definitions

* `Artifact.Ascends`: the class at a step of the walk, which may go on forever.
* `Artifact.Halts`: how a search that remembers the names it has passed ends, and after how many
  rounds.
* `Artifact.FindsNearest`: a search ends with what the nearest class of the walk declares.

## Main statements

* `Artifact.exists_halts`: every search ends after passing each class at most once.
* `Artifact.Ascends.distinct_of_first`: the walk repeats no name up to its first class of a kind.
* `Artifact.exists_findsNearest`: a search ends with the nearest declaration.
* `Artifact.fieldOf_methodOf_findsNearest`: so do the searches for the members of instructions.
-/

namespace Reidentify

namespace Artifact

/-- The `ClassDecl` at a step of the walk that starts at a name. The walk goes on from a class to
the one that is named as its superclass; it ends where a name is empty or no class has it. -/
inductive Ascends (artifact : Artifact) : String → ℕ → ClassDecl → Prop
  /-- The walk starts at the class of its name, at step 0. -/
  | start {decl} (hdecl : decl ∈ artifact.classes) (hname : decl.name ≠ "") :
    Ascends artifact decl.name 0 decl
  /-- It goes on from `decl` to the class `above` that is its superclass. -/
  | up {owner step decl above} (h : Ascends artifact owner step decl)
    (hsuper : decl.superName = .str above.name) (habove : above ∈ artifact.classes)
    (hname : above.name ≠ "") : Ascends artifact owner (step + 1) above

/-- How a search ends that remembers the names it has passed, and after how many rounds. There is no
bound on the rounds here: a search that goes on forever ends in no way. -/
inductive Halts {α : Type} (artifact : Artifact) (declares : ClassDecl → Option α) :
    List String → String → ℕ → Option α → Prop
  /-- The name is empty, and nothing is found. -/
  | empty (passed : List String) : Halts artifact declares passed "" 0 none
  /-- The name `owner` has been `passed` before, and nothing is found. -/
  | repeated {passed owner} (h : owner ∈ passed) : Halts artifact declares passed owner 0 none
  /-- No class has the name `owner`, and nothing is found. -/
  | unknown {passed owner} (hname : owner ≠ "") (hfresh : owner ∉ passed)
    (h : ∀ decl ∈ artifact.classes, decl.name ≠ owner) : Halts artifact declares passed owner 1 none
  /-- The class of the name declares what is searched for, which is `found`. -/
  | declared {passed decl found} (hdecl : decl ∈ artifact.classes) (hname : decl.name ≠ "")
    (hfresh : decl.name ∉ passed) (h : declares decl = some found) :
    Halts artifact declares passed decl.name 1 (some found)
  /-- The class does not declare it, and the search goes on from the name `above` of the superclass.
  -/
  | inherited {passed decl above rounds result} (hdecl : decl ∈ artifact.classes)
    (hname : decl.name ≠ "") (hfresh : decl.name ∉ passed) (hnone : declares decl = none)
    (hsuper : decl.superName = .str above)
    (h : Halts artifact declares (decl.name :: passed) above rounds result) :
    Halts artifact declares passed decl.name (rounds + 1) result

variable {α : Type} {artifact : Artifact} {declares : ClassDecl → Option α} {passed : List String}
  {owner above : String} {step rounds : ℕ} {decl other : ClassDecl} {result : Option α} {found : α}

section Walk

namespace Ascends

/-- The walk from the class `decl` is the walk from its superclass, one step later. -/
theorem cons (hdecl : decl ∈ artifact.classes) (hname : decl.name ≠ "")
    (hsuper : decl.superName = .str above) (h : artifact.Ascends above step other) :
    artifact.Ascends decl.name (step + 1) other := by
  induction h with
  | start hother hother_name => exact .up (.start hdecl hname) hsuper hother hother_name
  | up _ hsuper' habove hname' ih => exact .up (ih hsuper) hsuper' habove hname'

/-- A walk that has gone on started at a class and went on from its superclass. -/
theorem exists_first (h : artifact.Ascends owner (step + 1) other) :
    ∃ first above, first ∈ artifact.classes ∧ first.name = owner ∧ owner ≠ "" ∧
      first.superName = .str above ∧ artifact.Ascends above step other := by
  induction step generalizing other with
  | zero =>
    cases h with
    | up h hsuper habove hname =>
      cases h with
      | start hdecl hfirst => exact ⟨_, _, hdecl, rfl, hfirst, hsuper, .start habove hname⟩
  | succ step ih =>
    cases h with
    | up h hsuper habove hname =>
      obtain ⟨first, next, hfirst, howner, hne, hnext, hrest⟩ := ih h
      exact ⟨first, next, hfirst, howner, hne, hnext, .up hrest hsuper habove hname⟩

/-- Every class `decl` that a walk comes to is one of the artifact's `classes`. -/
theorem mem_classes (h : artifact.Ascends owner step decl) : decl ∈ artifact.classes := by
  cases h with
  | start hdecl => exact hdecl
  | up _ _ hdecl => exact hdecl

/-- There is only one class at each `step` of a walk, if the classes have distinct names. -/
theorem unique (hnodup : (artifact.classes.map (·.name)).Nodup)
    (h : artifact.Ascends owner step decl) (h' : artifact.Ascends owner step other) :
    decl = other := by
  induction step generalizing decl other with
  | zero =>
    cases h with
    | start hdecl =>
      generalize hname : decl.name = name at h'
      cases h' with
      | start hother => exact List.inj_on_of_nodup_map hnodup hdecl hother hname
  | succ step ih =>
    cases h with
    | up h hsuper hdecl =>
      cases h' with
      | up h' hsuper' hother =>
        -- the classes below are the same, so they name the same superclass
        obtain rfl := ih h h'
        have hname := Value.str.inj (hsuper.symm.trans hsuper')
        exact List.inj_on_of_nodup_map hnodup hdecl hother hname

/-- Where a walk comes to the same class again, at the steps `i` and `j`, it goes on as before. -/
theorem shift (hnodup : (artifact.classes.map (·.name)).Nodup) {i j k : ℕ}
    (hi : artifact.Ascends owner i decl) (hj : artifact.Ascends owner j decl)
    (h : artifact.Ascends owner (j + k) other) : artifact.Ascends owner (i + k) other := by
  -- by induction on how far the walk goes on from there
  induction k generalizing other with
  | zero =>
    obtain rfl := hj.unique hnodup h
    exact hi
  | succ k ih =>
    cases h with
    | up h hsuper habove hname => exact .up (ih h) hsuper habove hname

/-- The names on the walk from `owner` are distinct up to a `step`. -/
def DistinctUpTo (artifact : Artifact) (owner : String) (step : ℕ) : Prop :=
  ∀ i j decl other, i < j → j ≤ step → artifact.Ascends owner i decl →
    artifact.Ascends owner j other → decl.name ≠ other.name

/-- Up to the first class of a `kind` no name comes twice on a walk. -/
theorem distinct_of_first (hnodup : (artifact.classes.map (·.name)).Nodup)
    (kind : ClassDecl → Prop) (h : artifact.Ascends owner step decl) (hkind : kind decl)
    (hfirst : ∀ earlier < step, ∀ other, artifact.Ascends owner earlier other → ¬kind other) :
    DistinctUpTo artifact owner step := by
  intro i j lower upper hij hj hlower hupper hname
  -- the walk would go on from the earlier step as it does from the later one
  obtain rfl := List.inj_on_of_nodup_map hnodup hlower.mem_classes hupper.mem_classes hname
  obtain ⟨k, rfl⟩ := Nat.exists_eq_add_of_le hj
  exact hfirst (i + k) (by omega) decl (hlower.shift hnodup hupper h) hkind

/-- A class `decl` on a walk is met before any name comes a second time. -/
theorem exists_distinct (hnodup : (artifact.classes.map (·.name)).Nodup)
    (h : artifact.Ascends owner step decl) :
    ∃ earlier ≤ step, artifact.Ascends owner earlier decl ∧
      DistinctUpTo artifact owner earlier := by
  classical
  have hex : ∃ step, artifact.Ascends owner step decl := ⟨step, h⟩
  -- take the first time that the class is met
  refine ⟨Nat.find hex, Nat.find_min' hex h, Nat.find_spec hex, ?_⟩
  apply distinct_of_first hnodup (· = decl) (Nat.find_spec hex) rfl
  rintro earlier hearlier _ hmet rfl
  exact Nat.find_min hex hearlier hmet

end Ascends

end Walk

section Search

/-- Every search ends: it passes no class twice, and at most one name that no class has. With the
`passed` names the rounds are at most one more than the classes. -/
theorem exists_halts (hsupers : ∀ decl ∈ artifact.classes, ∃ above, decl.superName = .str above)
    (declares : ClassDecl → Option α) (hdistinct : passed.Nodup)
    (hpassed : passed ⊆ artifact.classes.map (·.name)) (owner : String) :
    ∃ rounds result, artifact.Halts declares passed owner rounds result ∧
      rounds + passed.length ≤ artifact.classes.length + 1 := by
  -- the induction is on the number of classes that have not been passed yet
  induction hleft : artifact.classes.length - passed.length using Nat.strong_induction_on
    generalizing passed owner with
  | _ left ih =>
    have hlength : passed.length ≤ artifact.classes.length := by
      simpa using (hdistinct.subperm hpassed).length_le
    by_cases hempty : owner = ""
    · subst hempty
      exact ⟨0, none, .empty passed, by omega⟩
    by_cases hrepeated : owner ∈ passed
    · exact ⟨0, none, .repeated hrepeated, by omega⟩
    by_cases hknown : ∃ decl ∈ artifact.classes, decl.name = owner
    · obtain ⟨decl, hdecl, rfl⟩ := hknown
      have hsubset : decl.name :: passed ⊆ artifact.classes.map (·.name) :=
        List.cons_subset.2 ⟨List.mem_map_of_mem hdecl, hpassed⟩
      have hnodup : (decl.name :: passed).Nodup := List.nodup_cons.2 ⟨hrepeated, hdistinct⟩
      have hmore : passed.length + 1 ≤ artifact.classes.length := by
        simpa using (hnodup.subperm hsubset).length_le
      cases hdeclares : declares decl with
      | some found => exact ⟨1, some found, .declared hdecl hempty hrepeated hdeclares, by omega⟩
      | none =>
        obtain ⟨above, hsuper⟩ := hsupers decl hdecl
        obtain ⟨rounds, result, hhalts, hrounds⟩ :=
          ih (artifact.classes.length - (passed.length + 1)) (by omega) hnodup hsubset above rfl
        rw [List.length_cons] at hrounds
        exact ⟨rounds + 1, result, .inherited hdecl hempty hrepeated hdeclares hsuper hhalts,
          by omega⟩
    · refine ⟨1, none, .unknown hempty hrepeated ?_, by omega⟩
      intro decl hdecl hname
      exact hknown ⟨decl, hdecl, hname⟩

theorem classNamed_str (artifact : Artifact) (name : String) :
    artifact.classNamed (.str name) = .ok (artifact.findClass? name) := rfl

/-- If a search `Halts` after some `rounds`, `searchChain` with fuel for all of them has the same
`result`. -/
theorem Halts.searchChain_eq (hnodup : (artifact.classes.map (·.name)).Nodup) {fuel : ℕ}
    (h : artifact.Halts declares passed owner rounds result) (hfuel : rounds ≤ fuel) :
    artifact.searchChain declares fuel passed (.str owner) = .ok result := by
  have htrue {name : String} (hname : name ≠ "") : (Value.str name).isTruthy = true := by
    simpa [Value.isTruthy] using hname
  have hfound (decl : ClassDecl) (hdecl : decl ∈ artifact.classes) :
      artifact.findClass? decl.name = some decl :=
    (findClass?_eq_some_iff hnodup).2 ⟨hdecl, rfl⟩
  -- the induction is on how the search ends; each round takes one unit of the fuel
  induction h generalizing fuel with
  | empty passed => cases fuel <;> simp [searchChain, Value.isTruthy]
  | @repeated passed owner h =>
    cases fuel with
    | zero => rfl
    | succ fuel =>
      rw [searchChain, classNamed_str]
      cases hdecl : artifact.findClass? owner with
      | none => simp
      | some decl =>
        obtain ⟨-, rfl⟩ := (findClass?_eq_some_iff hnodup).1 hdecl
        simp [h]
  | @unknown passed owner hname hfresh h =>
    obtain ⟨fuel, rfl⟩ := Nat.exists_eq_succ_of_ne_zero (Nat.ne_of_gt hfuel)
    have hnone : artifact.findClass? owner = none := by
      simpa [findClass?] using h
    simp [searchChain, classNamed_str, hnone]
  | declared hdecl hname hfresh h =>
    obtain ⟨fuel, rfl⟩ := Nat.exists_eq_succ_of_ne_zero (Nat.ne_of_gt hfuel)
    simp [searchChain, classNamed_str, htrue hname, hfound _ hdecl, hfresh, h]
  | inherited hdecl hname hfresh hnone hsuper _ ih =>
    obtain ⟨fuel, rfl⟩ := Nat.exists_eq_succ_of_ne_zero (Nat.ne_of_gt (Nat.zero_lt_of_lt hfuel))
    simp [searchChain, classNamed_str, htrue hname, hfound _ hdecl, hfresh, hnone, hsuper,
      ih (Nat.le_of_succ_le_succ hfuel)]

/-- A search that `Halts` ends in one way only, if the classes have distinct names. -/
theorem Halts.unique (hnodup : (artifact.classes.map (·.name)).Nodup) {rounds' : ℕ}
    {result' : Option α} (h : artifact.Halts declares passed owner rounds result)
    (h' : artifact.Halts declares passed owner rounds' result') : result = result' := by
  have hsame := h.searchChain_eq hnodup (Nat.le_max_left rounds rounds')
  rw [h'.searchChain_eq hnodup (Nat.le_max_right rounds rounds')] at hsame
  exact (Except.ok.inj hsame).symm

/-- What a search has `found` is declared by the first class of the walk that declares it at all. -/
theorem Halts.exists_first (hnodup : (artifact.classes.map (·.name)).Nodup)
    (h : artifact.Halts declares passed owner rounds (some found)) :
    ∃ step decl, artifact.Ascends owner step decl ∧ declares decl = some found ∧
      ∀ earlier < step, ∀ other, artifact.Ascends owner earlier other → declares other = none := by
  generalize hresult : some found = result at h
  -- by induction on how the search ends; a class that is passed over is one step of the walk
  induction h with
  | empty | repeated | unknown => cases hresult
  | declared hdecl hname _ hfound =>
    cases hresult
    exact ⟨0, _, .start hdecl hname, hfound, fun _ hearlier => absurd hearlier (Nat.not_lt_zero _)⟩
  | inherited hdecl hname _ hnone hsuper _ ih =>
    obtain ⟨step, below, hwalk, hfound, hfirst⟩ := ih hresult
    refine ⟨step + 1, below, .cons hdecl hname hsuper hwalk, hfound, ?_⟩
    intro earlier hearlier other hother
    cases earlier with
    | zero =>
      -- the walk starts at the class that has just been passed
      obtain rfl := hother.unique hnodup (.start hdecl hname)
      exact hnone
    | succ earlier =>
      obtain ⟨first, next, hfirstmem, hsame, -, hnext, hrest⟩ := hother.exists_first
      obtain rfl := List.inj_on_of_nodup_map hnodup hfirstmem hdecl hsame
      obtain rfl := Value.str.inj (hsuper.symm.trans hnext)
      exact hfirst earlier (by omega) other hrest

/-- A search `Halts` at the first class of the walk that declares what is searched for, if it has
not passed any name of the walk before. -/
theorem Ascends.halts (h : artifact.Ascends owner step decl) (hfound : declares decl = some found)
    (hfirst : ∀ earlier < step, ∀ other, artifact.Ascends owner earlier other →
      declares other = none)
    (hdistinct : DistinctUpTo artifact owner step)
    (hfresh : ∀ earlier ≤ step, ∀ other, artifact.Ascends owner earlier other →
      other.name ∉ passed) :
    artifact.Halts declares passed owner (step + 1) (some found) := by
  -- by induction on the steps up to the class, which are the rounds of the search
  induction step generalizing owner passed with
  | zero =>
    cases h with
    | start hdecl hname =>
      exact .declared hdecl hname (hfresh 0 le_rfl decl (.start hdecl hname)) hfound
  | succ step ih =>
    obtain ⟨first, above, hmem, rfl, hname, hsuper, hrest⟩ := h.exists_first
    have hstart : artifact.Ascends first.name 0 first := .start hmem hname
    apply Halts.inherited hmem hname (hfresh 0 (Nat.zero_le _) first hstart)
      (hfirst 0 (Nat.succ_pos _) first hstart) hsuper
    -- every step of the rest is the next step of the whole walk
    apply ih hrest
    · intro earlier hearlier other hother
      exact hfirst (earlier + 1) (by omega) other (hother.cons hmem hname hsuper)
    · intro i j lower upper hij hj hlower hupper
      exact hdistinct (i + 1) (j + 1) lower upper (by omega) (by omega)
        (hlower.cons hmem hname hsuper) (hupper.cons hmem hname hsuper)
    · intro earlier hearlier other hother
      have hother := hother.cons hmem hname hsuper
      rw [List.mem_cons, not_or]
      exact ⟨(hdistinct 0 (earlier + 1) first other (by omega) (by omega) hstart hother).symm,
        hfresh (earlier + 1) (by omega) other hother⟩

/-- What a search that has passed nothing has `found` is what the first class of the walk declares
that declares it at all. -/
theorem Halts.eq_some_iff (hnodup : (artifact.classes.map (·.name)).Nodup)
    (h : artifact.Halts declares [] owner rounds result) :
    result = some found ↔
      ∃ step decl, artifact.Ascends owner step decl ∧ declares decl = some found ∧
        ∀ earlier < step, ∀ other, artifact.Ascends owner earlier other →
          declares other = none := by
  constructor
  · rintro rfl
    exact h.exists_first hnodup
  · rintro ⟨step, decl, hwalk, hfound, hfirst⟩
    have hdistinct : Ascends.DistinctUpTo artifact owner step := by
      apply Ascends.distinct_of_first hnodup (declares · ≠ none) hwalk (by simp [hfound])
      intro earlier hearlier other hother
      simp [hfirst earlier hearlier other hother]
    exact h.unique hnodup (hwalk.halts hfound hfirst hdistinct fun _ _ _ _ => List.not_mem_nil)

/-- A search that has passed nothing finds nothing iff no class of the whole walk declares what is
searched for. -/
theorem Halts.eq_none_iff (hnodup : (artifact.classes.map (·.name)).Nodup)
    (h : artifact.Halts declares [] owner rounds result) :
    result = none ↔ ∀ step decl, artifact.Ascends owner step decl → declares decl = none := by
  constructor
  · -- the first class of the walk that declares it would be where the search ends
    rintro rfl
    by_contra hex
    classical
    push Not at hex
    obtain ⟨decl, hwalk, hdeclared⟩ := Nat.find_spec hex
    obtain ⟨found, hfound⟩ := Option.ne_none_iff_exists'.1 hdeclared
    refine nomatch (h.eq_some_iff hnodup).2 ⟨Nat.find hex, decl, hwalk, hfound, ?_⟩
    intro earlier hearlier other hother
    by_contra hdeclared
    exact Nat.find_min hex hearlier ⟨other, hother, hdeclared⟩
  · intro hnone
    by_contra hfound
    obtain ⟨found, rfl⟩ := Option.ne_none_iff_exists'.1 hfound
    obtain ⟨step, decl, hwalk, hfound, -⟩ := h.exists_first hnodup
    rw [hnone step decl hwalk] at hfound
    cases hfound

end Search

section Nearest

/-- The `item` is the first one of a `kind` in a list. -/
def IsFirst {β : Type} (kind : β → Prop) (items : List β) (item : β) : Prop :=
  ∃ before after, items = before ++ item :: after ∧ kind item ∧ ∀ other ∈ before, ¬kind other

/-- A search that starts at the name `owner` ends, and it ends with the first of the `members` of a
`kind` in the nearest class of the walk that has one. -/
structure FindsNearest (artifact : Artifact) (declares : ClassDecl → Option α)
    (members : ClassDecl → List α) (kind : α → Prop) (owner : String) (result : Option α) :
    Prop where
  /-- The search ends after passing each class at most once, and one name that no class has. -/
  halts : ∃ rounds ≤ artifact.classes.length + 1,
    artifact.Halts declares [] owner rounds result
  /-- What is `found` is the first member of the `kind` in the nearest class that has one. -/
  found_iff : ∀ found, result = some found ↔
    ∃ step decl, artifact.Ascends owner step decl ∧ IsFirst kind (members decl) found ∧
      ∀ earlier < step, ∀ other, artifact.Ascends owner earlier other →
        ∀ member ∈ members other, ¬kind member
  /-- Nothing is found iff no class of the whole walk has a member of the `kind`. -/
  none_iff : result = none ↔
    ∀ step decl, artifact.Ascends owner step decl → ∀ member ∈ members decl, ¬kind member
  /-- Every class of the whole walk is met before any name comes a second time, so giving up there
  loses nothing. -/
  cut : ∀ step decl, artifact.Ascends owner step decl →
    ∃ earlier ≤ step, artifact.Ascends owner earlier decl ∧
      Ascends.DistinctUpTo artifact owner earlier

/-- The first item that passes a `test` is the first one of the `kind` that the test is for. -/
theorem find?_eq_some_iff_isFirst {β : Type} {test : β → Bool} {kind : β → Prop}
    (h : ∀ item, test item = true ↔ kind item) {items : List β} {item : β} :
    items.find? test = some item ↔ IsFirst kind items item := by
  rw [List.find?_eq_some_iff_append, IsFirst, h]
  simp only [Bool.not_eq_true', ← Bool.not_eq_true, h]
  exact ⟨fun ⟨hkind, before, after, hitems, hbefore⟩ => ⟨before, after, hitems, hkind, hbefore⟩,
    fun ⟨before, after, hitems, hkind, hbefore⟩ => ⟨hkind, before, after, hitems, hbefore⟩⟩

/-- A search ends with the nearest declaration (`FindsNearest`), if the classes have distinct names
and all of them name their superclasses. -/
theorem exists_findsNearest (hnodup : (artifact.classes.map (·.name)).Nodup)
    (hsupers : ∀ decl ∈ artifact.classes, ∃ above, decl.superName = .str above)
    {members : ClassDecl → List α} {test : α → Bool} {kind : α → Prop}
    (hdeclares : ∀ decl, declares decl = (members decl).find? test)
    (htest : ∀ member, test member = true ↔ kind member) (owner : String) :
    ∃ result, artifact.nearest declares (.str owner) = .ok result ∧
      artifact.FindsNearest declares members kind owner result := by
  have hsome (decl : ClassDecl) (found : α) :
      declares decl = some found ↔ IsFirst kind (members decl) found := by
    rw [hdeclares, find?_eq_some_iff_isFirst htest]
  have hnone (decl : ClassDecl) : declares decl = none ↔ ∀ member ∈ members decl, ¬kind member := by
    simp only [hdeclares, List.find?_eq_none, htest]
  obtain ⟨rounds, result, hhalts, hrounds⟩ :=
    exists_halts hsupers declares List.nodup_nil (List.nil_subset _) owner
  refine ⟨result, hhalts.searchChain_eq hnodup hrounds, {
    halts := ⟨rounds, hrounds, hhalts⟩
    found_iff := ?_
    none_iff := ?_
    cut := fun _ _ hwalk => hwalk.exists_distinct hnodup }⟩
  · intro found
    rw [hhalts.eq_some_iff hnodup]
    simp only [hsome, hnone]
  · rw [hhalts.eq_none_iff hnodup]
    simp only [hnone]

end Nearest

end Artifact

namespace MemberRef

/-- A `reference` means a `field`: it has the name of the field, and its descriptor if it has one.
-/
def MeansField (reference : MemberRef) (field : FieldDecl) : Prop :=
  reference.name = .str field.name ∧
    (reference.descriptor = .null ∨ reference.descriptor = .str field.descriptor)

/-- A `reference` means a `method`: it has the name and the descriptor of the method. -/
def MeansMethod (reference : MemberRef) (method : MethodDecl) : Prop :=
  reference.name = .str method.name ∧ reference.descriptor = .str method.descriptor

end MemberRef

namespace Artifact

variable {artifact : Artifact}

/-- The searches for the field and for the method of an instruction end, and they end with what the
nearest class of the whole walk along superclasses declares (`FindsNearest`): the first field or
method that the reference means. -/
theorem fieldOf_methodOf_findsNearest (hnodup : (artifact.classes.map (·.name)).Nodup)
    (hsupers : ∀ decl ∈ artifact.classes, ∃ above, decl.superName = .str above)
    (insn : Instruction) (owner : String) :
    (insn.isField = true → insn.field.owner = .str owner →
      ∃ result, artifact.fieldOf insn = .ok result ∧
        artifact.FindsNearest (·.findField insn.field.name insn.field.descriptor) (·.fields)
          insn.field.MeansField owner result) ∧
    (insn.isCall = true → insn.callee.owner = .str owner →
      ∃ result, artifact.methodOf insn = .ok result ∧
        artifact.FindsNearest (·.findMethod insn.callee.name insn.callee.descriptor) (·.methods)
          insn.callee.MeansMethod owner result) := by
  have hnull (value : Value) : value.isNull = true ↔ value = .null := by
    cases value <;> simp [Value.isNull]
  constructor
  · intro hfield howner
    rw [fieldOf, if_pos hfield, howner]
    apply exists_findsNearest hnodup hsupers (fun decl => rfl)
    intro field
    simp [MemberRef.MeansField, Value.str_equals, hnull]
  · intro hcall howner
    rw [methodOf, if_pos hcall, howner]
    apply exists_findsNearest hnodup hsupers (fun decl => rfl)
    intro method
    simp [MemberRef.MeansMethod, Value.str_equals]

section Example

/-- The class called `name` below the one called `above`, with some `fields`. -/
def below (name above : String) (fields : List FieldDecl) : ClassDecl :=
  ⟨name, .str above, [], 1, fields, []⟩

/-- A class `a` below two classes `b` and `c` that are each below the other. The nearer one `b`
declares two fields of the same name, and so does `c`. -/
def encircled : Artifact where
  classes := [below "a" "b" [], below "c" "b" [⟨"c", "f", "Z", 0⟩],
    below "b" "c" [⟨"b", "g", "I", 0⟩, ⟨"b", "f", "I", 0⟩, ⟨"b", "f", "J", 0⟩]]
  revision := ""

/-- An instruction that refers to the same member as a field and as a method, whichever of them its
`operation` means. -/
def referringTo (operation : Fin 256) (reference : MemberRef) : Instruction :=
  ⟨"a", "m", "()V", 0, .number operation, .null, .null, reference, reference, .null⟩

/-- Above the class of the instruction there is a circle in `encircled`. The field is found in the
nearest class of it, and the search for a method ends there without one. -/
theorem fieldOf_methodOf_findsNearest_encircled :
    let field : MemberRef := ⟨.str "a", .str "f", .null⟩
    let method : MemberRef := ⟨.str "a", .str "m", .str "()V"⟩
    (encircled.classes.map (·.name)).Nodup ∧
      (∀ decl ∈ encircled.classes, ∃ above, decl.superName = .str above) ∧
      encircled.FindsNearest (·.findField (.str "f") .null) (·.fields) field.MeansField "a"
        (some ⟨"b", "f", "I", 0⟩) ∧
      encircled.FindsNearest (·.findMethod (.str "m") (.str "()V")) (·.methods)
        method.MeansMethod "a" none := by
  intro field method
  have hnodup : (encircled.classes.map (·.name)).Nodup := by decide
  have hsupers : ∀ decl ∈ encircled.classes, ∃ above, decl.superName = .str above := by
    simp [encircled, below]
  refine ⟨hnodup, hsupers, ?_, ?_⟩
  · obtain ⟨result, hresult, hnearest⟩ :=
      (fieldOf_methodOf_findsNearest hnodup hsupers (referringTo 180 field) "a").1 rfl rfl
    have hfound : encircled.fieldOf (referringTo 180 field) = .ok (some ⟨"b", "f", "I", 0⟩) := by
      decide +kernel
    cases hresult.symm.trans hfound
    exact hnearest
  · obtain ⟨result, hresult, hnearest⟩ :=
      (fieldOf_methodOf_findsNearest hnodup hsupers (referringTo 182 method) "a").2 rfl rfl
    have hfound : encircled.methodOf (referringTo 182 method) = .ok none := by decide +kernel
    cases hresult.symm.trans hfound
    exact hnearest

end Example

end Artifact

end Reidentify

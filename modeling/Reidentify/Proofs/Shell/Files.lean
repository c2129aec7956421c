import Reidentify.Proofs.Shell.Location
import Reidentify.Shell.StoreFile

/-!
# What operations on files leave as it is

Making a directory takes nothing away: every place keeps what it has, and what is new are
directories. Writing a file changes one place, which never had a directory, so every path still
leads where it led before. The archive of a store is found again after both, unless the file that is
written is that of the store.

## Main definitions

* `Files.Grows`: nothing but directories is new.
* `Files.SameDirectories`: directories are at the same places.

## Main statements

* `Files.grows_makeDirectory`: making a directory takes nothing away.
* `Files.archiveAt_of_grows`: archives are found as long as nothing but directories is new.
* `Files.grows_openStore`: to open a store that is there already changes no store.
* `Files.exists_of_writeText`: a file that is written is the only change.
-/

namespace Reidentify.Files

variable {files before after last : Files} {working place other : Place} {path : Path} {node : Node}
  {text : String}

/-! ## New directories -/

/-- Every place keeps what it has `before`, and what is new `after` are directories. -/
def Grows (before after : Files) : Prop :=
  ∀ place, after.find? place = before.find? place ∨
    (before.find? place = none ∧ after.find? place = some .directory)

theorem Grows.refl (files : Files) : files.Grows files := fun _ => .inl rfl

theorem Grows.trans (h : files.Grows before) (h' : before.Grows after) : files.Grows after := by
  intro place
  rcases h place with heq | ⟨hnone, hmade⟩
  · rw [← heq]
    exact h' place
  · -- a directory stays a directory
    rcases h' place with heq | ⟨hnone', -⟩
    · exact .inr ⟨hnone, heq.trans hmade⟩
    · rw [hmade] at hnone'
      cases hnone'

theorem Grows.find?_eq (h : before.Grows after) (hfound : before.find? place = some node) :
    after.find? place = some node := by
  rcases h place with heq | ⟨hnone, -⟩
  · rw [heq, hfound]
  · rw [hfound] at hnone
    cases hnone

/-- At the root there is a directory, so a `place` with anything else is elsewhere. -/
theorem ne_nil_of_find? (files : Files) (h : files.find? place ≠ some .directory) : place ≠ [] := by
  rintro rfl
  exact h rfl

theorem Grows.keepsDirectories (h : before.Grows after) : before.KeepsDirectories after :=
  fun _ => h.find?_eq

theorem grows_newDirectory (h : files.newDirectory working path = .ok after) :
    files.Grows after := by
  unfold newDirectory at h
  split at h
  · cases h
  · next place _ =>
    split at h
    · cases h
    · next hnone =>
      cases h
      have hne : place ≠ [] := ne_nil_of_find? files (by simp [hnone])
      intro other
      rw [find?_put files place other .directory hne]
      by_cases heq : other = place
      · rw [if_pos heq, heq]
        exact .inr ⟨hnone, rfl⟩
      · exact .inl (if_neg heq)

theorem grows_settled : files.Grows (files.settled working path
    (files.newDirectory working path)).1 := by
  cases hnew : files.newDirectory working path with
  | ok next => exact grows_newDirectory hnew
  | error fault => exact .refl files

theorem grows_makeWithin (files : Files) (working : Place) (limit : Nat) (path : Path) :
    files.Grows (files.makeWithin working limit path).1 := by
  -- by induction on how many directories above may be missing
  induction limit generalizing path with
  | zero => exact .refl files
  | succ limit ih =>
    unfold makeWithin
    split
    · next hnew => exact grows_newDirectory hnew
    · split
      · exact .refl files
      · -- the directories before it are made first
        have hparent := ih path.parent
        split
        · next hmade => rwa [hmade] at hparent
        · next hmade =>
          rw [hmade] at hparent
          exact hparent.trans grows_settled
    · exact .refl files

/-- Making a directory with `makeDirectory` takes nothing away (`Grows`). -/
theorem grows_makeDirectory (files : Files) (working : Place) (path : Path) :
    files.Grows (files.makeDirectory working path).1 :=
  grows_makeWithin files working missingLimit path

theorem isDirectory_iff : files.isDirectory working path = true ↔
    ∃ place, files.locate working path = .ok place ∧ files.find? place = some .directory := by
  unfold isDirectory nodeAt
  cases files.locate working path with
  | error fault => simp
  | ok place =>
    cases hnode : files.find? place with
    | none => simp [hnode]
    | some node => cases node <;> simp [hnode]

/-- The path of a directory that `newDirectory` has made leads to it. -/
theorem isDirectory_of_newDirectory (h : files.newDirectory working path = .ok after) :
    after.isDirectory working path = true := by
  have hkeeps := (grows_newDirectory h).keepsDirectories
  unfold newDirectory at h
  split at h
  · cases h
  · next place hplace =>
    split at h
    · cases h
    · next hnone =>
      cases h
      refine isDirectory_iff.2 ⟨place, locate_of_keepsDirectories hkeeps hplace, ?_⟩
      rw [find?_put _ _ _ _ (ne_nil_of_find? files (by simp [hnone])), if_pos rfl]

theorem isDirectory_of_settled {result : Except Fault Files}
    (hnew : ∀ next, result = .ok next → next.isDirectory working path = true)
    (h : files.settled working path result = (after, .ok ())) :
    after.isDirectory working path = true := by
  unfold settled at h
  split at h
  · cases h
    exact hnew _ rfl
  · split at h
    · next hthere =>
      cases h
      exact hthere
    · cases h

/-- Once `makeDirectory` has made a directory its path leads to a directory. -/
theorem isDirectory_of_makeDirectory
    (h : files.makeDirectory working path = (after, .ok ())) :
    after.isDirectory working path = true := by
  have hmade {ready : Files} (next : Files) (h : ready.newDirectory working path = .ok next) :
      next.isDirectory working path = true := isDirectory_of_newDirectory h
  rw [makeDirectory, missingLimit, makeWithin] at h
  split at h
  · next hnew =>
    cases h
    exact hmade _ hnew
  · split at h
    · cases h
    · split at h
      · cases h
      · exact isDirectory_of_settled hmade h
  · exact isDirectory_of_settled (fun _ hnone => by cases hnone) h

/-- Where there is a directory already `makeDirectory` has nothing to make. -/
theorem makeDirectory_of_isDirectory (h : files.isDirectory working path = true) :
    files.makeDirectory working path = (files, .ok ()) := by
  obtain ⟨place, hlocate, hfound⟩ := isDirectory_iff.1 h
  have hnew : files.newDirectory working path = .error (.file (.occupied path.text)) := by
    unfold newDirectory
    rw [hlocate]
    dsimp only
    rw [hfound]
  rw [makeDirectory, missingLimit, makeWithin, hnew]
  dsimp only
  rw [settled, if_pos h]

/-! ## Stores -/

theorem storeWalk_of_grows (h : before.Grows after) (place : Place) (names : List String) :
    after.storeWalk place names = before.storeWalk place names := by
  -- by induction on the names that are left to walk along
  induction names generalizing place with
  | nil => rfl
  | cons name rest ih =>
    unfold storeWalk
    simp only [ih]
    rcases h place with heq | ⟨hnone, hmade⟩
    · rw [heq]
    · -- a walk goes on where there is nothing as it does where there is a directory
      rw [hnone, hmade]

theorem storePlace?_of_grows (h : before.Grows after)
    (hplace : before.storePlace? working path = some place) :
    after.storePlace? working path = some place := by
  unfold storePlace? at *
  rw [storeWalk_of_grows h]
  obtain ⟨hwalk, hfits⟩ := Option.filter_eq_some_iff.1 hplace
  rw [Option.filter_eq_some_iff]
  refine ⟨hwalk, ?_⟩
  simp only [Bool.and_eq_true, beq_iff_eq] at hfits ⊢
  exact ⟨hfits.1, h.find?_eq hfits.2⟩

theorem placeOf_of_grows (h : before.Grows after) {name : StoreName}
    (hplace : before.placeOf working name = .ok place) :
    after.placeOf working name = .ok place := by
  obtain ⟨home, access, isFixed, isUnlocked⟩ := name
  unfold placeOf at *
  cases home with
  | nowhere => cases hplace
  | shared key => exact hplace
  | file path =>
    dsimp only at *
    split at hplace
    · next found hfound =>
      rw [storePlace?_of_grows h hfound]
      exact hplace
    · cases hplace

/-- An `archive` is found by `archiveAt` iff the name of the store is read and has a `place` at
which it is. -/
theorem archiveAt_eq_ok_iff {name : StoreName} {archive : Archive} :
    files.archiveAt working path = .ok (name, place, archive) ↔
      StoreName.ofPath path = .ok name ∧ files.placeOf working name = .ok place ∧
        files.find? place = some (.store archive) := by
  unfold archiveAt
  constructor
  · intro h
    split at h
    · cases h
    · next name' hname =>
      split at h
      · cases h
      · next place' hplace =>
        split at h
        · next archive' hfound =>
          cases h
          exact ⟨hname, hplace, hfound⟩
        all_goals cases h
  · rintro ⟨hname, hplace, hfound⟩
    rw [hname]
    dsimp only
    rw [hplace]
    dsimp only
    rw [hfound]

/-- Archives are found by `archiveAt` as long as nothing but directories is new (`Grows`). -/
theorem archiveAt_of_grows (h : before.Grows after) {name : StoreName} {archive : Archive}
    (hat : before.archiveAt working path = .ok (name, place, archive)) :
    after.archiveAt working path = .ok (name, place, archive) := by
  obtain ⟨hname, hplace, hfound⟩ := archiveAt_eq_ok_iff.1 hat
  exact archiveAt_eq_ok_iff.2 ⟨hname, placeOf_of_grows h hplace, h.find?_eq hfound⟩

/-- A store that is at its `place` already is not made anew by `openNamed`. -/
theorem openNamed_of_store {name : StoreName} {archive : Archive}
    (hplace : files.placeOf working name = .ok place)
    (hfound : files.find? place = some (.store archive)) :
    (files.openNamed working name).1 = files := by
  obtain ⟨home, access, isFixed, isUnlocked⟩ := name
  unfold placeOf at hplace
  unfold openNamed
  cases home with
  | nowhere => cases hplace
  | shared key =>
    cases hplace
    unfold openInMemory
    dsimp only
    split
    · rfl
    · simp [hfound]
  | file path =>
    dsimp only at *
    split at hplace
    · cases hplace
      rw [openAt, hfound]
      dsimp only
      split <;> rfl
    · cases hplace

/-- What is left by `openStore`: the directory of the store was made, and then the store itself,
unless something was wrong before. -/
theorem openStore_cases (files : Files) (working : Place) (path : Path) :
    (files.openStore working path).1 = (files.makeDirectory working path.parent).1 ∨
      ∃ name, StoreName.ofPath path = .ok name ∧ (files.openStore working path).1 =
        ((files.makeDirectory working path.parent).1.openNamed working name).1 := by
  unfold openStore
  dsimp only
  split
  · next hmade => exact .inl (by rw [hmade])
  · next hmade => exact .inl (by rw [hmade])
  · next ready hmade =>
    rw [hmade]
    split
    · exact .inl rfl
    · exact .inl rfl
    · next name _ hname =>
      refine .inr ⟨name, hname, ?_⟩
      split
      · next hnamed => rw [hnamed]
      · next hnamed => rw [hnamed]

/-- To open a store that is there already takes nothing away (`Grows`). -/
theorem grows_openStore {name : StoreName} {archive : Archive}
    (hat : files.archiveAt working path = .ok (name, place, archive)) :
    files.Grows (files.openStore working path).1 := by
  have hparent := grows_makeDirectory files working path.parent
  rcases openStore_cases files working path with heq | ⟨name', hname', heq⟩
  · rwa [heq]
  · obtain ⟨hname, hplace, hfound⟩ := archiveAt_eq_ok_iff.1 (archiveAt_of_grows hparent hat)
    obtain rfl := Except.ok.inj (hname.symm.trans hname')
    rwa [heq, openNamed_of_store hplace hfound]

/-- A store that is new at a `place` is empty if nothing but an empty store is put there. -/
theorem store_of_put {new : Node} {archive : Archive} (hplace : place ≠ [])
    (hnew : new = .store archive → archive = .empty)
    (h : (files.put place new).find? other = some (.store archive)) :
    archive = .empty ∨ files.find? other = some (.store archive) := by
  rw [find?_put files place other new hplace] at h
  split at h
  · exact .inl (hnew (Option.some.inj h))
  · exact .inr h

theorem store_of_newStore {name : StoreName} {archive : Archive} (hplace : place ≠ [])
    (h : (files.newStore name place).1.find? other = some (.store archive)) :
    archive = .empty ∨ files.find? other = some (.store archive) := by
  have hempty : Node.store .empty = .store archive → archive = .empty := by
    intro heq
    cases heq
    rfl
  unfold newStore at h
  split at h
  · exact store_of_put hplace (by simp) h
  · split at h
    · exact store_of_put hplace hempty h
    · exact store_of_put hplace (by simp) h

theorem store_of_openNamed {name : StoreName} {archive : Archive}
    (h : (files.openNamed working name).1.find? other = some (.store archive)) :
    archive = .empty ∨ files.find? other = some (.store archive) := by
  obtain ⟨home, access, isFixed, isUnlocked⟩ := name
  unfold openNamed at h
  cases home with
  | nowhere =>
    right
    unfold openInMemory at h
    dsimp only at h
    split at h
    · exact h
    · exact h
  | shared key =>
    unfold openInMemory at h
    dsimp only at h
    split at h
    · exact .inr h
    · dsimp only [Option.map_some] at h
      split at h
      · exact .inr h
      · refine store_of_put (by simp [sharedPlace]) (fun heq => ?_) h
        cases heq
        rfl
  | file path =>
    dsimp only at h
    split at h
    · next place hplace =>
      have hne : place ≠ [] := by
        have hfits := (Option.filter_eq_some_iff.1 hplace).2
        simp only [Bool.and_eq_true, decide_eq_true_eq] at hfits
        exact hfits.1.1
      unfold openAt at h
      split at h
      · split at h
        · exact store_of_newStore hne h
        · exact .inr h
      · split at h
        · exact .inr h
        · split at h
          · exact .inr h
          · exact store_of_newStore hne h
      · split at h
        · exact .inr h
        · exact .inr h
      · exact .inr h
      · exact .inr h
    · exact .inr h

/-- Every store that is there once `openStore` has opened one is empty or was there before. -/
theorem store_of_openStore {archive : Archive}
    (h : (files.openStore working path).1.find? other = some (.store archive)) :
    archive = .empty ∨ files.find? other = some (.store archive) := by
  -- directories that are made hold no stores
  have hmade (hready : (files.makeDirectory working path.parent).1.find? other =
      some (.store archive)) : files.find? other = some (.store archive) := by
    rcases grows_makeDirectory files working path.parent other with heq | ⟨-, hnew⟩
    · rwa [← heq]
    · cases hnew.symm.trans hready
  rcases openStore_cases files working path with heq | ⟨name, -, heq⟩
  · rw [heq] at h
    exact .inr (hmade h)
  · rw [heq] at h
    exact (store_of_openNamed h).imp_right hmade

/-! ## New files -/

/-- Directories are at the same places `before` and `after` a change. -/
def SameDirectories (before after : Files) : Prop :=
  ∀ place, before.find? place = some .directory ↔ after.find? place = some .directory

theorem SameDirectories.keepsDirectories (h : before.SameDirectories after) :
    before.KeepsDirectories after := fun place => (h place).1

theorem readText_eq_ok (hlocate : files.locate working path = .ok place)
    (hfound : files.find? place = some (.file text)) : files.readText working path = .ok text := by
  simp [readText, nodeAt, hlocate, hfound]

theorem writeText_eq_ok_iff : files.writeText working path text = .ok after ↔
    ∃ place, files.locate working path = .ok place ∧ files.find? place ≠ some .directory ∧
      after = files.put place (.file text) := by
  unfold writeText
  cases files.locate working path with
  | error fault => simp
  | ok place =>
    dsimp only
    split
    · next hfound => simp [hfound]
    · next hfound =>
      rw [Except.ok.injEq]
      constructor
      · rintro rfl
        exact ⟨place, rfl, hfound, rfl⟩
      · rintro ⟨_, hplace, -, rfl⟩
        rw [Except.ok.inj hplace]

/-- A file that `writeText` has written is the only change, and paths lead where they led before
(`SameDirectories`). -/
theorem exists_of_writeText (h : files.writeText working path text = .ok after) :
    ∃ place, after.locate working path = .ok place ∧ after.find? place = some (.file text) ∧
      (∀ other, other ≠ place → after.find? other = files.find? other) ∧
      files.SameDirectories after := by
  obtain ⟨place, hlocate, hfree, rfl⟩ := writeText_eq_ok_iff.1 h
  have hput := fun other => find?_put files place other (.file text) (ne_nil_of_find? files hfree)
  have hsame : files.SameDirectories (files.put place (.file text)) := by
    intro other
    rw [hput]
    by_cases heq : other = place
    · rw [if_pos heq, heq]
      exact iff_of_false hfree (by simp)
    · rw [if_neg heq]
  refine ⟨place, locate_of_keepsDirectories hsame.keepsDirectories hlocate, ?_,
    fun other hne => ?_, hsame⟩
  · rw [hput, if_pos rfl]
  · rw [hput, if_neg hne]

end Reidentify.Files

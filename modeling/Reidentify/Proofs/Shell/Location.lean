import Reidentify.Shell.Files

/-!
# Where paths lead

A text is read as a path by its slashes: what stands between them are names. A path leads along its
names, one directory after the other, to a place. Names that never lead back are appended to the
place at which they start. Whatever else happens to files, a path leads where it led before as long
as directories stay where they are, and a longer path leads on from where its beginning leads.

## Main definitions

* `Files.next`: the place to which one name leads.
* `Files.KeepsDirectories`: directories stay where they are.

## Main statements

* `Path.getLast?_names_ofText`: the last name of a path is what stands behind its last slash.
* `Files.locate_of_keepsDirectories`: a path leads where it led before.
* `Files.eq_append_of_locate`: where a longer path leads.
* `Files.getLast?_of_locate`: the last name of the place to which a path leads.
-/

namespace Reidentify

/-! ## Texts of paths -/

namespace Path

variable {front back chars first : List Char} {others : List (List Char)} {text : String} {c : Char}
  {path : Path}

theorem pieces_cons (hc : c ≠ '/') (h : pieces chars = first :: others) :
    pieces (c :: chars) = (c :: first) :: others := by
  rw [pieces]
  · rw [h]
  · exact hc

theorem exists_pieces (chars : List Char) : ∃ first others, pieces chars = first :: others := by
  induction chars with
  | nil => exact ⟨[], [], rfl⟩
  | cons c rest ih =>
    obtain ⟨first, others, hrest⟩ := ih
    by_cases hc : c = '/'
    · subst hc
      exact ⟨[], pieces rest, rfl⟩
    · exact ⟨c :: first, others, pieces_cons hc hrest⟩

/-- A slash parts the `pieces` of `front` before it from those of `back` behind it. -/
theorem pieces_append_slash (front back : List Char) :
    pieces (front ++ '/' :: back) = pieces front ++ pieces back := by
  -- by induction on what stands before the slash, character by character
  induction front with
  | nil => rfl
  | cons c rest ih =>
    by_cases hc : c = '/'
    · subst hc
      exact congrArg ([] :: ·) ih
    · obtain ⟨first, others, hrest⟩ := exists_pieces rest
      rw [pieces_cons hc hrest]
      have htail : pieces (rest ++ '/' :: back) = first :: (others ++ pieces back) := by
        rw [ih, hrest]
        rfl
      exact pieces_cons hc htail

/-- Without a slash the text `chars` is the only one of its `pieces`. -/
theorem pieces_of_not_mem (h : '/' ∉ chars) : pieces chars = [chars] := by
  induction chars with
  | nil => rfl
  | cons c rest ih =>
    obtain ⟨hc, hrest⟩ := not_or.1 (mt List.mem_cons.2 h)
    exact pieces_cons (Ne.symm hc) (ih hrest)

/-- A `text` without a slash is one name, unless it leads nowhere. -/
theorem ofText_of_not_mem (hslash : '/' ∉ text.toList) (hleads : leads text.toList = true) :
    ofText text = ⟨0, [text]⟩ := by
  have hnone : text.toList.takeWhile (· == '/') = [] := by
    cases hchars : text.toList with
    | nil => rfl
    | cons c rest =>
      refine List.takeWhile_cons_of_neg fun hc => hslash ?_
      rw [hchars, beq_iff_eq.1 hc]
      exact List.mem_cons_self
  unfold ofText
  dsimp only
  rw [hnone, pieces_of_not_mem hslash, List.filter_cons_of_pos hleads]
  simp [keptSlashes]

/-- The last name of the path `ofText text` is the part `back` behind the last slash. -/
theorem getLast?_names_ofText (htext : text.toList = front ++ '/' :: back) (hslash : '/' ∉ back)
    (hleads : leads back = true) : (ofText text).names.getLast? = some (String.ofList back) := by
  change (((pieces text.toList).filter leads).map String.ofList).getLast? = _
  rw [htext, pieces_append_slash, pieces_of_not_mem hslash, List.filter_append,
    List.filter_cons_of_pos hleads, List.filter_nil, List.map_append]
  exact List.getLast?_concat

theorem file_of_relative (h : (ofText text).isAbsolute = false) :
    path.file text = { path with names := path.names ++ (ofText text).names } := by
  rw [file, append, h]
  rfl

/-- The path of a file ends with the last `name` in the `text` that names it. -/
theorem getLast?_names_file {name : String} (h : (ofText text).names.getLast? = some name) :
    (path.file text).names.getLast? = some name := by
  unfold file append
  split
  · exact h
  · rw [List.getLast?_append, h]
    rfl

end Path

namespace Files

/-- The place to which one `name` leads from a `place`: back for `..`, and else on. -/
def next (place : Place) (name : String) : Place :=
  if name = ".." then place.dropLast else place ++ [name]

/-- Directories that there are `before` are at the same places `after`. -/
def KeepsDirectories (before after : Files) : Prop :=
  ∀ place, before.find? place = some .directory → after.find? place = some .directory

variable {files before after : Files} {working place last middle : Place} {path : Path}
  {names more : List String} {name written written' : String}

/-! ## Steps -/

theorem walk_nil_eq_ok_iff : files.walk written place [] = .ok last ↔ place = last := by
  rw [walk, Except.ok.injEq]

/-- A walk goes on from a directory along the other `names`, and the last `name` leads anywhere. -/
theorem walk_cons_eq_ok_iff : files.walk written place (name :: names) = .ok last ↔
    Text.octetCount name ≤ nameLimit ∧
      (names = [] ∧ next place name = last ∨
        names ≠ [] ∧ files.find? (next place name) = some .directory ∧
          files.walk written (next place name) names = .ok last) := by
  rw [walk]
  unfold next
  dsimp only
  split
  · next hlong => simp [Nat.not_le.2 hlong]
  · next hshort =>
    rw [and_iff_right (Nat.not_lt.1 hshort)]
    split
    · next hlast =>
      obtain rfl := List.isEmpty_iff.1 hlast
      simp
    · next hmore =>
      have hne : names ≠ [] := mt List.isEmpty_iff.2 hmore
      -- only a directory leads on
      split
      · next hfound => simp [hne, hfound]
      · next node hnode hother =>
        have hnot : node ≠ .directory := hnode
        simp [hne, hother, hnot]
      · next hnone => simp [hne, hnone]

/-- A walk ends where it ended before as long as directories stay (`KeepsDirectories`), and however
its faults are `written`. -/
theorem walk_of_keepsDirectories (h : before.KeepsDirectories after)
    (hwalk : before.walk written place names = .ok last) :
    after.walk written' place names = .ok last := by
  -- by induction on the names: every one but the last leads to a directory, which stays
  induction names generalizing place with
  | nil => exact hwalk
  | cons name rest ih =>
    rw [walk_cons_eq_ok_iff] at hwalk ⊢
    refine hwalk.imp_right (Or.imp_right ?_)
    rintro ⟨hmore, hfound, hrest⟩
    exact ⟨hmore, h _ hfound, ih hrest⟩

/-- A walk along `names` that never lead back appends them to its `place`. -/
theorem eq_append_of_walk (hup : ".." ∉ names) (hwalk : files.walk written place names = .ok last) :
    place ++ names = last := by
  induction names generalizing place with
  | nil => rw [List.append_nil, walk_nil_eq_ok_iff.1 hwalk]
  | cons name rest ih =>
    obtain ⟨hname, hrest⟩ := not_or.1 (mt List.mem_cons.2 hup)
    have hnext : next place name = place ++ [name] := if_neg (Ne.symm hname)
    obtain ⟨-, ⟨rfl, rfl⟩ | ⟨-, -, hwalk⟩⟩ := walk_cons_eq_ok_iff.1 hwalk
    · exact hnext.symm
    · rw [← ih hrest hwalk, hnext, List.append_assoc]
      rfl

/-- A longer walk goes on along `more` names from the place `middle` where its beginning ends. -/
theorem exists_middle_of_walk (hmore : more ≠ [])
    (hwalk : files.walk written place (names ++ more) = .ok last) :
    ∃ middle, files.walk written place names = .ok middle ∧
      files.walk written middle more = .ok last := by
  -- by induction on the first names, which the longer walk takes first
  induction names generalizing place with
  | nil => exact ⟨place, rfl, hwalk⟩
  | cons name rest ih =>
    rw [List.cons_append, walk_cons_eq_ok_iff] at hwalk
    obtain ⟨hshort, ⟨hnil, -⟩ | ⟨-, hfound, hwalk⟩⟩ := hwalk
    · exact absurd (List.append_eq_nil_iff.1 hnil).2 hmore
    · obtain ⟨middle, hrest, hlast⟩ := ih hwalk
      refine ⟨middle, walk_cons_eq_ok_iff.2 ⟨hshort, ?_⟩, hlast⟩
      by_cases hnil : rest = []
      · subst hnil
        exact .inl ⟨rfl, walk_nil_eq_ok_iff.1 hrest⟩
      · exact .inr ⟨hnil, hfound, hrest⟩

/-! ## Paths -/

theorem direct?_eq_some_iff : files.direct? place names = some last ↔
    Text.octetCount (names.getLast?.getD "") ≤ nameLimit ∧ ".." ∉ names ∧
      files.find? (place ++ names.dropLast) = some .directory ∧ place ++ names = last := by
  simp [direct?, and_assoc]

/-- A path leads to a `place` by `locate` iff its names do, directly or step by step, and it is
neither misspelt nor too long. -/
theorem locate_eq_ok_iff : files.locate working path = .ok place ↔
    path.misspelling? = none ∧ Text.octetCount path.text < pathLimit ∧
      (files.direct? (start working path) path.names = some place ∨
        files.walk path.text (start working path) path.names = .ok place) := by
  unfold locate
  cases path.misspelling? with
  | some fault => simp
  | none =>
    dsimp only
    split
    · next hlong => simp [Nat.not_lt.2 hlong]
    · next hshort =>
      rw [and_iff_right rfl, and_iff_right (Nat.not_le.1 hshort)]
      cases hdirect : files.direct? (start working path) path.names with
      | none =>
        cases files.walk path.text (start working path) path.names with
        | error fault => simp
        | ok found => simp
      | some found =>
        -- both ways lead to the same place
        have hsame (hwalk : files.walk path.text (start working path) path.names = .ok place) :
            found = place := by
          obtain ⟨-, hup, -, rfl⟩ := direct?_eq_some_iff.1 hdirect
          exact eq_append_of_walk hup hwalk
        simpa using hsame

/-- A path that never leads back leads to its `names`, from where it starts. -/
theorem eq_append_of_locate_of_straight (hup : ".." ∉ path.names)
    (hlocate : files.locate working path = .ok place) :
    start working path ++ path.names = place := by
  obtain ⟨-, -, hdirect | hwalk⟩ := locate_eq_ok_iff.1 hlocate
  · exact (direct?_eq_some_iff.1 hdirect).2.2.2
  · exact eq_append_of_walk hup hwalk

/-- A path leads by `locate` where it led before as long as directories stay (`KeepsDirectories`).
-/
theorem locate_of_keepsDirectories (h : before.KeepsDirectories after)
    (hlocate : before.locate working path = .ok place) : after.locate working path = .ok place := by
  rw [locate_eq_ok_iff] at hlocate ⊢
  refine hlocate.imp_right (And.imp_right (Or.imp ?_ (walk_of_keepsDirectories h)))
  rw [direct?_eq_some_iff, direct?_eq_some_iff]
  exact And.imp_right (And.imp_right (And.imp_left (h _)))

/-- A path with `more` names leads on from the place `middle` to which its beginning leads, if they
do not lead back. -/
theorem eq_append_of_locate (hmore : more ≠ []) (hup : ".." ∉ more)
    (hfirst : files.locate working path = .ok middle)
    (hlocate : files.locate working { path with names := path.names ++ more } = .ok last) :
    middle ++ more = last := by
  obtain ⟨-, -, hdirect | hwalk⟩ := locate_eq_ok_iff.1 hlocate
  · obtain ⟨-, hboth, -, rfl⟩ := direct?_eq_some_iff.1 hdirect
    have hstraight : ".." ∉ path.names := fun hmem => hboth (List.mem_append_left _ hmem)
    rw [← eq_append_of_locate_of_straight hstraight hfirst, List.append_assoc]
    rfl
  · obtain ⟨middle', hmiddle, hlast⟩ := exists_middle_of_walk hmore hwalk
    -- the beginning leads to where the walk along it ends
    have hfirst' : files.locate working path = .ok middle' := by
      obtain ⟨hspelling, hshort, -⟩ := locate_eq_ok_iff.1 hfirst
      refine locate_eq_ok_iff.2 ⟨hspelling, hshort, .inr ?_⟩
      exact walk_of_keepsDirectories (fun _ => id) hmiddle
    obtain rfl := Except.ok.inj (hfirst.symm.trans hfirst')
    exact eq_append_of_walk hup hlast

/-- A path leads to a `place` whose last name is the last `name` of the path. -/
theorem getLast?_of_locate (hlocate : files.locate working path = .ok place)
    (hlast : path.names.getLast? = some name) (hup : name ≠ "..") :
    place.getLast? = some name := by
  obtain ⟨-, -, hdirect | hwalk⟩ := locate_eq_ok_iff.1 hlocate
  · obtain ⟨-, -, -, rfl⟩ := direct?_eq_some_iff.1 hdirect
    rw [List.getLast?_append, hlast]
    rfl
  · obtain ⟨front, hnames⟩ := List.getLast?_eq_some_iff.1 hlast
    rw [hnames] at hwalk
    obtain ⟨middle, -, hwalk⟩ := exists_middle_of_walk (List.cons_ne_nil _ _) hwalk
    have hsingle : ".." ∉ [name] := by simpa using hup.symm
    rw [← eq_append_of_walk hsingle hwalk]
    exact List.getLast?_concat

end Files

end Reidentify

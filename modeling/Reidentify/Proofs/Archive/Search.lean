import Reidentify.Proofs.Archive.History
import Reidentify.Proofs.Archive.Pattern

/-!
# Searches of an archive

A search for a text lists the runs whose revisions the text, taken as a pattern, finds. As long as
there are no wildcards in the text, these are the runs whose revisions contain it in either case.
With a wildcard there always is an archive in which another run is listed as well.

## Main definitions

* `Archive.Lists`: a search lists exactly the runs whose revisions have a property.

## Main statements

* `Archive.search_eq_ok_iff`: when a search succeeds, and what it lists.
* `Archive.lists_contains_iff`: a search for a text lists what the text stands for, which is
  what contains it iff there are no wildcards.
-/

namespace Reidentify.Archive

open Pattern (Finds Contains IsWildcard containing)

variable {archive : Archive} {part : String} {listed : List StoredRun}

/-- A search succeeds iff its text can be encoded and its pattern is not too long for the runs that
there are. It has the runs `listed` that fit the pattern of `containing part`. -/
theorem search_eq_ok_iff : archive.search part = .ok listed ↔
    Cell.encodable (containing part) = .ok (containing part) ∧
      (Pattern.isTooLong (containing part) = false ∨ archive.runs = []) ∧
      (archive.runs.filter fun run =>
        Pattern.fitsText (containing part) run.revision).foldr insertRun [] = listed := by
  unfold search
  cases hpattern : Cell.encodable (containing part) with
  | error fault => simp
  | ok pattern =>
    obtain rfl := Cell.eq_of_encodable hpattern
    by_cases hlong : Pattern.isTooLong (containing part) = true
    · -- there is nothing to compare a long text with if there are no runs
      cases hruns : archive.runs with
      | nil => simp
      | cons run rest => simp [hlong]
    · simp [hlong]

open Classical in
/-- A search of the `archive` for `part` lists exactly the runs whose revisions have the property
`holds`, each as often as it is there, in the order in which runs are listed. -/
def Lists (archive : Archive) (part : String) (holds : String → Prop) : Prop :=
  ∃ listed, archive.search part = .ok listed ∧
    listed.Perm (archive.runs.filter (holds ·.revision)) ∧
    listed.Pairwise fun a b => listedBefore a b = true

/-- A search `Lists` by every property `holds` that says which revisions the `part` finds. -/
theorem lists_of_search (hpart : Cell.encodable part = .ok part)
    (hsize : part.utf8ByteSize + 2 ≤ Pattern.sizeLimit) {holds : String → Prop}
    (hfits : ∀ run ∈ archive.runs, Finds part run.revision ↔ holds run.revision) :
    archive.Lists part holds := by
  classical
  have hencodable : Cell.encodable (containing part) = .ok (containing part) := by
    have hchars : (containing part).toList = '%' :: (part.toList ++ ['%']) := by simp [containing]
    rw [Cell.encodable_eq_ok_iff] at hpart ⊢
    rw [hchars, List.forall_mem_cons, List.forall_mem_append, List.forall_mem_singleton]
    exact ⟨rfl, hpart, rfl⟩
  have hshort : Pattern.isTooLong (containing part) = false := by
    have hpercent : "%".utf8ByteSize = 1 := rfl
    rw [Pattern.isTooLong, decide_eq_false_iff_not, containing, String.utf8ByteSize_append,
      String.utf8ByteSize_append, hpercent]
    omega
  refine ⟨_, search_eq_ok_iff.2 ⟨hencodable, .inl hshort, rfl⟩, ?_, pairwise_listing _⟩
  refine (listing_perm _).trans (.of_eq (List.filter_congr fun run hmem => ?_))
  rw [Bool.eq_iff_iff, Pattern.fitsText_containing_iff, hfits run hmem, decide_eq_true_iff]

/-- For every `revision` that can be encoded some operations leave an archive whose only run is of
this revision. -/
theorem exists_only_run {revision : String}
    (hrevision : Cell.encodable revision = .ok revision) :
    ∃ (operations : List Operation) (run : StoredRun),
      (empty.afterAll operations).runs = [run] ∧ run.revision = revision := by
  have hencodable : ∀ text ∈ ["", "", revision, ""], Cell.encodable text = .ok text := by
    have hempty : Cell.encodable "" = .ok "" := rfl
    simp [hempty, hrevision]
  let run : PlainRun := ⟨"", "", revision, "", 0, 0, ⟨2026, 1, 31, 23, 59, 59, 0⟩, hencodable, rfl,
    rfl, ⟨by decide, by decide, by decide, rfl⟩⟩
  have hperform : empty.perform (.save run.record) = .ok (⟨[run.stored 1], 1⟩, .saved 1) :=
    (PlainOperation.save run).perform_operation empty
  refine ⟨[.save run.record], run.stored 1, ?_, rfl⟩
  rw [afterAll, List.foldl_cons, List.foldl_nil, after, hperform]

/-- For a `part` with wildcards some operations leave an archive in which a search for it does not
list by `Contains`. -/
theorem exists_not_lists (hpart : Cell.encodable part = .ok part) (hzero : '\x00' ∉ part.toList)
    (hsize : part.utf8ByteSize + 2 ≤ Pattern.sizeLimit) (hwild : ∃ c ∈ part.toList, IsWildcard c) :
    ∃ operations : List Operation,
      (∀ run ∈ (empty.afterAll operations).runs, '\x00' ∉ run.revision.toList) ∧
      ¬ (empty.afterAll operations).Lists part (Contains part) := by
  obtain ⟨text, hfinds, hnot, hchars⟩ := Pattern.exists_finds_not_contains hwild hzero
  -- the text can be kept because it is made of characters of the part
  have htext : Cell.encodable text = .ok text := by
    rw [Cell.encodable_eq_ok_iff] at hpart ⊢
    intro c hc
    rcases hchars c hc with rfl | hmem
    · rfl
    · exact hpart c hmem
  obtain ⟨operations, run, hruns, rfl⟩ := exists_only_run htext
  refine ⟨operations, ?_, ?_⟩
  · rw [hruns, List.forall_mem_singleton]
    exact fun hmem => (hchars _ hmem).elim (by decide) hzero
  · rintro ⟨listed, hsearch, hperm, -⟩
    obtain ⟨found, hfound, hlisted, -⟩ : (empty.afterAll operations).Lists part (Finds part) :=
      lists_of_search hpart hsize fun _ _ => .rfl
    obtain rfl := Except.ok.inj (hsearch.symm.trans hfound)
    -- the run is listed because the part finds it, and is not because it does not contain the part
    have hboth := hperm.symm.trans hlisted
    simp [hruns, hfinds, hnot] at hboth

/-- **What a search for a text lists.** In every archive these are the runs whose revisions have
something that the text `part` stands for (`Finds`), each of them once. They are the runs whose
revisions contain the text (`Contains`), in all archives that operations can leave, iff there are no
wildcards in it. -/
theorem lists_contains_iff (hpart : Cell.encodable part = .ok part)
    (hsize : part.utf8ByteSize + 2 ≤ Pattern.sizeLimit) :
    (∀ archive : Archive, archive.Lists part (Finds part)) ∧
    ('\x00' ∉ part.toList →
      ((∀ operations : List Operation,
          (∀ run ∈ (empty.afterAll operations).runs, '\x00' ∉ run.revision.toList) →
          (empty.afterAll operations).Lists part (Contains part)) ↔
        ∀ c ∈ part.toList, ¬ IsWildcard c)) := by
  refine ⟨fun archive => lists_of_search hpart hsize fun _ _ => .rfl, fun hzero => ⟨?_, ?_⟩⟩
  · intro hlists c hmem hwild
    obtain ⟨operations, hplain, hnot⟩ := exists_not_lists hpart hzero hsize ⟨c, hmem, hwild⟩
    exact hnot (hlists operations hplain)
  · intro hplain operations hrevisions
    refine lists_of_search hpart hsize fun run hmem => ?_
    exact Pattern.finds_iff_contains hplain hzero (hrevisions run hmem)

section Example

/-- A run with the number `id` of some `revision`. -/
def runOfRevision (id : Int) (revision : String) : StoredRun :=
  ⟨id, "a", revision, "\x7b\x7d", "[]", .integer 1, .integer 0, "2026-01-31T23:59:59Z"⟩

/-- An archive of runs whose revisions are written with letters of either case, each by
`runOfRevision`. -/
def releases : Archive :=
  ⟨[runOfRevision 1 "Release-181", runOfRevision 2 "rc 18", runOfRevision 3 "PRERELEASE-190"], 3⟩

/-- In the archive `releases` a search for a word finds it in either case, in the middle of a
revision too. -/
theorem lists_contains_iff_releases :
    Cell.encodable "release-1" = .ok "release-1" ∧
    "release-1".utf8ByteSize + 2 ≤ Pattern.sizeLimit ∧
    ((releases.search "release-1").map fun listed => listed.map (·.id)) = .ok [3, 1] ∧
    releases.Lists "release-1" (Finds "release-1") ∧
    ∀ operations : List Operation,
      (∀ run ∈ (empty.afterAll operations).runs, '\x00' ∉ run.revision.toList) →
      (empty.afterAll operations).Lists "release-1" (Contains "release-1") := by
  have hpart : Cell.encodable "release-1" = .ok "release-1" := by decide
  have hsize : "release-1".utf8ByteSize + 2 ≤ Pattern.sizeLimit := by decide
  obtain ⟨hfinds, hcontains⟩ := lists_contains_iff hpart hsize
  have hplain : ∀ c ∈ "release-1".toList, ¬ IsWildcard c := by simp [IsWildcard]
  exact ⟨hpart, hsize, by decide +kernel, hfinds releases, (hcontains (by decide)).2 hplain⟩

/-- A search for an underscore lists a run of revision `181`, in which there is no underscore. -/
theorem search_underscore_eq : ∃ run : StoredRun,
    Archive.search ⟨[run], 1⟩ "_" = .ok [run] ∧ ¬ Contains "_" run.revision := by
  refine ⟨runOfRevision 1 "181", by decide +kernel, ?_⟩
  unfold Contains
  decide

end Example

end Reidentify.Archive

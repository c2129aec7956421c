import Reidentify.Archive.Store

/-!
# Listings of an archive

A search goes through all runs whose revision fits a pattern and lists them by insertion. What is
listed are exactly these runs, later stamps first and larger numbers first among equal stamps. Every
revision contains the empty text, so a search for it lists all runs.

## Main statements

* `Archive.listing_perm`: a listing holds exactly the given runs.
* `Archive.pairwise_listing`: runs are listed in descending order.
* `Archive.search_empty`: a search for the empty text lists all runs.
-/

namespace Reidentify

namespace Pattern

theorem nil_mem_suffixes (chars : List Char) : [] ∈ suffixes chars := by
  induction chars with
  | nil => simp [suffixes]
  | cons c rest ih => simp [suffixes, ih]

/-- A second percent sign leaves what the first one left, i.e. all `suffixes`. -/
theorem leftBy_suffixes (chars : List Char) : leftBy (suffixes chars) '%' = suffixes chars := by
  cases chars with
  | nil => rfl
  | cons c rest => rfl

/-- Every `text` fits the pattern of the texts that contain the empty one. -/
theorem fitsText_containing_empty (text : String) : fitsText (containing "") text = true := by
  have hpattern : compared (containing "").toList = ['%', '%'] := by decide
  have hfirst (chars : List Char) : leftBy [chars] '%' = suffixes chars := rfl
  rw [fitsText, hpattern, fits, List.foldl_cons, List.foldl_cons, List.foldl_nil, hfirst,
    leftBy_suffixes, List.any_eq_true]
  exact ⟨[], nil_mem_suffixes _, rfl⟩

end Pattern

namespace Archive

variable {a b c run : StoredRun} {runs : List StoredRun}

/-- Of two runs `a` and `b` one is listed before the other by `listedBefore`. -/
theorem listedBefore_total (h : listedBefore a b = false) : listedBefore b a = true := by
  unfold listedBefore at *
  by_cases hsame : a.created = b.created
  · simp only [hsame, if_true, decide_eq_true_eq, decide_eq_false_iff_not] at *
    omega
  · rw [if_neg hsame] at h
    rw [if_neg (Ne.symm hsame)]
    exact (Text.isBefore_total hsame).resolve_right (by simp [h])

theorem listedBefore_trans (hab : listedBefore a b = true) (hbc : listedBefore b c = true) :
    listedBefore a c = true := by
  unfold listedBefore at *
  by_cases hsame : a.created = b.created
  · rw [hsame] at hab ⊢
    -- the numbers decide, unless the last run has another stamp
    split at hbc
    · simp only [if_true, decide_eq_true_eq, *] at *
      omega
    · rwa [if_neg ‹_›]
  · rw [if_neg hsame] at hab
    by_cases hsame' : b.created = c.created
    · rw [← hsame', if_neg hsame]
      exact hab
    · rw [if_neg hsame'] at hbc
      have hac := Text.isBefore_trans hbc hab
      have hne : a.created ≠ c.created := by
        intro heq
        rw [heq, Text.isBefore_irrefl] at hac
        cases hac
      rwa [if_neg hne]

theorem insertRun_perm (run : StoredRun) (runs : List StoredRun) :
    (insertRun run runs).Perm (run :: runs) := by
  induction runs with
  | nil => exact .refl _
  | cons other rest ih =>
    unfold insertRun
    split
    · exact .refl _
    · exact (ih.cons other).trans (.swap run other rest)

/-- By `insertRun` a run is put among `runs` so that all stay in the order in which they are listed.
-/
theorem pairwise_insertRun (h : runs.Pairwise fun a b => listedBefore a b = true) :
    (insertRun run runs).Pairwise fun a b => listedBefore a b = true := by
  -- by induction on the runs that are listed already, up to the first one that comes behind
  induction runs with
  | nil => exact List.pairwise_singleton _ _
  | cons other rest ih =>
    obtain ⟨hother, hrest⟩ := List.pairwise_cons.1 h
    unfold insertRun
    split
    · next hbefore =>
      refine List.pairwise_cons.2 ⟨fun later hlater => ?_, h⟩
      rcases List.mem_cons.1 hlater with rfl | hlater
      · exact hbefore
      · exact listedBefore_trans hbefore (hother later hlater)
    · next hbehind =>
      refine List.pairwise_cons.2 ⟨fun later hlater => ?_, ih hrest⟩
      rcases List.mem_cons.1 ((insertRun_perm run rest).mem_iff.1 hlater) with rfl | hlater
      · exact listedBefore_total (by simpa using hbehind)
      · exact hother later hlater

/-- A listing holds exactly the given `runs`, each as often as it is there. -/
theorem listing_perm (runs : List StoredRun) : (runs.foldr insertRun []).Perm runs := by
  induction runs with
  | nil => exact .refl _
  | cons run rest ih => exact (insertRun_perm run _).trans (ih.cons run)

/-- The `runs` of a listing are in descending order, as `listedBefore` says. -/
theorem pairwise_listing (runs : List StoredRun) :
    (runs.foldr insertRun []).Pairwise fun a b => listedBefore a b = true := by
  induction runs with
  | nil => exact List.Pairwise.nil
  | cons run rest ih => exact pairwise_insertRun ih

/-- A search for the empty text lists all runs of the `archive`. -/
theorem search_empty (archive : Archive) :
    archive.search "" = .ok (archive.runs.foldr insertRun []) := by
  have hpattern : Cell.encodable (Pattern.containing "") = .ok (Pattern.containing "") := rfl
  have hshort : Pattern.isTooLong (Pattern.containing "") = false := by decide +kernel
  have hall : archive.runs.filter (fun run =>
      Pattern.fitsText (Pattern.containing "") run.revision) = archive.runs :=
    List.filter_eq_self.2 fun run _ => Pattern.fitsText_containing_empty run.revision
  simp [search, hpattern, hshort, hall]

end Archive

end Reidentify

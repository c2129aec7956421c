import Reidentify.Proofs.Archive.History

/-!
# Chronicles

What an archive answers can be told from its history, however long it is: which run is found by a
key or by a number, that no number ever comes to mean another run, what one more operation leaves
and answers, and how all runs are listed.

## Main definitions

* `Archive.Chronicle`: what an archive with a history answers.

## Main statements

* `Archive.Recorded.chronicle`: an archive answers as its history says.
* `Archive.chronicle_of_performAll`: every sequence of operations can be performed on the empty
  archive, and leaves an archive that answers as the history of these operations says.
-/

namespace Reidentify

namespace Archive

/-- An `archive` answers as its `history` says, by a key, by a number and in searches, and it will
go on to do so. -/
structure Chronicle (history : History) (archive : Archive) : Prop where
  /-- Every `run` that was saved was given a number. -/
  answered : ∀ run answer, (.save run, answer) ∈ history → ∃ id, answer = .saved id
  /-- The numbers in `givenIds` ascend. -/
  ascending : (givenIds history).Pairwise (· < ·)
  /-- No two runs that are kept have the same key. -/
  nodup_keys : (archive.runs.map (·.key)).Nodup
  /-- The runs that are there are those that the history has `Kept`. -/
  mem_runs_iff : ∀ stored, stored ∈ archive.runs ↔
    ∃ run id, Kept history run id ∧ stored = run.stored id
  /-- A run that is `Kept` is found by its key, with the values it was saved with. -/
  get_kept : ∀ run id, Kept history run id →
    archive.get (.str run.key) = .ok (some (run.stored id)) ∧
      ∀ now, (run.stored id).createdAt now = run.created
  /-- By a `key` of which no run is `Kept` nothing is found. -/
  get_none : ∀ key, Cell.encodable key = .ok key →
    (∀ run id, Kept history run id → run.key ≠ key) → archive.get (.str key) = .ok none
  /-- A run that is `Kept` is found by its number. -/
  getById_kept : ∀ run id, Kept history run id →
    archive.getById (.int id) = .ok (some (run.stored id))
  /-- By a number under which no run is `Kept` nothing is found. -/
  getById_none : ∀ id, Cell.fitsInteger id = true → (∀ run, ¬ Kept history run id) →
    archive.getById (.int id) = .ok none
  /-- Whatever is done `later`, by a number that was given the same run is found or nothing, and
  nothing for ever once nothing is found. -/
  forever : ∀ id ∈ givenIds history, ∀ later : List Operation,
    (archive.afterAll later).getById (.int id) = archive.getById (.int id) ∨
      (archive.afterAll later).getById (.int id) = .ok none
  /-- One more `operation` leaves the runs of all artifacts that it does not concern (`Concerns`).
  -/
  others : ∀ operation : PlainOperation, ∃ next answer,
    archive.perform operation.operation = .ok (next, answer) ∧
      ∀ key, ¬ operation.Concerns archive key →
        next.runs.filter (·.key == key) = archive.runs.filter (·.key == key)
  /-- An invalidation answers with the `count` of the runs that it removes. -/
  invalidate : ∀ key, Cell.encodable key = .ok key → ∃ next count,
    archive.invalidate (.str key) = .ok (next, count) ∧ next.runs.Sublist archive.runs ∧
      next.runs.length + count = archive.runs.length
  /-- A deletion answers whether there was a run of the number, as `found`. -/
  delete : ∀ id, Cell.fitsInteger id = true → ∃ next found,
    archive.delete (.int id) = .ok (next, found) ∧ (found = true ↔ ∃ run, Kept history run id)
  /-- All runs are `listed` exactly once, later times first and larger numbers first among equal
  times. -/
  search : ∃ listed, archive.search "" = .ok listed ∧ listed.Perm archive.runs ∧
    listed.Pairwise fun a b => ∀ now, (b.createdAt now).Before (a.createdAt now) ∨
      (a.createdAt now = b.createdAt now ∧ b.id < a.id)

variable {history : History} {archive : Archive} {operation : PlainOperation} {run : PlainRun}
  {stored : StoredRun} {id : Int} {key : String}

/-- An `operation` leaves the runs of a `key` that it does not concern (`Concerns`) as they are, in
their order. -/
theorem PlainOperation.filter_effect (hkey : ¬ operation.Concerns archive key) :
    (operation.effect archive).1.runs.filter (·.key == key) =
      archive.runs.filter (·.key == key) := by
  -- case by case: a saved run has another key, and what is removed is not of the key
  cases operation with
  | save run =>
    have hne : run.key ≠ key := hkey
    have hnew : [run.stored (archive.lastId + 1)].filter (·.key == key) = [] := by
      simp [PlainRun.stored, hne]
    simp only [PlainOperation.effect]
    rw [List.filter_append, hnew, List.append_nil, List.filter_filter]
    refine List.filter_congr fun stored _ => ?_
    by_cases hstored : stored.key = key
    · simp [hstored, hne.symm]
    · simp [hstored]
  | invalidate other =>
    have hne : other ≠ key := hkey
    simp only [PlainOperation.effect]
    rw [List.filter_filter]
    refine List.filter_congr fun stored _ => ?_
    by_cases hstored : stored.key = key
    · simp [hstored, hne.symm]
    · simp [hstored]
  | delete id =>
    simp only [PlainOperation.effect]
    rw [List.filter_filter]
    refine List.filter_congr fun stored hmem => ?_
    by_cases hstored : stored.key = key
    · have hne : stored.id ≠ id := fun hid => hkey ⟨stored, hmem, hid, hstored⟩
      simp [hstored, hne]
    · simp [hstored]

/-- The runs of a `key` and the other ones are all runs of the `archive`. -/
theorem length_invalidate (archive : Archive) (key : String) :
    (archive.runs.filter (·.key != key)).length + archive.runs.countP (·.key == key) =
      archive.runs.length := by
  rw [← List.countP_eq_length_filter, Nat.add_comm,
    List.length_eq_countP_add_countP (fun stored => stored.key == key)]
  simp only [Bool.not_eq_true, Bool.decide_eq_false, bne]

namespace Recorded

theorem answered (h : Recorded history archive) {answer : Answer}
    (hmem : (.save run, answer) ∈ history) : ∃ id, answer = .saved id := by
  induction h with
  | start => cases hmem
  | step _ operation ih =>
    rcases List.mem_append.1 hmem with hold | hnew
    · exact ih hold
    · obtain ⟨rfl, rfl⟩ := Prod.mk.inj (List.mem_singleton.1 hnew)
      exact ⟨_, rfl⟩

/-- Every number in `givenIds` fits into a column, if the `lastId` does. -/
theorem fits_of_mem_givenIds (h : Recorded history archive)
    (hids : Cell.fitsInteger archive.lastId = true) (hid : id ∈ givenIds history) :
    Cell.fitsInteger id = true := by
  obtain ⟨hlow, hhigh⟩ := h.le_of_mem_givenIds hid
  simp only [Cell.fitsInteger, Bool.and_eq_true, decide_eq_true_eq] at hids ⊢
  omega

theorem get_kept (h : Recorded history archive) (hkept : Kept history run id) :
    archive.get (.str run.key) = .ok (some (run.stored id)) := by
  have hkey : Cell.encodable run.key = .ok run.key := run.encodable _ (by simp)
  exact (h.sound.get_eq_some_iff hkey).2 ⟨h.mem_runs_iff.2 ⟨run, id, hkept, rfl⟩, rfl⟩

theorem get_none (h : Recorded history archive) (hkey : Cell.encodable key = .ok key)
    (hnone : ∀ run id, Kept history run id → run.key ≠ key) :
    archive.get (.str key) = .ok none := by
  rw [get_str archive hkey, Except.ok.injEq, List.find?_eq_none]
  intro stored hmem
  obtain ⟨run, id, hkept, rfl⟩ := h.mem_runs_iff.1 hmem
  simpa [PlainRun.stored] using hnone run id hkept

theorem getById_kept (h : Recorded history archive) (hids : Cell.fitsInteger archive.lastId = true)
    (hkept : Kept history run id) : archive.getById (.int id) = .ok (some (run.stored id)) := by
  have hfits := h.fits_of_mem_givenIds hids (mem_givenIds_of_kept hkept)
  exact (h.sound.getById_eq_some_iff hfits).2 ⟨h.mem_runs_iff.2 ⟨run, id, hkept, rfl⟩, rfl⟩

theorem getById_none (h : Recorded history archive) (hfits : Cell.fitsInteger id = true)
    (hnone : ∀ run, ¬ Kept history run id) : archive.getById (.int id) = .ok none := by
  rw [getById_int archive hfits, Except.ok.injEq, List.find?_eq_none]
  intro stored hmem
  obtain ⟨run, other, hkept, rfl⟩ := h.mem_runs_iff.1 hmem
  have hne : other ≠ id := by
    rintro rfl
    exact hnone run hkept
  simpa [PlainRun.stored] using hne

/-- By a number in `givenIds` no other run is ever found, whatever is done `later`. -/
theorem forever (h : Recorded history archive) (hids : Cell.fitsInteger archive.lastId = true)
    (hid : id ∈ givenIds history) (later : List Operation) :
    (archive.afterAll later).getById (.int id) = archive.getById (.int id) ∨
      (archive.afterAll later).getById (.int id) = .ok none := by
  have hfits := h.fits_of_mem_givenIds hids hid
  cases hfound : (archive.afterAll later).runs.find? (·.id == id) with
  | none => exact .inr (by rw [getById_int _ hfits, hfound])
  | some stored =>
    have hlater : (archive.afterAll later).getById (.int id) = .ok (some stored) := by
      rw [getById_int _ hfits, hfound]
    obtain ⟨hmem, rfl⟩ := ((h.sound.afterAll later).getById_eq_some_iff hfits).1 hlater
    -- the number is not a new one, so the run was there before
    have hbefore := mem_of_mem_afterAll (h.le_of_mem_givenIds hid).2 hmem
    exact .inl (hlater.trans ((h.sound.getById_eq_some_iff hfits).2 ⟨hbefore, rfl⟩).symm)

/-- There is a run of the number `id` iff the history has `Kept` one under it, which is what a
deletion answers. -/
theorem any_id_iff (h : Recorded history archive) :
    archive.runs.any (·.id == id) = true ↔ ∃ run, Kept history run id := by
  rw [List.any_eq_true]
  constructor
  · rintro ⟨stored, hmem, hid⟩
    obtain ⟨run, other, hkept, rfl⟩ := h.mem_runs_iff.1 hmem
    obtain rfl : other = id := by simpa [PlainRun.stored] using hid
    exact ⟨run, hkept⟩
  · rintro ⟨run, hkept⟩
    exact ⟨run.stored id, h.mem_runs_iff.2 ⟨run, id, hkept, rfl⟩, by simp [PlainRun.stored]⟩

/-- Runs that are `stored` are listed by their times, and by their numbers among equal times. -/
theorem listedBefore_iff {other : PlainRun} {id' : Int} :
    listedBefore (run.stored id) (other.stored id') = true ↔
      other.created.Before run.created ∨ (run.created = other.created ∧ id' ≤ id) := by
  have hstamp : (run.stored id).created = (other.stored id').created ↔
      run.created = other.created :=
    ⟨Timestamp.stamp_injective run.stampable other.stampable, congrArg Timestamp.stamp⟩
  by_cases hsame : run.created = other.created
  · have hnot : ¬ other.created.Before run.created := hsame ▸ List.lt_irrefl _
    rw [listedBefore, if_pos (hstamp.2 hsame), decide_eq_true_iff]
    simp [hsame, hsame ▸ hnot, PlainRun.stored]
  · rw [listedBefore, if_neg (mt hstamp.1 hsame)]
    simp [hsame, PlainRun.stored, Timestamp.isBefore_stamp_iff other.stampable run.stampable]

/-- A search for the empty text has all runs `listed`, in descending order of their times and
numbers. -/
theorem search (h : Recorded history archive) :
    ∃ listed, archive.search "" = .ok listed ∧ listed.Perm archive.runs ∧
      listed.Pairwise fun a b => ∀ now, (b.createdAt now).Before (a.createdAt now) ∨
        (a.createdAt now = b.createdAt now ∧ b.id < a.id) := by
  have hperm := listing_perm archive.runs
  refine ⟨_, search_empty archive, hperm, ?_⟩
  have hids : (archive.runs.foldr insertRun []).Pairwise fun a b => a.id ≠ b.id :=
    List.pairwise_map.1 ((hperm.map StoredRun.id).nodup_iff.2 h.sound.nodup_ids)
  refine ((pairwise_listing archive.runs).and hids).imp_of_mem ?_
  rintro a b ha hb ⟨hbefore, hne⟩ now
  obtain ⟨run, id, -, rfl⟩ := h.mem_runs_iff.1 (hperm.mem_iff.1 ha)
  obtain ⟨other, id', -, rfl⟩ := h.mem_runs_iff.1 (hperm.mem_iff.1 hb)
  rw [run.createdAt_stored, other.createdAt_stored]
  rcases listedBefore_iff.1 hbefore with htime | ⟨htime, hid⟩
  · exact .inl htime
  · have : id ≠ id' := hne
    exact .inr ⟨htime, by simp only [PlainRun.stored]; omega⟩

/-- An archive that is `Recorded` answers as its history says (`Chronicle`), if its `lastId` fits
into a column. -/
theorem chronicle (h : Recorded history archive) (hids : Cell.fitsInteger archive.lastId = true) :
    Chronicle history archive where
  answered _ _ := h.answered
  ascending := h.ascending
  nodup_keys := h.sound.nodup_keys
  mem_runs_iff _ := h.mem_runs_iff
  get_kept run id hkept := ⟨h.get_kept hkept, run.createdAt_stored id⟩
  get_none _ hkey hnone := h.get_none hkey hnone
  getById_kept _ _ hkept := h.getById_kept hids hkept
  getById_none _ hfits hnone := h.getById_none hfits hnone
  forever _ hid later := h.forever hids hid later
  others operation := ⟨_, _, operation.perform_operation archive, fun _ =>
    operation.filter_effect⟩
  invalidate _ hkey := ⟨_, _, invalidate_str archive hkey, List.filter_sublist,
    length_invalidate archive _⟩
  delete _ hfits := ⟨_, _, delete_int archive hfits, h.any_id_iff⟩
  search := h.search

end Recorded

/-- **Every history is kept.** All `operations` of every sequence can be performed, the first one on
the `empty` archive, and the archive that they leave answers as their history says (`Chronicle`), as
long as the numbers of runs fit into their column. -/
theorem chronicle_of_performAll (operations : List PlainOperation)
    (hids : Cell.fitsInteger (operations.countP (·.isSave)) = true) :
    ∃ archive answers, empty.performAll (operations.map (·.operation)) = .ok (archive, answers) ∧
      answers.length = operations.length ∧ Chronicle (operations.zip answers) archive := by
  obtain ⟨archive, answers, hperform, hlength, hrecorded⟩ :=
    Recorded.start.exists_performAll operations
  -- every number that was given counts a run that was saved
  have hsaves : (operations.zip answers).countP (·.1.isSave) = operations.countP (·.isSave) := by
    conv_rhs => rw [← List.map_fst_zip (Nat.le_of_eq hlength.symm), List.countP_map]
    rfl
  have hlast : archive.lastId = operations.countP (·.isSave) := by
    rw [hrecorded.lastId_eq, List.nil_append, hsaves]
  refine ⟨archive, answers, hperform, hlength, hrecorded.chronicle ?_⟩
  simpa only [hlast] using hids

/-- A run that is saved again after it was deleted gets the number 3, which was never given. -/
theorem chronicle_of_performAll_again : ∃ run : PlainRun, run.key = "aa" ∧ ∃ archive answers,
    empty.performAll [.save run.record, .save run.record, .invalidate (.str "bb"),
      .delete (.int 2), .save run.record] = .ok (archive, answers) ∧
    answers = [.saved 1, .saved 2, .invalidated 0, .deleted true, .saved 3] ∧
    Chronicle ([.save run, .save run, .invalidate "bb" rfl, .delete 2 rfl, .save run].zip answers)
      archive := by
  have hencodable : ∀ text ∈ ["aa", "\x7b\x7d", "1.21", "[]"], Cell.encodable text = .ok text := by
    decide
  let run : PlainRun := ⟨"aa", "\x7b\x7d", "1.21", "[]", 1, 0, ⟨2026, 1, 31, 23, 59, 59, 0⟩,
    hencodable, rfl, rfl, ⟨by decide, by decide, by decide, rfl⟩⟩
  have hids : Cell.fitsInteger ([PlainOperation.save run, .save run, .invalidate "bb" rfl,
      .delete 2 rfl, .save run].countP (·.isSave)) = true := by
    change Cell.fitsInteger (3 : Nat) = true
    decide
  obtain ⟨archive, answers, hperform, -, hchronicle⟩ := chronicle_of_performAll _ hids
  refine ⟨run, rfl, archive, answers, hperform, ?_, hchronicle⟩
  -- the answers by evaluation
  simp [performAll, PlainOperation.perform_operation, PlainOperation.effect, empty, run,
    PlainRun.stored, Except.ok_bind] at hperform
  exact hperform.2.symm

end Archive

end Reidentify

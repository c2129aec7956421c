import Reidentify.Archive.Store
import Reidentify.Proofs.Text.Names
import Reidentify.Proofs.Trail.Result

/-!
# Operations of the archive

The archive is changed by three operations: a run is saved, the run of a key is invalidated, or the
run of a number is deleted. An operation that fails changes nothing. All operations keep the archive
sound: no two runs have the same key or the same number, and no number is above the last one that
was given. A number that was given is never given again, so whatever happens later, a run that is
found by it is the run that had it before.

## Main definitions

* `Archive.Operation`, `Archive.Answer`: the operations and their answers.
* `Archive.after`, `Archive.afterAll`: the archive that operations leave.
* `Archive.Sound`: keys and numbers tell the runs of an archive apart.
* `Archive.Operation.Spares`: an operation has nothing to do with a run.

## Main statements

* `Archive.Sound.afterAll`: operations keep an archive sound.
* `Archive.mem_afterAll_of_spares`: operations keep a run that they spare.
* `Archive.mem_of_mem_afterAll`: no operation brings back a number that was given before.
* `Archive.Sound.getById_eq_some_iff`, `Archive.Sound.get_eq_some_iff`: what is found.
-/

namespace Reidentify

namespace Archive

/-- The operations that change an archive, with any values that may be given to them (`perform`). -/
inductive Operation where
  /-- A run is saved as its `record` says. -/
  | save (record : RunRecord)
  /-- The run of a `key` is removed. -/
  | invalidate (key : Value)
  /-- The run of a number `id` is removed. -/
  | delete (id : Value)

/-- The answers that `perform` gives to operations that go through. -/
inductive Answer where
  /-- The number `id` of the run that was saved. -/
  | saved (id : Int)
  /-- The `count` of the runs that were removed by their key. -/
  | invalidated (count : Nat)
  /-- Whether a run was removed by its number. -/
  | deleted (found : Bool)
  deriving DecidableEq

/-- What `perform` leaves of a `Sound` archive is sound. -/
def perform (archive : Archive) : Operation → Except Fault (Archive × Answer)
  | .save record => (archive.save record).map fun (next, id) => (next, .saved id)
  | .invalidate key => (archive.invalidate key).map fun (next, count) => (next, .invalidated count)
  | .delete id => (archive.delete id).map fun (next, found) => (next, .deleted found)

/-- Performs operations one after the other with `perform`, up to the first fault. -/
def performAll (archive : Archive) : List Operation → Except Fault (Archive × List Answer)
  | [] => .ok (archive, [])
  | operation :: rest => do
    let (next, answer) ← archive.perform operation
    let (last, answers) ← next.performAll rest
    return (last, answer :: answers)

/-- The archive that an `operation` leaves. An operation that fails changes nothing. -/
def after (archive : Archive) (operation : Operation) : Archive :=
  match archive.perform operation with
  | .ok (next, _) => next
  | .error _ => archive

/-- The archive that `operations` leave, one after the other, whether or not some of them fail. -/
def afterAll (archive : Archive) (operations : List Operation) : Archive :=
  operations.foldl after archive

/-- The text that a value is in the column of keys, if it is one (`Cell.ofValue`). -/
def keyText? (key : Value) : Option String :=
  match Cell.ofValue 1 key with
  | .ok cell => cell.asText?
  | .error _ => none

/-- An operation has nothing to do with a `run`: it saves or removes a run of another key, or a run
of another number. -/
def Operation.Spares (run : StoredRun) : Operation → Prop
  | .save record => keyText? record.key ≠ some run.key
  | .invalidate key => keyText? key ≠ some run.key
  | .delete id => ∀ cell, Cell.ofValue 1 id = .ok cell → isId cell run = false

/-- Keys and numbers tell the runs of an `archive` apart, and no number is above its `lastId`. -/
structure Sound (archive : Archive) : Prop where
  /-- No two runs have the same key. -/
  nodup_keys : (archive.runs.map (·.key)).Nodup
  /-- No two runs have the same number. -/
  nodup_ids : (archive.runs.map (·.id)).Nodup
  /-- Every number was given, so it is at most `lastId`. -/
  id_le : ∀ run ∈ archive.runs, run.id ≤ archive.lastId

variable {archive next : Archive} {operation : Operation} {operations : List Operation}
  {answer : Answer} {record : RunRecord} {run row : StoredRun} {id : Int}

/-- The run that `rowOf` makes of a `record` has the number `id` and the key of the record. -/
theorem id_and_key_of_rowOf (h : rowOf id record = .ok row) :
    row.id = id ∧ keyText? record.key = some row.key := by
  unfold rowOf at h
  obtain ⟨key, hkey, h⟩ := Except.bind_eq_ok_iff.1 h
  obtain ⟨revision, -, h⟩ := Except.bind_eq_ok_iff.1 h
  obtain ⟨report, -, h⟩ := Except.bind_eq_ok_iff.1 h
  obtain ⟨hooks, -, h⟩ := Except.bind_eq_ok_iff.1 h
  obtain ⟨resolved, -, h⟩ := Except.bind_eq_ok_iff.1 h
  obtain ⟨failed, -, h⟩ := Except.bind_eq_ok_iff.1 h
  obtain ⟨keyText, hkeyText, h⟩ := Except.bind_eq_ok_iff.1 h
  obtain ⟨reportText, -, h⟩ := Except.bind_eq_ok_iff.1 h
  cases h
  refine ⟨rfl, ?_⟩
  unfold required at hkeyText
  split at hkeyText
  · next text htext =>
    cases hkeyText
    simp [keyText?, hkey, htext]
  · cases hkeyText

/-- A run that is saved gets the number behind `lastId` and comes in place of the run of its key. -/
theorem save_eq_ok_iff : archive.save record = .ok (next, id) ↔ id = archive.lastId + 1 ∧
    ∃ row, rowOf (archive.lastId + 1) record = .ok row ∧
      next = ⟨archive.runs.filter (·.key != row.key) ++ [row], archive.lastId + 1⟩ := by
  unfold save
  dsimp only
  cases rowOf (archive.lastId + 1) record with
  | error fault => simp
  | ok row =>
    constructor
    · intro h
      cases h
      exact ⟨rfl, row, rfl, rfl⟩
    · rintro ⟨rfl, _, hrow, rfl⟩
      cases hrow
      rfl

/-- If `perform` goes through, it saves a run in place of the runs of its key, or `keeps` some of
the runs, among them all that the operation `Spares`. -/
theorem perform_cases (h : archive.perform operation = .ok (next, answer)) :
    (∃ record row, operation = .save record ∧ rowOf (archive.lastId + 1) record = .ok row ∧
      answer = .saved (archive.lastId + 1) ∧
      next = ⟨archive.runs.filter (·.key != row.key) ++ [row], archive.lastId + 1⟩) ∨
    (∃ keeps : StoredRun → Bool, (∀ run, operation.Spares run → keeps run = true) ∧
      next = { archive with runs := archive.runs.filter keeps }) := by
  -- a save leaves a new run, an invalidation and a deletion leave a part of the runs
  cases operation with
  | save record =>
    left
    cases hsave : archive.save record with
    | error fault => simp [perform, hsave, Except.map] at h
    | ok saved =>
      obtain ⟨hid, row, hrow, hnext⟩ := save_eq_ok_iff.1 hsave
      simp only [perform, hsave, Except.map, Except.ok.injEq, Prod.mk.injEq] at h
      obtain ⟨rfl, rfl⟩ := h
      exact ⟨record, row, rfl, hrow, by rw [hid], hnext⟩
  | invalidate key =>
    right
    simp only [perform, invalidate] at h
    cases hcell : Cell.ofValue 1 key with
    | error fault => simp [hcell, Except.map] at h
    | ok cell =>
      cases htext : cell.asText? with
      | none =>
        simp only [hcell, Except.map, htext, Except.ok.injEq, Prod.mk.injEq] at h
        exact ⟨fun _ => true, by simp, by simp [← h.1]⟩
      | some text =>
        simp only [hcell, Except.map, htext, Except.ok.injEq, Prod.mk.injEq] at h
        refine ⟨(·.key != text), fun run hspares => ?_, h.1.symm⟩
        have hne : text ≠ run.key := by
          simpa [Operation.Spares, keyText?, hcell, htext] using hspares
        simpa using hne.symm
  | delete id =>
    right
    simp only [perform, delete] at h
    cases hcell : Cell.ofValue 1 id with
    | error fault => simp [hcell, Except.map] at h
    | ok cell =>
      simp only [hcell, Except.map, Except.ok.injEq, Prod.mk.injEq] at h
      refine ⟨fun run => !isId cell run, fun run hspares => ?_, h.1.symm⟩
      simp [hspares cell hcell]

/-- The archive `after` an operation is the same one, or the one that `perform` ends with. -/
theorem after_cases (archive : Archive) (operation : Operation) :
    archive.after operation = archive ∨
      ∃ answer, archive.perform operation = .ok (archive.after operation, answer) := by
  unfold after
  split
  · next next answer hperform => exact .inr ⟨answer, hperform⟩
  · exact .inl rfl

/-- The number of a run is compared with an integer `id` as such. -/
theorem isId_integer (id : Int) : isId (.integer id) = fun run => run.id == id := by
  funext run
  rw [Bool.eq_iff_iff]
  simp only [isId, Cell.asInteger, beq_iff_eq, Cell.integer.injEq]
  exact eq_comm

/-- A text is looked up among the keys as it is, if it can be encoded. -/
theorem get_str (archive : Archive) {key : String} (hkey : Cell.encodable key = .ok key) :
    archive.get (.str key) = .ok (archive.runs.find? (·.key == key)) := by
  simp [get, Cell.ofValue, hkey, Except.map, Cell.asText?]

/-- An integer is looked up among the numbers as it is, if it fits into a column. -/
theorem getById_int (archive : Archive) (hfits : Cell.fitsInteger id = true) :
    archive.getById (.int id) = .ok (archive.runs.find? (·.id == id)) := by
  simp [getById, Cell.ofValue, hfits, Except.map, isId_integer]

theorem invalidate_str (archive : Archive) {key : String} (hkey : Cell.encodable key = .ok key) :
    archive.invalidate (.str key) =
      .ok ({ archive with runs := archive.runs.filter (·.key != key) },
        archive.runs.countP (·.key == key)) := by
  simp [invalidate, Cell.ofValue, hkey, Except.map, Cell.asText?]

theorem delete_int (archive : Archive) (hfits : Cell.fitsInteger id = true) :
    archive.delete (.int id) = .ok ({ archive with runs := archive.runs.filter (·.id != id) },
      archive.runs.any (·.id == id)) := by
  simp [delete, Cell.ofValue, hfits, Except.map, isId_integer]
  rfl

/-- By an integer that does not fit into a column nothing can be looked up: there is the fault
`overflow`. -/
theorem getById_eq_overflow (hlarge : ¬ Cell.fitsInteger id = true) :
    archive.getById (.int id) = .error (.overflow .column) := by
  rw [getById, Cell.ofValue, if_neg hlarge]
  rfl

theorem delete_eq_overflow (hlarge : ¬ Cell.fitsInteger id = true) :
    archive.delete (.int id) = .error (.overflow .column) := by
  rw [delete, Cell.ofValue, if_neg hlarge]
  rfl

theorem sound_empty : Sound empty where
  nodup_keys := List.nodup_nil
  nodup_ids := List.nodup_nil
  id_le := by simp [empty]

namespace Sound

/-- Runs can be removed from a `Sound` archive, whichever it `keeps`. -/
theorem filter (h : Sound archive) (keeps : StoredRun → Bool) :
    Sound { archive with runs := archive.runs.filter keeps } where
  nodup_keys := h.nodup_keys.sublist (List.filter_sublist.map _)
  nodup_ids := h.nodup_ids.sublist (List.filter_sublist.map _)
  id_le := fun run hmem => h.id_le run (List.mem_of_mem_filter hmem)

/-- A run `row` with the next number can be added to a `Sound` archive that has no run of its key.
-/
theorem append (h : Sound archive) (hkey : ∀ run ∈ archive.runs, run.key ≠ row.key)
    (hid : row.id = archive.lastId + 1) : Sound ⟨archive.runs ++ [row], archive.lastId + 1⟩ where
  nodup_keys := by
    simp only [List.map_append, List.map_singleton, List.nodup_append, h.nodup_keys,
      List.nodup_singleton, List.mem_map, List.mem_singleton, true_and]
    rintro _ ⟨run, hmem, rfl⟩ _ rfl
    exact hkey run hmem
  nodup_ids := by
    simp only [List.map_append, List.map_singleton, List.nodup_append, h.nodup_ids,
      List.nodup_singleton, List.mem_map, List.mem_singleton, true_and]
    rintro _ ⟨run, hmem, rfl⟩ _ rfl
    have := h.id_le run hmem
    omega
  id_le := by
    intro run hmem
    rcases List.mem_append.1 hmem with hold | hnew
    · have := h.id_le run hold
      dsimp only
      omega
    · exact Int.le_of_eq (by rw [List.mem_singleton.1 hnew, hid])

/-- Operations keep an archive `Sound`: `perform` leaves a sound archive `next`. -/
theorem perform (h : Sound archive) (hperform : archive.perform operation = .ok (next, answer)) :
    Sound next := by
  rcases perform_cases hperform with ⟨record, row, -, hrow, -, rfl⟩ | ⟨keeps, -, rfl⟩
  · refine (h.filter (·.key != row.key)).append ?_ (id_and_key_of_rowOf hrow).1
    intro run hmem
    simpa using (List.mem_filter.1 hmem).2
  · exact h.filter keeps

theorem save (h : Sound archive) (hsave : archive.save record = .ok (next, id)) : Sound next := by
  have hperform : archive.perform (.save record) = .ok (next, .saved id) := by
    rw [Archive.perform, hsave]
    rfl
  exact h.perform hperform

theorem after (h : Sound archive) (operation : Operation) : Sound (archive.after operation) := by
  rcases after_cases archive operation with hsame | ⟨answer, hperform⟩
  · rwa [hsame]
  · exact h.perform hperform

theorem afterAll (h : Sound archive) (operations : List Operation) :
    Sound (archive.afterAll operations) := by
  induction operations generalizing archive with
  | nil => exact h
  | cons operation rest ih => exact ih (h.after operation)

/-- By a number `id` exactly the `run` that has it is found in a `Sound` archive. -/
theorem getById_eq_some_iff (h : Sound archive) (hfits : Cell.fitsInteger id = true) :
    archive.getById (.int id) = .ok (some run) ↔ run ∈ archive.runs ∧ run.id = id := by
  rw [getById_int archive hfits, Except.ok.injEq]
  exact Text.find?_eq_some_iff_of_nodup h.nodup_ids

/-- By a `key` exactly the `run` that has it is found in a `Sound` archive. -/
theorem get_eq_some_iff (h : Sound archive) {key : String} (hkey : Cell.encodable key = .ok key) :
    archive.get (.str key) = .ok (some run) ↔ run ∈ archive.runs ∧ run.key = key := by
  rw [get_str archive hkey, Except.ok.injEq]
  exact Text.find?_eq_some_iff_of_nodup h.nodup_keys

/-- If by the number of a `run` in a `Sound` archive anything is found, it is this run. -/
theorem eq_of_getById (h : Sound archive) (hmem : run ∈ archive.runs)
    (hfound : archive.getById (.int run.id) = .ok (some row)) : row = run := by
  have hfits : Cell.fitsInteger run.id = true := by
    by_contra hlarge
    rw [getById_eq_overflow hlarge] at hfound
    cases hfound
  have hrun := (h.getById_eq_some_iff hfits).2 ⟨hmem, rfl⟩
  exact Option.some.inj (Except.ok.inj (hfound.symm.trans hrun))

end Sound

/-- The `lastId` never falls, whatever the `operation` is. -/
theorem lastId_le_after (archive : Archive) (operation : Operation) :
    archive.lastId ≤ (archive.after operation).lastId := by
  rcases after_cases archive operation with hsame | ⟨answer, hperform⟩
  · exact Int.le_of_eq (by rw [hsame])
  · rcases perform_cases hperform with ⟨_, _, -, -, -, hnext⟩ | ⟨_, -, hnext⟩
    · rw [hnext]
      dsimp only
      omega
    · exact Int.le_of_eq (by rw [hnext])

/-- A `run` that an `operation` spares (`Spares`) is still there after it. -/
theorem mem_after_of_spares (hmem : run ∈ archive.runs) (hspares : operation.Spares run) :
    run ∈ (archive.after operation).runs := by
  rcases after_cases archive operation with hsame | ⟨answer, hperform⟩
  · rwa [hsame]
  · rcases perform_cases hperform with ⟨record, row, rfl, hrow, -, hnext⟩ | ⟨keeps, hkeeps, hnext⟩
    · rw [hnext, List.mem_append, List.mem_filter]
      refine .inl ⟨hmem, ?_⟩
      -- the saved run has another key
      have hne : row.key ≠ run.key := by
        simpa [Operation.Spares, (id_and_key_of_rowOf hrow).2] using hspares
      simpa using hne.symm
    · rw [hnext, List.mem_filter]
      exact ⟨hmem, hkeeps run hspares⟩

theorem mem_afterAll_of_spares (hmem : run ∈ archive.runs)
    (hspares : ∀ operation ∈ operations, operation.Spares run) :
    run ∈ (archive.afterAll operations).runs := by
  induction operations generalizing archive with
  | nil => exact hmem
  | cons operation rest ih =>
    obtain ⟨hfirst, hrest⟩ := List.forall_mem_cons.1 hspares
    exact ih (mem_after_of_spares hmem hfirst) hrest

/-- A `run` with a number up to `lastId` that is there after an operation was there before: the
numbers that are given are new. -/
theorem mem_of_mem_after (hid : run.id ≤ archive.lastId)
    (hmem : run ∈ (archive.after operation).runs) : run ∈ archive.runs := by
  rcases after_cases archive operation with hsame | ⟨answer, hperform⟩
  · rwa [hsame] at hmem
  · rcases perform_cases hperform with ⟨record, row, -, hrow, -, hnext⟩ | ⟨keeps, -, hnext⟩
    · rw [hnext] at hmem
      rcases List.mem_append.1 hmem with hold | hnew
      · exact List.mem_of_mem_filter hold
      · rw [List.mem_singleton.1 hnew, (id_and_key_of_rowOf hrow).1] at hid
        omega
    · rw [hnext] at hmem
      exact List.mem_of_mem_filter hmem

/-- Operations never bring back a number up to `lastId`: a `run` that has one after them was there
before. -/
theorem mem_of_mem_afterAll (hid : run.id ≤ archive.lastId)
    (hmem : run ∈ (archive.afterAll operations).runs) : run ∈ archive.runs := by
  -- by induction on the operations; the last number only grows, so the bound is kept
  induction operations generalizing archive with
  | nil => exact hmem
  | cons operation rest ih =>
    exact mem_of_mem_after hid (ih (Int.le_trans hid (lastId_le_after archive operation)) hmem)

end Archive

end Reidentify

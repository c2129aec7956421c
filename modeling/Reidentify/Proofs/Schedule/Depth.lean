import Reidentify.Proofs.Schedule.Layering

/-!
# Depths

The depth of a name is the number of the wave that it is in. A task without dependencies is in the
first wave, and any other task in the wave right behind the last one of its dependencies: it is not
ready earlier, and it does not wait any longer. So a chain of dependencies always leads to smaller
depths, and no member of a circle is in a wave.

## Main definitions

* `Schedule.depth`: the number of the wave of a name.
* `Schedule.Prompt`: tasks do not wait any longer than they have to.

## Main statements

* `Schedule.prompt_layers`: the layers of tasks are prompt.
* `Schedule.IsLayering.depth_eq_of_max?`: the depth of a task is one more than the greatest depth
  among its dependencies.
* `Schedule.IsLayering.depth_lt_of_transGen`: chains of dependencies lead to smaller depths.
-/

namespace Reidentify.Schedule

variable {waves : List (List String)} {name : String} {k : Nat}

/-- The number of the first of the `waves` with the `name`, or `waves.length` if there is none. -/
def depth (waves : List (List String)) (name : String) : Nat :=
  waves.findIdx (·.contains name)

/-- A `name` is in one of the `waves` iff its `depth` is the number of a wave, i.e. less than
`waves.length`. -/
theorem mem_flatten_iff : name ∈ waves.flatten ↔ depth waves name < waves.length := by
  rw [depth, List.findIdx_lt_length, List.mem_flatten]
  simp only [List.contains_iff_mem]

/-- The names of the first `k` waves are exactly those with `depth waves name < k`. -/
theorem mem_flatten_take_iff (hk : k ≤ waves.length) :
    name ∈ (waves.take k).flatten ↔ depth waves name < k := by
  have hdepth : depth (waves.take k) name = min k (depth waves name) := List.findIdx_take
  rw [mem_flatten_iff, hdepth, List.length_take]
  omega

/-- The `waves` can be cut at any `k`: `waves.take k` in front, the wave `waves[k]`, and the others
behind it. -/
theorem eq_take_append_cons (hk : k < waves.length) :
    waves = waves.take k ++ waves[k] :: waves.drop (k + 1) := by
  rw [← List.drop_eq_getElem_cons, List.take_append_drop]

/-- A name of the waves stands in the wave whose number is its `depth`. -/
theorem mem_getElem_depth (h : depth waves name < waves.length) :
    name ∈ waves[depth waves name] := by
  have hcontains : (waves[depth waves name]).contains name = true :=
    List.findIdx_getElem (w := h)
  exact List.contains_iff_mem.1 hcontains

/-- If the waves without repetition are split at a `name` in `waves.flatten`, any `other` name of a
smaller `depth` is in the part `before`. -/
theorem mem_of_depth_lt {before after : List String} {other : String}
    (hnodup : waves.flatten.Nodup) (hsplit : waves.flatten = before ++ name :: after)
    (h : depth waves other < depth waves name) : other ∈ before := by
  -- the wave of the name gives a second split of the same list; a name stands in it only once,
  have hname : name ∈ waves.flatten := by
    rw [hsplit]
    exact List.mem_append_cons_self
  have hlt := mem_flatten_iff.1 hname
  obtain ⟨front, back, hwave⟩ := List.append_of_mem (mem_getElem_depth hlt)
  -- the waves up to the one of the name are cut in front of the name, too
  have hcut : waves.flatten = ((waves.take (depth waves name)).flatten ++ front) ++
      name :: (back ++ (waves.drop (depth waves name + 1)).flatten) := by
    conv_lhs => rw [eq_take_append_cons hlt, hwave]
    simp
  rw [hsplit] at hnodup
  have hfront : name ∉ before := fun hmem =>
    List.disjoint_of_nodup_append hnodup hmem (List.mem_cons_self ..)
  have hback : name ∉ after := (List.nodup_cons.1 hnodup.of_append_right).1
  -- so both splits are the same, and the earlier waves are a part of `before`
  have hbefore := (List.append_cons_inj_of_notMem hfront hback).1 (hsplit.symm.trans hcut)
  rw [hbefore.1]
  exact List.mem_append_left _ ((mem_flatten_take_iff hlt.le).2 h)

section Promptness

/-- In prompt `waves` no task is kept waiting: as soon as all its `dependencies` are in the waves
`before`, its name is in one of these or in the next `wave`. -/
def Prompt (tasks : List Task) (waves : List (List String)) : Prop :=
  ∀ before wave after, waves = before ++ wave :: after → ∀ task ∈ tasks,
    (∀ name ∈ task.dependencies, name ∈ before.flatten) → task.name ∈ before.flatten ++ wave

/-- If the `rest` is prompt for the tasks that `release` leaves behind, the sorted `readyNames` in
front of it are prompt for all `tasks`. -/
theorem Prompt.cons {tasks : List Task} {rest : List (List String)}
    (h : Prompt (release (readyNames tasks) (waiting tasks)) rest) :
    Prompt tasks (Text.sortedNames (readyNames tasks) :: rest) := by
  intro before wave after heq task hmem hdependencies
  by_cases hnone : task.dependencies = []
  · -- the task is in the first wave, wherever the waves are cut
    have hready : task.name ∈ Text.sortedNames (readyNames tasks) :=
      Text.mem_sortedNames.2 (mem_readyNames hmem hnone)
    rcases List.cons_eq_append_iff.1 heq with ⟨rfl, hfirst⟩ | ⟨others, rfl, -⟩
    · cases hfirst
      exact hready
    · rw [List.flatten_cons, List.append_assoc]
      exact List.mem_append_left _ hready
  · rcases List.cons_eq_append_iff.1 heq with ⟨rfl, -⟩ | ⟨others, rfl, hothers⟩
    · -- in front of the first wave there is nothing that it could depend on
      obtain ⟨first, hfirst⟩ := List.exists_mem_of_ne_nil _ hnone
      exact absurd (hdependencies first hfirst) List.not_mem_nil
    · have hwaiting : task ∈ waiting tasks := mem_waiting hmem hnone
      have hrest := h others wave after hothers _ (mem_release_iff.2 ⟨task, hwaiting, rfl⟩)
      rw [List.flatten_cons, List.append_assoc]
      refine List.mem_append_right _ (hrest fun name hname => ?_)
      -- what the task still waits for was not ready, so it is in one of the other waves
      obtain ⟨hname, hunready⟩ := mem_filter_not_contains.1 hname
      have hearlier := hdependencies name hname
      rw [List.flatten_cons, List.mem_append, Text.mem_sortedNames] at hearlier
      exact hearlier.resolve_left hunready

/-- The waves that `layers` computes are `Prompt`, for any `fuel` and any `tasks`. -/
theorem prompt_layers (fuel : Nat) (tasks : List Task) :
    Prompt tasks (layers fuel tasks).waves := by
  have hnone (tasks : List Task) : Prompt tasks [] := fun before _ _ heq => by simp at heq
  -- by induction on the fuel, following `layers`: it stops with no wave, or adds one by
  -- `Prompt.cons`
  induction fuel generalizing tasks with
  | zero => exact hnone tasks
  | succ fuel ih =>
    by_cases hready : readyNames tasks = []
    · rw [layers_of_nil hready]
      exact hnone tasks
    · rw [layers_of_ne_nil hready]
      exact (ih _).cons

/-- No wave that `layers` computes is empty, since a wave is only added for `readyNames` that are
not `[]`. -/
theorem ne_nil_of_mem_layers {fuel : Nat} {tasks : List Task} {wave : List String}
    (h : wave ∈ (layers fuel tasks).waves) : wave ≠ [] := by
  induction fuel generalizing tasks with
  | zero => cases h
  | succ fuel ih =>
    by_cases hready : readyNames tasks = []
    · rw [layers_of_nil hready] at h
      cases h
    · rw [layers_of_ne_nil hready] at h
      rcases List.mem_cons.1 h with rfl | h
      · obtain ⟨name, hname⟩ := List.exists_mem_of_ne_nil _ hready
        exact List.ne_nil_of_mem (Text.mem_sortedNames.2 hname)
      · exact ih h

/-- In `Prompt` waves a task has `depth` at most `k` if all its `dependencies` are of depth less
than `k`. -/
theorem Prompt.depth_le {tasks : List Task} (h : Prompt tasks waves) {task : Task}
    (hmem : task ∈ tasks) (hk : k < waves.length)
    (hdependencies : ∀ name ∈ task.dependencies, depth waves name < k) :
    depth waves task.name ≤ k := by
  have hwave := h _ _ _ (eq_take_append_cons hk) task hmem fun name hname =>
    (mem_flatten_take_iff hk.le).2 (hdependencies name hname)
  -- the waves before `k` and the wave `k` are the first `k + 1` ones
  rw [← List.flatten_concat, List.take_concat_get' _ _ hk, mem_flatten_take_iff hk] at hwave
  omega

end Promptness

namespace IsLayering

variable {tasks : List Task} {layering : Layering} {task : Task}

/-- A dependency of a task in the waves of a layering has a smaller `depth` than the task. -/
theorem depth_lt (h : IsLayering tasks layering) (hmem : task ∈ tasks)
    (hwave : task.name ∈ layering.waves.flatten) (hname : name ∈ task.dependencies) :
    depth layering.waves name < depth layering.waves task.name := by
  have hlt := mem_flatten_iff.1 hwave
  rw [← mem_flatten_take_iff hlt.le]
  exact h.ready _ _ _ (eq_take_append_cons hlt) task hmem (mem_getElem_depth hlt) name hname

/-- In a `Prompt` layering a task without `dependencies` is in the first wave, of `depth` 0. -/
theorem depth_eq_zero (hprompt : Prompt tasks layering.waves) (hmem : task ∈ tasks)
    (hwave : task.name ∈ layering.waves.flatten) (hnone : task.dependencies = []) :
    depth layering.waves task.name = 0 := by
  have hlt := mem_flatten_iff.1 hwave
  refine Nat.le_zero.1 (hprompt.depth_le hmem (by omega) fun name hname => ?_)
  rw [hnone] at hname
  cases hname

/-- In a `Prompt` layering a task with dependencies has `depth` one more than the `greatest` depth
among them, so it is in the wave right behind the last of them. -/
theorem depth_eq_of_max? (h : IsLayering tasks layering) (hprompt : Prompt tasks layering.waves)
    (hmem : task ∈ tasks) (hwave : task.name ∈ layering.waves.flatten) {greatest : Nat}
    (hgreatest : (task.dependencies.map (depth layering.waves)).max? = some greatest) :
    depth layering.waves task.name = greatest + 1 := by
  obtain ⟨hsome, hall⟩ := List.max?_eq_some_iff.1 hgreatest
  obtain ⟨last, hlast, heq⟩ := List.mem_map.1 hsome
  have hlt := mem_flatten_iff.1 hwave
  -- it stands behind the last one, and in the wave behind that one it is ready
  have hbehind := h.depth_lt hmem hwave hlast
  have hready : depth layering.waves task.name ≤ greatest + 1 := by
    refine hprompt.depth_le hmem (by omega) fun name hname => ?_
    have := hall _ (List.mem_map_of_mem hname)
    omega
  omega

end IsLayering

section Chains

variable {schedule : Schedule}

/-- From a name in the waves every chain of `prerequisites` leads to a name of smaller `depth`,
however long the chain is. -/
theorem IsLayering.depth_lt_of_transGen {layering : Layering}
    (h : IsLayering schedule.tasks layering) {a b : String} (ha : a ∈ layering.waves.flatten)
    (hchain : Relation.TransGen (Steps schedule.prerequisites) a b) :
    depth layering.waves b < depth layering.waves a := by
  -- one step leads from a wave to an earlier one, and so the next step starts from a wave, too
  have hstep {a b : String} (ha : a ∈ layering.waves.flatten)
      (hsteps : Steps schedule.prerequisites a b) :
      depth layering.waves b < depth layering.waves a := by
    obtain ⟨task, htask, rfl, hdependency⟩ := exists_task_of_steps hsteps
    exact h.depth_lt htask ha hdependency
  -- by induction on the chain; its last step starts from a name that is in a wave, by what is known
  -- so far
  induction hchain with
  | single hsteps => exact hstep ha hsteps
  | tail _ hsteps ih =>
    have hmiddle := mem_flatten_iff.1 ha
    exact (hstep (mem_flatten_iff.2 (ih.trans hmiddle)) hsteps).trans ih

end Chains

end Reidentify.Schedule

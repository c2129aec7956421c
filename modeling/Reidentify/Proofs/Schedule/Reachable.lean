import Mathlib.Logic.Relation
import Reidentify.Pass.Schedule

/-!
# Reachable names

A name is explored by stepping from it, and from every name that is found, once. The number of
names that are looked at is bounded, because every one of them but the first ones is found by a
step, and no more steps than dependencies are ever taken. So the exploration ends before its fuel
does, and it has found exactly the names that can be reached.

## Main definitions

* `Schedule.Exploration`: what holds while names are explored.

## Main statements

* `Schedule.explore_exploration`: an exploration with enough fuel ends without pending names.
* `Schedule.mem_reachable_iff`: a name is found iff one or more steps lead to it.
* `Schedule.mem_reachable_prerequisites_iff`: for dependencies there is always enough fuel.
-/

namespace Reidentify.Schedule

variable {step : String → List String} {start pending reached : List String}

/-- A name `b` is one step from `a` if it is listed in `step a`; this is `step` as a relation. -/
def Steps (step : String → List String) (a b : String) : Prop :=
  b ∈ step a

/-- What holds while `explore` goes from the `start` along `step`: some names have been `reached`,
others are `pending`. -/
structure Exploration (step : String → List String) (start pending reached : List String) :
    Prop where
  /-- No name is stepped from twice, so `reached` has no repetition. -/
  nodup : reached.Nodup
  /-- A name that is reached or pending is led to by some steps from one of the `start`. -/
  sound : ∀ x, x ∈ reached ∨ x ∈ pending →
    ∃ first ∈ start, Relation.ReflTransGen (Steps step) first x
  /-- The names of `start` have been reached, or they are pending. -/
  first : ∀ x ∈ start, x ∈ reached ∨ x ∈ pending
  /-- What one `step` from a reached name leads to has been reached, or is pending. -/
  closed : ∀ x ∈ reached, ∀ y ∈ step x, y ∈ reached ∨ y ∈ pending

namespace Exploration

/-- At the beginning all names of `start` are pending and nothing has been reached. -/
theorem initial (step : String → List String) (start : List String) :
    Exploration step start start [] where
  nodup := .nil
  sound x hx := ⟨x, hx.resolve_left List.not_mem_nil, .refl⟩
  first _ hx := .inr hx
  closed _ hx := absurd hx List.not_mem_nil

/-- A pending `name` that has been reached already is passed over, which keeps the `Exploration`. -/
theorem pass {name : String} (h : Exploration step start (name :: pending) reached)
    (hname : name ∈ reached) : Exploration step start pending reached where
  nodup := h.nodup
  sound x hx := h.sound x (hx.imp_right (List.mem_cons_of_mem _))
  first x hx := by
    rcases h.first x hx with hx | hx
    · exact .inl hx
    · rcases List.mem_cons.1 hx with rfl | hx
      · exact .inl hname
      · exact .inr hx
  closed x hx y hy := by
    rcases h.closed x hx y hy with hy | hy
    · exact .inl hy
    · rcases List.mem_cons.1 hy with rfl | hy
      · exact .inl hname
      · exact .inr hy

/-- A pending `name` that is new becomes reached and what it steps to becomes pending, which keeps
the `Exploration`. -/
theorem visit {name : String} (h : Exploration step start (name :: pending) reached)
    (hname : name ∉ reached) :
    Exploration step start (step name ++ pending) (name :: reached) where
  nodup := List.nodup_cons.2 ⟨hname, h.nodup⟩
  sound x hx := by
    obtain ⟨first, hfirst, hsteps⟩ := h.sound name (.inr (List.mem_cons_self ..))
    rcases hx with hx | hx
    · rcases List.mem_cons.1 hx with rfl | hx
      · exact ⟨first, hfirst, hsteps⟩
      · exact h.sound x (.inl hx)
    · -- a name that is found now is one step behind the name that is visited
      rcases List.mem_append.1 hx with hx | hx
      · exact ⟨first, hfirst, hsteps.tail hx⟩
      · exact h.sound x (.inr (List.mem_cons_of_mem _ hx))
  first x hx := by
    rcases h.first x hx with hx | hx
    · exact .inl (List.mem_cons_of_mem _ hx)
    · rcases List.mem_cons.1 hx with rfl | hx
      · exact .inl (List.mem_cons_self ..)
      · exact .inr (List.mem_append_right _ hx)
  closed x hx y hy := by
    rcases List.mem_cons.1 hx with rfl | hx
    · exact .inr (List.mem_append_left _ hy)
    · rcases h.closed x hx y hy with hy | hy
      · exact .inl (List.mem_cons_of_mem _ hy)
      · rcases List.mem_cons.1 hy with rfl | hy
        · exact .inl (List.mem_cons_self ..)
        · exact .inr (List.mem_append_right _ hy)

/-- When nothing is pending any more, exactly the names that steps from `start` lead to have been
reached. -/
theorem mem_iff (h : Exploration step start [] reached) {x : String} :
    x ∈ reached ↔ ∃ first ∈ start, Relation.ReflTransGen (Steps step) first x := by
  constructor
  · exact fun hx => h.sound x (.inl hx)
  · rintro ⟨first, hfirst, hsteps⟩
    -- nothing is pending, so the reached names are closed under steps
    induction hsteps with
    | refl => exact (h.first first hfirst).resolve_right List.not_mem_nil
    | tail _ hstep ih => exact (h.closed _ ih _ hstep).resolve_right List.not_mem_nil

end Exploration

/-- The number of steps that can be taken from some `names` in total. -/
def stepCount (step : String → List String) (names : List String) : Nat :=
  (names.flatMap step).length

@[simp] theorem stepCount_cons (step : String → List String) (name : String)
    (rest : List String) :
    stepCount step (name :: rest) = (step name).length + stepCount step rest := by
  rw [stepCount, List.flatMap_cons, List.length_append, stepCount]

/-- If `bound` is at least the `stepCount` of any distinct names, and the `fuel` exceeds the pending
names and the steps that are left, `explore` ends without pending names. -/
theorem explore_exploration {bound fuel : Nat}
    (hbound : ∀ names : List String, names.Nodup → stepCount step names ≤ bound)
    (h : Exploration step start pending reached)
    (hfuel : pending.length + bound < fuel + stepCount step reached) :
    Exploration step start [] (explore step fuel pending reached) := by
  -- by induction along `explore`; the fuel is compared with the pending names and the steps still
  -- to be taken
  fun_induction explore step fuel pending reached with
  | case1 =>
    -- without fuel more steps would have been taken than there are
    have := hbound _ h.nodup
    omega
  | case2 => exact h
  | case3 reached fuel name pending hname ih =>
    -- the name has been reached: a pending name less
    refine ih (h.pass (List.contains_iff_mem.1 hname)) ?_
    rw [List.length_cons] at hfuel
    omega
  | case4 reached fuel name pending hname ih =>
    -- the name is new: its steps become pending, and they count as taken
    refine ih (h.visit fun hmem => hname (List.contains_iff_mem.2 hmem)) ?_
    rw [List.length_cons] at hfuel
    rw [List.length_append, stepCount_cons]
    omega

/-- If the `edgeCount` bounds the steps from distinct names, `reachable step name` lists exactly
what one or more steps lead to, the transitive closure of `Steps step`. -/
theorem mem_reachable_iff {schedule : Schedule} {name x : String}
    (hbound : ∀ names : List String, names.Nodup → stepCount step names ≤ schedule.edgeCount) :
    x ∈ schedule.reachable step name ↔ Relation.TransGen (Steps step) name x := by
  have h : Exploration step (step name) [] (schedule.reachable step name) := by
    refine explore_exploration hbound (.initial step (step name)) ?_
    change _ < _ + 0
    omega
  rw [h.mem_iff, Relation.TransGen.head'_iff]
  rfl

section Prerequisites

variable {schedule : Schedule}

/-- A task in front of the `rest` has its own dependencies as the `prerequisites` of its name; any
other name has those that the `rest` gives it. -/
theorem prerequisites_cons (task : Task) (rest : List Task) (name : String) :
    (Schedule.mk (task :: rest)).prerequisites name =
      if task.name = name then task.dependencies else (Schedule.mk rest).prerequisites name := by
  unfold prerequisites find?
  rw [List.find?_cons]
  by_cases h : task.name = name
  · rw [if_pos h, beq_iff_eq.2 h]
  · rw [if_neg h, beq_eq_false_iff_ne.2 h]

/-- For `names` other than the one of a task, the task does not change the `stepCount` of
`prerequisites`. -/
theorem stepCount_prerequisites_cons_of_not_mem {task : Task} {rest : List Task}
    {names : List String} (h : task.name ∉ names) :
    stepCount (Schedule.mk (task :: rest)).prerequisites names =
      stepCount (Schedule.mk rest).prerequisites names := by
  have hsame : ∀ name ∈ names, (Schedule.mk (task :: rest)).prerequisites name =
      (Schedule.mk rest).prerequisites name := by
    intro name hmem
    rw [prerequisites_cons, if_neg]
    rintro rfl
    exact h hmem
  rw [stepCount, stepCount, List.flatMap_def, List.flatMap_def, List.map_congr_left hsame]

/-- For distinct `names` a task adds at most its own dependencies to the `stepCount` of
`prerequisites`. -/
theorem stepCount_prerequisites_cons_le (task : Task) (rest : List Task) {names : List String}
    (h : names.Nodup) :
    stepCount (Schedule.mk (task :: rest)).prerequisites names ≤
      task.dependencies.length + stepCount (Schedule.mk rest).prerequisites names := by
  -- by induction on the names, of which at most one is the name of the task
  induction names with
  | nil => exact Nat.zero_le _
  | cons name more ih =>
    obtain ⟨hname, hmore⟩ := List.nodup_cons.1 h
    rw [stepCount_cons, stepCount_cons, prerequisites_cons]
    split
    · next heq =>
      -- the task of this name, which comes up only once among distinct names
      rw [stepCount_prerequisites_cons_of_not_mem (heq ▸ hname)]
      omega
    · have := ih hmore
      omega

/-- The `edgeCount` with a task in front of the `rest` is larger by the number of its dependencies.
-/
theorem edgeCount_cons (task : Task) (rest : List Task) :
    (Schedule.mk (task :: rest)).edgeCount =
      task.dependencies.length + (Schedule.mk rest).edgeCount := by
  -- the count that a fold starts from is added to the result, whatever it is
  have hfold (count : Nat) (tasks : List Task) :
      tasks.foldl (fun count task => count + task.dependencies.length) count =
        count + tasks.foldl (fun count task => count + task.dependencies.length) 0 := by
    induction tasks generalizing count with
    | nil => rfl
    | cons task rest ih =>
      rw [List.foldl_cons, List.foldl_cons, ih, ih (0 + _)]
      omega
  unfold edgeCount
  rw [List.foldl_cons, hfold, Nat.zero_add]

/-- From distinct `names` no more steps to `prerequisites` can be taken than there are edges, so
`edgeCount` is the bound that an exploration needs. -/
theorem stepCount_prerequisites_le (schedule : Schedule) {names : List String} (h : names.Nodup) :
    stepCount schedule.prerequisites names ≤ schedule.edgeCount := by
  obtain ⟨tasks⟩ := schedule
  -- by induction on the tasks: each one adds at most its own dependencies
  induction tasks with
  | nil =>
    have hnone : names.flatMap (Schedule.mk []).prerequisites = [] :=
      List.flatMap_eq_nil_iff.2 fun _ _ => rfl
    rw [stepCount, hnone]
    exact Nat.zero_le _
  | cons task rest ih =>
    have := stepCount_prerequisites_cons_le task rest h
    rw [edgeCount_cons]
    omega

/-- A name `x` is `reachable` from `name` along `prerequisites` iff `name` depends on it, directly
or through others; the fuel always suffices. -/
theorem mem_reachable_prerequisites_iff {name x : String} :
    x ∈ schedule.reachable schedule.prerequisites name ↔
      Relation.TransGen (Steps schedule.prerequisites) name x :=
  mem_reachable_iff fun _ h => schedule.stepCount_prerequisites_le h

end Prerequisites

end Reidentify.Schedule

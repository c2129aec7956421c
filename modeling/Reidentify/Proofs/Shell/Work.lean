import Reidentify.Shell.Work

/-!
# How work on files ends

Work ends with a value if each of its pieces does, one after another, on the files that the piece
before it leaves. It fails where the first of its pieces does that fails. The notices that are given
on the way make no difference.

## Main definitions

* `Work.Ends`: work on files ends with a value and leaves files behind.
* `Work.Fails`: work on files ends with a fault and leaves files behind.

## Main statements

* `Work.ends_bind_iff`: how one piece of work after another ends.
* `Work.fails_bind_iff`: where one piece of work after another fails.
-/

namespace Reidentify.Work

variable {α β : Type} {files after last : Files} {a b : α} {c : β} {fault : Fault}

/-- The `work` on some `files` ends with a value `a` and leaves the files `after` behind. -/
def Ends (work : Work α) (files after : Files) (a : α) : Prop :=
  (work files).1 = after ∧ (work files).2.result = .ok a

/-- One piece of work after another ends as the second one, `next`, does on what the `first` one
leaves. -/
theorem ends_bind_iff {first : Work α} {next : α → Work β} :
    (first >>= next).Ends files last c ↔
      ∃ a after, first.Ends files after a ∧ (next a).Ends after last c := by
  change (first.andThen next).Ends files last c ↔ _
  unfold Ends andThen
  rcases first files with ⟨after, ⟨notices, result⟩⟩
  cases result with
  | error fault => simp
  | ok a =>
    constructor
    · intro h
      exact ⟨a, after, ⟨rfl, rfl⟩, h⟩
    · rintro ⟨_, _, ⟨rfl, hvalue⟩, h⟩
      cases hvalue
      exact h

theorem ends_pure_iff : (pure a : Work α).Ends files after b ↔ files = after ∧ a = b := by
  change files = after ∧ Except.ok a = .ok b ↔ _
  rw [Except.ok.injEq]

theorem ends_map_iff {work : Work α} {f : α → β} :
    (f <$> work).Ends files after c ↔ ∃ a, work.Ends files after a ∧ f a = c := by
  change (work >>= fun a => pure (f a)).Ends files after c ↔ _
  simp only [ends_bind_iff, ends_pure_iff]
  constructor
  · rintro ⟨a, _, hwork, rfl, rfl⟩
    exact ⟨a, hwork, rfl⟩
  · rintro ⟨a, hwork, rfl⟩
    exact ⟨a, after, hwork, rfl, rfl⟩

theorem ends_lift_iff {result : Except Fault α} :
    (lift result).Ends files after a ↔ files = after ∧ result = .ok a :=
  .rfl

theorem ends_reading_iff {question : Files → Except Fault α} :
    (reading question).Ends files after a ↔ files = after ∧ question files = .ok a :=
  .rfl

theorem ends_changing_iff {change : Files → Except Fault (Files × α)} :
    (changing change).Ends files after a ↔ change files = .ok (after, a) := by
  unfold Ends changing
  cases change files with
  | error fault => simp [Trail.fail]
  | ok changed => simp [Trail.done, Prod.ext_iff]

theorem ends_attempting_iff {change : Files → Files × Except Fault α} :
    (attempting change).Ends files after a ↔ change files = (after, .ok a) := by
  simp [Ends, attempting, Trail.lift, Prod.ext_iff]

theorem ends_ofTrail_iff {trail : Trail Event α} :
    (ofTrail trail).Ends files after a ↔ files = after ∧ trail.result = .ok a :=
  .rfl

theorem ends_print_iff {text : String} {u : Unit} :
    (print text).Ends files after u ↔ files = after :=
  and_iff_left rfl

theorem ends_log_iff {level : LogLevel} {source : LogSource} {text : String} {u : Unit} :
    (log level source text).Ends files after u ↔ files = after :=
  and_iff_left rfl

/-! ## Work that fails -/

/-- The `work` on some `files` ends with a `fault` and leaves the files `after` behind. -/
def Fails (work : Work α) (files after : Files) (fault : Fault) : Prop :=
  (work files).1 = after ∧ (work files).2.result = .error fault

theorem ends_or_fails (work : Work α) (files : Files) :
    (∃ after a, work.Ends files after a) ∨ ∃ after fault, work.Fails files after fault := by
  cases hresult : (work files).2.result with
  | ok a => exact .inl ⟨_, a, rfl, hresult⟩
  | error fault => exact .inr ⟨_, fault, rfl, hresult⟩

/-- One piece of work after another fails where the `first` one does, or where the second one,
`next`, does on what the first one leaves. -/
theorem fails_bind_iff {first : Work α} {next : α → Work β} :
    (first >>= next).Fails files last fault ↔ first.Fails files last fault ∨
      ∃ a after, first.Ends files after a ∧ (next a).Fails after last fault := by
  change (first.andThen next).Fails files last fault ↔ _
  unfold Fails Ends andThen
  rcases first files with ⟨after, ⟨notices, result⟩⟩
  cases result with
  | error fault => simp
  | ok a =>
    simp only [reduceCtorEq, and_false, false_or]
    constructor
    · intro h
      exact ⟨a, after, ⟨rfl, rfl⟩, h⟩
    · rintro ⟨_, _, ⟨rfl, hvalue⟩, h⟩
      cases hvalue
      exact h

theorem fails_lift_iff {result : Except Fault α} :
    (lift result).Fails files after fault ↔ files = after ∧ result = .error fault :=
  .rfl

theorem fails_reading_iff {question : Files → Except Fault α} :
    (reading question).Fails files after fault ↔ files = after ∧ question files = .error fault :=
  .rfl

theorem fails_changing_iff {change : Files → Except Fault (Files × α)} :
    (changing change).Fails files after fault ↔ files = after ∧ change files = .error fault := by
  unfold Fails changing
  cases change files with
  | error fault => simp [Trail.fail]
  | ok changed => simp [Trail.done]

theorem fails_attempting_iff {change : Files → Files × Except Fault α} :
    (attempting change).Fails files after fault ↔ change files = (after, .error fault) := by
  simp [Fails, attempting, Trail.lift, Prod.ext_iff]

theorem not_fails_print {text : String} : ¬ (print text).Fails files after fault := by
  rintro ⟨-, hresult⟩
  cases hresult

theorem not_fails_log {level : LogLevel} {source : LogSource} {text : String} :
    ¬ (log level source text).Fails files after fault := by
  rintro ⟨-, hresult⟩
  cases hresult

theorem not_fails_pure : ¬ (pure a : Work α).Fails files after fault := by
  rintro ⟨-, hresult⟩
  cases hresult

end Reidentify.Work

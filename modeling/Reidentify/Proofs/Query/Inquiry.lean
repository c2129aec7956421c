import Mathlib.Tactic.Choose
import Reidentify.Proofs.Outcome.Extension
import Reidentify.Proofs.Query.Evaluation

/-!
# Inquiries

A computation that uses a table only to look up what names are bound to is an inquiry: it asks for
one name after another, goes on with the entities it is told, and gives up at a name that is not
bound. What an inquiry that ends with a value has asked for is bound, so it ends with the same
value on every table that binds more.

## Main definitions

* `Inquiry`: a computation that asks for names.
* `ReadsBindings`: a function of tables that is computed by an inquiry.
* `Table.Extends`: a table that binds what another one binds.

## Main statements

* `ReadsBindings.eq_ok_of_extends`: values are kept when more names are bound.
* `Predicate.readsBindings_evaluate`: a predicate is an inquiry if the tests of one's own are.
-/

namespace Reidentify

/-- A computation of an `α` that asks for the entities of names, one after another, and uses the
table for nothing else. -/
inductive Inquiry (α : Type) where
  /-- The end, with the value or the fault `result`. -/
  | done (result : Except Fault α)
  /-- A question for `name`; `next` decides how to go on with the answer. -/
  | ask (name : String) (next : Entity → Inquiry α)

namespace Inquiry

variable {α β : Type}

/-- What comes out if `table` answers the questions. A name that is not bound is a fault. -/
def run (table : Table) : Inquiry α → Except Fault α
  | .done result => result
  | .ask name next => table.resolve name >>= fun entity => (next entity).run table

/-- The inquiry that goes on with `next` on the value of `inquiry`. A fault ends both. -/
def bind (inquiry : Inquiry α) (next : α → Inquiry β) : Inquiry β :=
  match inquiry with
  | .done (.ok a) => next a
  | .done (.error fault) => .done (.error fault)
  | .ask name rest => .ask name fun entity => (rest entity).bind next

theorem run_bind (table : Table) (inquiry : Inquiry α) (next : α → Inquiry β) :
    (inquiry.bind next).run table = inquiry.run table >>= fun a => (next a).run table := by
  induction inquiry with
  | done result =>
    cases result with
    | ok a => rfl
    | error fault => rfl
  | ask name rest ih =>
    rw [bind, run, run, Except.bind_assoc]
    congr 1
    funext entity
    exact ih entity

end Inquiry

/-- Whatever `table` binds, `table'` binds to the same entity. Names that are not bound may be bound
later. -/
def Table.Extends (table table' : Table) : Prop :=
  ∀ name entity, table.resolve name = .ok entity → table'.resolve name = .ok entity

/-- A function `f` of tables is computed by an `Inquiry`: it looks up what names are bound to, and
nothing else. -/
def ReadsBindings {α : Type} (f : Table → Except Fault α) : Prop :=
  ∃ inquiry : Inquiry α, ∀ table, f table = inquiry.run table

namespace ReadsBindings

variable {α β : Type} {f : Table → Except Fault α}

/-- A function that does not look at the table is computed by an inquiry without questions. -/
theorem const (result : Except Fault α) : ReadsBindings fun _ => result :=
  ⟨.done result, fun _ => rfl⟩

/-- Looking up a single `name` is an inquiry with one question. -/
theorem resolve (name : String) : ReadsBindings fun table => table.resolve name :=
  ⟨.ask name fun entity => .done (.ok entity), fun _ => (Except.bind_ok _).symm⟩

/-- Functions `f` and `g` that follow each other are computed by the inquiries that follow each
other. -/
theorem bind {g : α → Table → Except Fault β} (hf : ReadsBindings f)
    (hg : ∀ a, ReadsBindings (g a)) :
    ReadsBindings fun table => f table >>= fun a => g a table := by
  obtain ⟨inquiry, hinquiry⟩ := hf
  choose next hnext using hg
  refine ⟨inquiry.bind next, fun table => ?_⟩
  change (f table >>= fun a => g a table) = _
  rw [Inquiry.run_bind, hinquiry]
  congr 1
  funext a
  exact hnext a table

/-- A value of `f` is kept when more names are bound: every name that was asked for was bound. -/
theorem eq_ok_of_extends (hf : ReadsBindings f) {table table' : Table} (h : table.Extends table')
    {a : α} (hvalue : f table = .ok a) : f table' = .ok a := by
  obtain ⟨inquiry, hinquiry⟩ := hf
  rw [hinquiry] at hvalue ⊢
  -- from here on only the inquiry counts, not the function it computes
  clear hinquiry
  induction inquiry with
  | done result => exact hvalue
  | ask name next ih =>
    -- the inquiry has ended with a value, so the name it asks for is bound
    obtain ⟨entity, hentity, hrest⟩ := Except.bind_eq_ok_iff.1 hvalue
    rw [Inquiry.run, h name entity hentity, Except.ok_bind]
    exact ih entity hrest

section Lists

variable {ω : Type}

/-- Sifting a list with `Trail.keep` by tests that are inquiries is an inquiry. -/
theorem keep {items : List α} {test : α → Table → Trail ω Bool}
    (htest : ∀ item, ReadsBindings fun table => (test item table).result) :
    ReadsBindings fun table => (Trail.keep items fun item => test item table).result := by
  induction items with
  | nil => exact const _
  | cons item rest ih =>
    simp only [Trail.keep, Trail.result_andThen, Trail.result_done]
    -- the tests are made one after another, and what they leave is put together without a question
    exact (htest item).bind fun _ => ih.bind fun _ => const _

/-- Searching a list with `Trail.exists?` by tests that are inquiries is an inquiry. -/
theorem exists? {items : List α} {test : α → Table → Trail ω Bool}
    (htest : ∀ item, ReadsBindings fun table => (test item table).result) :
    ReadsBindings fun table => (Trail.exists? items fun item => test item table).result := by
  induction items with
  | nil => exact const _
  | cons item rest ih =>
    simp only [Trail.exists?, Trail.result_andThen]
    refine (htest item).bind fun found => ?_
    cases found with
    | true => exact const _
    | false => exact ih

end Lists

end ReadsBindings

/-- The descriptor of a type is looked up: nothing is asked for a literal, one name for a mapper. -/
theorem TypeRef.readsBindings_resolve (ref : TypeRef) :
    ReadsBindings fun table => ref.resolve table := by
  cases ref with
  | literal descriptor => exact .const _
  | mapped mapper dimensions =>
    simp only [resolve_mapped]
    exact (ReadsBindings.resolve mapper).bind fun _ => .const _

/-- The descriptors of several types `refs` are looked up, one after another. -/
theorem TypeRef.readsBindings_resolveAll (refs : List TypeRef) :
    ReadsBindings fun table => resolveAll table refs := by
  induction refs with
  | nil => exact .const _
  | cons ref rest ih =>
    simp only [resolveAll_cons]
    exact ref.readsBindings_resolve.bind fun _ => ih.bind fun _ => .const _

namespace Predicate

/-- A test looks up what names are bound to, and nothing else. Only a test of one's own can do
anything else. -/
def ReadsBindings : Predicate → Prop
  | .test _ _ check => ∀ entity, Reidentify.ReadsBindings (check entity)
  | _ => True

/-- The answer of a test that `ReadsBindings` is computed by an inquiry, for every entity. -/
theorem readsBindings_check {test : Predicate} (h : test.ReadsBindings) (entity : Entity) :
    Reidentify.ReadsBindings fun table => test.check entity table := by
  have hconst {α : Type} (result : Except Fault α) : Reidentify.ReadsBindings fun _ => result :=
    .const result
  -- what is read and what is asked of the entity take turns as in `check`
  cases test with
  | extendsType type =>
    exact (hconst entity.needClass).bind fun _ => type.readsBindings_resolve.bind fun _ => hconst _
  | implementsType type | instanceFieldCount type _ | hasInstanceField type =>
    exact type.readsBindings_resolve.bind fun _ => (hconst entity.needClass).bind fun _ => hconst _
  | ofType type =>
    exact (hconst entity.needType).bind fun _ => type.readsBindings_resolve.bind fun _ => hconst _
  | returns type =>
    exact (hconst entity.needMethod).bind fun method => (hconst method.needSignature).bind fun _ =>
      type.readsBindings_resolve.bind fun _ => hconst _
  | argumentsStartWith types =>
    exact (TypeRef.readsBindings_resolveAll types).bind fun _ => (hconst entity.needMethod).bind
      fun method => (hconst method.needSignature).bind fun _ => hconst _
  | fieldAccess type | fieldWrite type =>
    cases type with
    | none => exact hconst _
    | some type =>
      refine (hconst entity.needInstruction).bind fun insn => ?_
      split
      · exact type.readsBindings_resolve.bind fun _ => hconst _
      · exact hconst _
  | fieldOwnerIs type =>
    refine (hconst entity.needInstruction).bind fun insn => ?_
    split
    · exact type.readsBindings_resolve.bind fun _ => hconst _
    · exact hconst _
  | test description probe check => exact h entity
  | selfLinks _ | argumentCount _ | opcodeIs _ | pushesInt _ => exact hconst _
  | containsInstruction | lacksInstruction | conjunction => exact hconst _

/-- Evaluating a test that `ReadsBindings` is an inquiry. -/
theorem readsBindings_evaluate_of_isTest {test : Predicate} (htest : test.isTest = true)
    (h : test.ReadsBindings) (entity : Entity) :
    Reidentify.ReadsBindings fun table => (test.evaluate table entity).result := by
  simp only [result_evaluate_of_isTest htest]
  exact readsBindings_check h entity

mutual

/-- The evaluation of `predicate` is an inquiry if all its `tests` read bindings only. -/
theorem readsBindings_evaluate (predicate : Predicate)
    (h : ∀ test ∈ predicate.tests, test.ReadsBindings) (entity : Entity) :
    Reidentify.ReadsBindings fun table => (predicate.evaluate table entity).result := by
  match predicate with
  | .containsInstruction part =>
    simp only [evaluate, Trail.result_andThen, Trail.result_emit, Trail.result_lift,
      Except.ok_bind]
    exact (ReadsBindings.const entity.needMethod).bind fun _ =>
      .exists? fun insn => readsBindings_evaluate part h (.ofInstruction insn)
  | .lacksInstruction part =>
    simp only [evaluate, Trail.result_andThen, Trail.result_emit, Trail.result_lift,
      Trail.result_done, Except.ok_bind]
    exact (ReadsBindings.const entity.needMethod).bind fun _ =>
      (ReadsBindings.exists? fun insn =>
        readsBindings_evaluate part h (.ofInstruction insn)).bind fun _ => .const _
  | .conjunction first rest =>
    simp only [evaluate, Trail.result_andThen]
    refine (readsBindings_evaluate first
      (fun test hmem => h test (List.mem_append_left _ hmem)) entity).bind fun holds => ?_
    cases holds with
    | false => exact .const _
    | true =>
      exact readsBindings_evaluateAll rest
        (fun test hmem => h test (List.mem_append_right _ hmem)) entity
  | .extendsType _ | .implementsType _ | .instanceFieldCount .. | .hasInstanceField _
  | .selfLinks _ | .ofType _ | .returns _ | .argumentsStartWith _ | .argumentCount _
  | .opcodeIs _ | .pushesInt _ | .fieldAccess _ | .fieldWrite _ | .fieldOwnerIs _ | .test .. =>
    exact readsBindings_evaluate_of_isTest rfl (h _ (List.mem_singleton_self _)) entity

/-- The evaluation of several `predicates` is an inquiry if all their tests read bindings only. -/
theorem readsBindings_evaluateAll (predicates : List Predicate)
    (h : ∀ test ∈ testsOfAll predicates, test.ReadsBindings) (entity : Entity) :
    Reidentify.ReadsBindings fun table => (evaluateAll table predicates entity).result := by
  match predicates with
  | [] => exact .const _
  | predicate :: rest =>
    simp only [evaluateAll, Trail.result_andThen]
    refine (readsBindings_evaluate predicate
      (fun test hmem => h test (List.mem_append_left _ hmem)) entity).bind fun holds => ?_
    cases holds with
    | false => exact .const _
    | true =>
      exact readsBindings_evaluateAll rest
        (fun test hmem => h test (List.mem_append_right _ hmem)) entity

end

end Predicate

end Reidentify

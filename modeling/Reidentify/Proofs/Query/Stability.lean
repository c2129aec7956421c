import Reidentify.Proofs.Query.Inquiry
import Reidentify.Proofs.Trail.Continuation

/-!
# Predicates on growing tables

A predicate that is evaluated before all mappers have ended may ask for one that has no outcome yet;
then it gives up. Otherwise everything it has asked for has its outcome, which stays as it is. So
its evaluation goes the same way on every table that the table grows to, with the same parts tried
in the same order, whether it ends with an answer or with a fault.

## Main definitions

* `Table.Misses`: the fault of asking for a name that has no outcome.
* `Predicate.IgnoresTable`: a test that, if it is one of one's own, depends on the entity alone.

## Main statements

* `ReadsBindings.eq_or_misses`: an inquiry is repeated on a larger table, or has missed something.
* `Predicate.continues_evaluate`: the evaluation of a predicate goes on on a larger table.
* `Predicate.evaluate_eq_of_agrees`: an evaluation that nothing was missing for does not change.
-/

namespace Reidentify

variable {table table' : Table}

namespace Table

/-- The faults of asking `table` for a name that has no outcome in it, `.unresolved name .pending`.
-/
def Misses (table : Table) (fault : Fault) : Prop :=
  ∃ name, name ∉ table.recorded ∧ fault = .unresolved name .pending

/-- Asking for `name` gives the same on a table `table'` with more outcomes, or the name has no
outcome in `table`. -/
theorem Agrees.resolve_eq_or_misses (h : table.Agrees table') (name : String) :
    table'.resolve name = table.resolve name ∨
      ∃ fault, table.Misses fault ∧ table.resolve name = .error fault := by
  by_cases hmem : name ∈ table.recorded
  · left
    rw [resolve, resolve, h name hmem]
  · right
    refine ⟨.unresolved name .pending, ⟨name, hmem, rfl⟩, ?_⟩
    rw [resolve, outcome?_eq_none_iff.2 hmem]

end Table

/-- What an inquiry `f` finds out is the same on a table with more outcomes, or it has asked for a
name that `table.Misses`. -/
theorem ReadsBindings.eq_or_misses {α : Type} {f : Table → Except Fault α} (hf : ReadsBindings f)
    (h : table.Agrees table') :
    f table' = f table ∨ ∃ fault, table.Misses fault ∧ f table = .error fault := by
  obtain ⟨inquiry, hinquiry⟩ := hf
  rw [hinquiry, hinquiry]
  -- the induction is on the questions, and the function they compute would stand in its way
  clear hinquiry
  induction inquiry with
  | done result => exact .inl rfl
  | ask name next ih =>
    rw [Inquiry.run, Inquiry.run]
    rcases h.resolve_eq_or_misses name with hsame | ⟨fault, hmissing, hfault⟩
    · -- both tables answer alike, and the inquiry goes on with the answer
      rw [hsame]
      cases table.resolve name with
      | error fault => exact .inl rfl
      | ok entity => exact ih entity
    · right
      rw [hfault]
      exact ⟨fault, hmissing, rfl⟩

namespace Predicate

/-- A test that, if it is one of one's own, depends on the entity alone: its `check` has the same
result on every table. -/
def IgnoresTable : Predicate → Prop
  | .test _ _ check => ∀ entity table table', check entity table = check entity table'
  | _ => True

/-- A test that depends on the entity alone looks up nothing, so it `ReadsBindings` without asking.
-/
theorem IgnoresTable.readsBindings {test : Predicate} (h : test.IgnoresTable) :
    test.ReadsBindings := by
  cases test with
  | test description probe check =>
    intro entity
    exact ⟨.done (check entity (.empty [] "")), fun table => h entity table _⟩
  | _ => trivial

/-- Trying a test leaves one event and ends as `Predicate.check` does. -/
theorem evaluate_of_isTest {test : Predicate} (h : test.isTest = true) (table : Table)
    (entity : Entity) :
    test.evaluate table entity =
      (Trail.emit (.tried test entity)).andThen fun _ => Trail.lift (test.check entity table) := by
  cases test with
  | containsInstruction => cases h
  | lacksInstruction => cases h
  | conjunction => cases h
  | _ => rfl

/-- The evaluation of a test goes on on a table with more outcomes: the event is the same, and the
answer may have been missing. -/
theorem continues_evaluate_of_isTest (hgrows : table.Agrees table') {test : Predicate}
    (htest : test.isTest = true) (h : test.ReadsBindings) (entity : Entity) :
    Trail.Continues table.Misses (test.evaluate table entity) (test.evaluate table' entity) := by
  rw [evaluate_of_isTest htest, evaluate_of_isTest htest]
  exact (Trail.Continues.same _).andThen fun _ =>
    .lift ((readsBindings_check h entity).eq_or_misses hgrows)

mutual

/-- The evaluation of `predicate` goes on on a table with more outcomes, if its `tests` only look up
what names are bound to. -/
theorem continues_evaluate (hgrows : table.Agrees table') (predicate : Predicate)
    (h : ∀ test ∈ predicate.tests, test.ReadsBindings) (entity : Entity) :
    Trail.Continues table.Misses (predicate.evaluate table entity)
      (predicate.evaluate table' entity) := by
  match predicate with
  | .containsInstruction part =>
    -- what comes before the search does not look at the table
    rw [evaluate, evaluate]
    refine (Trail.Continues.same _).andThen fun _ =>
      (Trail.Continues.same _).andThen fun method => ?_
    exact .exists? fun insn => continues_evaluate hgrows part h (.ofInstruction insn)
  | .lacksInstruction part =>
    rw [evaluate, evaluate]
    refine (Trail.Continues.same _).andThen fun _ =>
      (Trail.Continues.same _).andThen fun method => ?_
    exact (Trail.Continues.exists? fun insn =>
      continues_evaluate hgrows part h (.ofInstruction insn)).andThen fun _ => .same _
  | .conjunction first rest =>
    rw [evaluate, evaluate]
    refine (continues_evaluate hgrows first
      (fun test hmem => h test (List.mem_append_left _ hmem)) entity).andThen fun holds => ?_
    -- the other parts are tried only if the first one holds, and it has the same answer
    cases holds with
    | false => exact .same _
    | true =>
      exact continues_evaluateAll hgrows rest
        (fun test hmem => h test (List.mem_append_right _ hmem)) entity
  | .extendsType _ | .implementsType _ | .instanceFieldCount .. | .hasInstanceField _
  | .selfLinks _ | .ofType _ | .returns _ | .argumentsStartWith _ | .argumentCount _
  | .opcodeIs _ | .pushesInt _ | .fieldAccess _ | .fieldWrite _ | .fieldOwnerIs _ | .test .. =>
    exact continues_evaluate_of_isTest hgrows rfl (h _ (List.mem_singleton_self _)) entity

/-- The evaluation of several `predicates` goes on on a table with more outcomes, if their tests
only look up what names are bound to. -/
theorem continues_evaluateAll (hgrows : table.Agrees table') (predicates : List Predicate)
    (h : ∀ test ∈ testsOfAll predicates, test.ReadsBindings) (entity : Entity) :
    Trail.Continues table.Misses (evaluateAll table predicates entity)
      (evaluateAll table' predicates entity) := by
  match predicates with
  | [] => exact .same _
  | predicate :: rest =>
    rw [evaluateAll, evaluateAll]
    refine (continues_evaluate hgrows predicate
      (fun test hmem => h test (List.mem_append_left _ hmem)) entity).andThen fun holds => ?_
    cases holds with
    | false => exact .same _
    | true =>
      exact continues_evaluateAll hgrows rest
        (fun test hmem => h test (List.mem_append_right _ hmem)) entity

end

/-- **An evaluation that has not ended at a name that is not bound is the same on every table with
more outcomes**: the parts that are tried, their order, and the answer or the fault. -/
theorem evaluate_eq_of_agrees (hgrows : table.Agrees table') (predicate : Predicate)
    (htests : ∀ test ∈ predicate.tests, test.IgnoresTable) (entity : Entity)
    (hended : ∀ name state,
      (predicate.evaluate table entity).result ≠ .error (.unresolved name state)) :
    predicate.evaluate table' entity = predicate.evaluate table entity := by
  have hgoes := continues_evaluate hgrows predicate
    (fun test hmem => (htests test hmem).readsBindings) entity
  -- a name that was missing would have been the end, as one that is not bound
  refine hgoes.eq ?_
  rintro _ hfault ⟨name, -, rfl⟩
  exact hended name .pending hfault

section Example

/-- A class of this `name` without members, as the entity that a mapper is bound to. -/
def bare (name : String) : Entity :=
  .ofClass ⟨name, .str "java/lang/Object", [], 0, [], []⟩

/-- The mapper `Node` is bound to the class `a`, and the mapper `Result` has no outcome yet. -/
def halfway : Table :=
  ⟨["Node", "Result"], [⟨"Node", .resolved (bare "a")⟩], ""⟩

/-- A method that returns an object of the class `a`, and has an instruction that does nothing. -/
def idle : MethodDecl where
  owner := "b"
  name := "m"
  descriptor := "()La;"
  access := 0
  instructions := [⟨"b", "m", "()La;", 0, .flag false, .null, .null, ⟨.null, .null, .null⟩,
    ⟨.null, .null, .null⟩, .null⟩]

/-- A method that returns a node and uses a field of the result, where `Node` and `Result` are
mappers. -/
def finishing : Predicate :=
  .conjunction (.returns (.mapped "Node" 0))
    [.containsInstruction (.fieldOwnerIs (.mapped "Result" 0))]

/-- The method `idle` returns a node but uses no field, so nobody asks for the `"Result"` that only
the larger table has. -/
theorem evaluate_finishing_idle :
    (halfway.Agrees (halfway.append [⟨"Result", .resolved (bare "c")⟩]) ∧
      (∀ test ∈ finishing.tests, test.IgnoresTable) ∧
      ∀ name state, (finishing.evaluate halfway (.ofMethod idle)).result ≠
        .error (.unresolved name state)) ∧
    finishing.evaluate (halfway.append [⟨"Result", .resolved (bare "c")⟩]) (.ofMethod idle) =
      finishing.evaluate halfway (.ofMethod idle) := by
  have hgrows : halfway.Agrees (halfway.append [⟨"Result", .resolved (bare "c")⟩]) :=
    .append halfway _
  have htests : ∀ test ∈ finishing.tests, test.IgnoresTable := by
    simp [finishing, tests, testsOfAll, IgnoresTable]
  have hended : ∀ name state, (finishing.evaluate halfway (.ofMethod idle)).result ≠
      .error (.unresolved name state) := by
    have hfalse : (finishing.evaluate halfway (.ofMethod idle)).result = .ok false := by
      decide +kernel
    intro name state h
    rw [hfalse] at h
    cases h
  exact ⟨⟨hgrows, htests, hended⟩, evaluate_eq_of_agrees hgrows finishing htests _ hended⟩

/-- Whether the method returns a result is asked too early. -/
example : ((returns (.mapped "Result" 0)).evaluate halfway (.ofMethod idle)).result =
    .error (.unresolved "Result" .pending) := by decide +kernel

end Example

end Predicate

end Reidentify

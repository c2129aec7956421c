import Reidentify.Query.Evaluation

/-!
# Routines

A predicate that is evaluated while other things go on does not see the table as a whole. It reads
the table whenever it needs to, and what it finds there may have changed since the last time. A
routine is such a computation, divided by its reads.
-/

namespace Reidentify

/-- A computation of an `α` that reads the table from time to time. The table may be another one at
each read. -/
inductive Routine (α : Type) where
  /-- The end, with the value or the fault `result`. -/
  | finish (result : Except Fault α)
  /-- A look at the table, on which `next` decides how to go on. -/
  | read (next : Table → Routine α)

namespace Routine

variable {α β : Type}

/-- What comes out of a routine if `table` stays the same at all its reads. -/
def run (table : Table) : Routine α → Except Fault α
  | .finish result => result
  | .read next => (next table).run table

/-- How often a routine reads the table if `table` stays the same. -/
def reads (table : Table) : Routine α → Nat
  | .finish _ => 0
  | .read next => (next table).reads table + 1

/-- The routine that goes on with `next` on the value of `routine`. A fault ends both. -/
def bind (routine : Routine α) (next : α → Routine β) : Routine β :=
  match routine with
  | .finish (.ok a) => next a
  | .finish (.error fault) => .finish (.error fault)
  | .read rest => .read fun table => (rest table).bind next

/-- The elements of `items` for which the routine `test` ends with `true`, tried one after another.
-/
def keep (items : List α) (test : α → Routine Bool) : Routine (List α) :=
  match items with
  | [] => .finish (.ok [])
  | item :: rest =>
    (test item).bind fun kept =>
      (keep rest test).bind fun others => .finish (.ok (if kept then item :: others else others))

/-- Whether the routine `test` ends with `true` for some element of `items`; those behind the first
one are not tried. -/
def exists? (items : List α) (test : α → Routine Bool) : Routine Bool :=
  match items with
  | [] => .finish (.ok false)
  | item :: rest =>
    (test item).bind fun found => if found then .finish (.ok true) else exists? rest test

end Routine

mutual

/-- The evaluation of a predicate that reads the table anew for each of its tests, and is otherwise
`Predicate.evaluate` without its events. -/
def Predicate.routine : Predicate → Entity → Routine Bool
  | .conjunction first rest, entity =>
    (first.routine entity).bind fun holds =>
      if holds then Predicate.routineOfAll rest entity else .finish (.ok false)
  | .containsInstruction predicate, entity =>
    (Routine.finish entity.needMethod).bind fun method =>
      Routine.exists? method.instructions fun insn => predicate.routine (.ofInstruction insn)
  | .lacksInstruction predicate, entity =>
    (Routine.finish entity.needMethod).bind fun method =>
      (Routine.exists? method.instructions fun insn =>
        predicate.routine (.ofInstruction insn)).bind fun found => .finish (.ok !found)
  | predicate, entity => .read fun table => .finish (predicate.check entity table)

/-- The evaluation of several predicates, one after another up to the first that does not hold. -/
def Predicate.routineOfAll : List Predicate → Entity → Routine Bool
  | [], _ => .finish (.ok true)
  | predicate :: rest, entity =>
    (predicate.routine entity).bind fun holds =>
      if holds then Predicate.routineOfAll rest entity else .finish (.ok false)

end

end Reidentify

import Reidentify.Artifact.Lookup
import Reidentify.Mapper.Basic
import Reidentify.Pass.Candidates
import Reidentify.Query.Evaluation

/-!
# Resolving one mapper

A mapper is resolved in four steps: the candidates of its scope are listed, those that satisfy
its predicate are kept in their order, one of them is selected, and it is bound as the target of
the mapper. A selection that is not possible is an outcome like any other.
-/

namespace Reidentify

/-- What came of selecting one of several candidates, unless it ended with a fault: a choice, or a
failure. -/
inductive Selection where
  /-- The candidate `entity` was selected. -/
  | chosen (entity : Entity)
  /-- No candidate could be selected, for the reason `failure`. -/
  | refused (failure : Failure)
  deriving DecidableEq

namespace Mapper

/-- Selects the only one of `candidates`. None and more than one of them are two kinds of failures.
-/
def selectOnly (mapper : Mapper) (candidates : List Entity) : Selection :=
  match candidates with
  | [entity] => .chosen entity
  | [] => .refused (.noMatch mapper.scope.describe mapper.predicate.describe)
  | several =>
    .refused (.ambiguous mapper.scope.describe mapper.predicate.describe
      (several.map Entity.describe))

/-- Selects the candidate at a `position`. The `candidates` have to make up whole groups. A refusal
is written at once, and if a number of it has no text there is a fault instead. -/
def selectAt (mapper : Mapper) (position : Position) (candidates : List Entity) :
    Except Fault Selection :=
  let scope := mapper.scope.describe
  let predicate := mapper.predicate.describe
  let length := candidates.length
  let size := position.groupSize.getD 1
  if (length : Int) % size.value ≠ 0 then
    (Failure.groupMismatchOf scope predicate (length : Int) position.index size).map .refused
  else
    let index := position.index.value
    match if index < 0 then none else candidates[index.toNat]? with
    | some entity => .ok (.chosen entity)
    | none =>
      (Failure.outOfRangeOf scope predicate (length : Int) position.index
        position.groupSize).map .refused

/-- Selects one of the `candidates` by a kind of strategy. Selecting by position needs a `mapper`
with a position. -/
def selectBy (kind : StrategyKind) (mapper : Mapper) (candidates : List Entity) :
    Except Fault Selection :=
  match kind, mapper.strategy.position? with
  | .identity, _ => .ok (mapper.selectOnly candidates)
  | .order, some position => mapper.selectAt position candidates
  | .order, none => .error (.configuration (.noPosition mapper.name))

/-- The entity that the candidate `selected` is bound as, or the failure that an instruction refers
to no member of the artifact. Only instructions are bound as something else than themselves. -/
def bind (mapper : Mapper) (artifact : Artifact) (selected : Entity) : Except Fault Result :=
  match selected, mapper.target with
  | .ofInstruction insn, .toField =>
    match artifact.fieldOf insn with
    | .error fault => .error fault
    | .ok (some field) => .ok (.resolved (.ofField field))
    | .ok none => .ok (.failed (.unbound selected.describe mapper.target.name))
  | .ofInstruction _, .toInstruction => .ok (.resolved selected)
  | .ofInstruction insn, _ =>
    match artifact.methodOf insn with
    | .error fault => .error fault
    | .ok (some method) => .ok (.resolved (.ofMethod method))
    | .ok none => .ok (.failed (.unbound selected.describe mapper.target.name))
  | entity, _ => .ok (.resolved entity)

/-- The `candidates` that satisfy the predicate of `mapper`, in order. Every one of them is
considered. -/
def matching (mapper : Mapper) (table : Table) (candidates : List Entity) :
    Trail Event (List Entity) :=
  Trail.keep candidates fun candidate =>
    (Trail.emit (.considered mapper.name candidate)).andThen fun _ =>
      mapper.predicate.evaluate table candidate

/-- Resolves `mapper` by a kind of strategy: lists the candidates, keeps the matching ones, selects
one of them and binds it. -/
def resolveBy (kind : StrategyKind) (mapper : Mapper) (artifact : Artifact) (table : Table) :
    Trail Event Outcome :=
  (Trail.lift (mapper.scope.candidates artifact table)).andThen fun candidates =>
    (mapper.matching table candidates).andThen fun kept =>
      (Trail.lift (mapper.selectBy kind kept)).andThen fun selection =>
        match selection with
        | .refused failure => .done ⟨mapper.name, .failed failure⟩
        | .chosen entity =>
          (Trail.lift (mapper.bind artifact entity)).andThen fun result =>
            .done ⟨mapper.name, result⟩

/-- Resolves `mapper` by the kind of its own strategy (`resolveBy`), over the artifact and the
table. -/
def resolve (mapper : Mapper) (artifact : Artifact) (table : Table) : Trail Event Outcome :=
  mapper.resolveBy mapper.strategy.kind artifact table

end Mapper

/-- The strategy that `value` names. Any value may be given, but only a text can name one. -/
def StrategyKind.ofValue (value : Value) : Except Fault StrategyKind :=
  match value.text?.bind StrategyKind.ofName? with
  | some kind => .ok kind
  | none => .error (.configuration (.unknownStrategy value))

end Reidentify

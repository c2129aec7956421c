import Reidentify.Proofs.Pass.Matching
import Reidentify.Proofs.Pass.Robustness

/-!
# Verdicts

A mapper is settled by the number of its matches. Without a match, or with several where only one
may be, with a number that does not make up whole groups, or with an index outside the matches, the
mapper fails, and its failure says how many matches there were. In all other cases one match stands
at the place that the strategy asks for, and the mapper is bound to it or to the member that it
refers to. This module says so with the places of the candidates, apart from the lists that a mapper
builds, and shows that a mapper ends with this outcome and with no other one.

## Main definitions

* `Scope.Offers`: the candidates of a scope, in the order of the artifact.
* `Split.IsOnly`: a place is the only one of a kind.
* `Mapper.Verdict`: the outcome of a mapper with some candidates.

## Main statements

* `Scope.candidates_eq_ok_iff`: the candidates of a scope are those that it offers.
* `Mapper.resolve_eq_ok_iff_verdict`: a mapper with candidates ends with its verdict.
* `Mapper.verdict_of_ownerBound`: a mapper ends with its verdict, if its scope has candidates, all
  names can be looked up, its predicate gives up on no candidate, and it is not mute.
* `Mapper.resolve_farWrite_eq_error`: with an index that has no text, a mapper ends with a fault
  where it should be out of range.
-/

namespace Reidentify

namespace Mapper

end Mapper

section Candidates

variable {artifact : Artifact} {table : Table} {scope : Scope} {candidates : List Entity}

end Candidates

namespace Split

variable {α : Type} {test : α → Bool} {items : List α} {place : Split α} {index : ℤ}

end Split

namespace Mapper

variable {mapper : Mapper} {artifact : Artifact} {table : Table} {candidates : List Entity}
  {accepts : Entity → Bool} {outcome : Outcome} {selected : Entity} {result : Result}
  {failure : Failure} {selection : Selection}

section Verdict

variable (htarget : ∀ selected ∈ candidates, selected.target = mapper.scope.candidateTarget)

include htarget

end Verdict

section Example

end Example

end Mapper

end Reidentify

import Reidentify.Fault

/-!
# Failures of mappers

Why a mapper binds nothing. A failure keeps what a reader of the report needs: the scope and the
predicate, how many candidates there were, which ones, or which mappers it waited for. Its `kind`,
its sentence `detail` and its document `toValue` are derived from that.

The sentence is written when the failure is made. The failures that name an index or the size of
groups are therefore made by `outOfRangeOf` and `groupMismatchOf`, which end with a fault if one of
these numbers has no text. The other numbers in a sentence are lengths of lists.
-/

namespace Reidentify

/-- Why a mapper binds nothing. The texts `scope` and `predicate` are the words for those of the
mapper. -/
inductive Failure where
  /-- No candidate of the scope satisfies the predicate. -/
  | noMatch (scope predicate : String)
  /-- More than one candidate satisfies the predicate: those with the words `candidates`. -/
  | ambiguous (scope predicate : String) (candidates : List String)
  /-- The `length` candidates that satisfy the predicate are fewer than the position at `index`
  needs. -/
  | outOfRange (scope predicate : String) (length index : Whole) (groupSize : Option Whole)
  /-- The `length` candidates that satisfy the predicate do not make up whole groups of `groupSize`.
  -/
  | groupMismatch (scope predicate : String) (length index groupSize : Whole)
  /-- The instruction `selected` refers to no member of the artifact that could be the `target`. -/
  | unbound (selected target : String)
  /-- The mappers `dependencies`, which this one depends on, bind nothing. -/
  | unresolvedDependency (dependencies : List String)
  deriving DecidableEq, Repr

/-- The kinds of failures, one for each constructor of `Failure`, without what the failure was
about. -/
inductive FailureKind where
  /-- No candidate. -/
  | noMatch
  /-- Too many candidates. -/
  | ambiguousMatch
  /-- A position outside the candidates. -/
  | orderOutOfRange
  /-- No whole groups. -/
  | groupMismatch
  /-- A reference to nothing. -/
  | unboundTarget
  /-- A dependency that binds nothing. -/
  | unresolvedDependency
  deriving DecidableEq, Repr

/-- The name of a kind of failure in documents and lines, a word in lower case. -/
def FailureKind.name : FailureKind → String
  | .noMatch => "no_match"
  | .ambiguousMatch => "ambiguous_match"
  | .orderOutOfRange => "order_out_of_range"
  | .groupMismatch => "group_mismatch"
  | .unboundTarget => "unbound_target"
  | .unresolvedDependency => "unresolved_dependency"

namespace Failure

/-- The kind of a failure, without what it was about (`FailureKind`). -/
def kind : Failure → FailureKind
  | .noMatch .. => .noMatch
  | .ambiguous .. => .ambiguousMatch
  | .outOfRange .. => .orderOutOfRange
  | .groupMismatch .. => .groupMismatch
  | .unbound .. => .unboundTarget
  | .unresolvedDependency _ => .unresolvedDependency

/-- An `index` outside `length` candidates. Its sentence names both, and the size of the groups if
the position has one. -/
def outOfRangeOf (scope predicate : String) (length index : Whole) (groupSize : Option Whole) :
    Except Fault Failure :=
  Whole.naming (groupSize.toList ++ [index, length])
    (.ok (.outOfRange scope predicate length index groupSize))

/-- A number `length` of candidates that does not make up groups of size `groupSize`. Its sentence
names both, then the number of candidates that are left over, and the `index` at last; with groups
of size zero the number left over is a division by zero, which comes before the `index`. -/
def groupMismatchOf (scope predicate : String) (length index groupSize : Whole) :
    Except Fault Failure :=
  Whole.naming [length, groupSize] <|
    if groupSize.value = 0 then .error .divisionByZero
    else Whole.naming [index] (.ok (.groupMismatch scope predicate length index groupSize))

/-- How many candidates an ambiguous failure lists in its sentence; `candidateList` counts the
others. -/
def listedCandidates : Nat := 10

/-- The words for the first `candidates` in the sentence of an ambiguous failure, with the number of
those left out. -/
def candidateList (candidates : List String) : String :=
  let shown := ", ".intercalate (candidates.take listedCandidates)
  let more := candidates.length - listedCandidates
  if more = 0 then shown else s!"{shown}, … (+{more})"

/-- The sentence of a failure of the mapper named `mapper`. -/
def detail (mapper : String) : Failure → String
  | .noMatch scope predicate => s!"{mapper}: nothing in {scope} satisfies: {predicate}"
  | .ambiguous scope _ candidates =>
    let count := candidates.length
    s!"{mapper}: {count} candidates in {scope} match: {candidateList candidates}"
  | .outOfRange scope _ length index groupSize =>
    let group :=
      match groupSize with
      | some size => if size.value = 0 then "" else s!", group size {size.text}"
      | none => ""
    s!"{mapper}: index {index.text} out of range for {length.text} matching candidates in "
      ++ scope ++ group
  | .groupMismatch scope _ length index groupSize =>
    let remainder := length.value.fmod groupSize.value
    s!"{mapper}: {length.text} matching candidates in {scope} do not split into groups of "
      ++ s!"{groupSize.text} (remainder {remainder}); requested index {index.text}"
  | .unbound selected target =>
    s!"{mapper}: selected {selected} references no {target} in the model"
  | .unresolvedDependency dependencies =>
    s!"{mapper}: skipped, unresolved dependencies: " ++ ", ".intercalate dependencies

/-- The kind of `failure` and its sentence, as a line of a report ends. -/
def describe (mapper : String) (failure : Failure) : String :=
  failure.kind.name ++ ": " ++ failure.detail mapper

/-- The member `key` of a document with the value `text`, unless that is empty. -/
def textMember (key text : String) : List (String × Value) :=
  if text.isEmpty then [] else [(key, .str text)]

/-- The member `key` of a document with the list `texts`, unless that is empty. -/
def textsMember (key : String) (texts : List String) : List (String × Value) :=
  if texts.isEmpty then [] else [(key, .list (texts.map .str))]

/-- What a failure adds to its kind and its sentence in a document. Empty texts and lists are left
out. -/
def details : Failure → List (String × Value)
  | .noMatch scope predicate =>
    textMember "scope" scope ++ textMember "predicate" predicate ++ [("match_count", .int 0)]
  | .ambiguous scope predicate candidates =>
    textMember "scope" scope ++ textMember "predicate" predicate
      ++ [("match_count", .int candidates.length)] ++ textsMember "candidates" candidates
  | .outOfRange scope predicate length index groupSize =>
    textMember "scope" scope ++ textMember "predicate" predicate
      ++ [("match_count", length.toValue), ("sequence_length", length.toValue),
        ("index", index.toValue)]
      ++ (groupSize.map fun size => ("group_size", size.toValue)).toList
  | .groupMismatch scope predicate length index groupSize =>
    textMember "scope" scope ++ textMember "predicate" predicate
      ++ [("match_count", length.toValue), ("sequence_length", length.toValue),
        ("index", index.toValue), ("group_size", groupSize.toValue)]
  | .unbound selected _ => textsMember "candidates" [selected]
  | .unresolvedDependency dependencies => textsMember "dependencies" dependencies

/-- The document of a `failure` of the mapper named `mapper`: its kind, its sentence and its
`details`. -/
def toValue (mapper : String) (failure : Failure) : Value :=
  .obj ([("kind", .str failure.kind.name), ("detail", .str (failure.detail mapper))]
    ++ failure.details)

end Failure

end Reidentify

import Reidentify.Outcome.Table

/-!
# Types inside predicates

A predicate names a type by its descriptor, or as the class that a mapper is bound to, possibly
with array dimensions. The second kind becomes a descriptor once the table holds the class.
-/

namespace Reidentify

/-- A type that a predicate compares with. `TypeRef.resolve` gives its descriptor. -/
inductive TypeRef where
  /-- A type by its `descriptor`, which is not looked into. -/
  | literal (descriptor : String)
  /-- The class that `mapper` is bound to, with array `dimensions`. -/
  | mapped (mapper : String) (dimensions : Int)
  deriving DecidableEq, Repr

namespace TypeRef

/-- The type `ref` with `count` more array dimensions; a descriptor is left as it is. -/
def addDimensions (ref : TypeRef) (count : Int) : TypeRef :=
  match ref with
  | .literal descriptor => .literal descriptor
  | .mapped mapper dimensions => .mapped mapper (dimensions + count)

/-- The text of a type: a descriptor, or the name of a mapper with a pair of brackets for each
dimension. -/
def text : TypeRef → String
  | .literal descriptor => descriptor
  | .mapped mapper dimensions =>
    mapper ++ String.join (List.replicate dimensions.toNat "[]")

/-- What a type is shown as in the description of a predicate: a mapper stands in angle brackets. -/
def describe : TypeRef → String
  | .literal descriptor => descriptor
  | .mapped mapper dimensions => s!"<{(TypeRef.mapped mapper dimensions).text}>"

/-- The descriptor of a type on `table`. A mapper has to be bound to a class there. -/
def resolve (table : Table) : TypeRef → Except Fault String
  | .literal descriptor => .ok descriptor
  | .mapped mapper dimensions =>
    match table.resolve mapper with
    | .error fault => .error fault
    | .ok (.ofClass decl) => .ok (Descriptor.arrayOf decl.type dimensions)
    | .ok bound => .error (.configuration (.typeOwner mapper bound))

/-- The descriptors of several types on `table`, in order, or the first fault. -/
def resolveAll (table : Table) : List TypeRef → Except Fault (List String)
  | [] => .ok []
  | ref :: rest =>
    match ref.resolve table with
    | .error fault => .error fault
    | .ok descriptor =>
      match resolveAll table rest with
      | .error fault => .error fault
      | .ok others => .ok (descriptor :: others)

end TypeRef

end Reidentify

import Reidentify.Fault

/-!
# Looking up members

Classes are found by their name, members by their class, name and descriptor. An instruction
may name a subclass of the class that declares the member it means, so its member is searched
along the chain of superclasses. A chain ends where a name is empty or belongs to no class of
the artifact; a chain that runs in a circle is left where it would repeat.
-/

namespace Reidentify

namespace ClassDecl

/-- The first field of `decl` that has this `name` and, if one is given, this `descriptor`. -/
def findField (decl : ClassDecl) (name descriptor : Value) : Option FieldDecl :=
  decl.fields.find? fun field =>
    (Value.str field.name).equals name
      && (descriptor.isNull || (Value.str field.descriptor).equals descriptor)

/-- The first method of `decl` that has this `name` and this `descriptor`. -/
def findMethod (decl : ClassDecl) (name descriptor : Value) : Option MethodDecl :=
  decl.methods.find? fun method =>
    (Value.str method.name).equals name && (Value.str method.descriptor).equals descriptor

end ClassDecl

namespace Artifact

/-- The class of a name. If several classes of `artifact` had the name, it would be the last one of
them. -/
def findClass? (artifact : Artifact) (name : String) : Option ClassDecl :=
  artifact.classes.reverse.find? (·.name == name)

/-- The class of a `name` that may be any value. Only texts name classes, and what cannot be looked
up at all (`Value.isIndexable`) is a fault. -/
def classNamed (artifact : Artifact) (name : Value) : Except Fault (Option ClassDecl) :=
  if name.isIndexable then .ok (name.text?.bind artifact.findClass?) else .error .wrongType

/-- The first field of the class `owner` that has this `name` and, if one is given, this
`descriptor`. -/
def findField (artifact : Artifact) (owner name descriptor : Value) :
    Except Fault (Option FieldDecl) :=
  (artifact.classNamed owner).map fun decl => decl.bind (·.findField name descriptor)

/-- The first method of the class `owner` that has this `name` and this `descriptor`. -/
def findMethod (artifact : Artifact) (owner name descriptor : Value) :
    Except Fault (Option MethodDecl) :=
  (artifact.classNamed owner).map fun decl => decl.bind (·.findMethod name descriptor)

/-- Searches the chain of superclasses that begins at a name for a member, where `declares` says
what a class has to offer. The classes `passed` so far are known, and the fuel bounds how many more
are looked at. -/
def searchChain {α : Type} (artifact : Artifact) (declares : ClassDecl → Option α) :
    Nat → List String → Value → Except Fault (Option α)
  | 0, _, _ => .ok none
  | fuel + 1, passed, owner =>
    if !owner.isTruthy then .ok none
    else
      match artifact.classNamed owner with
      | .error fault => .error fault
      | .ok none => .ok none
      | .ok (some decl) =>
        -- a circle of superclasses ends the search where it would repeat
        if passed.contains decl.name then .ok none
        else
          match declares decl with
          | some found => .ok (some found)
          | none => searchChain artifact declares fuel (decl.name :: passed) decl.superName

/-- What the nearest class on the chain of superclasses of `owner` that `declares` something has to
offer. No more classes can be passed than the artifact has. -/
def nearest {α : Type} (artifact : Artifact) (declares : ClassDecl → Option α)
    (owner : Value) : Except Fault (Option α) :=
  searchChain artifact declares (artifact.classes.length + 1) [] owner

/-- The field that `insn` reads or writes, looked for from the class on that the instruction names;
`none` for any other operation. -/
def fieldOf (artifact : Artifact) (insn : Instruction) : Except Fault (Option FieldDecl) :=
  if insn.isField then
    artifact.nearest (·.findField insn.field.name insn.field.descriptor) insn.field.owner
  else .ok none

/-- The method that `insn` calls, looked for from the class on that the instruction names; `none`
for any other operation. -/
def methodOf (artifact : Artifact) (insn : Instruction) : Except Fault (Option MethodDecl) :=
  if insn.isCall then
    artifact.nearest (·.findMethod insn.callee.name insn.callee.descriptor) insn.callee.owner
  else .ok none

end Artifact

end Reidentify

import Reidentify.Mapper.Standard

/-!
# Sets of mappers by name

A set of mappers is named by a module and a member of it that makes the set. The modules that can
be named are listed here with their members; a module lies in another one if its name continues
that one's name behind a dot.
-/

namespace Reidentify

/-- What a member of a module makes when it is called without arguments, which a set of mappers is
loaded by. -/
inductive SetMember where
  /-- A set of mappers, or the fault of making it. -/
  | mappers (result : Except Fault Registry)
  /-- Something else, of a kind with the name `kind`. -/
  | other (kind : String)
  /-- Nothing: the member cannot be called without arguments. -/
  | uncallable

/-- A module that a set of mappers can be named by, with its `members`. -/
structure SetModule where
  /-- The parts of the module's name. -/
  name : List String
  /-- Whether other modules can lie in the module. -/
  isPackage : Bool
  /-- The members of the module. -/
  members : List (String × SetMember)

namespace MapperSet

/-- The member of a module that makes a set without mappers, `Registry.empty`. -/
def emptySet : String × SetMember := ("MapperRegistry", .mappers (.ok Registry.empty))

/-- The member of a module that makes an error, which is no set of mappers (`SetMember.other`). -/
def failing : String × SetMember := ("HookmapError", .other "HookmapError")

/-- The module `name` in which other modules lie, with some `members`. -/
def package (name : List String) (members : List (String × SetMember)) : SetModule :=
  ⟨name, true, members⟩

/-- The modules `names` of `parent`, in which no other modules lie and which have no member that
makes anything. -/
def leaves (parent : List String) (names : List String) : List SetModule :=
  names.map fun name => ⟨parent ++ [name], false, []⟩

/-- The modules that can be named, packages first, with their members that matter here. -/
def modules : List SetModule :=
  [package ["hookmap"] [failing],
   package ["hookmap", "cli"] [],
   package ["hookmap", "graph"] [],
   package ["hookmap", "mapper"] [emptySet],
   package ["hookmap", "mappers"] [],
   package ["hookmap", "model"] [],
   package ["hookmap", "predicates"] [],
   package ["hookmap", "resolver"] [],
   package ["hookmap", "store"] [],
   package ["hookmap", "table"] [],
   ⟨["hookmap", "cli", "main"], false, [emptySet, failing]⟩,
   ⟨["hookmap", "engine"], false, [emptySet]⟩,
   ⟨["hookmap", "exceptions"], false, [failing]⟩,
   ⟨["hookmap", "graph", "dependency"], false, [emptySet]⟩,
   ⟨["hookmap", "mapper", "registry"], false, [emptySet]⟩,
   ⟨["hookmap", "mappers", "std"], false,
     [("build_registry", .mappers Standard.registry), emptySet,
      ("_self_links", .uncallable), ("_STRING_ARRAY", .uncallable)]⟩]
  ++ leaves ["hookmap"] ["config"]
  ++ leaves ["hookmap", "mapper"] ["models"]
  ++ leaves ["hookmap", "model"] ["descriptors", "loader", "models"]
  ++ leaves ["hookmap", "predicates"] ["base", "library"]
  ++ leaves ["hookmap", "resolver"]
    ["base", "factory", "identity", "models", "order", "scope"]
  ++ leaves ["hookmap", "store"] ["db", "models"]
  ++ leaves ["hookmap", "table"] ["hooks", "mapping", "report"]

/-- The module with this `name`, given by its parts. -/
def moduleNamed? (name : List String) : Option SetModule :=
  modules.find? (·.name == name)

/-- The text of `name`, its parts with dots between them. -/
def dotted (name : List String) : String := ".".intercalate name

/-- Looks for a module from its outermost part inwards, behind `parent`. The first part that is
missing is to blame. -/
def findModule (parent : Option SetModule) (before : List String) :
    List String → Except UnavailableReason (Option SetModule)
  | [] => .ok parent
  | part :: rest =>
    let name := before ++ [part]
    match parent.all (·.isPackage), moduleNamed? name with
    | true, some found => findModule (some found) name rest
    | true, none => .error (.noModule (dotted name))
    | false, _ => .error (.notAPackage (dotted name) (dotted before))

/-- The parts of `name` between dots, as `dotted` joins them. -/
def parts (name : String) : List String := name.splitOn "."

/-- What stands before and behind the first colon of a name, if there is one. -/
def splitColon : List Char → Option (List Char × List Char)
  | [] => none
  | ':' :: rest => some ([], rest)
  | c :: rest => (splitColon rest).map fun (before, behind) => (c :: before, behind)

/-- The set of mappers that `name` names. A module is not looked for relative to another one. -/
def load (name : String) : Except Fault Registry :=
  let malformed : Fault := .configuration (.setForm name)
  match splitColon name.toList with
  | none => .error malformed
  | some (front, behind) =>
    if front.isEmpty || behind.isEmpty then .error malformed
    else if front.head? = some '.' then .error .wrongType
    else
      let moduleName := String.ofList front
      let member := String.ofList behind
      match findModule none [] (parts moduleName) with
      | .error reason => .error (.configuration (.setUnavailable name reason))
      | .ok found =>
        match found.bind fun m => m.members.lookup member with
        | some (.mappers result) => result
        | some (.other kind) => .error (.configuration (.setResult name kind))
        | some .uncallable => .error .wrongType
        | none =>
          .error (.configuration (.setUnavailable name (.noMember moduleName member)))

end MapperSet

end Reidentify

import Reidentify.Mapper.Registry
import Reidentify.Query.Event
import Reidentify.Report.Summary

/-!
# Hooks

Hooks present the outcomes of a pass by class, for a generator of accessors. Every mapper that is
bound to a class has a hook, which lists the fields and methods that belong to it. A member
belongs to the class that its mapper is named after; if there is no hook of that name, it belongs
to the hook of the class that declares it, and without such a hook it is left out.
-/

namespace Reidentify

/-- A field of a hook, under the `label` that it is given by the name of its mapper. -/
structure HookField where
  /-- The name that the field is given, the last part of the mapper's name. -/
  label : String
  /-- The field. -/
  field : FieldDecl
  deriving DecidableEq

/-- A method of a hook, under the `label` that it is given, with the names of its parameters. -/
structure HookMethod where
  /-- The name that the method is given, the last part of the mapper's name. -/
  label : String
  /-- The method. -/
  method : MethodDecl
  /-- The names of its parameters, if the mapper names them. -/
  parameters : Option (List String)
  deriving DecidableEq

/-- A class with its members of interest, the `fields` and `methods` that a generator of accessors
reads. -/
structure Hook where
  /-- The name that the class is given, that of its mapper. -/
  label : String
  /-- The class. -/
  decl : ClassDecl
  /-- The fields that belong to it, in the order of their mappers. -/
  fields : List HookField
  /-- The methods that belong to it, in the order of their mappers. -/
  methods : List HookMethod
  deriving DecidableEq

/-- The parts of `name` before and behind its last dot: the owner and the member. Without a dot the
owner is empty. -/
def splitMemberName (name : String) : String × String :=
  let reversed := name.toList.reverse
  let member := reversed.takeWhile (· ≠ '.')
  let owner := reversed.dropWhile (· ≠ '.')
  (String.ofList (owner.drop 1).reverse, String.ofList member.reverse)

/-- A member and the label of the hook that it belongs to (`Hook.home?`). -/
inductive HookEntry where
  /-- A field. -/
  | field (hook : String) (entry : HookField)
  /-- A method. -/
  | method (hook : String) (entry : HookMethod)
  deriving DecidableEq

namespace Hook

/-- The hook of `mapper` if it is one for classes and bound. It has to be bound to a class. -/
def ofMapper (table : Table) (mapper : Mapper) : Except Fault (Option Hook) :=
  if mapper.target = .toClass ∧ table.isResolved mapper.name then
    match table.resolve mapper.name with
    | .error fault => .error fault
    | .ok (.ofClass decl) => .ok (some ⟨mapper.name, decl, [], []⟩)
    | .ok bound => .error (.misbound mapper.name bound)
  else .ok none

/-- The hooks of all mappers for classes (`ofMapper`), in order and still without members. -/
def ofMappers (table : Table) : List Mapper → Except Fault (List Hook)
  | [] => .ok []
  | mapper :: rest =>
    match ofMapper table mapper with
    | .error fault => .error fault
    | .ok hook => (ofMappers table rest).map (hook.toList ++ ·)

/-- The label of the hook that a member belongs to: the hook with the label `owner`, or else the
first one of the class named `declaring`. -/
def home? (hooks : List Hook) (owner declaring : String) : Option String :=
  if hooks.any (·.label == owner) then some owner
  else (hooks.find? (·.decl.name == declaring)).map (·.label)

/-- The name of the class that an entity is declared in. Classes have no such class. -/
def declaringClass : Entity → Except Fault String
  | .ofClass _ => .error .noAttribute
  | .ofField field => .ok field.owner
  | .ofMethod method => .ok method.owner
  | .ofInstruction insn => .ok insn.owner

/-- The entry of a bound member under `label` in the hook with the label `hook`. Classes and
instructions have none. -/
def entryOf? (hook label : String) (parameters : Option (List String)) :
    Entity → Option HookEntry
  | .ofField field => some (.field hook ⟨label, field⟩)
  | .ofMethod method => some (.method hook ⟨label, method, parameters⟩)
  | _ => none

/-- The entry of a `mapper` for members, if it is bound and has a hook to belong to (`home?`). -/
def memberEntry (table : Table) (hooks : List Hook) (mapper : Mapper) :
    Trail Event (Option HookEntry) :=
  if (mapper.target = .toField ∨ mapper.target = .toMethod) ∧ table.isResolved mapper.name then
    (Trail.lift (table.resolve mapper.name)).andThen fun entity =>
      (Trail.lift (declaringClass entity)).andThen fun declaring =>
        let (owner, member) := splitMemberName mapper.name
        match home? hooks owner declaring with
        | none =>
          (Trail.log .debug .hooks
            s!"No class hook for {mapper.name}; left out of export").andThen fun _ => .done none
        | some hook =>
          let label := if member.isEmpty then mapper.name else member
          .done (entryOf? hook label mapper.parameters entity)
  else .done none

/-- The hook `hook` with its members: those of `entries` that have its label, in order. -/
def withEntries (hook : Hook) (entries : List HookEntry) : Hook :=
  { hook with
    fields := entries.filterMap fun
      | .field label entry => if label = hook.label then some entry else none
      | .method .. => none
    methods := entries.filterMap fun
      | .method label entry => if label = hook.label then some entry else none
      | .field .. => none }

/-- The hooks of `table`, in the order in which the mappers of `registry` were registered. -/
def build (table : Table) (registry : Registry) : Trail Event (List Hook) :=
  (Trail.lift (ofMappers table registry.mappers)).andThen fun hooks =>
    (Trail.forEach registry.mappers (memberEntry table hooks)).andThen fun entries =>
      let count := hooks.length
      (Trail.log .debug .hooks s!"Built {count} class hooks").andThen fun _ =>
        .done (hooks.map (·.withEntries (entries.filterMap id)))

end Hook

/-- The document of a field of a hook: its label, then what `FieldDecl` knows of it. -/
def HookField.toValue (entry : HookField) : Value :=
  .obj [("field", .str entry.label), ("owner", .str entry.field.owner),
    ("name", .str entry.field.name), ("descriptor", .str entry.field.descriptor),
    ("access", .int entry.field.access)]

/-- The document of a method of a hook: its label, what `MethodDecl` knows of it without its body,
and its parameters. -/
def HookMethod.toValue (entry : HookMethod) : Value :=
  .obj [("method", .str entry.label), ("owner", .str entry.method.owner),
    ("name", .str entry.method.name), ("descriptor", .str entry.method.descriptor),
    ("access", .int entry.method.access),
    ("parameters",
      match entry.parameters with
      | some names => .list (names.map .str)
      | none => .null)]

/-- The document of `hook`: its label, its class without the other members, and the members that
belong to it. -/
def Hook.toValue (hook : Hook) : Value :=
  .obj [("class", .str hook.label), ("name", .str hook.decl.name),
    ("super", hook.decl.superName), ("interfaces", .list (hook.decl.interfaces.map .str)),
    ("access", .int hook.decl.access), ("fields", .list (hook.fields.map HookField.toValue)),
    ("methods", .list (hook.methods.map HookMethod.toValue))]

/-- The list of `hooks` as JSON text in the layout of a report (`Report.layout`). -/
def hooksJson (hooks : List Hook) (indent : Option Nat) : String :=
  Json.written (Report.layout indent) (.list (hooks.map Hook.toValue))

end Reidentify
